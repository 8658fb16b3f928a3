import NodeStack.Api.Response
import NodeStack.Proofs.Json.OneLine
import NodeStack.Proofs.Setup.Entry
import NodeStack.Proofs.Text.Segments

/-!
# `NodeStack.Proofs.Api.SetupStream`: the lines of a stream of setup entries

A stream sends one line of JSON for each entry, up to the first that says that the setup is done.

* `Tells`: the text of a body tells some entries. `tells_lines`: the lines of entries do, whatever
  texts are in the entries.
* `upToDone`: what there is to tell of some entries. `untilDone_eq`: what a stream makes of them.
* `next`: the next entry that can be sent.
-/

set_option autoImplicit false

namespace NodeStack.Api

open Setup (Entry Journal News Reader readerLimit historyLimit lastOf)
open Text (Segments)

/-! ### Lines and entries -/

/-- The text of a body tells these entries: it is made up of lines, each ended by a line feed, and
each of them is the JSON text of an entry. -/
def Tells (body : String) (es : List Entry) : Prop :=
  ∃ lines, Segments body.toList lines [] ∧
    lines.map (fun line => (Json.ofChars? line).bind Entry.ofJson?) = es.map some

namespace SetupStream

/-- The JSON text of an entry. -/
def record (e : Entry) : List Char :=
  '\x7b' :: (Json.writeMembers
    [("status", .str e.status), ("details", Entry.detailsJson e.details)] ++ ['\x7d'])

theorem line_eq (e : Entry) : (line e).toList = record e ++ ['\n'] := by
  rw [line, String.toList_append, Json.renderRecord, String.toList_ofList, record]
  cases e.details <;> rfl

section
variable {e : Entry}

theorem canonical_texts {d : Dict String} (h : d.Ordered) :
    Json.Canonical (.obj (d.map fun (k, v) => (k, .str v))) := by
  refine .obj ?_ fun m hm => ?_
  · rw [List.map_map]
    exact h
  · obtain ⟨entry, -, rfl⟩ := List.mem_map.mp hm
    exact .str _

theorem canonical_details (h : e.Ordered) : Json.Canonical (Entry.detailsJson e.details) := by
  cases hd : e.details with
  | none => exact .null
  | some d =>
    rw [Entry.detailsJson, Entry.ofMembers_texts (h d hd)]
    exact canonical_texts (h d hd)

theorem membersDepth_texts (d : Dict String) :
    Json.membersDepth (d.map fun (k, v) => (k, .str v)) = 0 := by
  induction d with
  | nil => rfl
  | cons entry rest ih =>
    simp only [List.map_cons, Json.membersDepth, Json.depth, ih, Nat.max_self]

theorem depth_details (h : e.Ordered) : (Entry.detailsJson e.details).depth ≤ 1 := by
  cases hd : e.details with
  | none => exact Nat.zero_le 1
  | some d =>
    have hdepth : (Entry.detailsJson (some d)).depth = 0 + 1 := by
      rw [Entry.detailsJson, Entry.ofMembers_texts (h d hd), Json.depth, membersDepth_texts]
    exact Nat.le_of_eq hdepth

theorem canonical_record (h : e.Ordered) :
    ∀ m ∈ [("status", Json.str e.status), ("details", Entry.detailsJson e.details)],
      Json.Canonical m.2 := by
  simp only [List.forall_mem_cons, List.not_mem_nil, false_imp_iff, implies_true, and_true]
  exact ⟨.str _, canonical_details h⟩

/-- The text of an entry is the JSON text of its value. -/
theorem ofChars?_record (h : e.Ordered) : Json.ofChars? (record e) = some e.json := by
  obtain ⟨ms, hms, hhas⟩ := Json.Tree.ofChars?_record (canonical_record h)
  have hdepth := depth_details h
  rw [Json.ofChars?, record, hms, Option.bind_some, Json.Tree.json?, Json.Tree.nestingLimit,
    Json.Tree.jsonWithin?_obj hhas 127, if_pos]
  · rw [Entry.json]
    cases e.details <;> rfl
  · simp only [Json.membersDepth, Json.depth]
    omega

theorem newline_not_mem_record (h : e.Ordered) : '\n' ∉ record e :=
  Json.newline_not_mem_record (canonical_record h)

/-- The lines of some entries tell these entries. -/
theorem tells_lines {es : List Entry} (h : ∀ e ∈ es, e.Ordered) {body : String}
    (hbody : body.toList = es.flatMap fun e => (line e).toList) : Tells body es := by
  refine ⟨es.map record, ?_, ?_⟩
  · have hlines : body.toList = (es.map record).flatMap (· ++ ['\n']) := by
      rw [hbody, List.flatMap_map]
      simp only [line_eq]
    rw [hlines]
    refine Text.segments_lines fun line hline => ?_
    obtain ⟨e, he, rfl⟩ := List.mem_map.mp hline
    exact newline_not_mem_record (h e he)
  · rw [List.map_map]
    refine List.map_congr_left fun e he => ?_
    show (Json.ofChars? (record e)).bind Entry.ofJson? = some e
    rw [ofChars?_record (h e he), Option.bind_some, Entry.ofJson?_json (h e he)]

end

/-! ### Up to the end of the setup -/

/-- The entries up to the first that says that the setup is done; all of them if none does. -/
def upToDone (es : List Entry) : List Entry :=
  es.takeWhile (!·.isDone) ++ (es.find? (·.isDone)).toList

theorem upToDone_cons (e : Entry) (es : List Entry) :
    upToDone (e :: es) = if e.isDone then [e] else e :: upToDone es := by
  cases h : e.isDone <;> simp [upToDone, h]

theorem untilDone_eq (es : List Entry) : untilDone es = (upToDone es, es.any (·.isDone)) := by
  induction es with
  | nil => rfl
  | cons e es ih =>
    rw [untilDone, upToDone_cons, ih, List.any_cons]
    cases e.isDone <;> rfl

theorem upToDone_prefix (es : List Entry) : upToDone es <+: es := by
  induction es with
  | nil => exact List.prefix_rfl
  | cons e es ih =>
    rw [upToDone_cons]
    split
    · exact ⟨es, rfl⟩
    · exact List.cons_prefix_cons.mpr ⟨rfl, ih⟩

/-- Nothing is told of what comes behind the end. -/
theorem upToDone_append_of_any {es : List Entry} (h : es.any (·.isDone) = true)
    (late : List Entry) : upToDone (es ++ late) = upToDone es := by
  induction es with
  | nil => cases h
  | cons e es ih =>
    rw [List.cons_append, upToDone_cons, upToDone_cons]
    split
    · rfl
    · next he =>
      rw [List.any_cons, Bool.or_eq_true] at h
      rw [ih (h.resolve_left he)]

/-- What comes first is told if it does not say the end. -/
theorem upToDone_append_of_not_any {es : List Entry} (h : es.any (·.isDone) = false)
    (late : List Entry) : upToDone (es ++ late) = es ++ upToDone late := by
  induction es with
  | nil => rfl
  | cons e es ih =>
    rw [List.any_cons, Bool.or_eq_false_iff] at h
    rw [List.cons_append, upToDone_cons, h.1, ih h.2]
    rfl

theorem upToDone_of_not_any {es : List Entry} (h : es.any (·.isDone) = false) :
    upToDone es = es := by
  have happend := upToDone_append_of_not_any h []
  rwa [List.append_nil, show upToDone [] = [] from rfl, List.append_nil] at happend

theorem any_upToDone (es : List Entry) :
    (upToDone es).any (·.isDone) = es.any (·.isDone) := by
  induction es with
  | nil => rfl
  | cons e es ih =>
    rw [upToDone_cons, List.any_cons]
    split
    · next he => rw [he, Bool.true_or, List.any_cons, he, Bool.true_or]
    · rw [List.any_cons, ih]

theorem upToDone_upToDone (es : List Entry) : upToDone (upToDone es) = upToDone es := by
  cases hdone : es.any (·.isDone) with
  | false => rw [upToDone_of_not_any hdone, upToDone_of_not_any hdone]
  | true =>
    obtain ⟨rest, hrest⟩ := upToDone_prefix es
    have hfirst : (upToDone es).any (·.isDone) = true := (any_upToDone es).trans hdone
    rw [← upToDone_append_of_any hfirst rest, hrest]

/-! ### One entry after the other -/

/-- The next entry that can be sent, if there is one, those from before the request first. Missed
entries are passed over. -/
def next (j : Journal) (s : SetupStream) : Option Entry × SetupStream :=
  if s.ended then (none, s)
  else
    match s.past with
    | e :: past => (some e, ⟨past, s.reader, e.isDone⟩)
    | [] =>
      match j.read s.reader with
      | none => (none, s)
      | some (.entry e, r) => (some e, ⟨[], r, e.isDone⟩)
      | some (.missed _, r) =>
        match j.read r with
        | some (.entry e, r) => (some e, ⟨[], r, e.isDone⟩)
        | _ => (none, ⟨[], r, false⟩)

end SetupStream

end NodeStack.Api
