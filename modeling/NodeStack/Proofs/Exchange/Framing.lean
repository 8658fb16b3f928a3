import NodeStack.Proofs.Exchange.Reading
import NodeStack.Proofs.Json.Written

/-!
# `NodeStack.Proofs.Exchange.Framing`: a frame says who wrote it, and what

A frame carries no mark of its kind. A request is told by its `method`, which stands among its own
members and not within a value, so nothing that a value holds can make a response look like one.

* `Request.Sendable`, `Response.Sendable`: ids of 64 bits, and values whose text is exact.
* `read_render`: the text of either is read as the frame it was, unless a value in it is nested
  deeper than a reader goes; then it is not read at all.
* `Response.Written`, `read_written`: the other side may write the members of a response in any
  order, put others among them, and leave out those that are `null`.
-/

set_option autoImplicit false

namespace NodeStack.Exchange

open Json (Canonical Tree valuesOf)

/-- The text of the request is exact. -/
structure Request.Sendable (r : Request) : Prop where
  id : r.id < 2 ^ 64
  params : Canonical r.params

/-- The text of the response is exact. -/
structure Response.Sendable (p : Response) : Prop where
  id : p.id < 2 ^ 64
  result : Canonical p.result
  error : Canonical p.error

/-- How deep the frame of a request is nested. -/
def Request.depth (r : Request) : Nat := r.params.depth + 1

/-- How deep the frame of a response is nested. -/
def Response.depth (p : Response) : Nat := max p.result.depth p.error.depth + 1

theorem canonical_ofNat {id : Nat} (h : id < 2 ^ 64) : Canonical (Json.ofNat id) :=
  .num (by constructor <;> omega)

/-- A value that is nested less deep than a reader goes is read. -/
theorem json?_of_has {t : Tree} {v : Json} (h : t.Has v) (hv : v.depth < Tree.nestingLimit) :
    t.json? = some v := by
  rw [Tree.json?, Tree.nestingLimit, h 127, if_pos (Nat.le_of_lt_succ hv)]

theorem idOf?_of_has {t : Tree} {id : Nat} (h : t.Has (Json.ofNat id)) (hid : id < 2 ^ 64) :
    idOf? t = some id := by
  rw [idOf?, json?_of_has h (show 0 < Tree.nestingLimit by decide)]
  simp only [Option.bind_some, Json.below?, Json.natural?, Json.ofNat, Int.natCast_nonneg, if_true,
    Int.toNat_natCast, Option.filter_some, decide_eq_true hid]

/-- A record of three fields is read as an object with them, if none is nested too deep. -/
theorem ofChars?_renderRecord {a b c : String} {x y z : Json} (hx : Canonical x) (hy : Canonical y)
    (hz : Canonical z) :
    ∃ tx ty tz, Tree.ofChars? (Json.renderRecord [(a, x), (b, y), (c, z)]).toList =
        some (.obj [(some a, tx), (some b, ty), (some c, tz)]) ∧
      tx.Has x ∧ ty.Has y ∧ tz.Has z ∧
      ((Tree.obj [(some a, tx), (some b, ty), (some c, tz)]).json?.isSome ↔
        max x.depth (max y.depth z.depth) + 1 < Tree.nestingLimit) := by
  have hall : ∀ m ∈ [(a, x), (b, y), (c, z)], Canonical m.2 := by
    simp only [List.forall_mem_cons, List.not_mem_nil, false_imp_iff, implies_true, and_true]
    exact ⟨hx, hy, hz⟩
  obtain ⟨ms, hms, hhas⟩ := Tree.ofChars?_record hall
  rw [Json.renderRecord, String.toList_ofList, hms]
  match ms, hhas with
  | [(_, tx), (_, ty), (_, tz)],
    .cons ⟨rfl, hx⟩ (.cons ⟨rfl, hy⟩ (.cons ⟨rfl, hz⟩ .nil)) =>
    refine ⟨tx, ty, tz, rfl, hx, hy, hz, ?_⟩
    rw [Tree.json?, Tree.nestingLimit,
      Tree.jsonWithin?_obj (.cons ⟨rfl, hx⟩ (.cons ⟨rfl, hy⟩ (.cons ⟨rfl, hz⟩ .nil))) 127]
    simp only [Json.membersDepth, Nat.max_zero]
    by_cases hle : max x.depth (max y.depth z.depth) + 1 ≤ 127
    · simp [hle, Nat.lt_succ_of_le hle]
    · simp only [hle, if_false, Option.isSome_none, Bool.false_eq_true, false_iff]
      omega

theorem ofText?_of_unreadable {t : Tree} {text : String} (ht : Tree.ofChars? text.toList = some t)
    (h : ¬t.json?.isSome) : Frame.ofText? text = none := by
  rw [Frame.ofText?, ht, Option.bind_eq_bind, Option.bind_some, Option.not_isSome_iff_eq_none.mp h]
  rfl

theorem read_request {r : Request} (h : r.Sendable) :
    Frame.ofText? r.render =
      if r.depth < Tree.nestingLimit then some (.request r) else none := by
  obtain ⟨id, method, params, ht, hid, hmethod, hparams, hread⟩ :=
    ofChars?_renderRecord (a := "id") (b := "method") (c := "params") (canonical_ofNat h.id)
      (.str r.method) h.params
  have hdepth : max (Json.ofNat r.id).depth (max (Json.str r.method).depth r.params.depth) + 1 =
      r.depth := by
    simp [Json.ofNat, Json.depth, Request.depth]
  rw [hdepth] at hread
  split
  · next hlt =>
    refine (ofText?_request_iff ht).mpr ⟨hread.mpr hlt, ⟨id, rfl, idOf?_of_has hid h.id⟩,
      ⟨method, rfl, json?_of_has hmethod (show 0 < Tree.nestingLimit by decide)⟩,
      .inr ⟨params, rfl, json?_of_has hparams ?_⟩⟩
    exact Nat.lt_of_succ_lt hlt
  · next hge => exact ofText?_of_unreadable ht fun hsome => hge (hread.mp hsome)

theorem read_response {p : Response} (h : p.Sendable) :
    Frame.ofText? p.render =
      if p.depth < Tree.nestingLimit then some (.response p) else none := by
  obtain ⟨id, result, error, ht, hid, hresult, herror, hread⟩ :=
    ofChars?_renderRecord (a := "id") (b := "result") (c := "error") (canonical_ofNat h.id)
      h.result h.error
  have hdepth : max (Json.ofNat p.id).depth (max p.result.depth p.error.depth) + 1 = p.depth := by
    simp [Json.ofNat, Json.depth, Response.depth]
  rw [hdepth] at hread
  split
  · next hlt =>
    have hle : max p.result.depth p.error.depth < Tree.nestingLimit := Nat.lt_of_succ_lt hlt
    refine (ofText?_response_iff ht).mpr ⟨fun r hr => ?_, hread.mpr hlt,
      ⟨id, rfl, idOf?_of_has hid h.id⟩,
      .inr ⟨result, rfl, json?_of_has hresult (Nat.lt_of_le_of_lt (Nat.le_max_left _ _) hle)⟩,
      .inr ⟨error, rfl, json?_of_has herror (Nat.lt_of_le_of_lt (Nat.le_max_right _ _) hle)⟩⟩
    -- a response has no member `method`, whatever its values hold
    obtain ⟨t, hmethod, -⟩ := hr.method
    cases hmethod
  · next hge => exact ofText?_of_unreadable ht fun hsome => hge (hread.mp hsome)

/-- What is sent is what is read. The text of a request is read as that request and the text of a
response as that response, exactly as long as the frame is not nested deeper than a reader goes. A
frame that is cannot be read as anything. -/
theorem read_render :
    (∀ r : Request, r.Sendable → Frame.ofText? r.render =
      if r.depth < Tree.nestingLimit then some (.request r) else none) ∧
    (∀ p : Response, p.Sendable → Frame.ofText? p.render =
      if p.depth < Tree.nestingLimit then some (.response p) else none) :=
  ⟨fun _ => read_request, fun _ => read_response⟩

/-- A request whose texts need escapes, with the largest id and the least number there are, and a
response whose result looks like a request. -/
theorem read_render_lookalike :
    let text := "\"\\\n\x01😀"
    let r : Request := ⟨2 ^ 64 - 1, text, .arr [.str text, .num (.whole (-(2 ^ 63)))]⟩
    let p : Response :=
      ⟨7, .obj [("id", .num (.whole 7)), ("method", .str text), ("params", .arr [])], .null⟩
    (r.Sendable ∧ r.depth < Tree.nestingLimit) ∧ (p.Sendable ∧ p.depth < Tree.nestingLimit) ∧
      Frame.ofText? r.render = some (.request r) ∧ Frame.ofText? p.render = some (.response p) := by
  intro text r p
  have hr : r.Sendable := by
    refine ⟨by decide, .arr ?_⟩
    simp only [List.forall_mem_cons, List.not_mem_nil, false_imp_iff, implies_true, and_true]
    exact ⟨.str text, .num ⟨by decide, by decide⟩⟩
  have hp : p.Sendable := by
    refine ⟨by decide, .obj (by decide) ?_, .null⟩
    simp only [List.forall_mem_cons, List.not_mem_nil, false_imp_iff, implies_true, and_true]
    exact ⟨.num ⟨by decide, by decide⟩, .str text, .arr nofun⟩
  have hrdepth : r.depth < Tree.nestingLimit := by decide
  have hpdepth : p.depth < Tree.nestingLimit := by decide
  exact ⟨⟨hr, hrdepth⟩, ⟨hp, hpdepth⟩, (read_render.1 r hr).trans (if_pos hrdepth),
    (read_render.2 p hp).trans (if_pos hpdepth)⟩

/-! ### Responses as others write them -/

/-- Under this name the members hold the value: it is given once, or it is `null` and not given. -/
def Gives (members : List (String × Json)) (name : String) (v : Json) : Prop :=
  (valuesOf name members = [] ∧ v = .null) ∨ valuesOf name members = [v]

/-- The members, in any order and among others, make up the response. -/
structure Response.Written (members : List (String × Json)) (p : Response) : Prop where
  exact : ∀ m ∈ members, Canonical m.2
  depth : ∀ m ∈ members, m.2.depth + 1 < Tree.nestingLimit
  id : p.id < 2 ^ 64 ∧ valuesOf "id" members = [Json.ofNat p.id]
  result : Gives members "result" p.result
  error : Gives members "error" p.error
  method : valuesOf "method" members = []

section
variable {ms : List (Option String × Tree)} {members : List (String × Json)}

/-- What is read under a name has what was written under it. -/
theorem valuesOf_of_has (h : List.Forall₂ Tree.HasMember ms members) (name : String) :
    List.Forall₂ Tree.Has (valuesOf (some name) ms) (valuesOf name members) := by
  induction h with
  | nil => exact .nil
  | @cons m n ms members hm _ ih =>
    obtain ⟨hname, hhas⟩ := hm
    rw [Json.valuesOf_cons, Json.valuesOf_cons, hname]
    by_cases h : n.1 = name
    · rw [if_pos (congrArg some h), if_pos h]
      exact .cons hhas ih
    · rw [if_neg fun he => h (Option.some.inj he), if_neg h]
      exact ih

theorem membersDepth_le {levels : Nat} (h : ∀ m ∈ members, m.2.depth ≤ levels) :
    Json.membersDepth members ≤ levels := by
  induction members with
  | nil => exact Nat.zero_le _
  | cons m members ih =>
    rw [List.forall_mem_cons] at h
    exact Nat.max_le.mpr ⟨h.1, ih h.2⟩

theorem holds_of_gives (h : List.Forall₂ Tree.HasMember ms members)
    (hdepth : ∀ m ∈ members, m.2.depth + 1 < Tree.nestingLimit) {name : String} {v : Json}
    (hv : Gives members name v) : Holds (valuesOf (some name) ms) v := by
  have hvalues := valuesOf_of_has h name
  rcases hv with ⟨hnone, hnull⟩ | hone
  · rw [hnone, List.forall₂_nil_right_iff] at hvalues
    exact .inl ⟨hvalues, hnull⟩
  · have hmem := Json.mem_of_mem_valuesOf (show v ∈ valuesOf name members by simp [hone])
    rw [hone, List.forall₂_cons_right_iff] at hvalues
    obtain ⟨t, ts, ht, hnil, hvalues⟩ := hvalues
    rw [List.forall₂_nil_right_iff.mp hnil] at hvalues
    exact .inr ⟨t, hvalues, json?_of_has ht (Nat.lt_of_succ_lt (hdepth _ hmem))⟩

/-- The text of members that make up a response is read as that response. -/
theorem read_written {p : Response} (h : p.Written members) :
    Frame.ofText? (Json.renderRecord members) = some (.response p) := by
  obtain ⟨ms, hms, hhas⟩ := Tree.ofChars?_record h.exact
  have ht : Tree.ofChars? (Json.renderRecord members).toList = some (.obj ms) := by
    rw [Json.renderRecord, String.toList_ofList, hms]
  have hread : (Tree.obj ms).json?.isSome := by
    have hle : Json.membersDepth members + 1 ≤ 127 := by
      refine Nat.succ_le_succ (membersDepth_le fun m hm => ?_)
      exact Nat.le_of_lt_succ (Nat.lt_of_succ_lt_succ (h.depth m hm))
    rw [Tree.json?, Tree.nestingLimit, Tree.jsonWithin?_obj hhas 127, if_pos hle]
    rfl
  have hid : Numbered ms p.id := by
    have hvalues := valuesOf_of_has hhas "id"
    rw [h.id.2, List.forall₂_cons_right_iff] at hvalues
    obtain ⟨t, ts, ht, hnil, hvalues⟩ := hvalues
    rw [List.forall₂_nil_right_iff.mp hnil] at hvalues
    exact ⟨t, hvalues, idOf?_of_has ht h.id.1⟩
  have hmethod : valuesOf (some "method") ms = [] := by
    have hvalues := valuesOf_of_has hhas "method"
    rwa [h.method, List.forall₂_nil_right_iff] at hvalues
  refine (ofText?_response_iff ht).mpr ⟨fun r hr => ?_, hread, hid,
    holds_of_gives hhas h.depth h.result, holds_of_gives hhas h.depth h.error⟩
  obtain ⟨t, hgiven, -⟩ := hr.method
  rw [hmethod] at hgiven
  cases hgiven

end

end NodeStack.Exchange
