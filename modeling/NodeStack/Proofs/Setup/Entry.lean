import NodeStack.Proofs.Json.Written
import NodeStack.Setup.Journal

/-!
# `NodeStack.Proofs.Setup.Entry`: an entry of the setup and its JSON value

* `Dict.ordered_ofPairs`: a dictionary made of pairs has its names in order.
* `Entry.Ordered`: the details of the entry, if it has any, have their names in order.
  `ordered_of_ofLine?`: so it is with every entry that a line announces.
* `Entry.ofJson?`: the entry that a JSON value tells. `ofJson?_json`: the value of an entry tells
  the entry, whatever texts are in it.
-/

set_option autoImplicit false

namespace NodeStack

/-! ### Dictionaries in order -/

namespace Dict

variable {α : Type}

/-- The names stand in order, each name once. -/
def Ordered (d : Dict α) : Prop := (d.map (·.1)).Pairwise (· < ·)

theorem mem_names_put {name n : String} {value : α} {d : Dict α}
    (h : n ∈ (put name value d).map (·.1)) : n = name ∨ n ∈ d.map (·.1) := by
  induction d with
  | nil => exact .inl (List.mem_singleton.mp h)
  | cons entry rest ih =>
    rw [put] at h
    split at h
    · next he =>
      rcases List.mem_cons.mp h with h | h
      · exact .inl h
      · exact .inr (List.mem_cons_of_mem _ h)
    · split at h
      · exact List.mem_cons.mp h
      · rcases List.mem_cons.mp h with rfl | h
        · exact .inr List.mem_cons_self
        · exact (ih h).imp id (List.mem_cons_of_mem _)

theorem ordered_put {d : Dict α} (h : d.Ordered) (name : String) (value : α) :
    (put name value d).Ordered := by
  induction d with
  | nil => exact List.pairwise_singleton _ _
  | cons entry rest ih =>
    obtain ⟨n, v⟩ := entry
    obtain ⟨hn, hrest⟩ := List.pairwise_cons.mp h
    rw [put]
    split
    · next he => exact he ▸ h
    · next hne =>
      split
      · next hlt =>
        -- the new name stands before all the others
        refine List.pairwise_cons.mpr ⟨fun m hm => ?_, h⟩
        rcases List.mem_cons.mp hm with rfl | hm
        · exact hlt
        · exact String.lt_trans hlt (hn m hm)
      · next hge =>
        refine List.pairwise_cons.mpr ⟨fun m hm => ?_, ih hrest⟩
        rcases mem_names_put hm with rfl | hm
        · exact Std.lt_of_le_of_ne hge (Ne.symm hne)
        · exact hn m hm

theorem ordered_foldl_put (pairs : List (String × α)) {d : Dict α} (h : d.Ordered) :
    (pairs.foldl (fun done entry => put entry.1 entry.2 done) d).Ordered := by
  induction pairs generalizing d with
  | nil => exact h
  | cons entry rest ih => exact ih (ordered_put h entry.1 entry.2)

theorem ordered_ofPairs (pairs : List (String × α)) : (ofPairs pairs).Ordered :=
  ordered_foldl_put pairs List.Pairwise.nil

end Dict

namespace Setup.Entry

/-! ### Entries of lines -/

/-- The details of an entry, if it has any, have their names in order. -/
def Ordered (e : Entry) : Prop := ∀ d ∈ e.details, Dict.Ordered d

theorem ordered_plain (status : String) : (plain status).Ordered := by
  rintro d ⟨⟩

/-- So it is with every entry that a line announces. -/
theorem ordered_of_ofLine? {text : String} {progress : Progress} {e : Entry}
    (h : ofLine? text = some (progress, e)) : e.Ordered := by
  unfold ofLine? at h
  split at h
  · cases h
    rintro d ⟨⟩
    exact Dict.ordered_ofPairs _
  · split at h
    · cases h
      exact ordered_plain _
    · obtain ⟨phase, -, he⟩ := Option.map_eq_some_iff.mp h
      cases he
      exact ordered_plain _

/-! ### Entries and JSON values -/

/-- A text under a name. -/
def textMember? (m : String × Json) : Option (String × String) := m.2.text?.map (m.1, ·)

/-- The details that a JSON value tells: texts under names, or none. -/
def details? : Json → Option (Option (Dict String))
  | .null => some none
  | .obj members => (members.mapM textMember?).map some
  | _ => none

/-- The entry that a JSON value tells. -/
def ofJson? (v : Json) : Option Entry :=
  (v.get? "status").text?.bind fun status =>
    (details? (v.get? "details")).map fun details => ⟨status, details⟩

/-- The details of an entry as a JSON value. -/
def detailsJson : Option (Dict String) → Json
  | none => .null
  | some d => Json.ofMembers (d.map fun (k, v) => (k, .str v))

theorem texts_mapM (d : Dict String) :
    (d.map fun (k, v) => (k, Json.str v)).mapM textMember? = some d := by
  induction d with
  | nil => rfl
  | cons entry rest ih =>
    rw [List.map_cons, List.mapM_cons, ih]
    rfl

theorem ofMembers_texts {d : Dict String} (h : d.Ordered) :
    Json.ofMembers (d.map fun (k, v) => (k, .str v)) = .obj (d.map fun (k, v) => (k, .str v)) := by
  rw [Json.ofMembers, Dict.ofPairs_eq_self]
  rw [List.map_map]
  exact h

theorem details?_detailsJson {e : Entry} (h : e.Ordered) :
    details? (detailsJson e.details) = some e.details := by
  cases hd : e.details with
  | none => rfl
  | some d => rw [detailsJson, ofMembers_texts (h d hd), details?, texts_mapM, Option.map_some]

theorem json_eq (e : Entry) :
    e.json = .obj [("details", detailsJson e.details), ("status", .str e.status)] := by
  have hbefore : "details" < "status" := by decide
  have hne : ¬("details" = "status") := by decide
  show Json.obj (Dict.ofPairs _) = _
  simp only [Dict.ofPairs, List.foldl_cons, List.foldl_nil, Dict.put, if_neg hne, if_pos hbefore]
  cases e.details <;> rfl

/-- The value of an entry tells the entry, whatever texts are in it. -/
theorem ofJson?_json {e : Entry} (h : e.Ordered) : ofJson? e.json = some e := by
  rw [json_eq]
  show (details? (detailsJson e.details)).map _ = _
  rw [details?_detailsJson h]
  rfl

end Setup.Entry

end NodeStack
