import NodeStack.Proofs.Engine.Census
import NodeStack.Stack.Tracking

/-!
# `NodeStack.Proofs.Stack.Duty`: the procedures that follow the containers, one question at a time

A procedure that follows the containers asks at most three questions. A `Duty` says which of them it
has come to, so that procedures under way can be told apart.

* `Duty.plan`: the procedure that is left of a duty. `handle_eq`, `syncs_eq`: the duties that an
  event and a fresh start bring about.
* `Answered`: an answer to a question, as the engine and the latest records have it.
* `Proceeds`: how a duty goes on. `proceeds_of_answered`: it goes on so whatever the answer.
* `latest?_takeOver`, `holder?_eq_some`, `byContainer?_eq_some`: whose container a record is about.
-/

set_option autoImplicit false

namespace NodeStack.Stack

open Engine (Census Event Record Watch)

/-! ### Services and their containers -/

namespace Registry

/-- The names of the containers of the services. -/
def containers (r : Registry) : List String := r.services.map (·.handle.container)

theorem lastIdx?_eq_some {α : Type} {p : α → Bool} {xs : List α} {i : Nat}
    (h : lastIdx? p xs = some i) : ∃ x, xs[i]? = some x ∧ p x = true := by
  induction xs generalizing i with
  | nil => cases h
  | cons x rest ih =>
    rw [lastIdx?] at h
    split at h
    · next j hj =>
      cases h
      exact ih hj
    · split at h
      · next hx =>
        cases h
        exact ⟨x, rfl, hx⟩
      · cases h

theorem lastIdx?_eq_none {α : Type} {p : α → Bool} {xs : List α} (h : lastIdx? p xs = none) :
    ∀ x ∈ xs, p x = false := by
  induction xs with
  | nil => intro x hx; cases hx
  | cons x rest ih =>
    rw [lastIdx?] at h
    split at h
    · cases h
    · next hrest =>
      split at h
      · cases h
      · next hx =>
        intro y hy
        rcases List.mem_cons.mp hy with rfl | hy
        · exact Bool.eq_false_iff.mpr hx
        · exact ih hrest y hy

section
variable {r : Registry} {i j : Nat} {s t : Service} {container : String}

theorem byContainer?_eq_some (h : r.byContainer? container = some i) :
    ∃ s, r.get? i = some s ∧ s.handle.container = container := by
  obtain ⟨s, hs, hc⟩ := lastIdx?_eq_some h
  exact ⟨s, hs, eq_of_beq hc⟩

theorem byContainer?_eq_none (h : r.byContainer? container = none) (hs : r.get? i = some s) :
    s.handle.container ≠ container := by
  intro hc
  exact (beq_eq_false_iff_ne.mp (lastIdx?_eq_none h s (List.mem_of_getElem? hs))) hc

theorem lt_size (h : r.get? i = some s) : i < r.size := (List.getElem?_eq_some_iff.mp h).1

theorem mem_containers (h : r.get? i = some s) : s.handle.container ∈ r.containers :=
  List.mem_map_of_mem (List.mem_of_getElem? h)

/-- Services with different containers are told apart by them. -/
theorem index_unique (hr : r.containers.Nodup) (hi : r.get? i = some s) (hj : r.get? j = some t)
    (h : s.handle.container = t.handle.container) : i = j := by
  have hget : ∀ {k : Nat} {u : Service}, r.get? k = some u →
      r.containers[k]? = some u.handle.container := by
    intro k u hu
    show (r.services.map _)[k]? = _
    rw [List.getElem?_map, show r.services[k]? = some u from hu]
    rfl
  have hlen : i < r.containers.length := by
    rw [containers, List.length_map]
    exact lt_size hi
  exact (List.getElem?_inj hlen hr).mp (by rw [hget hi, hget hj, h])

end

end Registry

/-! ### The latest records -/

section
variable {r : Registry} {watches : Table Watch} {i j : Nat} {id : String}

theorem latest?_takeOver_self (h : (watches.get? i).isSome) (record : Option Record) :
    latest? (takeOver i record watches) i = record := by
  obtain ⟨w, hw⟩ := Option.isSome_iff_exists.mp h
  unfold latest? takeOver
  rw [hw]
  dsimp only
  rw [Table.get?_set_self]
  cases record <;> rfl

theorem latest?_takeOver_other (h : i ≠ j) (record : Option Record) :
    latest? (takeOver j record watches) i = latest? watches i := by
  unfold latest? takeOver
  split
  · rfl
  · rw [Table.get?_set_other _ _ h]

theorem isSome_takeOver (h : (watches.get? i).isSome) (record : Option Record) :
    ((takeOver j record watches).get? i).isSome := by
  unfold takeOver
  split
  · exact h
  · by_cases hij : i = j
    · rw [hij, Table.get?_set_self]
      rfl
    · rwa [Table.get?_set_other _ _ hij]

theorem holder?_eq_some (h : holder? r watches id = some i) :
    ∃ s record, r.get? i = some s ∧ latest? watches i = some record ∧ record.id = id := by
  have hi : i < r.size := List.mem_range.mp (List.mem_of_find?_eq_some h)
  have hany := List.find?_some h
  cases hlatest : latest? watches i with
  | none =>
    rw [hlatest] at hany
    cases hany
  | some record =>
    rw [hlatest] at hany
    exact ⟨r.services[i], record, List.getElem?_eq_getElem hi, rfl, eq_of_beq hany⟩

theorem holder?_eq_none (h : holder? r watches id = none) {s : Service} (hs : r.get? i = some s)
    {record : Record} (hr : latest? watches i = some record) : record.id ≠ id := by
  intro hid
  have := List.find?_eq_none.mp h i (List.mem_range.mpr (Registry.lt_size hs))
  rw [hr] at this
  exact this (by simpa using hid)

end

/-! ### Duties -/

/-- A procedure that follows the containers, by the question that it has come to. -/
inductive Duty where
  /-- It has ended. -/
  | ended
  /-- It is about to ask the engine about the container of a service. -/
  | refreshing (service : Nat) (container : String)
  /-- It is about to take over what it knows of the container of a service. -/
  | taking (service : Nat) (record : Option Record)
  /-- It is about to look for the service of a container that is gone. -/
  | forgetting (event : Event)
  /-- It is about to ask the engine for the name of a container. -/
  | resolving (id : String)

namespace Duty

/-- What is left of the procedure. -/
def plan (r : Registry) : Duty → Tracking Unit
  | .ended => .done ()
  | .refreshing service container => tryRefresh service container
  | .taking service record => take service record
  | .forgetting event => forget r event
  | .resolving id => refreshById r id

/-- To refresh the service at a place, if there is one. -/
def ofService (r : Registry) (service : Nat) : Duty :=
  match r.get? service with
  | some s => .refreshing service s.handle.container
  | none => .ended

/-- To refresh the service of a container, if it has one. -/
def ofContainer (r : Registry) (container : String) : Duty :=
  match r.byContainer? container with
  | some service => ofService r service
  | none => .ended

/-- To take over that the container of an event is gone, for the service of its name. -/
def ofGone (r : Registry) (event : Event) : Duty :=
  match event.name.bind r.byContainer? with
  | some service => .taking service none
  | none => .ended

/-- What an event brings about. -/
def ofEvent (r : Registry) (event : Event) : Duty :=
  if event.kind = .destroyed then .forgetting event
  else
    match event.name with
    | some name => ofContainer r name
    | none => .resolving event.id

end Duty

section
variable {r : Registry}

theorem refreshAt_eq (r : Registry) (service : Nat) :
    refreshAt r service = (Duty.ofService r service).plan r := by
  unfold refreshAt Duty.ofService
  cases r.get? service <;> rfl

theorem refreshContainer_eq (r : Registry) (container : String) :
    refreshContainer r container = (Duty.ofContainer r container).plan r := by
  unfold refreshContainer Duty.ofContainer
  cases r.byContainer? container with
  | none => rfl
  | some service => exact refreshAt_eq r service

theorem syncs_eq (r : Registry) :
    syncs r = ((List.range r.size).map (Duty.ofService r)).map (Duty.plan r) := by
  rw [List.map_map]
  exact List.map_congr_left fun service _ => refreshAt_eq r service

theorem handle_eq (r : Registry) (event : Event) :
    handle r event = (Duty.ofEvent r event).plan r := by
  unfold handle Duty.ofEvent
  by_cases hk : event.kind = .destroyed
  · rw [if_pos hk, if_pos hk]
    rfl
  · rw [if_neg hk, if_neg hk]
    cases event.name with
    | none => rfl
    | some name => exact refreshContainer_eq r name

/-- An answer to a question, as the engine and the latest records have it, and the latest records
after it. The engine does not fail. -/
inductive Answered (r : Registry) (c : Census) (watches : Table Watch) :
    (q : Track) → q.Answer → Table Watch → Prop where
  | inspect {key : String} {found : Option Record} (h : c.Finds key found) :
    Answered r c watches (.inspect key) (.ok found) watches
  | holder (id : String) : Answered r c watches (.holder id) (holder? r watches id) watches
  | take (service : Nat) (record : Option Record) :
    Answered r c watches (.take service record) () (takeOver service record watches)

/-- How a duty goes on, and the latest records after it. -/
inductive Proceeds (r : Registry) (c : Census) (watches : Table Watch) :
    Duty → Duty → Table Watch → Prop where
  | read {service : Nat} {container : String} {found : Option Record}
    (h : c.Finds container found) :
    Proceeds r c watches (.refreshing service container) (.taking service found) watches
  | took (service : Nat) (record : Option Record) :
    Proceeds r c watches (.taking service record) .ended (takeOver service record watches)
  | held {event : Event} {service : Nat} (h : holder? r watches event.id = some service) :
    Proceeds r c watches (.forgetting event) (.taking service none) watches
  | unheld {event : Event} (h : holder? r watches event.id = none) :
    Proceeds r c watches (.forgetting event) (.ofGone r event) watches
  | found {id : String} {record : Record} (h : c.Finds id (some record)) :
    Proceeds r c watches (.resolving id) (.ofContainer r record.name) watches
  | unfound {id : String} (h : c.Finds id none) :
    Proceeds r c watches (.resolving id) .ended watches

/-- What is left of a duty after an answer. -/
theorem proceeds_of_answered {c : Census} {watches watches' : Table Watch} {d : Duty} {q : Track}
    {next : q.Answer → Tracking Unit} {a : q.Answer} (hd : d.plan r = .ask q next)
    (ha : Answered r c watches q a watches') :
    ∃ d' : Duty, next a = d'.plan r ∧ Proceeds r c watches d d' watches' := by
  cases d with
  | ended => cases hd
  | refreshing service container =>
    cases hd
    cases ha with
    | inspect h => exact ⟨_, rfl, .read h⟩
  | taking service record =>
    cases hd
    cases ha
    exact ⟨.ended, rfl, .took service record⟩
  | forgetting event =>
    cases hd
    cases ha
    cases hh : holder? r watches event.id with
    | some service => exact ⟨_, rfl, .held hh⟩
    | none =>
      refine ⟨_, ?_, .unheld hh⟩
      unfold Duty.ofGone
      cases event.name.bind r.byContainer? <;> rfl
  | resolving id =>
    cases hd
    cases ha with
    | @inspect _ found h =>
      cases found with
      | none => exact ⟨.ended, rfl, .unfound h⟩
      | some record => exact ⟨_, refreshContainer_eq r record.name, .found h⟩

/-- A procedure that has ended has nothing left to do. -/
theorem eq_ended_of_done {d : Duty} (h : d.plan r = .done ()) : d = .ended := by
  cases d with
  | ended => rfl
  | _ => cases h

end

end NodeStack.Stack
