import NodeStack.Service.Basic
import NodeStack.Service.Inquiry

/-!
# `NodeStack.Stack.Registry`: the services of a stack, by name and by container

- `firstRepeat`: the name that is the first to come again.
- `Registry`: services with different names.
- `Registry.ofServices?`: the registry of some services, or the name that is repeated first.
- `Registry.byName?`, `Registry.byContainer?`: the place of a service.
-/

set_option autoImplicit false

namespace NodeStack.Stack

/-- The first name that has come before, given the names that came before the list. -/
def firstRepeatAfter : (seen : List String) → List String → Option String
  | _, [] => none
  | seen, name :: rest =>
    if name ∈ seen then some name else firstRepeatAfter (name :: seen) rest

/-- The first name that has come before. -/
def firstRepeat (names : List String) : Option String := firstRepeatAfter [] names

theorem nodup_of_firstRepeatAfter {seen names : List String}
    (h : firstRepeatAfter seen names = none) : names.Nodup ∧ ∀ n ∈ names, n ∉ seen := by
  induction names generalizing seen with
  | nil => simp
  | cons name rest ih =>
    rw [firstRepeatAfter] at h
    split at h
    · simp at h
    · rename_i hn
      have ⟨hd, hs⟩ := ih h
      refine ⟨List.nodup_cons.2 ⟨fun hm => ?_, hd⟩, fun n hm => ?_⟩
      · exact hs name hm (by simp)
      · rcases List.mem_cons.1 hm with rfl | hm
        · exact hn
        · exact fun hin => hs n hm (List.mem_cons_of_mem _ hin)

theorem nodup_of_firstRepeat {names : List String} (h : firstRepeat names = none) :
    names.Nodup :=
  (nodup_of_firstRepeatAfter h).1

/-- The services of a stack, in order. -/
structure Registry where
  services : List Service
  /-- No two services have the same name. -/
  nodup : (services.map (·.name)).Nodup

namespace Registry

/-- A registry without services. -/
def empty : Registry := ⟨[], List.nodup_nil⟩

/-- The registry of some services, or the name that is repeated first. -/
def ofServices? (services : List Service) : Except String Registry :=
  match h : firstRepeat (services.map (·.name)) with
  | some name => .error name
  | none => .ok ⟨services, nodup_of_firstRepeat h⟩

/-- How many services there are. -/
def size (r : Registry) : Nat := r.services.length

/-- The service at a place. -/
def get? (r : Registry) (i : Nat) : Option Service := r.services[i]?

/-- The place of the last item of a list that has a property. -/
def lastIdx? {α : Type} (p : α → Bool) : List α → Option Nat
  | [] => none
  | x :: rest =>
    match lastIdx? p rest with
    | some i => some (i + 1)
    | none => if p x then some 0 else none

/-- The place of the service of a name. -/
def byName? (r : Registry) (name : String) : Option Nat :=
  r.services.findIdx? (·.name == name)

/-- The place of the service of a container; of several services with that container the last
counts. -/
def byContainer? (r : Registry) (container : String) : Option Nat :=
  lastIdx? (·.handle.container == container) r.services

/-- The service of a name. -/
def find? (r : Registry) (name : String) : Option Service :=
  (r.byName? name).bind r.get?

/-- What is known before the status of a service is asked for. -/
def surroundings (r : Registry) (isSetup : Bool) : Service.Surroundings :=
  ⟨fun name => (r.find? name).map (·.kind), isSetup⟩

end Registry

end NodeStack.Stack
