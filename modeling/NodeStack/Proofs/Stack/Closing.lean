import NodeStack.Stack.Closing

/-!
# `NodeStack.Proofs.Stack.Closing`: every service is closed, and the first fault is told

* `ClosesAs`: what closing the services of a registry comes to.
* `closeFrom_snd`: each service is closed once, in order, whatever becomes of those before it.
* `closeFrom_fst`: what comes of it is what comes of the first that closes badly.
* `closeAll_eq`: both, for a whole registry.
-/

set_option autoImplicit false

namespace NodeStack.Stack

/-- What closing the services of a registry comes to, if closing the service at each place comes to
this: all is well, or it is the fault of the first that closes badly. -/
inductive ClosesAs (r : Registry) (fault? : Nat → Option Service.Fault) :
    Except Fault Unit → Prop where
  | well (h : ∀ i, i < r.size → fault? i = none) : ClosesAs r fault? (.ok ())
  | badly (i : Nat) (service : Service) (cause : Service.Fault)
    (hservice : r.get? i = some service) (hcause : fault? i = some cause)
    (hfirst : ∀ j, j < i → fault? j = none) :
    ClosesAs r fault? (.error (.close service.name cause))

section
variable {σ : Type} {close : Nat → σ → Option Service.Fault × σ}

/-- Each service is closed once, in order. -/
theorem closeFrom_snd (i : Nat) (services : List Service) (s : σ) :
    (closeFrom close i services s).2 =
      (List.range' i services.length).foldl (fun s i => (close i s).2) s := by
  induction services generalizing i s with
  | nil => rfl
  | cons service rest ih => exact ih (i + 1) (close i s).2

variable {P : σ → Prop} {fault? : Nat → Option Service.Fault}

/-- What comes of closing some services is what comes of the first that closes badly. -/
theorem closeFrom_fst (hfault : ∀ i s, P s → (close i s).1 = fault? i)
    (hkeep : ∀ i s, P s → P (close i s).2) (i : Nat) (services : List Service) {s : σ}
    (hs : P s) :
    ((closeFrom close i services s).1 = none ∧
      ∀ k, k < services.length → fault? (i + k) = none) ∨
    ∃ k service cause, services[k]? = some service ∧ fault? (i + k) = some cause ∧
      (∀ j, j < k → fault? (i + j) = none) ∧
      (closeFrom close i services s).1 = some (.close service.name cause) := by
  induction services generalizing i s with
  | nil => exact .inl ⟨rfl, fun k hk => absurd hk (Nat.not_lt_zero k)⟩
  | cons service rest ih =>
    have hfirst : (closeFrom close i (service :: rest) s).1 =
        ((close i s).1.map (.close service.name)).or
          (closeFrom close (i + 1) rest (close i s).2).1 := rfl
    rw [hfirst, hfault i s hs]
    cases hcause : fault? i with
    | some cause =>
      -- nothing behind it counts
      exact .inr ⟨0, service, cause, rfl, hcause, fun j hj => absurd hj (Nat.not_lt_zero j), rfl⟩
    | none =>
      have hshift : ∀ k, i + (k + 1) = i + 1 + k := by
        intro k
        omega
      have hbefore : ∀ j, (∀ k, k < j → fault? (i + 1 + k) = none) →
          ∀ k, k < j + 1 → fault? (i + k) = none := by
        intro j hj k hk
        cases k with
        | zero => exact hcause
        | succ k =>
          rw [hshift]
          exact hj k (by omega)
      rw [Option.map_none, Option.none_or]
      rcases ih (i + 1) (hkeep i s hs) with
        ⟨hnone, hall⟩ | ⟨k, other, cause, hk, hbad, hgood, he⟩
      · exact .inl ⟨hnone, hbefore rest.length hall⟩
      · exact .inr ⟨k + 1, other, cause, hk, by rwa [hshift], hbefore k hgood, he⟩

/-- All services are closed, each once and in order, and the first fault is told. -/
theorem closeAll_eq (hfault : ∀ i s, P s → (close i s).1 = fault? i)
    (hkeep : ∀ i s, P s → P (close i s).2) (r : Registry) {s : σ} (hs : P s) :
    ∃ result, ClosesAs r fault? result ∧
      closeAll close r s =
        (result, (List.range r.size).foldl (fun s i => (close i s).2) s) := by
  have hsnd : (closeFrom close 0 r.services s).2 = _ := closeFrom_snd 0 r.services s
  have hfst := closeFrom_fst hfault hkeep 0 r.services hs
  simp only [Nat.zero_add] at hfst
  rw [← List.range_eq_range'] at hsnd
  rw [closeAll]
  generalize closeFrom close 0 r.services s = closed at hfst hsnd
  obtain ⟨fault, s'⟩ := closed
  dsimp only at hfst hsnd
  subst hsnd
  rcases hfst with ⟨rfl, hall⟩ | ⟨k, service, cause, hk, hbad, hgood, rfl⟩
  · exact ⟨_, .well hall, rfl⟩
  · exact ⟨_, .badly k service cause hk hbad hgood, rfl⟩

end

end NodeStack.Stack
