import NodeStack.Proofs.Link.Callers
import NodeStack.Scenario.Dialling

/-!
# `NodeStack.Proofs.Link.Scripted`: what happens now, over a scripted dialler

* `settleWithin_spec`: nothing can happen to a settled connection, provided that there is fuel for
  all that can. What every step keeps holds of it.
* `close_returns`, `update_returns`: a scripted connection is closed and redirected by calls that
  return, in the sense of `Link.Shared.Returns`. They wait for the loop in charge, which stops at
  its first chance.
-/

set_option autoImplicit false

namespace NodeStack.Scenario.Dialling

open Link (Call Move Shared)

section
variable {d d' : Dialling}

theorem stepLoop_of_not_busy {n : Nat} (h : ¬d.link.Busy n) : d.stepLoop n = none := by
  unfold stepLoop
  cases hl : d.link.loops.get? n with
  | none => rfl
  | some l =>
    cases hf : l.finished with
    | true => simp [hf]
    | false => exact absurd (Link.busy_iff.mpr ⟨l, hl, hf⟩) h

/-- If only one loop is at work, what happens next is what it does. -/
theorem step_of_lone {n : Nat} (hn : n < d.link.count) (h : ∀ m, d.link.Busy m → m = n) :
    d.step = d.stepLoop n := by
  have hothers : ∀ m, m ≠ n → d.stepLoop m = none := fun m hm =>
    stepLoop_of_not_busy fun hb => hm (h m hb)
  unfold step
  cases hs : d.stepLoop n with
  | none =>
    refine List.findSome?_eq_none_iff.mpr fun m _ => ?_
    by_cases hm : m = n
    · rw [hm, hs]
    · exact hothers m hm
  | some d' =>
    refine List.findSome?_eq_some_iff.mpr ⟨List.range n, n, (List.range (d.link.count - n - 1)).map
      (n + 1 + ·), ?_, hs, fun m hm => hothers m (Nat.ne_of_lt (List.mem_range.mp hm))⟩
    obtain ⟨k, hk⟩ : ∃ k, d.link.count = n + 1 + k := ⟨d.link.count - (n + 1), by omega⟩
    have hrest : d.link.count - n - 1 = k := by omega
    rw [hrest, hk, List.range_add, List.range_succ, List.append_assoc]
    rfl

theorem settleWithin_of_stuck (h : d.step = none) (fuel : Nat) : d.settleWithin fuel = d := by
  cases fuel with
  | zero => rfl
  | succ fuel => rw [settleWithin, h]

/-- What every step keeps holds of a settled connection. If a measure falls with every step, and
there is fuel for it, nothing can happen any more. -/
theorem settleWithin_spec {P : Dialling → Prop} {cost : Dialling → Nat}
    (hstep : ∀ d d', P d → d.step = some d' → P d' ∧ cost d' < cost d) {fuel : Nat} (h : P d)
    (hcost : cost d ≤ fuel) :
    P (d.settleWithin fuel) ∧ (d.settleWithin fuel).step = none ∧
      cost (d.settleWithin fuel) ≤ cost d := by
  induction fuel generalizing d with
  | zero =>
    refine ⟨h, ?_, Nat.le_refl _⟩
    cases hs : d.step with
    | none => exact hs
    | some d' =>
      obtain ⟨-, hlt⟩ := hstep d d' h hs
      omega
  | succ fuel ih =>
    rw [settleWithin]
    cases hs : d.step with
    | none => exact ⟨h, hs, Nat.le_refl _⟩
    | some d' =>
      obtain ⟨h', hlt⟩ := hstep d d' h hs
      obtain ⟨hp, hstuck, hle⟩ := ih h' (by omega)
      exact ⟨hp, hstuck, Nat.le_trans hle (Nat.le_of_lt hlt)⟩

/-! ### Calls -/

/-- When a loop that has been told to stop is the only one at work, it stops and nothing else
happens. -/
theorem settle_of_told {n : Nat} {l : Link.Loop} (hl : d.link.loops.get? n = some l)
    (htold : l.told = true) (hn : n < d.link.count) (h : ∀ m, d.link.Busy m → m = n) :
    d.settle = if l.finished then d else { d with link := d.link.stop n } := by
  have hstep : d.step = if l.finished then none else some { d with link := d.link.stop n } := by
    rw [step_of_lone hn h, stepLoop, hl]
    simp [htold]
  obtain ⟨fuel, hfuel⟩ : ∃ fuel, d.settleBound = fuel + 1 :=
    ⟨_, (Nat.succ_pred_eq_of_pos (by unfold settleBound; omega)).symm⟩
  unfold settle
  rw [hfuel, settleWithin]
  cases hf : l.finished with
  | true => simp [hstep, hf]
  | false =>
    rw [hf] at hstep
    rw [hstep]
    -- Now no loop is at work any more.
    have hidle : ∀ m, ¬(d.link.stop n).Busy m := by
      intro m hm
      obtain ⟨l', hl', hfin⟩ := Link.busy_iff.mp hm
      have hloops : (d.link.stop n).loops = d.link.loops.set n { l with phase := .ended } := by
        simp [Link.stop, Link.setPhase, hl]
      rw [hloops] at hl'
      by_cases hmn : m = n
      · rw [hmn, Table.get?_set_self] at hl'
        cases hl'
        cases hfin
      · rw [Table.get?_set_other _ _ hmn] at hl'
        exact hmn (h m (Link.busy_iff.mpr ⟨l', hl', hfin⟩))
    exact settleWithin_of_stuck
      (List.findSome?_eq_none_iff.mpr fun m _ => stepLoop_of_not_busy (hidle m)) fuel

/-- A scripted connection is closed at once if no loop is in charge. Else the loop in charge stops,
unless it is over already, and then the call goes on. -/
theorem close_cases (htidy : Shared.Tidy ⟨d.link, []⟩) :
    (d.link.worker = none ∧
      d.close = (.ok (), { d with link := { d.link with client := none } })) ∨
    ∃ (n : Nat) (l : Link.Loop) (moves : List (Nat × Move)) (d₂ : Dialling),
      d.link.worker = some n ∧ d.link.loops.get? n = some l ∧
      (∀ waiting, Shared.stir moves ⟨d.link.relieved n l, waiting⟩ = ⟨d₂.link, waiting⟩) ∧
      d₂.link.finished n = true ∧
      d.close = ((d₂.link.endClose (some n)).1,
        { d₂ with link := { d₂.link with client := none } }) := by
  cases hw : d.link.worker with
  | none =>
    refine Or.inl ⟨rfl, ?_⟩
    rw [close, Link.beginClose, hw]
    rfl
  | some n =>
    obtain ⟨-, l, hl, -, -⟩ := htidy.charge n hw
    have hl : d.link.loops.get? n = some l := hl
    let told : Link.Loop := { l with told := true }
    have hbegin : d.link.beginClose = (some n, d.link.relieved n l) := by
      rw [Link.beginClose, hw]
      dsimp only
      rw [hl]
      rfl
    have hloops : (d.link.relieved n l).loops = d.link.loops.set n told := rfl
    have htold : (d.link.relieved n l).loops.get? n = some told := Table.get?_set_self _ _ _
    have hlone : ∀ m, (d.link.relieved n l).Busy m → m = n := by
      intro m hm
      rcases htidy.owned m (Link.busy_of_set hloops hl id hm) with hm | ⟨call, hcall, -⟩
      · exact (Option.some.inj (hw.symm.trans hm)).symm
      · cases hcall
    have hsettle : settle { d with link := d.link.relieved n l } = _ :=
      settle_of_told htold rfl (htidy.bounded n l hl) hlone
    refine Or.inr ⟨n, l, if told.finished then [] else [(n, .stop)],
      settle { d with link := d.link.relieved n l }, rfl, hl, fun waiting => ?_, ?_, ?_⟩
    · rw [hsettle]
      cases hf : told.finished with
      | true => rfl
      | false =>
        simp [Shared.stir, Shared.run, Shared.step, htold, hf, Move.fits, Move.make, told]
    · rw [hsettle]
      cases hf : told.finished with
      | true =>
        show (d.link.relieved n l).finished n = true
        rw [Link.finished, htold]
        exact hf
      | false =>
        show ((d.link.relieved n l).stop n).finished n = true
        simp [Link.finished, Link.stop, Link.setPhase, htold, Link.Loop.finished]
    · rw [close, hbegin]
      rfl

/-- A connection after a call that closed it with some result, and opens it if that is well. -/
def reopened (reopens : Bool) (result : Except Upstream.LinkFault Unit) (k : Link) : Link :=
  match result with
  | .ok _ => if reopens then k.open_ else k
  | .error _ => k

theorem conclude_eq_reopened (awaited : Option Nat) (reopens : Bool) (k : Link) :
    Link.conclude awaited reopens k =
      reopened reopens (k.endClose awaited).1 { k with client := none } := by
  unfold Link.conclude reopened Link.endClose
  dsimp only
  cases (awaited.bind fun n => k.phase n) == some Link.Phase.crashed <;> rfl

/-- A call that begins to close a scripted connection returns as the connection is closed. -/
theorem returns_of_close {s : Shared} {act : Link.Act} {reopens : Bool}
    (htidy : Shared.Tidy ⟨d.link, []⟩) (hact : s.step act = Shared.begin reopens ⟨d.link, []⟩) :
    ∃ moves,
      Shared.Returns s act moves d.close.1 ⟨reopened reopens d.close.1 d.close.2.link, []⟩ := by
  rcases close_cases htidy with ⟨hw, hclose⟩ | ⟨n, l, moves, d₂, hw, hl, hstir, hover, hclose⟩
  · have hstep : s.step act = ⟨Link.conclude none reopens d.link, []⟩ := by
      rcases Shared.begin_of_idle htidy rfl reopens with ⟨-, he⟩ | ⟨n, l, hn, -, -⟩
      · exact hact.trans he
      · cases hw.symm.trans hn
    have hidle : (s.step act).waiting = [] := by rw [hstep]
    have hreturns := Shared.Returns.atOnce hidle
    rw [hstep, conclude_eq_reopened] at hreturns
    rw [hclose]
    exact ⟨[], hreturns⟩
  · have hstep : s.step act = ⟨d.link.relieved n l, [⟨n, reopens⟩]⟩ := by
      rcases Shared.begin_of_idle htidy rfl reopens with ⟨hnone, -⟩ | ⟨m, l', hm, hl', he⟩
      · cases hw.symm.trans hnone
      · obtain rfl : n = m := Option.some.inj (hw.symm.trans hm)
        obtain rfl : l = l' := Option.some.inj (hl.symm.trans hl')
        exact hact.trans he
    have hwaits : (s.step act).waiting = [⟨n, reopens⟩] := by rw [hstep]
    have hover' : ((s.step act).stir moves).link.finished n = true := by
      rw [hstep, hstir]
      exact hover
    have hreturns := Shared.Returns.later hwaits hover'
    have hresume : Shared.step ⟨d₂.link, [⟨n, reopens⟩]⟩ (.resume 0) =
        ⟨Link.conclude (some n) reopens d₂.link, []⟩ := by
      simp [Shared.step, hover]
    rw [hstep, hstir, hresume, conclude_eq_reopened] at hreturns
    rw [hclose]
    exact ⟨moves, hreturns⟩

/-- A scripted connection is closed by a call that returns. -/
theorem close_returns (htidy : Shared.Tidy ⟨d.link, []⟩) :
    ∃ moves, Shared.Returns ⟨d.link, []⟩ .close moves d.close.1 ⟨d.close.2.link, []⟩ := by
  obtain ⟨moves, h⟩ := returns_of_close htidy
    (rfl : Shared.step ⟨d.link, []⟩ .close = Shared.begin false ⟨d.link, []⟩)
  have hsame : reopened false d.close.1 d.close.2.link = d.close.2.link := by
    cases d.close.1 <;> rfl
  rw [hsame] at h
  exact ⟨moves, h⟩

/-- A scripted connection is redirected by a call that returns. -/
theorem update_returns (htidy : Shared.Tidy ⟨d.link, []⟩) (target : String) :
    ∃ moves, Shared.Returns ⟨d.link, []⟩ (.update target) moves (d.update target).1
      ⟨(d.update target).2.link, []⟩ := by
  obtain ⟨moves, h⟩ := returns_of_close (d := { d with link := d.link.retarget target })
    (Shared.tidy_retarget htidy target)
    (rfl : Shared.step ⟨d.link, []⟩ (.update target) =
      Shared.begin true ⟨d.link.retarget target, []⟩)
  refine ⟨moves, ?_⟩
  unfold update
  generalize close { d with link := d.link.retarget target } = closed at h ⊢
  rcases closed with ⟨_ | _, d'⟩ <;> exact h

end

end NodeStack.Scenario.Dialling
