import NodeStack.Proofs.Link.Course
import NodeStack.Proofs.Link.Scripted

/-!
# `NodeStack.Proofs.Link.Schedule`: when a connection dials

A scripted connection is opened once, time passes, and its links break at any time.

* `schedule_kept`: what has been dialled is the course up to now. A client is in use exactly while
  the link of its attempt is live, and the generation counts the attempts that have succeeded.

The proof follows the one loop through its phases (`Stands`). The breaks of the whole run are fixed
beforehand, so the course is as well, and every step eats into it from the front. That time passes
from timer to timer without a stop is a matter of `weight`: it bounds both what can happen at one
time and the timers that can still go off.
-/

set_option autoImplicit false

namespace NodeStack.Scenario.Dialling

/-- What happens to a connection that nobody calls. -/
inductive Event where
  | pass (ms : Nat)
  | breaks
  deriving Repr, DecidableEq

/-- Time passes, or the live link breaks, and everything that can happen happens. -/
def happen (d : Dialling) : Event → Dialling
  | .pass ms => d.advance ms
  | .breaks => d.breakLink.settle

/-- A connection is opened after some events, and others follow. -/
def watched (before after : List Event) (d : Dialling) : Dialling :=
  after.foldl happen (before.foldl happen d).open_.settle

/-- How much time some events take. -/
def span : List Event → Nat
  | [] => 0
  | .pass ms :: events => ms + span events
  | .breaks :: events => span events

/-- When the link is broken in the course of some events. -/
def breakTimes : (now : Nat) → List Event → List Nat
  | _, [] => []
  | now, .pass ms :: events => breakTimes (now + ms) events
  | now, .breaks :: events => now :: breakTimes now events

/-! ### The one loop -/

/-- Only one loop has ever been, it is in charge, and it is in some phase. -/
structure Lone (retry : Nat) (target : String) (phase : Link.Phase) (d : Dialling) : Prop where
  scripted : d.eternal = false
  count : d.link.count = 1
  delay : d.link.retryDelay = retry
  loop : d.link.loops.get? 0 = some ⟨target, phase, false⟩

/-- What is on record after some attempts, and perhaps one that is not over and done with. -/
structure Records (retry : Nat) (target : String) (past : List Stage) (current : List Nat)
    (client : Option Nat) (won : Nat) (d : Dialling) : Prop where
  log : d.log = (past.map Stage.start ++ current).map (·, target)
  attempts : d.attempts = past.length + current.length
  done : ∀ s ∈ past, ∃ t, s.next retry = some t ∧ s.finish ≤ t ∧ t ≤ d.now
  client : d.link.client = client
  generation : d.link.generation = past.countP (·.attempt.outcome == .success) + won

/-- An attempt has started, and the next one has not. -/
structure Underway (retry : Nat) (target : String) (whole : List Stage) (breaks : List Nat)
    (past : List Stage) (start : Nat) (a : Attempt) (client : Option Nat) (won : Nat)
    (d : Dialling) : Prop where
  unbroken : d.broken = []
  began : start ≤ d.now
  rest : whole = past ++ course retry (a :: d.script) breaks start
  records : d.Records retry target past [start] client won

/-- Where a connection stands in its course, with the breaks that are still to come. -/
inductive Stands (retry : Nat) (target : String) (whole : List Stage) (breaks : List Nat)
    (d : Dialling) : Prop where
  | ready (past : List Stage) (lone : d.Lone retry target .ready) (unbroken : d.broken = [])
    (rest : whole = past ++ course retry d.script breaks d.now)
    (records : d.Records retry target past [] none 0)
  | dialling (past : List Stage) (start : Nat) (a : Attempt)
    (lone : d.Lone retry target .dialling)
    (dial : d.dials.get? 0 = some ⟨start + a.delay, a.outcome, past.length + 1⟩)
    (due : a.outcome ≠ .never → d.now ≤ start + a.delay)
    (underway : d.Underway retry target whole breaks past start a none 0)
  | linked (past : List Stage) (start : Nat) (a : Attempt)
    (lone : d.Lone retry target (.linked (past.length + 1)))
    (won : a.outcome = .success) (elapsed : start + a.delay ≤ d.now)
    (underway : d.Underway retry target whole breaks past start a (some (past.length + 1)) 1)
  | parted (past : List Stage) (start : Nat) (a : Attempt)
    (lone : d.Lone retry target (.linked (past.length + 1)))
    (won : a.outcome = .success) (elapsed : start + a.delay ≤ d.now) (broken : d.broken = [0])
    (rest : whole = past ++ ⟨start, a, some d.now⟩ :: course retry d.script breaks d.now)
    (records : d.Records retry target past [start] (some (past.length + 1)) 1)
  | resting (past : List Stage) (start : Nat) (a : Attempt)
    (lone : d.Lone retry target (.resting (start + a.delay + retry)))
    (failed : a.outcome = .failure) (elapsed : start + a.delay ≤ d.now)
    (wake : d.now ≤ start + a.delay + retry)
    (underway : d.Underway retry target whole breaks past start a none 0)
  | crashed (past : List Stage) (start : Nat) (a : Attempt)
    (lone : d.Lone retry target .crashed)
    (crash : a.outcome = .crash) (elapsed : start + a.delay ≤ d.now)
    (underway : d.Underway retry target whole breaks past start a none 0)

/-- A bound on what can still happen once a dial is under way that will end so, if `n` attempts are
left in the script and each of them counts `k`. -/
def dialWeight (k n : Nat) : DialOutcome → Nat
  | .failure => k * n + 4
  | .success | .crash => 1
  | .never => 0

/-- A bound on what can still happen without a break: the steps if an attempt counts three, and the
timers if it counts two. -/
def weight (k : Nat) (d : Dialling) : Nat :=
  match d.link.phase 0 with
  | some .ready => k * d.script.length + 2
  | some .dialling =>
    match d.dials.get? 0 with
    | some dial => dialWeight k d.script.length dial.outcome
    | none => 0
  | some (.linked _) => if d.broken = [] then 0 else k * d.script.length + 3
  | some (.resting _) => k * d.script.length + 3
  | _ => 0

section
variable {d d' : Dialling} {retry : Nat} {target : String} {phase : Link.Phase}
variable {whole past : List Stage} {breaks : List Nat}

theorem step_of_one (h : d.link.count = 1) : d.step = d.stepLoop 0 := by
  rw [step, h]
  show [0].findSome? d.stepLoop = d.stepLoop 0
  cases hs : d.stepLoop 0 <;> simp [hs]

theorem nextTimer_of_one (h : d.link.count = 1) : d.nextTimer = d.timer 0 := by
  rw [nextTimer, h]
  show ([0].filterMap d.timer).min? = d.timer 0
  cases ht : d.timer 0 <;> simp [ht]

/-- Moving a loop on changes nothing but where that loop stands. -/
theorem setPhase_same (n : Nat) (ph : Link.Phase) (k : Link) :
    (k.setPhase n ph).count = k.count ∧ (k.setPhase n ph).retryDelay = k.retryDelay ∧
      (k.setPhase n ph).client = k.client ∧ (k.setPhase n ph).generation = k.generation := by
  unfold Link.setPhase
  split <;> exact ⟨rfl, rfl, rfl, rfl⟩

theorem Lone.phase_eq (h : d.Lone retry target phase) : d.link.phase 0 = some phase := by
  rw [Link.phase, h.loop]
  rfl

/-- The loop moves on. -/
theorem Lone.moved (h : d.Lone retry target phase) (next : Link.Phase)
    (heternal : d'.eternal = d.eternal) (hcount : d'.link.count = (d.link.setPhase 0 next).count)
    (hdelay : d'.link.retryDelay = (d.link.setPhase 0 next).retryDelay)
    (hloops : d'.link.loops = (d.link.setPhase 0 next).loops) : d'.Lone retry target next := by
  obtain ⟨hsame, hsame', -, -⟩ := setPhase_same 0 next d.link
  refine ⟨heternal.trans h.scripted, (hcount.trans hsame).trans h.count,
    (hdelay.trans hsame').trans h.delay, ?_⟩
  rw [hloops, Link.setPhase, h.loop]
  exact Table.get?_set_self _ _ _

theorem course_nextAttempt (h : d.eternal = false) (start : Nat) :
    course retry d.script breaks start =
      course retry (d.nextAttempt :: d.script.tail) breaks start := by
  unfold nextAttempt
  cases d.script with
  | nil => exact unscripted_eq_course breaks start
  | cons a script =>
    rw [h]
    rfl

/-- The attempt that was under way is over and done with. -/
theorem Records.ended {start t won : Nat} {a : Attempt} {broken client : Option Nat}
    (h : d.Records retry target past [start] client won)
    (hnext : Stage.next retry ⟨start, a, broken⟩ = some t) (hover : start + a.delay ≤ t)
    (ht : t ≤ d.now) (hwon : won = if a.outcome = .success then 1 else 0)
    (hlog : d'.log = d.log) (hattempts : d'.attempts = d.attempts) (hnow : d'.now = d.now)
    (hclient : d'.link.client = none) (hgeneration : d'.link.generation = d.link.generation) :
    d'.Records retry target (past ++ [⟨start, a, broken⟩]) [] none 0 := by
  refine ⟨?_, ?_, fun s hs => ?_, hclient, ?_⟩
  · rw [hlog, h.log]
    simp
  · rw [hattempts, h.attempts]
    simp
  · rw [hnow]
    rcases List.mem_append.mp hs with hs | hs
    · exact h.done s hs
    · obtain rfl := List.mem_singleton.mp hs
      exact ⟨t, hnext, hover, ht⟩
  · rw [hgeneration, h.generation, hwon, List.countP_append]
    cases ha : a.outcome <;> simp [ha]

theorem Lone.weight_ready (h : d.Lone retry target .ready) (k : Nat) :
    d.weight k = k * d.script.length + 2 := by
  rw [weight, h.phase_eq]

theorem Lone.weight_dialling (h : d.Lone retry target .dialling) {dial : Dial}
    (hdial : d.dials.get? 0 = some dial) (k : Nat) :
    d.weight k = dialWeight k d.script.length dial.outcome := by
  rw [weight, h.phase_eq]
  dsimp only
  rw [hdial]

theorem Lone.weight_linked {client : Nat} (h : d.Lone retry target (.linked client)) (k : Nat) :
    d.weight k = if d.broken = [] then 0 else k * d.script.length + 3 := by
  rw [weight, h.phase_eq]

theorem Lone.weight_resting {wake : Nat} (h : d.Lone retry target (.resting wake)) (k : Nat) :
    d.weight k = k * d.script.length + 3 := by
  rw [weight, h.phase_eq]

theorem Lone.weight_crashed (h : d.Lone retry target .crashed) (k : Nat) : d.weight k = 0 := by
  rw [weight, h.phase_eq]

/-- The next dial takes an attempt from the script, or succeeds. -/
theorem dialWeight_next (h : d.eternal = false) :
    dialWeight 3 d.script.tail.length d.nextAttempt.outcome < 3 * d.script.length + 2 ∧
      dialWeight 2 d.script.tail.length d.nextAttempt.outcome ≤ 2 * d.script.length + 2 := by
  unfold nextAttempt
  cases d.script with
  | nil => exact ⟨Nat.lt_succ_self 1, Nat.le_succ 1⟩
  | cons a script =>
    simp only [h, Bool.false_eq_true, if_false, List.tail_cons, List.length_cons]
    cases a.outcome <;> simp only [dialWeight] <;> omega

/-- What a step does: the connection stands elsewhere, no time passes, and less is left to
happen. -/
structure Moves (retry : Nat) (target : String) (whole : List Stage) (breaks : List Nat)
    (d d' : Dialling) : Prop where
  stands : d'.Stands retry target whole breaks
  now : d'.now = d.now
  less : d'.weight 3 < d.weight 3
  timers : d'.weight 2 ≤ d.weight 2

/-- A step after which less is left to happen, however much an attempt counts. -/
theorem moves_of_less (hstands : d'.Stands retry target whole breaks) (hnow : d'.now = d.now)
    (hless : ∀ k, d'.weight k < d.weight k) :
    Moves retry target whole breaks d d' ∧ d'.weight 2 < d.weight 2 :=
  ⟨⟨hstands, hnow, hless 3, Nat.le_of_lt (hless 2)⟩, hless 2⟩

/-- The loop dials. -/
theorem step_ready (lone : d.Lone retry target .ready) (unbroken : d.broken = [])
    (rest : whole = past ++ course retry d.script breaks d.now)
    (records : d.Records retry target past [] none 0) (hs : d.step = some d') :
    Moves retry target whole breaks d d' := by
  have hstep : d.step = some (d.dial 0 target) := by
    rw [step_of_one lone.count, stepLoop, lone.loop]
    rfl
  obtain rfl := Option.some.inj (hs.symm.trans hstep)
  have hlone : (d.dial 0 target).Lone retry target .dialling :=
    lone.moved .dialling rfl rfl rfl rfl
  have hdial : (d.dial 0 target).dials.get? 0 =
      some ⟨d.now + d.nextAttempt.delay, d.nextAttempt.outcome, past.length + 1⟩ := by
    show (d.dials.set 0 _).get? 0 = _
    rw [Table.get?_set_self, records.attempts]
    rfl
  obtain ⟨-, -, hclient, hgeneration⟩ := setPhase_same 0 .dialling d.link
  have hrecords : (d.dial 0 target).Records retry target past [d.now] none 0 := by
    refine ⟨?_, congrArg (· + 1) records.attempts, records.done, hclient.trans records.client,
      hgeneration.trans records.generation⟩
    show (if d.eternal then d.log else d.log ++ [(d.now, target)]) = _
    rw [lone.scripted, records.log]
    simp
  have hscript : (d.dial 0 target).script = d.script.tail := rfl
  refine ⟨.dialling past d.now d.nextAttempt hlone hdial (fun _ => Nat.le_add_right _ _)
    ⟨unbroken, Nat.le_refl _, rest.trans ?_, hrecords⟩, rfl, ?_, ?_⟩
  · rw [course_nextAttempt lone.scripted]
    rfl
  · rw [lone.weight_ready, hlone.weight_dialling hdial, hscript]
    exact (dialWeight_next lone.scripted).1
  · rw [lone.weight_ready, hlone.weight_dialling hdial, hscript]
    exact (dialWeight_next lone.scripted).2

/-- The dial ends. -/
theorem step_dialling {start : Nat} {a : Attempt} (lone : d.Lone retry target .dialling)
    (dial : d.dials.get? 0 = some ⟨start + a.delay, a.outcome, past.length + 1⟩)
    (due : a.outcome ≠ .never → d.now ≤ start + a.delay)
    (underway : d.Underway retry target whole breaks past start a none 0)
    (hs : d.step = some d') :
    Moves retry target whole breaks d d' ∧ d'.weight 2 < d.weight 2 := by
  have hstep : d.step = d.endDial 0 := by
    rw [step_of_one lone.count, stepLoop, lone.loop]
    rfl
  obtain ⟨unbroken, began, rest, records⟩ := underway
  have hweight := lone.weight_dialling dial
  rw [hstep, endDial, dial] at hs
  dsimp only at hs hweight
  split at hs
  · next hdue =>
    cases ha : a.outcome with
    | success =>
      rw [ha] at hs hweight
      obtain rfl := Option.some.inj hs
      have hlone : Lone retry target (.linked (past.length + 1))
          { d with link := d.link.dialled 0 (past.length + 1) } :=
        lone.moved _ rfl rfl rfl rfl
      obtain ⟨-, -, -, hgeneration⟩ := setPhase_same 0 (.linked (past.length + 1)) d.link
      refine moves_of_less (.linked past start a hlone ha hdue ⟨unbroken, began, rest, ?_⟩) rfl
        fun k => ?_
      · exact ⟨records.log, records.attempts, records.done, rfl,
          congrArg (· + 1) records.generation⟩
      · rw [hweight, hlone.weight_linked, if_pos unbroken]
        exact Nat.zero_lt_one
    | failure =>
      rw [ha] at hs hweight
      obtain rfl := Option.some.inj hs
      -- The dial ends when it is due, so the loop rests for a retry delay from then on.
      have hnow : d.now = start + a.delay := Nat.le_antisymm (due (by rw [ha]; decide)) hdue
      have hlone : Lone retry target (.resting (start + a.delay + retry))
          { d with link := d.link.refused 0 d.now } := by
        have hwake : start + a.delay + retry = d.now + d.link.retryDelay := by
          rw [hnow, lone.delay]
        rw [hwake]
        exact lone.moved _ rfl rfl rfl rfl
      obtain ⟨-, -, hclient, hgeneration⟩ :=
        setPhase_same 0 (.resting (d.now + d.link.retryDelay)) d.link
      refine moves_of_less (.resting past start a hlone ha hdue ?_ ⟨unbroken, began, rest, ?_⟩) rfl
        fun k => ?_
      · exact Nat.le_trans (Nat.le_of_eq hnow) (Nat.le_add_right _ _)
      · exact ⟨records.log, records.attempts, records.done, hclient.trans records.client,
          hgeneration.trans records.generation⟩
      · rw [hweight, hlone.weight_resting]
        exact Nat.lt_succ_self _
    | crash =>
      rw [ha] at hs hweight
      obtain rfl := Option.some.inj hs
      have hlone : Lone retry target .crashed { d with link := d.link.crashed 0 } :=
        lone.moved _ rfl rfl rfl rfl
      obtain ⟨-, -, hclient, hgeneration⟩ := setPhase_same 0 .crashed d.link
      refine moves_of_less (.crashed past start a hlone ha hdue ⟨unbroken, began, rest, ?_⟩) rfl
        fun k => ?_
      · exact ⟨records.log, records.attempts, records.done, hclient.trans records.client,
          hgeneration.trans records.generation⟩
      · rw [hweight, hlone.weight_crashed]
        exact Nat.zero_lt_one
    | never =>
      rw [ha] at hs
      cases hs
  · cases hs

/-- The loop notices that its live link is broken. -/
theorem step_parted {start : Nat} {a : Attempt}
    (lone : d.Lone retry target (.linked (past.length + 1)))
    (won : a.outcome = .success) (elapsed : start + a.delay ≤ d.now) (broken : d.broken = [0])
    (rest : whole = past ++ ⟨start, a, some d.now⟩ :: course retry d.script breaks d.now)
    (records : d.Records retry target past [start] (some (past.length + 1)) 1)
    (hs : d.step = some d') : Moves retry target whole breaks d d' ∧ d'.weight 2 < d.weight 2 := by
  have hstep : d.step = some { d with link := d.link.broke 0, broken := [] } := by
    rw [step_of_one lone.count, stepLoop, lone.loop]
    show d.notice 0 = _
    rw [notice, broken]
    rfl
  obtain rfl := Option.some.inj (hs.symm.trans hstep)
  have hlone : Lone retry target .ready { d with link := d.link.broke 0, broken := [] } :=
    lone.moved _ rfl rfl rfl rfl
  obtain ⟨-, -, -, hgeneration⟩ := setPhase_same 0 .ready d.link
  refine moves_of_less (.ready (past ++ [⟨start, a, some d.now⟩]) hlone rfl ?_ ?_) rfl
    fun k => ?_
  · rw [rest, List.append_assoc]
    rfl
  · refine records.ended ?_ elapsed (Nat.le_refl _) ?_ rfl rfl rfl rfl hgeneration
    · simp [Stage.next, won]
    · rw [won, if_pos rfl]
  · rw [lone.weight_linked, hlone.weight_ready, broken]
    exact Nat.lt_succ_self _

/-- The loop has rested. -/
theorem step_resting {start : Nat} {a : Attempt}
    (lone : d.Lone retry target (.resting (start + a.delay + retry)))
    (failed : a.outcome = .failure) (wake : d.now ≤ start + a.delay + retry)
    (underway : d.Underway retry target whole breaks past start a none 0)
    (hs : d.step = some d') : Moves retry target whole breaks d d' ∧ d'.weight 2 < d.weight 2 := by
  have hstep : d.step = if start + a.delay + retry ≤ d.now then
      some { d with link := d.link.rested 0 } else none := by
    rw [step_of_one lone.count, stepLoop, lone.loop]
    rfl
  rw [hstep] at hs
  split at hs
  · next hwake =>
    obtain rfl := Option.some.inj hs
    have hnow : d.now = start + a.delay + retry := Nat.le_antisymm wake hwake
    obtain ⟨unbroken, began, rest, records⟩ := underway
    have hlone : Lone retry target .ready { d with link := d.link.rested 0 } :=
      lone.moved _ rfl rfl rfl rfl
    obtain ⟨-, -, hclient, hgeneration⟩ := setPhase_same 0 .ready d.link
    refine moves_of_less (.ready (past ++ [⟨start, a, none⟩]) hlone unbroken ?_ ?_) rfl
      fun k => ?_
    · rw [rest, course, failed, List.append_assoc, ← hnow]
      rfl
    · refine records.ended ?_ (Nat.le_add_right _ retry) hwake ?_ rfl rfl rfl
        (hclient.trans records.client) hgeneration
      · simp [Stage.next, Stage.finish, failed]
      · rw [failed]
        rfl
    · rw [lone.weight_resting, hlone.weight_ready]
      exact Nat.lt_succ_self _
  · cases hs

theorem stands_step (h : d.Stands retry target whole breaks) (hs : d.step = some d') :
    Moves retry target whole breaks d d' ∧
      (d.link.phase 0 ≠ some .ready → d'.weight 2 < d.weight 2) := by
  cases h with
  | ready past lone unbroken rest records =>
    exact ⟨step_ready lone unbroken rest records hs, fun hph => absurd lone.phase_eq hph⟩
  | dialling past start a lone dial due underway =>
    obtain ⟨hmoves, hless⟩ := step_dialling lone dial due underway hs
    exact ⟨hmoves, fun _ => hless⟩
  | linked past start a lone won elapsed underway =>
    have hstep : d.step = none := by
      rw [step_of_one lone.count, stepLoop, lone.loop]
      show d.notice 0 = none
      rw [notice, underway.unbroken]
      rfl
    cases hs.symm.trans hstep
  | parted past start a lone won elapsed broken rest records =>
    obtain ⟨hmoves, hless⟩ := step_parted lone won elapsed broken rest records hs
    exact ⟨hmoves, fun _ => hless⟩
  | resting past start a lone failed elapsed wake underway =>
    obtain ⟨hmoves, hless⟩ := step_resting lone failed wake underway hs
    exact ⟨hmoves, fun _ => hless⟩
  | crashed past start a lone crash elapsed underway =>
    have hstep : d.step = none := by
      rw [step_of_one lone.count, stepLoop, lone.loop]
      rfl
    cases hs.symm.trans hstep

/-! ### Time -/

theorem Stands.count (h : d.Stands retry target whole breaks) : d.link.count = 1 := by
  cases h with
  | ready _ lone => exact lone.count
  | dialling _ _ _ lone => exact lone.count
  | linked _ _ _ lone => exact lone.count
  | parted _ _ _ lone => exact lone.count
  | resting _ _ _ lone => exact lone.count
  | crashed _ _ _ lone => exact lone.count

theorem weight_le (k : Nat) (d : Dialling) : d.weight k ≤ k * d.script.length + 4 := by
  have hdial : ∀ outcome, dialWeight k d.script.length outcome ≤ k * d.script.length + 4 := by
    intro outcome
    cases outcome <;> simp only [dialWeight] <;> omega
  unfold weight
  split
  · omega
  · split
    · exact hdial _
    · omega
  · split <;> omega
  · omega
  · omega

/-- A settled connection stands where nothing can happen. If something could, fewer timers are left,
unless an attempt has only just been due. -/
theorem settle_stands (h : d.Stands retry target whole breaks) :
    d.settle.Stands retry target whole breaks ∧ d.settle.step = none ∧ d.settle.now = d.now ∧
      (d.link.phase 0 ≠ some .ready → d.step ≠ none → d.settle.weight 2 < d.weight 2) := by
  have hbound : d.weight 3 ≤ d.settleBound := by
    have hle := weight_le 3 d
    rw [settleBound, h.count]
    omega
  -- Steps are counted by `weight 3`; `weight 2` does not grow, and a step that does not dial lowers
  -- it.
  let P (e : Dialling) : Prop := e.Stands retry target whole breaks ∧ e.now = d.now ∧
    (d.link.phase 0 ≠ some .ready → e = d ∨ e.weight 2 < d.weight 2)
  have hstep : ∀ e e', P e → e.step = some e' → P e' ∧ e'.weight 3 < e.weight 3 := by
    rintro e e' ⟨hstands, hnow, hless⟩ hs
    obtain ⟨hmoves, hstrict⟩ := stands_step hstands hs
    refine ⟨⟨hmoves.stands, hmoves.now.trans hnow, fun hph => Or.inr ?_⟩, hmoves.less⟩
    rcases hless hph with rfl | hlt
    · exact hstrict hph
    · exact Nat.lt_of_le_of_lt hmoves.timers hlt
  obtain ⟨⟨hstands, hnow, hless⟩, hstuck, -⟩ :=
    settleWithin_spec hstep ⟨h, rfl, fun _ => Or.inl rfl⟩ hbound
  refine ⟨hstands, hstuck, hnow, fun hph hmore => ?_⟩
  rcases hless hph with hsame | hlt
  · rw [hsame] at hstuck
    exact absurd hstuck hmore
  · exact hlt

/-- When a timer of a loop goes off something can happen. -/
theorem step_of_timer (h : d.Stands retry target whole breaks) {t : Nat}
    (ht : d.nextTimer = some t) (hdue : t ≤ d.now) :
    d.link.phase 0 ≠ some .ready ∧ d.step ≠ none := by
  rw [nextTimer_of_one h.count, timer] at ht
  rw [step_of_one h.count, stepLoop]
  cases h with
  | ready past lone =>
    rw [lone.loop] at ht
    cases ht
  | dialling past start a lone dial =>
    rw [lone.phase_eq]
    refine ⟨by simp, ?_⟩
    rw [lone.loop, dial] at ht
    rw [lone.loop]
    show d.endDial 0 ≠ none
    rw [endDial, dial]
    cases ha : a.outcome with
    | never =>
      rw [ha] at ht
      cases ht
    | _ =>
      rw [ha] at ht
      obtain rfl := Option.some.inj ht
      simp [hdue]
  | linked past start a lone =>
    rw [lone.loop] at ht
    cases ht
  | parted past start a lone =>
    rw [lone.loop] at ht
    cases ht
  | resting past start a lone =>
    rw [lone.phase_eq]
    refine ⟨by simp, ?_⟩
    rw [lone.loop] at ht
    obtain rfl := Option.some.inj ht
    rw [lone.loop]
    simp [Link.Loop.finished, hdue]
  | crashed past start a lone =>
    rw [lone.loop] at ht
    cases ht

theorem Lone.later (h : d.Lone retry target phase) (t : Nat) :
    Lone retry target phase { d with now := t } :=
  ⟨h.scripted, h.count, h.delay, h.loop⟩

theorem Records.later {current : List Nat} {client : Option Nat} {won t : Nat}
    (h : d.Records retry target past current client won) (ht : d.now ≤ t) :
    Records retry target past current client won { d with now := t } := by
  refine ⟨h.log, h.attempts, fun s hs => ?_, h.client, h.generation⟩
  obtain ⟨u, hnext, hover, hu⟩ := h.done s hs
  exact ⟨u, hnext, hover, Nat.le_trans hu ht⟩

theorem Underway.later {start won t : Nat} {a : Attempt} {client : Option Nat}
    (h : d.Underway retry target whole breaks past start a client won) (ht : d.now ≤ t) :
    Underway retry target whole breaks past start a client won { d with now := t } :=
  ⟨h.unbroken, Nat.le_trans h.began ht, h.rest, h.records.later ht⟩

/-- A loop that has not begun can dial. -/
theorem Lone.can_dial (h : d.Lone retry target .ready) : d.step ≠ none := by
  rw [step_of_one h.count, stepLoop, h.loop]
  intro hs
  cases hs

/-- A loop can notice that its live link is broken. -/
theorem Lone.can_notice {client : Nat} (h : d.Lone retry target (.linked client))
    (broken : d.broken = [0]) : d.step ≠ none := by
  rw [step_of_one h.count, stepLoop, h.loop]
  show d.notice 0 ≠ none
  rw [notice, broken]
  intro hs
  cases hs

/-- When a dial that will end is under way, it is due later, unless something can happen now. -/
theorem due_of_stuck {start number : Nat} {a : Attempt} (lone : d.Lone retry target .dialling)
    (dial : d.dials.get? 0 = some ⟨start + a.delay, a.outcome, number⟩) (hs : d.step = none)
    (ha : a.outcome ≠ .never) : d.now < start + a.delay := by
  rw [step_of_one lone.count, stepLoop, lone.loop] at hs
  have hs : d.endDial 0 = none := hs
  rw [endDial, dial] at hs
  dsimp only at hs
  by_cases hdue : start + a.delay ≤ d.now
  · rw [if_pos hdue] at hs
    cases hout : a.outcome with
    | never => exact absurd hout ha
    | _ =>
      rw [hout] at hs
      cases hs
  · exact Nat.not_le.mp hdue

/-- A loop that rests wakes later, unless something can happen now. -/
theorem wake_of_stuck {wake : Nat} (lone : d.Lone retry target (.resting wake))
    (hs : d.step = none) : d.now < wake := by
  rw [step_of_one lone.count, stepLoop, lone.loop] at hs
  have hs : (if wake ≤ d.now then some { d with link := d.link.rested 0 } else none) = none := hs
  by_cases hwake : wake ≤ d.now
  · rw [if_pos hwake] at hs
    cases hs
  · exact Nat.not_le.mp hwake

/-- If nothing can happen, time can pass until the next timer goes off. -/
theorem stands_later (h : d.Stands retry target whole breaks) (hs : d.step = none) {t : Nat}
    (ht : d.now ≤ t) (htimer : ∀ u, d.nextTimer = some u → t ≤ u) :
    Stands retry target whole breaks { d with now := t } := by
  rw [nextTimer_of_one h.count, timer] at htimer
  cases h with
  | ready past lone => exact absurd hs lone.can_dial
  | dialling past start a lone dial due underway =>
    -- A dial that ends has a timer, so it is not passed over.
    have hlater : Underway retry target whole breaks past start a none 0 { d with now := t } :=
      underway.later ht
    refine .dialling past start a (lone.later t) dial (fun ha => ?_) hlater
    rw [lone.loop, dial] at htimer
    refine htimer _ ?_
    cases hout : a.outcome with
    | never => exact absurd hout ha
    | _ => rfl
  | linked past start a lone won elapsed underway =>
    exact .linked past start a (lone.later t) won (Nat.le_trans elapsed ht) (underway.later ht)
  | parted past start a lone won elapsed broken => exact absurd hs (lone.can_notice broken)
  | resting past start a lone failed elapsed wake underway =>
    rw [lone.loop] at htimer
    exact .resting past start a (lone.later t) failed (Nat.le_trans elapsed ht) (htimer _ rfl)
      (underway.later ht)
  | crashed past start a lone crash elapsed underway =>
    exact .crashed past start a (lone.later t) crash (Nat.le_trans elapsed ht) (underway.later ht)

/-- The next timer goes off, and everything happens that can then. Fewer timers are left. -/
theorem timer_stands (h : d.Stands retry target whole breaks) (hs : d.step = none) {u : Nat}
    (hu : d.nextTimer = some u) :
    d.now ≤ u ∧ (settle { d with now := u }).Stands retry target whole breaks ∧
      (settle { d with now := u }).step = none ∧ (settle { d with now := u }).now = u ∧
      (settle { d with now := u }).weight 2 < d.weight 2 := by
  have hnow : d.now ≤ u := by
    by_contra hlt
    exact (step_of_timer h hu (by omega)).2 hs
  have hstands : Stands retry target whole breaks { d with now := u } :=
    stands_later h hs hnow fun v hv => Nat.le_of_eq (Option.some.inj (hu.symm.trans hv))
  obtain ⟨hph, hmore⟩ := step_of_timer hstands hu (Nat.le_refl u)
  obtain ⟨hsettled, hstuck, hsame, hless⟩ := settle_stands hstands
  exact ⟨hnow, hsettled, hstuck, hsame, hless hph hmore⟩

/-- Time passes from timer to timer, and there are enough of them allowed for. -/
theorem passWithin_stands {fuel t : Nat} (h : d.Stands retry target whole breaks)
    (hs : d.step = none) (ht : d.now ≤ t) (hfuel : d.weight 2 ≤ fuel) :
    (d.passWithin fuel t).Stands retry target whole breaks ∧ (d.passWithin fuel t).now = t := by
  induction fuel generalizing d with
  | zero =>
    -- No timer is left: each that goes off leaves fewer.
    refine ⟨stands_later h hs ht fun u hu => ?_, rfl⟩
    obtain ⟨-, -, -, -, hless⟩ := timer_stands h hs hu
    omega
  | succ fuel ih =>
    rw [passWithin]
    cases hu : d.nextTimer with
    | none => exact ⟨stands_later h hs ht fun u hu' => (nomatch hu.symm.trans hu'), rfl⟩
    | some u =>
      obtain ⟨hnow, hstands, hstuck, hsame, hless⟩ := timer_stands h hs hu
      dsimp only
      rw [Nat.max_eq_left hnow]
      split
      -- The timer goes off on the way, or only after the time has passed.
      · next hut => exact ih hstands hstuck (Nat.le_trans (Nat.le_of_eq hsame) hut) (by omega)
      · next hut =>
        refine ⟨stands_later h hs ht fun v hv => ?_, rfl⟩
        rw [← Option.some.inj (hu.symm.trans hv)]
        exact Nat.le_of_lt (Nat.not_le.mp hut)

/-- Time passes, and everything that can happen meanwhile happens. -/
theorem advance_stands (h : d.Stands retry target whole breaks) (hs : d.step = none) (ms : Nat) :
    (d.advance ms).Stands retry target whole breaks ∧ (d.advance ms).step = none ∧
      (d.advance ms).now = d.now + ms := by
  have hfuel : d.weight 2 ≤ 2 * (d.script.length + d.link.count + 1) := by
    have hle := weight_le 2 d
    rw [h.count]
    omega
  obtain ⟨hstands, hnow⟩ := passWithin_stands h hs (Nat.le_add_right d.now ms) hfuel
  obtain ⟨hsettled, hstuck, hsame, -⟩ := settle_stands hstands
  exact ⟨hsettled, hstuck, hsame.trans hnow⟩

/-! ### Breaks -/

/-- The break of a link that there is not changes nothing. -/
theorem breakLink_eq (h : d.Lone retry target phase) :
    d.breakLink = match phase with
      | .linked _ => { d with broken := 0 :: d.broken }
      | _ => d := by
  have hlinked : d.linkedLoop = match phase with
      | .linked _ => some 0
      | _ => none := by
    rw [linkedLoop, h.count]
    show [0].find? _ = _
    cases phase <;> simp [h.phase_eq]
  rw [breakLink, h.scripted, hlinked]
  cases phase <;> rfl

/-- A break before there is a link is without effect. -/
theorem Underway.early {start won : Nat} {a : Attempt} {client : Option Nat}
    (h : d.Underway retry target whole (d.now :: breaks) past start a client won)
    (hwon : a.outcome = .success → d.now < start + a.delay)
    (hfailed : a.outcome = .failure → d.now < start + a.delay + retry) :
    d.Underway retry target whole breaks past start a client won :=
  ⟨h.unbroken, h.began, h.rest.trans (by rw [course_cons_early hwon hfailed]), h.records⟩

/-- The live link breaks, if there is one. -/
theorem breakLink_stands (h : d.Stands retry target whole (d.now :: breaks)) (hs : d.step = none) :
    d.breakLink.Stands retry target whole breaks := by
  cases h with
  | ready past lone => exact absurd hs lone.can_dial
  | dialling past start a lone dial due underway =>
    rw [breakLink_eq lone]
    have hdue : a.outcome ≠ .never → d.now < start + a.delay := due_of_stuck lone dial hs
    refine .dialling past start a lone dial due (underway.early (fun ha => ?_) fun ha => ?_)
    · exact hdue (by rw [ha]; decide)
    · exact Nat.lt_of_lt_of_le (hdue (by rw [ha]; decide)) (Nat.le_add_right _ _)
  | linked past start a lone won elapsed underway =>
    rw [breakLink_eq lone]
    obtain ⟨unbroken, began, rest, records⟩ := underway
    refine .parted past start a ⟨lone.scripted, lone.count, lone.delay, lone.loop⟩ won elapsed
      (congrArg (0 :: ·) unbroken) ?_ ⟨records.log, records.attempts, records.done, records.client,
        records.generation⟩
    -- The breaks before the link have been left out, so this one is the first in the course.
    rw [rest, course, won]
    simp [Nat.not_lt.mpr elapsed]
  | parted past start a lone won elapsed broken => exact absurd hs (lone.can_notice broken)
  | resting past start a lone failed elapsed wake underway =>
    rw [breakLink_eq lone]
    refine .resting past start a lone failed elapsed wake
      (underway.early (fun ha => ?_) fun _ => ?_)
    · rw [failed] at ha
      cases ha
    · exact wake_of_stuck lone hs
  | crashed past start a lone crash elapsed underway =>
    rw [breakLink_eq lone]
    refine .crashed past start a lone crash elapsed (underway.early (fun ha => ?_) fun ha => ?_) <;>
    · rw [crash] at ha
      cases ha

/-! ### Whole runs -/

/-- Every event is one of the course. -/
theorem happen_stands {events : List Event}
    (h : d.Stands retry target whole (breakTimes d.now events)) (hs : d.step = none) :
    (events.foldl happen d).Stands retry target whole [] ∧ (events.foldl happen d).step = none ∧
      (events.foldl happen d).now = d.now + span events := by
  induction events generalizing d with
  | nil => exact ⟨h, hs, rfl⟩
  | cons event events ih =>
    cases event with
    | pass ms =>
      have h : d.Stands retry target whole (breakTimes (d.now + ms) events) := h
      obtain ⟨hstands, hstuck, hnow⟩ := advance_stands h hs ms
      rw [← hnow] at hstands
      obtain ⟨hend, hstuck', hnow'⟩ := ih hstands hstuck
      refine ⟨hend, hstuck', hnow'.trans ?_⟩
      rw [hnow, span]
      omega
    | breaks =>
      have hbroken := breakLink_stands h hs
      obtain ⟨hstands, hstuck, hnow, -⟩ := settle_stands hbroken
      have hsame : d.breakLink.now = d.now := by
        unfold breakLink
        split
        · rfl
        · split <;> rfl
      have hnow := hnow.trans hsame
      rw [← hnow] at hstands
      obtain ⟨hend, hstuck', hnow'⟩ := ih hstands hstuck
      exact ⟨hend, hstuck', hnow'.trans (congrArg (· + span events) hnow)⟩

/-- Nothing happens to a connection that has never been opened. -/
theorem happen_unopened (events : List Event) (h : d.link.count = 0) :
    events.foldl happen d = { d with now := d.now + span events } := by
  have hstep : ∀ e : Dialling, e.link.count = 0 → e.step = none := fun e he => by
    rw [step, he]
    rfl
  have hsettle : ∀ e : Dialling, e.link.count = 0 → e.settle = e := fun e he =>
    settleWithin_of_stuck (hstep e he) _
  induction events generalizing d with
  | nil => rfl
  | cons event events ih =>
    have hhappen : d.happen event = { d with now := d.now + span [event] } := by
      cases event with
      | pass ms =>
        have htimer : d.nextTimer = none := by
          rw [nextTimer, h]
          rfl
        have hpass : ∀ fuel, d.passWithin fuel (d.now + ms) = { d with now := d.now + ms } := by
          intro fuel
          cases fuel with
          | zero => rfl
          | succ fuel => rw [passWithin, htimer]
        show settle (d.passWithin _ (d.now + ms)) = _
        rw [hpass]
        exact hsettle { d with now := d.now + ms } h
      | breaks =>
        have hbreak : d.breakLink = d := by
          have hlinked : d.linkedLoop = none := by
            rw [linkedLoop, h]
            rfl
          rw [breakLink, hlinked]
          split <;> rfl
        show d.breakLink.settle = d
        rw [hbreak, hsettle d h]
    have hrest := ih (d := { d with now := d.now + span [event] }) h
    rw [List.foldl_cons, hhappen, hrest]
    cases event <;> simp [span, Nat.add_assoc]

/-! ### The records of a settled connection -/

/-- What is known of a connection for which nothing is left to happen now. -/
structure Kept (retry : Nat) (target : String) (whole past : List Stage) (current : Stage)
    (rest : List Stage) (d : Dialling) : Prop where
  whole : whole = past ++ current :: rest
  began : current.start ≤ d.now
  next : ∀ t, current.next retry = some t → d.now < t
  records : d.Records retry target past [current.start]
    (if current.liveAt d.now then some (past.length + 1) else none)
    (if current.wonBy d.now then 1 else 0)

theorem Underway.kept {start won : Nat} {a : Attempt} {client : Option Nat}
    (h : d.Underway retry target whole [] past start a client won)
    (hfailed : a.outcome = .failure → d.now < start + a.delay + retry)
    (hclient : client = if Stage.wonBy d.now ⟨start, a, none⟩ then some (past.length + 1) else none)
    (hwon : won = if Stage.wonBy d.now ⟨start, a, none⟩ then 1 else 0) :
    ∃ past current rest, Kept retry target whole past current rest d := by
  obtain ⟨rest, hrest⟩ := course_unbroken retry a d.script start
  have hlive : Stage.liveAt d.now ⟨start, a, none⟩ = Stage.wonBy d.now ⟨start, a, none⟩ := by
    simp [Stage.liveAt]
  refine ⟨past, ⟨start, a, none⟩, rest, h.rest.trans (by rw [hrest]), h.began, fun t ht => ?_, ?_⟩
  · unfold Stage.next at ht
    cases ha : a.outcome with
    | failure =>
      simp only [ha] at ht
      rw [← Option.some.inj ht]
      exact hfailed ha
    | _ =>
      simp only [ha] at ht
      cases ht
  · rw [hlive, ← hclient, ← hwon]
    exact h.records

theorem Stands.kept (h : d.Stands retry target whole []) (hs : d.step = none) :
    ∃ past current rest, Kept retry target whole past current rest d := by
  cases h with
  | ready past lone => exact absurd hs lone.can_dial
  | dialling past start a lone dial due underway =>
    have hdue : a.outcome ≠ .never → d.now < start + a.delay := due_of_stuck lone dial hs
    have hwon : Stage.wonBy d.now ⟨start, a, none⟩ = false := by
      by_cases ha : a.outcome = .success
      · have hlt := hdue (by rw [ha]; decide)
        show (a.outcome == .success && decide (start + a.delay ≤ d.now)) = false
        rw [decide_eq_false (Nat.not_le.mpr hlt), Bool.and_false]
      · simp [Stage.wonBy, ha]
    refine underway.kept (fun ha => ?_) (by rw [hwon]; rfl) (by rw [hwon]; rfl)
    exact Nat.lt_of_lt_of_le (hdue (by rw [ha]; decide)) (Nat.le_add_right _ _)
  | linked past start a lone won elapsed underway =>
    have hwon : Stage.wonBy d.now ⟨start, a, none⟩ = true := by
      simp [Stage.wonBy, Stage.finish, won, elapsed]
    refine underway.kept (fun ha => ?_) (by rw [hwon]; rfl) (by rw [hwon]; rfl)
    rw [won] at ha
    cases ha
  | parted past start a lone won elapsed broken => exact absurd hs (lone.can_notice broken)
  | resting past start a lone failed elapsed wake underway =>
    have hwon : Stage.wonBy d.now ⟨start, a, none⟩ = false := by simp [Stage.wonBy, failed]
    exact underway.kept (fun _ => wake_of_stuck lone hs) (by rw [hwon]; rfl) (by rw [hwon]; rfl)
  | crashed past start a lone crash elapsed underway =>
    have hwon : Stage.wonBy d.now ⟨start, a, none⟩ = false := by simp [Stage.wonBy, crash]
    refine underway.kept (fun ha => ?_) (by rw [hwon]; rfl) (by rw [hwon]; rfl)
    rw [crash] at ha
    cases ha

/-- What has been begun is the past and the current attempt. -/
theorem Kept.begun {current : Stage} {rest : List Stage}
    (h : d.Kept retry target whole past current rest) (hchain : whole.IsChain (Follows retry)) :
    whole.takeWhile (·.start ≤ d.now) = past ++ [current] := by
  have hpast : ∀ s ∈ past, decide (s.start ≤ d.now) = true := by
    intro s hs
    obtain ⟨t, -, hover, ht⟩ := h.records.done s hs
    have hstart : s.start ≤ s.finish := Nat.le_add_right _ _
    exact decide_eq_true (Nat.le_trans hstart (Nat.le_trans hover ht))
  have hrest : rest.takeWhile (·.start ≤ d.now) = [] := by
    cases rest with
    | nil => rfl
    | cons s rest =>
      have hcurrent : (current :: s :: rest).IsChain (Follows retry) := by
        rw [h.whole] at hchain
        exact hchain.right_of_append
      have hlater := h.next s.start (List.isChain_cons_cons.mp hcurrent).1.1
      rw [List.takeWhile_cons, if_neg]
      simpa using hlater
  rw [h.whole, List.takeWhile_append_of_pos hpast, List.takeWhile_cons,
    if_pos (decide_eq_true h.began), hrest]

/-- An attempt of the past has left nothing behind but its number. -/
theorem Kept.gone {current : Stage} {rest : List Stage}
    (h : d.Kept retry target whole past current rest) {s : Stage} (hs : s ∈ past) :
    s.liveAt d.now = false ∧ s.pendingAt retry d.now = false ∧
      s.wonBy d.now = (s.attempt.outcome == .success) :=
  not_liveAt_of_done (h.records.done s hs)

/-- The client in use is that of the attempt with a live link. -/
theorem Kept.client_eq_some_iff {current : Stage} {rest : List Stage}
    (h : d.Kept retry target whole past current rest) (c : Nat) :
    d.link.client = some c ↔
      ∃ k s, c = k + 1 ∧ (past ++ [current])[k]? = some s ∧ s.liveAt d.now = true := by
  rw [h.records.client]
  constructor
  · intro hc
    split at hc
    · next hlive =>
      refine ⟨past.length, current, (Option.some.inj hc).symm, ?_, hlive⟩
      rw [List.getElem?_append_right (Nat.le_refl _), Nat.sub_self]
      rfl
    · cases hc
  · rintro ⟨k, s, rfl, hs, hlive⟩
    rcases Nat.lt_or_ge k past.length with hk | hk
    · rw [List.getElem?_append_left hk] at hs
      rw [(h.gone (List.mem_of_getElem? hs)).1] at hlive
      cases hlive
    · rw [List.getElem?_append_right hk] at hs
      have hzero : k - past.length = 0 := by
        have hlt := (List.getElem?_eq_some_iff.mp hs).1
        exact Nat.lt_one_iff.mp hlt
      rw [hzero] at hs
      obtain rfl := Option.some.inj hs
      have hk : k = past.length := by omega
      rw [if_pos hlive, hk]

/-- There is no client while an attempt is under way or waited for. -/
theorem Kept.client_of_pending {current : Stage} {rest : List Stage}
    (h : d.Kept retry target whole past current rest) {s : Stage} (hs : s ∈ past ++ [current])
    (hpending : s.pendingAt retry d.now = true) : d.link.client = none := by
  rcases List.mem_append.mp hs with hs | hs
  · rw [(h.gone hs).2.1] at hpending
    cases hpending
  · obtain rfl := List.mem_singleton.mp hs
    rw [h.records.client, not_liveAt_of_pending hpending]
    rfl

/-- The generation is the number of attempts that have succeeded. -/
theorem Kept.generation_eq {current : Stage} {rest : List Stage}
    (h : d.Kept retry target whole past current rest) :
    d.link.generation = (past ++ [current]).countP (·.wonBy d.now) := by
  have hcount : past.countP (·.wonBy d.now) = past.countP (·.attempt.outcome == .success) :=
    List.countP_congr fun s hs => by rw [(h.gone hs).2.2]
  rw [h.records.generation, List.countP_append, hcount, List.countP_singleton]

/-- A connection that is opened after some events stands in its course after others. -/
theorem watched_stands (name target : String) (retry : Nat) (script : List Attempt)
    (before after : List Event) :
    let d := (ofScript (Link.create name target retry) script false).watched before after
    d.Stands retry target
        (course retry script (breakTimes (span before) after) (span before)) [] ∧
      d.step = none ∧ d.now = span before + span after := by
  let unopened := ofScript (Link.create name target retry) script false
  have hbefore : before.foldl happen unopened = { unopened with now := span before } := by
    rw [happen_unopened before rfl]
    show Dialling.mk (0 + span before) _ _ _ _ _ _ _ = _
    rw [Nat.zero_add]
  have hready : Stands retry target
      (course retry script (breakTimes (span before) after) (span before))
      (breakTimes (span before) after) (open_ { unopened with now := span before }) :=
    .ready [] ⟨rfl, rfl, rfl, rfl⟩ rfl rfl ⟨rfl, rfl, fun _ hs => (nomatch hs), rfl, rfl⟩
  obtain ⟨hstands, hstuck, hnow, -⟩ := settle_stands hready
  have hnow : (open_ { unopened with now := span before }).settle.now = span before := hnow
  intro d
  have hd : d = after.foldl happen (open_ { unopened with now := span before }).settle := by
    rw [← hbefore]
    rfl
  rw [hd]
  generalize (open_ { unopened with now := span before }).settle = e at hstands hstuck hnow ⊢
  rw [← hnow] at hstands ⊢
  exact happen_stands hstands hstuck

end

/-- A connection is opened after some events and watched during others. What it has dialled is the
course up to now: the first attempt starts when it is opened and each of the others when the one
before fails, a retry delay later, or when its link breaks, and none is missing. The client of an
attempt is in use exactly while its link is live, so there is none while an attempt is under way or
waited for, and the generation is the number of attempts that have succeeded. -/
theorem schedule_kept (name target : String) (retry : Nat) (script : List Attempt)
    (before after : List Event) :
    let d := (ofScript (Link.create name target retry) script false).watched before after
    let opened := span before
    let begun :=
      (course retry script (breakTimes opened after) opened).takeWhile (·.start ≤ d.now)
    d.now = opened + span after ∧
      d.log = begun.map (fun s => (s.start, target)) ∧
      (∀ k s, begun[k]? = some s → s.attempt = script.getD k ⟨0, .success⟩) ∧
      begun.head?.map Stage.start = some opened ∧
      begun.IsChain (Follows retry) ∧
      (∀ s ∈ begun.getLast?, ∀ t, s.next retry = some t → d.now < t) ∧
      (∀ c, d.link.client = some c ↔
        ∃ k s, c = k + 1 ∧ begun[k]? = some s ∧ s.liveAt d.now = true) ∧
      (∀ s ∈ begun, s.pendingAt retry d.now = true → d.link.client = none) ∧
      d.link.generation = begun.countP (·.wonBy d.now) := by
  intro d opened begun
  obtain ⟨hstands, hstuck, hnow⟩ := watched_stands name target retry script before after
  have hchain := course_isChain retry script (breakTimes opened after) opened
  obtain ⟨past, current, rest, hkept⟩ := hstands.kept hstuck
  have hbegun : begun = past ++ [current] := hkept.begun hchain
  have hprefix : begun <+: course retry script (breakTimes opened after) opened :=
    List.takeWhile_prefix _
  refine ⟨hnow, ?_, fun k s hs => ?_, ?_, hchain.prefix hprefix, ?_, ?_, ?_, ?_⟩
  · rw [hbegun]
    exact hkept.records.log.trans (by simp)
  · obtain ⟨later, hwhole⟩ := hprefix
    have hs' : (course retry script (breakTimes opened after) opened)[k]? = some s := by
      rw [← hwhole, List.getElem?_append_left (List.getElem?_eq_some_iff.mp hs).1]
      exact hs
    exact course_attempt hs'
  · obtain ⟨a, broken, later, hcourse⟩ :=
      course_head retry script (breakTimes opened after) opened
    obtain ⟨later', hwhole⟩ := hprefix
    rw [hcourse] at hwhole
    cases hb : begun with
    | nil =>
      rw [hb] at hbegun
      cases past <;> cases hbegun
    | cons first others =>
      rw [hb] at hwhole
      rw [(List.cons.inj hwhole).1]
      rfl
  · rw [hbegun, List.getLast?_concat]
    rintro s ⟨⟩
    exact hkept.next
  · rw [hbegun]
    exact hkept.client_eq_some_iff
  · rw [hbegun]
    intro s hs
    exact hkept.client_of_pending hs
  · rw [hbegun]
    exact hkept.generation_eq

end NodeStack.Scenario.Dialling
