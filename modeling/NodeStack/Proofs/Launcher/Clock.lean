import NodeStack.Proofs.Launcher.Deadline
import NodeStack.Scenario.Attached

/-!
# `NodeStack.Proofs.Launcher.Clock`: launchers on a virtual clock

The virtual clock goes from deadline to deadline and looks at every call in between. So it comes to a
deadline while the call is still there, and does not go on before the call is over.

* `Tracks`: the tasks hold the calls under way, each once. `Tracks.beside`, `Tracks.ended` and
  `Tracks.started` say what the kinds of acts do to it.
* `pollAll_kept`, `Kept.settle`: looks at all calls are acts on the clock, and after them every
  deadline is yet to come.
* `Kept.passWithin`: every deadline on the way ends a call, so the steps provided are enough.
* `settled_run`: after any events, launchers and calls are what some acts on the clock make of them.
* `calls_end_in_time`: what a clock does for calls, and that the virtual clock is one.
-/

set_option autoImplicit false

namespace NodeStack.Scenario

open NodeStack.Launcher
open NodeStack.Launcher.Roster (Act Clocked UnderWay)

/-! ### Calls under way -/

namespace CallTask

/-- The call that is under way, if one is. -/
def call? : Option CallTask → Option Call
  | some (.underWay c) => some c
  | _ => none

end CallTask

namespace Attached

/-- The calls under way among some tasks. -/
def callsOf (tasks : List (Option CallTask)) : List Call := tasks.filterMap CallTask.call?

theorem mem_callsOf {tasks : List (Option CallTask)} {c : Call} :
    c ∈ callsOf tasks ↔ some (.underWay c) ∈ tasks := by
  rw [callsOf, List.mem_filterMap]
  constructor
  · rintro ⟨task, hmem, hcall⟩
    rcases task with _ | _ | _ <;> cases hcall
    exact hmem
  · exact fun hmem => ⟨_, hmem, rfl⟩

/-- What the tasks say of the calls that some acts have begun: each that is under way is there
once. -/
structure Tracks (acts : List Act) (calls : List Call) : Prop where
  mem_iff : ∀ c, c ∈ calls ↔ ∃ after, UnderWay acts c after
  nodup : calls.Nodup

section
variable {acts : List Act} {act : Act} {calls : List Call} {c d : Call} {now : Nat}

theorem underWay_concat_of_not_started (h : ∀ r, act.started? r = none) :
    (∃ after, UnderWay (acts ++ [act]) c after) ↔
      (∃ after, UnderWay acts c after) ∧ ¬act.Ends c (Roster.empty.run acts) := by
  constructor
  · rintro ⟨after, hw⟩
    rcases Roster.underWay_concat.mp hw with ⟨earlier, -, hold⟩ | ⟨-, hstarted⟩
    · exact ⟨⟨earlier, hold.1⟩, hold.2⟩
    · rw [h] at hstarted
      cases hstarted
  · rintro ⟨⟨earlier, hold⟩, hends⟩
    exact ⟨_, Roster.underWay_concat.mpr (.inl ⟨earlier, rfl, hold, hends⟩)⟩

/-- An act that begins no call and ends none. -/
theorem Tracks.beside (h : Tracks acts calls) (hstarted : ∀ r, act.started? r = none)
    (hends : ∀ c ∈ calls, ¬act.Ends c (Roster.empty.run acts)) : Tracks (acts ++ [act]) calls where
  mem_iff := fun c => by
    rw [underWay_concat_of_not_started hstarted, ← h.mem_iff]
    exact ⟨fun hc => ⟨hc, hends c hc⟩, And.left⟩
  nodup := h.nodup

/-- An act that ends one call. -/
theorem Tracks.ended {before later : List Call} (h : Tracks acts (before ++ c :: later))
    (hstarted : ∀ r, act.started? r = none)
    (hends : ∀ d, act.Ends d (Roster.empty.run acts) ↔ d = c) :
    Tracks (acts ++ [act]) (before ++ later) := by
  have hnodup := h.nodup
  rw [List.nodup_middle, List.nodup_cons] at hnodup
  refine ⟨fun d => ?_, hnodup.2⟩
  rw [underWay_concat_of_not_started hstarted, ← h.mem_iff, hends]
  constructor
  · intro hd
    refine ⟨?_, fun hdc => hnodup.1 (hdc ▸ hd)⟩
    rcases List.mem_append.mp hd with hd | hd
    · exact List.mem_append_left _ hd
    · exact List.mem_append_right _ (List.mem_cons_of_mem _ hd)
  · rintro ⟨hd, hdc⟩
    rcases List.mem_append.mp hd with hd | hd
    · exact List.mem_append_left _ hd
    · exact List.mem_append_right _ ((List.mem_cons.mp hd).resolve_left hdc)

/-- An act that begins a call, which is under way or over at once. -/
theorem Tracks.started (h : Tracks acts calls) {started : Except Launcher.Fault Json ⊕ Call}
    (hstarted : act.started? (Roster.empty.run acts) = some started) :
    Tracks (acts ++ [act]) (calls ++ (started.elim (fun _ => []) fun c => [c])) := by
  have hends : ∀ d, ¬act.Ends d (Roster.empty.run acts) := by
    rintro d (rfl | ⟨t, outcome, rfl, -⟩) <;> cases hstarted
  have hmem : ∀ d, (∃ after, UnderWay (acts ++ [act]) d after) ↔
      d ∈ calls ∨ started = .inr d := by
    intro d
    rw [h.mem_iff]
    constructor
    · rintro ⟨after, hw⟩
      rcases Roster.underWay_concat.mp hw with ⟨earlier, -, hold, -⟩ | ⟨-, hnew⟩
      · exact .inl ⟨earlier, hold⟩
      · exact .inr (Option.some.inj (hstarted.symm.trans hnew))
    · rintro (⟨earlier, hold⟩ | rfl)
      · exact ⟨_, Roster.underWay_concat.mpr (.inl ⟨earlier, rfl, hold, hends d⟩)⟩
      · exact ⟨_, Roster.underWay_concat.mpr (.inr ⟨rfl, hstarted⟩)⟩
  cases started with
  | inl outcome => exact ⟨fun d => by simp [hmem], by simpa using h.nodup⟩
  | inr c =>
    refine ⟨fun d => by simp [hmem, eq_comm], ?_⟩
    -- the call is a new one
    have hnew : c ∉ calls := by
      intro hc
      obtain ⟨after, hw⟩ := (h.mem_iff c).mp hc
      obtain ⟨t, hopens⟩ := Roster.opens_of_started? hstarted
      exact hw.begun.not_opens rfl rfl hopens
    exact List.nodup_append.mpr ⟨h.nodup, List.nodup_singleton c, by
      intro d hd e he hde
      rw [List.mem_singleton.mp he] at hde
      exact hnew (hde ▸ hd)⟩

end

/-! ### Looking at every call -/

/-- The launchers and calls are what some acts on the clock have made of them. -/
structure Kept (acts : List Act) (a : Attached) : Prop where
  clocked : Clocked a.now acts
  roster : a.roster = Roster.empty.run acts
  tracks : Tracks acts (callsOf a.tasks)

section
variable {acts : List Act} {now : Nat} {a : Attached}

theorem callsOf_cons (task : Option CallTask) (tasks : List (Option CallTask)) :
    callsOf (task :: tasks) = (CallTask.call? task).toList ++ callsOf tasks := by
  cases h : CallTask.call? task <;> simp [callsOf, h]

theorem pollTask_kept {before later : List Call} (task : Option CallTask)
    (hclocked : Clocked now acts)
    (h : Tracks acts (before ++ (CallTask.call? task).toList ++ later)) :
    ∃ more, Clocked now (acts ++ more) ∧
      (pollTask now task (Roster.empty.run acts)).2 = Roster.empty.run (acts ++ more) ∧
      Tracks (acts ++ more) (before ++
        (CallTask.call? (pollTask now task (Roster.empty.run acts)).1).toList ++ later) ∧
      ∀ c, CallTask.call? (pollTask now task (Roster.empty.run acts)).1 = some c →
        CallTask.call? task = some c ∧ now < c.deadline := by
  have hidle : ∀ {task : Option CallTask}, CallTask.call? task = none →
      Tracks acts (before ++ (CallTask.call? task).toList ++ later) →
      ∃ more, Clocked now (acts ++ more) ∧
        Roster.empty.run acts = Roster.empty.run (acts ++ more) ∧
        Tracks (acts ++ more) (before ++ (CallTask.call? task).toList ++ later) ∧
        ∀ c, CallTask.call? task = some c → CallTask.call? task = some c ∧ now < c.deadline := by
    intro task hno h
    refine ⟨[], by rwa [List.append_nil], by rw [List.append_nil], by rwa [List.append_nil], ?_⟩
    intro c hc
    rw [hno] at hc
    cases hc
  cases task with
  | none => exact hidle rfl h
  | some task =>
    cases task with
    | ended outcome => exact hidle rfl h
    | underWay c =>
      have hc : c ∈ before ++ [c] ++ later := by simp
      have hclocked' : Clocked now (acts ++ [.look now c]) :=
        .act hclocked ⟨rfl, (h.mem_iff c).mp hc⟩
      have hrun : Roster.empty.run (acts ++ [.look now c]) =
          (c.poll now (Roster.empty.run acts)).2 := Roster.run_append _ _ _
      simp only [pollTask]
      cases hpoll : c.poll now (Roster.empty.run acts) with
      | mk fate r =>
        rw [hpoll] at hrun
        have hends : ∀ d, (Act.look now c).Ends d (Roster.empty.run acts) ↔
            d = c ∧ ∃ outcome, fate = .ended outcome := by
          intro d
          constructor
          · rintro (he | ⟨t, outcome, he, hended⟩)
            · cases he
            · cases he
              exact ⟨rfl, outcome, (congrArg Prod.fst hpoll).symm.trans hended⟩
          · rintro ⟨rfl, outcome, rfl⟩
            exact .inr ⟨now, outcome, rfl, congrArg Prod.fst hpoll⟩
        cases fate with
        | ended outcome =>
          refine ⟨[.look now c], hclocked', hrun.symm, ?_, fun d hd => by cases hd⟩
          have hsplit : Tracks acts (before ++ c :: later) := by
            simpa [CallTask.call?] using h
          have hended : Tracks (acts ++ [.look now c]) (before ++ later) :=
            hsplit.ended (fun _ => rfl) fun d => by
              rw [hends]
              simp
          simpa [CallTask.call?] using hended
        | underWay =>
          refine ⟨[.look now c], hclocked', hrun.symm, ?_, ?_⟩
          · refine h.beside (fun _ => rfl) fun d _ hd => ?_
            obtain ⟨-, outcome, he⟩ := (hends d).mp hd
            cases he
          · rintro d hd
            cases hd
            refine ⟨rfl, Nat.lt_of_not_le fun hdue => ?_⟩
            obtain ⟨outcome, hended⟩ := Roster.exists_ended c (Roster.empty.run acts) hdue
            rw [hpoll] at hended
            cases hended

/-- Every call is looked at, so none is under way afterwards whose deadline has come. -/
theorem pollAll_kept {before : List Call} (tasks : List (Option CallTask)) (acts : List Act)
    (hclocked : Clocked now acts) (h : Tracks acts (before ++ callsOf tasks)) :
    ∃ more, Clocked now (acts ++ more) ∧
      (pollAll now tasks (Roster.empty.run acts)).2 = Roster.empty.run (acts ++ more) ∧
      Tracks (acts ++ more) (before ++ callsOf (pollAll now tasks (Roster.empty.run acts)).1) ∧
      (callsOf (pollAll now tasks (Roster.empty.run acts)).1).Sublist (callsOf tasks) ∧
      (pollAll now tasks (Roster.empty.run acts)).1.length = tasks.length ∧
      ∀ c ∈ callsOf (pollAll now tasks (Roster.empty.run acts)).1, now < c.deadline := by
  induction tasks generalizing before acts with
  | nil =>
    refine ⟨[], by rwa [List.append_nil], by rw [List.append_nil]; rfl, by rwa [List.append_nil],
      List.Sublist.refl _, rfl, fun c hc => by cases hc⟩
  | cons task tasks ih =>
    rw [callsOf_cons, ← List.append_assoc] at h
    obtain ⟨more, hclocked', hroster, htracks, hfirst⟩ := pollTask_kept task hclocked h
    simp only [pollAll]
    cases hpoll : pollTask now task (Roster.empty.run acts) with
    | mk task' r =>
      rw [hpoll] at hroster htracks hfirst
      obtain rfl : r = Roster.empty.run (acts ++ more) := hroster
      obtain ⟨rest, hclocked'', hroster', htracks', hsub, hlength, hdue⟩ :=
        ih (acts ++ more) hclocked' htracks
      refine ⟨more ++ rest, ?_⟩
      rw [← List.append_assoc acts]
      simp only [callsOf_cons, List.length_cons, ← List.append_assoc before]
      refine ⟨hclocked'', hroster', htracks', List.Sublist.append ?_ hsub, by rw [hlength], ?_⟩
      · show (CallTask.call? task').toList.Sublist _
        cases hcall : CallTask.call? task' with
        | none => exact List.nil_sublist _
        | some c =>
          rw [(hfirst c hcall).1]
      · intro c hc
        rcases List.mem_append.mp hc with hc | hc
        · exact (hfirst c (Option.mem_toList.mp hc)).2
        · exact hdue c hc

/-- What settling leaves: the calls that were under way before and whose deadline is yet to come. -/
theorem Kept.settle (h : Kept acts a) :
    ∃ more, Kept (acts ++ more) a.settle ∧ a.settle.now = a.now ∧
      (callsOf a.settle.tasks).Sublist (callsOf a.tasks) ∧
      a.settle.tasks.length = a.tasks.length ∧
      ∀ c ∈ callsOf a.settle.tasks, a.now < c.deadline := by
  have hall : ∀ (fuel : Nat) (acts : List Act) (a : Attached), Kept acts a →
      ∃ more, Kept (acts ++ more) (a.settleWithin fuel) ∧ (a.settleWithin fuel).now = a.now ∧
        (callsOf (a.settleWithin fuel).tasks).Sublist (callsOf a.tasks) ∧
        (a.settleWithin fuel).tasks.length = a.tasks.length ∧
        (fuel ≠ 0 ∨ (∀ c ∈ callsOf a.tasks, a.now < c.deadline) →
          ∀ c ∈ callsOf (a.settleWithin fuel).tasks, a.now < c.deadline) := by
    intro fuel
    induction fuel with
    | zero =>
      intro acts a h
      exact ⟨[], by rwa [List.append_nil], rfl, List.Sublist.refl _, rfl,
        fun hdue => hdue.resolve_left fun h => h rfl⟩
    | succ fuel ih =>
      intro acts a h
      have htracks : Tracks acts ([] ++ callsOf a.tasks) := h.tracks
      obtain ⟨more, hclocked, hroster, htracks', hsub, hlength, hdue⟩ :=
        pollAll_kept a.tasks acts h.clocked htracks
      rw [← h.roster] at hroster htracks' hsub hlength hdue
      obtain ⟨rest, hkept, hnow, hsub', hlength', hdue'⟩ :=
        ih (acts ++ more)
          { a with
            tasks := (pollAll a.now a.tasks a.roster).1
            roster := (pollAll a.now a.tasks a.roster).2 }
          ⟨hclocked, hroster, htracks'⟩
      rw [List.append_assoc] at hkept
      exact ⟨more ++ rest, hkept, hnow, hsub'.trans hsub, hlength'.trans hlength,
        fun _ => hdue' (.inr hdue)⟩
  obtain ⟨more, hkept, hnow, hsub, hlength, hdue⟩ := hall (a.tasks.length + 1) acts a h
  exact ⟨more, hkept, hnow, hsub, hlength, hdue (.inl (Nat.succ_ne_zero _))⟩

/-! ### Time passes -/

theorem filterMap_deadline (tasks : List (Option CallTask)) :
    tasks.filterMap deadline = (callsOf tasks).map Call.deadline := by
  induction tasks with
  | nil => rfl
  | cons task tasks ih =>
    rw [callsOf_cons, List.map_append, ← ih]
    cases task with
    | none => rfl
    | some task => cases task <;> rfl

/-- Time goes on to a moment that no deadline comes before. -/
theorem Kept.pass (h : Kept acts a) {later : Nat} (hle : a.now ≤ later)
    (hdue : ∀ c ∈ callsOf a.tasks, later ≤ c.deadline) : Kept acts { a with now := later } where
  clocked := .pass h.clocked hle fun c after hw => hdue c ((h.tracks.mem_iff c).mpr ⟨after, hw⟩)
  roster := h.roster
  tracks := h.tracks

/-- Every deadline on the way ends a call, so there are no more of them than calls. -/
theorem Kept.passWithin (fuel : Nat) (h : Kept acts a) {target : Nat} (hle : a.now ≤ target)
    (hfuel : (callsOf a.tasks).length ≤ fuel) (hlive : ∀ c ∈ callsOf a.tasks, a.now < c.deadline) :
    ∃ more, Kept (acts ++ more) (a.passWithin fuel target) ∧
      (a.passWithin fuel target).now = target := by
  induction fuel generalizing acts a with
  | zero =>
    have hnone : callsOf a.tasks = [] := List.length_eq_zero_iff.mp (Nat.le_zero.mp hfuel)
    refine ⟨[], ?_, rfl⟩
    rw [List.append_nil]
    refine h.pass hle fun c hc => ?_
    rw [hnone] at hc
    cases hc
  | succ fuel ih =>
    unfold Attached.passWithin
    cases htimer : a.nextTimer with
    | none =>
      have hnone : callsOf a.tasks = [] := by
        rw [nextTimer, filterMap_deadline, List.min?_eq_none_iff, List.map_eq_nil_iff] at htimer
        exact htimer
      refine ⟨[], ?_, rfl⟩
      rw [List.append_nil]
      refine h.pass hle fun c hc => ?_
      rw [hnone] at hc
      cases hc
    | some t =>
      rw [nextTimer, filterMap_deadline, List.min?_eq_some_iff] at htimer
      obtain ⟨hmem, hleast⟩ := htimer
      obtain ⟨c, hc, rfl⟩ := List.mem_map.mp hmem
      have hfirst : ∀ d ∈ callsOf a.tasks, c.deadline ≤ d.deadline := fun d hd =>
        hleast _ (List.mem_map_of_mem hd)
      have hnow := hlive c hc
      simp only
      split
      · next ht =>
        -- the first deadline comes, and with it the end of its call
        rw [Nat.max_eq_left (Nat.le_of_lt hnow)]
        have hkept := h.pass (Nat.le_of_lt hnow) hfirst
        obtain ⟨more, hkept', hnow', hsub, -, hdue⟩ := hkept.settle
        have hshort : (callsOf ({ a with now := c.deadline } : Attached).settle.tasks).length <
            (callsOf a.tasks).length := by
          refine Nat.lt_of_le_of_ne hsub.length_le fun hsame => ?_
          rw [← hsub.eq_of_length hsame] at hc
          exact Nat.lt_irrefl _ (hdue c hc)
        obtain ⟨rest, hkept'', hnow''⟩ :=
          ih hkept' (hnow'.symm ▸ ht) (by omega) (hnow'.symm ▸ hdue)
        rw [List.append_assoc] at hkept''
        exact ⟨more ++ rest, hkept'', hnow''⟩
      · next ht =>
        refine ⟨[], ?_, rfl⟩
        rw [List.append_nil]
        exact h.pass hle fun d hd => Nat.le_trans (Nat.le_of_lt (Nat.lt_of_not_le ht)) (hfirst d hd)

/-! ### Events -/

/-- Acts that begin no call and look at none. -/
def isBeside : Act → Bool
  | .register _ | .remove _ | .inbound .. | .take _ | .shut _ => true
  | .route .. | .call .. | .look .. | .cancel _ => false

/-- What can happen to launchers and calls. -/
inductive Event where
  /-- A launcher attaches itself. -/
  | register (name : String) (capacity : Nat)
  /-- A launcher is detached. -/
  | remove (session : Nat)
  /-- A call is begun, on the session of a launcher or on the one attached longest. -/
  | start (name : String) (launcher : Option String) (errand : Errand) (timeout : Nat)
  /-- A call is given up. -/
  | cancel (name : String)
  /-- A text comes from a launcher. -/
  | inbound (launcher text : String)
  /-- All frames for a launcher are written. -/
  | frames (launcher : String)
  /-- Nobody writes frames for a launcher any more. -/
  | shut (launcher : String)
  /-- Time passes. -/
  | advance (ms : Nat)

/-- The launchers and calls after an event. -/
def after (a : Attached) : Event → Attached
  | .register name capacity => (a.register name capacity).2
  | .remove session => (a.onRoster fun r => ((), r.remove session)).2
  | .start name launcher errand timeout => a.startCall name launcher errand timeout
  | .cancel name => (a.cancel name).2
  | .inbound launcher text => (a.onSession? launcher () fun x => ((), x.receive text)).2
  | .frames launcher => (a.onSession? launcher [] Exchange.takeFrames).2
  | .shut launcher => (a.onSession? launcher () fun x => ((), x.shutOutbox)).2
  | .advance ms => a.advance ms

/-- What holds between events: besides, the deadlines of the calls under way are yet to come. -/
structure Settled (acts : List Act) (a : Attached) : Prop extends Kept acts a where
  live : ∀ c ∈ callsOf a.tasks, a.now < c.deadline

theorem Kept.settled (h : Kept acts a) : ∃ more, Settled (acts ++ more) a.settle := by
  obtain ⟨more, hkept, hnow, -, -, hlive⟩ := h.settle
  exact ⟨more, hkept, hnow.symm ▸ hlive⟩

/-- Names do not matter to what goes on. -/
theorem Settled.rename (h : Settled acts a) (sessions calls : Dict Nat) :
    Settled acts { a with sessions := sessions, calls := calls } :=
  ⟨⟨h.clocked, h.roster, h.tracks⟩, h.live⟩

theorem Kept.beside (h : Kept acts a) (es : List Act) (hes : ∀ e ∈ es, isBeside e = true) :
    Kept (acts ++ es) { a with roster := a.roster.run es } := by
  induction es generalizing acts a with
  | nil =>
    rw [List.append_nil]
    exact h
  | cons e es ih =>
    rw [List.forall_mem_cons] at hes
    have hstarted : ∀ r, e.started? r = none := by
      intro r
      cases e <;> first | rfl | cases hes.1
    have hends : ∀ c r, ¬e.Ends c r := by
      rintro c r (rfl | ⟨t, outcome, rfl, -⟩) <;> cases hes.1
    have htimely : e.Timely a.now acts := by
      cases e <;> first | trivial | cases hes.1
    have hnext : Kept (acts ++ [e]) { a with roster := a.roster.step e } := by
      refine ⟨.act h.clocked htimely, ?_, h.tracks.beside hstarted fun c _ => hends c _⟩
      show a.roster.step e = _
      rw [h.roster, Roster.run_append]
      rfl
    have hrest := ih hnext hes.2
    rw [List.append_assoc, List.singleton_append] at hrest
    exact hrest

theorem Kept.onRoster {α : Type} {f : Roster → α × Roster} (h : Kept acts a) (es : List Act)
    (hes : ∀ e ∈ es, isBeside e = true) (hf : (f a.roster).2 = a.roster.run es) :
    ∃ more, Settled (acts ++ more) (a.onRoster f).2 := by
  have hkept := h.beside es hes
  rw [← hf] at hkept
  obtain ⟨more, hsettled⟩ := hkept.settled
  rw [List.append_assoc] at hsettled
  exact ⟨es ++ more, hsettled⟩

theorem onSession_snd {α : Type} (r : Roster) (id : Nat) (default : α)
    (f : Exchange → α × Exchange) :
    (r.onSession id default f).2 = r.modify id fun x => (f x).2 := by
  cases hx : r.sessions.get? id with
  | none => rw [Roster.onSession_of_none _ _ hx, Roster.modify_of_none _ hx]
  | some x => rw [Roster.onSession_of_some _ _ hx, Roster.modify_of_some _ hx]

theorem Settled.onSession? {α : Type} {default : α} {f : Exchange → α × Exchange} {name : String}
    (h : Settled acts a)
    (hf : ∀ id, ∃ es, (∀ e ∈ es, isBeside e = true) ∧
      a.roster.modify id (fun x => (f x).2) = a.roster.run es) :
    ∃ more, Settled (acts ++ more) (a.onSession? name default f).2 := by
  unfold Attached.onSession?
  cases a.sessions.get? name with
  | none => exact ⟨[], by rwa [List.append_nil]⟩
  | some id =>
    obtain ⟨es, hes, hrun⟩ := hf id
    have hf' : (a.roster.onSession id default f).2 = a.roster.run es := by rw [onSession_snd, hrun]
    exact h.toKept.onRoster es hes hf'

/-- Taking all frames is taking as many as there are. -/
theorem modify_takeFrames (r : Roster) (id : Nat) :
    ∃ es, (∀ e ∈ es, isBeside e = true) ∧
      r.modify id (fun x => x.takeFrames.2) = r.run es := by
  have hmany : ∀ (n : Nat) (r : Roster) (x : Exchange), r.sessions.get? id = some x →
      r.run (List.replicate n (.take id)) = { r with
        sessions := r.sessions.set id { x with outbox := Exchange.Outbox.takeMany n x.outbox } } := by
    intro n
    induction n with
    | zero => exact fun r x hx => (Roster.set_session_self hx).symm
    | succ n ih =>
      intro r x hx
      have hstep : r.step (.take id) = { r with
          sessions := r.sessions.set id { x with outbox := x.outbox.take.2 } } :=
        Roster.modify_of_some _ hx
      rw [List.replicate_succ, Roster.run_cons, hstep, ih _ _ (Table.get?_set_self _ _ _)]
      simp only [Table.set_set]
      rfl
  cases hx : r.sessions.get? id with
  | none => exact ⟨[], by simp, Roster.modify_of_none _ hx⟩
  | some x =>
    refine ⟨List.replicate x.outbox.frames.length (.take id), fun e he => ?_, ?_⟩
    · rw [(List.mem_replicate.mp he).2]
      rfl
    · rw [Roster.modify_of_some _ hx, hmany _ _ _ hx]
      rfl

theorem callsOf_append (tasks more : List (Option CallTask)) :
    callsOf (tasks ++ more) = callsOf tasks ++ callsOf more :=
  List.filterMap_append

/-- The beginning of a call that comes to this, and its task. -/
def taskOf : Except Launcher.Fault Json ⊕ Call → CallTask
  | .inl outcome => .ended outcome
  | .inr c => .underWay c

theorem Kept.start (h : Kept acts a) {act : Act} (htimely : act.Timely a.now acts)
    {started : Except Launcher.Fault Json ⊕ Call} (hstarted : act.started? a.roster = some started) :
    Kept (acts ++ [act])
      { a with roster := a.roster.step act, tasks := a.tasks ++ [some (taskOf started)] } := by
  have htracks := h.tracks.started (h.roster ▸ hstarted)
  refine ⟨.act h.clocked htimely, ?_, ?_⟩
  · show a.roster.step act = _
    rw [h.roster, Roster.run_append]
    rfl
  · show Tracks _ (callsOf (a.tasks ++ [some (taskOf started)]))
    rw [callsOf_append]
    cases started <;> exact htracks

theorem Kept.startCall (h : Kept acts a) (name : String) (launcher : Option String)
    (errand : Errand) (timeout : Nat) :
    ∃ more, Settled (acts ++ more) (a.startCall name launcher errand timeout) := by
  obtain ⟨act, started, htimely, hstarted, hcall⟩ : ∃ act started, act.Timely a.now acts ∧
      act.started? a.roster = some started ∧ a.startCall name launcher errand timeout =
        { a with
          roster := a.roster.step act
          tasks := a.tasks ++ [some (taskOf started)]
          calls := a.calls.put name a.tasks.length }.settle := by
    unfold Attached.startCall
    cases launcher.bind a.sessions.get? with
    | none =>
      refine ⟨.route a.now (a.now + timeout) errand, _, rfl, rfl, ?_⟩
      cases hbegin : Call.begin a.now (a.now + timeout) errand a.roster with
      | mk started roster => cases started <;> simp [taskOf, Roster.step, hbegin]
    | some s =>
      refine ⟨.call s a.now (a.now + timeout) errand, _, rfl, rfl, ?_⟩
      cases hbegin : Call.beginOn a.now (a.now + timeout) s errand a.roster with
      | mk started roster => cases started <;> simp [taskOf, Roster.step, hbegin]
  have hkept := h.start htimely hstarted
  rw [hcall]
  obtain ⟨more, hsettled⟩ := Kept.settled (a := { a with
    roster := a.roster.step act
    tasks := a.tasks ++ [some (taskOf started)]
    calls := a.calls.put name a.tasks.length }) ⟨hkept.clocked, hkept.roster, hkept.tracks⟩
  rw [List.append_assoc] at hsettled
  exact ⟨_, hsettled⟩

theorem Kept.cancelAt (h : Kept acts a) (n : Nat) :
    ∃ more, Settled (acts ++ more) (a.cancelAt n) := by
  -- the call in this place, if one is under way there, is given up; else nothing happens
  obtain ⟨es, hkept⟩ : ∃ es, Kept (acts ++ es) { a with
      roster := (a.tasks[n]?.bind CallTask.call?).elim a.roster fun c => c.cancel a.roster
      tasks := a.tasks.set n none } := by
    by_cases hn : n < a.tasks.length
    · obtain ⟨pre, post, htasks, -, hset⟩ :
          ∃ pre post, a.tasks = pre ++ a.tasks[n] :: post ∧ pre.length = n ∧
            a.tasks.set n none = pre ++ none :: post := List.exists_of_set hn
      rw [List.getElem?_eq_getElem hn, Option.bind_some, hset]
      have hcalls : callsOf a.tasks =
          callsOf pre ++ ((CallTask.call? a.tasks[n]).toList ++ callsOf post) := by
        rw [← callsOf_cons, ← callsOf_append, ← htasks]
      have hrest : callsOf (pre ++ none :: post) = callsOf pre ++ callsOf post := by
        rw [callsOf_append, callsOf_cons]
        rfl
      have htracks := h.tracks
      rw [hcalls] at htracks
      cases hcall : CallTask.call? a.tasks[n] with
      | none =>
        rw [hcall] at htracks
        exact ⟨[], by rw [List.append_nil]; exact ⟨h.clocked, h.roster, hrest ▸ htracks⟩⟩
      | some c =>
        rw [hcall] at htracks
        have hmem : c ∈ callsOf pre ++ ((some c).toList ++ callsOf post) := by simp
        have hends : ∀ d, (Act.cancel c).Ends d (Roster.empty.run acts) ↔ d = c := by
          intro d
          constructor
          · rintro (he | ⟨t, outcome, he, -⟩) <;> cases he
            rfl
          · rintro rfl
            exact .inl rfl
        refine ⟨[.cancel c], .act h.clocked ((htracks.mem_iff c).mp hmem), ?_, ?_⟩
        · show c.cancel a.roster = _
          rw [h.roster, Roster.run_append]
          rfl
        · show Tracks _ (callsOf (pre ++ none :: post))
          rw [hrest]
          exact htracks.ended (fun _ => rfl) hends
    · rw [List.getElem?_eq_none (Nat.le_of_not_lt hn), List.set_eq_of_length_le (Nat.le_of_not_lt hn)]
      exact ⟨[], by rw [List.append_nil]; exact h⟩
  obtain ⟨more, hsettled⟩ := hkept.settled
  rw [List.append_assoc] at hsettled
  have hcancel : a.cancelAt n = Attached.settle { a with
      roster := (a.tasks[n]?.bind CallTask.call?).elim a.roster fun c => c.cancel a.roster
      tasks := a.tasks.set n none } := by
    unfold Attached.cancelAt
    cases a.tasks[n]? with
    | none => rfl
    | some task =>
      cases task with
      | none => rfl
      | some task => cases task <;> rfl
  rw [hcancel]
  exact ⟨_, hsettled⟩

/-- Whatever happens, the launchers and calls are what some acts on the clock make of them. -/
theorem Settled.after (h : Settled acts a) (event : Event) :
    ∃ more, Settled (acts ++ more) (a.after event) := by
  cases event with
  | register name capacity =>
    obtain ⟨more, hsettled⟩ := h.toKept.onRoster (f := Roster.register capacity)
      [.register capacity] (by simp [isBeside]) rfl
    exact ⟨more, hsettled.rename _ _⟩
  | remove session => exact h.toKept.onRoster [.remove session] (by simp [isBeside]) rfl
  | start name launcher errand timeout => exact h.toKept.startCall name launcher errand timeout
  | cancel name =>
    show ∃ more, Settled _ (a.cancel name).2
    unfold Attached.cancel
    cases a.calls.get? name with
    | none => exact ⟨[], by rwa [List.append_nil]⟩
    | some n => exact (h.rename a.sessions (a.calls.remove name)).toKept.cancelAt n
  | inbound launcher text =>
    exact h.onSession? fun id => ⟨[.inbound id text], by simp [isBeside], rfl⟩
  | frames launcher => exact h.onSession? fun id => modify_takeFrames a.roster id
  | shut launcher => exact h.onSession? fun id => ⟨[.shut id], by simp [isBeside], rfl⟩
  | advance ms =>
    have hcount : (callsOf a.tasks).length ≤ a.tasks.length + 1 :=
      Nat.le_succ_of_le (List.length_filterMap_le _ _)
    obtain ⟨more, hkept, -⟩ :=
      h.toKept.passWithin (a.tasks.length + 1) (Nat.le_add_right _ ms) hcount h.live
    obtain ⟨rest, hsettled⟩ := hkept.settled
    rw [List.append_assoc] at hsettled
    exact ⟨_, hsettled⟩

theorem settled_run (events : List Event) :
    ∃ acts, Settled acts (events.foldl after empty) := by
  induction events using List.reverseRecOn with
  | nil =>
    have hnone : ∀ (c : Call) after, ¬UnderWay [] c after := by
      rintro c after ⟨before, act, he, -⟩
      cases before <;> cases he
    refine ⟨[], ⟨.start, rfl, ⟨fun c => ?_, List.nodup_nil⟩⟩, fun c hc => by cases hc⟩
    exact iff_of_false List.not_mem_nil fun h => hnone c _ h.choose_spec
  | append_singleton events event ih =>
    obtain ⟨acts, hsettled⟩ := ih
    rw [List.foldl_append]
    obtain ⟨more, hafter⟩ := hsettled.after event
    exact ⟨_, hafter⟩

end

end Attached

end NodeStack.Scenario

namespace NodeStack.Launcher.Roster

open Exchange (answerTo?)

/-! ### Calls end in time -/

/-- Whatever is done with launchers and calls, in whatever order, on a clock that waits for the
deadlines of the calls under way:

* a call whose deadline has come when it is begun is over at once. Of any other, the deadline is not
  past while it is under way, and a look ends it once the deadline has come;
* once the frame of a call has been queued, the call ends with the response that it was fed, at the
  next look. It never times out then, even if its launcher was detached before the response came;
* a call that nothing has answered, whose launcher is attached and has its frames written, goes on
  until its deadline, and then times out, wherever its frame is;
* when a call is over, it is not pending any more, a frame that it had not queued is never queued,
  and a reply to it changes nothing, whatever is done in between.

Launchers and calls on the virtual clock are such a run, and when an event has been dealt with, the
deadlines of all calls under way are yet to come. -/
theorem calls_end_in_time :
    (∀ now acts, Clocked now acts →
      (∀ (act : Act) (c : Call) (t : Nat), act.Opens t c (empty.run acts) → c.deadline ≤ t →
        act.started? (empty.run acts) ≠ some (.inr c)) ∧
      (∀ (c : Call) (after : List Act), UnderWay acts c after →
        now ≤ c.deadline ∧
        (∀ t, c.deadline ≤ t → ∃ outcome, (c.poll t (empty.run acts)).1 = .ended outcome) ∧
        (Queued acts c → ∀ response, c.fed? after = some response → ∀ t,
          (c.poll t (empty.run acts)).1 = .ended (Call.conclude c.errand response)) ∧
        (Queued acts c → ∀ text response, .inbound c.session text ∈ after →
          answerTo? c.id text = some response → ∀ t,
          (c.poll t (empty.run acts)).1 ≠ .ended (.error .timeout)) ∧
        ((∀ text, .inbound c.session text ∈ after → answerTo? c.id text = none) →
          .remove c.session ∉ after → .shut c.session ∉ after → ∀ t,
          (c.poll t (empty.run acts)).1 =
            if c.deadline ≤ t then .ended (.error .timeout) else .underWay)) ∧
      ∀ (c : Call) (after : List Act), Begun acts c after → ¬UnderWay acts c after → ∀ later,
        let r := empty.run (acts ++ later)
        (∃ x, r.sessions.get? c.session = some x ∧ c.id ∉ x.slots) ∧
        (¬Queued acts c → ¬Queued (acts ++ later) c) ∧
        ∀ text response, answerTo? c.id text = some response →
          r.step (.inbound c.session text) = r) ∧
    ∀ events : List Scenario.Attached.Event,
      let a := events.foldl Scenario.Attached.after .empty
      ∃ acts, Clocked a.now acts ∧ a.roster = empty.run acts ∧
        (∀ c : Call, some (.underWay c) ∈ a.tasks ↔ ∃ after, UnderWay acts c after) ∧
        ∀ c : Call, some (.underWay c) ∈ a.tasks → a.now < c.deadline := by
  refine ⟨fun now acts h => ⟨?_, ?_, ?_⟩, fun events => ?_⟩
  · intro act c t hopens hdue hstarted
    have hlt := lt_deadline_of_started hopens hstarted
    omega
  · exact fun c after hw => ⟨h.le_deadline hw, fun t ht => exists_ended c _ ht,
      fun hqueued response hfed t => h.poll_of_fed hw hqueued hfed t,
      fun hqueued text response hmem hanswer t => h.poll_ne_timeout hw hqueued hmem hanswer t,
      fun hanswer hremove hshut t => h.poll_of_silent hw hanswer hremove hshut t⟩
  · intro c after hbegun hover later r
    obtain ⟨x, hx, -, habsent⟩ := h.absent hbegun hover later
    exact ⟨⟨x, hx, habsent.2⟩, fun hqueued => h.not_queued hbegun hover hqueued later,
      fun text response hanswer => step_inbound_of_absent hx habsent hanswer⟩
  · obtain ⟨acts, hsettled⟩ := Scenario.Attached.settled_run events
    refine ⟨acts, hsettled.clocked, hsettled.roster, fun c => ?_, fun c hc => ?_⟩
    · rw [← hsettled.tracks.mem_iff, Scenario.Attached.mem_callsOf]
    · exact hsettled.live c (Scenario.Attached.mem_callsOf.mpr hc)

/-- The first of two calls is answered, and the second is held back by the full outbox until it times
out. Given up, it is pending no more. -/
theorem calls_end_in_time_blocked :
    let acts : List Act :=
      [.register 1, .call 1 0 10 .info, .call 1 0 5 .info, .inbound 1 "[1,null,null]"]
    let c₁ : Call := ⟨1, 1, .info, 10⟩
    let c₂ : Call := ⟨1, 2, .info, 5⟩
    Clocked 0 acts ∧
    (c₁.poll 10 (empty.run acts)).1 = .ended (.ok .null) ∧
    (c₂.poll 4 (empty.run acts)).1 = .underWay ∧
    (c₂.poll 5 (empty.run acts)).1 = .ended (.error .timeout) ∧
    (∃ x, (empty.run (acts ++ [.cancel c₂])).sessions.get? 1 = some x ∧ 2 ∉ x.slots) ∧
    ([.register "l" 1, .start "x" (some "l") .info 10, .start "y" (some "l") .info 5,
      .advance 5].foldl Scenario.Attached.after .empty).tasks =
        [some (.underWay c₁), some (.ended (.error .timeout))] := by
  intro acts c₁ c₂
  have hanswer : answerTo? 1 "[1,null,null]" = some ⟨1, .null, .null⟩ := by cbv
  have hother : answerTo? 2 "[1,null,null]" = none := by
    cases h : answerTo? 2 "[1,null,null]" with
    | none => rfl
    | some response => exact absurd (Exchange.answerTo?_unique hanswer h) (by decide)
  have hbegin : Clocked 0 [.register 1] := .act .start trivial
  have hfirst : Clocked 0 [.register 1, .call 1 0 10 .info] := .act hbegin rfl
  have hsecond : Clocked 0 [.register 1, .call 1 0 10 .info, .call 1 0 5 .info] := .act hfirst rfl
  have hclocked : Clocked 0 acts := .act hsecond trivial
  have hw₁ : UnderWay acts c₁ [.call 1 0 5 .info, .inbound 1 "[1,null,null]"] := by
    refine ⟨[.register 1], _, rfl, rfl, ?_, ?_, trivial⟩ <;>
      rintro (h | ⟨t, outcome, h, -⟩) <;> cases h
  have hw₂ : UnderWay acts c₂ [.inbound 1 "[1,null,null]"] := by
    refine ⟨[.register 1, .call 1 0 10 .info], _, rfl, rfl, ?_, trivial⟩
    rintro (h | ⟨t, outcome, h, -⟩) <;> cases h
  have hqueued : Queued acts c₁ :=
    ⟨[.register 1, .call 1 0 10 .info], [.call 1 0 5 .info, .inbound 1 "[1,null,null]"], _,
      ⟨1, "getinfo", .arr []⟩, rfl, rfl, List.mem_cons_self, rfl⟩
  have hfed : c₁.fed? [.call 1 0 5 .info, .inbound 1 "[1,null,null]"] =
      some ⟨1, .null, .null⟩ := by
    show Exchange.firstAnswer 1 [.receive "[1,null,null]"] = _
    rw [Exchange.firstAnswer, hanswer, Option.some_or]
  obtain ⟨htheorem, -⟩ := calls_end_in_time
  obtain ⟨-, hunder, -⟩ := htheorem 0 acts hclocked
  obtain ⟨-, -, hended, -⟩ := hunder c₁ _ hw₁
  obtain ⟨-, -, -, -, hsilent⟩ := hunder c₂ _ hw₂
  have hpoll : ∀ t, (c₂.poll t (empty.run acts)).1 =
      if 5 ≤ t then .ended (.error .timeout) else .underWay := by
    refine hsilent (fun text hmem => ?_) (by simp) (by simp)
    cases List.mem_singleton.mp hmem
    exact hother
  -- given up
  have hclocked' : Clocked 0 (acts ++ [.cancel c₂]) := .act hclocked ⟨_, hw₂⟩
  have hbegun : Begun (acts ++ [.cancel c₂]) c₂ ([.inbound 1 "[1,null,null]"] ++ [.cancel c₂]) :=
    begun_concat.mpr (.inl ⟨_, rfl, hw₂.begun⟩)
  have hover :
      ¬UnderWay (acts ++ [.cancel c₂]) c₂ ([.inbound 1 "[1,null,null]"] ++ [.cancel c₂]) := by
    rw [underWay_concat]
    rintro (⟨earlier, -, -, hends⟩ | ⟨h, -⟩)
    · exact hends (.inl rfl)
    · cases h
  obtain ⟨-, -, hafter⟩ := htheorem 0 _ hclocked'
  obtain ⟨hslots, -⟩ := hafter c₂ _ hbegun hover []
  rw [List.append_nil] at hslots
  exact ⟨hclocked, hended hqueued _ hfed 10, hpoll 4, hpoll 5, hslots, rfl⟩

end NodeStack.Launcher.Roster
