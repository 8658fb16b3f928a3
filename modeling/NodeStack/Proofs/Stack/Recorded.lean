import NodeStack.Stack.Feed.Task

/-!
# `NodeStack.Proofs.Stack.Recorded`: a record of what a feed does

* `Feed.Surroundings.recorded`: the same surroundings, with a record of what is read and of every
  question that is answered. `step_recorded`: a feed does not notice.
* `Asks`: a procedure goes on while some questions are answered. `resume_recorded`: what the record
  shows of a procedure that goes on.
* `Abreast`: several procedures on the way, each with its part of the record.
  `resumeAll_recorded`: they stay so. `Abreast.finish`: they can come to their ends.
-/

set_option autoImplicit false

namespace NodeStack.Stack

open Engine (Event Finding)
open Plan (Look Progress)

/-- A question that has been answered. -/
structure Asked where
  question : Track
  answer : question.Answer

namespace Feed

/-- What is recorded of a feed. -/
inductive Entry (Stream : Type) where
  /-- It subscribes. -/
  | subscribed (time : Nat) (stream : Option Stream)
  /-- A question of one of its procedures is answered. -/
  | asked (asked : Asked)
  /-- It reads an event. -/
  | received (stream : Option Stream) (event : Event)
  /-- A stream is over for it: it has ended, or failed. -/
  | ended (time : Nat) (stream : Option Stream) (fault : Option Engine.Fault)

section
variable {σ Stream F : Type}

/-- What is recorded when a stream is read. -/
def findingEntries (now : Nat) (stream : Option Stream) : Finding → List (Entry Stream)
  | .item (.ok event) => [.received stream event]
  | .item (.error fault) => [.ended now stream (some fault)]
  | .ended => [.ended now stream none]
  | .nothing => []

/-- What is recorded of a look at a question. -/
def lookEntries (q : Track) : Look q.Answer F → List (Entry Stream)
  | .answered a => [.asked ⟨q, a⟩]
  | _ => []

/-- The same surroundings, with a record of what goes on in them at the time `now`. -/
def Surroundings.recorded (around : Surroundings σ Stream F) (now : Nat) :
    Surroundings (σ × List (Entry Stream)) Stream F where
  subscribe s :=
    let (stream, s') := around.subscribe s.1
    (stream, s', s.2 ++ [.subscribed now stream])
  receive stream s :=
    let (finding, s') := around.receive stream s.1
    (finding, s', s.2 ++ findingEntries now stream finding)
  look q flight s :=
    let (l, s') := around.look q flight s.1
    (l, s', s.2 ++ lookEntries q l)

end

end Feed

/-! ### Procedures -/

/-- A procedure goes on while some questions are answered. -/
inductive Asks {α : Type} : Tracking α → List Asked → Tracking α → Prop where
  | nil (p : Tracking α) : Asks p [] p
  | ask {q : Track} {next : q.Answer → Tracking α} {a : q.Answer} {asks : List Asked}
    {p : Tracking α} (h : Asks (next a) asks p) : Asks (.ask q next) (⟨q, a⟩ :: asks) p

theorem Asks.trans {α : Type} {p p' p'' : Tracking α} {asks more : List Asked}
    (h : Asks p asks p') (h' : Asks p' more p'') : Asks p (asks ++ more) p'' := by
  induction h with
  | nil => exact h'
  | ask _ ih => exact .ask (ih h')

/-- Some answer to a question. -/
def Track.anyAnswer : (q : Track) → q.Answer
  | .inspect name => .error (.containerNotFound name)
  | .holder _ => none
  | .take _ _ => ()

/-- A procedure comes to its end if its questions are answered. -/
theorem exists_asks {α : Type} (p : Tracking α) : ∃ asks value, Asks p asks (.done value) := by
  induction p with
  | done value => exact ⟨[], value, .nil _⟩
  | ask q next ih =>
    obtain ⟨asks, value, h⟩ := ih q.anyAnswer
    exact ⟨_, value, .ask h⟩

section
variable {σ Stream F α : Type} (around : Feed.Surroundings σ Stream F) (now : Nat)

/-- What has become of a procedure once some questions have been answered. -/
def Became (p : Tracking α) (asks : List Asked) : Progress Track Track.Answer F α → Prop
  | .ended value => Asks p asks (.done value)
  | .waiting p' _ => Asks p asks p'
  | .crashed _ => ∃ p', Asks p asks p'

theorem Became.trans {p p' : Tracking α} {asks more : List Asked}
    {t : Progress Track Track.Answer F α} (h : Asks p asks p') (h' : Became p' more t) :
    Became p (asks ++ more) t := by
  cases t with
  | ended value => exact h.trans h'
  | waiting p'' flight => exact h.trans h'
  | crashed text =>
    obtain ⟨p'', h'⟩ := h'
    exact ⟨p'', h.trans h'⟩

/-- The record shows the questions that were answered, and nothing else has changed. -/
theorem advance_recorded (p : Tracking α) (flight : Option F) (s : σ)
    (log : List (Feed.Entry Stream)) :
    ∃ asks, (p.advance (around.recorded now).look flight (s, log)).2.2 =
        log ++ asks.map .asked ∧
      Became p asks (p.advance (around.recorded now).look flight (s, log)).1 ∧
      (p.advance around.look flight s) =
        ((p.advance (around.recorded now).look flight (s, log)).1,
          (p.advance (around.recorded now).look flight (s, log)).2.1) := by
  induction p generalizing flight s log with
  | done value => exact ⟨[], (List.append_nil _).symm, .nil _, rfl⟩
  | ask q next ih =>
    have hlook : (around.recorded now).look q flight (s, log) =
        ((around.look q flight s).1, (around.look q flight s).2,
          log ++ Feed.lookEntries q (around.look q flight s).1) := rfl
    rw [Plan.advance, Plan.advance, hlook]
    -- Only an answer is recorded; the procedure goes on with it and nothing under way.
    rcases around.look q flight s with ⟨_ | _ | _, s'⟩
    · next a =>
      obtain ⟨asks, hlog, hbecame, hsame⟩ := ih a none s' (log ++ [.asked ⟨q, a⟩])
      refine ⟨⟨q, a⟩ :: asks, ?_, ?_, hsame⟩
      · exact hlog.trans (List.append_assoc _ _ _)
      · exact Became.trans (.ask (.nil _)) hbecame
    · exact ⟨[], rfl, .nil _, rfl⟩
    · exact ⟨[], rfl, ⟨_, .nil _⟩, rfl⟩

theorem resume_recorded (t : Progress Track Track.Answer F α) (s : σ)
    (log : List (Feed.Entry Stream)) :
    ∃ asks, (t.resume (around.recorded now).look (s, log)).2.2 = log ++ asks.map .asked ∧
      (∀ p before, Became p before t →
        Became p (before ++ asks) (t.resume (around.recorded now).look (s, log)).1) ∧
      t.resume around.look s = ((t.resume (around.recorded now).look (s, log)).1,
        (t.resume (around.recorded now).look (s, log)).2.1) := by
  cases t with
  | waiting plan flight =>
    obtain ⟨asks, hlog, hbecame, hsame⟩ := advance_recorded around now plan flight s log
    exact ⟨asks, hlog, fun p before h => Became.trans h hbecame, hsame⟩
  | ended value =>
    refine ⟨[], (List.append_nil _).symm, fun p before h => ?_, rfl⟩
    rw [List.append_nil]
    exact h
  | crashed text =>
    refine ⟨[], (List.append_nil _).symm, fun p before h => ?_, rfl⟩
    rw [List.append_nil]
    exact h

/-! ### Several procedures -/

/-- What the procedure of a number has asked, of questions that each say whose they are. -/
def askedBy (k : Nat) (asks : List (Nat × Asked)) : List Asked :=
  (asks.filter (·.1 == k)).map (·.2)

theorem askedBy_append (k : Nat) (asks more : List (Nat × Asked)) :
    askedBy k (asks ++ more) = askedBy k asks ++ askedBy k more := by
  rw [askedBy, List.filter_append, List.map_append]
  rfl

theorem askedBy_own (k : Nat) (asks : List Asked) : askedBy k (asks.map (k, ·)) = asks := by
  induction asks with
  | nil => rfl
  | cons a asks ih => simpa [askedBy] using ih

theorem askedBy_other {k : Nat} {asks : List (Nat × Asked)} (h : ∀ x ∈ asks, x.1 ≠ k) :
    askedBy k asks = [] := by
  rw [askedBy, List.filter_eq_nil_iff.mpr fun x hx => by simpa using h x hx]
  rfl

/-- What is asked while there is one procedure is asked by it. -/
theorem askedBy_zero {asks : List (Nat × Asked)} (h : ∀ x ∈ asks, x.1 < 1) :
    askedBy 0 asks = asks.map (·.2) := by
  rw [askedBy, List.filter_eq_self.mpr fun x hx => by
    have hlt := h x hx
    simp
    omega]

/-- Several procedures on the way, and what each of them has asked. -/
structure Abreast (plans : List (Tracking Unit)) (asks : List (Nat × Asked))
    (tasks : List (Progress Track Track.Answer F Unit)) : Prop where
  length : tasks.length = plans.length
  own : ∀ x ∈ asks, x.1 < plans.length
  became : ∀ k p t, plans[k]? = some p → tasks[k]? = some t → Became p (askedBy k asks) t

theorem abreast_start (plans : List (Tracking Unit)) :
    Abreast plans [] (plans.map (Progress.ofPlan (F := F))) where
  length := List.length_map _
  own _ h := nomatch h
  became k p t hp ht := by
    rw [List.getElem?_map, hp] at ht
    cases ht
    exact .nil p

/-- Procedures go on one after the other, here those from the number `k` on. -/
theorem resumeAll_from (tasks : List (Progress Track Track.Answer F Unit)) (k : Nat) (s : σ)
    (log : List (Feed.Entry Stream)) :
    let done := Progress.resumeAll (around.recorded now).look tasks (s, log)
    ∃ asks : List (Nat × Asked), done.2.2 = log ++ asks.map (.asked ·.2) ∧
      (∀ x ∈ asks, k ≤ x.1 ∧ x.1 < k + tasks.length) ∧ done.1.length = tasks.length ∧
      (∀ i t', done.1[i]? = some t' → ∃ t, tasks[i]? = some t ∧ ∀ p before,
        Became p before t → Became p (before ++ askedBy (k + i) asks) t') ∧
      Progress.resumeAll around.look tasks s = (done.1, done.2.1) := by
  induction tasks generalizing k s log with
  | nil =>
    exact ⟨[], (List.append_nil _).symm, fun _ h => (nomatch h), rfl, fun _ _ h => (nomatch h), rfl⟩
  | cons t rest ih =>
    obtain ⟨own, hlog, hbecame, hsame⟩ := resume_recorded around now t s log
    have hall : Progress.resumeAll (around.recorded now).look (t :: rest) (s, log) =
        ((t.resume (around.recorded now).look (s, log)).1 ::
          (Progress.resumeAll (around.recorded now).look rest
            (t.resume (around.recorded now).look (s, log)).2).1,
          (Progress.resumeAll (around.recorded now).look rest
            (t.resume (around.recorded now).look (s, log)).2).2) := rfl
    rw [hall]
    generalize t.resume (around.recorded now).look (s, log) = resumed at hlog hbecame hsame ⊢
    obtain ⟨t', s', log'⟩ := resumed
    dsimp only at hlog hbecame hsame ⊢
    subst hlog
    obtain ⟨asks, hlog, hrange, hlength, hrest, hsame'⟩ := ih (k + 1) s' (log ++ own.map .asked)
    -- The others have larger numbers, so what they ask is not asked by this one.
    have hmine : askedBy k asks = [] := askedBy_other fun x hx => by
      have hk := (hrange x hx).1
      omega
    refine ⟨own.map (k, ·) ++ asks, ?_, fun x hx => ?_, congrArg (· + 1) hlength,
      fun i u hu => ?_, ?_⟩
    · rw [hlog, List.map_append, List.map_map, List.append_assoc]
      rfl
    · rcases List.mem_append.mp hx with hx | hx
      · obtain ⟨a, -, rfl⟩ := List.mem_map.mp hx
        exact ⟨Nat.le_refl k, Nat.lt_add_of_pos_right (Nat.succ_pos _)⟩
      · obtain ⟨hlow, hhigh⟩ := hrange x hx
        rw [List.length_cons]
        omega
    · cases i with
      | zero =>
        obtain rfl := Option.some.inj hu
        refine ⟨t, rfl, fun p before h => ?_⟩
        rw [Nat.add_zero, askedBy_append, askedBy_own, hmine, List.append_nil]
        exact hbecame p before h
      | succ i =>
        obtain ⟨v, hv, hgoes⟩ := hrest i u hu
        refine ⟨v, hv, fun p before h => ?_⟩
        have hother : askedBy (k + (i + 1)) (own.map (k, ·)) = [] := askedBy_other fun x hx => by
          obtain ⟨a, -, rfl⟩ := List.mem_map.mp hx
          dsimp only
          omega
        have hindex : k + (i + 1) = k + 1 + i := by omega
        rw [askedBy_append, hother, List.nil_append, hindex]
        exact hgoes p before h
    · rw [Progress.resumeAll, hsame]
      dsimp only
      rw [hsame']

/-- Procedures that go on stay abreast, and the record shows what they ask. -/
theorem resumeAll_recorded {plans : List (Tracking Unit)} {asks : List (Nat × Asked)}
    {tasks : List (Progress Track Track.Answer F Unit)} (h : Abreast plans asks tasks) (s : σ)
    (log : List (Feed.Entry Stream)) :
    let done := Progress.resumeAll (around.recorded now).look tasks (s, log)
    ∃ more : List (Nat × Asked), done.2.2 = log ++ more.map (.asked ·.2) ∧
      Abreast plans (asks ++ more) done.1 ∧
      Progress.resumeAll around.look tasks s = (done.1, done.2.1) := by
  obtain ⟨more, hlog, hrange, hlength, hgoes, hsame⟩ :=
    resumeAll_from around now tasks 0 s log
  refine ⟨more, hlog, ⟨hlength.trans h.length, fun x hx => ?_, fun k p t' hp ht' => ?_⟩, hsame⟩
  · rcases List.mem_append.mp hx with hx | hx
    · exact h.own x hx
    · have hlt := (hrange x hx).2
      rw [h.length] at hlt
      omega
  · obtain ⟨t, ht, hbecame⟩ := hgoes k t' ht'
    rw [askedBy_append, ← Nat.zero_add k]
    exact hbecame p _ ((Nat.zero_add k).symm ▸ h.became k p t hp ht)

/-- Procedures abreast come to their ends if their questions are answered. -/
theorem Abreast.finish {plans : List (Tracking Unit)} {asks : List (Nat × Asked)}
    {tasks : List (Progress Track Track.Answer F Unit)} (h : Abreast plans asks tasks) :
    ∃ more : List (Nat × Asked), (∀ x ∈ asks ++ more, x.1 < plans.length) ∧
      ∀ k p, plans[k]? = some p → Asks p (askedBy k (asks ++ more)) (.done ()) := by
  -- One procedure after the other, the first `n` of them.
  have hupto : ∀ n, n ≤ plans.length → ∃ more : List (Nat × Asked), (∀ x ∈ more, x.1 < n) ∧
      ∀ k p, k < n → plans[k]? = some p → Asks p (askedBy k (asks ++ more)) (.done ()) := by
    intro n
    induction n with
    | zero => exact fun _ => ⟨[], fun _ hx => (nomatch hx), fun _ _ hk => (nomatch hk)⟩
    | succ n ih =>
      intro hn
      obtain ⟨more, hmore, hends⟩ := ih (Nat.le_of_succ_le hn)
      obtain ⟨p, hp⟩ : ∃ p, plans[n]? = some p := ⟨_, List.getElem?_eq_getElem hn⟩
      obtain ⟨t, ht⟩ : ∃ t, tasks[n]? = some t :=
        ⟨_, List.getElem?_eq_getElem (Nat.lt_of_lt_of_eq hn h.length.symm)⟩
      obtain ⟨p', hp'⟩ : ∃ p', Asks p (askedBy n asks) p' := by
        have hbecame := h.became n p t hp ht
        cases t with
        | ended value => exact ⟨_, hbecame⟩
        | waiting p' flight => exact ⟨_, hbecame⟩
        | crashed text => exact hbecame
      obtain ⟨last, value, hlast⟩ := exists_asks p'
      refine ⟨more ++ last.map (n, ·), fun x hx => ?_, fun k q hk hq => ?_⟩
      · rcases List.mem_append.mp hx with hx | hx
        · exact Nat.lt_succ_of_lt (hmore x hx)
        · obtain ⟨a, -, rfl⟩ := List.mem_map.mp hx
          exact Nat.lt_succ_self n
      · rw [← List.append_assoc, askedBy_append]
        rcases Nat.lt_succ_iff_lt_or_eq.mp hk with hk | rfl
        · have hother : askedBy k (last.map (n, ·)) = [] := askedBy_other fun x hx => by
            obtain ⟨a, -, rfl⟩ := List.mem_map.mp hx
            dsimp only
            omega
          rw [hother, List.append_nil]
          exact hends k q hk hq
        · have hmine : askedBy k more = [] := askedBy_other fun x hx => Nat.ne_of_lt (hmore x hx)
          rw [askedBy_append, hmine, List.append_nil, askedBy_own]
          obtain rfl := Option.some.inj (hp.symm.trans hq)
          exact hp'.trans hlast
  obtain ⟨more, hmore, hends⟩ := hupto plans.length (Nat.le_refl _)
  refine ⟨more, fun x hx => ?_, fun k p hp => hends k p (List.getElem?_eq_some_iff.mp hp).1 hp⟩
  exact (List.mem_append.mp hx).elim (h.own x) (hmore x)

/-! ### A feed -/

theorem proceed_recorded (next : Feed → Feed) (t : Feed.Task Stream F) (s : σ)
    (log : List (Feed.Entry Stream)) :
    t.proceed around next s = ((t.proceed (around.recorded now) next (s, log)).1,
      (t.proceed (around.recorded now) next (s, log)).2.1,
      (t.proceed (around.recorded now) next (s, log)).2.2.1) := by
  obtain ⟨-, -, -, -, -, hsame⟩ := resumeAll_from around now t.work 0 s log
  rw [Feed.Task.proceed, Feed.Task.proceed, hsame]
  dsimp only
  split
  · rfl
  · split <;> rfl

theorem receive_recorded (stream : Option Stream) (s : σ) (log : List (Feed.Entry Stream)) :
    (around.recorded now).receive stream (s, log) =
      ((around.receive stream s).1, (around.receive stream s).2,
        log ++ Feed.findingEntries now stream (around.receive stream s).1) := rfl

/-- A feed does not notice that a record is kept. -/
theorem step_recorded (r : Registry) (stopped : Bool) (t : Feed.Task Stream F) (s : σ)
    (log : List (Feed.Entry Stream)) :
    t.step around r now stopped s = ((t.step (around.recorded now) r now stopped (s, log)).1,
      (t.step (around.recorded now) r now stopped (s, log)).2.1,
      (t.step (around.recorded now) r now stopped (s, log)).2.2.1) := by
  unfold Feed.Task.step
  cases t.feed.phase with
  | subscribing => rfl
  | syncing => exact proceed_recorded around now Feed.synced t s log
  | handling event => exact proceed_recorded around now Feed.handled t s log
  | listening =>
    dsimp only
    rw [Feed.Task.listen, Feed.Task.listen, receive_recorded]
    generalize around.receive t.stream s = found
    obtain ⟨_ | _ | _, s'⟩ := found
    · next item => cases item <;> rfl
    · cases stopped <;> rfl
    · rfl
  | pausing wake =>
    dsimp only
    split
    · rfl
    · split <;> rfl
  | ended => rfl
  | crashed => rfl

end

end NodeStack.Stack
