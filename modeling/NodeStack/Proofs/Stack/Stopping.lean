import NodeStack.Proofs.Stack.Spells
import NodeStack.Scenario.World.Background

/-!
# `NodeStack.Proofs.Stack.Stopping`: a feed that was told to stop

A feed may be anywhere when it is told to stop. It heeds this only while it waits for an event or
pauses, and first brings to an end what it has begun.

* `Task.rank`: how far a feed is from its end. `Turn`: what a step of a feed that was told to stop
  can be, and `turn_step`: each step is one of these.
* `choose`: a step of the feed of a world, which may heed that it is to stop or go on with something
  else; `stepFeed_eq_choose` says that what a feed does is one of its choices. `rank_choose` is what
  the step does to its rank.
* `Held`: an inspection that has not returned. `held_of_choose`: a feed that waits, waits for one.
* `goOn_of_over`, `runFeeds_of_over`: a feed that is over does nothing any more.
-/

set_option autoImplicit false

namespace NodeStack

/-! ### What is left alone -/

namespace Plan

variable {Q σ F α : Type} {A : Q → Type} {look : (q : Q) → Option F → σ → Look (A q) F × σ}
  {P : σ → Prop}

/-- Procedures keep what every look keeps. -/
theorem advance_keeps (hlook : ∀ q flight s, P s → P (look q flight s).2) (plan : Plan Q A α)
    (flight : Option F) {s : σ} (h : P s) : P (plan.advance look flight s).2 := by
  induction plan generalizing flight s with
  | done value => exact h
  | ask q next ih =>
    have hafter := hlook q flight s h
    rw [advance]
    generalize look q flight s = found at hafter
    obtain ⟨_ | _ | _, s'⟩ := found
    · exact ih _ none hafter
    · exact hafter
    · exact hafter

theorem Progress.resume_keeps (hlook : ∀ q flight s, P s → P (look q flight s).2)
    (task : Progress Q A F α) {s : σ} (h : P s) : P (task.resume look s).2 := by
  cases task with
  | waiting plan flight => exact advance_keeps hlook plan flight h
  | ended | crashed => exact h

theorem Progress.resumeAll_keeps (hlook : ∀ q flight s, P s → P (look q flight s).2)
    (tasks : List (Progress Q A F α)) {s : σ} (h : P s) :
    P (Progress.resumeAll look tasks s).2 := by
  induction tasks generalizing s with
  | nil => exact h
  | cons task rest ih => exact ih (task.resume_keeps hlook h)

end Plan

namespace Stack.Feed

open Plan (Progress)

variable {σ Stream F : Type}

/-- When the procedures of a feed go on, nothing else changes anything. -/
theorem proceed_resumed (around : Surroundings σ Stream F) (next : Feed → Feed)
    (t : Task Stream F) (s : σ) :
    (t.proceed around next s).1.work = (Progress.resumeAll around.look t.work s).1 ∧
      (t.proceed around next s).2.2 = (Progress.resumeAll around.look t.work s).2 := by
  rw [Task.proceed]
  dsimp only
  split
  · exact ⟨rfl, rfl⟩
  · split <;> exact ⟨rfl, rfl⟩

/-- A step of a feed keeps what its surroundings keep. -/
theorem Task.step_keeps {around : Surroundings σ Stream F} {P : σ → Prop}
    (hsubscribe : ∀ s, P s → P (around.subscribe s).2)
    (hreceive : ∀ stream s, P s → P (around.receive stream s).2)
    (hlook : ∀ q flight s, P s → P (around.look q flight s).2) (r : Registry) (now : Nat)
    (stopped : Bool) (t : Task Stream F) {s : σ} (h : P s) :
    P (t.step around r now stopped s).2.2 := by
  have hproceed : ∀ next, P (t.proceed around next s).2.2 := by
    intro next
    rw [(proceed_resumed around next t s).2]
    exact Progress.resumeAll_keeps hlook t.work h
  unfold Task.step
  split
  · exact hsubscribe s h
  · exact hproceed _
  · exact hproceed _
  · have hafter := hreceive t.stream s h
    have hlisten : (t.listen around r now stopped s).2 = (around.receive t.stream s).2 := by
      rw [Task.listen]
      generalize around.receive t.stream s = found
      obtain ⟨_ | _ | _, s'⟩ := found
      · next item => cases item <;> rfl
      · rfl
      · rfl
    rw [← hlisten] at hafter
    generalize t.listen around r now stopped s = heard at hafter
    obtain ⟨_ | _, s'⟩ := heard <;> exact hafter
  · split
    · exact h
    · split <;> exact h
  · exact h
  · exact h

/-! ### Steps of a feed that was told to stop -/

/-- How far a feed that was told to stop is from its end. -/
def Task.rank (t : Task Stream F) : Nat :=
  match t.feed.phase with
  | .subscribing => 3
  | .syncing | .handling _ => 2
  | .listening | .pausing _ => 1
  | .ended | .crashed => 0

/-- Whether a feed waits for an event or pauses, which is where it can heed that it is to stop. -/
def Task.selects (t : Task Stream F) : Bool :=
  match t.feed.phase with
  | .listening | .pausing _ => true
  | _ => false

/-- What a step of a feed can be that was told to stop. -/
inductive Turn (t : Task Stream F) : Task Stream F → Bool → Prop where
  /-- It is over, and does nothing. -/
  | idle (hover : t.feed.isOver = true) : Turn t t false
  /-- It comes nearer to its end. -/
  | onward {t' : Task Stream F} (hless : t'.rank < t.rank) : Turn t t' true
  /-- An event comes, the stream ends, or its pause is over, and it goes on with that. -/
  | slips {t' : Task Stream F} (hselects : t.selects = true) (hgoes : t'.feed.isOver = false) :
    Turn t t' true
  /-- It waits for the end of what it has begun. -/
  | waits {t' : Task Stream F} (hsame : t'.feed = t.feed) (hwork : t.rank = 2)
    (hheld : ∃ task ∈ t'.work, task.isOver = false) : Turn t t' false

section
variable {t : Task Stream F}

theorem Task.rank_le (t : Task Stream F) : t.rank ≤ 3 := by
  unfold rank
  split <;> omega

theorem Task.rank_eq_zero : t.rank = 0 ↔ t.feed.isOver = true := by
  unfold rank isOver
  cases t.feed.phase <;> simp

theorem Task.rank_of_selects (h : t.selects = true) : t.rank = 1 := by
  unfold selects at h
  unfold rank
  split at h
  · next hphase => rw [hphase]
  · next hphase => rw [hphase]
  · cases h

/-- A feed that waits for its procedures goes on, breaks down, or waits longer. -/
theorem turn_proceed (around : Surroundings σ Stream F) (next : Feed → Feed) (s : σ)
    (hrank : t.rank = 2) (hnext : (next t.feed).phase = .listening) :
    Turn t (t.proceed around next s).1 (t.proceed around next s).2.1 := by
  generalize hresumed : Progress.resumeAll around.look t.work s = resumed
  obtain ⟨tasks, s'⟩ := resumed
  rcases proceed_cases next hresumed with he | ⟨he, -⟩ | ⟨he, hheld⟩ <;> rw [he]
  · refine .onward ?_
    rw [hrank]
    exact Nat.zero_lt_two
  · refine .onward ?_
    rw [hrank, Task.rank]
    dsimp only
    rw [hnext]
    exact Nat.one_lt_two
  · exact .waits rfl hrank hheld

theorem step_work (around : Surroundings σ Stream F) (r : Registry) (now : Nat) (stopped : Bool)
    (s : σ) (hrank : t.rank = 2) :
    (t.step around r now stopped s).1.work = (Progress.resumeAll around.look t.work s).1 := by
  unfold Task.rank at hrank
  unfold Task.step
  cases hphase : t.feed.phase with
  | syncing => exact (proceed_resumed around Feed.synced t s).1
  | handling event => exact (proceed_resumed around Feed.handled t s).1
  | subscribing | listening | pausing | ended | crashed =>
    rw [hphase] at hrank
    cases hrank

/-- A step of a feed that was told to stop. -/
theorem turn_step (around : Surroundings σ Stream F) (r : Registry) (now : Nat) (s : σ) :
    Turn t (t.step around r now true s).1 (t.step around r now true s).2.1 := by
  unfold Task.step
  cases hphase : t.feed.phase with
  | subscribing =>
    refine .onward ?_
    rw [Task.rank, Task.rank, hphase]
    exact Nat.lt_succ_self 2
  | syncing =>
    exact turn_proceed around Feed.synced s (by rw [Task.rank, hphase]) rfl
  | handling event =>
    exact turn_proceed around Feed.handled s (by rw [Task.rank, hphase]) rfl
  | listening =>
    have hselects : t.selects = true := by rw [Task.selects, hphase]
    dsimp only
    rw [Task.listen]
    generalize around.receive t.stream s = found
    obtain ⟨_ | _ | _, s'⟩ := found
    · next item => cases item <;> exact .slips hselects rfl
    · refine .onward ?_
      rw [Task.rank_of_selects hselects]
      exact Nat.zero_lt_one
    · exact .slips hselects rfl
  | pausing wake =>
    refine .onward ?_
    rw [Task.rank, Task.rank, hphase]
    exact Nat.zero_lt_one
  | ended | crashed =>
    refine .idle ?_
    rw [isOver, hphase]

end

end Stack.Feed

namespace Scenario

open Plan (Look Progress)
open Stack (Feed Track)
open Stack.Feed (Turn)

/-! ### Calls of the engine that have not returned -/

namespace World

section
variable {w : World} {tasks : List TrackTask}

/-- A question that keeps a procedure waiting is a call of the engine that has not returned. -/
theorem lookTrack_waiting {q : Track} {flight : Option StagedEngine.Flight}
    {f : StagedEngine.Flight} (h : (w.lookTrack q flight).1 = .waiting f) :
    (∃ name, q = .inspect name) ∧ f.turn? w.now = none := by
  cases q with
  | holder id | take service record => cases h
  | inspect name =>
    refine ⟨⟨name, rfl⟩, ?_⟩
    have hnow : (w.flightOf .inspect name (.inspect name) flight).2.now = w.now := by
      cases flight <;> rfl
    have hnever : ∀ (f : StagedEngine.Flight) now, f.turn? now ≠ some .never := by
      intro f now
      unfold StagedEngine.Flight.turn?
      split
      · next hdue =>
        intro he
        rw [Option.some.inj he] at hdue
        simp at hdue
      · exact nofun
    change (w.callEngine _ _ _ _ flight).1 = _ at h
    unfold callEngine at h
    generalize w.flightOf .inspect name (.inspect name) flight = begun at h hnow
    obtain ⟨g, w'⟩ := begun
    dsimp only at h hnow
    rw [hnow] at h
    split at h
    · next hturn =>
      cases h
      exact hturn
    · next hturn => exact absurd hturn (hnever g w.now)
    · cases h
    · cases h
    · cases h

/-- Only the engine and the latest records have changed. -/
def Followed (w w' : World) : Prop :=
  ∃ engine watches, w' = { w with engine := engine, watches := watches }

theorem Followed.refl (w : World) : Followed w w := ⟨w.engine, w.watches, rfl⟩

theorem Followed.now {w' : World} (h : Followed w w') : w'.now = w.now := by
  obtain ⟨engine, watches, rfl⟩ := h
  rfl

theorem followed_lookTrack {w' : World} (q : Track) (flight : Option StagedEngine.Flight)
    (h : Followed w w') : Followed w (w'.lookTrack q flight).2 := by
  obtain ⟨engine, watches, rfl⟩ := h
  cases q with
  | holder id => exact ⟨engine, watches, rfl⟩
  | take service record => exact ⟨engine, _, rfl⟩
  | inspect name =>
    show Followed w (callEngine _ _ _ _ flight _).2
    unfold callEngine
    cases flight <;> dsimp only [flightOf] <;> split <;> exact ⟨_, _, rfl⟩

theorem followed_stepFeed (t : FeedTask) (w : World) : Followed w (w.stepFeed t).2.2 := by
  refine Stack.Feed.Task.step_keeps (P := Followed w) ?_ ?_ ?_ _ _ _ t (.refl w)
  · rintro w' ⟨engine, watches, rfl⟩
    exact ⟨_, _, rfl⟩
  · rintro stream w' ⟨engine, watches, rfl⟩
    exact ⟨_, _, rfl⟩
  · intro q flight w' h
    exact followed_lookTrack q flight h

/-- What keeps a procedure waiting is a call of the engine that has not returned. -/
def Held (now : Nat) (task : TrackTask) : Prop :=
  ∃ name next f, task = .waiting (.ask (.inspect name) next) (some f) ∧ f.turn? now = none

theorem held_of_advance (plan : Stack.Tracking Unit) (flight : Option StagedEngine.Flight)
    (w : World) (h : (plan.advance lookTrack flight w).1.isOver = false) :
    Held w.now (plan.advance lookTrack flight w).1 := by
  induction plan generalizing flight w with
  | done value => cases h
  | ask q next ih =>
    have hnow : (w.lookTrack q flight).2.now = w.now := by
      have hfollowed : Followed w (w.lookTrack q flight).2 := followed_lookTrack q flight (.refl w)
      exact hfollowed.now
    have hwaiting : ∀ f, (w.lookTrack q flight).1 = .waiting f →
        (∃ name, q = .inspect name) ∧ f.turn? w.now = none := fun f => lookTrack_waiting
    rw [Plan.advance] at h ⊢
    generalize w.lookTrack q flight = found at h hnow hwaiting
    obtain ⟨_ | f | _, w'⟩ := found
    · rw [← hnow]
      exact ih _ none w' h
    · obtain ⟨⟨name, rfl⟩, hturn⟩ := hwaiting f rfl
      exact ⟨name, next, f, rfl, hturn⟩
    · cases h

theorem held_of_resumeAll (tasks : List TrackTask) (w : World) :
    ∀ task ∈ (Progress.resumeAll lookTrack tasks w).1, task.isOver = false → Held w.now task := by
  induction tasks generalizing w with
  | nil =>
    intro task htask
    cases htask
  | cons first rest ih =>
    have hnow : (first.resume lookTrack w).2.now = w.now := by
      have hfollowed : Followed w (first.resume lookTrack w).2 :=
        first.resume_keeps (fun q flight w' => followed_lookTrack q flight) (.refl w)
      exact hfollowed.now
    intro task htask hgoes
    rcases List.mem_cons.mp htask with rfl | htask
    · cases first with
      | waiting plan flight => exact held_of_advance plan flight w hgoes
      | ended | crashed => cases hgoes
    · rw [← hnow]
      exact ih _ task htask hgoes

end

/-! ### A step of the feed -/

/-- A step of a feed that may have two things to choose from: while it waits for an event or pauses,
there may be an event, or the pause may be over, and it may have been told to stop as well. -/
def choose (heeds : Bool) (t : FeedTask) (w : World) : FeedTask × Bool × World :=
  match heeds, t.feed.phase with
  | true, .listening =>
    if w.stopped then ({ t with feed := t.feed.stop }, true, w) else w.stepFeed t
  | false, .pausing wake =>
    if wake ≤ w.now then ({ t with feed := t.feed.woken }, true, w) else w.stepFeed t
  | _, _ => w.stepFeed t

/-- The feed of a stack, if there is one, takes a step. -/
def goOn (heeds : Bool) (w : World) : World :=
  match w.feeds with
  | [] => w
  | t :: rest => { (w.choose heeds t).2.2 with feeds := (w.choose heeds t).1 :: rest }

/-- Whether a step of the feed is one in which it waits for what it has begun. -/
def waits (heeds : Bool) (w : World) : Bool :=
  w.feeds.any fun t => !t.feed.isOver && !(w.choose heeds t).2.1

/-- Whether a step of the feed is one in which it could heed that it is to stop, and does not. -/
def slips (heeds : Bool) (w : World) : Bool :=
  !heeds && w.feeds.any fun t => t.selects && !(w.choose heeds t).1.feed.isOver

section
variable {w : World} {t : FeedTask}

theorem choose_cases (heeds : Bool) (t : FeedTask) (w : World) :
    w.choose heeds t = w.stepFeed t ∨
    (w.stopped = true ∧ t.feed.phase = .listening ∧
      w.choose heeds t = ({ t with feed := t.feed.stop }, true, w)) ∨
    ((∃ wake, t.feed.phase = .pausing wake) ∧
      w.choose heeds t = ({ t with feed := t.feed.woken }, true, w)) := by
  unfold choose
  split
  · next hphase =>
    split
    · next hstopped => exact .inr (.inl ⟨hstopped, hphase, rfl⟩)
    · exact .inl rfl
  · next wake hphase =>
    split
    · exact .inr (.inr ⟨⟨wake, hphase⟩, rfl⟩)
    · exact .inl rfl
  · exact .inl rfl

theorem followed_choose (heeds : Bool) (t : FeedTask) (w : World) :
    Followed w (w.choose heeds t).2.2 := by
  rcases choose_cases heeds t w with he | ⟨-, -, he⟩ | ⟨-, he⟩ <;> rw [he]
  · exact followed_stepFeed t w
  · exact .refl w
  · exact .refl w

/-- A step of a feed that was told to stop, whatever it chooses. -/
theorem turn_choose (hstopped : w.stopped = true) (heeds : Bool) :
    Turn t (w.choose heeds t).1 (w.choose heeds t).2.1 := by
  rcases choose_cases heeds t w with he | ⟨-, hphase, he⟩ | ⟨⟨wake, hphase⟩, he⟩ <;> rw [he]
  · rw [stepFeed, hstopped]
    exact Stack.Feed.turn_step _ _ _ _
  · have hselects : t.selects = true := by rw [Feed.Task.selects, hphase]
    refine .onward ?_
    rw [Feed.Task.rank_of_selects hselects]
    exact Nat.zero_lt_one
  · refine .slips ?_ rfl
    rw [Feed.Task.selects, hphase]

/-- A feed that heeds that it is to stop is over. -/
theorem choose_heeds (hstopped : w.stopped = true) (hselects : t.selects = true) :
    (w.choose true t).1.feed.isOver = true := by
  unfold Feed.Task.selects at hselects
  split at hselects
  · next hphase =>
    unfold choose
    rw [hphase]
    dsimp only
    rw [if_pos hstopped]
    rfl
  · next wake hphase =>
    unfold choose
    rw [hphase]
    dsimp only
    rw [stepFeed, Feed.Task.step, hphase, hstopped]
    rfl
  · cases hselects

/-- What a feed does in a world is one of its choices. -/
theorem stepFeed_eq_choose (t : FeedTask) (w : World) :
    ∃ heeds, w.stepFeed t = w.choose heeds t := by
  by_cases hphase : t.feed.phase = .listening
  · refine ⟨false, ?_⟩
    unfold choose
    rw [hphase]
  · refine ⟨true, ?_⟩
    unfold choose
    cases h : t.feed.phase with
    | listening => exact absurd h hphase
    | _ => rfl

/-- A feed that is over does nothing. -/
theorem stepFeed_of_over (hover : t.feed.isOver = true) : w.stepFeed t = (t, false, w) := by
  unfold Feed.isOver at hover
  split at hover
  · next hphase => rw [stepFeed, Feed.Task.step, hphase]
  · next hphase => rw [stepFeed, Feed.Task.step, hphase]
  · cases hover

theorem choose_of_over (heeds : Bool) (hover : t.feed.isOver = true) :
    w.choose heeds t = (t, false, w) := by
  rcases choose_cases heeds t w with he | ⟨-, hphase, -⟩ | ⟨⟨wake, hphase⟩, -⟩
  · rw [he, stepFeed_of_over hover]
  · rw [Feed.isOver, hphase] at hover
    cases hover
  · rw [Feed.isOver, hphase] at hover
    cases hover

theorem goOn_of_over (heeds : Bool) (hover : ∀ t ∈ w.feeds, t.feed.isOver = true) :
    w.goOn heeds = w := by
  unfold goOn
  split
  · rfl
  · next t rest hfeeds =>
    rw [choose_of_over heeds (hover t (hfeeds ▸ List.mem_cons_self)), ← hfeeds]

theorem runFeeds_of_over {feeds : List FeedTask} (hover : ∀ t ∈ feeds, t.feed.isOver = true) :
    w.runFeeds feeds = (feeds, w) := by
  induction feeds with
  | nil => rfl
  | cons t rest ih =>
    have hrun : w.runFeed (w.feedBound t) t = (t, w) := by
      rw [feedBound, runFeed, stepFeed_of_over (hover t List.mem_cons_self)]
    rw [runFeeds, hrun]
    dsimp only
    rw [ih fun t' ht' => hover t' (List.mem_cons_of_mem _ ht')]

/-- A step brings a feed nearer to its end, unless it waits or does not heed that it is to stop. -/
theorem rank_choose (hstopped : w.stopped = true) (hfeeds : w.feeds = [t]) (heeds : Bool)
    (hgoes : (w.choose heeds t).1.feed.isOver = false) :
    t.feed.isOver = false ∧
      (w.choose heeds t).1.rank + 1 ≤
        t.rank + (w.waits heeds).toNat + 3 * (w.slips heeds).toNat := by
  have hturn := turn_choose (t := t) hstopped heeds
  have hnot : t.rank ≠ 0 → t.feed.isOver = false := fun hrank =>
    eq_false_of_ne_true fun hover => hrank (Feed.Task.rank_eq_zero.mpr hover)
  generalize hafter : w.choose heeds t = done at hturn hgoes ⊢
  obtain ⟨t', goes, w'⟩ := done
  dsimp only at hturn hgoes ⊢
  cases hturn with
  | idle hover =>
    rw [hover] at hgoes
    cases hgoes
  | onward hless => exact ⟨hnot (Nat.ne_zero_of_lt hless), by omega⟩
  | slips hselects =>
    have hrank := Feed.Task.rank_of_selects hselects
    have hle := t'.rank_le
    have hslips : w.slips heeds = true := by
      cases heeds with
      | false => simp [slips, hfeeds, hafter, hselects, hgoes]
      | true =>
        -- it would be over
        have hover := choose_heeds hstopped hselects
        rw [hafter, hgoes] at hover
        cases hover
    rw [hslips, Bool.toNat_true]
    exact ⟨hnot (by omega), by omega⟩
  | waits hsame =>
    rw [hsame] at hgoes
    have hrank : t'.rank = t.rank := by rw [Feed.Task.rank, hsame, Feed.Task.rank]
    have hwaits : w.waits heeds = true := by simp [waits, hfeeds, hafter, hgoes]
    rw [hwaits, Bool.toNat_true]
    exact ⟨hgoes, by omega⟩

/-- At most one feed takes a step. -/
theorem goOn_cases (heeds : Bool) (hfew : w.feeds.length ≤ 1) :
    (w.feeds = [] ∧ w.goOn heeds = w) ∨
    ∃ t engine watches, w.feeds = [t] ∧
      w.goOn heeds = { w with
        feeds := [(w.choose heeds t).1], engine := engine, watches := watches } := by
  unfold goOn
  cases hfeeds : w.feeds with
  | nil => exact .inl ⟨rfl, rfl⟩
  | cons t rest =>
    rw [hfeeds] at hfew
    obtain rfl : rest = [] :=
      List.eq_nil_of_length_eq_zero (Nat.le_zero.mp (Nat.le_of_succ_le_succ hfew))
    obtain ⟨engine, watches, he⟩ := followed_choose heeds t w
    dsimp only
    rw [he]
    exact .inr ⟨t, engine, watches, rfl, rfl⟩

/-- What a feed waits for is an inspection that has not returned. -/
theorem held_of_choose {heeds : Bool} (hgoes : t.feed.isOver = false)
    (hstopped : w.stopped = true) (hwaits : (w.choose heeds t).2.1 = false) :
    ∃ task ∈ (w.choose heeds t).1.work, Held w.now task := by
  have hturn := turn_choose (t := t) hstopped heeds
  have hstep : w.choose heeds t = w.stepFeed t := by
    rcases choose_cases heeds t w with he | ⟨-, -, he⟩ | ⟨-, he⟩
    · exact he
    · rw [he] at hwaits
      cases hwaits
    · rw [he] at hwaits
      cases hwaits
  have hheld := held_of_resumeAll t.work w
  rw [hwaits] at hturn
  rw [hstep] at hturn ⊢
  generalize hafter : (w.stepFeed t).1 = t' at hturn ⊢
  cases hturn with
  | idle hover =>
    rw [hover] at hgoes
    cases hgoes
  | waits hsame hwork hexists =>
    obtain ⟨task, htask, hopen⟩ := hexists
    rw [← hafter, stepFeed, Feed.step_work _ _ _ _ _ hwork] at htask ⊢
    exact ⟨task, htask, hheld task htask hopen⟩

end

end World

end Scenario

end NodeStack
