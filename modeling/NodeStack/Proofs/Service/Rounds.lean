import Mathlib.Data.List.Chain
import Mathlib.Data.List.ModifyLast
import NodeStack.Proofs.Service.Follower
import NodeStack.Proofs.Service.Waits

/-!
# `NodeStack.Proofs.Service.Rounds`: a log is followed in whole rounds

A follower runs in a world that may change at any time, and its reader may do what it likes.

* `History`: what has happened to a follower so far: the snapshots of its container that have been
  published, the calls for logs with what they brought, and the lines that the reader has received.
  The calls that the engine noted are kept apart, as a check on the others.
* `Course`: the runs of a follower. `Course.runFollower`: what a world does with its followers is
  one of them.
* `course_in_rounds`: the reader receives whole logs, one after the other, each with a mark at its
  end. Each of them belongs to a start of the container.

An opened log is a list of lines with an end, but the follower takes the lines one at a time, and
any time may pass in between. So a log that comes little by little is covered, and so is one that
breaks off or falls silent.

`Kept` is what stands at any moment. It has three parts that hardly meet: `Watch.Heeds` for the
wait, `Stage` for the calls and the phase, and `Delivered` for the lines. There is one lemma for
each kind of step: `kept_waiting`, `kept_opening`, `kept_going`.
-/

set_option autoImplicit false

namespace NodeStack.Scenario.FollowTask

open Engine (Log LogRange Record Watch)
open Engine.Watch (Act Heeds snapshots)
open Plan (Look)
open Service (Follower)
open Service.Follower (Goes endMark laterRange owed relayed restartDelay)
open StagedEngine (Flight Note)

/-! ### Runs -/

/-- A call for a log. -/
structure Call where
  /-- When the engine is asked. -/
  asked : Nat
  /-- How many snapshots of the container have been published by then. -/
  seen : Nat
  /-- The container, as it was found running. -/
  record : Record
  range : LogRange

/-- A call for a log, and the log if the engine gives it. -/
structure Round extends Call where
  log : Option Log

/-- What is passed on in a round. -/
def Round.lines (r : Round) : List String := r.log.elim [] relayed

/-- What has happened to a follower so far. -/
structure History where
  /-- The snapshots of the container. -/
  published : List (Option Record)
  rounds : List Round
  /-- The calls that the engine has noted. -/
  notes : List Note
  /-- The lines that the reader has received. -/
  received : List String

namespace History

/-- The calls for a log. -/
def calls (h : History) : List Call := h.rounds.map Round.toCall

/-- All that is passed on in the rounds so far. -/
def lines (h : History) : List String := h.rounds.flatMap Round.lines

/-- The engine is asked for a log at the time `now`. -/
def ask (now : Nat) (record : Record) (range : LogRange) (h : History) : History :=
  { h with rounds := h.rounds ++ [⟨⟨now, h.published.length, record, range⟩, none⟩] }

/-- The engine gives the log that it was asked for last. -/
def give (log : Log) (h : History) : History :=
  { h with rounds := h.rounds.modifyLast fun r => { r with log := some log } }

/-- What a look at a call for a log shows. -/
def look (h : History) : Look (Except Engine.Fault Log) Flight → History
  | .answered (.ok log) => h.give log
  | _ => h

/-- What a step of a follower adds. A call is made if none is under way. -/
def step (t : FollowTask) (w : World) (h : History) : History :=
  let h := { h with
    notes := h.notes ++ (w.stepFollower t).2.2.engine.notes.drop w.engine.notes.length }
  match t.follower.phase with
  | .opening record range =>
    (if t.flight.isNone then h.ask w.now record range else h).look
      (w.openLog (w.containerOf t.service) range t.flight).1
  | _ => h

/-- The reader takes some of the lines that wait. -/
def hear (lines : List String) (h : History) : History := { h with received := h.received ++ lines }

section
variable (h : History) (now : Nat) (record : Record) (range : LogRange) (log : Log)

theorem calls_ask :
    (h.ask now record range).calls = h.calls ++ [⟨now, h.published.length, record, range⟩] :=
  List.map_append

theorem lines_ask : (h.ask now record range).lines = h.lines := by
  rw [lines, ask, List.flatMap_append]
  exact List.append_nil _

end

/-- The rounds once the engine gives a log that it was asked for. -/
theorem rounds_give {h : History} {past : List Round} {last : Round}
    (hrounds : h.rounds = past ++ [last]) (log : Log) :
    (h.give log).rounds = past ++ [{ last with log := some log }] := by
  rw [give, hrounds]
  exact List.modifyLast_concat ..

end History

/-- A follower of the log of a service. Beside its steps anything may happen: the engine and the
rest of the world may change at any time, others may do with the watch of the service what can be
done with it, and the reader may take lines, tell the follower to stop, or go away. -/
inductive Course (since tail : Option String) : FollowTask → World → History → Prop where
  /-- It begins; something may have happened to the container before. -/
  | start {w : World} {service : Nat} {name : String} {acts : List Act}
    (hwatch : w.watches.get? service = some ((Watch.ofName name).run acts)) :
    Course since tail ⟨.start since tail, service, none, none⟩ w ⟨snapshots acts, [], [], []⟩
  /-- It takes a step. -/
  | step {t : FollowTask} {w : World} {h : History} (hc : Course since tail t w h) :
    Course since tail (w.stepFollower t).1 (w.stepFollower t).2.2 (h.step t w)
  /-- Something happens beside it. Nobody else looks at its wait or gives it up. -/
  | beside {t : FollowTask} {w : World} {h : History} (hc : Course since tail t w h) {w' : World}
    (acts : List Act) (hnow : w.now ≤ w'.now)
    (hname : w'.containerOf t.service = w.containerOf t.service)
    (hwatch : w'.watches.get? t.service = (w.watches.get? t.service).map (Watch.run acts))
    (hown : ∀ k, t.ticket = some k → Act.poll k ∉ acts ∧ Act.drop k ∉ acts) :
    Course since tail t w' { h with published := h.published ++ snapshots acts }
  /-- The reader takes lines. -/
  | hear {t : FollowTask} {w : World} {h : History} (hc : Course since tail t w h) (count : Nat) :
    Course since tail { t with follower := (t.follower.hear count).2 } w
      (h.hear (t.follower.hear count).1)
  /-- It is told to stop. -/
  | cancel {t : FollowTask} {w : World} {h : History} (hc : Course since tail t w h) :
    Course since tail { t with follower := t.follower.cancel } w h
  /-- It overlooks for now that it was told to stop. Where it could also go on, it may choose
  either. -/
  | overlook {t : FollowTask} {w : World} {h : History} (hc : Course since tail t w h) :
    Course since tail { t with follower := { t.follower with told := false } } w h
  /-- The reader goes away. -/
  | drop {t : FollowTask} {w : World} {h : History} (hc : Course since tail t w h) :
    Course since tail { t with follower := t.follower.drop } w h

section
variable {since tail : Option String} {t : FollowTask} {w : World} {h : History}

/-- The reader may take all the lines that wait. -/
theorem Course.takeLines (hc : Course since tail t w h) :
    Course since tail { t with follower := t.follower.takeLines.2 } w
      (h.hear t.follower.takeLines.1) := by
  rw [Follower.takeLines_eq_hear]
  exact hc.hear _

/-- In a world a follower takes as many steps as it can. -/
theorem Course.runFollower (hc : Course since tail t w h) (fuel : Nat) :
    ∃ h', Course since tail (w.runFollower fuel t).1 (w.runFollower fuel t).2 h' := by
  induction fuel generalizing t w h with
  | zero => exact ⟨h, hc⟩
  | succ fuel ih =>
    have hstep := hc.step
    rw [World.runFollower]
    generalize w.stepFollower t = done at hstep
    obtain ⟨t', more, w'⟩ := done
    cases more with
    | true => exact ih hstep
    | false => exact ⟨_, hstep⟩

end

/-! ### The calls -/

/-- The containers of two records are not the same, or have been started at different times. -/
def Differs (a b : Record) : Prop := a.id ≠ b.id ∨ a.startedAt ≠ b.startedAt

/-- A call comes after another: the container has been started anew, and the follower has rested. -/
structure Follows (a b : Call) : Prop where
  restarted : Differs a.record b.record
  rested : a.asked + restartDelay ≤ b.asked

/-- Which part of its log a follower asks for, if that is call number `n`. -/
def rangeOf (since tail : Option String) (n : Nat) (record : Record) : LogRange :=
  if n = 0 then ⟨since, tail, true⟩
  else ⟨record.startedAt.map fun time => toString time.seconds, none, true⟩

/-- The calls of a follower are as they should be. -/
structure Sound (since tail : Option String) (published : List (Option Record))
    (calls : List Call) : Prop where
  running : ∀ c ∈ calls, c.record.phase = .running
  published : ∀ c ∈ calls, some c.record ∈ published.take c.seen
  follows : calls.IsChain Follows
  ranges : ∀ n c, calls[n]? = some c → c.range = rangeOf since tail n c.record

/-- A follower may make another call. -/
structure Ready (since tail : Option String) (published : List (Option Record))
    (calls : List Call) (now : Nat) (record : Record) (range : LogRange) : Prop where
  running : record.phase = .running
  published : some record ∈ published
  follows : ∀ c, calls.getLast? = some c → Differs c.record record ∧ c.asked + restartDelay ≤ now
  range : range = rangeOf since tail calls.length record

section
variable {since tail : Option String} {published : List (Option Record)} {calls : List Call}
  {now : Nat} {record : Record} {range : LogRange}

theorem Sound.call (hsound : Sound since tail published calls)
    (hready : Ready since tail published calls now record range) :
    Sound since tail published (calls ++ [⟨now, published.length, record, range⟩]) where
  running c hc := by
    rw [List.mem_append, List.mem_singleton] at hc
    rcases hc with hc | rfl
    · exact hsound.running c hc
    · exact hready.running
  published c hc := by
    rw [List.mem_append, List.mem_singleton] at hc
    rcases hc with hc | rfl
    · exact hsound.published c hc
    · exact (List.take_length (l := published)).symm ▸ hready.published
  follows := by
    rw [List.isChain_append]
    refine ⟨hsound.follows, List.isChain_singleton _, fun a ha b hb => ?_⟩
    obtain rfl := Option.mem_some.mp hb
    exact ⟨(hready.follows a ha).1, (hready.follows a ha).2⟩
  ranges n c hc := by
    -- A call before the last, or the last one, whose number is how many there were.
    rcases Nat.lt_or_ge n calls.length with hn | hn
    · rw [List.getElem?_append_left hn] at hc
      exact hsound.ranges n c hc
    · rw [List.getElem?_append_right hn, List.getElem?_singleton] at hc
      split at hc
      · next hz =>
        obtain rfl : n = calls.length := by omega
        obtain rfl := Option.some.inj hc
        exact hready.range
      · cases hc

/-- More snapshots make no difference to the calls made before. -/
theorem Sound.publish (hsound : Sound since tail published calls) (more : List (Option Record)) :
    Sound since tail (published ++ more) calls where
  running := hsound.running
  published c hc := by
    rw [List.take_append]
    exact List.mem_append_left _ (hsound.published c hc)
  follows := hsound.follows
  ranges := hsound.ranges

theorem Ready.mono {later : Nat} (hready : Ready since tail published calls now record range)
    (hnow : now ≤ later) (more : List (Option Record)) :
    Ready since tail (published ++ more) calls later record range where
  running := hready.running
  published := List.mem_append_left _ hready.published
  follows c hc := ⟨(hready.follows c hc).1, Nat.le_trans (hready.follows c hc).2 hnow⟩
  range := hready.range

end

/-! ### What stands -/

/-- The last call was about a container, and was made at some time or before. -/
def Asked (record : Record) (time : Nat) (calls : List Call) : Prop :=
  ∃ c, calls.getLast? = some c ∧ c.record = record ∧ c.asked ≤ time

/-- The last call has brought no log. -/
def Unanswered (rounds : List Round) : Prop := ∀ r, rounds.getLast? = some r → r.log = none

/-- A follower waits to make its first call, or the one after the last. -/
structure Due (since tail : Option String) (first : Option LogRange) (previous : Option Record)
    (now : Nat) (calls : List Call) : Prop where
  first : first = if calls = [] then some ⟨since, tail, true⟩ else none
  previous : previous = calls.getLast?.map (·.record)
  rested : ∀ c, calls.getLast? = some c → c.asked + restartDelay ≤ now

/-- What the calls so far have to do with the phase of a follower. -/
def Stage (since tail : Option String) (t : FollowTask) (now : Nat) (h : History) : Prop :=
  match t.follower.phase with
  | .waiting =>
    t.flight = none ∧ Due since tail t.follower.first t.follower.previous now h.calls
  | .opening record range =>
    t.follower.first = none ∧
      (t.flight = none → Ready since tail h.published h.calls now record range) ∧
      (t.flight ≠ none → Asked record now h.calls ∧ Unanswered h.rounds)
  | .reading record _ | .passing record _ _ =>
    t.follower.first = none ∧ t.flight = none ∧ Asked record now h.calls
  | .resting record wake =>
    t.follower.first = none ∧ t.flight = none ∧ t.follower.previous = some record ∧
      ∃ began, Asked record began h.calls ∧ wake = began + restartDelay
  | .ended => True

/-- What has become of the lines that are to be passed on. -/
structure Delivered (f : Follower) (received lines : List String) : Prop where
  /-- What the reader has received and what waits for it is a part of them, from the first on. -/
  part : received ++ f.buffer <+: lines
  /-- The rest is still to be passed on, unless the reader is gone or the follower has ended. -/
  whole : f.deserted = false → f.phase ≠ .ended → received ++ f.buffer ++ f.owed = lines

section
variable {f f' : Follower} {received lines : List String}

/-- More is to be passed on. -/
theorem Delivered.owe
    (hd : Delivered f received lines) (hphase : f.phase ≠ .ended) (hbuffer : f'.buffer = f.buffer)
    (hdeserted : f'.deserted = f.deserted) {more : List String} (howed : f'.owed = f.owed ++ more) :
    Delivered f' received (lines ++ more) where
  part := hbuffer ▸ hd.part.trans (List.prefix_append _ _)
  whole hhere _ := by
    rw [hbuffer, howed, ← List.append_assoc, hd.whole (hdeserted ▸ hhere) hphase]

/-- Only what waits and what is owed counts. -/
theorem Delivered.turn
    (hd : Delivered f received lines) (hphase : f.phase ≠ .ended) (hbuffer : f'.buffer = f.buffer)
    (hdeserted : f'.deserted = f.deserted) (howed : f'.owed = f.owed) :
    Delivered f' received lines :=
  List.append_nil lines ▸ hd.owe hphase hbuffer hdeserted (howed.trans (List.append_nil _).symm)

/-- A line that was owed waits to be taken. -/
theorem Delivered.pass {line : String}
    (hd : Delivered f received lines) (hphase : f.phase ≠ .ended) (hhere : f.deserted = false)
    (hbuffer : f'.buffer = f.buffer ++ [line]) (howed : f.owed = line :: f'.owed) :
    Delivered f' received lines := by
  have hwhole : received ++ f'.buffer ++ f'.owed = lines := by
    rw [← hd.whole hhere hphase, hbuffer, howed]
    simp
  exact ⟨⟨_, hwhole⟩, fun _ _ => hwhole⟩

/-- The reader takes lines that wait. -/
theorem Delivered.hear (hd : Delivered f received lines)
    (count : Nat) :
    Delivered (f.hear count).2 (received ++ (f.hear count).1) lines := by
  have hsame : received ++ (f.hear count).1 ++ (f.hear count).2.buffer = received ++ f.buffer := by
    rw [List.append_assoc]
    exact congrArg (received ++ ·) (List.take_append_drop count f.buffer)
  refine ⟨hsame ▸ hd.part, fun hhere hphase => ?_⟩
  rw [hsame]
  exact hd.whole hhere hphase

/-- The reader goes away. -/
theorem Delivered.drop (hd : Delivered f received lines) : Delivered f.drop received lines where
  part := (List.append_nil received).symm ▸ (List.prefix_append _ _).trans hd.part
  whole hhere := Bool.noConfusion hhere

end

/-- What stands at any moment of the life of a follower. -/
structure Kept (since tail : Option String) (t : FollowTask) (w : World) (h : History) :
    Prop where
  watched : ∃ watch, w.watches.get? t.service = some watch ∧
    watch.Heeds t.ticket t.follower.want h.published
  waits : t.ticket ≠ none → t.follower.phase = .waiting
  sound : Sound since tail h.published h.calls
  stage : Stage since tail t w.now h
  delivered : Delivered t.follower h.received h.lines
  noted : h.notes = h.calls.map fun c => .logs (w.containerOf t.service) c.range

section
variable {since tail : Option String} {t : FollowTask} {w : World} {h : History}

theorem Due.found {f : Follower} {now : Nat} {published : List (Option Record)}
    {calls : List Call} {record : Record} (hdue : Due since tail f.first f.previous now calls)
    (hholds : f.want.Holds record) (hpublished : some record ∈ published) :
    Ready since tail published calls now record (f.first.getD (laterRange record)) := by
  -- The first call is for any running container, and later ones for one that was started anew.
  rcases hlast : calls.getLast? with _ | c
  · have hnil : calls = [] := List.getLast?_eq_none_iff.mp hlast
    have hwant : f.want = .running := by
      rw [Follower.want, hdue.previous, hlast]
      rfl
    rw [hwant] at hholds
    refine ⟨hholds, hpublished, fun c hc => ?_, ?_⟩
    · rw [hlast] at hc
      cases hc
    · rw [hdue.first, if_pos hnil, rangeOf, if_pos (List.length_eq_zero_iff.mpr hnil)]
      rfl
  · have hcons : calls ≠ [] := fun hnil => by
      rw [hnil] at hlast
      cases hlast
    have hwant : f.want = .restartOf c.record := by
      rw [Follower.want, hdue.previous, hlast]
      rfl
    rw [hwant] at hholds
    refine ⟨hholds.1, hpublished, fun c' hc' => ?_, ?_⟩
    · rw [hlast] at hc'
      obtain rfl := Option.some.inj hc'
      exact ⟨hholds.2.imp Ne.symm Ne.symm, hdue.rested c hlast⟩
    · rw [hdue.first, if_neg hcons, rangeOf, if_neg (mt List.length_eq_zero_iff.mp hcons)]
      rfl

section
variable {now : Nat} (hs : Stage since tail t now h)
include hs

theorem Stage.waiting (hphase : t.follower.phase = .waiting) :
    t.flight = none ∧ Due since tail t.follower.first t.follower.previous now h.calls := by
  unfold Stage at hs
  rwa [hphase] at hs

theorem Stage.opening {record : Record} {range : LogRange}
    (hphase : t.follower.phase = .opening record range) :
    t.follower.first = none ∧
      (t.flight = none → Ready since tail h.published h.calls now record range) ∧
      (t.flight ≠ none → Asked record now h.calls ∧ Unanswered h.rounds) := by
  unfold Stage at hs
  rwa [hphase] at hs

theorem Stage.reading {record : Record} {log : Log}
    (hphase : t.follower.phase = .reading record log) :
    t.follower.first = none ∧ t.flight = none ∧ Asked record now h.calls := by
  unfold Stage at hs
  rwa [hphase] at hs

theorem Stage.passing {record : Record} {line : String} {rest : Option Log}
    (hphase : t.follower.phase = .passing record line rest) :
    t.follower.first = none ∧ t.flight = none ∧ Asked record now h.calls := by
  unfold Stage at hs
  rwa [hphase] at hs

theorem Stage.resting {record : Record} {wake : Nat}
    (hphase : t.follower.phase = .resting record wake) :
    t.follower.first = none ∧ t.flight = none ∧ t.follower.previous = some record ∧
      ∃ began, Asked record began h.calls ∧ wake = began + restartDelay := by
  unfold Stage at hs
  rwa [hphase] at hs

end

/-- A follower that has rested waits to make another call. -/
theorem Asked.due {began now : Nat} {record : Record} {calls : List Call}
    (hasked : Asked record began calls) (hnow : began + restartDelay ≤ now) :
    Due since tail none (some record) now calls := by
  obtain ⟨c, hlast, rfl, htime⟩ := hasked
  refine ⟨?_, ?_, fun c' hc' => ?_⟩
  · rw [if_neg]
    rintro rfl
    cases hlast
  · rw [hlast]
    rfl
  · obtain rfl := Option.some.inj (hlast.symm.trans hc')
    omega

theorem kept_start {service : Nat} {name : String} {acts : List Act}
    (hwatch : w.watches.get? service = some ((Watch.ofName name).run acts)) :
    Kept since tail ⟨.start since tail, service, none, none⟩ w ⟨snapshots acts, [], [], []⟩ where
  watched := by
    refine ⟨_, hwatch, Watch.fresh_run (Watch.fresh_ofName name) acts, fun r hr => ?_,
      fun k hk => ?_⟩
    · rcases Watch.current_run acts _ hr with hnone | hmem
      · cases hnone
      · exact hmem
    · cases hk
  waits hk := absurd rfl hk
  sound := ⟨by simp [History.calls], by simp [History.calls], List.isChain_nil,
    by simp [History.calls]⟩
  stage := ⟨rfl, rfl, rfl, fun c hc => by cases hc⟩
  delivered := ⟨List.prefix_rfl, fun _ _ => rfl⟩
  noted := rfl

/-- Only a follower that waits for the container holds a ticket. -/
theorem Kept.free (hk : Kept since tail t w h) (hphase : t.follower.phase ≠ .waiting) :
    t.ticket = none :=
  Decidable.not_not.mp (mt hk.waits hphase)

/-- A follower looks at its watch. -/
theorem Kept.look (hk : Kept since tail t w h) {ticket : Option Nat} {watch : Watch}
    (hheeds : watch.Heeds ticket t.follower.want h.published)
    (hwaits : ticket ≠ none → t.follower.phase = .waiting) :
    Kept since tail { t with ticket := ticket }
      { w with watches := w.watches.set t.service watch } h where
  watched := ⟨watch, Table.get?_set_self .., hheeds⟩
  waits := hwaits
  sound := hk.sound
  stage := hk.stage
  delivered := hk.delivered
  noted := hk.noted

/-- A follower goes on to another phase, with the same watch. -/
theorem Kept.turn (hk : Kept since tail t w h) (hticket : t.ticket = none) {f : Follower}
    {flight : Option Flight}
    (hstage : Stage since tail { t with follower := f, flight := flight } w.now h)
    (hdelivered : Delivered f h.received h.lines) :
    Kept since tail { t with follower := f, flight := flight } w h where
  watched := by
    obtain ⟨watch, hwatch, hheeds⟩ := hk.watched
    rw [hticket] at hheeds
    exact ⟨watch, hwatch, hticket ▸ hheeds.turn f.want⟩
  waits hk := absurd hticket hk
  sound := hk.sound
  stage := hstage
  delivered := hdelivered
  noted := hk.noted

/-- A follower that ends keeps what it has. -/
theorem Kept.ends (hk : Kept since tail t w h) (hticket : t.ticket = none)
    (flight : Option Flight) :
    Kept since tail { t with follower := t.follower.finish, flight := flight } w h :=
  hk.turn hticket trivial ⟨hk.delivered.part, fun _ hphase => absurd rfl hphase⟩

/-! ### Steps -/

/-- A step that makes no call and is not told of one adds nothing. -/
theorem History.step_eq (hphase : ∀ record range, t.follower.phase ≠ .opening record range)
    (hengine : (w.stepFollower t).2.2.engine = w.engine) : h.step t w = h := by
  unfold step
  rw [hengine, List.drop_length, List.append_nil]
  split
  · next record range hopening => exact absurd hopening (hphase record range)
  · rfl

theorem kept_waiting (hk : Kept since tail t w h) (hphase : t.follower.phase = .waiting) :
    Kept since tail (w.stepFollower t).1 (w.stepFollower t).2.2 (h.step t w) := by
  obtain ⟨watch, hwatch, hheeds⟩ := hk.watched
  have hopening (record : Record) (range : LogRange) :
      t.follower.phase ≠ .opening record range := by rw [hphase]; exact Follower.Phase.noConfusion
  have hstep : w.stepFollower t =
      if t.follower.told then ((w.giveUpWait t).1, true, (w.giveUpWait t).2) else w.waitFor t := by
    rw [World.stepFollower, hphase]
  obtain ⟨hflight, hdue⟩ := hk.stage.waiting hphase
  -- Told to stop, it gives its wait up; else it looks at its watch.
  by_cases htold : t.follower.told = true
  · obtain ⟨watch', he, hfree⟩ := World.giveUpWait_eq hwatch hheeds
    rw [if_pos htold, he] at hstep
    rw [h.step_eq hopening (by rw [hstep]), hstep]
    exact (hk.look hfree (absurd rfl)).ends rfl t.flight
  · obtain ⟨t', more, watch', he, hheeds, hfound⟩ := World.waitFor_cases hwatch hheeds
    rw [if_neg htold, he] at hstep
    rw [h.step_eq hopening (by rw [hstep]), hstep]
    rcases hfound with ⟨record, hholds, hmem, rfl⟩ | ⟨ticket, rfl⟩
    · have hlook := hk.look hheeds (absurd rfl)
      refine hlook.turn rfl (f := t.follower.found record) ?_ ?_
      · exact ⟨rfl, fun _ => hdue.found hholds hmem, fun hne => absurd hflight hne⟩
      · exact hk.delivered.turn (by simp [hphase]) rfl rfl (by simp [owed, hphase, Follower.found])
    · exact hk.look hheeds fun _ => hphase

/-- The engine is asked for a log. -/
theorem Kept.ask (hk : Kept since tail t w h) {record : Record} {range : LogRange}
    (hphase : t.follower.phase = .opening record range) (hflight : t.flight = none) (f : Flight) :
    let note : Note := .logs (w.containerOf t.service) range
    Kept since tail { t with flight := some f } { w with engine := w.engine.note note }
      ({ h with notes := h.notes ++ [note] }.ask w.now record range) where
  watched := hk.watched
  waits := hk.waits
  sound := by
    rw [History.calls_ask]
    exact hk.sound.call ((hk.stage.opening hphase).2.1 hflight)
  stage := by
    unfold Stage
    rw [hphase]
    refine ⟨(hk.stage.opening hphase).1, fun hnone => absurd hnone (Option.some_ne_none f),
      fun _ => ⟨?_, ?_⟩⟩
    · rw [History.calls_ask]
      exact ⟨_, List.getLast?_concat .., rfl, Nat.le_refl _⟩
    · intro r hr
      obtain rfl := Option.some.inj ((List.getLast?_concat ..).symm.trans hr)
      rfl
  delivered := by
    have hd := hk.delivered
    refine ⟨?_, ?_⟩
    · rw [History.lines_ask]
      exact hd.part
    · rw [History.lines_ask]
      exact hd.whole
  noted := by
    rw [History.calls_ask, List.map_append]
    exact congrArg (· ++ _) hk.noted

/-- A call that is under way is looked at. -/
theorem Kept.flight (hk : Kept since tail t w h) {record : Record} {range : LogRange}
    (hphase : t.follower.phase = .opening record range) (hflight : t.flight ≠ none) (f : Flight) :
    Kept since tail { t with flight := some f } w h where
  watched := hk.watched
  waits := hk.waits
  sound := hk.sound
  stage := by
    obtain ⟨hfirst, -, hpending⟩ := hk.stage.opening hphase
    unfold Stage
    rw [hphase]
    exact ⟨hfirst, fun hnone => absurd hnone (Option.some_ne_none f), fun _ => hpending hflight⟩
  delivered := hk.delivered
  noted := hk.noted

/-- A log is opened. -/
theorem Kept.opened (hk : Kept since tail t w h) {record : Record} {range : LogRange}
    (hphase : t.follower.phase = .opening record range) (hflight : t.flight ≠ none) (log : Log) :
    Kept since tail { t with follower := t.follower.opened log, flight := none } w
      (h.give log) := by
  obtain ⟨hfirst, -, hpending⟩ := hk.stage.opening hphase
  obtain ⟨⟨c, hc, hrecord, htime⟩, hunanswered⟩ := hpending hflight
  obtain ⟨last, hlast, rfl⟩ : ∃ last, h.rounds.getLast? = some last ∧ last.toCall = c := by
    rwa [History.calls, List.getLast?_map, Option.map_eq_some_iff] at hc
  -- The last round is the one that was asked for. It had no lines so far, and now has all of them.
  obtain ⟨past, hrounds⟩ := List.getLast?_eq_some_iff.mp hlast
  have hgiven := History.rounds_give hrounds log
  have hcalls : (h.give log).calls = h.calls := by
    simp [History.calls, hgiven, hrounds]
  have hlines : (h.give log).lines = h.lines ++ relayed log := by
    simp [History.lines, hgiven, hrounds, Round.lines, hunanswered last hlast]
  have hopened : t.follower.opened log = { t.follower with phase := .reading record log } := by
    rw [Follower.opened, hphase]
  have hdelivered : Delivered { t.follower with phase := .reading record log } h.received
      (h.lines ++ relayed log) := by
    refine hk.delivered.owe (by simp [hphase]) ?_ ?_ ?_
    · rfl
    · rfl
    · simp [owed, hphase]
  have hfree : t.ticket = none := hk.free (by simp [hphase])
  rw [hopened]
  exact {
    watched := hk.watched
    waits := fun hne => absurd hfree hne
    sound := by
      rw [hcalls]
      exact hk.sound
    stage := by
      refine ⟨hfirst, rfl, ?_⟩
      rw [hcalls]
      exact ⟨_, hc, hrecord, htime⟩
    delivered := by
      rw [hlines]
      exact hdelivered
    noted := by
      rw [hcalls]
      exact hk.noted }

/-- A follower looks at its call: it waits on, breaks down, reads the log, or rests. -/
theorem Kept.hears (hk : Kept since tail t w h) {record : Record} {range : LogRange}
    (hphase : t.follower.phase = .opening record range) (hflight : t.flight ≠ none)
    {l : Look (Except Engine.Fault Log) Flight} {t' : FollowTask} (hl : t.Hears w.now l t') :
    Kept since tail t' w (h.look l) := by
  have hfree : t.ticket = none := hk.free (by simp [hphase])
  obtain ⟨hfirst, -, hpending⟩ := hk.stage.opening hphase
  cases hl with
  | waiting f => exact hk.flight hphase hflight f
  | crashed text => exact hk.ends hfree none
  | opened log => exact hk.opened hphase hflight log
  | refused fault =>
    have hrest : t.follower.refused w.now = t.follower.rest record w.now := by
      rw [Follower.refused, hphase]
    rw [hrest]
    refine hk.turn hfree ⟨hfirst, rfl, rfl, w.now, (hpending hflight).1, rfl⟩ ?_
    exact hk.delivered.turn (by simp [hphase]) rfl rfl (by simp [owed, hphase, Follower.rest])

theorem kept_opening (hk : Kept since tail t w h) {record : Record} {range : LogRange}
    (hphase : t.follower.phase = .opening record range) :
    Kept since tail (w.stepFollower t).1 (w.stepFollower t).2.2 (h.step t w) := by
  have hstep : w.stepFollower t = w.awaitLog range t := by rw [World.stepFollower, hphase]
  have hworld := World.openLog_world (w.containerOf t.service) range t.flight w
  rw [History.step, hphase, hstep]
  dsimp only
  generalize hcall : w.openLog (w.containerOf t.service) range t.flight = call at hworld
  obtain ⟨l, w'⟩ := call
  obtain ⟨t', more, he, hhears⟩ := World.hears_of_openLog hcall
  rw [he]
  dsimp only at hworld ⊢
  cases hflight : t.flight with
  | none =>
    rw [hflight] at hworld
    obtain rfl := hworld
    have hnotes : (w.engine.note (.logs (w.containerOf t.service) range)).notes.drop
        w.engine.notes.length = [.logs (w.containerOf t.service) range] := List.drop_left
    -- A call that has just been made is looked at like one under way, whatever its flight is.
    have hask := hk.ask hphase hflight ⟨0, .never⟩
    rw [Option.elim_none, hnotes]
    exact hask.hears hphase (Option.some_ne_none _) (hhears.of_flight _)
  | some f =>
    rw [hflight] at hworld
    obtain rfl := hworld
    rw [List.drop_length, List.append_nil]
    exact hk.hears hphase (hflight ▸ Option.some_ne_none f) hhears

/-- What a follower does by itself. -/
theorem Kept.goes (hk : Kept since tail t w h) (hwaiting : t.follower.phase ≠ .waiting)
    {f : Follower} (hgoes : Goes w.now t.follower f) :
    Kept since tail { t with follower := f } w h := by
  have hfree := hk.free hwaiting
  cases hgoes with
  | ends => exact hk.ends hfree t.flight
  | wakes record wake hphase hwake =>
    obtain ⟨hfirst, hflight, hprevious, began, hasked, hbegan⟩ := hk.stage.resting hphase
    have hdue : Due since tail t.follower.first t.follower.previous w.now h.calls := by
      rw [hfirst, hprevious]
      exact hasked.due (hbegan ▸ hwake)
    exact hk.turn hfree ⟨hflight, hdue⟩
      (hk.delivered.turn (by simp [hphase]) rfl rfl (by simp [owed, hphase]))
  | reads record log line rest hphase hline =>
    exact hk.turn hfree (hk.stage.reading hphase)
      (hk.delivered.turn (by simp [hphase]) rfl rfl (by simp [owed, hphase, hline]))
  | passes record line log hphase hhere =>
    exact hk.turn hfree (hk.stage.passing hphase)
      (hk.delivered.pass (by simp [hphase]) hhere rfl (by simp [owed, hphase]))
  | closes record line hphase hhere =>
    obtain ⟨hfirst, hflight, hasked⟩ := hk.stage.passing hphase
    exact hk.turn hfree ⟨hfirst, hflight, rfl, w.now, hasked, rfl⟩
      (hk.delivered.pass (by simp [hphase]) hhere rfl (by simp [owed, hphase, Follower.rest]))

theorem kept_going (hk : Kept since tail t w h) (hwaiting : t.follower.phase ≠ .waiting)
    (hopening : ∀ record range, t.follower.phase ≠ .opening record range) :
    Kept since tail (w.stepFollower t).1 (w.stepFollower t).2.2 (h.step t w) := by
  have hstep : w.stepFollower t =
      ((t.follower.go w.now).elim t fun f => { t with follower := f },
        (t.follower.go w.now).isSome, w) := by
    unfold World.stepFollower
    split
    · next hphase => exact absurd hphase hwaiting
    · next hphase => exact absurd hphase (hopening _ _)
    · cases t.follower.go w.now <;> rfl
  rw [h.step_eq hopening (by rw [hstep]), hstep]
  cases hgo : t.follower.go w.now with
  | none => exact hk
  | some f => exact hk.goes hwaiting (Follower.goes_of_go hgo)

/-- Every step keeps what stands. -/
theorem kept_step (hk : Kept since tail t w h) :
    Kept since tail (w.stepFollower t).1 (w.stepFollower t).2.2 (h.step t w) := by
  by_cases hwaiting : t.follower.phase = .waiting
  · exact kept_waiting hk hwaiting
  by_cases hopening : ∃ record range, t.follower.phase = .opening record range
  · obtain ⟨record, range, hphase⟩ := hopening
    exact kept_opening hk hphase
  · exact kept_going hk hwaiting fun record range hphase => hopening ⟨record, range, hphase⟩

theorem Stage.mono {now later : Nat} (hs : Stage since tail t now h) (hnow : now ≤ later)
    (more : List (Option Record)) :
    Stage since tail t later { h with published := h.published ++ more } := by
  have hasked {record : Record} (ha : Asked record now h.calls) : Asked record later h.calls := by
    obtain ⟨c, hlast, hrecord, htime⟩ := ha
    exact ⟨c, hlast, hrecord, htime.trans hnow⟩
  unfold Stage
  cases hphase : t.follower.phase with
  | waiting =>
    obtain ⟨hflight, hdue⟩ := hs.waiting hphase
    exact ⟨hflight, hdue.first, hdue.previous, fun c hc => (hdue.rested c hc).trans hnow⟩
  | opening record range =>
    obtain ⟨hfirst, hready, hpending⟩ := hs.opening hphase
    exact ⟨hfirst, fun hnone => (hready hnone).mono hnow more,
      fun hne => ⟨hasked (hpending hne).1, (hpending hne).2⟩⟩
  | reading record log =>
    obtain ⟨hfirst, hflight, hcall⟩ := hs.reading hphase
    exact ⟨hfirst, hflight, hasked hcall⟩
  | passing record line rest =>
    obtain ⟨hfirst, hflight, hcall⟩ := hs.passing hphase
    exact ⟨hfirst, hflight, hasked hcall⟩
  | resting record wake => exact hs.resting hphase
  | ended => trivial

theorem Kept.beside (hk : Kept since tail t w h) {w' : World} {acts : List Act}
    (hnow : w.now ≤ w'.now) (hname : w'.containerOf t.service = w.containerOf t.service)
    (hwatch : w'.watches.get? t.service = (w.watches.get? t.service).map (Watch.run acts))
    (hown : ∀ k, t.ticket = some k → Act.poll k ∉ acts ∧ Act.drop k ∉ acts) :
    Kept since tail t w' { h with published := h.published ++ snapshots acts } where
  watched := by
    obtain ⟨watch, hget, hheeds⟩ := hk.watched
    rw [hget] at hwatch
    exact ⟨_, hwatch, hheeds.run hown⟩
  waits := hk.waits
  sound := hk.sound.publish _
  stage := hk.stage.mono hnow _
  delivered := hk.delivered
  noted := by
    rw [hname]
    exact hk.noted

/-- What the reader does changes nothing but what has become of the lines. -/
theorem Kept.reader (hk : Kept since tail t w h) {f : Follower} {received : List String}
    (hphase : f.phase = t.follower.phase) (hfirst : f.first = t.follower.first)
    (hprevious : f.previous = t.follower.previous) (hdelivered : Delivered f received h.lines) :
    Kept since tail { t with follower := f } w { h with received := received } where
  watched := by
    rw [Follower.want, hprevious]
    exact hk.watched
  waits := by
    rw [hphase]
    exact hk.waits
  sound := hk.sound
  stage := by
    -- The stage depends on the phase and on what is remembered of the calls, and on nothing else.
    have hs := hk.stage
    unfold Stage at hs ⊢
    rw [hphase, hfirst, hprevious]
    exact hs
  delivered := hdelivered
  noted := hk.noted

theorem kept_of_course (hc : Course since tail t w h) : Kept since tail t w h := by
  induction hc with
  | start hwatch => exact kept_start hwatch
  | step _ ih => exact kept_step ih
  | beside _ acts hnow hname hwatch hown ih => exact ih.beside hnow hname hwatch hown
  | hear _ count ih => exact ih.reader rfl rfl rfl (ih.delivered.hear count)
  | cancel _ ih => exact ih.reader rfl rfl rfl ⟨ih.delivered.part, ih.delivered.whole⟩
  | overlook _ ih => exact ih.reader rfl rfl rfl ⟨ih.delivered.part, ih.delivered.whole⟩
  | drop _ ih => exact ih.reader rfl rfl rfl ih.delivered.drop

/-! ### Rounds -/

/-- What a reader receives is the beginning of the rounds, one after the other: each of them the
lines of a log that was opened, up to its end or its fault, and then the mark. Until the reader goes
away or the follower ends, what waits and what is owed makes up the rest. The follower asks only for
logs of running containers that have been published. It asks again when the container has been
started anew, and it rests before that. It asks first for what the reader wants, and later for all
from the start of the container on. The engine is not called in any other way. -/
theorem course_in_rounds (hc : Course since tail t w h) :
    h.received <+: h.rounds.flatMap Round.lines ∧
    (t.follower.deserted = false → t.follower.phase ≠ .ended →
      h.received ++ t.follower.buffer ++ t.follower.owed = h.rounds.flatMap Round.lines) ∧
    (∀ c ∈ h.calls, c.record.phase = .running ∧ some c.record ∈ h.published.take c.seen) ∧
    h.calls.IsChain (fun a b => Differs a.record b.record ∧ a.asked + restartDelay ≤ b.asked) ∧
    (∀ n c, h.calls[n]? = some c → c.range = rangeOf since tail n c.record) ∧
    h.notes = h.calls.map fun c => .logs (w.containerOf t.service) c.range := by
  have hk := kept_of_course hc
  exact ⟨(List.prefix_append _ _).trans hk.delivered.part, hk.delivered.whole,
    fun c hmem => ⟨hk.sound.running c hmem, hk.sound.published c hmem⟩,
    hk.sound.follows.imp fun a b hab => ⟨hab.restarted, hab.rested⟩, hk.sound.ranges, hk.noted⟩

end

/-- A world of one service. -/
private def single : World :=
  World.ofRegistry 0 ⟨[⟨"arby", .plain .arby, ⟨"testnet_arby_1", false, "native"⟩⟩], by decide⟩ []
    false none

/-- A container that was started at a second. -/
private def startedAt (second : Int) : Record :=
  ⟨"77aa", "testnet_arby_1", "running", some ⟨second, 0⟩, []⟩

/-- A running container is published at the time `now`. It has a log, which may be cut short. -/
private def publish (now : Nat) (record : Record) (lines : List String)
    (cut : Option StagedEngine.LogCut) (w : World) : World :=
  { w with
    now := now
    engine := ((w.engine.add record).setLines record.name lines).cut record.name cut
    watches := fun i => (w.watches.get? i).map (Watch.run [.update (some record)]) }

private theorem course_publish {since tail : Option String} {t : FollowTask} {w : World}
    {h : History} (hc : Course since tail t w h) (now : Nat) (record : Record)
    (lines : List String) (cut : Option StagedEngine.LogCut) (hnow : w.now ≤ now) :
    Course since tail t (publish now record lines cut w)
      { h with published := h.published ++ [some record] } :=
  hc.beside [.update (some record)] hnow rfl rfl fun _ _ => ⟨by simp, by simp⟩

/-- The log of a container that is started twice; the second time it breaks off. -/
theorem course_in_rounds_restarted :
    ∃ t w h, Course none (some "5") t w h ∧
      h.received = ["ready", endMark, "ready again", endMark] ∧
      h.calls.map (·.range) = [⟨none, some "5", true⟩, ⟨some "1700000010", none, true⟩] ∧
      h.received <+: h.rounds.flatMap Round.lines ∧
      h.notes = h.calls.map fun c => .logs "testnet_arby_1" c.range := by
  have hstart : single.watches.get? 0 = some ((Watch.ofName "testnet_arby_1").run []) := rfl
  -- It waits for the container, which starts, and asks for its log.
  have h₁ : Course none (some "5") _ _ _ := (Course.start hstart).step
  have h₂ := course_publish h₁ 50 (startedAt 1700000000) ["ready"] none (Nat.zero_le _)
  have h₃ := h₂.step.step
  -- It passes on a line and the mark, and the reader takes the line.
  have h₄ := h₃.step.step.step.step.hear 1
  -- When it has rested the container has been started again, and the reader takes all there is.
  have h₅ := course_publish h₄ 3050 (startedAt 1700000010) ["ready again", "lost"]
    (some ⟨1, .broken (.containerNotFound "testnet_arby_1")⟩) (by decide)
  have h₆ := h₅.step.step.step
  have h₇ := h₆.step.step.step.step.takeLines
  obtain ⟨hreceived, -, -, -, -, hnotes⟩ := course_in_rounds h₇
  exact ⟨_, _, _, h₇, by decide, by decide, hreceived, hnotes⟩

end NodeStack.Scenario.FollowTask
