import NodeStack.Proofs.Engine.Watch
import NodeStack.Scenario.World.Background

/-!
# `NodeStack.Proofs.Service.Waits`: what the waits of a follower come to

A follower waits for its container to run, and for the engine to give it a log.

* `Watch.Heeds`: what a follower knows of a watch that others use too. `Heeds.run`: it stays so
  whatever they do. `Heeds.await`, `Heeds.poll`, `Heeds.drop`: what becomes of its own wait.
* `World.waitFor_cases`: a wait ends with a record of the kind wanted that has been published.
* `World.hears_of_openLog`: a call for a log ends with what the engine says. `World.openLog_world`:
  the engine notes it when it is made, and only then.
-/

set_option autoImplicit false

namespace NodeStack

open Engine (Log LogRange Record Want Watch)

namespace Engine.Want

/-- A record that ends a wait is of the kind wanted, and one of the snapshots. -/
theorem of_firstMet {want : Want} {seen : List (Option Record)} {r : Record}
    (h : want.firstMet seen = some r) : want.Holds r ∧ some r ∈ seen := by
  obtain ⟨s, hs, hr⟩ := List.exists_of_findSome?_eq_some h
  obtain ⟨rfl, hholds⟩ := Option.filter_eq_some_iff.mp hr
  exact ⟨of_decide_eq_true hholds, hs⟩

end Engine.Want

namespace Engine.Watch

/-- The latest record after some acts is the one before them, or one that they bring. -/
theorem current_run (acts : List Act) (w : Watch) {r : Record} (h : (w.run acts).current = some r) :
    w.current = some r ∨ some r ∈ snapshots acts := by
  induction acts generalizing w with
  | nil => exact .inl h
  | cons act rest ih =>
    rw [snapshots_cons, List.mem_append]
    rcases ih (w.step act) h with hstep | hrest
    · cases act with
      | update record =>
        obtain rfl : record = some r := by
          cases record with
          | none => cases hstep
          | some r' => exact hstep
        exact .inr (.inl List.mem_cons_self)
      | await want =>
        refine .inl ?_
        change (w.await want).2.current = some r at hstep
        rcases await_cases want w with ⟨r', -, -, he⟩ | ⟨-, he⟩ <;> rw [he] at hstep <;>
          exact hstep
      | poll ticket =>
        refine .inl ?_
        change (w.poll ticket).2.current = some r at hstep
        rcases poll_cases ticket w with ⟨r', -, he⟩ | ⟨-, he⟩ <;> rw [he] at hstep <;> exact hstep
      | drop ticket => exact .inl hstep
    · exact .inr (.inr hrest)

/-- A wait that nobody looks at goes on. -/
theorem stillWaiting_of_not_mem {ticket : Nat} {acts : List Act} (w : Watch)
    (h : Act.poll ticket ∉ acts) : StillWaiting ticket acts w := by
  induction acts generalizing w with
  | nil => trivial
  | cons act rest ih =>
    rw [List.mem_cons, not_or] at h
    exact ⟨fun he => absurd he.symm h.1, ih _ h.2⟩

/-- What a follower knows of a watch that has had some snapshots: the latest record is one of them,
and so is the record that ends its wait, if it holds a ticket. -/
structure Heeds (ticket : Option Nat) (want : Want) (published : List (Option Record)) (w : Watch) :
    Prop where
  fresh : w.Fresh
  current : ∀ r, w.current = some r → some r ∈ published
  stands : ∀ k, ticket = some k →
    ∃ seen, Stands k want seen w ∧ ∀ r, some r ∈ seen → some r ∈ published

section
variable {ticket : Option Nat} {want : Want} {published : List (Option Record)} {w : Watch}

/-- What others do with a watch leaves the wait where it stands. -/
theorem Heeds.run (h : Heeds ticket want published w) {acts : List Act}
    (hown : ∀ k, ticket = some k → Act.poll k ∉ acts ∧ Act.drop k ∉ acts) :
    Heeds ticket want (published ++ snapshots acts) (w.run acts) where
  fresh := fresh_run h.fresh acts
  current r hr := by
    rw [List.mem_append]
    exact (current_run acts w hr).imp_left (h.current r)
  stands k hk := by
    obtain ⟨seen, hstands, hseen⟩ := h.stands k hk
    obtain ⟨hpoll, hdrop⟩ := hown k hk
    -- Nobody else looks at the wait, so it cannot end behind the follower's back.
    refine ⟨_, stands_run acts hstands hdrop (stillWaiting_of_not_mem w hpoll), fun r hr => ?_⟩
    rw [List.mem_append] at hr ⊢
    exact hr.imp_left (hseen r)

/-- What a wait comes to at its first look. -/
theorem Heeds.await (h : Heeds none want published w) :
    (∃ r, w.await want = (.inl r, w) ∧ want.Holds r ∧ some r ∈ published) ∨
      ∃ k w', w.await want = (.inr k, w') ∧ Heeds (some k) want published w' := by
  rcases await_cases want w with ⟨r, hcurrent, hmet, he⟩ | ⟨hmet, he⟩
  · exact .inl ⟨r, he, (want.metBy_iff r).mp hmet, h.current r hcurrent⟩
  · refine .inr ⟨_, _, he, fresh_register h.fresh want, h.current, fun k hk => ?_⟩
    obtain rfl := Option.some.inj hk
    refine ⟨_, stands_register h.fresh hmet, fun r hr => ?_⟩
    exact h.current r (List.mem_singleton.mp hr).symm

/-- What a wait that holds a ticket comes to when it looks again. -/
theorem Heeds.poll {k : Nat} (h : Heeds (some k) want published w) :
    (∃ r w', w.poll k = (some r, w') ∧ want.Holds r ∧ some r ∈ published ∧
        Heeds none want published w') ∨
      w.poll k = (none, w) := by
  obtain ⟨seen, hstands, hseen⟩ := h.stands k rfl
  have hlook := hstands.poll
  rcases poll_cases k w with ⟨r, -, he⟩ | ⟨-, he⟩
  · rw [he] at hlook
    -- The record was handed out by an update, which may not be the last one.
    obtain ⟨hholds, hmem⟩ := Want.of_firstMet hlook.symm
    refine .inl ⟨r, _, he, hholds, hseen r hmem, h.fresh, h.current, fun k hk => ?_⟩
    cases hk
  · exact .inr he

/-- A wait that is given up, or is none. -/
theorem Heeds.drop (h : Heeds ticket want published w) (k : Nat) :
    Heeds none want published (w.drop k) where
  fresh := h.fresh
  current := h.current
  stands k hk := by cases hk

/-- A follower that holds no ticket may want something else. -/
theorem Heeds.turn (h : Heeds none want published w) (other : Want) :
    Heeds none other published w where
  fresh := h.fresh
  current := h.current
  stands k hk := by cases hk

end

end Engine.Watch

namespace Scenario

open StagedEngine (Flight)

/-- What a follower makes at a time of what a look at its call shows. -/
inductive FollowTask.Hears (t : FollowTask) (now : Nat) :
    Plan.Look (Except Engine.Fault Log) Flight → FollowTask → Prop where
  | waiting (f : Flight) : Hears t now (.waiting f) { t with flight := some f }
  | crashed (text : Option String) :
    Hears t now (.crashed text) { t with follower := t.follower.finish, flight := none }
  | opened (log : Log) :
    Hears t now (.answered (.ok log)) { t with follower := t.follower.opened log, flight := none }
  | refused (fault : Engine.Fault) :
    Hears t now (.answered (.error fault))
      { t with follower := t.follower.refused now, flight := none }

/-- It does not matter what was under way before. -/
theorem FollowTask.Hears.of_flight {t t' : FollowTask} {now : Nat}
    {l : Plan.Look (Except Engine.Fault Log) Flight} (h : t.Hears now l t')
    (flight : Option Flight) : FollowTask.Hears { t with flight := flight } now l t' := by
  cases h with
  | waiting f => exact .waiting f
  | crashed text => exact .crashed text
  | opened log => exact .opened log
  | refused fault => exact .refused fault

namespace World

theorem onWatch_of_get? {α : Type} {w : World} {service : Nat} {watch : Watch}
    (h : w.watches.get? service = some watch) (default : α) (f : Watch → α × Watch) :
    w.onWatch service default f =
      ((f watch).1, { w with watches := w.watches.set service (f watch).2 }) := by
  rw [onWatch, h]

/-- The engine notes a call for a log when it is made, and not when it is looked at again. -/
theorem openLog_world (name : String) (range : LogRange) (flight : Option Flight) (w : World) :
    (w.openLog name range flight).2 =
      flight.elim { w with engine := w.engine.note (.logs name range) } fun _ => w := by
  cases flight <;> dsimp only [openLog, callEngine, flightOf] <;> split <;> rfl

/-- A call for a log comes to what the engine says. -/
theorem hears_of_openLog {range : LogRange} {t : FollowTask} {w w' : World}
    {l : Plan.Look (Except Engine.Fault Log) Flight}
    (h : w.openLog (w.containerOf t.service) range t.flight = (l, w')) :
    ∃ t' more, w.awaitLog range t = (t', more, w') ∧ t.Hears w'.now l t' := by
  rw [awaitLog, h]
  cases l with
  | waiting f => exact ⟨_, _, rfl, .waiting f⟩
  | crashed text => exact ⟨_, _, rfl, .crashed text⟩
  | answered answer =>
    cases answer with
    | ok log => exact ⟨_, _, rfl, .opened log⟩
    | error fault => exact ⟨_, _, rfl, .refused fault⟩

section
variable {t : FollowTask} {w : World} {watch : Watch} {published : List (Option Record)}

/-- A follower that waits for the container finds it running, or goes on waiting. -/
theorem waitFor_cases (hwatch : w.watches.get? t.service = some watch)
    (h : watch.Heeds t.ticket t.follower.want published) :
    ∃ t' more watch',
      w.waitFor t = (t', more, { w with watches := w.watches.set t.service watch' }) ∧
      watch'.Heeds t'.ticket t.follower.want published ∧
      ((∃ r, t.follower.want.Holds r ∧ some r ∈ published ∧
          t' = { t with follower := t.follower.found r, ticket := none }) ∨
        ∃ ticket, t' = { t with ticket := ticket }) := by
  unfold waitFor
  obtain ⟨follower, service, ticket, flight⟩ := t
  cases ticket with
  | none =>
    dsimp only
    rw [onWatch_of_get? hwatch]
    rcases h.await with ⟨r, he, hholds, hmem⟩ | ⟨k, watch', he, hwaits⟩ <;> rw [he]
    · exact ⟨_, _, _, rfl, h, .inl ⟨r, hholds, hmem, rfl⟩⟩
    · exact ⟨_, _, _, rfl, hwaits, .inr ⟨some k, rfl⟩⟩
  | some k =>
    dsimp only
    rw [onWatch_of_get? hwatch]
    rcases h.poll with ⟨r, watch', he, hholds, hmem, hfree⟩ | he <;> rw [he]
    · exact ⟨_, _, _, rfl, hfree, .inl ⟨r, hholds, hmem, rfl⟩⟩
    · exact ⟨_, _, _, rfl, h, .inr ⟨some k, rfl⟩⟩

/-- A follower that is told to stop gives its wait up. -/
theorem giveUpWait_eq (hwatch : w.watches.get? t.service = some watch)
    (h : watch.Heeds t.ticket t.follower.want published) :
    ∃ watch', w.giveUpWait t = ({ t with follower := t.follower.finish, ticket := none },
        { w with watches := w.watches.set t.service watch' }) ∧
      watch'.Heeds none t.follower.want published := by
  unfold giveUpWait
  obtain ⟨follower, service, ticket, flight⟩ := t
  cases ticket with
  | none => exact ⟨watch, by rw [Table.set_of_get? hwatch], h⟩
  | some k =>
    dsimp only
    rw [onWatch_of_get? hwatch]
    exact ⟨_, rfl, h.drop k⟩

end

end World

end Scenario

end NodeStack
