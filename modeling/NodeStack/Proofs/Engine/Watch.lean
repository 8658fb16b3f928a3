import NodeStack.Engine.Watch

/-!
# `NodeStack.Proofs.Engine.Watch`: no wait misses its record

What happens to a watch is a list of `Watch.Act`s: new records, first looks of waits, later looks,
and waits given up. `Watch.run` folds the acts over a watch. The waits are told apart by their
tickets, so one run holds any number of them, in any order.

A wait is judged by the snapshots that it has had before it: the one at its first look, and
those of the updates since. `Want.firstMet` finds the first of them that is a record of the kind
wanted, with `Want.Holds` for the kind.

* `Stands`: where a wait stands that has had some snapshots before it. It waits if none of them is
  wanted, and has been handed the first wanted one otherwise.
* `stands_register`, `stands_step`, `stands_run`: the first look brings a wait there, and no act but
  its own end takes it away.
* `poll_eq_firstMet`: so every look shows the first wanted snapshot, if there is one.

An update between two looks cannot hide a record, because the update itself hands the record to the
wait, under the ticket, and strikes the waiter off. Later updates find no waiter with that ticket.
-/

set_option autoImplicit false

namespace NodeStack.Engine

namespace Want

/-- Whether a record is of the kind that a wait is for. -/
def Holds : Want → Record → Prop
  | .record, _ => True
  | .running, r => r.phase = .running
  | .restarted id startedAt, r => r.phase = .running ∧ (r.id ≠ id ∨ r.startedAt ≠ startedAt)

theorem metBy_iff (want : Want) (r : Record) : want.metBy r = true ↔ want.Holds r := by
  cases want with
  | record => simp [metBy, Holds]
  | running => simp [metBy, Holds, Record.isRunning]
  | restarted id startedAt => simp [metBy, Holds, Record.isRunning]

instance (want : Want) (r : Record) : Decidable (want.Holds r) :=
  decidable_of_iff _ (want.metBy_iff r)

/-- The first of some snapshots that is a record of the kind wanted. -/
def firstMet (want : Want) (snapshots : List (Option Record)) : Option Record :=
  snapshots.findSome? fun s => s.filter fun r => decide (want.Holds r)

@[simp] theorem firstMet_nil (want : Want) : want.firstMet [] = none := rfl

theorem firstMet_append (want : Want) (early late : List (Option Record)) :
    want.firstMet (early ++ late) = (want.firstMet early).or (want.firstMet late) :=
  List.findSome?_append

theorem firstMet_none (want : Want) : want.firstMet [none] = none := rfl

theorem firstMet_some (want : Want) (r : Record) :
    want.firstMet [some r] = if want.metBy r then some r else none := by
  by_cases h : want.Holds r
  · simp [firstMet, Option.filter, h, (want.metBy_iff r).mpr h]
  · have hm : want.metBy r = false := by
      rw [← Bool.not_eq_true, want.metBy_iff]
      exact h
    simp [firstMet, Option.filter, h, hm]

end Want

namespace Watch

/-! ### Runs -/

/-- What can be done with a watch. -/
inductive Act where
  /-- A new record is taken in, or none. -/
  | update (record : Option Record)
  /-- A wait looks for the first time. -/
  | await (want : Want)
  /-- A wait that holds a ticket looks again. -/
  | poll (ticket : Nat)
  /-- A wait that holds a ticket is given up. -/
  | drop (ticket : Nat)

/-- The watch after an act. -/
def step (w : Watch) : Act → Watch
  | .update record => w.update record
  | .await want => (w.await want).2
  | .poll ticket => (w.poll ticket).2
  | .drop ticket => w.drop ticket

/-- The watch after some acts. -/
def run (acts : List Act) (w : Watch) : Watch := acts.foldl step w

/-- The snapshots that some acts bring. -/
def snapshots (acts : List Act) : List (Option Record) :=
  acts.filterMap fun
    | .update record => some record
    | _ => none

/-- No look of a wait has shown it a record yet. -/
def StillWaiting (ticket : Nat) : List Act → Watch → Prop
  | [], _ => True
  | act :: rest, w =>
    (act = .poll ticket → (w.poll ticket).1 = none) ∧ StillWaiting ticket rest (w.step act)

theorem snapshots_cons (act : Act) (rest : List Act) :
    snapshots (act :: rest) = snapshots [act] ++ snapshots rest := by
  show snapshots ([act] ++ rest) = _
  exact List.filterMap_append

/-! ### Tickets -/

/-- No waiter holds a ticket that is yet to be given out. -/
def Fresh (w : Watch) : Prop := ∀ x ∈ w.waiters, x.ticket < w.next

/-- An update only ever strikes waiters off. -/
theorem waiters_update_subset (record : Option Record) (w : Watch) :
    (w.update record).waiters ⊆ w.waiters := by
  cases record with
  | none => exact List.filter_sublist.subset
  | some r => exact (List.filter_sublist.trans List.filter_sublist).subset

theorem next_update (record : Option Record) (w : Watch) : (w.update record).next = w.next := by
  cases record <;> rfl

/-- The two outcomes of a first look. -/
theorem await_cases (want : Want) (w : Watch) :
    (∃ r, w.current = some r ∧ want.metBy r = true ∧ w.await want = (.inl r, w)) ∨
    (want.firstMet [w.current] = none ∧
      w.await want = (.inr (w.register want).1, (w.register want).2)) := by
  unfold await
  cases hc : w.current with
  | none => exact Or.inr ⟨rfl, rfl⟩
  | some r =>
    by_cases hm : want.metBy r = true
    · exact Or.inl ⟨r, rfl, hm, by simp [hm]⟩
    · refine Or.inr ⟨?_, by simp [hm]⟩
      rw [want.firstMet_some, if_neg hm]

theorem poll_cases (ticket : Nat) (w : Watch) :
    (∃ r, w.waits.get? ticket = some (.handed r) ∧
      w.poll ticket = (some r, { w with waits := w.waits.erase ticket })) ∨
    ((∀ r, w.waits.get? ticket ≠ some (.handed r)) ∧ w.poll ticket = (none, w)) := by
  unfold poll
  split
  · next r h => exact Or.inl ⟨r, h, rfl⟩
  · next h => exact Or.inr ⟨h, rfl⟩

theorem fresh_register {w : Watch} (h : w.Fresh) (want : Want) : (w.register want).2.Fresh := by
  intro x hx
  show x.ticket < w.next + 1
  rcases List.mem_append.mp hx with hx | hx
  · have := h x hx
    omega
  · rw [List.mem_singleton.mp hx]
    exact Nat.lt_succ_self _

theorem fresh_step {w : Watch} (h : w.Fresh) (act : Act) : (w.step act).Fresh := by
  cases act with
  | update record =>
    intro x hx
    show x.ticket < (w.update record).next
    rw [next_update]
    exact h x (waiters_update_subset record w hx)
  | await want =>
    show (w.await want).2.Fresh
    rcases await_cases want w with ⟨r, -, -, he⟩ | ⟨-, he⟩ <;> rw [he]
    · exact h
    · exact fresh_register h want
  | poll ticket =>
    show (w.poll ticket).2.Fresh
    rcases poll_cases ticket w with ⟨r, -, he⟩ | ⟨-, he⟩ <;> rw [he] <;> exact h
  | drop ticket => exact h

theorem fresh_run {w : Watch} (h : w.Fresh) (acts : List Act) : (w.run acts).Fresh := by
  induction acts generalizing w with
  | nil => exact h
  | cons act rest ih => exact ih (fresh_step h act)

theorem fresh_ofName (name : String) : (ofName name).Fresh := by
  intro x hx
  cases hx

/-! ### Where a wait stands -/

/-- What an update hands out: the record, to every waiter it satisfies, and nothing to anyone
else. -/
theorem get?_hand (record : Record) (waits : Table Wait) (waiters : List Waiter) (ticket : Nat) :
    (hand record waits waiters).get? ticket =
      if ∃ x ∈ waiters, x.ticket = ticket ∧ x.want.metBy record = true then some (.handed record)
      else waits.get? ticket := by
  unfold hand
  induction waiters generalizing waits with
  | nil => simp
  | cons x rest ih =>
    rw [List.foldl_cons, ih]
    by_cases hr : ∃ y ∈ rest, y.ticket = ticket ∧ y.want.metBy record = true
    · obtain ⟨y, hy, hty⟩ := hr
      rw [if_pos ⟨y, hy, hty⟩, if_pos ⟨y, List.mem_cons_of_mem _ hy, hty⟩]
    · rw [if_neg hr]
      by_cases hx : x.ticket = ticket ∧ x.want.metBy record = true
      · have hn : ∃ y ∈ x :: rest, y.ticket = ticket ∧ y.want.metBy record = true :=
          ⟨x, List.mem_cons_self, hx⟩
        rw [if_pos hx.2, if_pos hn, ← hx.1]
        exact Table.get?_set_self ..
      · have hn : ¬∃ y ∈ x :: rest, y.ticket = ticket ∧ y.want.metBy record = true := by
          rintro ⟨y, hy, hty⟩
          rcases List.mem_cons.mp hy with rfl | hy
          · exact hx hty
          · exact hr ⟨y, hy, hty⟩
        rw [if_neg hn]
        by_cases hm : x.want.metBy record = true
        · rw [if_pos hm]
          exact Table.get?_set_other _ _ fun ht => hx ⟨ht.symm, hm⟩
        · rw [if_neg hm]

/-- Where a wait stands that has had some snapshots before it and holds a ticket. -/
structure Stands (ticket : Nat) (want : Want) (seen : List (Option Record)) (w : Watch) :
    Prop where
  /-- Its ticket will not be given out again. -/
  issued : ticket < w.next
  /-- Whoever is registered under its ticket waits for the same. -/
  alike : ∀ x ∈ w.waiters, x.ticket = ticket → x.want = want
  /-- It waits, and is registered, as long as no snapshot was of the kind wanted. -/
  waiting : want.firstMet seen = none →
    w.waits.get? ticket = some .waiting ∧ ⟨ticket, want⟩ ∈ w.waiters
  /-- It has been handed the first that was, and is no longer registered. -/
  handed : ∀ r, want.firstMet seen = some r →
    w.waits.get? ticket = some (.handed r) ∧ ∀ x ∈ w.waiters, x.ticket ≠ ticket

/-- A wait that cannot end at its first look stands there with one snapshot before it. -/
theorem stands_register {w : Watch} (hf : w.Fresh) {want : Want}
    (h : want.firstMet [w.current] = none) :
    Stands w.next want [w.current] (w.register want).2 where
  issued := Nat.lt_succ_self _
  alike := by
    intro x hx ht
    rcases List.mem_append.mp hx with hx | hx
    · have := hf x hx
      omega
    · rw [List.mem_singleton.mp hx]
  waiting _ := ⟨Table.get?_set_self .., List.mem_append_right _ List.mem_cons_self⟩
  handed r hr := by
    rw [h] at hr
    cases hr

section
variable {ticket : Nat} {want : Want} {seen : List (Option Record)} {w : Watch}

/-- What a look shows is the first wanted snapshot, if there is one. -/
theorem Stands.poll (h : Stands ticket want seen w) :
    (w.poll ticket).1 = want.firstMet seen := by
  cases hm : want.firstMet seen with
  | none =>
    have hw := (h.waiting hm).1
    rcases poll_cases ticket w with ⟨r, hr, -⟩ | ⟨-, he⟩
    · rw [hw] at hr
      cases hr
    · rw [he]
  | some r =>
    have hw := (h.handed r hm).1
    rcases poll_cases ticket w with ⟨r', hr', he⟩ | ⟨hn, -⟩
    · rw [he]
      rw [hw] at hr'
      cases hr'
      rfl
    · exact absurd hw (hn r)

/-- A change that leaves alone what is registered and kept under the ticket leaves the wait where it
stands. -/
theorem Stands.of_same {w' : Watch} (h : Stands ticket want seen w) (hn : w.next ≤ w'.next)
    (hs : ∀ x, x.ticket = ticket → (x ∈ w'.waiters ↔ x ∈ w.waiters))
    (hw : w'.waits.get? ticket = w.waits.get? ticket) : Stands ticket want seen w' where
  issued := Nat.lt_of_lt_of_le h.issued hn
  alike x hx ht := h.alike x ((hs x ht).mp hx) ht
  waiting hm := ⟨hw.trans (h.waiting hm).1, (hs _ rfl).mpr (h.waiting hm).2⟩
  handed r hm :=
    ⟨hw.trans (h.handed r hm).1, fun x hx ht => (h.handed r hm).2 x ((hs x ht).mp hx) ht⟩

/-- The wait's own waiter survives the clearing out of those that gave up. -/
theorem Stands.mem_live (h : Stands ticket want seen w) (hm : want.firstMet seen = none) :
    ⟨ticket, want⟩ ∈ w.waiters.filter fun x => w.alive x.ticket := by
  obtain ⟨hw, hmem⟩ := h.waiting hm
  exact List.mem_filter.mpr ⟨hmem, by simp [alive, hw]⟩

theorem Stands.update_none (h : Stands ticket want seen w) :
    Stands ticket want (seen ++ [none]) (w.update none) := by
  have hseen : want.firstMet (seen ++ [none]) = want.firstMet seen := by
    rw [want.firstMet_append, want.firstMet_none, Option.or_none]
  have hsub := waiters_update_subset none w
  refine ⟨h.issued, fun x hx => h.alike x (hsub hx), fun hm => ?_, fun r hm => ?_⟩
  · rw [hseen] at hm
    exact ⟨(h.waiting hm).1, h.mem_live hm⟩
  · rw [hseen] at hm
    exact ⟨(h.handed r hm).1, fun x hx => (h.handed r hm).2 x (hsub hx)⟩

/-- An update with a record: a wait that still waits is handed the record if it is of the kind
wanted, and a wait that was handed one before keeps that. -/
theorem Stands.update_some (h : Stands ticket want seen w) (r : Record) :
    Stands ticket want (seen ++ [some r]) (w.update (some r)) := by
  have hsub := waiters_update_subset (some r) w
  have hseen : want.firstMet (seen ++ [some r]) =
      (want.firstMet seen).or (if want.metBy r then some r else none) := by
    rw [want.firstMet_append, want.firstMet_some]
  have hget : (w.update (some r)).waits.get? ticket = _ :=
    get?_hand r w.waits (w.waiters.filter fun x => w.alive x.ticket) ticket
  cases hm : want.firstMet seen with
  | some old =>
    obtain ⟨hw, hnone⟩ := h.handed old hm
    -- Nobody is registered under the ticket any more, so the update hands it nothing.
    rw [if_neg (by
      rintro ⟨x, hx, ht, -⟩
      exact hnone x ((List.mem_filter.mp hx).1) ht), hw] at hget
    rw [hm, Option.some_or] at hseen
    refine ⟨h.issued, fun x hx => h.alike x (hsub hx), fun hn => ?_, fun r' hr' => ?_⟩
    · rw [hseen] at hn
      cases hn
    · rw [hseen] at hr'
      cases hr'
      exact ⟨hget, fun x hx => hnone x (hsub hx)⟩
  | none =>
    have hlive := h.mem_live hm
    rw [hm, Option.none_or] at hseen
    by_cases hmet : want.metBy r = true
    · rw [if_pos ⟨_, hlive, rfl, hmet⟩] at hget
      rw [if_pos hmet] at hseen
      refine ⟨h.issued, fun x hx => h.alike x (hsub hx), fun hn => ?_, fun r' hr' => ?_⟩
      · rw [hseen] at hn
        cases hn
      · rw [hseen] at hr'
        cases hr'
        refine ⟨hget, fun x hx ht => ?_⟩
        -- A waiter under the ticket wants the same, so it was struck off.
        have hx' := (List.mem_filter.mp hx).2
        rw [h.alike x (hsub hx) ht, hmet] at hx'
        cases hx'
    · rw [if_neg (by
        rintro ⟨x, hx, ht, hmx⟩
        rw [h.alike x ((List.mem_filter.mp hx).1) ht] at hmx
        exact hmet hmx), (h.waiting hm).1] at hget
      rw [if_neg hmet] at hseen
      refine ⟨h.issued, fun x hx => h.alike x (hsub hx), fun _ => ⟨hget, ?_⟩, fun r' hr' => ?_⟩
      · exact List.mem_filter.mpr ⟨hlive, by simpa using hmet⟩
      · rw [hseen] at hr'
        cases hr'

/-- The first look of another wait. -/
theorem Stands.await (h : Stands ticket want seen w) (other : Want) :
    Stands ticket want seen (w.await other).2 := by
  rcases await_cases other w with ⟨r, -, -, he⟩ | ⟨-, he⟩ <;> rw [he]
  · exact h
  · have hne : ticket ≠ w.next := Nat.ne_of_lt h.issued
    refine h.of_same (Nat.le_succ _) (fun x ht => ?_) (Table.get?_set_other _ _ hne)
    show x ∈ w.waiters ++ [⟨w.next, other⟩] ↔ x ∈ w.waiters
    rw [List.mem_append, List.mem_singleton]
    refine or_iff_left fun hx => hne ?_
    rw [← ht, hx]

/-- Taking away what is kept under another ticket. -/
theorem Stands.erase (h : Stands ticket want seen w) {other : Nat} (hne : ticket ≠ other) :
    Stands ticket want seen { w with waits := w.waits.erase other } :=
  h.of_same (Nat.le_refl _) (fun _ _ => Iff.rfl) (Table.get?_erase_other _ hne)

/-- No act takes a wait from where it stands, but a look that ends it and giving it up. -/
theorem stands_step (h : Stands ticket want seen w) (act : Act) (hdrop : act ≠ .drop ticket)
    (hpoll : act = .poll ticket → (w.poll ticket).1 = none) :
    Stands ticket want (seen ++ snapshots [act]) (w.step act) := by
  cases act with
  | update record =>
    cases record with
    | none => exact h.update_none
    | some r => exact h.update_some r
  | await other =>
    rw [show snapshots [Act.await other] = [] from rfl, List.append_nil]
    exact h.await other
  | poll other =>
    rw [show snapshots [Act.poll other] = [] from rfl, List.append_nil]
    show Stands ticket want seen (w.poll other).2
    rcases poll_cases other w with ⟨r, -, he⟩ | ⟨-, he⟩
    · have hne : ticket ≠ other := by
        rintro rfl
        have hnone := hpoll rfl
        rw [he] at hnone
        cases hnone
      rw [he]
      exact h.erase hne
    · rw [he]
      exact h
  | drop other =>
    rw [show snapshots [Act.drop other] = [] from rfl, List.append_nil]
    exact h.erase fun he => hdrop (by rw [he])

theorem stands_run (acts : List Act) (h : Stands ticket want seen w)
    (hdrop : Act.drop ticket ∉ acts) (hopen : StillWaiting ticket acts w) :
    Stands ticket want (seen ++ snapshots acts) (w.run acts) := by
  induction acts generalizing seen w with
  | nil =>
    rw [show snapshots [] = [] from rfl, List.append_nil]
    exact h
  | cons act rest ih =>
    obtain ⟨hlook, hrest⟩ := hopen
    rw [snapshots_cons, ← List.append_assoc]
    have hact : act ≠ .drop ticket := fun he => hdrop (by simp [he])
    exact ih (stands_step h act hact hlook) (fun hm => hdrop (List.mem_cons_of_mem _ hm)) hrest

/-- A wait goes on waiting through acts that bring it no wanted snapshot. -/
theorem stillWaiting_of_firstMet (acts : List Act) (h : Stands ticket want seen w)
    (hdrop : Act.drop ticket ∉ acts)
    (hm : want.firstMet (seen ++ snapshots acts) = none) : StillWaiting ticket acts w := by
  induction acts generalizing seen w with
  | nil => trivial
  | cons act rest ih =>
    rw [snapshots_cons, ← List.append_assoc] at hm
    have hseen : want.firstMet seen = none := by
      rw [want.firstMet_append, want.firstMet_append, Option.or_eq_none_iff,
        Option.or_eq_none_iff] at hm
      exact hm.1.1
    have hlook : (w.poll ticket).1 = none := h.poll.trans hseen
    have hact : act ≠ .drop ticket := fun he => hdrop (by simp [he])
    exact ⟨fun _ => hlook,
      ih (stands_step h act hact fun _ => hlook) (fun hm => hdrop (List.mem_cons_of_mem _ hm)) hm⟩

end

/-! ### What a wait is told -/

/-- A wait is told the first wanted record among the snapshot of its first look and those of the
updates since, whatever the other waits do and however many updates come before it looks again. Its
first look ends it if that snapshot is wanted. Else, if it is not given up and has not ended,
every later look shows what `firstMet` finds; and it goes on waiting while that is nothing. -/
theorem poll_eq_firstMet (name : String) (before : List Act) (want : Want) :
    let w₀ := (ofName name).run before
    (∀ r w, w₀.await want = (.inl r, w) → want.firstMet [w₀.current] = some r) ∧
    ∀ ticket w, w₀.await want = (.inr ticket, w) →
      want.firstMet [w₀.current] = none ∧
      ∀ after, Act.drop ticket ∉ after →
        (StillWaiting ticket after w →
          ((w.run after).poll ticket).1 = want.firstMet (w₀.current :: snapshots after)) ∧
        (want.firstMet (w₀.current :: snapshots after) = none → StillWaiting ticket after w) := by
  intro w₀
  have hf : w₀.Fresh := fresh_run (fresh_ofName name) before
  rcases await_cases want w₀ with ⟨r, hc, hmet, he⟩ | ⟨hm, he⟩
  · refine ⟨fun r' w hw => ?_, fun ticket w hw => ?_⟩ <;> rw [he] at hw <;> cases hw
    rw [hc, want.firstMet_some, if_pos hmet]
  · refine ⟨fun r w hw => ?_, fun ticket w hw => ?_⟩ <;> rw [he] at hw <;> cases hw
    have hstands := stands_register hf hm
    exact ⟨hm, fun after hdrop =>
      ⟨fun hopen => (stands_run after hstands hdrop hopen).poll,
        stillWaiting_of_firstMet after hstands hdrop⟩⟩

/-- A record of one container in a given state. -/
private def lndRecord (state : String) : Record := ⟨"c1", "simnet_lndbtc_1", state, none, []⟩

/-- A container that was created vanishes, runs and exits between two looks of a wait for it to run.
Another wait, for any record, comes meanwhile and is given up. The second look still shows the
running record; until there was one the wait had nothing to show; and a wait for any record would
have ended at its first look. -/
theorem poll_eq_firstMet_transient :
    let w₀ := (ofName "simnet_lndbtc_1").run [.update (some (lndRecord "created"))]
    let w := (w₀.await .running).2
    let early : List Act := [.poll 0, .update none, .await .record, .drop 1]
    let late : List Act := [.update (some (lndRecord "running")), .update (some (lndRecord "exited"))]
    Want.firstMet .record [w₀.current] = some (lndRecord "created") ∧
      StillWaiting 0 early w ∧
      ((w.run (early ++ late)).poll 0).1 = some (lndRecord "running") := by
  intro w₀ w early late
  have h := poll_eq_firstMet "simnet_lndbtc_1" [.update (some (lndRecord "created"))]
  have hlater := ((h .running).2 0 w rfl).2
  have hwaits : StillWaiting 0 (early ++ late) w := by
    refine ⟨fun _ => by decide, ?_⟩
    simp [StillWaiting, late]
  refine ⟨(h .record).1 _ _ rfl, (hlater early (by simp [early])).2 (by decide), ?_⟩
  calc ((w.run (early ++ late)).poll 0).1
      = Want.running.firstMet (w₀.current :: snapshots (early ++ late)) :=
        (hlater (early ++ late) (by simp [early, late])).1 hwaits
    _ = some (lndRecord "running") := by decide

end Watch

end NodeStack.Engine
