import Mathlib.Data.List.Nodup
import NodeStack.Proofs.Engine.Watch

/-!
# `NodeStack.Proofs.Engine.Waiters`: who is registered with a watch

A `Vigil` is the account of a wait that holds a ticket: what it waits for, the snapshots it has had
since its registration, that one included, and whether it was given up. `vigils` keeps these
accounts beside a run, in the order of registration. It is open while the wait has neither been given
up nor had a wanted snapshot (`Vigil.isOpen`).

A wait that is given up stays registered until the next update. So between two updates the
registered waiters are no fewer than the open vigils and no more than those that have had no wanted
snapshot, and right after an update they are the open ones.

* `Lists`: how the accounts and the watch agree, with these two bounds among its parts.
* `Lists.live`: of the waiters, those that have not given up are the open vigils.
* `lists_register`, `lists_update`, `lists_poll`, `lists_drop`: what each act does to the agreement,
  and `lists_run`: every run keeps it.
* `waiters_of_vigils`: the waiters of a watch after any run, and right after an update.
-/

set_option autoImplicit false

namespace NodeStack.Engine.Watch

/-! ### The waits of a run -/

/-- The account of a wait that holds a ticket. -/
structure Vigil where
  ticket : Nat
  want : Want
  /-- The snapshot at its registration, and those of the updates since. -/
  seen : List (Option Record)
  /-- The wait was given up. -/
  dropped : Bool

namespace Vigil

/-- The entry of the wait among the registered. -/
def waiter (v : Vigil) : Waiter := ⟨v.ticket, v.want⟩

/-- No snapshot the wait has had was a record of the kind wanted. -/
def Unmet (v : Vigil) : Prop := ∀ r, some r ∈ v.seen → ¬v.want.Holds r

/-- The wait was not given up, and has had no wanted snapshot. -/
def Open (v : Vigil) : Prop := v.dropped = false ∧ v.Unmet

/-- The wait has had one snapshot more. -/
def see (record : Option Record) (v : Vigil) : Vigil := { v with seen := v.seen ++ [record] }

/-- The wait is given up, if it holds that ticket. -/
def giveUp (ticket : Nat) (v : Vigil) : Vigil :=
  if v.ticket = ticket then { v with dropped := true } else v

theorem unmet_iff (v : Vigil) : v.Unmet ↔ v.want.firstMet v.seen = none := by
  rw [Want.firstMet, List.findSome?_eq_none_iff]
  constructor
  · intro h s hs
    cases s with
    | none => rfl
    | some r => simp [Option.filter, h r hs]
  · intro h r hr hholds
    have hnone := h (some r) hr
    simp [Option.filter, hholds] at hnone

instance (v : Vigil) : Decidable v.Unmet :=
  decidable_of_iff ((v.want.firstMet v.seen).isNone = true)
    (by rw [Option.isNone_iff_eq_none, unmet_iff])

instance (v : Vigil) : Decidable v.Open := inferInstanceAs (Decidable (_ ∧ _))

@[simp] theorem waiter_see (record : Option Record) (v : Vigil) :
    (v.see record).waiter = v.waiter := rfl

@[simp] theorem waiter_giveUp (ticket : Nat) (v : Vigil) :
    (v.giveUp ticket).waiter = v.waiter := by
  unfold giveUp
  split <;> rfl

@[simp] theorem ticket_giveUp (ticket : Nat) (v : Vigil) :
    (v.giveUp ticket).ticket = v.ticket := congrArg Waiter.ticket (waiter_giveUp ticket v)

theorem unmet_see_iff (record : Option Record) (v : Vigil) :
    (v.see record).Unmet ↔ v.Unmet ∧ record.any v.want.metBy = false := by
  have hnew : record.any v.want.metBy = false ↔ ∀ r, record = some r → ¬v.want.Holds r := by
    cases record with
    | none => simp
    | some r => simp [← Want.metBy_iff]
  rw [hnew]
  constructor
  · intro h
    exact ⟨fun r hr => h r (List.mem_append_left _ hr),
      fun r hr => h r (List.mem_append_right _ (by simp [hr]))⟩
  · rintro ⟨hold, hlast⟩ r hr
    rcases List.mem_append.mp hr with hr | hr
    · exact hold r hr
    · exact hlast r (List.mem_singleton.mp hr).symm

theorem open_see_iff (record : Option Record) (v : Vigil) :
    (v.see record).Open ↔ v.Open ∧ record.any v.want.metBy = false := by
  show v.dropped = false ∧ (v.see record).Unmet ↔ _
  rw [unmet_see_iff, ← and_assoc]
  exact Iff.rfl

theorem unmet_giveUp_iff (ticket : Nat) (v : Vigil) : (v.giveUp ticket).Unmet ↔ v.Unmet := by
  unfold giveUp
  split <;> exact Iff.rfl

theorem open_giveUp_iff (ticket : Nat) (v : Vigil) :
    (v.giveUp ticket).Open ↔ v.Open ∧ v.ticket ≠ ticket := by
  unfold giveUp
  split
  · next h => simp [Open, h]
  · next h => simp [h]

end Vigil

/-- What an act makes of the accounts. A wait that ends at its first look gets no ticket and needs
none. -/
def note (w : Watch) (vigils : List Vigil) : Act → List Vigil
  | .update record => vigils.map (Vigil.see record)
  | .await want =>
    match (w.await want).1 with
    | .inl _ => vigils
    | .inr ticket => vigils ++ [⟨ticket, want, [w.current], false⟩]
  | .poll _ => vigils
  | .drop ticket => vigils.map (Vigil.giveUp ticket)

/-- The accounts after some acts, in order of registration. -/
def vigilsFrom : List Act → Watch → List Vigil → List Vigil
  | [], _, vigils => vigils
  | act :: rest, w, vigils => vigilsFrom rest (w.step act) (note w vigils act)

/-- The accounts of the waits that some acts have registered. -/
def vigils (acts : List Act) (w : Watch) : List Vigil := vigilsFrom acts w []

theorem vigilsFrom_append (early late : List Act) (w : Watch) (vigils : List Vigil) :
    vigilsFrom (early ++ late) w vigils = vigilsFrom late (w.run early) (vigilsFrom early w vigils) := by
  induction early generalizing w vigils with
  | nil => rfl
  | cons act rest ih => exact ih (w.step act) (note w vigils act)

theorem vigils_concat (acts : List Act) (act : Act) (w : Watch) :
    vigils (acts ++ [act]) w = note (w.run acts) (vigils acts w) act :=
  vigilsFrom_append acts [act] w []

/-! ### Entries of accounts -/

/-- The entries, among the registered, of those waits of which `p` holds. -/
def entries (p : Vigil → Prop) [DecidablePred p] (vs : List Vigil) : List Waiter :=
  (vs.filter fun v => decide (p v)).map Vigil.waiter

section
variable {p q : Vigil → Prop} [DecidablePred p] [DecidablePred q] {vs : List Vigil}

theorem mem_entries {x : Waiter} : x ∈ entries p vs ↔ ∃ v ∈ vs, p v ∧ v.waiter = x := by
  simp [entries, and_assoc]

theorem entries_concat {v : Vigil} (h : p v) : entries p (vs ++ [v]) = entries p vs ++ [v.waiter] := by
  simp [entries, h]

theorem entries_congr (h : ∀ v ∈ vs, p v ↔ q v) : entries p vs = entries q vs := by
  unfold entries
  rw [List.filter_congr fun v hv => decide_eq_decide.mpr (h v hv)]

theorem entries_sublist (h : ∀ v, p v → q v) : (entries p vs).Sublist (entries q vs) := by
  refine List.Sublist.map _ (List.monotone_filter_right vs ?_)
  intro v hv
  simpa using h v (by simpa using hv)

theorem filter_entries (keep : Waiter → Bool) :
    (entries p vs).filter keep = entries (fun v => p v ∧ keep v.waiter = true) vs := by
  unfold entries
  rw [List.filter_map, List.filter_filter]
  refine congrArg (List.map _) (List.filter_congr fun v _ => ?_)
  simp [Bool.and_comm]

/-- A change of the accounts that leaves their entries as they are only changes which are meant. -/
theorem entries_map {f : Vigil → Vigil} (hf : ∀ v, (f v).waiter = v.waiter) :
    entries p (vs.map f) = entries (fun v => p (f v)) vs := by
  unfold entries
  rw [List.filter_map, List.map_map]
  exact List.map_congr_left fun v _ => hf v

end

/-! ### Accounts and the watch -/

/-- The accounts agree with the watch. -/
structure Lists (vs : List Vigil) (w : Watch) : Prop where
  /-- No ticket of theirs will be given out again. -/
  issued : ∀ v ∈ vs, v.ticket < w.next
  /-- They stand in the order of registration. -/
  rising : vs.Pairwise (·.ticket < ·.ticket)
  /-- The watch has exactly the open ones down as waiting. -/
  waiting : ∀ v ∈ vs, w.waits.get? v.ticket = some .waiting ↔ v.Open
  /-- Nothing is kept for a wait that was given up. -/
  gone : ∀ v ∈ vs, v.dropped = true → w.waits.get? v.ticket = none
  /-- Every open one is registered, in that order. -/
  listed : (entries Vigil.Open vs).Sublist w.waiters
  /-- Whoever is registered has had no wanted snapshot. -/
  unmet : w.waiters.Sublist (entries Vigil.Unmet vs)

theorem lists_ofName (name : String) : Lists [] (ofName name) := by
  refine ⟨?_, .nil, ?_, ?_, .slnil, .slnil⟩ <;> intro v hv <;> cases hv

section
variable {vs : List Vigil} {w : Watch}

/-- The watch has not forgotten an open vigil. -/
theorem Lists.alive_of_open (h : Lists vs w) {v : Vigil} (hv : v ∈ vs) (hopen : v.Open) :
    w.alive v.ticket = true := by
  rw [alive, (h.waiting v hv).mpr hopen]
  rfl

/-- Of the waiters, those that have not given up are the open vigils. -/
theorem Lists.live (h : Lists vs w) :
    w.waiters.filter (fun x => w.alive x.ticket) = entries Vigil.Open vs := by
  have hopen : ∀ v ∈ vs, v.Unmet ∧ w.alive v.waiter.ticket = true ↔ v.Open := by
    intro v hv
    refine ⟨fun ⟨hu, ha⟩ => ⟨?_, hu⟩, fun ho => ⟨ho.2, h.alive_of_open hv ho⟩⟩
    rw [← Bool.not_eq_true]
    intro hd
    rw [alive, show w.waits.get? v.waiter.ticket = none from h.gone v hv hd] at ha
    cases ha
  -- the two bounds meet once those that gave up are struck off
  apply List.Sublist.antisymm
  · have hle := h.unmet.filter fun x => w.alive x.ticket
    rwa [filter_entries, entries_congr hopen] at hle
  · have hle := h.listed.filter fun x => w.alive x.ticket
    have hall : ∀ v ∈ vs, v.Open ∧ w.alive v.waiter.ticket = true ↔ v.Open :=
      fun v hv => and_iff_left_of_imp fun ho => h.alive_of_open hv ho
    rwa [filter_entries, entries_congr hall] at hle

/-- Tickets tell the accounts apart. -/
theorem Lists.eq_of_ticket (h : Lists vs w) {u v : Vigil} (hu : u ∈ vs) (hv : v ∈ vs)
    (he : u.ticket = v.ticket) : u = v := by
  have hnodup : (vs.map Vigil.ticket).Nodup := List.pairwise_map.mpr (h.rising.imp Nat.ne_of_lt)
  exact List.inj_on_of_nodup_map hnodup hu hv he

/-! ### One act -/

/-- A wait that cannot end at its first look is registered behind the others. -/
theorem lists_register (h : Lists vs w) {want : Want} (hm : want.firstMet [w.current] = none) :
    Lists (vs ++ [⟨w.next, want, [w.current], false⟩]) (w.register want).2 := by
  have hnew : Vigil.Open ⟨w.next, want, [w.current], false⟩ := ⟨rfl, (Vigil.unmet_iff _).mpr hm⟩
  have hold : ∀ v ∈ vs, (w.register want).2.waits.get? v.ticket = w.waits.get? v.ticket :=
    fun v hv => Table.get?_set_other _ _ (Nat.ne_of_lt (h.issued v hv))
  refine ⟨?_, ?_, ?_, ?_, ?_, ?_⟩
  · intro v hv
    show v.ticket < w.next + 1
    rcases List.mem_append.mp hv with hv | hv
    · exact Nat.lt_succ_of_lt (h.issued v hv)
    · rw [List.mem_singleton.mp hv]
      exact Nat.lt_succ_self _
  · refine List.pairwise_append.mpr ⟨h.rising, List.pairwise_singleton _ _, ?_⟩
    intro u hu v hv
    rw [List.mem_singleton.mp hv]
    exact h.issued u hu
  · intro v hv
    rcases List.mem_append.mp hv with hv | hv
    · rw [hold v hv]
      exact h.waiting v hv
    · rw [List.mem_singleton.mp hv]
      exact iff_of_true (Table.get?_set_self ..) hnew
  · intro v hv hd
    rcases List.mem_append.mp hv with hv | hv
    · rw [hold v hv]
      exact h.gone v hv hd
    · rw [List.mem_singleton.mp hv] at hd
      cases hd
  · rw [entries_concat hnew]
    exact h.listed.append (List.Sublist.refl _)
  · rw [entries_concat hnew.2]
    exact h.unmet.append (List.Sublist.refl _)

/-- An update keeps those of the waiters that have not given up and that it does not satisfy. -/
theorem waiters_update (record : Option Record) (w : Watch) :
    (w.update record).waiters = (w.waiters.filter fun x => w.alive x.ticket).filter fun x =>
      !record.any x.want.metBy := by
  cases record with
  | none => simp [update]
  | some r => simp [update]

/-- What an update keeps for a wait: the record if it satisfies an open one, and else what was kept
before. -/
theorem Lists.get?_update (h : Lists vs w) (record : Option Record) {v : Vigil} (hv : v ∈ vs) :
    (w.update record).waits.get? v.ticket =
      match record with
      | some r =>
        if v.Open ∧ v.want.metBy r = true then some (.handed r) else w.waits.get? v.ticket
      | none => w.waits.get? v.ticket := by
  cases record with
  | none => rfl
  | some r =>
    have hiff : (∃ x ∈ w.waiters.filter fun x => w.alive x.ticket,
        x.ticket = v.ticket ∧ x.want.metBy r = true) ↔ v.Open ∧ v.want.metBy r = true := by
      rw [h.live]
      constructor
      · rintro ⟨x, hx, ht, hmet⟩
        obtain ⟨u, hu, hopen, rfl⟩ := mem_entries.mp hx
        obtain rfl := h.eq_of_ticket hu hv ht
        exact ⟨hopen, hmet⟩
      · rintro ⟨hopen, hmet⟩
        exact ⟨v.waiter, mem_entries.mpr ⟨v, hv, hopen, rfl⟩, rfl, hmet⟩
    refine (get?_hand r w.waits _ v.ticket).trans ?_
    rw [if_congr hiff rfl rfl]

/-- Right after an update the waiters are the open vigils. -/
theorem Lists.waiters_eq (h : Lists vs w) (record : Option Record) :
    (w.update record).waiters = entries Vigil.Open (vs.map (Vigil.see record)) := by
  rw [waiters_update, h.live, filter_entries, entries_map (Vigil.waiter_see record)]
  refine entries_congr fun v _ => ?_
  rw [Vigil.open_see_iff, Bool.not_eq_true']
  exact Iff.rfl

theorem lists_update (h : Lists vs w) (record : Option Record) :
    Lists (vs.map (Vigil.see record)) (w.update record) where
  issued := by
    intro v' hv'
    obtain ⟨v, hv, rfl⟩ := List.mem_map.mp hv'
    rw [next_update]
    exact h.issued v hv
  rising := List.pairwise_map.mpr h.rising
  waiting := by
    intro v' hv'
    obtain ⟨v, hv, rfl⟩ := List.mem_map.mp hv'
    show (w.update record).waits.get? v.ticket = _ ↔ _
    rw [h.get?_update record hv, Vigil.open_see_iff]
    cases record with
    | none => simp [h.waiting v hv]
    | some r =>
      by_cases hmet : v.Open ∧ v.want.metBy r = true
      · simp [hmet]
      · simp only [if_neg hmet, h.waiting v hv, Option.any_some]
        exact ⟨fun ho => ⟨ho, by simpa [ho] using hmet⟩, And.left⟩
  gone := by
    intro v' hv' hd
    obtain ⟨v, hv, rfl⟩ := List.mem_map.mp hv'
    have hclosed : ¬v.Open := fun ho => Bool.false_ne_true (ho.1.symm.trans hd)
    show (w.update record).waits.get? v.ticket = none
    rw [h.get?_update record hv]
    cases record with
    | none => exact h.gone v hv hd
    | some r => simp [hclosed, h.gone v hv hd]
  listed := by rw [h.waiters_eq]
  unmet := by
    rw [h.waiters_eq]
    exact entries_sublist fun v => And.right

/-- A look that ends a wait finds a record handed to it, so its vigil was open no more. -/
theorem lists_poll (h : Lists vs w) (ticket : Nat) : Lists vs (w.poll ticket).2 := by
  rcases poll_cases ticket w with ⟨r, hr, he⟩ | ⟨-, he⟩ <;> rw [he]
  · refine ⟨h.issued, h.rising, fun v hv => ?_, fun v hv hd => ?_, h.listed, h.unmet⟩
    · show (w.waits.erase ticket).get? v.ticket = _ ↔ _
      rw [← h.waiting v hv]
      by_cases ht : v.ticket = ticket
      · rw [ht, Table.get?_erase_self, hr]
        simp
      · rw [Table.get?_erase_other _ ht]
    · show (w.waits.erase ticket).get? v.ticket = none
      by_cases ht : v.ticket = ticket
      · rw [ht, Table.get?_erase_self]
      · rw [Table.get?_erase_other _ ht]
        exact h.gone v hv hd
  · exact h

/-- A wait that is given up stays registered for the time being. -/
theorem lists_drop (h : Lists vs w) (ticket : Nat) :
    Lists (vs.map (Vigil.giveUp ticket)) (w.drop ticket) where
  issued := by
    intro v' hv'
    obtain ⟨v, hv, rfl⟩ := List.mem_map.mp hv'
    rw [Vigil.ticket_giveUp]
    exact h.issued v hv
  rising := by
    refine List.pairwise_map.mpr (h.rising.imp ?_)
    intro u v hlt
    rwa [Vigil.ticket_giveUp, Vigil.ticket_giveUp]
  waiting := by
    intro v' hv'
    obtain ⟨v, hv, rfl⟩ := List.mem_map.mp hv'
    show (w.waits.erase ticket).get? (v.giveUp ticket).ticket = _ ↔ _
    rw [Vigil.ticket_giveUp, Vigil.open_giveUp_iff, ← h.waiting v hv]
    by_cases ht : v.ticket = ticket
    · rw [ht, Table.get?_erase_self]
      simp
    · rw [Table.get?_erase_other _ ht]
      simp [ht]
  gone := by
    intro v' hv' hd
    obtain ⟨v, hv, rfl⟩ := List.mem_map.mp hv'
    show (w.waits.erase ticket).get? (v.giveUp ticket).ticket = none
    rw [Vigil.ticket_giveUp]
    by_cases ht : v.ticket = ticket
    · rw [ht, Table.get?_erase_self]
    · rw [Table.get?_erase_other _ ht]
      rw [Vigil.giveUp, if_neg ht] at hd
      exact h.gone v hv hd
  listed := by
    rw [entries_map (Vigil.waiter_giveUp ticket)]
    refine (entries_sublist fun v ho => ?_).trans h.listed
    exact ((v.open_giveUp_iff ticket).mp ho).1
  unmet := by
    rw [entries_map (Vigil.waiter_giveUp ticket)]
    rw [entries_congr fun v _ => v.unmet_giveUp_iff ticket]
    exact h.unmet

theorem lists_step (h : Lists vs w) (act : Act) : Lists (note w vs act) (w.step act) := by
  cases act with
  | update record => exact lists_update h record
  | await want =>
    show Lists (match (w.await want).1 with | .inl _ => _ | .inr _ => _) (w.await want).2
    rcases await_cases want w with ⟨r, -, -, he⟩ | ⟨hm, he⟩ <;> rw [he]
    · exact h
    · exact lists_register h hm
  | poll ticket => exact lists_poll h ticket
  | drop ticket => exact lists_drop h ticket

theorem lists_run (h : Lists vs w) (acts : List Act) : Lists (vigilsFrom acts w vs) (w.run acts) := by
  induction acts generalizing vs w with
  | nil => exact h
  | cons act rest ih => exact ih (lists_step h act)

end

/-! ### Who is registered -/

/-- Where tickets rise, one entry at most has a given ticket. -/
theorem filter_ticket {l : List Waiter} (h : l.Pairwise (·.ticket < ·.ticket)) {x : Waiter}
    (hx : x ∈ l) : (l.filter fun y => y.ticket = x.ticket) = [x] := by
  induction l with
  | nil => cases hx
  | cons y rest ih =>
    obtain ⟨hy, hrest⟩ := List.pairwise_cons.mp h
    rcases List.mem_cons.mp hx with rfl | hx
    · rw [List.filter_cons_of_pos (by simp), List.filter_eq_nil_iff.mpr]
      intro z hz
      have := hy z hz
      simp only [decide_eq_true_eq]
      omega
    · have := hy x hx
      rw [List.filter_cons_of_neg (by simp only [decide_eq_true_eq]; omega), ih hrest hx]

/-- Whatever is done with a watch, in whatever order:

* the waits that hold a ticket stand in the order of registration, each with a ticket of its own;
* whoever is registered is one of them, and neither the snapshot at its registration nor any record
  since was of the kind it waits for;
* the watch has a wait down as waiting exactly if it was not given up and has had no wanted snapshot.
  So it is with every wait that is neither given up nor has been handed a record, and each of them
  is registered once;
* right after an update, of whatever kind, these are all that is registered, in the order of
  registration. So neither a wait that was given up nor one that was handed a record outlasts an
  update. -/
theorem waiters_of_vigils (name : String) (acts : List Act) :
    let w := (ofName name).run acts
    let vs := vigils acts (ofName name)
    vs.Pairwise (·.ticket < ·.ticket) ∧
    (∀ x ∈ w.waiters, ∃ v ∈ vs, v.waiter = x ∧ v.Unmet) ∧
    (∀ v ∈ vs, w.waits.get? v.ticket = some .waiting ↔ v.Open) ∧
    (∀ v ∈ vs, v.Open → (w.waiters.filter fun x => x.ticket = v.ticket) = [v.waiter]) ∧
    ∀ record, (w.update record).waiters =
      entries Vigil.Open (vigils (acts ++ [.update record]) (ofName name)) := by
  intro w vs
  have h : Lists vs w := lists_run (lists_ofName name) acts
  refine ⟨h.rising, fun x hx => ?_, h.waiting, fun v hv hopen => ?_, fun record => ?_⟩
  · obtain ⟨v, hv, hunmet, hx⟩ := mem_entries.mp (h.unmet.subset hx)
    exact ⟨v, hv, hx, hunmet⟩
  · have hrising : w.waiters.Pairwise (·.ticket < ·.ticket) := by
      refine List.Pairwise.sublist h.unmet ?_
      exact List.pairwise_map.mpr (h.rising.sublist List.filter_sublist)
    exact filter_ticket hrising (h.listed.subset (mem_entries.mpr ⟨v, hv, hopen, rfl⟩))
  · rw [vigils_concat]
    exact h.waiters_eq record

/-- A record of one container in a given state. -/
private def dexRecord (state : String) : Record := ⟨"c7", "simnet_opendexd_1", state, none, []⟩

/-- Three waits are registered. One is given up and one is handed a record, and the update that does
so strikes both off. A fourth is registered, and then the first is given up: it stays registered
until the next update, though that brings no record, and the fourth stays for good. -/
theorem waiters_of_vigils_stale :
    let acts : List Act := [.await .running, .await (.restarted "c7" none), .await .record, .drop 1,
      .update (some (dexRecord "created")), .await .running, .drop 0]
    let w := (ofName "simnet_opendexd_1").run acts
    let vs := vigils acts (ofName "simnet_opendexd_1")
    let last : Vigil := ⟨3, .running, [some (dexRecord "created")], false⟩
    w.waiters = [⟨0, .running⟩, ⟨3, .running⟩] ∧
    (∃ v ∈ vs, v.waiter = ⟨0, .running⟩ ∧ v.Unmet) ∧
    last ∈ vs ∧ last.Open ∧ w.waits.get? 3 = some .waiting ∧
    (w.waiters.filter fun x => x.ticket = 3) = [⟨3, .running⟩] ∧
    (w.update none).waiters = [⟨3, .running⟩] := by
  intro acts w vs last
  obtain ⟨-, hunmet, hwaiting, honce, hupdate⟩ := waiters_of_vigils "simnet_opendexd_1" acts
  have hlast : last ∈ vs := by
    show last ∈ [_, _, _, last]
    simp
  have hopen : last.Open := by decide
  refine ⟨rfl, hunmet ⟨0, .running⟩ List.mem_cons_self, hlast, hopen, (hwaiting last hlast).mpr hopen,
    honce last hlast hopen, ?_⟩
  exact (hupdate none).trans (by decide)

end NodeStack.Engine.Watch
