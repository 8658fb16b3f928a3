import NodeStack.Engine.Container
import NodeStack.Engine.Event

/-!
# `NodeStack.Proofs.Engine.Census`: the containers of an engine, and the events still to be handled

`Census` is what an engine knows of its containers. A `Change` happens to one container and is told
by an event, which need not give the container's name. Whoever handles the events does so late: what
the engine says meanwhile is newer than the events still to come.

The engine is asked for a container by name or by id, in the same way. So a census keeps the two
apart: a container whose id is another one's name could not be asked for, and neither could a
container that is to be followed under a name that is some container's id.

* `Census.Sound`: a name and an id belong to one container. `sound_after`: every possible change
  keeps it.
* `Census.Finds`: what the engine may answer about a name or an id. `finds_tracked` and
  `finds_living`: it is no other container that it finds.
* `Faithful`: the last event to come of a name tells whether a container has the name.
  `faithful_after` and `faithful_tail`: every change keeps it, and so does handling.
* `Tracks`: what was last known under a name is right, or an event still to come concerns the name;
  and a container that is gone will be told gone. `tracks_after`: every change keeps it.
* `tracks_tail`, `tracks_gone`, `tracks_missed_end`, `tracks_missed`: when an event is done with.

When no event is to come, what was last known is right: `Tracks.current`.
-/

set_option autoImplicit false

namespace NodeStack.Engine

/-! ### Containers and what happens to them -/

/-- What an engine knows of its containers. -/
structure Census where
  /-- The container of a name. -/
  named : String → Option Record
  /-- The name of the container that has an id or had it. -/
  owner : String → Option String

/-- What happens to a container. -/
structure Change where
  kind : EventKind
  /-- The container as the engine describes it from now on, or as it was if it is destroyed. -/
  record : Record

/-- The event that tells a change, with or without the name of the container. -/
def Change.event (withName : Bool) (change : Change) : Event :=
  ⟨change.record.id, if withName then some change.record.name else none, change.kind⟩

namespace Census

/-- No containers, and none ever. -/
def empty : Census := ⟨fun _ => none, fun _ => none⟩

/-- The containers after a change. -/
def after (change : Change) (c : Census) : Census where
  named n :=
    if n = change.record.name then
      if change.kind = .destroyed then none else some change.record
    else c.named n
  owner id := if id = change.record.id then some change.record.name else c.owner id

/-- The container of a name has an id. -/
def Holds (c : Census) (n id : String) : Prop := ∃ r, c.named n = some r ∧ r.id = id

/-- What can happen. A new container has a new id and a free name; its id is none of the `tracked`
names, and no container's name is another's id. Anything else happens to a container that there is,
which keeps its id and its name. -/
def Possible (tracked : List String) (c : Census) (change : Change) : Prop :=
  if change.kind = .created then
    c.owner change.record.id = none ∧ c.named change.record.name = none ∧
      change.record.id ∉ tracked ∧ c.named change.record.id = none ∧
      ∀ n, ¬c.Holds n change.record.name
  else c.Holds change.record.name change.record.id

/-- A name and an id belong to one container, no id is a tracked name, and no container's name is
another's id. -/
structure Sound (tracked : List String) (c : Census) : Prop where
  owned : ∀ n r, c.named n = some r → r.name = n ∧ c.owner r.id = some n
  foreign : ∀ id n, c.owner id = some n → id ∉ tracked
  apart : ∀ n m r, c.Holds n m → c.named m = some r → n = m

/-- What the engine may answer about a name or an id: a container that has it, or nothing if none
does. -/
def Finds (c : Census) (key : String) : Option Record → Prop
  | some r => c.named r.name = some r ∧ (r.name = key ∨ r.id = key)
  | none => c.named key = none ∧ ∀ n, ¬c.Holds n key

section
variable {tracked : List String} {c : Census} {change : Change} {n id : String}

theorem not_holds_empty (n id : String) : ¬empty.Holds n id := by
  rintro ⟨r, hr, -⟩
  cases hr

theorem sound_empty (tracked : List String) : empty.Sound tracked where
  owned _ _ h := nomatch h
  foreign _ _ h := nomatch h
  apart _ _ _ _ h := nomatch h

theorem Sound.name_eq {r : Record} (hc : c.Sound tracked) (h : c.named n = some r) : r.name = n :=
  (hc.owned n r h).1

theorem Sound.owner_eq (hc : c.Sound tracked) (h : c.Holds n id) : c.owner id = some n := by
  obtain ⟨r, hr, rfl⟩ := h
  exact (hc.owned n r hr).2

theorem named_after_self (c : Census) (change : Change) :
    (c.after change).named change.record.name =
      if change.kind = .destroyed then none else some change.record :=
  if_pos rfl

theorem named_after_other (h : n ≠ change.record.name) : (c.after change).named n = c.named n :=
  if_neg h

theorem owner_after_self (c : Census) (change : Change) :
    (c.after change).owner change.record.id = some change.record.name :=
  if_pos rfl

/-- Ids stay with their containers. -/
theorem owner_after (hc : c.Sound tracked) (hp : c.Possible tracked change)
    (h : c.owner id = some n) : (c.after change).owner id = some n := by
  show (if id = change.record.id then some change.record.name else c.owner id) = some n
  split
  · next hid =>
    unfold Possible at hp
    split at hp
    · rw [← hid, h] at hp
      cases hp.1
    · rw [← hc.owner_eq hp, ← hid, h]
  · exact h

/-- Whose container a name is stays the same, unless the change is about that name. -/
theorem holds_after_of_not_created (hk : change.kind ≠ .created) (hp : c.Possible tracked change)
    (h : (c.after change).Holds n id) : c.Holds n id := by
  obtain ⟨r, hr, rfl⟩ := h
  rw [Possible, if_neg hk] at hp
  by_cases hn : n = change.record.name
  · subst hn
    rw [named_after_self] at hr
    split at hr
    · cases hr
    · cases hr
      exact hp
  · rw [named_after_other hn] at hr
    exact ⟨r, hr, rfl⟩

theorem sound_after (hc : c.Sound tracked) (hp : c.Possible tracked change) :
    (c.after change).Sound tracked := by
  refine ⟨fun n r hr => ?_, fun id n hid => ?_, fun n m r hn hm => ?_⟩
  · by_cases hn : n = change.record.name
    · subst hn
      rw [named_after_self] at hr
      split at hr
      · cases hr
      · cases hr
        exact ⟨rfl, owner_after_self c change⟩
    · rw [named_after_other hn] at hr
      exact ⟨hc.name_eq hr, owner_after hc hp (hc.owned n r hr).2⟩
  · by_cases h : id = change.record.id
    · subst h
      by_cases hk : change.kind = .created
      · rw [Possible, if_pos hk] at hp
        exact hp.2.2.1
      · rw [Possible, if_neg hk] at hp
        exact hc.foreign _ _ (hc.owner_eq hp)
    · exact hc.foreign id n ((if_neg h).symm.trans hid)
  · by_cases hk : change.kind = .created
    · rw [Possible, if_pos hk] at hp
      obtain ⟨-, -, -, hunnamed, hunheld⟩ := hp
      by_cases hn' : n = change.record.name <;> by_cases hm' : m = change.record.name
      · rw [hn', hm']
      · -- The new container's id is the name of an older one.
        obtain ⟨s, hs, hid⟩ := hn
        rw [hn', named_after_self, if_neg (by rw [hk]; decide)] at hs
        cases hs
        rw [named_after_other hm', ← hid, hunnamed] at hm
        cases hm
      · -- An older container's id is the name of the new one.
        obtain ⟨s, hs, hid⟩ := hn
        rw [named_after_other hn'] at hs
        exact absurd ⟨s, hs, hid.trans hm'⟩ (hunheld n)
      · obtain ⟨s, hs, hid⟩ := hn
        rw [named_after_other hn'] at hs
        rw [named_after_other hm'] at hm
        exact hc.apart n m r ⟨s, hs, hid⟩ hm
    · obtain ⟨s, hs, -⟩ := holds_after_of_not_created hk hp ⟨r, hm, rfl⟩
      exact hc.apart n m s (holds_after_of_not_created hk hp hn) hs

/-- Asked about a tracked name, the engine answers with the container of that name. -/
theorem finds_tracked {key : String} {found : Option Record} (hc : c.Sound tracked)
    (hkey : key ∈ tracked) (hf : c.Finds key found) : found = c.named key := by
  cases found with
  | none => exact hf.1.symm
  | some r =>
    obtain ⟨hr, rfl | hid⟩ := hf
    · exact hr.symm
    · have hforeign := hc.foreign r.id r.name (hc.owned _ r hr).2
      rw [hid] at hforeign
      exact absurd hkey hforeign

/-- Asked about the id of a container that there is, the engine answers with that container. -/
theorem finds_living {found : Option Record} (hc : c.Sound tracked) (h : c.Holds n id)
    (hf : c.Finds id found) : ∃ r, found = some r ∧ r.name = n := by
  cases found with
  | none => exact absurd h (hf.2 n)
  | some r =>
    refine ⟨r, rfl, ?_⟩
    obtain ⟨hr, rfl | rfl⟩ := hf
    · exact (hc.apart n r.name r h hr).symm
    · have hname : some n = some r.name := (hc.owner_eq h).symm.trans (hc.owned _ r hr).2
      exact (Option.some.inj hname).symm

end

end Census

/-! ### Events still to be handled -/

/-- Events to come are about containers that there are or were, and the last one of a name tells
whether a container has the name. -/
structure Faithful (c : Census) (queue : List Event) : Prop where
  known : ∀ e ∈ queue, ∃ n, c.owner e.id = some n ∧ ∀ m, e.name = some m → m = n
  last : ∀ early e late n, queue = early ++ e :: late → c.owner e.id = some n →
    (∀ l ∈ late, c.owner l.id ≠ some n) →
    if e.kind = .destroyed then c.named n = none else c.Holds n e.id

/-- What was last known of the container of a name is right, or an event to come concerns the name.
A container that is known and is gone will be told gone. -/
structure Tracks (c : Census) (queue : List Event) (n : String) (latest : Option Record) :
    Prop where
  origin : ∀ r, latest = some r → r.name = n ∧ c.owner r.id = some n ∧
    (c.Holds n r.id ∨ ∃ e ∈ queue, e.kind = .destroyed ∧ e.id = r.id)
  fresh : latest = c.named n ∨ ∃ e ∈ queue, c.owner e.id = some n

section
variable {tracked : List String} {c : Census} {change : Change} {queue : List Event} {e : Event}
  {n : String} {latest : Option Record}

theorem faithful_nil (c : Census) : Faithful c [] where
  known _ h := absurd h List.not_mem_nil
  last early e late n h := by simp at h

theorem faithful_tail (h : Faithful c (e :: queue)) : Faithful c queue where
  known e' he' := h.known e' (List.mem_cons_of_mem _ he')
  last early e' late n hq := h.last (e :: early) e' late n (by rw [hq]; rfl)

/-- A change adds the last event of its name. -/
theorem faithful_after (hc : c.Sound tracked) (hp : c.Possible tracked change)
    (h : Faithful c queue) (withName : Bool) :
    Faithful (c.after change) (queue ++ [change.event withName]) := by
  have hnew : (c.after change).owner (change.event withName).id = some change.record.name :=
    Census.owner_after_self c change
  refine ⟨fun e he => ?_, fun early e late n hq hn hlate => ?_⟩
  · rcases List.mem_append.mp he with he | he
    · obtain ⟨n, hn, hname⟩ := h.known e he
      exact ⟨n, Census.owner_after hc hp hn, hname⟩
    · rw [List.mem_singleton.mp he]
      refine ⟨change.record.name, hnew, fun m hm => ?_⟩
      have hm : (if withName then some change.record.name else none) = some m := hm
      split at hm
      · exact (Option.some.inj hm).symm
      · cases hm
  · rcases List.eq_nil_or_concat late with rfl | ⟨late', l, rfl⟩
    · -- The event is the one that tells the change.
      obtain ⟨-, he⟩ := List.append_inj' hq rfl
      cases he
      obtain rfl := Option.some.inj (hnew.symm.trans hn)
      rw [Census.named_after_self]
      by_cases hk : change.kind = .destroyed
      · rw [if_pos (show (change.event withName).kind = .destroyed from hk), if_pos hk]
      · rw [if_neg (show ¬(change.event withName).kind = .destroyed from hk)]
        refine ⟨change.record, ?_, rfl⟩
        rw [Census.named_after_self, if_neg hk]
    · -- It came before, and the change is about another name.
      rw [List.concat_eq_append, ← List.cons_append, ← List.append_assoc] at hq
      obtain ⟨hqueue, hl⟩ := List.append_inj' hq rfl
      cases hl
      have hother : n ≠ change.record.name := by
        intro hsame
        refine hlate (change.event withName) ?_ (by rw [hnew, hsame])
        rw [List.concat_eq_append]
        exact List.mem_append_right _ List.mem_cons_self
      have hold : ∀ x ∈ queue, (c.after change).owner x.id = c.owner x.id := by
        intro x hx
        obtain ⟨m, hm, -⟩ := h.known x hx
        rw [hm, Census.owner_after hc hp hm]
      have hmem : ∀ x ∈ e :: late', x ∈ queue := fun x hx => by
        rw [hqueue]
        exact List.mem_append_right _ hx
      have hlast := h.last early e late' n hqueue
        ((hold e (hmem e List.mem_cons_self)).symm.trans hn) fun l hl => by
          rw [← hold l (hmem l (List.mem_cons_of_mem _ hl))]
          refine hlate l ?_
          rw [List.concat_eq_append]
          exact List.mem_append_left _ hl
      split at hlast
      · next hk => rwa [if_pos hk, Census.named_after_other hother]
      · next hk =>
        rw [if_neg hk]
        obtain ⟨r, hr, hid⟩ := hlast
        exact ⟨r, (Census.named_after_other hother).trans hr, hid⟩

/-- What the engine says now is right, whatever is to come. -/
theorem tracks_named (hc : c.Sound tracked) (queue : List Event) (n : String) :
    Tracks c queue n (c.named n) where
  origin r hr := ⟨hc.name_eq hr, (hc.owned n r hr).2, Or.inl ⟨r, hr, rfl⟩⟩
  fresh := Or.inl rfl

/-- A change makes what is known wrong only with an event that concerns the name. -/
theorem tracks_after (hc : c.Sound tracked) (hp : c.Possible tracked change)
    (h : Tracks c queue n latest) (withName : Bool) :
    Tracks (c.after change) (queue ++ [change.event withName]) n latest := by
  have hnew : (c.after change).owner (change.event withName).id = some change.record.name :=
    Census.owner_after_self c change
  have hlast : change.event withName ∈ queue ++ [change.event withName] :=
    List.mem_append_right _ List.mem_cons_self
  refine ⟨fun r hr => ?_, ?_⟩
  · obtain ⟨hname, howner, hgone⟩ := h.origin r hr
    refine ⟨hname, Census.owner_after hc hp howner, ?_⟩
    rcases hgone with hheld | ⟨e, he, hk, hid⟩
    · by_cases hn : n = change.record.name
      · subst hn
        -- The container that is known is the one that the change is about.
        have hid : r.id = change.record.id := by
          obtain ⟨s, hs, hsid⟩ := hheld
          unfold Census.Possible at hp
          split at hp
          · rw [hp.2.1] at hs
            cases hs
          · obtain ⟨s', hs', hsid'⟩ := hp
            rw [hs] at hs'
            cases hs'
            exact hsid.symm.trans hsid'
        by_cases hk : change.kind = .destroyed
        · exact Or.inr ⟨_, hlast, hk, hid.symm⟩
        · refine Or.inl ⟨change.record, ?_, hid.symm⟩
          rw [Census.named_after_self, if_neg hk]
      · obtain ⟨s, hs, hsid⟩ := hheld
        exact Or.inl ⟨s, (Census.named_after_other hn).trans hs, hsid⟩
    · exact Or.inr ⟨e, List.mem_append_left _ he, hk, hid⟩
  · rcases h.fresh with hfresh | ⟨e, he, hn⟩
    · by_cases hn : n = change.record.name
      · exact Or.inr ⟨_, hlast, by rw [hnew, hn]⟩
      · exact Or.inl (hfresh.trans (Census.named_after_other hn).symm)
    · exact Or.inr ⟨e, List.mem_append_left _ he, Census.owner_after hc hp hn⟩

/-- An event that concerns another name is done with. -/
theorem tracks_tail (h : Tracks c (e :: queue) n latest) (hn : c.owner e.id ≠ some n) :
    Tracks c queue n latest := by
  refine ⟨fun r hr => ?_, h.fresh.imp_right ?_⟩
  · obtain ⟨hname, howner, hgone⟩ := h.origin r hr
    refine ⟨hname, howner, hgone.imp_right ?_⟩
    rintro ⟨e', he', hk, hid⟩
    rcases List.mem_cons.mp he' with rfl | he'
    · rw [hid] at hn
      exact absurd howner hn
    · exact ⟨e', he', hk, hid⟩
  · rintro ⟨e', he', hn'⟩
    rcases List.mem_cons.mp he' with rfl | he'
    · exact absurd hn' hn
    · exact ⟨e', he', hn'⟩

/-- The first event to come is the last one of its name, or another one of that name comes. -/
theorem faithful_head (hf : Faithful c (e :: queue)) (hn : c.owner e.id = some n) :
    (∃ e' ∈ queue, c.owner e'.id = some n) ∨
    ((∀ e' ∈ queue, c.owner e'.id ≠ some n) ∧
      if e.kind = .destroyed then c.named n = none else c.Holds n e.id) := by
  by_cases hmore : ∃ e' ∈ queue, c.owner e'.id = some n
  · exact Or.inl hmore
  · have hnone : ∀ e' ∈ queue, c.owner e'.id ≠ some n := fun e' he' hn' => hmore ⟨e', he', hn'⟩
    exact Or.inr ⟨hnone, hf.last [] e queue n rfl hn hnone⟩

/-- An event that tells a container's end is done with once nothing is known under the name. -/
theorem tracks_gone (hf : Faithful c (e :: queue)) (hk : e.kind = .destroyed)
    (hn : c.owner e.id = some n) : Tracks c queue n none := by
  refine ⟨fun _ hr => (nomatch hr), ?_⟩
  rcases faithful_head hf hn with hmore | ⟨-, hlast⟩
  · exact Or.inr hmore
  · rw [if_pos hk] at hlast
    exact Or.inl hlast.symm

/-- An event that tells a container's end is done with if another container is known. -/
theorem tracks_missed_end (hf : Faithful c (e :: queue)) (hk : e.kind = .destroyed)
    (h : Tracks c (e :: queue) n latest) (hid : ∀ r, latest = some r → r.id ≠ e.id) :
    Tracks c queue n latest := by
  by_cases hn : c.owner e.id = some n
  · have horigin : ∀ r, latest = some r → r.name = n ∧ c.owner r.id = some n ∧
        (c.Holds n r.id ∨ ∃ e' ∈ queue, e'.kind = .destroyed ∧ e'.id = r.id) := by
      intro r hr
      obtain ⟨hname, howner, hgone⟩ := h.origin r hr
      refine ⟨hname, howner, hgone.imp_right ?_⟩
      rintro ⟨e', he', hk', hid'⟩
      rcases List.mem_cons.mp he' with rfl | he'
      · exact absurd hid'.symm (hid r hr)
      · exact ⟨e', he', hk', hid'⟩
    refine ⟨horigin, ?_⟩
    rcases faithful_head hf hn with hmore | ⟨hnone, hlast⟩
    · exact Or.inr hmore
    · -- No container has the name, and nothing can be known under it.
      rw [if_pos hk] at hlast
      refine Or.inl ?_
      rw [hlast]
      cases hl : latest with
      | none => rfl
      | some r =>
        obtain ⟨-, howner, ⟨s, hs, -⟩ | ⟨e', he', -, hid'⟩⟩ := horigin r hl
        · rw [hlast] at hs
          cases hs
        · rw [← hid'] at howner
          exact absurd howner (hnone e' he')
  · exact tracks_tail h hn

/-- Any other event is done with if its container is gone. -/
theorem tracks_missed (hf : Faithful c (e :: queue)) (hk : e.kind ≠ .destroyed)
    (h : Tracks c (e :: queue) n latest) (hgone : ¬c.Holds n e.id) : Tracks c queue n latest := by
  by_cases hn : c.owner e.id = some n
  · refine ⟨fun r hr => ?_, ?_⟩
    · obtain ⟨hname, howner, hends⟩ := h.origin r hr
      refine ⟨hname, howner, hends.imp_right ?_⟩
      rintro ⟨e', he', hk', hid'⟩
      rcases List.mem_cons.mp he' with rfl | he'
      · exact absurd hk' hk
      · exact ⟨e', he', hk', hid'⟩
    · rcases faithful_head hf hn with hmore | ⟨-, hlast⟩
      · exact Or.inr hmore
      · rw [if_neg hk] at hlast
        exact absurd hlast hgone
  · exact tracks_tail h hn

/-- When no event is to come, what was last known is right. -/
theorem Tracks.current (h : Tracks c [] n latest) : latest = c.named n := by
  rcases h.fresh with h | ⟨e, he, -⟩
  · exact h
  · cases he

end

end NodeStack.Engine
