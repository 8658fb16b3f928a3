import NodeStack.Setup.Journal
import NodeStack.Table

/-!
# `NodeStack.Proofs.Setup.Journal`: a reader misses nothing without being told

A journal keeps two windows on the entries so far, one for replay and a wider one for readers, and a
reader keeps nothing but a position. Three things have to fit together: what a subscriber is given of
the past, where its reader begins, and what the reader gets when the window has moved past it.

* `Journal.Records`: a journal after some entries. Both windows are the end of one list, and
  `records_line` says that every line keeps it so.
* `replay_of_records`: what a subscriber is given of the past.
* `Reader.Stands`: the entries that are still ahead of a reader. `stands_line`, `stands_read`: a line
  adds its entry at their end, and a read takes the first of them, or all but the last ones that are
  kept. So a reader behaves as if it had an unbounded queue of its own.
* `Spells`: what the things that a reader got tell of the entries.
* `Audience`: a journal with any number of readers. `ahead_line`, `ahead_subscribe` and `ahead_read`
  are about one act, `records_run` and `follows_run` about any run.
* `reader_misses_nothing`: the entries since a subscription are those that the reader has got, in
  order, a report of missed ones standing for as many as it says, and after them the ones ahead.
-/

set_option autoImplicit false

namespace NodeStack.Setup

/-! ### The last items of a list -/

section
variable {α : Type}

theorem lastOf_suffix (n : Nat) (xs : List α) : lastOf n xs <:+ xs := List.drop_suffix _ _

theorem length_lastOf (n : Nat) (xs : List α) : (lastOf n xs).length = min n xs.length := by
  rw [lastOf, List.length_drop]
  omega

theorem lastOf_of_le {n : Nat} {xs : List α} (h : xs.length ≤ n) : lastOf n xs = xs := by
  rw [lastOf, Nat.sub_eq_zero_of_le h, List.drop_zero]

/-- An item that was dropped before is not missed when another one comes. -/
theorem lastOf_lastOf_append (n : Nat) (xs : List α) (x : α) :
    lastOf n (lastOf n xs ++ [x]) = lastOf n (xs ++ [x]) := by
  by_cases h : xs.length ≤ n
  · rw [lastOf_of_le h]
  · -- the window is full, so one more item goes and the new one comes
    have hlen : (lastOf n xs).length = n := by
      rw [length_lastOf]
      omega
    have hdrop : xs.length + 1 - n = xs.length - n + 1 := by omega
    simp only [lastOf, List.length_append, List.length_singleton] at hlen ⊢
    rw [hlen, hdrop]
    by_cases hn : n = 0
    · subst hn
      simp
    · rw [List.drop_append_of_le_length (by omega), List.drop_append_of_le_length (by omega),
        List.drop_drop]
      congr 2
      omega

end

/-! ### What a journal keeps -/

/-- The entries that a line adds: one, or none if it announces nothing. -/
def entriesOf (text : String) : List Entry := ((Entry.ofLine? text).map (·.2)).toList

/-- A journal after some entries. -/
structure Journal.Records (es : List Entry) (j : Journal) : Prop where
  history : j.history = lastOf historyLimit es
  recent : j.recent = lastOf readerLimit es
  total : j.total = es.length

namespace Journal

variable {es : List Entry} {j : Journal}

theorem records_empty : Records [] empty := ⟨rfl, rfl, rfl⟩

theorem records_add (h : Records es j) (e : Entry) : Records (es ++ [e]) (j.add e) where
  history := by simp only [add, h.history, lastOf_lastOf_append]
  recent := by simp only [add, h.recent, lastOf_lastOf_append]
  total := by simp only [add, h.total, List.length_append, List.length_singleton]

theorem records_line (h : Records es j) (text : String) :
    Records (es ++ entriesOf text) (j.line text) := by
  unfold line entriesOf
  cases Entry.ofLine? text with
  | none => simpa using h
  | some announced =>
    obtain ⟨progress, e⟩ := announced
    -- the progress has no part in what is kept
    have hsame : Records es { j with progress := progress } := ⟨h.history, h.recent, h.total⟩
    exact records_add hsame e

/-- What a subscriber is given of the past: its end, as long as asked for and kept. -/
theorem replay_of_records (h : Records es j) (count : Int) :
    j.replay count <:+ es ∧ (j.replay count).length =
      if 0 ≤ count then min (min count.toNat historyLimit) es.length
      else if count = -1 then min historyLimit es.length else 0 := by
  have hkept : j.history <:+ es := by
    rw [h.history]
    exact lastOf_suffix _ _
  have hlen : j.history.length = min historyLimit es.length := by rw [h.history, length_lastOf]
  unfold replay
  by_cases hcount : 0 ≤ count
  · rw [if_pos hcount, if_pos hcount, length_lastOf, hlen]
    exact ⟨(lastOf_suffix _ _).trans hkept, by omega⟩
  · rw [if_neg hcount, if_neg hcount]
    by_cases hall : count = -1
    · rw [if_pos hall, if_pos hall]
      exact ⟨hkept, hlen⟩
    · rw [if_neg hall, if_neg hall]
      exact ⟨List.nil_suffix, rfl⟩

theorem oldest_of_records (h : Records es j) : j.oldest = es.length - readerLimit := by
  rw [oldest, h.total, h.recent, length_lastOf]
  omega

end Journal

/-! ### Readers -/

/-- What is due to a reader with some entries ahead of it. -/
def due (ahead : List Entry) : Option News :=
  if readerLimit < ahead.length then some (.missed (ahead.length - readerLimit))
  else ahead.head?.map .entry

/-- What is ahead of a reader after a read. -/
def remaining (ahead : List Entry) : List Entry :=
  if readerLimit < ahead.length then lastOf readerLimit ahead else ahead.tail

/-- The entries that are ahead of a reader: those of the journal that are not behind it. -/
def Reader.Stands (r : Reader) (ahead : List Entry) (j : Journal) : Prop :=
  ∃ behind, j.Records (behind ++ ahead) ∧ r.position = behind.length

namespace Reader

variable {r : Reader} {ahead : List Entry} {j : Journal}

theorem stands_reader {es : List Entry} (h : j.Records es) : j.reader.Stands [] j :=
  ⟨es, by rwa [List.append_nil], h.total⟩

theorem stands_line (h : r.Stands ahead j) (text : String) :
    r.Stands (ahead ++ entriesOf text) (j.line text) := by
  obtain ⟨behind, hrecords, hposition⟩ := h
  refine ⟨behind, ?_, hposition⟩
  rw [← List.append_assoc]
  exact Journal.records_line hrecords text

/-- A read gives what is due, and nothing exactly if nothing is ahead. -/
theorem stands_read (h : r.Stands ahead j) :
    match j.read r with
    | none => due ahead = none ∧ ahead = []
    | some (news, r') => due ahead = some news ∧ r'.Stands (remaining ahead) j := by
  obtain ⟨behind, hrecords, hposition⟩ := h
  have holdest := Journal.oldest_of_records hrecords
  rw [List.length_append] at holdest
  unfold Journal.read
  by_cases hlag : readerLimit < ahead.length
  · -- the window has moved past the reader
    have hpast : r.position < j.oldest := by omega
    have hgap : j.oldest - r.position = ahead.length - readerLimit := by omega
    rw [if_pos hpast, hgap]
    refine ⟨if_pos hlag, behind ++ ahead.take (ahead.length - readerLimit), ?_, ?_⟩
    · rw [remaining, if_pos hlag, lastOf, List.append_assoc, List.take_append_drop]
      exact hrecords
    · show j.oldest = _
      rw [List.length_append, List.length_take]
      omega
  · -- everything ahead is still in the window, which may begin behind the reader
    have hwithin : ¬r.position < j.oldest := by omega
    rw [if_neg hwithin]
    have hnext : j.recent[r.position - j.oldest]? = ahead.head? := by
      rw [hrecords.recent, lastOf, List.getElem?_drop, List.head?_eq_getElem?, List.length_append]
      rw [List.getElem?_append_right (by omega)]
      congr 1
      omega
    rw [hnext]
    cases ahead with
    | nil => exact ⟨rfl, rfl⟩
    | cons e later =>
      refine ⟨by rw [due, if_neg hlag]; rfl, behind ++ [e], ?_, ?_⟩
      · rw [remaining, if_neg hlag, List.append_assoc]
        exact hrecords
      · show r.position + 1 = _
        rw [hposition, List.length_append, List.length_singleton]

end Reader

/-! ### A journal and its readers -/

/-- A journal and those who read it. -/
structure Audience where
  journal : Journal
  readers : Table Reader

namespace Audience

/-- A journal without entries and without readers. -/
def empty : Audience := ⟨Journal.empty, Table.empty⟩

/-- What can go on with a journal and its readers. -/
inductive Act where
  /-- A line of the setup log comes. -/
  | line (text : String)
  /-- A subscriber comes, and asks for so many past entries. -/
  | subscribe (id : Nat) (count : Int)
  /-- A reader asks for the next thing. -/
  | read (id : Nat)
  deriving DecidableEq

/-- What a reader gets next, if there is something. -/
def read (id : Nat) (a : Audience) : Option News × Audience :=
  match a.readers.get? id with
  | none => (none, a)
  | some r =>
    match a.journal.read r with
    | none => (none, a)
    | some (news, r) => (some news, { a with readers := a.readers.set id r })

/-- The audience after an act. -/
def step (a : Audience) : Act → Audience
  | .line text => { a with journal := a.journal.line text }
  | .subscribe id _ => { a with readers := a.readers.set id a.journal.reader }
  | .read id => (a.read id).2

/-- The audience after some acts. -/
def run (acts : List Act) (a : Audience) : Audience := acts.foldl step a

/-- The entries that some acts produce. -/
def produced (acts : List Act) : List Entry :=
  acts.flatMap fun
    | .line text => entriesOf text
    | _ => []

/-- All that a reader gets during some acts. -/
def got (id : Nat) : List Act → Audience → List News
  | [], _ => []
  | act :: later, a =>
    (if act = .read id then (a.read id).1.toList else []) ++ got id later (a.step act)

/-- The entries that are ahead of a reader of the audience. -/
def Ahead (id : Nat) (ahead : List Entry) (a : Audience) : Prop :=
  ∃ r, a.readers.get? id = some r ∧ r.Stands ahead a.journal

section
variable {a : Audience} {id : Nat} {ahead es : List Entry}

theorem records_step (h : a.journal.Records es) (act : Act) :
    (a.step act).journal.Records (es ++ produced [act]) := by
  cases act with
  | line text => simpa [produced, step] using Journal.records_line h text
  | subscribe id count => simpa [produced, step] using h
  | read id =>
    -- a read only moves its reader
    have hsame : (a.read id).2.journal = a.journal := by
      unfold read
      split
      · rfl
      · split <;> rfl
    show (a.read id).2.journal.Records _
    rw [hsame]
    simpa [produced] using h

theorem produced_cons (act : Act) (acts : List Act) :
    produced (act :: acts) = produced [act] ++ produced acts := by
  simp [produced]

theorem records_run (h : a.journal.Records es) (acts : List Act) :
    (a.run acts).journal.Records (es ++ produced acts) := by
  induction acts generalizing a es with
  | nil => simpa [produced, run] using h
  | cons act later ih =>
    rw [produced_cons, ← List.append_assoc]
    exact ih (records_step h act)

theorem ahead_line (h : Ahead id ahead a) (text : String) :
    Ahead id (ahead ++ entriesOf text) (a.step (.line text)) := by
  obtain ⟨r, hr, hstands⟩ := h
  exact ⟨r, hr, Reader.stands_line hstands text⟩

theorem ahead_subscribe (h : a.journal.Records es) (id : Nat) (count : Int) :
    Ahead id [] (a.step (.subscribe id count)) :=
  ⟨a.journal.reader, Table.get?_set_self _ _ _, Reader.stands_reader h⟩

theorem ahead_subscribe_other (h : Ahead id ahead a) {other : Nat} (hne : id ≠ other)
    (count : Int) : Ahead id ahead (a.step (.subscribe other count)) := by
  obtain ⟨r, hr, hstands⟩ := h
  exact ⟨r, (Table.get?_set_other _ _ hne).trans hr, hstands⟩

/-- A reader gets what is due to it, and goes on behind that. -/
theorem ahead_read (h : Ahead id ahead a) :
    (a.read id).1 = due ahead ∧ Ahead id (remaining ahead) (a.read id).2 := by
  obtain ⟨r, hr, hstands⟩ := h
  have hread := Reader.stands_read hstands
  unfold read
  rw [hr]
  dsimp only
  cases hnews : a.journal.read r with
  | none =>
    rw [hnews] at hread
    obtain ⟨hdue, rfl⟩ := hread
    exact ⟨hdue.symm, r, hr, hstands⟩
  | some result =>
    obtain ⟨news, r'⟩ := result
    rw [hnews] at hread
    obtain ⟨hdue, hstands'⟩ := hread
    exact ⟨hdue.symm, r', Table.get?_set_self _ _ _, hstands'⟩

theorem ahead_read_other (h : Ahead id ahead a) {other : Nat} (hne : id ≠ other) :
    Ahead id ahead (a.read other).2 := by
  obtain ⟨r, hr, hstands⟩ := h
  unfold read
  split
  · exact ⟨r, hr, hstands⟩
  · split
    · exact ⟨r, hr, hstands⟩
    · exact ⟨r, (Table.get?_set_other _ _ hne).trans hr, hstands⟩

theorem got_eq_nil {acts : List Act} (h : Act.read id ∉ acts) (a : Audience) :
    got id acts a = [] := by
  induction acts generalizing a with
  | nil => rfl
  | cons act later ih =>
    rw [List.mem_cons, not_or] at h
    rw [got, if_neg (Ne.symm h.1), ih h.2, List.nil_append]

end

/-! ### What a reader has got -/

/-- What a reader got tells of these entries, in order: each is given, or counted among missed ones
that follow one another. -/
inductive Spells : List News → List Entry → Prop where
  | nothing : Spells [] []
  | entry (e : Entry) {news : List News} {es : List Entry} (h : Spells news es) :
    Spells (.entry e :: news) (e :: es)
  | missed (gap : List Entry) {news : List News} {es : List Entry} (h : Spells news es) :
    Spells (.missed gap.length :: news) (gap ++ es)

/-- What is due, and then what is told of the rest, tells of everything ahead. -/
theorem spells_due {ahead : List Entry} {news : List News} {seen left : List Entry}
    (later : List Entry) (hsplit : remaining ahead ++ later = seen ++ left) (h : Spells news seen) :
    ∃ seen', ahead ++ later = seen' ++ left ∧ Spells ((due ahead).toList ++ news) seen' := by
  unfold due remaining at *
  by_cases hlag : readerLimit < ahead.length
  · rw [if_pos hlag] at hsplit ⊢
    -- the entries in front of the last ones are the gap
    have hgap : (ahead.take (ahead.length - readerLimit)).length = ahead.length - readerLimit :=
      List.length_take_of_le (Nat.sub_le _ _)
    refine ⟨ahead.take (ahead.length - readerLimit) ++ seen, ?_, ?_⟩
    · rw [List.append_assoc, ← hsplit, lastOf, ← List.append_assoc, List.take_append_drop]
    · have hspells := Spells.missed (ahead.take (ahead.length - readerLimit)) h
      rwa [hgap] at hspells
  · rw [if_neg hlag] at hsplit ⊢
    cases ahead with
    | nil => exact ⟨seen, hsplit, h⟩
    | cons e others => exact ⟨e :: seen, congrArg (e :: ·) hsplit, Spells.entry e h⟩

theorem follows_run {a : Audience} {id : Nat} {ahead : List Entry} (h : Ahead id ahead a)
    {acts : List Act} (hkept : ∀ count, Act.subscribe id count ∉ acts) :
    ∃ seen left, ahead ++ produced acts = seen ++ left ∧ Spells (got id acts a) seen ∧
      Ahead id left (a.run acts) := by
  induction acts generalizing a ahead with
  | nil => exact ⟨[], ahead, by simp [produced], .nothing, h⟩
  | cons act later ih =>
    have hlater : ∀ count, Act.subscribe id count ∉ later := by
      intro count hmem
      exact hkept count (List.mem_cons_of_mem _ hmem)
    rw [produced_cons]
    cases act with
    | line text =>
      -- the entry of the line is put behind those ahead, and seen later if at all
      obtain ⟨seen, left, hsplit, hspells, hleft⟩ := ih (ahead_line h text) hlater
      exact ⟨seen, left, by simpa [produced] using hsplit, hspells, hleft⟩
    | subscribe other count =>
      have hne : id ≠ other := by
        intro he
        subst he
        exact hkept count List.mem_cons_self
      obtain ⟨seen, left, hsplit, hspells, hleft⟩ := ih (ahead_subscribe_other h hne count) hlater
      exact ⟨seen, left, by simpa [produced] using hsplit, hspells, hleft⟩
    | read other =>
      by_cases he : other = id
      · subst he
        obtain ⟨hdue, hrest⟩ := ahead_read h
        obtain ⟨seen, left, hsplit, hspells, hleft⟩ := ih hrest hlater
        obtain ⟨seen', hsplit', hspells'⟩ := spells_due _ hsplit hspells
        refine ⟨seen', left, by simpa [produced] using hsplit', ?_, hleft⟩
        rw [got, if_pos rfl, hdue]
        exact hspells'
      · obtain ⟨seen, left, hsplit, hspells, hleft⟩ := ih (ahead_read_other h (Ne.symm he)) hlater
        refine ⟨seen, left, by simpa [produced] using hsplit, ?_, hleft⟩
        rw [got, if_neg (by simpa using he)]
        exact hspells

/-- A subscriber that asks for `count` past entries after any acts, and whatever goes on afterwards,
with any number of other readers, as long as it does not subscribe anew:

* it is given the end of the entries so far: at most `count` and at most 100 of them, at most 100 for
  `-1`, and none for any other negative number;
* the entries since then are those that it has got, in order, a report of missed entries standing for
  as many of them as it says, followed by those that are ahead of it;
* the next thing it gets is the first entry ahead, and nothing if there is none. It is told that it
  missed some only when more than 128 are ahead: all but the last 128, with the first of which it
  goes on. -/
theorem reader_misses_nothing (before after : List Act) (id : Nat) (count : Int)
    (hkept : ∀ other, Act.subscribe id other ∉ after) :
    let past := produced before
    let replay := (empty.run before).journal.replay count
    let begun := (empty.run before).step (.subscribe id count)
    let a := begun.run after
    (replay <:+ past ∧ replay.length =
      if 0 ≤ count then min (min count.toNat 100) past.length
      else if count = -1 then min 100 past.length else 0) ∧
    ∃ seen ahead, produced after = seen ++ ahead ∧ Spells (got id after begun) seen ∧
      (a.read id).1 =
        (if 128 < ahead.length then some (.missed (ahead.length - 128))
        else ahead.head?.map .entry) ∧
      (128 < ahead.length → ((a.read id).2.read id).1 =
        (ahead.drop (ahead.length - 128)).head?.map .entry) := by
  intro past replay begun a
  have hrecords : (empty.run before).journal.Records past := by
    simpa using records_run (a := empty) Journal.records_empty before
  -- nothing is ahead of a reader when it begins
  obtain ⟨seen, ahead, hsplit, hspells, hahead⟩ :=
    follows_run (ahead_subscribe hrecords id count) hkept
  obtain ⟨hdue, hrest⟩ := ahead_read hahead
  refine ⟨Journal.replay_of_records hrecords count, seen, ahead, hsplit, hspells, hdue, ?_⟩
  intro hlag
  have hpast : readerLimit < ahead.length := hlag
  rw [remaining, if_pos hpast] at hrest
  -- after the report just as many are ahead as are kept
  have hlen : (lastOf readerLimit ahead).length = readerLimit := by
    rw [length_lastOf]
    exact Nat.min_eq_left (Nat.le_of_lt hlag)
  rw [(ahead_read hrest).1, due, if_neg (by omega)]
  rfl

/-- A reader that falls behind by two entries is told so and goes on with the third. -/
theorem reader_misses_nothing_lagging :
    let begun := (empty.run [.line "Setup wallets"]).step (.subscribe 7 (-1))
    let a := begun.run (List.replicate 130 (.line "Create wallets"))
    (empty.run [.line "Setup wallets"]).journal.replay (-1) = [.plain "Setup wallets"] ∧
    (a.read 7).1 = some (.missed 2) ∧
    ((a.read 7).2.read 7).1 = some (.entry (.plain "Create wallets")) := by
  intro begun a
  have hpast : produced [.line "Setup wallets"] = [.plain "Setup wallets"] := by decide
  have hone : entriesOf "Create wallets" = [.plain "Create wallets"] := by decide
  have hproduced : produced (List.replicate 130 (.line "Create wallets")) =
      List.replicate 130 (.plain "Create wallets") := by
    simp [produced, hone]
  obtain ⟨⟨hsuffix, hlen⟩, seen, ahead, hsplit, hspells, hnext, hthen⟩ :=
    reader_misses_nothing [.line "Setup wallets"] (List.replicate 130 (.line "Create wallets")) 7
      (-1) (by simp)
  -- nothing has been read yet, so everything is ahead
  rw [got_eq_nil (by simp)] at hspells
  cases hspells
  rw [hproduced, List.nil_append] at hsplit
  subst hsplit
  rw [hpast] at hsuffix hlen
  rw [List.length_replicate] at hnext hthen
  refine ⟨hsuffix.eq_of_length hlen, ?_, ?_⟩
  · rw [hnext]
    rfl
  · rw [hthen (by decide), List.drop_replicate]
    rfl

end Audience

end NodeStack.Setup
