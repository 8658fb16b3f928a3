import NodeStack.Api.Handler
import NodeStack.Proofs.Api.SetupStream
import NodeStack.Proofs.Setup.Journal
import NodeStack.Proofs.Text.Split

/-!
# `NodeStack.Proofs.Api.Viewer`: what a client is told of the setup

A client that asks for the setup is sent what is kept of it and then what comes. It may take one
entry after the other, or all that can be sent at once.

* `Viewer`: a journal, a client that reads it, and what the client has been sent.
* `Serves`: what of all entries has been sent, and where the rest is. `serves_line`, `serves_take`
  and `serves_pull` say that each act keeps it, and `serves_run` that any run does in which the
  client keeps up (`KeepsUp`).
* `Serves.begins`, `Serves.all_sent`: what has been sent begins what there is to tell, and is all of
  it once nothing more can be sent.
* `keepsUp_start`: a client cannot fall behind in fewer acts than entries are kept for it.
* `viewer_told_up_to_done`: the client is told what there is to tell, nothing else, and the end.
-/

set_option autoImplicit false

namespace NodeStack.Api

open Setup (Entry Journal News Reader readerLimit historyLimit lastOf)

/-! ### A client and what it has been sent -/

/-- A journal, a client that reads it, and the body that the client has got so far. -/
structure Viewer where
  journal : Journal
  stream : SetupStream
  body : String

namespace Viewer

open SetupStream (line upToDone upToDone_append_of_any upToDone_append_of_not_any untilDone_eq)

/-- A client that has just asked. -/
def start (j : Journal) : Viewer := ⟨j, SetupStream.start j, ""⟩

/-- What can go on between a journal and a client. -/
inductive Act where
  /-- A line of the setup log comes. -/
  | line (text : String)
  /-- The client takes the next entry, if there is one. -/
  | take
  /-- The client takes all that there is. -/
  | pull
  deriving DecidableEq

/-- The client and the journal after an act. -/
def step (v : Viewer) : Act → Viewer
  | .line text => { v with journal := v.journal.line text }
  | .take =>
    let (e, stream) := v.stream.next v.journal
    { v with stream := stream, body := v.body ++ (e.map line).getD "" }
  | .pull =>
    let (lines, stream) := v.stream.pull v.journal
    { v with stream := stream, body := v.body ++ String.join lines }

/-- The client and the journal after some acts. -/
def run (acts : List Act) (v : Viewer) : Viewer := acts.foldl step v

/-- The entries that come during some acts. -/
def announced (acts : List Act) : List Entry :=
  acts.flatMap fun
    | .line text => Setup.entriesOf text
    | _ => []

/-- No more entries are unread than are kept for readers. -/
def Current (v : Viewer) : Prop := v.journal.total ≤ v.stream.reader.position + readerLimit

/-- The client does not fall behind: whenever it takes something, all that it has not read is still
there. -/
def KeepsUp : List Act → Viewer → Prop
  | [], _ => True
  | act :: later, v =>
    (act = .take ∨ act = .pull → v.stream.ended = false → v.Current) ∧ KeepsUp later (v.step act)

/-- What of all entries a client has been sent. While the stream goes on, the rest is where the
stream looks for it; once it has ended, everything up to the end of the setup has been sent. -/
structure Serves (all sent : List Entry) (v : Viewer) : Prop where
  body : v.body.toList = sent.flatMap fun e => (line e).toList
  goes : v.stream.ended = false → ∃ ahead, v.stream.reader.Stands ahead v.journal ∧
    all = sent ++ (v.stream.past ++ ahead) ∧ sent.any (·.isDone) = false
  told : v.stream.ended = true → sent = upToDone all ∧ all.any (·.isDone) = true

section
variable {all sent ahead : List Entry} {e : Entry} {later : List Entry} {r : Reader} {j : Journal}
  {v : Viewer}

/-! ### Reading a journal -/

theorem read_of_stands_nil (h : r.Stands [] j) : j.read r = none := by
  have hread := Reader.stands_read h
  cases hr : j.read r with
  | none => rfl
  | some found =>
    rw [hr] at hread
    exact nomatch hread.1

theorem read_of_stands_cons (h : r.Stands (e :: later) j) (hkept : later.length < readerLimit) :
    ∃ r', j.read r = some (.entry e, r') ∧ r'.Stands later j := by
  have hread := Reader.stands_read h
  have hlag : ¬readerLimit < (e :: later).length := by
    rw [List.length_cons]
    omega
  cases hr : j.read r with
  | none =>
    rw [hr] at hread
    exact nomatch hread.2
  | some found =>
    obtain ⟨news, r'⟩ := found
    rw [hr, Setup.due, if_neg hlag, Setup.remaining, if_neg hlag] at hread
    obtain ⟨hnews, hstands⟩ := hread
    cases hnews
    exact ⟨r', rfl, hstands⟩

/-- A reader that is behind is told so, and then gets what is kept. -/
theorem read_of_stands_lagging (h : r.Stands ahead j) (hlag : readerLimit < ahead.length) :
    ∃ count r', j.read r = some (.missed count, r') ∧ r'.Stands (lastOf readerLimit ahead) j := by
  have hread := Reader.stands_read h
  cases hr : j.read r with
  | none =>
    rw [hr] at hread
    rw [hread.2] at hlag
    exact nomatch hlag
  | some found =>
    obtain ⟨news, r'⟩ := found
    rw [hr, Setup.due, if_pos hlag, Setup.remaining, if_pos hlag] at hread
    obtain ⟨hnews, hstands⟩ := hread
    cases hnews
    exact ⟨_, r', rfl, hstands⟩

theorem readUpTo_of_stands (h : r.Stands ahead j) (hkept : ahead.length ≤ readerLimit) {fuel : Nat}
    (hfuel : ahead.length ≤ fuel) :
    ∃ r', j.readUpTo fuel r = (ahead.map .entry, r') ∧ r'.Stands [] j := by
  induction ahead generalizing r fuel with
  | nil =>
    refine ⟨r, ?_, h⟩
    cases fuel with
    | zero => rfl
    | succ fuel =>
      rw [Journal.readUpTo, read_of_stands_nil h]
      rfl
  | cons e later ih =>
    rw [List.length_cons] at hkept hfuel
    obtain ⟨r', hread, hstands⟩ := read_of_stands_cons h (by omega)
    obtain ⟨fuel, rfl⟩ : ∃ n, fuel = n + 1 := ⟨fuel - 1, by omega⟩
    obtain ⟨r'', hrest, hnone⟩ := ih hstands (by omega) (by omega : later.length ≤ fuel)
    refine ⟨r'', ?_, hnone⟩
    rw [Journal.readUpTo, hread]
    dsimp only
    rw [hrest, List.map_cons]

/-- All that is kept is read at once, and it is all that is ahead if the reader is not behind. -/
theorem readAll_of_stands (h : r.Stands ahead j) :
    ∃ news r', j.readAll r = (news, r') ∧ r'.Stands [] j ∧
      (ahead.length ≤ readerLimit → news = ahead.map .entry) := by
  have hrecent : j.recent.length = min readerLimit (r.position + ahead.length) := by
    obtain ⟨behind, hrecords, hposition⟩ := h
    rw [hrecords.recent, Setup.length_lastOf, List.length_append, hposition]
  unfold Journal.readAll
  by_cases hlag : readerLimit < ahead.length
  · obtain ⟨count, r', hread, hstands⟩ := read_of_stands_lagging h hlag
    have hlen : (lastOf readerLimit ahead).length = readerLimit := by
      rw [Setup.length_lastOf]
      omega
    have hfuel : (lastOf readerLimit ahead).length ≤ j.recent.length := by omega
    obtain ⟨r'', hrest, hnone⟩ := readUpTo_of_stands hstands (Nat.le_of_eq hlen) hfuel
    refine ⟨.missed count :: (lastOf readerLimit ahead).map .entry, r'', ?_, hnone, ?_⟩
    · rw [Journal.readUpTo, hread]
      dsimp only
      rw [hrest]
    · intro hkept
      omega
  · obtain ⟨r', hread, hnone⟩ :=
      readUpTo_of_stands h (Nat.le_of_not_lt hlag) (by omega : _ ≤ j.recent.length + 1)
    refine ⟨ahead.map .entry, r', hread, hnone, ?_⟩
    intro _
    rfl

theorem entriesOf_entries (es : List Entry) : SetupStream.entriesOf (es.map .entry) = es := by
  rw [SetupStream.entriesOf, List.filterMap_map]
  exact List.filterMap_some

/-- No more entries are ahead of a client that is current than are kept for it. -/
theorem length_ahead_of_current (h : v.stream.reader.Stands ahead v.journal)
    (hcurrent : v.Current) : ahead.length ≤ readerLimit := by
  obtain ⟨behind, hrecords, hposition⟩ := h
  rw [Current, hrecords.total, List.length_append, hposition] at hcurrent
  omega

/-! ### What can be sent next -/

variable {s : SetupStream}

/-- The first entry is the next that can be sent, and the others are left. -/
theorem next_of_stands_cons (hgoes : s.ended = false) (h : s.reader.Stands ahead j)
    (hkept : ahead.length ≤ readerLimit) {rest : List Entry}
    (hfirst : s.past ++ ahead = e :: rest) :
    ∃ past r' ahead', s.next j = (some e, ⟨past, r', e.isDone⟩) ∧ r'.Stands ahead' j ∧
      rest = past ++ ahead' := by
  obtain ⟨past, reader, ended⟩ := s
  dsimp only at hgoes h hfirst
  subst hgoes
  cases past with
  | cons e' past =>
    rw [List.cons_append] at hfirst
    cases hfirst
    exact ⟨past, reader, ahead, rfl, h, rfl⟩
  | nil =>
    rw [List.nil_append] at hfirst
    subst hfirst
    obtain ⟨r', hread, hstands⟩ := read_of_stands_cons h hkept
    refine ⟨[], r', rest, ?_, hstands, rfl⟩
    rw [SetupStream.next, if_neg Bool.false_ne_true]
    dsimp only
    rw [hread]

theorem next_of_stands_nil (hpast : s.past = []) (h : s.reader.Stands [] j) :
    s.next j = (none, s) := by
  rw [SetupStream.next]
  split
  · rfl
  · rw [hpast]
    dsimp only
    rw [read_of_stands_nil h]

/-- A stream that goes on and has nothing to send has sent everything. -/
theorem nothing_left_of_next (hgoes : s.ended = false) (h : s.reader.Stands ahead j)
    (hnone : (s.next j).1 = none) : s.past = [] ∧ ahead = [] := by
  obtain ⟨past, reader, ended⟩ := s
  dsimp only at hgoes h
  subst hgoes
  rw [SetupStream.next, if_neg Bool.false_ne_true] at hnone
  cases past with
  | cons e past => cases hnone
  | nil =>
    refine ⟨rfl, ?_⟩
    dsimp only at hnone
    by_cases hlag : readerLimit < ahead.length
    · -- behind the report there is an entry
      obtain ⟨count, r', hread, hstands⟩ := read_of_stands_lagging h hlag
      have hlen : (lastOf readerLimit ahead).length = readerLimit := by
        rw [Setup.length_lastOf]
        omega
      cases hkept : lastOf readerLimit ahead with
      | nil =>
        rw [hkept] at hlen
        cases hlen
      | cons e later =>
        rw [hkept] at hlen hstands
        rw [List.length_cons] at hlen
        obtain ⟨r'', hentry, -⟩ := read_of_stands_cons hstands (by omega)
        rw [hread] at hnone
        dsimp only at hnone
        rw [hentry] at hnone
        cases hnone
    · cases ahead with
      | nil => rfl
      | cons e later =>
        rw [List.length_cons] at hlag
        obtain ⟨r', hread, -⟩ := read_of_stands_cons h (by omega)
        rw [hread] at hnone
        cases hnone

/-! ### What has been sent -/

theorem serves_start {es : List Entry} (h : j.Records es) :
    Serves (lastOf historyLimit es) [] (start j) where
  body := rfl
  goes := by
    intro _
    refine ⟨[], Reader.stands_reader h, ?_, rfl⟩
    rw [List.nil_append, List.append_nil, ← h.history]
    rfl
  told := nofun

theorem serves_line (h : Serves all sent v) (text : String) :
    Serves (all ++ Setup.entriesOf text) sent (v.step (.line text)) where
  body := h.body
  goes := by
    intro hgoes
    obtain ⟨ahead, hstands, hall, hsent⟩ := h.goes hgoes
    refine ⟨ahead ++ Setup.entriesOf text, Reader.stands_line hstands text, ?_, hsent⟩
    rw [hall, List.append_assoc, List.append_assoc]
    rfl
  told := by
    intro hover
    obtain ⟨hsent, hdone⟩ := h.told hover
    refine ⟨?_, ?_⟩
    · rw [upToDone_append_of_any hdone, hsent]
    · rw [List.any_append, hdone, Bool.true_or]

/-- What is sent of the rest is put behind what has been sent before. -/
theorem serves_more (h : Serves all sent v) (hgoes : v.stream.ended = false)
    (more rest : List Entry) (hall : all = sent ++ (more ++ rest)) {stream : SetupStream}
    (hmore : more = upToDone more) (hended : stream.ended = more.any (·.isDone)) {body : String}
    (hbody : body.toList = more.flatMap fun e => (line e).toList)
    (hstands : stream.reader.Stands ahead v.journal)
    (hrest : stream.ended = false → rest = stream.past ++ ahead) :
    Serves all (sent ++ more) { v with stream := stream, body := v.body ++ body } := by
  obtain ⟨-, -, -, hsent⟩ := h.goes hgoes
  refine ⟨?_, ?_, ?_⟩
  · rw [String.toList_append, h.body, hbody, List.flatMap_append]
  · intro hopen
    refine ⟨ahead, hstands, ?_, ?_⟩
    · rw [hall, hrest hopen, List.append_assoc]
    · rw [List.any_append, hsent, ← hended]
      exact hopen
  · intro hover
    have hdone : more.any (·.isDone) = true := hended.symm.trans hover
    refine ⟨?_, ?_⟩
    · rw [hall, upToDone_append_of_not_any hsent, upToDone_append_of_any hdone, ← hmore]
    · rw [hall, List.any_append, List.any_append, hdone, Bool.true_or, Bool.or_true]

theorem serves_take (h : Serves all sent v) (hkept : v.stream.ended = false → v.Current) :
    ∃ more, Serves all (sent ++ more) (v.step .take) := by
  have hsame (hnext : v.stream.next v.journal = (none, v.stream)) :
      Serves all (sent ++ []) (v.step .take) := by
    rw [List.append_nil, step, hnext]
    simpa using h
  cases hended : v.stream.ended with
  | true =>
    refine ⟨[], hsame ?_⟩
    rw [SetupStream.next, if_pos hended]
  | false =>
    obtain ⟨ahead, hstands, hall, -⟩ := h.goes hended
    have hlen := length_ahead_of_current hstands (hkept hended)
    cases hleft : v.stream.past ++ ahead with
    | nil =>
      obtain ⟨hpast, rfl⟩ := List.append_eq_nil_iff.mp hleft
      exact ⟨[], hsame (next_of_stands_nil hpast hstands)⟩
    | cons e rest =>
      obtain ⟨past, r', ahead', hnext, hstands', hrest⟩ :=
        next_of_stands_cons hended hstands hlen hleft
      refine ⟨[e], ?_⟩
      rw [step, hnext]
      refine serves_more h hended [e] rest ?_ ?_ ?_ ?_ hstands' ?_
      · rw [hall, hleft]
        rfl
      · rw [SetupStream.upToDone_cons]
        split <;> rfl
      · exact (Bool.or_false _).symm
      · exact (List.append_nil _).symm
      · intro _
        exact hrest

theorem pull_of_stands (hgoes : s.ended = false) (h : s.reader.Stands ahead j)
    (hkept : ahead.length ≤ readerLimit) :
    ∃ r', r'.Stands [] j ∧ s.pull j = ((upToDone (s.past ++ ahead)).map line,
      ⟨[], r', (s.past ++ ahead).any (·.isDone)⟩) := by
  obtain ⟨news, r', hread, hnone, hnews⟩ := readAll_of_stands h
  refine ⟨r', hnone, ?_⟩
  rw [SetupStream.pull, if_neg (by rw [hgoes]; exact Bool.false_ne_true), SetupStream.available,
    hread, hnews hkept]
  dsimp only
  rw [entriesOf_entries, untilDone_eq]

theorem serves_pull (h : Serves all sent v) (hkept : v.stream.ended = false → v.Current) :
    ∃ more, Serves all (sent ++ more) (v.step .pull) := by
  cases hended : v.stream.ended with
  | true =>
    refine ⟨[], ?_⟩
    rw [List.append_nil, step, SetupStream.pull, if_pos hended]
    simpa [String.join] using h
  | false =>
    obtain ⟨ahead, hstands, hall, -⟩ := h.goes hended
    obtain ⟨r', hnone, hpull⟩ :=
      pull_of_stands hended hstands (length_ahead_of_current hstands (hkept hended))
    obtain ⟨rest, hrest⟩ := SetupStream.upToDone_prefix (v.stream.past ++ ahead)
    refine ⟨upToDone (v.stream.past ++ ahead), ?_⟩
    rw [step, hpull]
    refine serves_more h hended _ rest ?_ ?_ ?_ ?_ hnone ?_
    · rw [hall, hrest]
    · exact (SetupStream.upToDone_upToDone _).symm
    · exact (SetupStream.any_upToDone _).symm
    · rw [String.toList_join, List.flatMap_map]
    · intro hopen
      rw [SetupStream.upToDone_of_not_any hopen] at hrest
      exact List.append_right_eq_self.mp hrest

theorem serves_step (h : Serves all sent v) (act : Act)
    (hkept : act = .take ∨ act = .pull → v.stream.ended = false → v.Current) :
    ∃ more, Serves (all ++ announced [act]) (sent ++ more) (v.step act) := by
  cases act with
  | line text =>
    refine ⟨[], ?_⟩
    simpa [announced] using serves_line h text
  | take => simpa [announced] using serves_take h (hkept (.inl rfl))
  | pull => simpa [announced] using serves_pull h (hkept (.inr rfl))

theorem announced_cons (act : Act) (acts : List Act) :
    announced (act :: acts) = announced [act] ++ announced acts := by
  simp [announced]

theorem serves_run (h : Serves all sent v) {acts : List Act} (hkept : KeepsUp acts v) :
    ∃ more, Serves (all ++ announced acts) (sent ++ more) (v.run acts) := by
  induction acts generalizing all sent v with
  | nil => exact ⟨[], by simpa [announced, run] using h⟩
  | cons act later ih =>
    obtain ⟨hnow, hlater⟩ := hkept
    obtain ⟨more, hstep⟩ := serves_step h act hnow
    obtain ⟨others, hrun⟩ := ih hstep hlater
    refine ⟨more ++ others, ?_⟩
    rw [announced_cons, ← List.append_assoc, ← List.append_assoc]
    exact hrun

/-- What has been sent begins what there is to tell. -/
theorem Serves.begins (h : Serves all sent v) : sent <+: upToDone all := by
  cases hended : v.stream.ended with
  | true => exact (h.told hended).1 ▸ List.prefix_rfl
  | false =>
    obtain ⟨ahead, -, hall, hsent⟩ := h.goes hended
    rw [hall, upToDone_append_of_not_any hsent]
    exact List.prefix_append _ _

/-- A client for which there is nothing to send has been sent all that there is to tell. -/
theorem Serves.all_sent (h : Serves all sent v) (hnone : (v.stream.next v.journal).1 = none) :
    sent = upToDone all ∧ v.stream.ended = all.any (·.isDone) := by
  cases hended : v.stream.ended with
  | true =>
    obtain ⟨hsent, hdone⟩ := h.told hended
    exact ⟨hsent, hdone.symm⟩
  | false =>
    obtain ⟨ahead, hstands, hall, hsent⟩ := h.goes hended
    obtain ⟨hpast, rfl⟩ := nothing_left_of_next hended hstands hnone
    rw [hpast, List.append_nil, List.append_nil] at hall
    subst hall
    exact ⟨(SetupStream.upToDone_of_not_any hsent).symm, hsent.symm⟩

/-- Nothing can be sent right after everything has been. -/
theorem next_after_pull (h : Serves all sent v) :
    ((v.step .pull).stream.next (v.step .pull).journal).1 = none := by
  cases hended : v.stream.ended with
  | true =>
    have hstream : (v.step .pull).stream = v.stream := by
      rw [step, SetupStream.pull, if_pos hended]
    rw [hstream, SetupStream.next, if_pos hended]
  | false =>
    obtain ⟨ahead, hstands, -, -⟩ := h.goes hended
    obtain ⟨news, r', hread, hnone, -⟩ := readAll_of_stands hstands
    have hstream : (v.step .pull).stream.past = [] ∧ (v.step .pull).stream.reader = r' := by
      rw [step, SetupStream.pull, if_neg (by rw [hended]; exact Bool.false_ne_true),
        SetupStream.available, hread]
      exact ⟨rfl, rfl⟩
    have hjournal : (v.step .pull).journal = v.journal := rfl
    rw [← hstream.2] at hnone
    rw [hjournal, next_of_stands_nil hstream.1 hnone]

end

/-! ### Keeping up -/

section
variable {v : Viewer}

theorem position_le_read {r r' : Reader} {j : Journal} {news : News}
    (h : j.read r = some (news, r')) : r.position ≤ r'.position := by
  unfold Journal.read at h
  split at h
  · next hlag =>
    cases h
    exact Nat.le_of_lt hlag
  · obtain ⟨e, -, he⟩ := Option.map_eq_some_iff.mp h
    cases he
    exact Nat.le_succ _

theorem position_le_readUpTo (fuel : Nat) (r : Reader) (j : Journal) :
    r.position ≤ (j.readUpTo fuel r).2.position := by
  induction fuel generalizing r with
  | zero => exact Nat.le_refl _
  | succ fuel ih =>
    unfold Journal.readUpTo
    split
    · exact Nat.le_refl _
    · next r' hread => exact Nat.le_trans (position_le_read hread) (ih r')

theorem position_le_next (j : Journal) (s : SetupStream) :
    s.reader.position ≤ (s.next j).2.reader.position := by
  unfold SetupStream.next
  split
  · exact Nat.le_refl _
  · split
    · exact Nat.le_refl _
    · split
      · exact Nat.le_refl _
      · next hread => exact position_le_read hread
      · next hread =>
        split
        · next hagain => exact Nat.le_trans (position_le_read hread) (position_le_read hagain)
        · exact position_le_read hread

theorem position_le_pull (j : Journal) (s : SetupStream) :
    s.reader.position ≤ (s.pull j).2.reader.position := by
  unfold SetupStream.pull
  split
  · exact Nat.le_refl _
  · exact position_le_readUpTo (j.recent.length + 1) s.reader j

theorem total_line_le (j : Journal) (text : String) : (j.line text).total ≤ j.total + 1 := by
  unfold Journal.line
  split
  · exact Nat.le_succ _
  · exact Nat.le_refl _

/-- With each act at most one entry more is unread. -/
theorem unread_step (v : Viewer) (act : Act) :
    (v.step act).journal.total ≤ v.journal.total + 1 ∧
      v.stream.reader.position ≤ (v.step act).stream.reader.position := by
  cases act with
  | line text => exact ⟨total_line_le _ _, Nat.le_refl _⟩
  | take => exact ⟨Nat.le_succ _, position_le_next _ _⟩
  | pull => exact ⟨Nat.le_succ _, position_le_pull _ _⟩

theorem keepsUp_of_few {acts : List Act}
    (h : v.journal.total + acts.length ≤ v.stream.reader.position + readerLimit) :
    KeepsUp acts v := by
  induction acts generalizing v with
  | nil => trivial
  | cons act later ih =>
    rw [List.length_cons] at h
    obtain ⟨htotal, hposition⟩ := unread_step v act
    refine ⟨fun _ _ => ?_, ih (by omega)⟩
    rw [Current]
    omega

/-- A client cannot fall behind in fewer acts than entries are kept for it. -/
theorem keepsUp_start (j : Journal) {acts : List Act} (h : acts.length ≤ readerLimit) :
    KeepsUp acts (start j) :=
  keepsUp_of_few (Nat.add_le_add_left h _)

end

/-! ### What a client is told -/

/-- The journal after some lines of the setup log. -/
def journalOf (lines : List String) : Journal :=
  lines.foldl (fun j text => j.line text) Journal.empty

theorem records_lines {es : List Entry} {j : Journal} (h : j.Records es) (lines : List String) :
    (lines.foldl (fun j text => j.line text) j).Records (es ++ lines.flatMap Setup.entriesOf) := by
  induction lines generalizing es j with
  | nil => simpa using h
  | cons text later ih =>
    rw [List.flatMap_cons, ← List.append_assoc]
    exact ih (Journal.records_line h text)

theorem records_journalOf (lines : List String) :
    (journalOf lines).Records (lines.flatMap Setup.entriesOf) :=
  records_lines Journal.records_empty lines

theorem ordered_entriesOf {text : String} {e : Entry} (h : e ∈ Setup.entriesOf text) :
    e.Ordered := by
  rw [Setup.entriesOf, Option.mem_toList, Option.map_eq_some_iff] at h
  obtain ⟨⟨progress, e'⟩, hline, rfl⟩ := h
  exact Entry.ordered_of_ofLine? hline

theorem ordered_announced {acts : List Act} {e : Entry} (h : e ∈ announced acts) : e.Ordered := by
  obtain ⟨act, -, he⟩ := List.mem_flatMap.mp h
  cases act with
  | line text => exact ordered_entriesOf he
  | take => cases he
  | pull => cases he

/-- A client that asks for the setup after some lines of its log, and takes what comes together with
any lines, at any times, without falling behind. All entries here are those that were kept when it
asked, at most 100, and those that have come since, and what there is to tell of them goes up to the
first that says that the setup is done, or to the last if none does.

* The stream is the body of the response to the request.
* At any time the body tells the first of what there is to tell. Its lines are one for each of these
  entries, and each line gives back its entry, whatever texts are in it.
* The stream has ended only when everything has been told and the setup is done.
* When there is nothing to send now, everything has been told, and the stream has ended exactly if
  one of all entries says that the setup is done.
* After the client has taken all that there is, there is nothing to send. -/
theorem viewer_told_up_to_done (before : List String) (acts : List Act)
    (hkept : KeepsUp acts (start (journalOf before))) :
    let all := lastOf 100 (before.flatMap Setup.entriesOf) ++ announced acts
    let v := (start (journalOf before)).run acts
    (∀ view : View, view.journal = some (journalOf before) →
      (setupStream view).body = .setup (start (journalOf before)).stream) ∧
    (∃ sent, Tells v.body sent ∧ sent <+: upToDone all ∧
      (v.stream.ended = true → sent = upToDone all ∧ all.any (·.isDone) = true)) ∧
    ((v.stream.next v.journal).1 = none →
      Tells v.body (upToDone all) ∧ v.stream.ended = all.any (·.isDone)) ∧
    ((v.step .pull).stream.next (v.step .pull).journal).1 = none := by
  intro all v
  obtain ⟨sent, hserves⟩ := serves_run (serves_start (records_journalOf before)) hkept
  rw [List.nil_append] at hserves
  have hordered : ∀ e ∈ all, e.Ordered := by
    intro e he
    rcases List.mem_append.mp he with he | he
    · obtain ⟨text, -, he⟩ := List.mem_flatMap.mp ((Setup.lastOf_suffix _ _).subset he)
      exact ordered_entriesOf he
    · exact ordered_announced he
  have htells : Tells v.body sent := by
    refine SetupStream.tells_lines (fun e he => ?_) hserves.body
    exact hordered e ((SetupStream.upToDone_prefix all).subset (hserves.begins.subset he))
  refine ⟨?_, ⟨sent, htells, hserves.begins, hserves.told⟩, ?_, next_after_pull hserves⟩
  · intro view hview
    rw [setupStream, hview]
    rfl
  · intro hnone
    obtain ⟨rfl, hended⟩ := hserves.all_sent hnone
    exact ⟨htells, hended⟩

/-- The client has taken two entries when the setup is done. What comes behind the end is not told,
and the figures may hold any characters. -/
theorem viewer_told_up_to_done_quoted :
    let acts := [.take, .line "x [LightSync] \"a\\: 1% | b: \t", .take, .line "Start shell",
      .line "Setup wallets"]
    let v := ((start (journalOf ["Setup wallets"])).run acts).step .pull
    KeepsUp (acts ++ [.pull]) (start (journalOf ["Setup wallets"])) ∧
    Tells v.body [.plain "Setup wallets",
      ⟨"Syncing light clients", some [("\"a\\", "1%"), ("b", "")]⟩, .plain "Done"] ∧
    v.stream.ended = true := by
  intro acts v
  have hkept (acts : List Act) (h : acts.length ≤ readerLimit) :
      KeepsUp acts (start (journalOf ["Setup wallets"])) := keepsUp_start _ h
  obtain ⟨-, -, -, hnone⟩ := viewer_told_up_to_done ["Setup wallets"] acts (hkept acts (by decide))
  obtain ⟨-, -, htold, -⟩ :=
    viewer_told_up_to_done ["Setup wallets"] (acts ++ [.pull]) (hkept _ (by decide))
  have hrun : (start (journalOf ["Setup wallets"])).run (acts ++ [.pull]) = v :=
    List.foldl_append
  rw [hrun] at htold
  -- the figures are what stands between the gaps behind the mark
  have hcut : Text.cut? Entry.lightMark.toList "x [LightSync] \"a\\: 1% | b: \t".toList =
      some (['x'], "\"a\\: 1% | b: \t".toList) := by decide
  have hfigures : Entry.figures "\"a\\: 1% | b: \t".toList = [("\"a\\", "1%"), ("b", "")] := by
    rw [Entry.figures, Text.pieces_of_cut? (by decide)
      (show Text.cut? _ _ = some ("\"a\\: 1%".toList, "b: \t".toList) by decide),
      Text.pieces_of_uncut (by decide)]
    decide
  have hlight : Setup.entriesOf "x [LightSync] \"a\\: 1% | b: \t" =
      [⟨"Syncing light clients", some [("\"a\\", "1%"), ("b", "")]⟩] := by
    rw [Setup.entriesOf, Entry.ofLine?, hcut]
    dsimp only
    rw [hfigures]
    rfl
  have hcome : announced (acts ++ [.pull]) =
      [⟨"Syncing light clients", some [("\"a\\", "1%"), ("b", "")]⟩, .plain "Done",
        .plain "Setup wallets"] := by
    show [] ++ (Setup.entriesOf "x [LightSync] \"a\\: 1% | b: \t" ++ _) = _
    rw [hlight]
    decide
  rw [hcome] at htold
  obtain ⟨htells, hended⟩ := htold hnone
  exact ⟨hkept _ (by decide), htells, hended⟩

end Viewer

end NodeStack.Api
