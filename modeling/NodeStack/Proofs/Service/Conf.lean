import NodeStack.Proofs.Text.Split
import NodeStack.Service.Lightning.Conf

/-!
# `NodeStack.Proofs.Service.Conf`: where the entries of a configuration file stand

A text is read line by line, and an entry stands in the section of the last header before it. So the
entries of a text can be told from its parts, if the part before says which section it leaves open.

* `readLine_iff`: what a line says, by its characters (`Says`).
* `said_join`: the lines of two texts that a line feed joins are those of the one and those of the
  other, apart from lines that say nothing. The line feed can take a carriage return with it, or
  leave an empty line behind, which makes no difference.
* `entriesFrom_eq`: the section before some lines matters to the entries before their first header
  only.
* `entriesFrom_positions`, `values_entries`: entries, and the values of a key, by the places of their
  lines.
* `entries_compose`: all of it together.
-/

set_option autoImplicit false

namespace NodeStack.Service.Lightning.Conf

open Text (trimChars)

/-! ### What a line says -/

/-- The line is a comment. -/
def Comment (raw : List Char) : Prop :=
  ∃ c rest, trimChars raw = c :: rest ∧ (c = ';' ∨ c = '#')

/-- The line is a header. -/
def Bracketed (raw : List Char) : Prop := ∃ inner, trimChars raw = '[' :: (inner ++ [']'])

/-- The line is blank, or a comment, or no header and without an equals sign. -/
def Mute (raw : List Char) : Prop :=
  trimChars raw = [] ∨ Comment raw ∨ ('=' ∉ raw ∧ ¬Bracketed raw)

/-- What a line says. -/
inductive Says (raw : List Char) : Line → Prop where
  | header (inner : List Char) (h : trimChars raw = '[' :: (inner ++ [']'])) :
    Says raw (.header (Text.Case.lower (String.ofList (trimChars inner))))
  | entry (key value : List Char) (h : trimChars raw = key ++ '=' :: value) (hkey : '=' ∉ key)
    (hcomment : ¬Comment raw) (hheader : ¬Bracketed raw) :
    Says raw (.entry (String.ofList (trimChars key)) (String.ofList (trimChars value)))
  | nothing (h : Mute raw) : Says raw .nothing

section
variable {raw cs inner : List Char}

theorem inBrackets?_eq_some : inBrackets? cs = some inner ↔ cs = '[' :: (inner ++ [']']) := by
  unfold inBrackets?
  split
  · next rest =>
    split
    · next inner' h =>
      have hrest : rest = inner'.reverse ++ [']'] := by
        rw [← List.reverse_cons, ← h, List.reverse_reverse]
      simp [hrest]
    · next h =>
      refine iff_of_false (by simp) fun he => h inner.reverse ?_
      rw [(List.cons.inj he).2]
      simp
  · next h => exact iff_of_false (by simp) fun he => h _ he

theorem isComment_iff : isComment cs = true ↔ ∃ c rest, cs = c :: rest ∧ (c = ';' ∨ c = '#') := by
  cases cs with
  | nil => simp [isComment]
  | cons c rest => simp [isComment, and_assoc]

theorem not_comment_of_bracketed (h : Bracketed raw) : ¬Comment raw := by
  obtain ⟨inner, h⟩ := h
  rintro ⟨c, rest, hc, he⟩
  rw [h] at hc
  obtain ⟨rfl, -⟩ := List.cons.inj hc
  simp at he

/-- What is read, by the three questions that a line is asked. -/
theorem readLine_cases (raw : List Char) :
    ((trimChars raw = [] ∨ Comment raw) ∧ readLine raw = .nothing) ∨
    (¬(trimChars raw = [] ∨ Comment raw) ∧
      (∃ inner, trimChars raw = '[' :: (inner ++ [']']) ∧
        readLine raw = .header (Text.Case.lower (String.ofList (trimChars inner)))) ∨
      ¬(trimChars raw = [] ∨ Comment raw) ∧ ¬Bracketed raw ∧
      ((∃ key value, trimChars raw = key ++ '=' :: value ∧ '=' ∉ key ∧
        readLine raw =
          .entry (String.ofList (trimChars key)) (String.ofList (trimChars value))) ∨
      ('=' ∉ trimChars raw ∧ readLine raw = .nothing))) := by
  by_cases hidle : trimChars raw = [] ∨ Comment raw
  · refine .inl ⟨hidle, ?_⟩
    have hcond : ((trimChars raw).isEmpty || isComment (trimChars raw)) = true := by
      rw [Bool.or_eq_true, List.isEmpty_iff, isComment_iff]
      exact hidle
    simp only [readLine, hcond, if_true]
  · refine .inr ?_
    have hcond : ((trimChars raw).isEmpty || isComment (trimChars raw)) = false := by
      rw [← Bool.not_eq_true, Bool.or_eq_true, List.isEmpty_iff, isComment_iff]
      exact hidle
    simp only [readLine, hcond, Bool.false_eq_true, if_false]
    cases hin : inBrackets? (trimChars raw) with
    | some inner => exact .inl ⟨hidle, inner, inBrackets?_eq_some.mp hin, rfl⟩
    | none =>
      have hno : ¬Bracketed raw := by
        rintro ⟨inner, h⟩
        rw [inBrackets?_eq_some.mpr h] at hin
        cases hin
      refine .inr ⟨hidle, hno, ?_⟩
      cases hcut : Text.cut? ['='] (trimChars raw) with
      | some parts =>
        obtain ⟨key, value⟩ := parts
        obtain ⟨he, hkey⟩ := Text.cut?_eq_some.mp hcut
        exact .inl ⟨key, value, he, hkey, rfl⟩
      | none => exact .inr ⟨Text.cut?_eq_none.mp hcut, rfl⟩

theorem readLine_of_mute (h : Mute raw) : readLine raw = .nothing := by
  rcases readLine_cases raw with ⟨-, hn⟩ | ⟨-, inner, hb, -⟩ | ⟨hidle, hno, hrest⟩
  · exact hn
  all_goals rcases h with h | h | ⟨heq, hno'⟩
  · exact absurd (h ▸ hb) (by simp)
  · exact absurd h (not_comment_of_bracketed ⟨inner, hb⟩)
  · exact absurd ⟨inner, hb⟩ hno'
  · exact absurd (.inl h) hidle
  · exact absurd (.inr h) hidle
  · rcases hrest with ⟨key, value, he, -⟩ | ⟨-, hn⟩
    · exact absurd ((Text.mem_trimChars (by decide)).mp (he ▸ by simp)) heq
    · exact hn

/-- A line is read as what it says. -/
theorem readLine_iff {line : Line} : readLine raw = line ↔ Says raw line := by
  constructor
  · rintro rfl
    rcases readLine_cases raw with ⟨h, hn⟩ | ⟨-, inner, hb, hn⟩ | ⟨hidle, hno, hrest⟩
    · exact hn ▸ .nothing (h.imp_right .inl)
    · exact hn ▸ .header inner hb
    · rcases hrest with ⟨key, value, he, hkey, hn⟩ | ⟨heq, hn⟩
      · exact hn ▸ .entry key value he hkey (not_or.mp hidle).2 hno
      · exact hn ▸ .nothing (.inr (.inr ⟨fun hmem => heq ((Text.mem_trimChars (by decide)).mpr hmem), hno⟩))
  · rintro (⟨inner, hb⟩ | ⟨key, value, he, hkey, hcomment, hheader⟩ | h)
    · have hnot : ¬(trimChars raw = [] ∨ Comment raw) := by
        rw [hb]
        exact not_or.mpr ⟨by simp, not_comment_of_bracketed ⟨inner, hb⟩⟩
      rcases readLine_cases raw with ⟨h, -⟩ | ⟨-, inner', hb', hn⟩ | ⟨-, hno, -⟩
      · exact absurd h hnot
      · rw [hb] at hb'
        rw [hn, List.append_cancel_right (List.cons.inj hb').2]
      · exact absurd ⟨inner, hb⟩ hno
    · rcases readLine_cases raw with ⟨h, -⟩ | ⟨-, inner, hb, -⟩ | ⟨-, -, hrest⟩
      · rcases h with h | h
        · rw [h] at he
          exact absurd he (by simp)
        · exact absurd h hcomment
      · exact absurd ⟨inner, hb⟩ hheader
      · have hcut := Text.cut?_eq_some.mpr ⟨he, hkey⟩
        rcases hrest with ⟨key', value', he', hkey', hn⟩ | ⟨heq, -⟩
        · have hcut' := Text.cut?_eq_some.mpr ⟨he', hkey'⟩
          rw [hcut] at hcut'
          obtain ⟨rfl, rfl⟩ := Prod.mk.inj (Option.some.inj hcut')
          exact hn
        · exact absurd (he ▸ by simp) heq
    · exact readLine_of_mute h

end

/-! ### The lines of a text -/

/-- What the lines of a text say, one after the other. -/
def readLines (content : String) : List Line := (Text.lines content.toList).map readLine

/-- The lines that say something. -/
def said (ls : List Line) : List Line := ls.filter (· != .nothing)

@[simp] theorem said_append (ls ms : List Line) : said (ls ++ ms) = said ls ++ said ms :=
  List.filter_append ls ms

theorem said_cons (l : Line) (ls : List Line) : said (l :: ls) = said [l] ++ said ls :=
  said_append [l] ls

/-- White space at the end of a line does not matter, nor does its carriage return. -/
theorem readLine_dropReturn (raw : List Char) : readLine (Text.dropReturn raw) = readLine raw := by
  simp only [readLine, Text.trimChars_dropReturn]

/-- The characters that `current` holds are the beginning of the first line. A line without
characters is read where the line feed follows at once, and says nothing. -/
theorem said_linesFrom (current cs ds : List Char) :
    said ((Text.linesFrom current (cs ++ '\n' :: ds)).map readLine) =
      said ((Text.linesFrom current cs).map readLine) ++ said ((Text.lines ds).map readLine) := by
  induction cs generalizing current with
  | nil =>
    rw [List.nil_append, Text.linesFrom_lineFeed, List.map_cons, readLine_dropReturn, said_cons]
    cases current with
    | nil => rfl
    | cons c current => rfl
  | cons c cs ih =>
    rw [List.cons_append]
    by_cases h : c = '\n'
    · subst h
      rw [Text.linesFrom_lineFeed, Text.linesFrom_lineFeed, List.map_cons, List.map_cons,
        said_cons, ih, ← List.append_assoc, ← said_cons]
    · rw [Text.linesFrom_char h, Text.linesFrom_char h, ih]

/-- The lines of two texts with a line feed between them. -/
theorem said_join (a b : String) :
    said (readLines (a ++ "\n" ++ b)) = said (readLines a) ++ said (readLines b) := by
  have hchars : (a ++ "\n" ++ b).toList = a.toList ++ '\n' :: b.toList := by simp
  unfold readLines
  rw [hchars]
  exact said_linesFrom [] a.toList b.toList

/-! ### The section of an entry -/

/-- The section that a header names. -/
def Line.header? : Line → Option String
  | .header name => some name
  | _ => none

/-- The entry on a line, if it stands in a section. -/
def Line.entryIn? (name : String) : Line → Option Entry
  | .entry key value => some ⟨name, key, value⟩
  | _ => none

/-- The section that is open after some lines, if one was before them: the last that they name. -/
def openSection (name : String) (ls : List Line) : String := (ls.filterMap Line.header?).getLastD name

/-- How many entries stand before the first header. -/
def preface (ls : List Line) : Nat :=
  ((ls.takeWhile fun l => l.header?.isNone).filterMap (Line.entryIn? "")).length

/-- An entry, in another section. -/
def Entry.within (name : String) (e : Entry) : Entry := { e with inSection := name }

section
variable (name : String) (ls : List Line)

@[simp] theorem entriesFrom_nil : entriesFrom name [] = [] := rfl

@[simp] theorem entriesFrom_header (other : String) :
    entriesFrom name (.header other :: ls) = entriesFrom other ls := rfl

@[simp] theorem entriesFrom_entry (key value : String) :
    entriesFrom name (.entry key value :: ls) = ⟨name, key, value⟩ :: entriesFrom name ls := rfl

@[simp] theorem entriesFrom_nothing : entriesFrom name (.nothing :: ls) = entriesFrom name ls := rfl

@[simp] theorem openSection_nil : openSection name [] = name := rfl

@[simp] theorem openSection_header (other : String) :
    openSection name (.header other :: ls) = openSection other ls := by
  simp only [openSection, List.filterMap_cons, Line.header?]
  cases ls.filterMap Line.header? <;> rfl

@[simp] theorem openSection_entry (key value : String) :
    openSection name (.entry key value :: ls) = openSection name ls := rfl

@[simp] theorem openSection_nothing : openSection name (.nothing :: ls) = openSection name ls := rfl

@[simp] theorem preface_nil : preface [] = 0 := rfl

@[simp] theorem preface_header : preface (.header name :: ls) = 0 := rfl

@[simp] theorem preface_entry (key value : String) :
    preface (.entry key value :: ls) = preface ls + 1 := rfl

@[simp] theorem preface_nothing : preface (.nothing :: ls) = preface ls := rfl

/-! Lines that say nothing do not count. -/

theorem entriesFrom_said : entriesFrom name (said ls) = entriesFrom name ls := by
  induction ls generalizing name with
  | nil => rfl
  | cons l ls ih => cases l <;> simp_all [said]

theorem openSection_said : openSection name (said ls) = openSection name ls := by
  induction ls generalizing name with
  | nil => rfl
  | cons l ls ih => cases l <;> simp_all [said]

theorem openSection_append (ms : List Line) :
    openSection name (ls ++ ms) = openSection (openSection name ls) ms := by
  induction ls generalizing name with
  | nil => rfl
  | cons l ls ih => cases l <;> simp [ih]

/-! The section before some lines matters to what stands before their first header. -/

theorem entriesFrom_append (ms : List Line) :
    entriesFrom name (ls ++ ms) = entriesFrom name ls ++ entriesFrom (openSection name ls) ms := by
  induction ls generalizing name with
  | nil => rfl
  | cons l ls ih => cases l <;> simp [ih]

theorem entriesFrom_eq :
    entriesFrom name ls = ((entriesFrom "" ls).take (preface ls)).map (Entry.within name) ++
      (entriesFrom "" ls).drop (preface ls) := by
  induction ls with
  | nil => rfl
  | cons l ls ih =>
    cases l with
    | header other => rfl
    | entry key value => simpa [Entry.within] using ih
    | nothing => exact ih

/-- An entry stands in the section that is open where its line is. -/
theorem entriesFrom_positions (ms : List Line) :
    entriesFrom (openSection name ms) ls =
      (ls.zipIdx ms.length).filterMap fun p =>
        p.1.entryIn? (openSection name ((ms ++ ls).take p.2)) := by
  induction ls generalizing ms with
  | nil => rfl
  | cons l ls ih =>
    have hnext := ih (ms ++ [l])
    rw [List.length_append, List.length_singleton, List.append_assoc, List.singleton_append]
      at hnext
    rw [List.zipIdx_cons, List.filterMap_cons, ← hnext, List.take_left, openSection_append]
    cases l <;> simp [Line.entryIn?]

end

/-! ### Texts -/

/-- The last section that a text names, the default one if it names none. -/
def lastSection (content : String) : String := openSection "" (readLines content)

/-- A line that says nothing. -/
def Idle (line : String) : Prop := '\n' ∉ line.toList ∧ Mute line.toList

/-- A text, and the same with a line inserted where a line begins or the text ends. -/
inductive Inserted (line : String) : String → String → Prop where
  | first (b : String) : Inserted line b (line ++ "\n" ++ b)
  | between (a b : String) : Inserted line (a ++ "\n" ++ b) (a ++ "\n" ++ line ++ "\n" ++ b)
  | last (a : String) : Inserted line a (a ++ "\n" ++ line)
  | ended (a : String) : Inserted line (a ++ "\n") (a ++ "\n" ++ line)

section
variable {a b line text longer : String}

theorem entries_eq (content : String) : entries content = entriesFrom "" (said (readLines content)) :=
  (entriesFrom_said "" (readLines content)).symm

/-- The lines of `b` are read in the section that `a` leaves open. -/
theorem entries_join (a b : String) :
    entries (a ++ "\n" ++ b) = entries a ++ entriesFrom (lastSection a) (readLines b) := by
  rw [entries_eq, said_join, entriesFrom_append, ← entries_eq, openSection_said, entriesFrom_said]
  rfl

theorem said_idle (h : Idle line) : said (readLines line) = [] := by
  rw [said, List.filter_eq_nil_iff]
  intro l hl
  obtain ⟨raw, hraw, rfl⟩ := List.mem_map.mp hl
  rw [Text.mem_lines_of_not_mem h.1 hraw, readLine_of_mute h.2]
  decide

/-- A line that says nothing changes no entry. -/
theorem entries_inserted (h : Idle line) (hins : Inserted line text longer) :
    entries longer = entries text := by
  have hidle := said_idle h
  rw [entries_eq, entries_eq text]
  congr 1
  cases hins with
  | first => rw [said_join, hidle, List.nil_append]
  | between a b => rw [said_join, said_join, said_join, hidle, List.append_nil]
  | last => rw [said_join, hidle, List.append_nil]
  | ended a =>
    have hend : said (readLines (a ++ "\n" ++ "")) = said (readLines a) := by
      rw [said_join]
      exact List.append_nil _
    rw [said_join, hidle, List.append_nil, ← hend, String.append_empty]

/-! ### The values of a key -/

/-- The value that a line gives a key. -/
def Line.valueOf? (key : String) : Line → Option String
  | .entry k value => if k = key then some value else none
  | _ => none

/-- The values of a key are those of the lines that give it one in its section. -/
theorem values_entries (content key : String) :
    values (entries content) key =
      (readLines content).zipIdx.filterMap fun p =>
        if openSection "" ((readLines content).take p.2) = sectionOf key then p.1.valueOf? key
        else none := by
  have hpos := entriesFrom_positions "" (readLines content) []
  rw [openSection_nil, List.length_nil, List.nil_append] at hpos
  have hentries : entries content = entriesFrom "" (readLines content) := rfl
  rw [values, hentries, hpos, List.filter_filterMap, List.map_filterMap]
  congr 1
  funext p
  obtain ⟨l, i⟩ := p
  cases l with
  | header name => simp [Line.entryIn?, Line.valueOf?]
  | nothing => simp [Line.entryIn?, Line.valueOf?]
  | entry k value =>
    by_cases hs : openSection "" ((readLines content).take i) = sectionOf key <;>
      by_cases hk : k = key <;>
      simp [Line.entryIn?, Line.valueOf?, hs, hk, Option.filter_some, -Option.map_eq_some_iff]

theorem sectionOf_dotted {front : List Char} (h : '.' ∉ front) (rest : List Char) :
    sectionOf (String.ofList (front ++ '.' :: rest)) = Text.Case.lower (String.ofList front) := by
  rw [sectionOf, String.toList_ofList, Text.cut?_eq_some.mpr ⟨rfl, h⟩]

theorem sectionOf_plain {key : String} (h : '.' ∉ key.toList) : sectionOf key = "" := by
  rw [sectionOf, Text.cut?_eq_none.mpr h]

end

/-! ### All of it together -/

/-- A configuration file can be read in parts. Of two texts with a line feed between them, the
entries are those of the one and those of the other, and the entries before the first header of the
other stand in the last section that the one names. A line that says nothing can stand anywhere. The
values of a key are those of the lines that give it one, from first to last, where the section that
is open is the one the key belongs to: its part before the first dot in lower case, as headers are,
or the default section if it has no dot. -/
theorem entries_compose :
    (∀ a b : String, entries (a ++ "\n" ++ b) =
      entries a ++ ((entries b).take (preface (readLines b))).map (Entry.within (lastSection a)) ++
        (entries b).drop (preface (readLines b))) ∧
    (∀ line text longer : String, Idle line → Inserted line text longer →
      entries longer = entries text ∧
      ∀ key, values (entries longer) key = values (entries text) key) ∧
    (∀ content key : String, values (entries content) key =
      (readLines content).zipIdx.filterMap fun p =>
        if openSection "" ((readLines content).take p.2) = sectionOf key then p.1.valueOf? key
        else none) ∧
    (∀ front rest : List Char, '.' ∉ front →
      sectionOf (String.ofList (front ++ '.' :: rest)) =
        Text.Case.lower (String.ofList front)) ∧
    (∀ key : String, '.' ∉ key.toList → sectionOf key = "") ∧
    ∀ raw line, readLine raw = line ↔ Says raw line := by
  refine ⟨fun a b => ?_, fun line text longer h hins => ?_, values_entries,
    fun front rest h => sectionOf_dotted h rest, fun key h => sectionOf_plain h,
    fun raw line => readLine_iff⟩
  · rw [entries_join, entriesFrom_eq, ← List.append_assoc]
    rfl
  · have hsame := entries_inserted h hins
    exact ⟨hsame, fun key => by rw [hsame]⟩

/-- A comment between two spells of one section, under headers in different case. -/
theorem entries_compose_reopened :
    Idle "; moved" ∧
    values (entries ("[Bitcoin]\nbitcoin.node=a\n[x]\nbitcoin.node=b" ++ "\n" ++ "; moved" ++ "\n" ++
      "[ BITCOIN ]\nbitcoin.node = c")) "bitcoin.node" = ["a", "c"] ∧
    sectionOf "Bitcoin.node" = "bitcoin" ∧ sectionOf "alias" = "" := by
  have hidle : Idle "; moved" :=
    ⟨by decide, .inr (.inl ⟨';', " moved".toList, by decide, .inl rfl⟩)⟩
  obtain ⟨-, hinserted, -, hdotted, hplain, -⟩ := entries_compose
  refine ⟨hidle, ?_, ?_, hplain "alias" (by decide)⟩
  · rw [(hinserted _ _ _ hidle (.between _ _)).2]
    decide +kernel
  · have h := hdotted "Bitcoin".toList "node".toList (by decide)
    exact h.trans (by decide +kernel)

end NodeStack.Service.Lightning.Conf
