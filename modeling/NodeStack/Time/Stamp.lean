import NodeStack.Time.Calendar
import NodeStack.Power

/-!
# `NodeStack.Time.Stamp`: points in time and their text

- `Stamp`: seconds since 1970 and nanoseconds; the second of a leap second has up to two thousand
  million of them.
- `Stamp.ofText?`: reads a timestamp: a date, `T`, `t` or a blank, a time with or without a
  fraction, and an offset or `Z`.
- `Stamp.text`: the timestamp in universal time, with three, six or nine places when the fraction is
  not zero.
-/

set_option autoImplicit false

namespace NodeStack.Time

/-- A point in time. -/
structure Stamp where
  /-- Whole seconds since the beginning of 1970, universal time. -/
  seconds : Int
  /-- Nanoseconds, below `10 ^ 9`, or below `2 * 10 ^ 9` in a leap second. -/
  nanos : Nat
  deriving Repr, DecidableEq

namespace Stamp

/-- The point in time so many milliseconds after the beginning of 1970. -/
def ofMillis (ms : Int) : Stamp :=
  ⟨ms.fdiv 1000, (ms.fmod 1000).toNat * 1000000⟩

/-! ### Reading -/

/-- Exactly `n` decimal digits at the beginning, worth `acc` with those before. -/
def digits? : (n acc : Nat) → List Char → Option (Nat × List Char)
  | 0, acc, cs => some (acc, cs)
  | n + 1, acc, c :: cs =>
    if '0' ≤ c && c ≤ '9' then digits? n (10 * acc + (c.toNat - '0'.toNat)) cs else none
  | _ + 1, _, [] => none

/-- The rest after a given character. -/
def expect? (c : Char) : List Char → Option (List Char)
  | d :: cs => if c = d then some cs else none
  | [] => none

/-- The rest after the mark between date and time. -/
def betweenDateAndTime? : List Char → Option (List Char)
  | c :: cs => if c = 'T' || c = 't' || c = ' ' then some cs else none
  | [] => none

/-- Whether the character is a decimal digit. -/
def isDigit (c : Char) : Bool := '0' ≤ c && c ≤ '9'

/-- A fraction of a second in nanoseconds; digits after the ninth are dropped. -/
def fraction? : List Char → Option (Nat × List Char)
  | '.' :: cs => do
    let found := (cs.takeWhile isDigit).take 9
    let (value, _) ← if found.isEmpty then none else digits? found.length 0 cs
    pure (value * 10 ^ (9 - found.length), cs.dropWhile isDigit)
  | cs => some (0, cs)

/-- Hours and minutes of an offset, in seconds. -/
def offsetSeconds? (cs : List Char) : Option (Int × List Char) := do
  let (hours, cs) ← digits? 2 0 cs
  let cs ← expect? ':' cs
  let (minutes, cs) ← digits? 2 0 cs
  if hours < 24 && minutes < 60 then pure (((hours * 60 + minutes) * 60 : Nat), cs) else none

/-- An offset from universal time, in seconds. -/
def offset? : List Char → Option (Int × List Char)
  | c :: cs =>
    if c = 'Z' || c = 'z' then some (0, cs)
    else if c = '+' then offsetSeconds? cs
    else if c = '-' || c = Char.ofNat 0x2212 then
      (offsetSeconds? cs).map fun (s, rest) => (-s, rest)
    else none
  | [] => none

/-- Reads a whole timestamp. -/
def ofChars? (cs : List Char) : Option Stamp := do
  let (year, cs) ← digits? 4 0 cs
  let cs ← expect? '-' cs
  let (month, cs) ← digits? 2 0 cs
  let cs ← expect? '-' cs
  let (day, cs) ← digits? 2 0 cs
  let cs ← betweenDateAndTime? cs
  let (hour, cs) ← digits? 2 0 cs
  let cs ← expect? ':' cs
  let (minute, cs) ← digits? 2 0 cs
  let cs ← expect? ':' cs
  let (second, cs) ← digits? 2 0 cs
  let (nanos, cs) ← fraction? cs
  let (offset, cs) ← offset? cs
  let date : Date := ⟨year, month, day⟩
  if cs.isEmpty && date.valid && hour < 24 && minute < 60 && second ≤ 60 then
    let leap := second = 60
    let inDay : Int := (hour * 3600 + minute * 60 + (if leap then 59 else second) : Nat)
    pure ⟨daysOfDate date * 86400 + inDay - offset, nanos + (if leap then 1000000000 else 0)⟩
  else none

/-- Reads a whole timestamp. -/
def ofText? (s : String) : Option Stamp :=
  ofChars? s.toList

/-! ### Writing -/

/-- At least `width` digits, zeros in front. -/
def padded (width n : Nat) : List Char :=
  let digits := Nat.toDigits 10 n
  List.replicate (width - digits.length) '0' ++ digits

/-- A year: four digits, or a sign and at least four. -/
def yearText (year : Int) : List Char :=
  if 0 ≤ year && year ≤ 9999 then padded 4 year.toNat
  else (if year < 0 then '-' else '+') :: padded 4 year.natAbs

/-- A fraction of a second, nothing when it is zero. -/
def fractionText (nanos : Nat) : List Char :=
  if nanos = 0 then []
  else if nanos % 1000000 = 0 then '.' :: padded 3 (nanos / 1000000)
  else if nanos % 1000 = 0 then '.' :: padded 6 (nanos / 1000)
  else '.' :: padded 9 nanos

/-- The text of a point in time. -/
def text (t : Stamp) : String :=
  let date := dateOfDays (t.seconds.fdiv 86400)
  let inDay := (t.seconds.fmod 86400).toNat
  let leap := 1000000000 ≤ t.nanos
  let second := inDay % 60 + (if leap then 1 else 0)
  let nanos := if leap then t.nanos - 1000000000 else t.nanos
  String.ofList (yearText date.year ++ '-' :: padded 2 date.month ++ '-' :: padded 2 date.day ++
    'T' :: padded 2 (inDay / 3600) ++ ':' :: padded 2 (inDay / 60 % 60) ++
    ':' :: padded 2 second ++ fractionText nanos ++ ['Z'])

end Stamp

end NodeStack.Time
