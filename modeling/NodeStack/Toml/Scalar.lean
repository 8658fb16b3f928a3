import NodeStack.Decimal.Plain
import NodeStack.Json.Basic
import NodeStack.Text.Digits

/-!
# `NodeStack.Toml.Scalar`: plain values of a TOML document

- `integer?`: a whole number within 64 signed bits, decimal or with a prefix for its base.
- `float?`: a double.
- `moment?`: a date, a time, or both, as they are written in one way.
- `scalar?`: any value without quotes.

An underscore may stand between two digits.
-/

set_option autoImplicit false

namespace NodeStack.Toml

/-! ### Numbers -/

/-- The digits without the underscores between them. -/
def digits? (isDigit : Char → Bool) : List Char → Option (List Char)
  | [] => none
  | [c] => if isDigit c then some [c] else none
  | c :: '_' :: rest => if isDigit c then (digits? isDigit rest).map (c :: ·) else none
  | c :: rest => if isDigit c then (digits? isDigit rest).map (c :: ·) else none

/-- Decimal digits. -/
def decimal? (cs : List Char) : Option (List Char) := digits? Char.isDigit cs

/-- Decimal digits that do not begin with a zero, or a zero alone. -/
def whole? (cs : List Char) : Option (List Char) :=
  (decimal? cs).filter fun ds => ds.length = 1 || ds.head? != some '0'

/-- The value of digits in a base. -/
def based? (base : Nat) (cs : List Char) : Option Int := do
  let ds ← digits? (fun c => (Text.digit? base c).isSome) cs
  let n ← Text.digitsValue? base ds
  pure (n : Int)

/-- A sign, and what follows it: whether it is a minus sign. -/
def sign : List Char → Bool × List Char
  | '-' :: rest => (true, rest)
  | '+' :: rest => (false, rest)
  | rest => (false, rest)

/-- A decimal whole number. -/
def signed? (cs : List Char) : Option Int := do
  let (negative, rest) := sign cs
  let ds ← whole? rest
  let n ← Text.digitsValue? 10 ds
  pure (if negative then -(n : Int) else n)

/-- A whole number within 64 signed bits. -/
def integer? (cs : List Char) : Option Int :=
  let n : Option Int :=
    match cs with
    | '0' :: 'x' :: rest => based? 16 rest
    | '0' :: 'o' :: rest => based? 8 rest
    | '0' :: 'b' :: rest => based? 2 rest
    | _ => signed? cs
  n.filter Text.fits64

/-- The digits after the point, and what follows them; nothing but digits may stand there. -/
def places? : List Char → Option (List Char × List Char)
  | '.' :: rest =>
    let places := rest.takeWhile fun c => c.isDigit || c = '_'
    (decimal? places).map fun ds => ('.' :: ds, rest.drop places.length)
  | rest => some ([], rest)

/-- The exponent with its mark. -/
def exponent? : List Char → Option (List Char)
  | [] => some []
  | c :: rest =>
    if c = 'e' || c = 'E' then
      let (negative, rest) := sign rest
      (decimal? rest).map fun ds => 'e' :: (if negative then '-' :: ds else ds)
    else none

/-- A double without its sign. -/
def magnitude? (cs : List Char) : Option Float :=
  if cs = "inf".toList then some (1.0 / 0.0)
  else if cs = "nan".toList then some (0.0 / 0.0)
  else do
    let front := cs.takeWhile fun c => c.isDigit || c = '_'
    let digits ← whole? front
    let (places, rest) ← places? (cs.drop front.length)
    let exponent ← exponent? rest
    Decimal.magnitude? (digits ++ places ++ exponent)

/-- A double. -/
def float? (cs : List Char) : Option Float :=
  let (negative, rest) := sign cs
  (magnitude? rest).map fun f => if negative then -f else f

/-! ### Dates and times -/

/-- So many digits, and what follows them. -/
def fixed? (width : Nat) (cs : List Char) : Option (Nat × List Char) := do
  let ds := cs.take width
  if ds.length < width || ds.any (fun c => !c.isDigit) then none
  let n ← Text.digitsValue? 10 ds
  pure (n, cs.drop width)

/-- What follows a character. -/
def after? (c : Char) : List Char → Option (List Char)
  | d :: rest => if c = d then some rest else none
  | [] => none

/-- A number with a zero in front of a single digit. -/
def two (n : Nat) : String := if n < 10 then s!"0{n}" else toString n

/-- Whether a year has a leap day. -/
def isLeap (year : Nat) : Bool := (year % 4 = 0 && year % 100 != 0) || year % 400 = 0

/-- The number of days of a month. -/
def daysIn (year month : Nat) : Nat :=
  if month = 2 then (if isLeap year then 29 else 28)
  else if [4, 6, 9, 11].contains month then 30
  else 31

/-- A date. -/
def date? (cs : List Char) : Option (String × List Char) := do
  let (year, rest) ← fixed? 4 cs
  let (month, rest) ← fixed? 2 (← after? '-' rest)
  let (day, rest) ← fixed? 2 (← after? '-' rest)
  if month < 1 || 12 < month || day < 1 || daysIn year month < day then none
  let text := String.ofList (cs.take 4)
  pure (s!"{text}-{two month}-{two day}", rest)

/-- The part of a second, of which nine digits count. -/
def fraction? : List Char → Option (String × List Char)
  | '.' :: rest =>
    let ds := rest.takeWhile Char.isDigit
    if ds.isEmpty then none
    else
      let shown := ((ds.take 9).reverse.dropWhile (· = '0')).reverse
      some (if shown.isEmpty then "" else String.ofList ('.' :: shown), rest.drop ds.length)
  | rest => some ("", rest)

/-- A time of the day. -/
def time? (cs : List Char) : Option (String × List Char) := do
  let (hour, rest) ← fixed? 2 cs
  let (minute, rest) ← fixed? 2 (← after? ':' rest)
  let (second, rest) ← fixed? 2 (← after? ':' rest)
  let (fraction, rest) ← fraction? rest
  if 23 < hour || 59 < minute || 60 < second then none
  pure (s!"{two hour}:{two minute}:{two second}" ++ fraction, rest)

/-- The distance of a time from the common one, if it is said. -/
def offset? : List Char → Option String
  | [] => some ""
  | [c] => if c = 'Z' || c = 'z' then some "Z" else none
  | c :: rest => do
    if c != '+' && c != '-' then none
    let (hours, rest) ← fixed? 2 rest
    let (minutes, rest) ← fixed? 2 (← after? ':' rest)
    if !rest.isEmpty || 23 < hours || 59 < minutes then none
    pure (String.singleton c ++ s!"{two hours}:{two minutes}")

/-- A date, a time, or both. -/
def moment? (cs : List Char) : Option String :=
  match date? cs with
  | some (date, []) => some date
  | some (date, c :: rest) =>
    if c = 'T' || c = 't' || c = ' ' then do
      let (time, rest) ← time? rest
      let offset ← offset? rest
      pure (s!"{date}T{time}" ++ offset)
    else none
  | none =>
    match time? cs with
    | some (time, []) => some time
    | _ => none

/-! ### All of them -/

/-- Whether a character can stand in a value without quotes. -/
def isPlain (c : Char) : Bool :=
  c.isAlphanum || c = '+' || c = '-' || c = '_' || c = '.' || c = ':'

/-- The characters of a value without quotes, and what follows them. A blank may stand between a
date and a time. -/
def run (cs : List Char) : List Char × List Char :=
  let plain := cs.takeWhile isPlain
  let rest := cs.drop plain.length
  match (date? plain), rest with
  | some (_, []), ' ' :: c :: more =>
    if c.isDigit then
      let time := (c :: more).takeWhile isPlain
      (plain ++ ' ' :: time, more.drop (time.length - 1))
    else (plain, rest)
  | _, _ => (plain, rest)

/-- The value of some characters. -/
def valueOf? (cs : List Char) : Option Json :=
  if cs = "true".toList then some (.bool true)
  else if cs = "false".toList then some (.bool false)
  else
    match integer? cs, float? cs with
    | some n, _ => some (Json.ofInt n)
    | none, some f => some (.num (.double f.toBits))
    | none, none => (moment? cs).map .str

/-- A value without quotes, and what follows it. -/
def scalar? (cs : List Char) : Option (Json × List Char) :=
  let (plain, rest) := run cs
  (valueOf? plain).map fun v => (v, rest)

end NodeStack.Toml
