/-!
# `NodeStack.Text.Utf8`: bytes and characters

- `encode`: the bytes of a text.
- `decodeLossy`: the characters of any bytes. Each longest run of bytes that could begin a
  character but does not complete one becomes a single replacement character.
- `decode?`: the characters, if the bytes are well formed.
-/

set_option autoImplicit false

namespace NodeStack.Text.Utf8

/-- The character that stands for malformed bytes. -/
def replacement : Char := Char.ofNat 0xFFFD

/-- The bytes of one character. -/
def encodeChar (c : Char) : List UInt8 :=
  let n := c.toNat
  if n < 0x80 then [UInt8.ofNat n]
  else if n < 0x800 then [UInt8.ofNat (0xC0 + n / 0x40), UInt8.ofNat (0x80 + n % 0x40)]
  else if n < 0x10000 then
    [UInt8.ofNat (0xE0 + n / 0x1000), UInt8.ofNat (0x80 + n / 0x40 % 0x40),
      UInt8.ofNat (0x80 + n % 0x40)]
  else
    [UInt8.ofNat (0xF0 + n / 0x40000), UInt8.ofNat (0x80 + n / 0x1000 % 0x40),
      UInt8.ofNat (0x80 + n / 0x40 % 0x40), UInt8.ofNat (0x80 + n % 0x40)]

/-- The bytes of a text. -/
def encode (cs : List Char) : List UInt8 :=
  cs.flatMap encodeChar

/-- A character begun: the bytes still owed, the bounds of the next one, the bits read so far. -/
structure Partial where
  /-- Continuation bytes still owed, at least one. -/
  owed : Nat
  /-- The least byte that may come next. -/
  low : Nat
  /-- The greatest byte that may come next. -/
  high : Nat
  /-- The bits of the character read so far. -/
  bits : Nat
  deriving Repr, DecidableEq

/-- What a byte means between characters. -/
inductive Lead where
  /-- A character of one byte. -/
  | whole (c : Char)
  /-- The first byte of a longer character. -/
  | begins (p : Partial)
  /-- A byte no character begins with. -/
  | invalid
  deriving Repr, DecidableEq

/-- Reads a byte between characters. -/
def lead (byte : UInt8) : Lead :=
  let b := byte.toNat
  if b < 0x80 then .whole (Char.ofNat b)
  else if b < 0xC2 then .invalid
  else if b < 0xE0 then .begins ⟨1, 0x80, 0xBF, b - 0xC0⟩
  else if b = 0xE0 then .begins ⟨2, 0xA0, 0xBF, 0⟩
  else if b = 0xED then .begins ⟨2, 0x80, 0x9F, 0xD⟩
  else if b < 0xF0 then .begins ⟨2, 0x80, 0xBF, b - 0xE0⟩
  else if b = 0xF0 then .begins ⟨3, 0x90, 0xBF, 0⟩
  else if b < 0xF4 then .begins ⟨3, 0x80, 0xBF, b - 0xF0⟩
  else if b = 0xF4 then .begins ⟨3, 0x80, 0x8F, 4⟩
  else .invalid

/-- Where the decoder stands between two bytes. -/
abbrev State := Option Partial

/-- Reads a byte between characters: the state after it and the characters it completes. -/
def start (byte : UInt8) : State × List Char :=
  match lead byte with
  | .whole c => (none, [c])
  | .begins p => (some p, [])
  | .invalid => (none, [replacement])

/-- Reads one byte. A byte that cannot go on with the character begun ends it as malformed and is
read anew. -/
def step : State → UInt8 → State × List Char
  | none, byte => start byte
  | some p, byte =>
    let b := byte.toNat
    if p.low ≤ b && b ≤ p.high then
      let bits := p.bits * 0x40 + (b - 0x80)
      if p.owed ≤ 1 then (none, [Char.ofNat bits])
      else (some ⟨p.owed - 1, 0x80, 0xBF, bits⟩, [])
    else
      let (state, chars) := start byte
      (state, replacement :: chars)

/-- The characters owed when the bytes end. -/
def finish : State → List Char
  | none => []
  | some _ => [replacement]

/-- Reads bytes from a state: the state after them and the characters completed. -/
def run : State → List UInt8 → State × List Char
  | s, [] => (s, [])
  | s, b :: bytes =>
    let (s', chars) := step s b
    let (s'', more) := run s' bytes
    (s'', chars ++ more)

/-- The characters of the bytes, malformed runs replaced. -/
def decodeLossy (bytes : List UInt8) : List Char :=
  let (s, chars) := run none bytes
  chars ++ finish s

/-- The characters of the bytes, if they are well formed. -/
def decode? (bytes : List UInt8) : Option (List Char) :=
  let chars := decodeLossy bytes
  if encode chars = bytes then some chars else none

end NodeStack.Text.Utf8
