import NodeStack.Power

/-!
# `NodeStack.Engine.Multiplex`: several output streams in one

- `Source`: where output comes from.
- `Chunk`: some bytes of one source.
- `Chunk.frame`: a chunk behind a head of eight bytes: the source, and the length.
- `chunks`: the chunks of a sequence of bytes, and whether it ends where a chunk ends.

A first byte above two is no head. Such bytes come from a terminal and have no frames: they are
taken line by line or, from a connection that was handed over, as they stand.
-/

set_option autoImplicit false

namespace NodeStack.Engine

/-- Where output comes from. -/
inductive Source where
  | input
  | output
  | error
  /-- A terminal, whose bytes have no frames. -/
  | terminal
  deriving Repr, DecidableEq

/-- The first byte of a frame. -/
def Source.tag : Source → UInt8
  | .input => 0
  | .output => 1
  | .error => 2
  | .terminal => 3

/-- The source a first byte names. -/
def Source.ofTag (b : UInt8) : Source :=
  if b = 0 then .input else if b = 1 then .output else if b = 2 then .error else .terminal

/-- Some bytes of one source. -/
structure Chunk where
  source : Source
  bytes : List UInt8
  deriving Repr, DecidableEq

/-- A number in four bytes, the greatest first. -/
def fourBytes (n : Nat) : List UInt8 :=
  [UInt8.ofNat (n / 2 ^ 24), UInt8.ofNat (n / 2 ^ 16 % 256), UInt8.ofNat (n / 2 ^ 8 % 256),
   UInt8.ofNat (n % 256)]

/-- The number in four bytes. -/
def ofFourBytes (a b c d : UInt8) : Nat :=
  ((a.toNat * 256 + b.toNat) * 256 + c.toNat) * 256 + d.toNat

/-- A chunk behind its head; the bytes of a terminal have none. -/
def Chunk.frame (c : Chunk) : List UInt8 :=
  match c.source with
  | .terminal => c.bytes
  | s => s.tag :: 0 :: 0 :: 0 :: (fourBytes c.bytes.length ++ c.bytes)

/-- The first chunk of a sequence of bytes, and what follows it. -/
def firstChunk? (handedOver : Bool) : List UInt8 → Option (Chunk × List UInt8)
  | [] => none
  | tag :: bytes =>
    if 2 < tag then
      if handedOver then some (⟨.terminal, tag :: bytes⟩, [])
      else
        let line := (tag :: bytes).takeWhile (· != 10)
        match (tag :: bytes).drop line.length with
        | newline :: rest => some (⟨.terminal, line ++ [newline]⟩, rest)
        | [] => none
    else
      match bytes with
      | _ :: _ :: _ :: a :: b :: c :: d :: rest =>
        let length := ofFourBytes a b c d
        if length ≤ rest.length then
          some (⟨Source.ofTag tag, rest.take length⟩, rest.drop length)
        else none
      | _ => none

/-- The chunks of a sequence of bytes, at most `fuel`, and whether nothing is left over. -/
def chunksWithin (handedOver : Bool) : (fuel : Nat) → List UInt8 → List Chunk × Bool
  | 0, bytes => ([], bytes.isEmpty)
  | fuel + 1, bytes =>
    match firstChunk? handedOver bytes with
    | none => ([], bytes.isEmpty)
    | some (chunk, rest) =>
      let (more, whole) := chunksWithin handedOver fuel rest
      (chunk :: more, whole)

/-- The chunks of a sequence of bytes, and whether nothing is left over. A chunk takes at least one
byte, so there are no more chunks than bytes. -/
def chunks (handedOver : Bool) (bytes : List UInt8) : List Chunk × Bool :=
  chunksWithin handedOver bytes.length bytes

end NodeStack.Engine
