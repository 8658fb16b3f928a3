/-!
# `NodeStack.Upstream.Uri`: which addresses can be dialled

- `Fault`: what is wrong with an address.
- `check`: checks what follows the scheme of an address: a host with a port, and a path that may
  follow.

A host may stand in brackets, and then hold colons; a name with a password may stand in front of it.
-/

set_option autoImplicit false

namespace NodeStack.Upstream.Uri

/-- What is wrong with an address. -/
inductive Fault where
  /-- A character that cannot stand there. -/
  | character
  /-- The parts of the host are not in order. -/
  | authority
  /-- There is no host. -/
  | format
  deriving Repr, DecidableEq

/-- The wording of a fault. -/
def Fault.message : Fault → String
  | .character => "invalid uri character"
  | .authority => "invalid authority"
  | .format => "invalid format"

/-- Whether a character can stand in an address. -/
def isPlain (c : Char) : Bool :=
  c.isAlphanum || "!#$&'()*+,-./:;=?@[]_~".toList.contains c

/-- Whether a character ends the host. -/
def isEnd (c : Char) : Bool := c = '/' || c = '?' || c = '#'

/-- What has been seen of a host. -/
structure Seen where
  colons : Nat
  opened : Bool
  closed : Bool
  percent : Bool
  /-- The last character was an at sign. -/
  atSign : Bool

/-- Nothing seen. -/
def Seen.none : Seen := ⟨0, false, false, false, false⟩

/-- The most colons that a host may hold, in brackets. -/
def colonLimit : Nat := 8

/-- What has been seen after the next character. -/
def Seen.step (s : Seen) (c : Char) : Except Fault Seen :=
  let s := { s with atSign := false }
  if c = ':' then
    if colonLimit ≤ s.colons then .error .authority else .ok { s with colons := s.colons + 1 }
  else if c = '[' then
    if s.percent || s.opened then .error .authority else .ok { s with opened := true }
  else if c = ']' then
    if !s.opened || s.closed then .error .authority
    else .ok { s with closed := true, colons := 0, percent := false }
  else if c = '@' then .ok { s with colons := 0, percent := false, atSign := true }
  else if c = '%' then .ok { s with percent := true }
  else if isPlain c then .ok s
  else .error .character

/-- Checks what was seen of a whole host. -/
def Seen.finish (s : Seen) : Except Fault Unit :=
  if s.opened != s.closed || 1 < s.colons || s.atSign || s.percent then .error .authority
  else .ok ()

/-- Whether a character can stand in a path. -/
def isPath (c : Char) : Bool :=
  0x7F ≤ c.toNat || (0x21 ≤ c.toNat && !"<>^`".toList.contains c)

/-- Whether a character can stand behind the question mark. -/
def isQuery (c : Char) : Bool :=
  0x7F ≤ c.toNat || (0x21 ≤ c.toNat && !"\"<>".toList.contains c)

/-- Checks a path with all that follows. -/
def checkPath (cs : List Char) : Except Fault Unit :=
  let cs := cs.takeWhile (· != '#')
  let path := cs.takeWhile (· != '?')
  if path.all isPath && (cs.drop path.length).all isQuery then .ok () else .error .character

/-- Checks what follows the scheme of an address. -/
def check (cs : List Char) : Except Fault Unit := do
  let host := cs.takeWhile fun c => !isEnd c
  let seen ← host.foldlM Seen.step Seen.none
  seen.finish
  if host.isEmpty then .error .format else checkPath (cs.drop host.length)

end NodeStack.Upstream.Uri
