import NodeStack.Text.Digits
import NodeStack.Text.Utf8
import NodeStack.Upstream.Fault
import NodeStack.Upstream.Pem
import NodeStack.Upstream.Uri

/-!
# `NodeStack.Upstream.Target`: services that are dialled

- `Target`: a host and a port, with the files that are needed for dialling.
- `credentialText`: how a credential is shown to the service.
- `Target.dial`: dials, or tells the first thing that is in the way.
-/

set_option autoImplicit false

namespace NodeStack.Upstream

/-- A service that is dialled. -/
structure Target where
  host : String
  /-- The port, as text. -/
  port : String
  /-- The file with the certificate of the service. -/
  certificate : Option String
  /-- The file with the credential. -/
  credential : Option String
  deriving Repr, DecidableEq

/-- How a credential is shown to the service: in hexadecimal digits. -/
def credentialText (bytes : List UInt8) : String := Text.hexText bytes

namespace Target

/-- The host and the port. -/
def text (t : Target) : String := s!"{t.host}:{t.port}"

/-- Checks the address. -/
def checkAddress (t : Target) : Except LinkFault Unit :=
  (Uri.check t.text.toList).mapError fun fault =>
    .invalidTarget s!"Invalid address: {fault.message}"

/-- Checks the certificate, if there is to be one. -/
def checkCertificate (read : String → Except String (List UInt8)) (t : Target) :
    Except LinkFault Unit :=
  match t.certificate with
  | none => .ok ()
  | some path =>
    match read path with
    | .error why => .error (.tls s!"Failed to read TLS certificate {path}: {why}")
    | .ok bytes =>
      if Pem.isWellFormed (Text.Utf8.decodeLossy bytes) then .ok ()
      else .error (.tls "TLS config error: transport error")

/-- Reads the credential, if there is to be one. -/
def readCredential (read : String → Except String (List UInt8)) (t : Target) :
    Except LinkFault (Option String) :=
  match t.credential with
  | none => .ok none
  | some path =>
    match read path with
    | .error why => .error (.credential s!"Failed to read macaroon {path}: {why}")
    | .ok bytes => .ok (some (credentialText bytes))

/-- Dials: `read` reads a file, and `reach` says whether the service answers. The credential to show
is given back. -/
def dial (read : String → Except String (List UInt8)) (reach : Target → Bool) (t : Target) :
    Except LinkFault (Option String) := do
  t.checkAddress
  t.checkCertificate read
  let credential ← t.readCredential read
  if reach t then .ok credential
  else .error (.unavailable s!"Failed to connect to {t.text}: transport error")

end Target

end NodeStack.Upstream
