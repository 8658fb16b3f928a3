/-!
# `NodeStack.Api.Route`: the places of the interface

- `Route`: the places, with the parts of the path that they depend on.
- `Route.find?`: the place of a path.
- `Route.method`: the method that a place takes.

A part of a path that a place depends on may be empty, unless it is the last one.
-/

set_option autoImplicit false

namespace NodeStack.Api

/-- A place of the interface, with the parts of the path that it depends on as they are written. -/
inductive Route where
  | health
  | launcher
  | statuses
  | status (service : List Char)
  | services
  | log (service : List Char)
  | follow (service : List Char)
  | setup
  | info
  | backup
  | trading
  | balances
  | balance (currency : List Char)
  | create
  | unlock
  | terms (currency : List Char)
  | deposit (currency : List Char)
  | withdraw (currency : List Char)
  deriving Repr, DecidableEq

namespace Route

/-- The place of a path below `/api/v1`. -/
def ofWords? (path : List (List Char)) : Option Route :=
  match path.map String.ofList, path with
  | ["status"], _ => some .statuses
  | ["status", _], [_, s] => if s.isEmpty then none else some (.status s)
  | ["services"], _ => some .services
  | ["logs", _], [_, s] => if s.isEmpty then none else some (.log s)
  | ["logs", _, "follow"], [_, s, _] => some (.follow s)
  | ["setup-status"], _ => some .setup
  | ["info"], _ => some .info
  | ["backup"], _ => some .backup
  | ["opendexd", "getinfo"], _ => some .trading
  | ["opendexd", "getbalance"], _ => some .balances
  | ["opendexd", "getbalance", _], [_, _, c] => if c.isEmpty then none else some (.balance c)
  | ["opendexd", "create"], _ => some .create
  | ["opendexd", "unlock"], _ => some .unlock
  | ["boltz", _, "service-info"], [_, c, _] => some (.terms c)
  | ["boltz", _, "deposit"], [_, c, _] => some (.deposit c)
  | ["boltz", _, "withdraw"], [_, c, _] => some (.withdraw c)
  | _, _ => none

/-- The place of a path, given by its parts between the slashes. -/
def find? (segments : List (List Char)) : Option Route :=
  match segments with
  | first :: rest =>
    if !first.isEmpty then none
    else
      match rest.map String.ofList with
      | ["health"] => some .health
      | ["launcher"] => some .launcher
      | "api" :: "v1" :: _ => ofWords? (rest.drop 2)
      | _ => none
  | [] => none

/-- The method that a place takes. -/
def method : Route → String
  | .backup => "PUT"
  | .create | .unlock | .deposit _ | .withdraw _ => "POST"
  | _ => "GET"

/-- Whether a place takes a method: one that is read can also be asked for without the body. -/
def takes (route : Route) (method : String) : Bool :=
  method == route.method || (method == "HEAD" && route.method == "GET")

end Route

end NodeStack.Api
