import Passbook.Transaction.Kind

/-!
Routes. A route has a method and a pattern of path parts, some of which stand for anything. The first
route of a request's method whose pattern fits is taken; a path that fits only routes of other methods,
or only with or without a slash at its end, is answered accordingly.
-/

set_option autoImplicit false
set_option relaxedAutoImplicit false

namespace Passbook.Web

/-- What a request is for; the parts of the path that stand for anything are given as they are. -/
inductive Endpoint where
  | health
  | openAccount
  | accountNumbered (number : String)
  | account (id : String)
  | accountsOf (owner : String)
  | changeStatus (id : String)
  | balance (id : String)
  | history (id : String)
  | post (kind : TransactionKind)
deriving DecidableEq, Repr

/-- Parts of a path in which the last one lacks the line break at its end, if it has one. -/
def withoutBreak (parts : List String) : List String :=
  match parts.reverse with
  | [] => []
  | last :: earlier =>
    let shown := if last.toList.getLast? = some '\n' then String.ofList last.toList.dropLast else last
    (shown :: earlier).reverse

/-- The endpoints that a path fits, each with its method, in order of precedence. A word at the end of a
path may be followed by a line break; a part that stands for anything keeps it. -/
def endpoints (parts : List String) : List (String × Endpoint) :=
  let words := withoutBreak parts
  let fitting : List (Option (String × Endpoint)) := [
    match words with
    | ["health"] => some ("GET", .health)
    | _ => none,
    match words with
    | ["accounts"] => some ("POST", .openAccount)
    | _ => none,
    match parts with
    | ["accounts", "by-number", number] => some ("GET", .accountNumbered number)
    | _ => none,
    match parts with
    | ["accounts", id] => some ("GET", .account id)
    | _ => none,
    match words with
    | ["users", owner, "accounts"] => some ("GET", .accountsOf owner)
    | _ => none,
    match words with
    | ["accounts", id, "status"] => some ("PATCH", .changeStatus id)
    | _ => none,
    match words with
    | ["accounts", id, "balance"] => some ("GET", .balance id)
    | _ => none,
    match words with
    | ["accounts", id, "transactions"] => some ("GET", .history id)
    | _ => none,
    match words with
    | ["transactions", "deposit"] => some ("POST", .post .deposit)
    | ["transactions", "withdraw"] => some ("POST", .post .withdrawal)
    | ["transactions", "transfer"] => some ("POST", .post .transfer)
    | ["transactions", "interest"] => some ("POST", .post .interest)
    | _ => none]
  fitting.filterMap id

/-- The parts of a path between its slashes; none of them may be empty. -/
def pathParts? (path : String) : Option (List String) :=
  match path.splitOn "/" with
  | "" :: parts => if parts.any (·.isEmpty) then none else some parts
  | _ => none

/-- The endpoints that a path fits. -/
def endpointsOf (path : String) : List (String × Endpoint) :=
  ((pathParts? path).map endpoints).getD []

/-- Where a request goes. -/
inductive Routed where
  | to (endpoint : Endpoint)
  | otherMethod
  /-- The same path with or without a slash at its end has routes. -/
  | otherPath
  | nowhere
deriving DecidableEq, Repr

/-- A path with a slash at its end, or without the one that it has. -/
def toggled (path : String) : String :=
  let chars := path.toList
  if chars.getLast? = some '/' then
    String.ofList (chars.reverse.dropWhile (· = '/')).reverse
  else String.ofList (chars ++ ['/'])

/-- Where a request for a path goes. -/
def route (method path : String) : Routed :=
  let fitting := endpointsOf path
  match fitting.find? (·.1 == method) with
  | some (_, endpoint) => .to endpoint
  | none =>
    if !fitting.isEmpty then .otherMethod
    else if path ≠ "/" ∧ !(endpointsOf (toggled path)).isEmpty then .otherPath
    else .nowhere

end Passbook.Web
