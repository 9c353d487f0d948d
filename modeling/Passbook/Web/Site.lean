import Passbook.Ledger.Engine
import Passbook.Ledger.Service
import Passbook.Web.Answer
import Passbook.Web.Request
import Passbook.Web.Route

/-!
Answering requests on a ledger. A request's fields are all checked before anything is done, and all
problems are answered together. Failures that callers are told about become answers where money moves,
accounts are opened and statuses change; any other failure is a breakdown. `Site.answer` answers a
request.
-/

set_option autoImplicit false
set_option relaxedAutoImplicit false

namespace Passbook.Web

/-- What runs on a ledger to answer a request. -/
abbrev Answering (Result : Type) := Procedure Breakdown Ledger Result

namespace Answering

/-- Runs an operation; its failure is a value here. -/
def attempting {Result : Type} (action : Ledger.Action Result) :
    Answering (Except Failure Result) :=
  fun ledger ↦
    let (outcome, ledger) := action ledger
    (.ok outcome, ledger)

/-- Runs an operation; its failure is a breakdown. -/
def running {Result : Type} (action : Ledger.Action Result) : Answering Result := do
  match ← attempting action with
  | .ok result => return result
  | .error failure => throw (.operation failure)

/-- Runs an operation and answers with its result, or with the failure that callers are told about. -/
def answering {Result : Type} (action : Ledger.Action Result) (ofResult : Result → Answering Answer) :
    Answering Answer := do
  match ← attempting action with
  | .ok result => ofResult result
  | .error (.ledger failure) => return .ofFailure failure
  | .error failure => throw (.operation failure)

/-- The engine that the settings make. -/
def engine : Answering Engine := do
  match Engine.make {} (← get).settings with
  | .ok engine => return engine
  | .error failure => throw (.operation failure)

end Answering

/-- The result of checking fields: a value, or all problems with them. -/
abbrev Checked (Result : Type) := Except (List Problem) Result

namespace Checked

/-- Two checks side by side; the problems of both count. -/
def both {First Second : Type} (first : Checked First) (second : Checked Second) :
    Checked (First × Second) :=
  match first, second with
  | .ok first, .ok second => .ok (first, second)
  | .error problems, .ok _ => .error problems
  | .ok _, .error problems => .error problems
  | .error problems, .error others => .error (problems ++ others)

/-- A text in the path. -/
def inPath {Result : Type} (name : String) (text : String)
    (reader : Json → Except FieldFault Result) : Checked Result :=
  (reader (.string text)).mapError fun fault ↦
    [⟨fault, [.name "path", .name name], .string text⟩]

/-- A value in the query, or the usual one if there is none. -/
def inQuery {Result : Type} (address : Address) (name : String) (usual : Result)
    (reader : Json → Except FieldFault Result) : Checked Result :=
  match address.queryValue? name with
  | none => .ok usual
  | some text =>
    (reader (.string text)).mapError fun fault ↦
      [⟨fault, [.name "query", .name name], .string text⟩]

/-- A field of the body. -/
def inBody {Result : Type} (body : Json) (name : String) (usual : Option Result)
    (reader : Json → Except FieldFault Result) : Checked Result :=
  match body.entry? name, usual with
  | some found, _ =>
    (reader found).mapError fun fault ↦ [⟨fault, [.name "body", .name name], found⟩]
  | none, some usual => .ok usual
  | none, none => .error [⟨.missing, [.name "body", .name name], body⟩]

/-- The fields of the body, which must be an object. -/
def fields {Result : Type} (content : Content) (reader : Json → Checked Result) :
    Checked Result :=
  match content with
  | .missing => .error [⟨.missing, [.name "body"], .null⟩]
  | .json body =>
    match body with
    | .object _ => reader body
    | other => .error [⟨.notObject, [.name "body"], other⟩]
  | .bytes => .error [⟨.notObject, [.name "body"], .null⟩]

end Checked

namespace Site

/-- Goes on with fields that are all right, and answers otherwise. -/
def check {Result : Type} (checked : Checked Result) (go : Result → Answering Answer) :
    Answering Answer :=
  match checked with
  | .ok result => go result
  | .error problems => Procedure.ofExcept (Answer.ofProblems problems)

/-- Reads the body of a request and goes on with it, or answers that it cannot be read. -/
def withBody (request : Request) (go : Content → Answering Answer) : Answering Answer :=
  match request.body.content with
  | .ok content => go content
  | .error (.malformed place) =>
    Procedure.ofExcept (Answer.ofProblems
      [⟨.notJson, [.name "body", .place place], .object []⟩])
  | .error .tooManyDigits | .error .tooDeep | .error .undecodable =>
    return .detail 400 (.string "There was an error parsing the body")

/-- Answers with an account. -/
def answerAccount (status : Nat) (account : Account) : Answering Answer :=
  return .ofJson status (← Procedure.ofExcept (accountJson account))

/-- Says whether the store can be reached. -/
def health : Answering Answer := do
  let reachable := (← get).storage.reachable
  if !reachable then
    let _ ← Answering.attempting
      (Ledger.report .error "Health check could not reach the database")
  return .ofJson 200 (.object [
    ("status", .string (if reachable then "healthy" else "degraded")),
    ("service", .string "ledger-core"),
    ("database", .string (if reachable then "healthy" else "unhealthy"))])

/-- Opens an account. -/
def openAccount (content : Content) : Answering Answer :=
  let checked := Checked.fields content fun body ↦
    (Checked.inBody body "user_id" none fun found ↦ do above 0 (← whole found)).both
      (.inBody body "account_type" none accountKind)
  check checked fun (owner, kind) ↦
    Answering.answering (Ledger.openAccount (some owner) kind) (answerAccount 201)

/-- The account with a number. -/
def accountNumbered (number : String) : Answering Answer := do
  match ← Answering.running (Ledger.accountNumbered number) with
  | some account => answerAccount 200 account
  | none => return .notFound (.text number)

/-- The account with an id. -/
def account (id : String) : Answering Answer :=
  check (.inPath "account_id" id whole) fun id ↦ do
    match ← Answering.running (Ledger.account id) with
    | some account => answerAccount 200 account
    | none => return .notFound (.integer id)

/-- The accounts of an owner. -/
def accountsOf (owner : String) : Answering Answer :=
  check (.inPath "user_id" owner whole) fun owner ↦ do
    let accounts ← Answering.running (Ledger.accountsOf owner)
    return .ofJson 200 (.array (← Procedure.ofExcept (accounts.mapM accountJson)))

/-- Changes the status of an account. -/
def changeStatus (id : String) (content : Content) : Answering Answer :=
  let checked := (Checked.inPath "account_id" id whole).both <|
    Checked.fields content fun body ↦
      (Checked.inBody body "new_status" none accountStatus).both
        (.inBody body "reason" (some "") (shortText 255))
  check checked fun (id, status, reason) ↦
    Answering.answering (Ledger.changeStatus id status reason) (answerAccount 200)

/-- The balance of an account. -/
def balance (id : String) : Answering Answer :=
  check (.inPath "account_id" id whole) fun id ↦ do
    match ← Answering.running (Ledger.account id) with
    | some account => return .ofJson 200 (← Procedure.ofExcept (balanceJson account))
    | none => return .notFound (.integer id)

/-- The newest transactions of an account. -/
def history (id : String) (address : Address) : Answering Answer := do
  let _ ← Answering.engine
  let checked := (Checked.inPath "account_id" id whole).both
    (.inQuery address "limit" 50 fun found ↦ do within 1 500 (← whole found))
  check checked fun (id, limit) ↦ do
    match ← Answering.running (Ledger.account id) with
    | none => return .notFound (.integer id)
    | some _ =>
      let history ← Answering.running (Ledger.history id (.integer limit))
      let records ← Answering.running (Ledger.walk history)
      return .ofJson 200 (.array (records.map recordJson))

/-- The accounts of a movement in the fields of a body. -/
def movement (kind : TransactionKind) (body : Json) : Checked Movement :=
  match kind with
  | .transfer =>
    ((Checked.inBody body "source_account_id" none whole).both
      (.inBody body "destination_account_id" none whole)).map fun (source, destination) ↦
        .transfer source destination
  | kind => (Checked.inBody body "account_id" none whole).map fun account ↦
      .between kind account account

/-- Moves money. -/
def post (kind : TransactionKind) (content : Content) : Answering Answer := do
  let engine ← Answering.engine
  let checked := Checked.fields content fun body ↦
    (movement kind body).both <|
      (Checked.inBody body "amount" none amount).both
        (.inBody body "description" (some (Ledger.usualDescription kind))
          (shortText maxDescription))
  check checked fun (movement, amount, description) ↦
    Answering.answering
      (Ledger.post engine movement (.decimal amount) (.text description))
      fun record ↦ return .ofJson 201 (recordJson record)

/-- Answers a request for an endpoint. -/
def answerAt (request : Request) (address : Address) : Endpoint → Answering Answer
  | .health => health
  | .openAccount => withBody request openAccount
  | .accountNumbered number => accountNumbered number
  | .account id => account id
  | .accountsOf owner => accountsOf owner
  | .changeStatus id => withBody request (changeStatus id)
  | .balance id => balance id
  | .history id => history id address
  | .post kind => withBody request (post kind)

/-- An answer without what a request does not want to see of it. -/
def forMethod (method : String) (answer : Answer) : Answer :=
  if method = "HEAD" then { answer with body := .text "" } else answer

/-- Where a request leads. A target must be well formed and the body fit to be sent before it matters
who is asked. -/
def addressOf (request : Request) : Except Breakdown Address :=
  match Address.ofTarget request.target with
  | .error .malformed => .error (.misdirected .malformed)
  | address =>
    if request.body.isSendable then address.mapError .misdirected else .error .notEncodable

/-- Answers a request. -/
def answer (request : Request) : Answering Answer := do
  let method := request.method.map Char.toUpper
  let address ← Procedure.ofExcept (addressOf request)
  let answer ←
    match route method address.pathText with
    | .to endpoint => answerAt request address endpoint
    | .otherMethod => pure (.detail 405 (.string "Method Not Allowed"))
    | .otherPath => pure ⟨307, .text ""⟩
    | .nowhere => pure (.detail 404 (.string "Not Found"))
  return forMethod method answer

end Site

end Passbook.Web
