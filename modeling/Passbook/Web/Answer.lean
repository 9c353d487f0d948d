import Passbook.Account.Basic
import Passbook.Transaction.Record
import Passbook.Web.Address
import Passbook.Web.Field

/-!
Answers to requests: a status and a body, or a breakdown that nobody answers for. Amounts are sent as
text. An answer about refused fields shows what was found there, so it breaks down when that cannot be
sent.
-/

set_option autoImplicit false
set_option relaxedAutoImplicit false

namespace Passbook.Web

/-- The body of an answer. -/
inductive AnswerBody where
  | json (value : Json)
  | text (content : String)
deriving Repr

/-- An answer. -/
structure Answer where
  status : Nat
  body : AnswerBody
deriving Repr

/-- Why a request is not answered. -/
inductive Breakdown where
  | operation (failure : Failure)
  /-- The target of the request leads nowhere. -/
  | misdirected (cause : Misdirection)
  /-- A number in the answer is not finite. -/
  | notFinite
  /-- A text in the answer cannot be encoded. -/
  | notEncodable
  /-- What was to be answered does not have the form of an answer. -/
  | badAnswer
  /-- A balance is not a number. -/
  | badBalance
deriving Repr

/-- The status of the answer to a failure that callers are told about. -/
def statusOf : LedgerFailure → Nat
  | .accountNotFound _ => 404
  | .accountNotActive .. | .insufficientFunds .. | .conflict _ => 409
  | .outage _ => 503
  | .general _ | .invalidAmount _ | .invalidDescription _ | .sameAccount _
  | .invalidTransition .. => 400

mutual

/-- A value as it is sent. -/
def valueJson : Value → Json
  | .truth holds => .bool holds
  | .integer number => .integer number
  | .absent => .null
  | .binary number => .number number
  | .list members | .tuple members => .array (valuesJson members)
  | .mapping entries => .object (entriesJson entries)
  | other => .string other.asText

/-- The members of a list as they are sent. -/
def valuesJson : List Value → List Json
  | [] => []
  | member :: rest => valueJson member :: valuesJson rest

/-- The entries of a mapping as they are sent. -/
def entriesJson : List (String × Value) → List (String × Json)
  | [] => []
  | (key, value) :: rest => (key, valueJson value) :: entriesJson rest

end

/-- What a failure says, as it is sent. -/
def statementJson : Statement → Json
  | .value given => valueJson given
  | .status given => .string given.name

/-- A failure as callers are told about it. -/
def failureJson (failure : LedgerFailure) : Json := .object [
  ("message", statementJson failure.statement),
  ("code", .string failure.code),
  ("retryable", .bool failure.isRetryable)]

/-- An answer in JSON. -/
def Answer.ofJson (status : Nat) (value : Json) : Answer := ⟨status, .json value⟩

/-- An answer with details of what went wrong. -/
def Answer.detail (status : Nat) (value : Json) : Answer :=
  .ofJson status (.object [("detail", value)])

/-- The answer to a failure that callers are told about. -/
def Answer.ofFailure (failure : LedgerFailure) : Answer :=
  .detail (statusOf failure) (failureJson failure)

/-- The answer about an account that does not exist. -/
def Answer.notFound (account : Value) : Answer := .ofFailure (.accountNotFound account)

/-- A step on the way to a field, as it is sent. -/
def Step.json : Step → Json
  | .name text => .string text
  | .place number => .integer number

/-- A problem as it is sent. -/
def Problem.json (problem : Problem) : Json := .object [
  ("type", .string problem.fault.kind),
  ("loc", .array (problem.location.map Step.json)),
  ("msg", .string problem.fault.message)]

/-- The answer about refused fields. -/
def Answer.ofProblems (problems : List Problem) : Except Breakdown Answer :=
  if problems.any fun problem ↦ !problem.found.isFinite then .error .notFinite
  else if problems.any fun problem ↦ !problem.found.isEncodable then .error .notEncodable
  else .ok (.detail 422 (.array (problems.map Problem.json)))

/-- An amount as it is sent. -/
def amountJson (amount : Decimal) : Json := .string amount.text

/-- An account as it is sent; its balance must be finite. -/
def accountJson (account : Account) : Except Breakdown Json :=
  if account.balance.isFinite then
    .ok (.object [
      ("id", .integer account.id),
      ("account_number", .string account.number),
      ("user_id", .integer account.owner),
      ("account_type", .string account.kind.name),
      ("status", .string account.status.name),
      ("balance", amountJson account.balance)])
  else .error .badAnswer

/-- The balance of an account as it is sent; it must be finite. -/
def balanceJson (account : Account) : Except Breakdown Json :=
  if account.balance.isFinite then
    .ok (.object [
      ("account_id", .integer account.id),
      ("account_number", .string account.number),
      ("status", .string account.status.name),
      ("balance", amountJson account.balance)])
  else .error .badBalance

/-- A whole number that may be missing, as it is sent. -/
def optionalJson (number : Option Int) : Json := (number.map Json.integer).getD .null

/-- A record as it is sent. -/
def recordJson (record : Record) : Json := .object [
  ("id", optionalJson record.id),
  ("transaction_type", .string record.movement.kind.name),
  ("status", .string record.status.name),
  ("source_account_id", .integer record.movement.source),
  ("destination_account_id", optionalJson record.movement.destination?),
  ("amount", .string record.amount.asText),
  ("description", (record.description.map Json.string).getD .null)]

end Passbook.Web
