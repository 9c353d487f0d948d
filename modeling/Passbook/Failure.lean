import Passbook.Account.Status
import Passbook.Instant
import Passbook.Transaction.Kind
import Passbook.Value.Number

/-!
How an operation fails. A `LedgerFailure` is one that callers are told about: it has a stable code, a
message, and says whether the same request may succeed when it is repeated. The other `Failure`s come
from the store, from values that a rule cannot be applied to, or from a caller's own code. Causes are
data; the wording is in `message` alone. Main statement: what a failure is told with reads as its message
(`LedgerFailure.statement_text`).
-/

set_option autoImplicit false
set_option relaxedAutoImplicit false

namespace Passbook

/-- What the maker of a failure had it say in place of its own words: any value, or the status of an
account. -/
inductive Statement where
  | value (given : Value)
  | status (given : AccountStatus)
deriving Repr

/-- The statement in words. -/
def Statement.text : Statement → String
  | .value given => given.asText
  | .status given => "AccountStatus." ++ given.name

/-- What is wrong with an amount. -/
inductive AmountFault where
  /-- A binary number or a truth value is not an exact amount. -/
  | inexact (given : Value)
  | notNumeric (given : Value)
  | notFinite (given : Value)
  | tooLarge (given : Value)
  | tooFine (given : Value)
  /-- A record must move something. -/
  | notPositive (given : Value)
  /-- The amount is not above zero and at most the ceiling. -/
  | outOfBounds (kind : TransactionKind) (ceiling : Value) (amount : Decimal)
  | stated (statement : Statement)
deriving Repr

/-- The fault in words. -/
def AmountFault.message : AmountFault → String
  | .inexact given => "Amount must be an exact decimal, got " ++ given.quoted
  | .notNumeric given => "Amount is not a number: " ++ given.quoted
  | .notFinite given => "Amount must be finite, got " ++ given.quoted
  | .tooLarge given => "Amount is out of range: " ++ given.quoted
  | .tooFine given => "Amount has more than two decimal places: " ++ given.quoted
  | .notPositive given => "Amount must be positive, got " ++ given.asText
  | .outOfBounds kind ceiling amount =>
    kind.title ++ " amount must be greater than 0 and at most " ++ ceiling.asText ++ ", got " ++
      amount.text
  | .stated statement => statement.text

/-- The most characters of a description. -/
def maxDescription : Nat := 255

/-- What is wrong with a description. -/
inductive DescriptionFault where
  | notText (given : Value)
  | tooLong
  | stated (statement : Statement)
deriving Repr

/-- The fault in words. -/
def DescriptionFault.message : DescriptionFault → String
  | .notText given => "Description must be text, got " ++ given.kindName
  | .tooLong => "Description is longer than " ++ toString maxDescription ++ " characters"
  | .stated statement => statement.text

/-- Why two operations got into each other's way. -/
inductive Conflict where
  /-- The account was written after it was read. -/
  | modified (account : Int)
  /-- Another operation kept the account's lock for too long. -/
  | lockTimeout (account : Int)
  | stated (statement : Statement)
deriving Repr

/-- The conflict in words. -/
def Conflict.message : Conflict → String
  | .modified account => "Account " ++ toString account ++ " was modified concurrently"
  | .lockTimeout account => "Timed out waiting for lock on account " ++ toString account
  | .stated statement => statement.text

/-- How the store failed an operation. -/
inductive Outage where
  /-- The store could not be reached. -/
  | unavailable (kind : TransactionKind)
  /-- The store refused the operation. -/
  | refused (kind : TransactionKind)
  | stated (statement : Statement)
deriving Repr

/-- The outage in words. -/
def Outage.message : Outage → String
  | .unavailable kind => "Database unavailable, " ++ kind.word ++ " was not applied"
  | .refused kind => "Database error, " ++ kind.word ++ " was not applied"
  | .stated statement => statement.text

/-- A failure that callers are told about. Accounts and amounts are named as the caller named them. -/
inductive LedgerFailure where
  | general (statement : Statement)
  | invalidAmount (fault : AmountFault)
  | invalidDescription (fault : DescriptionFault)
  | accountNotFound (account : Value)
  | accountNotActive (account : Value) (status : AccountStatus)
  | insufficientFunds (account available requested : Value)
  | sameAccount (account : Value)
  | invalidTransition (account : Value) (current requested : AccountStatus)
  | conflict (cause : Conflict)
  | outage (cause : Outage)
deriving Repr

namespace LedgerFailure

/-- The stable code of a failure. -/
def code : LedgerFailure → String
  | .general _ => "LEDGER_ERROR"
  | .invalidAmount _ => "INVALID_AMOUNT"
  | .invalidDescription _ => "INVALID_DESCRIPTION"
  | .accountNotFound _ => "ACCOUNT_NOT_FOUND"
  | .accountNotActive .. => "ACCOUNT_NOT_ACTIVE"
  | .insufficientFunds .. => "INSUFFICIENT_FUNDS"
  | .sameAccount _ => "SAME_ACCOUNT"
  | .invalidTransition .. => "INVALID_STATUS_TRANSITION"
  | .conflict _ => "CONCURRENCY_CONFLICT"
  | .outage _ => "PERSISTENCE_UNAVAILABLE"

/-- Whether the same request may succeed when it is repeated. -/
def isRetryable : LedgerFailure → Bool
  | .conflict _ | .outage _ => true
  | _ => false

/-- The failure in words. -/
def message : LedgerFailure → String
  | .general statement => statement.text
  | .invalidAmount fault => fault.message
  | .invalidDescription fault => fault.message
  | .accountNotFound account => "Account " ++ account.asText ++ " not found"
  | .accountNotActive account status =>
    "Account " ++ account.asText ++ " is not active (status: " ++ status.name ++ ")"
  | .insufficientFunds account available requested =>
    "Insufficient funds in account " ++ account.asText ++ ": available=" ++ available.asText ++
      ", requested=" ++ requested.asText
  | .sameAccount account => "Cannot transfer from account " ++ account.asText ++ " to itself"
  | .invalidTransition account current requested =>
    "Account " ++ account.asText ++ " cannot transition from " ++ current.name ++ " to " ++
      requested.name
  | .conflict cause => cause.message
  | .outage cause => cause.message

/-- What a failure says: what its maker had it say, or else its own words. -/
def statement : LedgerFailure → Statement
  | .general statement | .invalidAmount (.stated statement) | .invalidDescription (.stated statement)
  | .conflict (.stated statement) | .outage (.stated statement) => statement
  | failure => .value (.text failure.message)

theorem statement_text (failure : LedgerFailure) : failure.statement.text = failure.message := by
  unfold statement
  split <;> rfl

end LedgerFailure

/-- A rule that the tables enforce. -/
inductive Constraint where
  | ownerPresent
  | balancePresent
  | sourcePresent
  | amountPresent
  /-- No balance is below zero. -/
  | balanceCheck
  /-- Every transaction moves more than nothing. -/
  | amountCheck
  /-- A transfer has a destination and nothing else has one. -/
  | destinationCheck
  | accountIdUnique
  | accountNumberUnique
  | transactionIdUnique
  | transactionReferenceUnique
deriving DecidableEq, Repr

/-- The broken constraint in words. -/
def Constraint.message : Constraint → String
  | .ownerPresent => "NOT NULL constraint failed: accounts.user_id"
  | .balancePresent => "NOT NULL constraint failed: accounts.balance"
  | .sourcePresent => "NOT NULL constraint failed: transactions.source_account_id"
  | .amountPresent => "NOT NULL constraint failed: transactions.amount"
  | .balanceCheck => "CHECK constraint failed: check_balance"
  | .amountCheck => "CHECK constraint failed: check_amount"
  | .destinationCheck => "CHECK constraint failed: check_destination"
  | .accountIdUnique => "UNIQUE constraint failed: accounts.id"
  | .accountNumberUnique => "UNIQUE constraint failed: accounts.account_number"
  | .transactionIdUnique => "UNIQUE constraint failed: transactions.id"
  | .transactionReferenceUnique => "UNIQUE constraint failed: transactions.external_id"

/-- Why the store could not do its work. -/
inductive StoreTrouble where
  | unreachable
  | locked
  | injected
deriving DecidableEq, Repr

/-- The trouble in words. -/
def StoreTrouble.message : StoreTrouble → String
  | .unreachable => "unable to open database file"
  | .locked => "database is locked"
  | .injected => "injected failure"

/-- Why a text denotes no instant, in words. -/
def instantMessage : Instant.Fault → String
  | .malformed text => "Invalid isoformat string: " ++ Text.quoted text
  | .yearRange year => "year " ++ toString year ++ " is out of range"
  | .monthRange => "month must be in 1..12"
  | .dayRange => "day is out of range for month"
  | .hourRange => "hour must be in 0..23"
  | .minuteRange => "minute must be in 0..59"
  | .secondRange => "second must be in 0..59"
  | .offsetRange microseconds =>
    "offset must be a timedelta strictly between -timedelta(hours=24) and timedelta(hours=24), not " ++
      Instant.spanText microseconds ++ "."

/-- Why a value of the right kind is of no use. -/
inductive BadValue where
  /-- No member of a closed set of names has this name. -/
  | unknownName (set text : String)
  | badParts (fault : PartsFault)
  /-- The whole number has too many digits to be written out. -/
  | tooManyDigits
  /-- A reference does not have the length of one. -/
  | badReference
  /-- A reference of the right length has characters that are no digits. -/
  | notHexadecimal (text : String)
  /-- A reference is below zero. -/
  | referenceRange
  | badInstant (fault : Instant.Fault)
  /-- The number of tries, as it is shown, is below one. -/
  | noAttempts (count : String)
  /-- The length of a history, as it is shown, is below one. -/
  | noHistory (limit : String)
  /-- What is not a number is not a whole number either. -/
  | notNumber
deriving DecidableEq, Repr

/-- The bad value in words. -/
def BadValue.message : BadValue → String
  | .unknownName set text => Text.quoted text ++ " is not a valid " ++ set
  | .badParts fault => fault.message
  | .tooManyDigits =>
    "Exceeds the limit (4300 digits) for integer string conversion; " ++
      "use sys.set_int_max_str_digits() to increase the limit"
  | .badReference => "badly formed hexadecimal UUID string"
  | .notHexadecimal text => "invalid literal for int() with base 16: " ++ Text.quotedStart text
  | .referenceRange => "int is out of range (need a 128-bit value)"
  | .badInstant fault => instantMessage fault
  | .noAttempts count => "max_attempts must be at least 1, got " ++ count
  | .noHistory limit => "History limit must be at least 1, got " ++ limit
  | .notNumber => "cannot convert float NaN to integer"

/-- What ends an operation without a result. -/
inductive Failure where
  /-- A failure that callers are told about. -/
  | ledger (failure : LedgerFailure)
  /-- A write would break a rule of the tables; without one, the failure was injected. -/
  | integrity (constraint : Option Constraint)
  /-- The store could not do its work. -/
  | trouble (cause : StoreTrouble)
  /-- A value cannot be brought into the form in which a column holds it. -/
  | unstorable
  /-- Some other failure of the store. -/
  | store
  /-- A decimal operation has no result. -/
  | undefined
  /-- Nothing is kept under this key. -/
  | noEntry
  /-- A list has no member at this place. -/
  | noMember
  /-- A value is of a kind that the operation does not apply to. -/
  | wrongKind
  /-- A number exceeds what the machine or the store can hold. -/
  | overflow
  /-- A value of the right kind is of no use. -/
  | badValue (cause : BadValue)
  /-- Something broke off on its own account. -/
  | interrupted (message : String)
  /-- A value lacks a part that the operation asks for. -/
  | noPart
deriving Repr

namespace Failure

/-- The failure with which a conversion to a decimal ends. -/
def ofNoDecimal : NoDecimal → Failure
  | .malformed => .undefined
  | .wrongKind => .wrongKind
  | .badParts fault => .badValue (.badParts fault)
  | .tooLarge => .overflow

/-- The failure with which a comparison ends. -/
def ofIncomparable : Value.Incomparable → Failure
  | .wrongKind => .wrongKind
  | .undefined => .undefined

/-- The failure of a name that is not in a closed set. -/
def unknownName (set text : String) : Failure := .badValue (.unknownName set text)

end Failure

/-- The kind of account with a name, or the failure of an unknown one. -/
def AccountKind.named (text : String) : Except Failure AccountKind :=
  ((ofName? text).map .ok).getD (.error (.unknownName "AccountKind" text))

/-- The status with a name, or the failure of an unknown one. -/
def AccountStatus.named (text : String) : Except Failure AccountStatus :=
  ((ofName? text).map .ok).getD (.error (.unknownName "AccountStatus" text))

/-- The kind of transaction with a name, or the failure of an unknown one. -/
def TransactionKind.named (text : String) : Except Failure TransactionKind :=
  ((ofName? text).map .ok).getD (.error (.unknownName "TransactionKind" text))

/-- The status with a name, or the failure of an unknown one. -/
def TransactionStatus.named (text : String) : Except Failure TransactionStatus :=
  ((ofName? text).map .ok).getD (.error (.unknownName "TransactionStatus" text))

end Passbook
