import Passbook.Ledger.Posting
import Passbook.Value.Measure

/-!
Trying again. A posting that conflicts with another operation, or that the store has trouble with, is
tried again after a pause that grows with every try; any other failure is final, and so is the last
try's, and that of a pause that nobody can take. `Retry.run` does this for any way of trying, so it can be
looked at without a store.
-/

set_option autoImplicit false
set_option relaxedAutoImplicit false

namespace Passbook

/-- How often something is tried, and the first of the pauses in between. -/
structure Retry where
  maxAttempts : Nat
  backoff : Value
  positive : 0 < maxAttempts
deriving Repr

/-- What is posted, as notices name it. -/
structure Subject where
  kind : TransactionKind
  accounts : List Int
deriving Repr

namespace Subject

/-- The subject of a posting. -/
def ofPosting (posting : Posting) : Subject where
  kind := posting.movement.kind
  accounts := posting.movement.accounts

/-- The accounts in brackets. -/
def accountsText (subject : Subject) : String :=
  (Value.tuple (subject.accounts.map .integer)).quoted

/-- The start of a notice. -/
def heading (subject : Subject) : String := subject.kind.name ++ " on " ++ subject.accountsText

end Subject

/-- What a failed try leads to. -/
inductive Verdict where
  | again (notice : Notice)
  | final (failure : Failure) (notices : List Notice)
deriving Repr

namespace Retry

/-- Which try of how many. -/
def counted (retry : Retry) (number : Nat) : String :=
  "(attempt " ++ toString number ++ "/" ++ toString retry.maxAttempts ++ ")"

/-- What the store's trouble is called in notices. -/
def troubleText : StoreTrouble → String
  | .injected => "(builtins.Exception) " ++ StoreTrouble.injected.message
  | cause => "(sqlite3.OperationalError) " ++ cause.message

/-- What a failed try leads to; the last try's failure is final. -/
def verdict (retry : Retry) (subject : Subject) (number : Nat) (failure : Failure) : Verdict :=
  let isLast := number = retry.maxAttempts
  match failure with
  | .ledger (.conflict _) =>
    if isLast then
      .final failure [⟨.warning, subject.heading ++ " gave up after " ++ toString number ++
        " attempts: concurrent modification"⟩]
    else
      .again ⟨.warning, subject.heading ++ " conflicted, retrying " ++ retry.counted number⟩
  | .trouble cause =>
    if isLast then
      .final (.ledger (.outage (.unavailable subject.kind)))
        [⟨.error, subject.heading ++ " rolled back, database unavailable"⟩]
    else
      .again ⟨.warning, subject.heading ++ " hit a database error, retrying " ++
        retry.counted number ++ ": " ++ troubleText cause⟩
  | .integrity _ | .unstorable | .store =>
    .final (.ledger (.outage (.refused subject.kind)))
      [⟨.error, subject.heading ++ " rolled back after a database error"⟩]
  | .ledger cause =>
    match cause with
    | .accountNotFound _ | .accountNotActive .. | .insufficientFunds .. =>
      .final failure [⟨.warning, "Rejected " ++ subject.kind.name ++ ": " ++ cause.message⟩]
    | _ => .final failure []
  | _ => .final failure []

/-- The pause after a try. It may be as long as it comes to: whether a clock can take it is not asked here, other
than for the patience with locks. -/
def pause (retry : Retry) (number : Nat) : Except Failure Binary64 :=
  retry.backoff.pause number

/-- The id of a record in notices. -/
def idText (record : Record) : String :=
  match record.id with
  | some id => toString id
  | none => Value.absent.quoted

/-- The notices about a try that ended with a record. -/
def successNotices (subject : Subject) (posted : Work.Posted) : List Notice :=
  let found : List Notice :=
    match posted with
    | .applied _ => []
    | .found record =>
      [⟨.warning, record.movement.kind.name ++
        " <uuid> was already committed, not applying it again"⟩]
  let record := posted.record
  found ++ [⟨.info, subject.kind.name ++ " of " ++ record.amount.asText ++ " committed for " ++
    subject.accountsText ++ " (transaction " ++ idText record ++ ")"⟩]

/-- Tries from a given try on, with so many more tries after it. -/
def runFrom {State : Type} (retry : Retry) (subject : Subject)
    (attempt : Nat → StateM State (Except Failure Work.Posted)) :
    Nat → Nat → StateM State (Except Failure Record × Journal)
  | more, number => do
    match ← attempt number with
    | .ok posted =>
      return (.ok posted.record, { notices := successNotices subject posted })
    | .error failure =>
      match retry.verdict subject number failure with
      | .final failure notices => return (.error failure, { notices })
      | .again notice =>
        match more with
        | 0 => return (.error failure, {})
        | more + 1 =>
          match retry.pause number with
          | .error failure => return (.error failure, { notices := [notice] })
          | .ok pause =>
            let (outcome, later) ← runFrom retry subject attempt more (number + 1)
            return (outcome, { notices := [notice], pauses := [pause] } ++ later)

/-- Tries until a try has a final outcome. -/
def run {State : Type} (retry : Retry) (subject : Subject)
    (attempt : Nat → StateM State (Except Failure Work.Posted)) :
    StateM State (Except Failure Record × Journal) :=
  runFrom retry subject attempt (retry.maxAttempts - 1) 1

end Retry

end Passbook
