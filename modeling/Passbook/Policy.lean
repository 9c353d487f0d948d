import Passbook.Money.Amount

/-!
Rules that are consulted before anything is touched: the ceilings of amounts and the length of
descriptions. A refused request has had no effect.
-/

set_option autoImplicit false
set_option relaxedAutoImplicit false

namespace Passbook

/-- The largest amount of each kind of transaction; a kind may have none. -/
structure Ceilings where
  entries : List (TransactionKind × Value)
deriving Repr

namespace Ceilings

/-- The ceiling of a kind. -/
def of? (ceilings : Ceilings) (kind : TransactionKind) : Option Value :=
  ceilings.entries.lookup kind

/-- Whether an amount is above zero and at most the ceiling of its kind, which is asked for only if the
amount is above zero. -/
def allow (ceilings : Ceilings) (kind : TransactionKind) (amount : Value) : Except Failure Bool := do
  if ← ((Value.decimal .zero).isBelow amount).mapError .ofIncomparable then
    match ceilings.of? kind with
    | none => throw .noEntry
    | some ceiling => (amount.isAtMost ceiling).mapError .ofIncomparable
  else return false

end Ceilings

/-- The description, if it is text that the log can hold. -/
def checkDescription (given : Value) : Except Failure String :=
  match given with
  | .text content =>
    if maxDescription < content.length then .error (.ledger (.invalidDescription .tooLong))
    else .ok content
  | given => .error (.ledger (.invalidDescription (.notText given)))

end Passbook
