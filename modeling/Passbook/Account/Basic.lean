import Passbook.Account.Status
import Passbook.Decimal.Basic
import Passbook.Value.Basic

/-!
Accounts as they are read from the store, and their numbers. An account number is the id, padded with
zeros behind its sign to ten characters, so the id can be read off it.
-/

set_option autoImplicit false
set_option relaxedAutoImplicit false

namespace Passbook

/-- An account as a reader holds it. `offered` is the opening balance in the form in which a caller
gave it, until the account is read again. -/
structure Account where
  id : Int
  number : String
  owner : Int
  kind : AccountKind
  status : AccountStatus
  balance : Decimal
  version : Int
  offered : Option Value := none
deriving Repr

namespace Account

/-- A number padded to a width with zeros, which stand behind its sign. -/
def padded (width : Nat) (number : Int) : List Char :=
  let sign := if number < 0 then ['-'] else []
  let shown := Text.digits number.natAbs
  sign ++ List.replicate (width - sign.length - shown.length) '0' ++ shown

/-- The number of the account with an id. -/
def numberOf (id : Int) : String := String.ofList ("ACC".toList ++ padded 10 id)

/-- The balance as it is shown: as it was offered, until the account is read again. -/
def shownBalance (account : Account) : Value := account.offered.getD (.decimal account.balance)

/-- An account in few words. -/
def summary (account : Account) : String :=
  "<Account " ++ account.number ++ " " ++ account.kind.name ++ " (" ++ account.status.name ++ ")>"

end Account

end Passbook
