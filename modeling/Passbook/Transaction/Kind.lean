/-!
Kinds of transactions and how far a transaction has come. Main statements: names read back
(`TransactionKind.ofName?_name`, `TransactionStatus.ofName?_name`).
-/

set_option autoImplicit false
set_option relaxedAutoImplicit false

namespace Passbook

/-- What a transaction is. -/
inductive TransactionKind where
  | deposit
  | withdrawal
  | transfer
  | interest
deriving DecidableEq, Repr

namespace TransactionKind

/-- The name of a kind of transaction. -/
def name : TransactionKind → String
  | .deposit => "DEPOSIT"
  | .withdrawal => "WITHDRAWAL"
  | .transfer => "TRANSFER"
  | .interest => "INTEREST"

/-- The name in small letters. -/
def word : TransactionKind → String
  | .deposit => "deposit"
  | .withdrawal => "withdrawal"
  | .transfer => "transfer"
  | .interest => "interest"

/-- The name at the start of a sentence. -/
def title : TransactionKind → String
  | .deposit => "Deposit"
  | .withdrawal => "Withdrawal"
  | .transfer => "Transfer"
  | .interest => "Interest"

/-- All kinds of transactions. -/
def all : List TransactionKind := [.deposit, .withdrawal, .transfer, .interest]

/-- The kind of transaction with a name. -/
def ofName? (text : String) : Option TransactionKind := all.find? (·.name == text)

@[simp]
theorem ofName?_name (kind : TransactionKind) : ofName? kind.name = some kind := by
  cases kind <;> decide

end TransactionKind

/-- How far a transaction has come. -/
inductive TransactionStatus where
  | pending
  | completed
  | failed
deriving DecidableEq, Repr

namespace TransactionStatus

/-- The name of a status. -/
def name : TransactionStatus → String
  | .pending => "PENDING"
  | .completed => "COMPLETED"
  | .failed => "FAILED"

/-- All statuses of transactions. -/
def all : List TransactionStatus := [.pending, .completed, .failed]

/-- The status with a name. -/
def ofName? (text : String) : Option TransactionStatus := all.find? (·.name == text)

@[simp]
theorem ofName?_name (status : TransactionStatus) : ofName? status.name = some status := by
  cases status <;> decide

end TransactionStatus

end Passbook
