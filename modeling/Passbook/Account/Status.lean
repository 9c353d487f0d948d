/-!
Kinds of accounts and the life of an account. An account is active, frozen or closed; an active and a
frozen one may turn into each other and both may be closed, and a closed one stays closed. Main
statements: names read back (`AccountKind.ofName?_name`, `AccountStatus.ofName?_name`), no status turns
into itself, and nothing follows `closed` (`AccountStatus.mayBecome_self`,
`AccountStatus.closed_mayBecome`).
-/

set_option autoImplicit false
set_option relaxedAutoImplicit false

namespace Passbook

/-- The product that an account was opened as. -/
inductive AccountKind where
  | savings
  | checking
  | business
deriving DecidableEq, Repr

namespace AccountKind

/-- The name of a kind of account. -/
def name : AccountKind → String
  | .savings => "SAVINGS"
  | .checking => "CHECKING"
  | .business => "BUSINESS"

/-- All kinds of accounts. -/
def all : List AccountKind := [.savings, .checking, .business]

/-- The kind of account with a name. -/
def ofName? (text : String) : Option AccountKind := all.find? (·.name == text)

@[simp]
theorem ofName?_name (kind : AccountKind) : ofName? kind.name = some kind := by
  cases kind <;> decide

end AccountKind

/-- Where an account stands in its life. -/
inductive AccountStatus where
  | active
  | frozen
  | closed
deriving DecidableEq, Repr

namespace AccountStatus

/-- The name of a status. -/
def name : AccountStatus → String
  | .active => "ACTIVE"
  | .frozen => "FROZEN"
  | .closed => "CLOSED"

/-- All statuses of accounts. -/
def all : List AccountStatus := [.active, .frozen, .closed]

/-- The status with a name. -/
def ofName? (text : String) : Option AccountStatus := all.find? (·.name == text)

@[simp]
theorem ofName?_name (status : AccountStatus) : ofName? status.name = some status := by
  cases status <;> decide

/-- The statuses that may follow a status. -/
def successors : AccountStatus → List AccountStatus
  | .active => [.frozen, .closed]
  | .frozen => [.active, .closed]
  | .closed => []

/-- Whether an account may turn from one status to another. -/
def mayBecome (status next : AccountStatus) : Bool := status.successors.contains next

/-- Whether money may move on an account of this status. -/
def isEligible (status : AccountStatus) : Bool := status == .active

theorem mayBecome_self (status : AccountStatus) : status.mayBecome status = false := by
  cases status <;> rfl

theorem closed_mayBecome (next : AccountStatus) : mayBecome .closed next = false := rfl

end AccountStatus

end Passbook
