import Passbook.Proofs.History.AuditTrail

/-!
What the version of an account counts. Every write to an account raises its version by one and comes with a
row that tells of it, in the transactions or in the audit trail. So in all tables that arise the version is
one more than the number of those rows (`Database.Attained.version_eq`).
-/

set_option autoImplicit false
set_option relaxedAutoImplicit false

namespace Passbook.Database

variable {before after database : Database}

/-- The changes of the status of an account that the audit trail tells of. -/
def statusChanges (database : Database) (id : Int) : List AuditRow :=
  (database.trail id).filter (·.event.typeName = "ACCOUNT_STATUS_CHANGED")

/-- Every account was written once for each row that tells of a write to it. -/
def Versioned (database : Database) : Prop :=
  ∀ id row, database.account? id = some row →
    row.version = 1 + (database.mentioning id).length + (database.statusChanges id).length

/-! ### Rows about an account from one unit to the next -/

theorem Posted.mentioning_involved {posting : Posting} {cents : Int} {new : TransactionRow}
    (posted : before.Posted posting cents new after) {id : Int}
    (involved : id ∈ posting.movement.accounts) :
    after.mentioning id = before.mentioning id ++ [new] := by
  unfold mentioning
  rw [posted.recorded, List.filter_append]
  simp [posted.movement, involved]

theorem Posted.mentioning_other {posting : Posting} {cents : Int} {new : TransactionRow}
    (posted : before.Posted posting cents new after) {id : Int}
    (other : id ∉ posting.movement.accounts) : after.mentioning id = before.mentioning id := by
  unfold mentioning
  rw [posted.recorded, List.filter_append]
  simp [posted.movement, other]

theorem mentioning_congr (same : after.transactions = before.transactions) (id : Int) :
    after.mentioning id = before.mentioning id :=
  congrArg (List.filter _) same

/-- No transaction touches an account that is not there. -/
theorem Reconciled.mentioning_unused (reconciled : database.Reconciled) {id : Int}
    (unused : database.account? id = none) : database.mentioning id = [] := by
  refine List.filter_eq_nil_iff.2 fun row member touches ↦ ?_
  have there := reconciled.known row member id (by simpa using touches)
  obtain ⟨account, isAccount, rfl⟩ := List.mem_map.1 there
  rw [account?_of_mem reconciled.keys isAccount] at unused
  cases unused

/-! ### One unit -/

theorem Versioned.posted {posting : Posting} {cents : Int} {new : TransactionRow}
    (versioned : before.Versioned) (posted : before.Posted posting cents new after) :
    after.Versioned := by
  intro id row found
  rw [statusChanges, posted.trail]
  obtain ⟨old, found', ⟨other, rfl⟩ | ⟨involved, balance, rfl⟩⟩ := posted.account?_cases found
  · rw [posted.mentioning_other other]
    exact versioned id row found'
  · have counted := versioned id old found'
    rw [posted.mentioning_involved involved, List.length_append, List.length_singleton]
    change old.version + 1 = _
    unfold statusChanges at counted
    omega

theorem Versioned.statusChanged {id : Int} {status : AccountStatus} {reason : String}
    {old : AccountRow} (versioned : before.Versioned)
    (changed : before.StatusChanged id status reason old after) : after.Versioned := by
  intro other row found
  rw [mentioning_congr changed.transactions, statusChanges]
  rcases changed.account?_cases found with ⟨differ, found⟩ | ⟨rfl, rfl⟩
  · rw [trail_other changed.audit differ]
    exact versioned other row found
  · have counted := versioned other old changed.found
    rw [trail_self changed.audit, List.filter_append, List.length_append]
    change old.version + 1 = _ + ((_ + 1 : Nat) : Int)
    unfold statusChanges at counted
    omega

theorem Versioned.opened {new : AccountRow} (versioned : before.Versioned)
    (reconciled : before.Reconciled) (audited : before.Audited)
    (opened : before.Opened new after) : after.Versioned := by
  intro id row found
  rw [mentioning_congr opened.transactions, statusChanges]
  rcases opened.account?_cases found with ⟨differ, found⟩ | ⟨rfl, rfl⟩
  · rw [trail_other opened.audit differ]
    exact versioned id row found
  · rw [trail_self opened.audit, audited.trail_unused opened.unused, reconciled.mentioning_unused opened.unused,
      opened.version]
    rfl

/-! ### Runs -/

theorem Attained.versioned (attained : database.Attained) : database.Versioned := by
  refine (attained.induct (fun tables ↦ tables.Reconciled ∧ tables.Audited ∧ tables.Versioned)
    ⟨reconciled_empty, audited_empty, ?_⟩ ?_).2.2
  · intro id row found
    cases found
  · rintro before after ⟨reconciled, audited, versioned⟩ step
    refine ⟨reconciled.step step, audited.step step, ?_⟩
    cases step with
    | posted _ _ _ _ posted => exact versioned.posted posted
    | statusChanged _ _ _ _ changed => exact versioned.statusChanged changed
    | opened _ opened => exact versioned.opened reconciled audited opened

/-- In all tables that arise, the version of an account is one more than the number of transactions that it
is the source or the destination of and of changes of its status. -/
theorem Attained.version_eq (attained : database.Attained) :
    ∀ account ∈ database.accounts, account.version =
      1 + (database.mentioning account.id).length + (database.statusChanges account.id).length :=
  fun _ member ↦
    attained.versioned _ _ (account?_of_mem attained.reconciled.keys member)

/-- Two clients change the status of an account after money was moved on it. -/
theorem Attained.version_eq_rivals :
    let deposit := Request.post (Ledger.trying 2 (by decide)) (.deposit 1) (.text "12.34") (.text "")
    let database := ((World.start {}).run
      (.ask 2 (.openAccount (some 1) .checking) :: .go 2 :: .ask 2 deposit :: .go 2 :: .go 2 ::
        rivals)).database
    ∃ account ∈ database.accounts, account.version = 4 ∧
      account.version = 1 + (database.mentioning account.id).length +
        (database.statusChanges account.id).length := by
  intro deposit database
  have attained : database.Attained :=
    Or.inr ⟨_, by simp [rivals, deposit], rfl⟩
  obtain ⟨account, member, version⟩ :
      ∃ account ∈ database.accounts, account.version = 4 := by decide +kernel
  exact ⟨account, member, version, attained.version_eq account member⟩

end Passbook.Database
