import Passbook.Proofs.History.Steps

/-!
The audit trail and the statuses of the accounts. What a row of the trail records is read off its type and
its text (`AuditRow.change?`), and `AccountStatus.replay` follows recorded changes from a status, as long as
each starts where the one before it ended and is one that the life of an account allows. In all tables that
arise, the rows about an account are its opening and then changes that lead from active to the status that
the account has (`Database.Attained.audit_replays`). `Database.Audited` is the invariant behind it.
-/

set_option autoImplicit false
set_option relaxedAutoImplicit false

namespace Passbook

/-! ### Reading the trail -/

/-- The statuses before and after a change, as they stand at the start of its text. -/
def AuditEvent.changeIn? (details : String) : Option (AccountStatus × AccountStatus) :=
  (AccountStatus.all.flatMap fun before ↦ AccountStatus.all.map (before, ·)).find? fun change ↦
    (change.1.name ++ " -> " ++ change.2.name).toList.isPrefixOf details.toList

/-- The statuses before and after the change that a row records, if it records one. -/
def AuditRow.change? (row : AuditRow) : Option (AccountStatus × AccountStatus) :=
  if row.event.typeName = "ACCOUNT_STATUS_CHANGED" then AuditEvent.changeIn? row.event.details
  else none

/-- The status to which a recorded change leads from a status; none if it does not start there or is not
allowed. -/
def AccountStatus.follow (status : AccountStatus) (row : AuditRow) : Option AccountStatus := do
  let (before, after) ← row.change?
  if before = status ∧ before.mayBecome after then some after else none

/-- The status to which recorded changes lead from a status one after the other. -/
def AccountStatus.replay (status : AccountStatus) (rows : List AuditRow) : Option AccountStatus :=
  rows.foldlM follow status

/-- The rows of the audit trail about an account, in the order in which they were added. -/
def Database.trail (database : Database) (id : Int) : List AuditRow :=
  database.audit.filter (·.account = id)

/-- The text of a change tells its statuses, whatever the reason may say. -/
theorem AuditEvent.changeIn?_details (before after : AccountStatus) (reason : String) :
    changeIn? (statusChanged before after reason).details = some (before, after) := by
  unfold changeIn? details
  cases before <;> cases after <;>
    simp [AccountStatus.all, AccountStatus.name, List.isPrefixOf]

/-- A change that is allowed leads from its first status to its second. -/
theorem AccountStatus.follow_statusChanged {before after : AccountStatus}
    (allowed : before.mayBecome after = true) (id account : Int) (reason : String) :
    before.follow ⟨id, account, .statusChanged before after reason⟩ = some after := by
  have recorded : AuditRow.change? ⟨id, account, .statusChanged before after reason⟩ =
      some (before, after) := by
    unfold AuditRow.change?
    exact (if_pos rfl).trans (AuditEvent.changeIn?_details before after reason)
  simp [follow, recorded, allowed]

theorem AccountStatus.replay_append (status : AccountStatus) (rows : List AuditRow) (row : AuditRow) :
    status.replay (rows ++ [row]) = (status.replay rows).bind (·.follow row) := by
  unfold replay
  rw [List.foldlM_append]
  simp

/-! ### The invariant -/

/-- The rows about an account are its opening, and then changes that lead from active to its status. -/
def AccountRow.Trailed (row : AccountRow) (trail : List AuditRow) : Prop :=
  ∃ first changes, trail = first :: changes ∧
    first.event = .opened row.kind row.number row.owner ∧
    AccountStatus.replay .active changes = some row.status

/-- Tables in which the audit trail tells the statuses of the accounts, and of nothing else. -/
structure Database.Audited (database : Database) : Prop where
  ascending : database.audit.Pairwise (·.id < ·.id)
  named : ∀ row ∈ database.audit, (database.account? row.account).isSome = true
  trails : ∀ id row, database.account? id = some row → row.Trailed (database.trail id)

namespace Database

variable {before after database : Database} {account other number : Int} {event : AuditEvent}

/-- An event that is added is the last row, and its id is the largest. -/
theorem ascending_audit (ascending : before.audit.Pairwise (·.id < ·.id))
    (grown : after.audit = before.audit ++ [⟨nextId (before.audit.map (·.id)), account, event⟩]) :
    after.audit.Pairwise (·.id < ·.id) := by
  rw [grown]
  refine List.pairwise_append.2 ⟨ascending, List.pairwise_singleton _ _, ?_⟩
  intro row member other isNew
  obtain rfl := List.mem_singleton.1 isNew
  exact lt_nextId (List.mem_map_of_mem member)

theorem mem_audit (grown : after.audit = before.audit ++ [⟨number, account, event⟩]) {row : AuditRow}
    (member : row ∈ after.audit) : row ∈ before.audit ∨ row.account = account := by
  rw [grown] at member
  rcases List.mem_append.1 member with earlier | new
  · exact Or.inl earlier
  · exact Or.inr (congrArg AuditRow.account (List.mem_singleton.1 new))

/-- An event that is added is about one account, and the last about it. -/
theorem trail_self (grown : after.audit = before.audit ++ [⟨number, account, event⟩]) :
    after.trail account = before.trail account ++ [⟨number, account, event⟩] := by
  unfold trail
  rw [grown, List.filter_append]
  simp

theorem trail_other (grown : after.audit = before.audit ++ [⟨number, account, event⟩])
    (differ : other ≠ account) : after.trail other = before.trail other := by
  unfold trail
  rw [grown, List.filter_append]
  simp [differ.symm]

theorem Posted.trail {posting : Posting} {cents : Int} {new : TransactionRow}
    (posted : before.Posted posting cents new after) (id : Int) : after.trail id = before.trail id :=
  congrArg (List.filter _) posted.audit

theorem audited_empty : Audited {} where
  ascending := List.Pairwise.nil
  named _ member := by cases member
  trails _ _ found := by cases found

/-- A movement leaves the trail alone, and all that it tells of. -/
theorem Audited.posted {posting : Posting} {cents : Int} {new : TransactionRow}
    (audited : before.Audited) (moves : posting.Moves cents)
    (posted : before.Posted posting cents new after) : after.Audited := by
  refine ⟨posted.audit.symm ▸ audited.ascending, fun row member ↦ ?_, fun id row found ↦ ?_⟩
  · rw [posted.audit] at member
    exact (Step.posted posting cents new moves posted).isSome_account? _ (audited.named row member)
  · rw [posted.trail]
    obtain ⟨old, found', ⟨-, rfl⟩ | ⟨-, balance, rfl⟩⟩ := posted.account?_cases found
    · exact audited.trails id row found'
    · exact audited.trails id old found'

/-- A change of status is the last in the trail of its account. -/
theorem Audited.statusChanged {id : Int} {status : AccountStatus} {reason : String}
    {old : AccountRow} (audited : before.Audited)
    (changed : before.StatusChanged id status reason old after) : after.Audited := by
  refine ⟨?_, fun row member ↦ ?_, fun other row found ↦ ?_⟩
  · exact ascending_audit audited.ascending changed.audit
  · refine (Step.statusChanged id status reason old changed).isSome_account? _ ?_
    rcases mem_audit changed.audit member with earlier | rfl
    · exact audited.named row earlier
    · rw [changed.found]
      rfl
  · rcases changed.account?_cases found with ⟨differ, found⟩ | ⟨rfl, rfl⟩
    · rw [trail_other changed.audit differ]
      exact audited.trails other row found
    · have grown := trail_self changed.audit
      obtain ⟨first, changes, trail, opening, replayed⟩ := audited.trails other old changed.found
      refine ⟨first, changes ++ [_], grown.trans (congrArg (· ++ _) trail), opening, ?_⟩
      rw [AccountStatus.replay_append, replayed]
      exact AccountStatus.follow_statusChanged changed.allowed _ _ _

/-- An account that is not there has no row about it. -/
theorem Audited.trail_unused (audited : database.Audited) {id : Int}
    (unused : database.account? id = none) : database.trail id = [] := by
  refine List.filter_eq_nil_iff.2 fun row member about ↦ ?_
  have there := audited.named row member
  rw [of_decide_eq_true about, unused] at there
  cases there

/-- The opening of an account is the first row about it. -/
theorem Audited.opened {new : AccountRow} (audited : before.Audited)
    (opened : before.Opened new after) : after.Audited := by
  have there : (after.account? new.id).isSome = true := by
    rw [opened.account?, opened.unused, if_pos rfl]
    rfl
  refine ⟨?_, fun row member ↦ ?_, fun id row found ↦ ?_⟩
  · exact ascending_audit audited.ascending opened.audit
  · rcases mem_audit opened.audit member with earlier | about
    · exact (Step.opened new opened).isSome_account? _ (audited.named row earlier)
    · exact about ▸ there
  · rcases opened.account?_cases found with ⟨differ, found⟩ | ⟨rfl, rfl⟩
    · rw [trail_other opened.audit differ]
      exact audited.trails id row found
    · have grown := trail_self opened.audit
      rw [audited.trail_unused opened.unused] at grown
      refine ⟨_, [], grown, rfl, ?_⟩
      rw [opened.active]
      rfl

theorem Audited.step (audited : before.Audited) (step : before.Step after) : after.Audited := by
  cases step with
  | posted _ _ _ moves posted => exact audited.posted moves posted
  | statusChanged _ _ _ _ changed => exact audited.statusChanged changed
  | opened _ opened => exact audited.opened opened

theorem Attained.audited (attained : database.Attained) : database.Audited :=
  attained.induct Audited audited_empty fun _ _ audited step ↦ audited.step step

/-- In all tables that arise, the ids of the audit trail ascend, every row of it is about an account that
there is, and the rows about an account are its opening and then changes of status that lead, as their texts
tell and the life of an account allows, from active to the status that the account has. -/
theorem Attained.audit_replays (attained : database.Attained) :
    database.audit.Pairwise (·.id < ·.id) ∧
    (∀ row ∈ database.audit, ∃ account ∈ database.accounts, account.id = row.account) ∧
    ∀ account ∈ database.accounts, ∃ first changes, database.trail account.id = first :: changes ∧
      first.event.typeName = "ACCOUNT_OPENED" ∧
      AccountStatus.replay .active changes = some account.status := by
  have audited := attained.audited
  refine ⟨audited.ascending, fun row member ↦ ?_, fun account member ↦ ?_⟩
  · obtain ⟨account, found⟩ := Option.isSome_iff_exists.1 (audited.named row member)
    exact ⟨account, mem_of_account? found⟩
  · obtain ⟨first, changes, trail, opening, replayed⟩ :=
      audited.trails _ _ (account?_of_mem attained.reconciled.keys member)
    exact ⟨first, changes, trail, by rw [opening]; rfl, replayed⟩

/-- Two clients change the status of an account that both have read. -/
def rivals : List Event :=
  [.ask 0 (.openAccount (some 1) .checking), .go 0, .ask 0 (.changeStatus 1 .frozen "review"),
    .ask 1 (.changeStatus 1 .closed ""), .go 0, .go 1, .go 0, .go 1,
    .ask 1 (.changeStatus 1 .closed ""), .go 1, .go 1]

/-- The second of them has to read the account once more. -/
theorem Attained.audit_replays_rivals :
    let database := ((World.start {}).run rivals).database
    database.audit.map (·.event.details) = ["CHECKING account ACC0000000001 opened for user 1",
        "ACTIVE -> FROZEN: review", "FROZEN -> CLOSED"] ∧
      ∃ account ∈ database.accounts, account.status = .closed ∧ ∃ first changes,
        database.trail account.id = first :: changes ∧
        AccountStatus.replay .active changes = some account.status := by
  intro database
  have attained : database.Attained := Or.inr ⟨rivals, by simp [rivals], rfl⟩
  obtain ⟨account, member, closed⟩ :
      ∃ account ∈ database.accounts, account.status = .closed := by decide +kernel
  obtain ⟨first, changes, trail, -, replayed⟩ := attained.audit_replays.2.2 account member
  exact ⟨by decide +kernel, account, member, closed, first, changes, trail, replayed⟩

end Database

end Passbook
