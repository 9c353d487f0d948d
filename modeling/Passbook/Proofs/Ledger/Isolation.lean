import Passbook.Proofs.Ledger.Attempt
import Passbook.Proofs.Ledger.Service
import Passbook.Proofs.Storage.Mirror

/-!
Whole units in isolation. When a unit has written something for accounts that it read earlier, possibly
while others were writing, then the same unit on its own, begun on the tables as they are at the time of
the writing, reads the same accounts and ends with the same tables: `tryPosting_isolated`,
`changeStatus_isolated` and `openAccount_isolated`.
-/

set_option autoImplicit false
set_option relaxedAutoImplicit false

namespace Passbook

open Procedure Session

/-- A store at a time with nothing planned. -/
def Storage.calm (database : Database) (clock : Instant) : Storage := { database, clock }

theorem Session.mirrors_opened {session : Session} (alone : session.IsAlone) :
    session.Mirrors (opened (.calm session.view session.storage.clock)) :=
  ⟨alone, ⟨rfl, rfl, rfl⟩, rfl, rfl⟩

namespace Work

/-! ### Postings -/

theorem mirrored_changeBalance (account : Account) (balance : Decimal) :
    (changeBalance account balance).Mirrored := by
  unfold changeBalance
  refine mirrored_bind (mirrored_ofExcept _) fun order ↦ ?_
  extract_lets goOn
  have goesOn : ∀ none, (goOn none).Mirrored := by
    intro none
    refine mirrored_bind_when (mirrored_writeBalance _ _ _) (fun wrote isWritten ↦ ?_) ?_
    · rw [isWritten]
      exact mirrored_pure _
    · intro wrote session result after refused ran
      rw [Bool.not_eq_true] at refused
      rw [refused] at ran
      cases (Prod.mk.inj ran).1
  split
  · refine mirrored_bind (mirrored_ofExcept _) fun _ ↦ ?_
    exact mirrored_bind (mirrored_throw _) goesOn
  · exact goesOn ⟨⟩

theorem mirrored_writePosting (posting : Posting) (read : List (Account × Direction)) :
    (writePosting posting read).Mirrored := by
  unfold writePosting
  refine mirrored_bind (mirrored_ofExcept _) fun changes ↦ ?_
  refine mirrored_bind ?_ fun _ ↦ mirrored_append rfl
  refine mirrored_forM (fun change ↦ ?_) _
  exact mirrored_changeBalance change.1 change.2

/-- A calm unit loads an account that is active. -/
theorem loadActive_calm {id : Int} {row : AccountRow} {account : Account} {calm : Session}
    (isCalm : calm.Calm) (fits : fitsWord id = true) (found : calm.view.account? id = some row)
    (isRead : row.read = .ok account) (active : account.status = .active) :
    ∃ after, loadActive id calm = (.ok account, after) ∧ calm.Mirrors after := by
  obtain ⟨loaded, loads, mirrors⟩ := load_calm isCalm fits found isRead
  have eligible : account.status.isEligible = true := by
    rw [active]
    rfl
  refine ⟨loaded, ?_, mirrors⟩
  unfold loadActive
  rw [run_bind_ok loads]
  dsimp only
  rw [if_pos eligible]
  rfl

/-- A calm unit reads the accounts of a posting as they are. -/
theorem readLegs_calm {posting : Posting} {read : List (Account × Direction)} {calm : Session}
    (isCalm : calm.Calm)
    (legs : read.map (fun leg ↦ (leg.1.id, leg.2)) = posting.movement.legs)
    (active : ∀ leg ∈ read, leg.1.status = .active)
    (current : ∀ leg ∈ read, fitsWord leg.1.id = true ∧
      ∃ row, calm.view.account? leg.1.id = some row ∧ row.read = .ok leg.1) :
    ∃ after, readLegs posting calm = (.ok read, after) ∧ calm.Mirrors after := by
  unfold readLegs
  rw [← legs]
  clear legs
  induction read generalizing calm with
  | nil => exact ⟨calm, rfl, isCalm.mirrors⟩
  | cons leg rest ih =>
    obtain ⟨fits, row, found, isRead⟩ := current leg List.mem_cons_self
    obtain ⟨loaded, first, mirrors⟩ :=
      loadActive_calm isCalm fits found isRead (active leg List.mem_cons_self)
    obtain ⟨after, later, mirrors'⟩ := ih mirrors.quiet
      (fun leg member ↦ active leg (List.mem_cons_of_mem _ member))
      (fun leg member ↦ mirrors.view.symm ▸ current leg (List.mem_cons_of_mem _ member))
    have head : (do return (← loadActive leg.1.id, leg.2) : Work (Account × Direction)) calm =
        (.ok leg, loaded) :=
      run_bind_ok first _
    refine ⟨after, ?_, mirrors.trans mirrors'⟩
    rw [List.map_cons, List.mapM_cons, run_bind_ok head, run_bind_ok later]
    rfl

/-- What a unit has written for a posting, the same posting on its own writes and makes permanent. -/
theorem tryPosting_isolated {posting : Posting} {cents : Int} {read : List (Account × Direction)}
    {session after : Session} {stored : Record} (alone : session.IsAlone)
    (moves : posting.Moves cents)
    (legs : read.map (fun leg ↦ (leg.1.id, leg.2)) = posting.movement.legs)
    (showed : ∀ leg ∈ read, session.view.Showed leg.1)
    (active : ∀ leg ∈ read, leg.1.status = .active)
    (wrote : writePosting posting read session = (.ok stored, after)) :
    let isolated :=
      (tryPosting posting false).run (.calm session.view session.storage.clock)
    isolated.1 = .ok (.applied stored) ∧ isolated.2.database = after.view := by
  intro isolated
  have mirrors := mirrors_opened alone
  have current := writePosting_current moves legs showed wrote
  rw [← mirrors.view] at current
  obtain ⟨loaded, reads, mirrors'⟩ := readLegs_calm mirrors.quiet legs active current
  obtain ⟨written, writes, mirrors''⟩ :=
    (mirrored_writePosting posting read).of_run (mirrors.trans mirrors') wrote
  obtain ⟨committed, commits, -, database⟩ := commit_calm mirrors''.quiet
  have ran : tryPosting posting false (opened (.calm session.view session.storage.clock)) =
      (.ok (.applied stored), committed) := by
    unfold tryPosting applyAndCommit applyPosting
    rw [if_neg (by decide), bind_assoc, run_bind_ok reads, run_bind_ok writes,
      run_bind_ok commits]
    rfl
  have same : isolated = _ := run_eq _ _
  rw [same, ran]
  exact ⟨rfl, database.trans mirrors''.view⟩

/-! ### Changes of status -/

theorem mirrored_writeStatusChange (account : Account) (status : AccountStatus) (reason : String) :
    (writeStatusChange account status reason).Mirrored := by
  unfold writeStatusChange
  extract_lets record write
  have records : ∀ none, (record none).Mirrored := fun _ ↦ mirrored_recordEvent _ _
  have writes : ∀ none, (write none).Mirrored := by
    intro none
    refine mirrored_bind_when (mirrored_writeStatus _ _ _) (fun wrote isWritten ↦ ?_) ?_
    · rw [isWritten]
      exact records ⟨⟩
    · intro wrote session result after refused ran
      rw [Bool.not_eq_true] at refused
      rw [refused] at ran
      obtain ⟨_, _, thrown, _⟩ := ok_of_bind ran
      cases (Prod.mk.inj thrown).1
  split
  · exact mirrored_bind (mirrored_throw _) writes
  · exact writes ⟨⟩

/-- What a unit has written for a change of status, the same change on its own writes and makes
permanent. -/
theorem changeStatus_isolated {account : Account} {status : AccountStatus} {reason : String}
    {session after : Session} {result : Unit} (alone : session.IsAlone)
    (showed : session.view.Showed account)
    (wrote : writeStatusChange account status reason session = (.ok result, after)) :
    let isolated :=
      (changeStatus account.id status reason).run (.calm session.view session.storage.clock)
    isolated.1 = .ok (account.status, { account with status, version := account.version + 1 }) ∧
      isolated.2.database = after.view := by
  intro isolated
  have mirrors := mirrors_opened alone
  obtain ⟨fits, -, old, changed, isRead⟩ := writeStatusChange_ok showed wrote
  have found : (opened (.calm session.view session.storage.clock)).view.account? account.id =
      some old := changed.found
  obtain ⟨loaded, loads, mirrors'⟩ := load_calm mirrors.quiet fits found isRead
  obtain ⟨written, writes, mirrors''⟩ :=
    (mirrored_writeStatusChange account status reason).of_run (mirrors.trans mirrors') wrote
  obtain ⟨committed, commits, mirrors₃, database⟩ := commit_calm mirrors''.quiet
  have view : committed.view = after.view := mirrors₃.view.trans mirrors''.view
  -- The account that is loaded again once the change is permanent is the changed one.
  have again : committed.view.account? account.id = some (Database.withStatus old status) := by
    rw [view]
    exact changed.account?_self
  have isRead' : (Database.withStatus old status).read =
      .ok { account with status, version := account.version + 1 } := by
    obtain ⟨balance, text, rfl⟩ := AccountRow.read_ok isRead
    exact AccountRow.read_of_readText text
  obtain ⟨final, reloads, -⟩ := load_calm mirrors₃.quiet fits again isRead'
  have ran : changeStatus account.id status reason
      (opened (.calm session.view session.storage.clock)) =
      (.ok (account.status, { account with status, version := account.version + 1 }), final) := by
    unfold changeStatus
    rw [run_bind_ok loads]
    dsimp only
    rw [run_bind_ok writes, run_bind_ok commits, run_bind_ok reloads]
    rfl
  have kept := ((leaves_load account.id).of_eq reloads).1 mirrors₃.quiet.intrusions
  have same : isolated = _ := run_eq _ _
  rw [same, ran]
  exact ⟨rfl, kept.2.1.trans (database.trans mirrors''.view)⟩

/-! ### Openings -/

/-- What a unit has written for an opening, the same opening on its own writes and makes permanent. -/
theorem openAccount_isolated {owner : Option Int} {kind : AccountKind} {account : Account}
    {session middle after : Session} {result : Unit} (alone : session.IsAlone)
    (added : addAccount { owner, kind } session = (.ok account, middle))
    (recorded : recordEvent account.id (.opened kind account.number account.owner) middle =
      (.ok result, after)) :
    let isolated := (openAccount owner kind).run (.calm session.view session.storage.clock)
    isolated.1 = .ok account ∧ isolated.2.database = after.view := by
  intro isolated
  have mirrors := mirrors_opened alone
  obtain ⟨added', adds, mirrors'⟩ := (mirrored_addAccount _).of_run mirrors added
  obtain ⟨recorded', records, mirrors''⟩ :=
    (mirrored_recordEvent _ _).of_run mirrors' recorded
  obtain ⟨committed, commits, -, database⟩ := commit_calm mirrors''.quiet
  have ran : openAccount owner kind (opened (.calm session.view session.storage.clock)) =
      (.ok account, committed) := by
    unfold openAccount
    rw [run_bind_ok adds, run_bind_ok records, run_bind_ok commits]
    rfl
  have same : isolated = _ := run_eq _ _
  rw [same, ran]
  exact ⟨rfl, database.trans mirrors''.view⟩

end Work

end Passbook
