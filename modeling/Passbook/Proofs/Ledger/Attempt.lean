import Passbook.Proofs.Ledger.Application

/-!
One try of a posting. Nobody else writes while it lasts, but the store may fail at any point of it. Then
it fails without any effect, or finds the record of an earlier try, or applies the posting exactly once
and reports that, or applies it exactly once without reporting it (`Work.Tried`). Main statement:
`tryPosting_tried`.
-/

set_option autoImplicit false
set_option relaxedAutoImplicit false

namespace Passbook

open Procedure Session

/-- The tables and the unreported commits are as before. -/
def Storage.Keeps (before after : Storage) : Prop :=
  after.database = before.database ∧ after.unreported = before.unreported

theorem Storage.Keeps.trans {first second third : Storage} (begins : first.Keeps second)
    (goesOn : second.Keeps third) : first.Keeps third :=
  ⟨goesOn.1.trans begins.1, goesOn.2.trans begins.2⟩

namespace Work

/-- What one try of a posting comes to. -/
inductive Tried (posting : Posting) (cents : Int) (before after : Storage) :
    Except Failure Posted → Prop
  | failed (failure : Failure) : before.Keeps after → Tried posting cents before after (.error failure)
  | found (record : Record) (row : TransactionRow) :
      before.database.transactionReferenced? posting.reference = some row → row.read = .ok record →
      before.Keeps after → Tried posting cents before after (.ok (.found record))
  | applied (record : Record) (row : TransactionRow) :
      before.database.Posted posting cents row after.database → row.read = .ok record →
      after.unreported = before.unreported → Tried posting cents before after (.ok (.applied record))
  | unreported (failure : Failure) (row : TransactionRow) :
      before.database.Posted posting cents row after.database →
      after.unreported + 1 = before.unreported → Tried posting cents before after (.error failure)

variable {posting : Posting} {cents : Int}

/-- A try that begins later with the same tables comes to the same. -/
theorem Tried.of_keeps {before middle after : Storage} {outcome : Except Failure Posted}
    (kept : before.Keeps middle) (tried : Tried posting cents middle after outcome) :
    Tried posting cents before after outcome := by
  cases tried with
  | failed failure goesOn => exact .failed failure (kept.trans goesOn)
  | found record row found isRead goesOn =>
    rw [kept.1] at found
    exact .found record row found isRead (kept.trans goesOn)
  | applied record row posted isRead unreported =>
    rw [kept.1] at posted
    exact .applied record row posted isRead (unreported.trans kept.2)
  | unreported failure row posted unreported =>
    rw [kept.1] at posted
    exact .unreported failure row posted (unreported.trans kept.2)

theorem leaves_applyPosting (posting : Posting) : (applyPosting posting).Leaves Drafts :=
  leftByWriting_drafts.applyPosting ⟨by decide, by decide, by decide⟩ posting

/-- Reading the accounts and writing what the posting does to them applies it exactly once. -/
theorem applyPosting_ok {session after : Session} {record : Record} (alone : session.IsAlone)
    (moves : posting.Moves cents)
    (applied : applyPosting posting session = (.ok record, after)) :
    ∃ row, session.view.Posted posting cents row after.view ∧ row.read = .ok record := by
  unfold applyPosting at applied
  obtain ⟨read, middle, reading, wrote⟩ := ok_of_bind applied
  obtain ⟨drafts, reads⟩ := (leaves_readLegs posting).of_eq reading
  obtain ⟨legs, each⟩ := readLegs_ok alone reading
  rw [← (reads alone).1] at each ⊢
  refine writePosting_ok moves legs (fun leg member ↦ ?_)
    (fun leg member ↦ (each leg member).1) wrote
  obtain ⟨-, row, found, isRead⟩ := each leg member
  exact Database.showed_of_read found isRead

/-- Applying a posting and making it permanent, in a unit that has not written anything yet. -/
theorem applyAndCommit_tried {session after : Session} {outcome : Except Failure Posted}
    (alone : session.IsAlone) (fresh : session.view = session.storage.database)
    (moves : posting.Moves cents)
    (ran : applyAndCommit posting session = (outcome, after)) :
    after.IsAlone ∧ Tried posting cents session.storage after.storage outcome := by
  unfold applyAndCommit at ran
  rw [run_bind] at ran
  cases applied : applyPosting posting session with
  | mk result middle =>
    have drafts := (leaves_applyPosting posting).of_eq applied alone
    rw [applied] at ran
    cases result with
    | error failure =>
      obtain ⟨rfl, rfl⟩ := Prod.mk.inj ran
      exact ⟨drafts.1, .failed failure drafts.2⟩
    | ok record =>
      obtain ⟨row, posted, isRead⟩ := applyPosting_ok alone moves applied
      rw [fresh] at posted
      dsimp only at ran
      rw [run_bind] at ran
      cases committed : commit middle with
      | mk reported final =>
        rw [committed] at ran
        rcases commit_cases drafts.1 committed with ⟨failure, rfl, kept⟩ |
          ⟨rfl, database, alone', unreported⟩ | ⟨failure, rfl, database, alone', unreported⟩
        · obtain ⟨rfl, rfl⟩ := Prod.mk.inj ran
          obtain ⟨alone', database, unreported⟩ := kept drafts.1
          exact ⟨alone', .failed failure
            ⟨database.trans drafts.2.1, unreported.trans drafts.2.2⟩⟩
        · obtain ⟨rfl, rfl⟩ := Prod.mk.inj ran
          rw [← database] at posted
          exact ⟨alone', .applied record row posted isRead (unreported.trans drafts.2.2)⟩
        · obtain ⟨rfl, rfl⟩ := Prod.mk.inj ran
          rw [← database] at posted
          exact ⟨alone', .unreported failure row posted (unreported.trans drafts.2.2)⟩

/-- What is looked up is read from the row under the reference, if there is one. -/
theorem lookup_ok {reference : Reference} {looked : Option Record} {session after : Session}
    (ran : lookup reference session = (.ok looked, after)) :
    (session.view.transactionReferenced? reference = none ∧ looked = none) ∨
      ∃ row record, session.view.transactionReferenced? reference = some row ∧
        row.read = .ok record ∧ looked = some record := by
  unfold lookup at ran
  obtain ⟨_, _, passed, ran⟩ := ok_of_bind ran
  obtain ⟨_, _, connected, ran⟩ := ok_of_bind ran
  obtain ⟨database, _, seen, ran⟩ := ok_of_bind ran
  obtain ⟨rfl, rfl⟩ := view_ok seen
  have view := (sees_connect.of_eq connected).view.trans ((sees_pass .lookup).of_eq passed).view
  rw [view] at ran
  cases found : session.view.transactionReferenced? reference with
  | none =>
    rw [found] at ran
    exact Or.inl ⟨rfl, (Except.ok.inj (Prod.mk.inj ran).1).symm⟩
  | some row =>
    rw [found] at ran
    obtain ⟨record, _, reading, ran⟩ := ok_of_bind ran
    obtain ⟨isRead, -⟩ := ok_of_ofExcept reading
    exact Or.inr ⟨row, record, rfl, isRead, (Except.ok.inj (Prod.mk.inj ran).1).symm⟩

/-- One try of a posting with nobody else writing. -/
theorem tryPosting_tried {storage after : Storage} {outcome : Except Failure Posted}
    (alone : storage.intrusions = []) (moves : posting.Moves cents) {repeated : Bool}
    (ran : (tryPosting posting repeated).run storage = (outcome, after)) :
    after.intrusions = [] ∧ Tried posting cents storage after outcome := by
  rw [run_eq] at ran
  obtain ⟨rfl, rfl⟩ := Prod.mk.inj ran
  have isAlone : (opened storage).IsAlone := alone
  unfold tryPosting
  cases repeated with
  | false => exact applyAndCommit_tried isAlone rfl moves rfl
  | true =>
    rw [if_pos rfl, run_bind]
    cases looked : lookup posting.reference (opened storage) with
    | mk result middle =>
      obtain ⟨drafts, reads⟩ := (leaves_lookup posting.reference).of_eq looked
      obtain ⟨alone', kept⟩ := drafts isAlone
      cases result with
      | error failure => exact ⟨alone', .failed failure kept⟩
      | ok known =>
        rcases lookup_ok looked with ⟨-, rfl⟩ | ⟨row, record, found, isRead, rfl⟩
        · have fresh : middle.view = middle.storage.database :=
            (reads isAlone).1.trans kept.1.symm
          obtain ⟨alone'', tried⟩ := applyAndCommit_tried alone' fresh moves rfl
          exact ⟨alone'', tried.of_keeps kept⟩
        · exact ⟨alone', .found record row found isRead kept⟩

end Work

end Passbook
