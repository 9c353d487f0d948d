import Passbook.Ledger.Retry
import Passbook.Proofs.Ledger.Attempt

/-!
Trying a posting until there is a final outcome. Once a try has applied the posting, its record stands
under the reference, so that every later try finds it or fails (`Settled.of_found`): a posting is never
applied twice, whatever the store does. Main statement: all tries together refuse the posting, or find a
record that was there before, or apply it exactly once, and then either report it or have used up a
commit that went unreported (`runFrom_settled`).
-/

set_option autoImplicit false
set_option relaxedAutoImplicit false

namespace Passbook

/-- What all tries of a posting come to. -/
inductive Posting.Settled (posting : Posting) (cents : Int) (before after : Storage) :
    Except Failure Record → Prop
  | refused (failure : Failure) : before.Keeps after →
      Settled posting cents before after (.error failure)
  | known (record : Record) (row : TransactionRow) :
      before.database.transactionReferenced? posting.reference = some row → row.read = .ok record →
      before.Keeps after → Settled posting cents before after (.ok record)
  | applied (record : Record) (row : TransactionRow) :
      before.database.Posted posting cents row after.database → row.read = .ok record →
      Settled posting cents before after (.ok record)
  | unreported (failure : Failure) (row : TransactionRow) :
      before.database.Posted posting cents row after.database →
      after.unreported + 1 = before.unreported →
      Settled posting cents before after (.error failure)

variable {posting : Posting} {cents : Int}

/-- Tables in which a posting was applied have its record under its reference. -/
theorem Database.Posted.found {row : TransactionRow} {before after : Database}
    (posted : before.Posted posting cents row after) :
    after.transactionReferenced? posting.reference = some row := by
  have recorded : after.transactionReferenced? posting.reference =
      (before.addTransaction row).transactionReferenced? posting.reference := by
    rw [transactionReferenced?, posted.recorded]
    rfl
  rw [recorded, transactionReferenced?_addTransaction, posted.unused, if_pos posted.reference]
  rfl

/-- Tries that begin later with the same tables come to the same. -/
theorem Posting.Settled.of_keeps {before middle after : Storage} {outcome : Except Failure Record}
    (kept : before.Keeps middle) (settled : posting.Settled cents middle after outcome) :
    posting.Settled cents before after outcome := by
  cases settled with
  | refused failure goesOn => exact .refused failure (kept.trans goesOn)
  | known record row found isRead goesOn =>
    rw [kept.1] at found
    exact .known record row found isRead (kept.trans goesOn)
  | applied record row posted isRead =>
    rw [kept.1] at posted
    exact .applied record row posted isRead
  | unreported failure row posted unreported =>
    rw [kept.1] at posted
    exact .unreported failure row posted (unreported.trans kept.2)

/-- Once the reference stands in the tables, nothing changes any more, and no other record than the one
that stands there is given. -/
theorem Posting.Settled.of_found {before after : Storage} {outcome : Except Failure Record}
    {row : TransactionRow} (settled : posting.Settled cents before after outcome)
    (found : before.database.transactionReferenced? posting.reference = some row) :
    before.Keeps after ∧ ∀ record, outcome = .ok record → row.read = .ok record := by
  cases settled with
  | refused failure kept => exact ⟨kept, fun _ same ↦ by cases same⟩
  | known record row' found' isRead kept =>
    rw [found] at found'
    obtain rfl := Option.some.inj found'
    exact ⟨kept, fun _ same ↦ Except.ok.inj same ▸ isRead⟩
  | applied record row' posted =>
    rw [posted.unused] at found
    cases found
  | unreported failure row' posted =>
    rw [posted.unused] at found
    cases found

namespace Retry

variable {State : Type}

/-- The tries from one on are that one alone, or it has failed and the others begin behind a pause where it has
ended. -/
theorem runFrom_cases (retry : Retry) (subject : Subject)
    (attempt : Nat → StateM State (Except Failure Work.Posted)) (more number : Nat) (state : State) :
    (∃ outcome notices, retry.runFrom subject attempt more number state =
        ((outcome, { notices }), (attempt number state).2) ∧
      ((∃ posted, (attempt number state).1 = .ok posted ∧ outcome = .ok posted.record) ∨
        ∃ failure final, (attempt number state).1 = .error failure ∧ outcome = .error final)) ∨
    ∃ failure fewer notice pause, (attempt number state).1 = .error failure ∧ more = fewer + 1 ∧
      let later := retry.runFrom subject attempt fewer (number + 1) (attempt number state).2
      retry.runFrom subject attempt more number state =
        ((later.1.1, { notices := [notice], pauses := [pause] } ++ later.1.2), later.2) := by
  cases tried : attempt number state with
  | mk result after =>
    cases result with
    | ok posted =>
      refine Or.inl ⟨.ok posted.record, successNotices subject posted, ?_, Or.inl ⟨posted, rfl, rfl⟩⟩
      cases more <;> rw [runFrom] <;> simp only [bind, StateT.bind, tried] <;> rfl
    | error failure =>
      cases judged : retry.verdict subject number failure with
      | final last notices =>
        refine Or.inl ⟨.error last, notices, ?_, Or.inr ⟨failure, last, rfl, rfl⟩⟩
        cases more <;> rw [runFrom] <;> simp only [bind, StateT.bind, tried, judged] <;> rfl
      | again notice =>
        cases more with
        | zero =>
          refine Or.inl ⟨.error failure, [], ?_, Or.inr ⟨failure, failure, rfl, rfl⟩⟩
          rw [runFrom]
          simp only [bind, StateT.bind, tried, judged]
          rfl
        | succ fewer =>
          cases paused : retry.pause number with
          | error last =>
            refine Or.inl ⟨.error last, [notice], ?_, Or.inr ⟨failure, last, rfl, rfl⟩⟩
            rw [runFrom]
            simp only [bind, StateT.bind, tried, judged, paused]
            rfl
          | ok pause =>
            refine Or.inr ⟨failure, fewer, notice, pause, rfl, rfl, ?_⟩
            intro later
            rw [runFrom]
            simp only [bind, StateT.bind, tried, judged, paused]
            rfl

/-- What holds of every single try, with whatever failure it may end in, and goes through another try
behind a failed one, holds of all tries together. -/
theorem runFrom_induct {retry : Retry} {subject : Subject}
    {attempt : Nat → StateM State (Except Failure Work.Posted)}
    {motive : State → State → Except Failure Record → Prop}
    (succeeds : ∀ number before after posted,
      attempt number before = (.ok posted, after) → motive before after (.ok posted.record))
    (fails : ∀ number before after failure final,
      attempt number before = (.error failure, after) → motive before after (.error final))
    (again : ∀ number before middle after failure outcome,
      attempt number before = (.error failure, middle) → motive middle after outcome →
      motive before after outcome)
    (more number : Nat) (state : State) :
    motive state (retry.runFrom subject attempt more number state).2
      (retry.runFrom subject attempt more number state).1.1 := by
  induction more using Nat.strongRecOn generalizing number state with
  | ind more ih =>
    rcases runFrom_cases retry subject attempt more number state with
      ⟨outcome, notices, only, ⟨posted, tried, rfl⟩ | ⟨failure, final, tried, rfl⟩⟩ |
      ⟨failure, fewer, notice, pause, tried, rfl, next⟩
    · rw [only]
      exact succeeds number state _ posted (Prod.ext tried rfl)
    · rw [only]
      exact fails number state _ failure final (Prod.ext tried rfl)
    · rw [next]
      exact again number state _ _ failure _ (Prod.ext tried rfl)
        (ih fewer (Nat.lt_succ_self fewer) (number + 1) _)

/-- The tries of a posting, each in a unit of work of its own. -/
def tries (posting : Posting) (number : Nat) : StateM Storage (Except Failure Work.Posted) :=
  (Work.tryPosting posting (1 < number)).run

/-- All tries of a posting together: the induction is over the tries that are left, and a posting that
went unreported is found by those behind it. -/
theorem runFrom_settled {retry : Retry} {subject : Subject} {storage : Storage}
    (alone : storage.intrusions = []) (moves : posting.Moves cents) (more number : Nat) :
    posting.Settled cents storage (retry.runFrom subject (tries posting) more number storage).2
      (retry.runFrom subject (tries posting) more number storage).1.1 := by
  refine runFrom_induct
    (motive := fun before after outcome ↦
      before.intrusions = [] → posting.Settled cents before after outcome)
    ?_ ?_ ?_ more number storage alone
  · intro number before after posted tried alone
    obtain ⟨-, tried⟩ := Work.tryPosting_tried alone moves tried
    cases tried with
    | found record row found isRead kept => exact .known record row found isRead kept
    | applied record row posted isRead unreported => exact .applied record row posted isRead
  · intro number before after failure final tried alone
    obtain ⟨-, tried⟩ := Work.tryPosting_tried alone moves tried
    cases tried with
    | failed failure kept => exact .refused final kept
    | unreported failure row posted unreported => exact .unreported final row posted unreported
  · intro number before middle after failure outcome tried goesOn alone
    obtain ⟨alone', tried⟩ := Work.tryPosting_tried alone moves tried
    have settled := goesOn alone'
    cases tried with
    | failed failure kept => exact settled.of_keeps kept
    | unreported failure row posted unreported =>
      obtain ⟨kept, isRead⟩ := settled.of_found posted.found
      rw [← kept.1] at posted
      cases outcome with
      | ok record => exact .applied record row posted (isRead record rfl)
      | error last => exact .unreported last row posted (kept.2 ▸ unreported)

end Retry

end Passbook
