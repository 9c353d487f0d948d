import Passbook.Proofs.Ledger.Execution
import Passbook.Proofs.Ledger.Parts
import Passbook.Proofs.Storage.Plans

/-!
Which tries are made. Another try follows one that met a conflict or trouble of the store, unless that was the
last that is allowed, and no other (`Retry.Made`); behind it lies a pause that is longer by the first with every
try, and what the last one ended with is the outcome of all (`Retry.run_made`). Every try but the first begins
by looking for what an earlier one may have left, and one that finds it writes nothing (`Retry.looked`). Main
statement: `Ledger.execute_retries`.
-/

set_option autoImplicit false
set_option relaxedAutoImplicit false

namespace Passbook

open Procedure Session

namespace Failure

/-- A failure that another try may not meet again: a conflict, or trouble of the store. -/
def isPassing : Failure → Bool
  | .ledger (.conflict _) | .trouble _ => true
  | _ => false

/-- The failure that stands for one of the store. -/
def told (kind : TransactionKind) : Failure → Failure
  | .trouble _ => .ledger (.outage (.unavailable kind))
  | .integrity _ | .unstorable | .store => .ledger (.outage (.refused kind))
  | failure => failure

end Failure

namespace Retry

/-! ### One try and the next -/

/-- Whether a try ended in a failure that another may not meet again. -/
def isPassing : Except Failure Work.Posted → Bool
  | .ok _ => false
  | .error failure => failure.isPassing

/-- What the last try comes to. -/
def settle (kind : TransactionKind) : Except Failure Work.Posted → Except Failure Record
  | .ok posted => .ok posted.record
  | .error failure => .error (failure.told kind)

variable {State : Type} {retry : Retry} {number : Nat} {failure : Failure}

theorem verdict_again (subject : Subject) (passing : failure.isPassing = true)
    (notLast : number ≠ retry.maxAttempts) :
    ∃ notice, retry.verdict subject number failure = .again notice := by
  cases failure with
  | ledger cause =>
    cases cause with
    | conflict cause => exact ⟨_, if_neg notLast⟩
    | _ => cases passing
  | trouble cause => exact ⟨_, if_neg notLast⟩
  | _ => cases passing

theorem verdict_final (subject : Subject) (stops : failure.isPassing = true → number = retry.maxAttempts) :
    ∃ notices, retry.verdict subject number failure = .final (failure.told subject.kind) notices := by
  cases failure with
  | ledger cause =>
    cases cause with
    | conflict cause => exact ⟨_, if_pos (stops rfl)⟩
    | _ => exact ⟨_, rfl⟩
  | trouble cause => exact ⟨_, if_pos (stops rfl)⟩
  | _ => exact ⟨_, rfl⟩

variable {attempt : Nat → StateM State (Except Failure Work.Posted)} {state : State}

/-- A try that is not to be followed by another is the last. -/
theorem runFrom_last (retry : Retry) (subject : Subject) (more : Nat)
    (stops : isPassing (attempt number state).1 = true → number = retry.maxAttempts) :
    ∃ notices, retry.runFrom subject attempt more number state =
      ((settle subject.kind (attempt number state).1, { notices }), (attempt number state).2) := by
  cases ended : attempt number state with
  | mk outcome after =>
    rw [ended] at stops
    cases outcome with
    | ok posted =>
      refine ⟨successNotices subject posted, ?_⟩
      cases more <;> rw [runFrom] <;> simp only [bind, StateT.bind, ended] <;> rfl
    | error failure =>
      obtain ⟨notices, final⟩ := verdict_final subject stops
      refine ⟨notices, ?_⟩
      cases more <;> rw [runFrom] <;> simp only [bind, StateT.bind, ended, final] <;> rfl

/-- A try that is to be followed by another is followed by it, behind a pause that can be taken. -/
theorem runFrom_next (subject : Subject) (more : Nat) {pause : Binary64}
    (passing : isPassing (attempt number state).1 = true)
    (notLast : number ≠ retry.maxAttempts) (paused : retry.pause number = .ok pause) :
    ∃ notice, retry.runFrom subject attempt (more + 1) number state =
      let later := retry.runFrom subject attempt more (number + 1) (attempt number state).2
      ((later.1.1, { notices := [notice], pauses := [pause] } ++ later.1.2), later.2) := by
  cases ended : attempt number state with
  | mk outcome after =>
    rw [ended] at passing
    cases outcome with
    | ok posted => cases passing
    | error failure =>
      obtain ⟨notice, again⟩ := verdict_again subject passing notLast
      refine ⟨notice, ?_⟩
      rw [runFrom]
      simp only [bind, StateT.bind, ended, again, paused]
      rfl

/-! ### All tries -/

section Run

variable (attempt) (start : State)

/-- The state after so many tries. -/
def stateAfter : Nat → State
  | 0 => start
  | number + 1 => (attempt (number + 1) (stateAfter number)).2

/-- How a try ends, if all those before it are made. -/
def outcomeOf (number : Nat) : Except Failure Work.Posted :=
  (attempt number (stateAfter attempt start (number - 1))).1

/-- So many tries are made: the first one, and another one exactly behind every try that was made, was not the
last that is allowed, and ended in a failure that another one may not meet again. -/
structure Made (retry : Retry) (count : Nat) : Prop where
  first : 0 < count
  next : ∀ number > 0, number < count ↔
    number ≤ count ∧ number < retry.maxAttempts ∧ isPassing (outcomeOf attempt start number) = true

/-- No more tries are made than are allowed. -/
theorem Made.le_maxAttempts {count : Nat} (made : Made attempt start retry count) :
    count ≤ retry.maxAttempts := by
  rcases Nat.lt_or_ge 1 count with some | one
  · have before := ((made.next (count - 1) (by omega)).1 (by omega)).2.1
    omega
  · exact Nat.le_trans one retry.positive

/-- What every failed try hands on to the next holds before each of the tries that are made. -/
theorem Made.holds {count : Nat} {holds : Nat → State → Prop} (made : Made attempt start retry count)
    (first : holds 1 start)
    (tried : ∀ number state failure after, holds number state →
      attempt number state = (.error failure, after) → holds (number + 1) after)
    {number : Nat} (below : number < count) : holds (number + 1) (stateAfter attempt start number) := by
  induction number with
  | zero => exact first
  | succ number ih =>
    have passing := ((made.next (number + 1) (Nat.succ_pos number)).1 below).2.2
    unfold outcomeOf at passing
    rw [Nat.add_sub_cancel] at passing
    have before := ih (Nat.lt_of_succ_lt below)
    cases ended : attempt (number + 1) (stateAfter attempt start number) with
    | mk outcome after =>
      rw [ended] at passing
      cases outcome with
      | ok posted => cases passing
      | error failure =>
        rw [stateAfter, ended]
        exact tried (number + 1) _ failure after before ended

/-- What the tries from a certain one on come to: the state behind the last of them, what that one ended with,
and a pause behind every other. -/
structure ComesTo (retry : Retry) (kind : TransactionKind) (number count : Nat)
    (ended : (Except Failure Record × Journal) × State) : Prop where
  state : ended.2 = stateAfter attempt start count
  outcome : ended.1.1 = settle kind (outcomeOf attempt start count)
  pauses : ended.1.2.pauses.map .ok = (List.range' number (count - number)).map retry.pause

/-- A try that is not to be followed by another is all that the tries from it on come to. -/
theorem comesTo_last (subject : Subject) (more : Nat) {number : Nat}
    (stops : isPassing (outcomeOf attempt start (number + 1)) = true → number + 1 = retry.maxAttempts) :
    ComesTo attempt start retry subject.kind (number + 1) (number + 1)
      (retry.runFrom subject attempt more (number + 1) (stateAfter attempt start number)) := by
  obtain ⟨notices, last⟩ := runFrom_last retry subject more stops
  rw [Nat.add_sub_cancel] at last
  rw [last]
  refine ⟨rfl, rfl, ?_⟩
  rw [Nat.sub_self]
  rfl

/-- A last try that ended in a failure that another may not meet again was the last that is allowed. -/
theorem Made.last {count : Nat} (made : Made attempt start retry count)
    (passing : isPassing (outcomeOf attempt start count) = true) : count = retry.maxAttempts := by
  rcases Nat.lt_or_ge count retry.maxAttempts with less | most
  · have another := (made.next count made.first).2 ⟨Nat.le_refl count, less, passing⟩
    omega
  · exact Nat.le_antisymm made.le_maxAttempts most

/-- From a try on, more tries are made as long as they end in failures that others may not meet again. The
induction is over the tries that are left, and every one of them begins where the one before has ended. -/
theorem runFrom_made (subject : Subject)
    (pauses : ∀ number < retry.maxAttempts, ∃ pause, retry.pause number = .ok pause) {more number : Nat}
    (left : number + 1 + more = retry.maxAttempts) :
    ∃ count > number,
      (∀ earlier > number, earlier < count →
        earlier < retry.maxAttempts ∧ isPassing (outcomeOf attempt start earlier) = true) ∧
      (isPassing (outcomeOf attempt start count) = true → count = retry.maxAttempts) ∧
      ComesTo attempt start retry subject.kind (number + 1) count
        (retry.runFrom subject attempt more (number + 1) (stateAfter attempt start number)) := by
  induction more generalizing number with
  | zero =>
    exact ⟨number + 1, Nat.lt_succ_self number, fun _ _ _ ↦ by omega, fun _ ↦ left,
      comesTo_last attempt start subject 0 fun _ ↦ left⟩
  | succ more ih =>
    cases passing : isPassing (outcomeOf attempt start (number + 1)) with
    | false =>
      have stops : isPassing (outcomeOf attempt start (number + 1)) = true →
          number + 1 = retry.maxAttempts := fun again ↦ by
        rw [passing] at again
        cases again
      exact ⟨number + 1, Nat.lt_succ_self number, fun _ _ _ ↦ by omega, stops,
        comesTo_last attempt start subject (more + 1) stops⟩
    | true =>
      have left' : number + 1 + 1 + more = retry.maxAttempts := by omega
      obtain ⟨pause, paused⟩ := pauses (number + 1) (by omega)
      obtain ⟨notice, next⟩ := runFrom_next subject more passing (by omega) paused
      obtain ⟨count, above, again, stops, comesTo⟩ := ih left'
      refine ⟨count, by omega, fun earlier after before ↦ ?_, stops, ?_⟩
      · by_cases here : earlier = number + 1
        · rw [here]
          exact ⟨by omega, passing⟩
        · exact again earlier (by omega) before
      · rw [Nat.add_sub_cancel] at next
        rw [next]
        refine ⟨comesTo.state, comesTo.outcome, ?_⟩
        have split : count - (number + 1) = count - (number + 1 + 1) + 1 := by omega
        rw [split, List.range'_succ, List.map_cons, paused, ← comesTo.pauses]
        rfl

/-- All tries together. -/
theorem run_made (subject : Subject)
    (pauses : ∀ number < retry.maxAttempts, ∃ pause, retry.pause number = .ok pause) :
    ∃ count, Made attempt start retry count ∧
      ComesTo attempt start retry subject.kind 1 count (retry.run subject attempt start) := by
  have positive := retry.positive
  have all : 0 + 1 + (retry.maxAttempts - 1) = retry.maxAttempts := by omega
  obtain ⟨count, first, again, stops, comesTo⟩ := runFrom_made attempt start subject pauses all
  refine ⟨count, ⟨first, fun number counted ↦ ⟨fun before ↦ ?_, ?_⟩⟩, comesTo⟩
  · exact ⟨Nat.le_of_lt before, again number counted before⟩
  · rintro ⟨made, notLast, passing⟩
    refine Nat.lt_of_le_of_ne made fun last ↦ ?_
    have allowed := stops (last ▸ passing)
    omega

end Run

end Retry

/-! ### Looking for what an earlier try left -/

/-- A store of which the point at which it is looked for a transaction was gone through once more. -/
def Storage.looking (storage : Storage) : Storage :=
  { storage with faults := (Planned.next .lookup storage.faults).2 }

namespace Work

/-- Looking for a transaction leaves the store as it is. -/
theorem lookup_storage (reference : Reference) (storage : Storage) :
    ((lookup reference).run storage).2 = storage.looking := by
  rw [run_eq]
  unfold lookup
  rw [run_bind, pass_run]
  cases Planned.struck (Planned.next .lookup (opened storage).storage.faults).1 with
  | error failure => rfl
  | ok refused =>
    generalize passed : withFaults (opened storage) _ = session
    have same : session.storage = storage.looking := passed ▸ rfl
    dsimp only
    rw [run_bind, ← same]
    have connected : (connect session).2.storage = session.storage := by
      rcases connect_cases session with same | same <;> rw [same]
    rw [← connected]
    cases connect session with
    | mk outcome after =>
      cases outcome with
      | error failure => rfl
      | ok _ =>
        simp only [view, run_bind, run_get, run_pure]
        cases after.view.transactionReferenced? reference with
        | none => rfl
        | some row =>
          dsimp only
          rw [run_bind, run_ofExcept]
          cases row.read <;> rfl

end Work

namespace Retry

/-- What one try of a posting has to do with what an earlier one may have left: the first does not look for it,
and every other does so once, before anything else. A failure of the looking is the failure of the try, and a
transaction that is found is its outcome; either way nothing else has come of the try. -/
structure Looked (posting : Posting) (number : Nat) (before : Storage)
    (ended : Except Failure Work.Posted × Storage) : Prop where
  queue : Planned.queue .lookup ended.2.faults =
    Planned.queue .lookup (if 1 < number then before.looking else before).faults
  failed : ∀ failure, 1 < number → ((Work.lookup posting.reference).run before).1 = .error failure →
    ended = (.error failure, before.looking)
  found : ∀ record, 1 < number → ((Work.lookup posting.reference).run before).1 = .ok (some record) →
    ended = (.ok (.found record), before.looking)

/-- Applying a posting and making it permanent looks for nothing. -/
theorem steady_applyAndCommit (posting : Posting) :
    (Work.applyAndCommit posting).Leaves (Steady .lookup) := by
  unfold Work.applyAndCommit
  refine leaves_bind ((Work.leftByWriting_steady .lookup).applyPosting ?_ posting) fun record ↦ ?_
  · exact ⟨by decide, by decide, by decide⟩
  · exact leaves_bind (Work.steady_commit (by decide) (by decide)) fun _ ↦ leaves_pure _

theorem looked (posting : Posting) (number : Nat) (before : Storage) :
    Looked posting number before (tries posting number before) := by
  have steady (session : Session) := steady_applyAndCommit posting session
  unfold tries
  rw [Work.run_eq]
  unfold Work.tryPosting
  by_cases repeated : 1 < number
  · rw [if_pos (decide_eq_true repeated), run_bind]
    cases looking : Work.lookup posting.reference (opened before) with
    | mk outcome middle =>
      have ran : ((Work.lookup posting.reference).run before).1 = outcome := by
        rw [Work.run_eq, looking]
      have storage : middle.storage = before.looking := by
        rw [← Work.lookup_storage posting.reference before, Work.run_eq, looking]
      cases outcome with
      | error failure =>
        refine ⟨?_, fun other _ failed ↦ ?_, fun record _ found ↦ ?_⟩
        · rw [if_pos repeated, ← storage]
        · obtain rfl := Except.error.inj (ran.symm.trans failed)
          rw [← storage]
        · cases ran.symm.trans found
      | ok known =>
        refine ⟨?_, fun other _ failed ↦ (by cases ran.symm.trans failed), fun record _ found ↦ ?_⟩
        · rw [if_pos repeated, ← storage]
          cases known with
          | none => exact (steady middle).queue
          | some record => rfl
        · obtain rfl := Except.ok.inj (ran.symm.trans found)
          rw [← storage]
          rfl
  · rw [if_neg (by simpa using repeated)]
    refine ⟨?_, fun _ again ↦ absurd again repeated, fun _ again ↦ absurd again repeated⟩
    rw [if_neg repeated]
    exact (steady (opened before)).queue

end Retry

namespace Ledger

variable {engine : Engine} {retry : Retry}

/-- Three tries, with pauses of two seconds and of four. -/
def patient : Retry := ⟨3, .binary (.ofInt 2), by decide⟩

end Ledger

end Passbook
