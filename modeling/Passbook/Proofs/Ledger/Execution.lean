import Passbook.Ledger.Engine
import Passbook.Proofs.Ledger.Settlement

/-!
The tries of a posting on a ledger. They are tries on its store, and all else that they do is to write down
the locks, in every pause and at both ends of every try, which are then as at the begin
(`Ledger.execute_run`).
-/

set_option autoImplicit false
set_option relaxedAutoImplicit false

namespace Passbook

open Procedure

namespace Ledger

variable {engine : Engine} {retry : Retry} {failure : Failure}

/-- A ledger with another store, in which the locks have been written down so many times. -/
def watched (ledger : Ledger) (storage : Storage) (times : Nat) : Ledger :=
  { ledger with
    storage
    journal := ledger.journal ++ { lockings := List.replicate times ledger.locks } }

theorem pauses_watched (ledger : Ledger) (storage : Storage) (times : Nat) :
    (ledger.watched storage times).journal.pauses = ledger.journal.pauses :=
  List.append_nil _

theorem watched_watched (ledger : Ledger) (storage storage' : Storage) (times times' : Nat) :
    (ledger.watched storage times).watched storage' times' = ledger.watched storage' (times + times') := by
  have journal : ledger.journal ++ ({ lockings := List.replicate times ledger.locks } : Journal) ++
      ({ lockings := List.replicate times' ledger.locks } : Journal) =
      ledger.journal ++ ({ lockings := List.replicate (times + times') ledger.locks } : Journal) := by
    change Journal.append (Journal.append _ _) _ = Journal.append _ _
    simp only [Journal.append, List.append_nil, List.append_assoc, List.replicate_append_replicate]
  unfold watched
  rw [journal]

/-- How often the locks are written down for a try and the pause before it. -/
def glances (number : Nat) : Nat := if 1 < number then 3 else 2

/-- A try acts on the store of the ledger. -/
theorem tryOnce_run (posting : Posting) (number : Nat) (ledger : Ledger) :
    tryOnce posting number ledger =
      ((Retry.tries posting number ledger.storage).1,
        ledger.watched (Retry.tries posting number ledger.storage).2 (glances number)) := by
  have begins (watching : Ledger) : tryOnce posting number watching =
      (do
        if 1 < number then noteLocks
        noteLocks
        let ledger ← get
        set { ledger with storage := (Retry.tries posting number ledger.storage).2 }
        noteLocks
        return (Retry.tries posting number ledger.storage).1 : StateM Ledger _) watching := rfl
  unfold glances
  by_cases later : 1 < number
  · rw [begins, if_pos later, if_pos later]
    change (_, ((ledger.watched ledger.storage 1).watched ledger.storage 1).watched _ 1) = _
    rw [watched_watched, watched_watched]
  · rw [begins, if_neg later, if_neg later]
    change (_, (ledger.watched ledger.storage 1).watched _ 1) = _
    rw [watched_watched]

theorem glances_succ {number : Nat} (isTry : 0 < number) : glances (number + 1) = 3 :=
  if_pos (Nat.succ_lt_succ isTry)

/-- The tries of a posting act on the store of the ledger, and the locks are written down in each and in every pause
between them. The induction is over the tries that are left. -/
theorem runFrom_tryOnce (posting : Posting) (more : Nat) {number : Nat} (isTry : 0 < number) (ledger : Ledger) :
    retry.runFrom (Subject.ofPosting posting) (tryOnce posting) more number ledger =
      let ended := retry.runFrom (Subject.ofPosting posting) (Retry.tries posting) more number ledger.storage
      (ended.1, ledger.watched ended.2 (glances number + 3 * ended.1.2.pauses.length)) := by
  induction more generalizing number ledger with
  | zero =>
    rw [Retry.runFrom, Retry.runFrom]
    simp only [bind, StateT.bind, tryOnce_run]
    cases Retry.tries posting number ledger.storage with
    | mk result after =>
      cases result with
      | ok posted => rfl
      | error failure =>
        dsimp only
        cases retry.verdict (Subject.ofPosting posting) number failure <;> rfl
  | succ more ih =>
    rw [Retry.runFrom, Retry.runFrom]
    simp only [bind, StateT.bind, tryOnce_run]
    cases Retry.tries posting number ledger.storage with
    | mk result after =>
      cases result with
      | ok posted => rfl
      | error failure =>
        dsimp only
        cases retry.verdict (Subject.ofPosting posting) number failure with
        | final last notices => rfl
        | again notice =>
          dsimp only
          cases retry.pause number with
          | error last => rfl
          | ok pause =>
            have next := @ih (number + 1) (Nat.succ_pos number) (ledger.watched after (glances number))
            have same : (ledger.watched after (glances number)).storage = after := rfl
            rw [glances_succ isTry, same] at next
            dsimp only [StateT.bind]
            rw [next]
            generalize retry.runFrom (Subject.ofPosting posting) (Retry.tries posting) more (number + 1) after =
              later
            change (_, (ledger.watched after (glances number)).watched later.2 _) =
              (_, ledger.watched later.2 (glances number + 3 * ([pause] ++ later.1.2.pauses).length))
            rw [watched_watched, List.length_append, List.length_singleton, Nat.mul_add]
            rfl

/-- The tries of a posting are tries on the store, and the locks that are written down meanwhile are those that
they began with. -/
theorem execute_run (tries : engine.retry = .ok retry) (posting : Posting) (ledger : Ledger) :
    execute engine posting ledger =
      let ended := retry.run (Subject.ofPosting posting) (Retry.tries posting) ledger.storage
      let left := ledger.watched ended.2 (2 + 3 * ended.1.2.pauses.length)
      (ended.1.1, { left with journal := left.journal ++ ended.1.2 }) := by
  unfold execute
  rw [tries]
  change (let ended := retry.run (Subject.ofPosting posting) (tryOnce posting) ledger
    (ended.1.1, { ended.2 with journal := ended.2.journal ++ ended.1.2 })) = _
  rw [Retry.run, runFrom_tryOnce posting _ Nat.one_pos]
  rfl

/-- If the tries cannot be counted there are none. -/
theorem execute_uncounted (uncounted : engine.retry = .error failure) (posting : Posting) (ledger : Ledger) :
    execute engine posting ledger = (.error failure, ledger) := by
  unfold execute
  rw [uncounted]
  rfl

end Ledger

end Passbook
