import Passbook.Proofs.Failures.Units
import Passbook.Proofs.Ledger.Outcome

/-!
Which failures of moving money have a name. On a ledger that an engine can depend on
(`Ledger.Dependable`), wherever its store fails, whatever is asked for between accounts that the store can
look for ends in a record or in a failure that callers are told about, if its amount can be judged and a
clock can wait for the locks as long as it is to. Main statement: that is so, and each of the three
conditions is needed (`Ledger.post_failure_named`).
-/

set_option autoImplicit false
set_option relaxedAutoImplicit false

namespace Passbook

open Procedure Session

/-! ### All tries of a posting -/

/-- What callers are told in place of a failure that is known has a name. -/
theorem Failure.IsKnown.told {failure : Failure} (known : failure.IsKnown) (kind : TransactionKind) :
    (failure.told kind).IsNamed := by
  cases failure with
  | ledger | integrity | trouble | unstorable | store => exact ⟨_, rfl⟩
  | _ => exact absurd known id

/-- A store at which the next try of a posting can be made: the first one only if there is no record of it
yet. -/
structure Posting.Awaits (posting : Posting) (number : Nat) (storage : Storage) : Prop where
  alone : storage.intrusions = []
  known : storage.FailsKnown
  canTry : posting.CanTry storage.database
  counted : 0 < number
  looks : ¬1 < number → storage.database.transactionReferenced? posting.reference = none

/-- A try that fails does so in a known way, and another one can be made. -/
theorem Posting.Awaits.tried {posting : Posting} {cents : Int} {number : Nat} {storage after : Storage}
    {failure : Failure} (awaits : posting.Awaits number storage) (moves : posting.Moves cents)
    (fits : ∀ leg ∈ posting.movement.legs, fitsWord leg.1 = true)
    (ended : Retry.tries posting number storage = (.error failure, after)) :
    failure.IsKnown ∧ posting.Awaits (number + 1) after := by
  have counted := awaits.counted
  obtain ⟨alone, tried⟩ := Work.tryPosting_tried awaits.alone moves ended
  unfold Retry.tries at ended
  rw [Work.run_eq] at ended
  obtain ⟨failed, rfl⟩ := Prod.mk.inj ended
  obtain ⟨works, known⟩ := Work.tryPosting_known moves fits awaits.canTry
    (fun first ↦ awaits.looks (of_decide_eq_false first)) (opened storage)
    ⟨awaits.alone, awaits.known, rfl⟩
  exact ⟨known failure failed, alone, works.known, Work.canTry_of_tried moves awaits.canTry tried,
    Nat.succ_pos number, fun first ↦ absurd first (by omega)⟩

namespace Ledger

variable {engine : Engine} {movement : Movement} {amount description : Value} {ledger : Ledger}
  {exact : Decimal} {content : String} {posting : Posting} {cents : Int} {seconds : Binary64}

/-- A ledger that an engine can depend on: nobody else writes to its store, which fails in no other ways than
its driver reports, and whose tables are well kept. -/
structure Dependable (ledger : Ledger) (engine : Engine) : Prop where
  intrusions : ledger.storage.intrusions = []
  known : ledger.storage.FailsKnown
  wellKept : ledger.storage.database.WellKept
  /-- The reference that is drawn next is a new one. -/
  fresh : ledger.storage.database.transactionReferenced? (.drawn ledger.storage.drawn) = none
  ceilings : engine.ceilings.Complete
  /-- The tries of the engine can be counted, and the pauses between them taken. -/
  tries : ∃ retry, engine.retry = .ok retry ∧
    ∀ number < retry.maxAttempts, ∃ pause, retry.pause number = .ok pause
  coherent : ledger.locks.Coherent

/-! ### Failures with a name -/

/-- The tries of a posting between accounts that the store can look for end in a failure with a name, if in
any. -/
theorem execute_named {failure : Failure} {retry : Retry} (tries : engine.retry = .ok retry)
    (pauses : ∀ number < retry.maxAttempts, ∃ pause, retry.pause number = .ok pause)
    (moves : posting.Moves cents) (fits : ∀ leg ∈ posting.movement.legs, fitsWord leg.1 = true)
    (awaits : posting.Awaits 1 ledger.storage)
    (failed : (execute engine posting ledger).1 = .error failure) : failure.IsNamed := by
  obtain ⟨count, made, comesTo⟩ := Retry.run_made (Retry.tries posting) ledger.storage
    (Subject.ofPosting posting) pauses
  rw [execute_run tries] at failed
  dsimp only at failed
  rw [comesTo.outcome] at failed
  obtain ⟨before, rfl⟩ : ∃ before, count = before + 1 := Nat.exists_eq_add_one.2 made.first
  have awaits' := made.holds _ _ awaits
    (fun _ _ _ _ awaits ended ↦ (awaits.tried moves fits ended).2) (Nat.lt_succ_self before)
  cases ended : Retry.tries posting (before + 1)
      (Retry.stateAfter (Retry.tries posting) ledger.storage before) with
  | mk outcome after =>
    have same : Retry.outcomeOf (Retry.tries posting) ledger.storage (before + 1) = outcome :=
      congrArg Prod.fst ended
    rw [same] at failed
    cases outcome with
    | ok posted => cases failed
    | error other =>
      obtain rfl := Except.error.inj failed
      exact (awaits'.tried moves fits ended).1.told _

/-- What is asked for in order, between accounts that the store can look for, fails by name if it does. -/
theorem post_named_of_wellPut (dependable : ledger.Dependable engine)
    (timed : (engine.lockTimeout.orElse ledger.lockPatience).seconds = .ok seconds)
    (waits : Locking.canWait seconds = true)
    (fits : ∀ id ∈ movement.accounts, fitsWord id = true)
    (wellPut : WellPut engine.ceilings movement amount description exact content)
    {failure : Failure} (failed : (post engine movement amount description ledger).1 = .error failure) :
    failure.IsNamed := by
  obtain ⟨retry, tries, pauses⟩ := dependable.tries
  obtain ⟨cents, moves⟩ := moves_of_wellPut wellPut ledger
  rw [post_eq_hold wellPut] at failed
  obtain ⟨locks, coherent, ⟨acquired, taken⟩ | ⟨account, -, -, -, refused⟩⟩ :=
    Locking.acquire_cases waits dependable.coherent movement.accounts
  · rw [hold_acquired ledger.drawing timed acquired coherent
      (fun id member ↦ (taken.locked id).2 (Or.inl member)) fun _ locked ↦
        execute_locks engine (postingOf movement exact content ledger) locked] at failed
    refine execute_named tries pauses moves (fun leg member ↦ ?_) ?_ failed
    · exact fits _ (movement.accounts_eq_legs ▸ List.mem_map_of_mem member)
    · exact ⟨dependable.intrusions, dependable.known,
        Or.inl ⟨dependable.wellKept, dependable.fresh⟩, Nat.one_pos, fun _ ↦ dependable.fresh⟩
  · rw [hold_refused ledger.drawing timed refused] at failed
    obtain rfl := Except.error.inj failed
    exact ⟨_, rfl⟩

/-! ### Failures without a name -/

/-- An amount that cannot be judged ends in a failure without a name. -/
theorem post_unjudged (unjudgeable : ¬amount.IsJudgeable) :
    ∃ failure, (post engine movement amount description ledger).1 = .error failure ∧
      ¬failure.IsNamed := by
  obtain ⟨failure, refused, unnamed⟩ := Money.ofValue_unjudged unjudgeable
  refine ⟨failure, post_of_prepare ?_, unnamed⟩
  exact (checkAmount_refused refused ledger).imp fun _ ↦ prepare_of_amount

/-- A lock timeout that no clock can wait for is more than the machine can hold. -/
theorem post_unwaited
    (timed : (engine.lockTimeout.orElse ledger.lockPatience).seconds = .ok seconds)
    (waits : Locking.canWait seconds = false)
    (wellPut : WellPut engine.ceilings movement amount description exact content) :
    (post engine movement amount description ledger).1 = .error .overflow := by
  have some : movement.accounts ≠ [] := by
    cases movement <;> exact List.cons_ne_nil _ _
  obtain ⟨first, rest, -, refused⟩ := Locking.acquire_overflow waits some ledger.locks
  rw [post_eq_hold wellPut]
  exact hold_refused ledger.drawing timed refused

end Ledger

/-- A calm unit cannot look for an account whose number the store cannot hold. -/
theorem Work.loadActive_wide {calm : Session} {id : Int} (isCalm : calm.Calm)
    (wide : fitsWord id = false) : ∃ after, loadActive id calm = (.error .overflow, after) := by
  obtain ⟨connected, connects, -⟩ := connect_calm isCalm
  have tooWide : requireWord id connected = (.error .overflow, connected) := by
    rw [requireWord, wide]
    rfl
  refine ⟨connected, ?_⟩
  unfold loadActive load
  rw [run_bind, run_bind_ok (pass_calm .load isCalm), run_bind_ok connects, run_bind, tooWide]

namespace Ledger

variable {engine : Engine} {movement : Movement} {amount description : Value} {ledger : Ledger}
  {exact : Decimal} {content : String} {seconds : Binary64}

/-- A ledger whose store does not fail and whose locks for some accounts are free. -/
structure Idle (ledger : Ledger) (accounts : List Int) : Prop where
  faults : ledger.storage.faults = []
  reachable : ledger.storage.reachable = true
  free : ∀ id ∈ accounts, ledger.locks.isLocked id = false

/-- An account behind active ones whose number the store cannot hold is more than it can look for. -/
theorem post_wide (dependable : ledger.Dependable engine)
    (timed : (engine.lockTimeout.orElse ledger.lockPatience).seconds = .ok seconds)
    (waits : Locking.canWait seconds = true)
    (wellPut : WellPut engine.ceilings movement amount description exact content)
    (idle : ledger.Idle movement.accounts) {earlier later : List (Int × Direction)}
    {leg : Int × Direction} (legs : movement.legs = earlier ++ leg :: later)
    (active : ∀ other ∈ earlier, fitsWord other.1 = true ∧ ledger.storage.database.Active other.1)
    (wide : fitsWord leg.1 = false) :
    (post engine movement amount description ledger).1 = .error .overflow := by
  obtain ⟨retry, tries, -⟩ := dependable.tries
  have isCalm : ledger.begun.Calm := ⟨idle.faults, dependable.intrusions, idle.reachable⟩
  obtain ⟨after, ended⟩ : ∃ after, Work.readLegs (postingOf movement exact content ledger)
      ledger.begun = (.error .overflow, after) :=
    Work.readLegs_refused isCalm dependable.wellKept legs (fun other member ↦ (active other member).1)
      (fun other member ↦ (active other member).2)
      fun _ mirrors ↦ Work.loadActive_wide mirrors.quiet wide
  have refused : Work.applyPosting (postingOf movement exact content ledger) ledger.begun =
      (.error .overflow, after) := by
    rw [Work.applyPosting, run_bind, ended]
  rw [post_eq_hold wellPut]
  obtain ⟨locks, held⟩ := hold_free ledger.drawing timed waits dependable.coherent idle.free
    fun _ locked ↦ execute_locks engine (postingOf movement exact content ledger) locked
  rw [held]
  generalize locking : ({ ledger.drawing with locks } : Ledger) = locked
  have tried : (Retry.tries (postingOf movement exact content ledger) 1 locked.storage).1 =
      .error .overflow := locking ▸ tryPosting_refused refused
  exact execute_first tries tried rfl

/-! ### The whole -/

/-- Wherever the store fails, moving money ends in a record or in a failure with a name, if the amount can be
judged, a clock can wait for the locks as long as it is to, and the store can look for the accounts. An
amount that cannot be judged ends in a failure without a name, and what is else asked for in order ends in
an overflow: for every lock timeout that no clock can wait for, and for every account behind active ones
that the store, though it does not fail, cannot look for. All of this is about values, so a description with an
unpaired surrogate, which no store can write, is not asked for here, and pauses are taken however long. -/
theorem post_failure_named (engine : Engine) (movement : Movement) (amount description : Value)
    (ledger : Ledger) (dependable : ledger.Dependable engine) (seconds : Binary64)
    (timed : (engine.lockTimeout.orElse ledger.lockPatience).seconds = .ok seconds) :
    let outcome := (post engine movement amount description ledger).1
    (amount.IsJudgeable → Locking.canWait seconds = true →
        (∀ id ∈ movement.accounts, fitsWord id = true) →
        ∀ failure, outcome = .error failure → failure.IsNamed) ∧
      (¬amount.IsJudgeable → ∃ failure, outcome = .error failure ∧ ¬failure.IsNamed) ∧
      ∀ exact content, WellPut engine.ceilings movement amount description exact content →
        (Locking.canWait seconds = false → outcome = .error .overflow) ∧
        (Locking.canWait seconds = true → ledger.Idle movement.accounts →
          ∀ earlier leg later, movement.legs = earlier ++ leg :: later →
          (∀ other ∈ earlier, fitsWord other.1 = true ∧ ledger.storage.database.Active other.1) →
          fitsWord leg.1 = false → outcome = .error .overflow) := by
  intro outcome
  refine ⟨fun judgeable waits fits failure failed ↦ ?_, post_unjudged,
    fun exact content wellPut ↦ ⟨fun waits ↦ post_unwaited timed waits wellPut,
      fun waits idle earlier leg later legs active wide ↦
        post_wide dependable timed waits wellPut idle legs active wide⟩⟩
  rcases wellPut_or_refused movement description dependable.ceilings judgeable
    ledger.storage.database ledger with ⟨exact, content, wellPut⟩ | ⟨named, -, refused⟩
  · exact post_named_of_wellPut dependable timed waits fits wellPut failed
  · rw [show outcome = _ from post_of_prepare refused] at failed
    obtain rfl := Except.error.inj failed
    exact ⟨named, rfl⟩

/-- Two active accounts in a store that fails as planned. -/
def failing (faults : List (Planned Point Fault)) : Ledger :=
  { twoActive with storage := { twoActive.storage with faults } }

theorem dependable_failing {faults : List (Planned Point Fault)}
    (known : ∀ planned ∈ faults, planned.what ≠ .interrupted) :
    (failing faults).Dependable (moving 1000) where
  intrusions := rfl
  known := known
  wellKept := (undisturbed_twoActive 1000).wellKept
  fresh := rfl
  ceilings := (undisturbed_twoActive 1000).ceilings
  tries := ⟨_, rfl, fun number below ↦ ⟨_, by obtain rfl := Nat.lt_one_iff.1 below; rfl⟩⟩
  coherent := LockTable.coherent_empty

theorem wellPut_deposit (id : Int) :
    WellPut (moving 1000).ceilings (.deposit id) (.decimal (.finite false 1234 (-2))) (.text "")
      (.finite false 1234 (-2)) "" where
  admitted := by
    have amount : (Decimal.finite false 1234 (-2)).toRat = 12.34 := by
      norm_num [Decimal.toRat, Decimal.signed]
    have ceiling : (Decimal.finite false 1000 0).toRat = 1000 := by
      norm_num [Decimal.toRat, Decimal.signed]
    refine ⟨rfl, ?_, .integer 1000, .finite false 1000 0, rfl, rfl, rfl, ?_⟩
    · norm_num [amount]
    · norm_num [amount, ceiling]
  described := ⟨rfl, by decide⟩
  apart _ same := by cases same

/-- A deposit that the store cannot begin is refused by name, and one to an account that it cannot look for
is not. -/
theorem post_failure_named_deposit :
    (∃ named, (post (moving 1000) (.deposit 1) (.decimal (.finite false 1234 (-2))) (.text "")
        (failing [{ place := .load, what := .trouble }])).1 = .error (.ledger named)) ∧
      (post (moving 1000) (.deposit 9223372036854775808) (.decimal (.finite false 1234 (-2)))
        (.text "") (failing [])).1 = .error .overflow := by
  constructor
  · obtain ⟨named, -⟩ := post_failure_named (moving 1000) (.deposit 1)
      (.decimal (.finite false 1234 (-2))) (.text "") (failing [{ place := .load, what := .trouble }])
      (dependable_failing (by decide)) _ rfl
    cases ended : (post (moving 1000) (.deposit 1) (.decimal (.finite false 1234 (-2))) (.text "")
        (failing [{ place := .load, what := .trouble }])).1 with
    | ok record =>
      have failed : (post (moving 1000) (.deposit 1) (.decimal (.finite false 1234 (-2))) (.text "")
        (failing [{ place := .load, what := .trouble }])).1.isOk = false := by decide +kernel
      rw [ended] at failed
      cases failed
    | error failure =>
      obtain ⟨cause, rfl⟩ := named (Value.isJudgeable_of_offered (Or.inr ⟨_, rfl⟩)) (by decide +kernel)
        (by decide) failure ended
      exact ⟨cause, rfl⟩
  · obtain ⟨-, -, overflows⟩ := post_failure_named (moving 1000) (.deposit 9223372036854775808)
      (.decimal (.finite false 1234 (-2))) (.text "") (failing [])
      (dependable_failing (by decide)) _ rfl
    exact (overflows _ _ (wellPut_deposit _)).2 (by decide +kernel) ⟨rfl, rfl, fun _ _ ↦ rfl⟩ [] _ []
      rfl (fun _ none ↦ by cases none) (by decide)

end Ledger

end Passbook
