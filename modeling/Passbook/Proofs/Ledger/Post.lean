import Passbook.Proofs.Ledger.Execution

/-!
Moving money through the ledger, with nobody else writing to the store. Whatever is asked for and wherever
the store fails, the tables are as before or have the movement applied exactly once, and a record is
given only for the latter (`post_exactly_once`). A failure that the ledger names means that nothing has
changed, except when a commit took effect without being reported (`post_failed_iff`).
-/

set_option autoImplicit false
set_option relaxedAutoImplicit false

namespace Passbook

open Procedure

/-! ### Holding locks -/

namespace Locking

/-- Locks that cannot be given back are no failure that the ledger names. -/
theorem raises_release (accounts : List Int) :
    (release accounts).Raises fun failure ↦ ∀ named, failure ≠ .ledger named := by
  unfold release
  refine confined_forM fun account _ ↦ ?_
  unfold releaseOne
  refine confined_bind confined_get fun table ↦ ?_
  split
  · refine confined_bind confined_get fun table ↦ ?_
    split
    · refine confined_bind (confined_set trivial) fun _ ↦ ?_
      unfold checkIn
      refine confined_bind confined_get fun table ↦ ?_
      split
      · exact confined_set trivial
      · exact confined_throw (by intro named same; cases same)
    · exact confined_throw (by intro named same; cases same)
  · exact confined_throw (by intro named same; cases same)

theorem raises_within {State Result : Type} [LockKeeper State] {property : Failure → Prop}
    {locking : Locking Result} (raises : locking.Raises property) :
    (within locking : Procedure Failure State Result).Raises property :=
  fun state _ ↦ ⟨trivial, (raises (LockKeeper.table state) trivial).2⟩

end Locking

/-- An amount within its ceiling is above zero. -/
theorem Ceilings.above_of_allow {ceilings : Ceilings} {kind : TransactionKind} {amount : Decimal}
    (allowed : ceilings.allow kind (.decimal amount) = .ok true) :
    Decimal.zero.compare? amount = some .lt := by
  unfold allow Value.isBelow at allowed
  cases compared : Decimal.zero.compare? amount with
  | none =>
    rw [Value.compare_of_none rfl rfl compared rfl] at allowed
    cases allowed
  | some order =>
    rw [Value.compare_of_some rfl rfl compared] at allowed
    cases order with
    | lt => rfl
    | eq => cases allowed
    | gt => cases allowed

namespace Ledger

variable {Result : Type}

/-- The store is as before. -/
def SameStore (before after : Ledger) : Prop := after.storage = before.storage

theorem SameStore.trans {first second third : Ledger} (begins : first.SameStore second)
    (goesOn : second.SameStore third) : first.SameStore third :=
  Eq.trans goesOn begins

instance : IsPreorder Ledger SameStore where
  refl _ := rfl
  trans _ _ _ := SameStore.trans

theorem leaves_within (locking : Locking Result) :
    (Locking.within locking : Action Result).Leaves SameStore :=
  fun _ ↦ rfl

theorem leaves_acquireWithin (timeout : Value) (accounts : List Int) :
    (Locking.acquireWithin timeout accounts : Action (List Int)).Leaves SameStore := by
  unfold Locking.acquireWithin
  refine leaves_bind (leaves_ofExcept _) fun seconds ↦ ?_
  refine leaves_tryCatch (leaves_within _) fun failure ↦ ?_
  exact leaves_bind (fun _ ↦ rfl) fun _ ↦ leaves_throw _

/-- What holding locks around something comes to: the locks are not had and nothing happens, or it
happens and its outcome is that of the whole, unless the locks cannot be given back. -/
theorem hold_cases {timeout : Value} {accounts : List Int} {body : List Int → Action Result}
    {ledger after : Ledger} {outcome : Except Failure Result}
    (ran : Locking.hold timeout accounts body ledger = (outcome, after)) :
    (∃ failure, outcome = .error failure ∧ ledger.SameStore after) ∨
      ∃ held locked, ledger.SameStore locked ∧ (body held locked).2.SameStore after ∧
        (outcome = (body held locked).1 ∨
          ∃ failure, outcome = .error failure ∧ ∀ named, failure ≠ .ledger named) := by
  unfold Locking.hold at ran
  rw [run_bind] at ran
  cases acquired : (Locking.acquireWithin timeout accounts : Action (List Int)) ledger with
  | mk got locked =>
    have same := (leaves_acquireWithin timeout accounts).of_eq acquired
    rw [acquired] at ran
    cases got with
    | error failure =>
      obtain ⟨rfl, rfl⟩ := Prod.mk.inj ran
      exact Or.inl ⟨failure, rfl, same⟩
    | ok held =>
      refine Or.inr ⟨held, locked, same, ?_⟩
      dsimp only at ran
      rw [run_bind, run_attempt] at ran
      dsimp only at ran
      rw [run_bind] at ran
      cases released : (Locking.within (Locking.release held) : Action Unit) (body held locked).2 with
      | mk given final =>
        have kept := (leaves_within _).of_eq released
        rw [released] at ran
        cases given with
        | ok _ =>
          obtain ⟨rfl, rfl⟩ := Prod.mk.inj ran
          exact ⟨kept, Or.inl rfl⟩
        | error failure =>
          obtain ⟨rfl, rfl⟩ := Prod.mk.inj ran
          refine ⟨kept, Or.inr ⟨failure, rfl, ?_⟩⟩
          exact ((Locking.raises_within (Locking.raises_release held)).of_eq released trivial).2 _ rfl

/-! ### What is asked for -/

/-- The posting that a request comes to, once it is accepted. -/
structure Asked (movement : Movement) (amount description : Value) (posting : Posting) : Prop where
  movement : posting.movement = movement
  amount : Money.ofValue amount = .ok posting.amount
  description : checkDescription description = .ok posting.description

theorem leaves_record (entries : Journal) : (record entries).Leaves SameStore :=
  fun _ ↦ rfl

theorem leaves_report (severity : Severity) (text : String) :
    (report severity text).Leaves SameStore :=
  leaves_record _

section Checks

variable {relation : Ledger → Ledger → Prop} [IsPreorder Ledger relation]
  (reports : ∀ severity text, (report severity text).Leaves relation)

include reports

theorem leaves_checkAmount (engine : Engine) (kind : TransactionKind) (given : Value) :
    (checkAmount engine kind given).Leaves relation := by
  unfold checkAmount
  split
  · dsimp only
    split
    · exact leaves_bind (reports _ _) fun _ ↦ leaves_throw _
    · exact leaves_throw _
  · refine leaves_bind (leaves_ofExcept _) fun allowed ↦ ?_
    refine leaves_ite (leaves_pure _) ?_
    refine leaves_bind (reports _ _) fun _ ↦ ?_
    split
    · exact leaves_throw _
    · exact leaves_throw _

theorem leaves_checkText (kind : TransactionKind) (given : Value) :
    (checkText kind given).Leaves relation := by
  unfold checkText
  split
  · exact leaves_pure _
  · exact leaves_bind (reports _ _) fun _ ↦ leaves_throw _

theorem leaves_checkAccounts (movement : Movement) : (checkAccounts movement).Leaves relation := by
  unfold checkAccounts
  split
  · refine leaves_ite ?_ (leaves_pure _)
    exact leaves_bind (reports _ _) fun _ ↦ leaves_throw _
  · exact leaves_pure _

end Checks

theorem checkAmount_ok {engine : Engine} {kind : TransactionKind} {given : Value} {amount : Decimal}
    {ledger after : Ledger} (checked : checkAmount engine kind given ledger = (.ok amount, after)) :
    Money.ofValue given = .ok amount ∧
      engine.ceilings.allow kind (.decimal amount) = .ok true := by
  unfold checkAmount at checked
  cases exact : Money.ofValue given with
  | error failure =>
    rw [exact] at checked
    dsimp only at checked
    split at checked
    · obtain ⟨_, _, _, checked⟩ := ok_of_bind checked
      cases (Prod.mk.inj checked).1
    · cases (Prod.mk.inj checked).1
  | ok exactAmount =>
    rw [exact] at checked
    obtain ⟨allowed, _, allowing, checked⟩ := ok_of_bind checked
    obtain ⟨allowed', -⟩ := ok_of_ofExcept allowing
    cases allowed with
    | true =>
      obtain ⟨same, -⟩ := Prod.mk.inj checked
      obtain rfl := Except.ok.inj same
      exact ⟨rfl, allowed'⟩
    | false =>
      obtain ⟨_, _, _, checked⟩ := ok_of_bind checked
      cases ceiling : engine.ceilings.of? kind <;> rw [ceiling] at checked <;>
        cases (Prod.mk.inj checked).1

theorem checkText_ok {kind : TransactionKind} {given : Value} {description : String}
    {ledger after : Ledger} (checked : checkText kind given ledger = (.ok description, after)) :
    checkDescription given = .ok description := by
  unfold checkText at checked
  cases text : checkDescription given with
  | error failure =>
    rw [text] at checked
    obtain ⟨_, _, _, checked⟩ := ok_of_bind checked
    cases (Prod.mk.inj checked).1
  | ok written =>
    rw [text] at checked
    exact (Prod.mk.inj checked).1

theorem checkAccounts_ok {movement : Movement} {ledger after : Ledger} {result : Unit}
    (checked : checkAccounts movement ledger = (.ok result, after)) :
    (movement.legs.map (·.1)).Nodup := by
  unfold checkAccounts at checked
  cases movement with
  | transfer source destination =>
    dsimp only at checked
    split at checked
    · obtain ⟨_, _, _, checked⟩ := ok_of_bind checked
      cases (Prod.mk.inj checked).1
    · next apart => simpa [Movement.legs] using apart
  | _ => simp [Movement.legs]

/-- An amount that is accepted is exact, and one within its ceiling is above zero. -/
theorem moves_of_accepted {ceilings : Ceilings} {given : Value} {posting : Posting}
    (exact : Money.ofValue given = .ok posting.amount)
    (allowed : ceilings.allow posting.movement.kind (.decimal posting.amount) = .ok true)
    (apart : (posting.movement.legs.map (·.1)).Nodup) : ∃ cents, posting.Moves cents := by
  obtain ⟨cents, whole⟩ := Money.ofValue_cents exact
  refine ⟨cents, whole, ?_, apart⟩
  have above := Ceilings.above_of_allow allowed
  rw [Decimal.compare?_swap, Decimal.compare?_zero whole] at above
  exact Int.compare_eq_gt.1 (Ordering.swap_eq_lt.1 (Option.some.inj above))

/-- The part of moving money that comes before any account is touched. -/
def prepare (engine : Engine) (movement : Movement) (amount description : Value) :
    Action Posting := do
  let amount ← checkAmount engine movement.kind amount
  let description ← checkText movement.kind description
  checkAccounts movement
  let posting : Posting := { movement, amount, description, reference := ← drawReference }
  Procedure.ofExcept (Record.check movement (.decimal amount))
  return posting

/-- Money is moved by a posting that is prepared and tried while its accounts are locked. -/
theorem post_eq_prepare (engine : Engine) (movement : Movement) (amount description : Value) :
    post engine movement amount description = (do
      let posting ← prepare engine movement amount description
      let patience := engine.lockTimeout.orElse (← get).lockPatience
      Locking.hold patience movement.accounts fun _ ↦ execute engine posting) := by
  simp only [post, prepare, bind_assoc, pure_bind]

/-- A posting is refused, or it is what was asked for, moves cents, and has drawn its reference. -/
theorem prepare_cases {engine : Engine} {movement : Movement} {amount description : Value}
    {ledger after : Ledger} {outcome : Except Failure Posting}
    (ran : prepare engine movement amount description ledger = (outcome, after)) :
    (∃ serial, after.storage = { ledger.storage with drawn := serial }) ∧
      ((∃ failure, outcome = .error failure) ∨
        ∃ posting cents, outcome = .ok posting ∧ Asked movement amount description posting ∧
          posting.reference = .drawn ledger.storage.drawn ∧ posting.Moves cents) := by
  unfold prepare at ran
  rcases cases_of_bind ran with ⟨failure, refused, rfl⟩ | ⟨exact, _, checked₁, ran⟩
  · exact ⟨⟨_, (leaves_checkAmount leaves_report _ _ _).of_eq refused⟩, Or.inl ⟨failure, rfl⟩⟩
  have same₁ := (leaves_checkAmount leaves_report _ _ _).of_eq checked₁
  obtain ⟨exactly, allowed⟩ := checkAmount_ok checked₁
  rcases cases_of_bind ran with ⟨failure, refused, rfl⟩ | ⟨text, _, checked₂, ran⟩
  · exact ⟨⟨_, same₁.trans ((leaves_checkText leaves_report _ _).of_eq refused)⟩, Or.inl ⟨failure, rfl⟩⟩
  have same₂ := same₁.trans ((leaves_checkText leaves_report _ _).of_eq checked₂)
  rcases cases_of_bind ran with ⟨failure, refused, rfl⟩ | ⟨_, third, checked₃, ran⟩
  · exact ⟨⟨_, same₂.trans ((leaves_checkAccounts leaves_report _).of_eq refused)⟩, Or.inl ⟨failure, rfl⟩⟩
  have same₃ : third.storage = ledger.storage :=
    same₂.trans ((leaves_checkAccounts leaves_report _).of_eq checked₃)
  have apart := checkAccounts_ok checked₃
  rcases cases_of_bind ran with ⟨failure, drawn, -⟩ | ⟨reference, fourth, drawn, ran⟩
  · cases (Prod.mk.inj drawn).1
  obtain ⟨sameReference, rfl⟩ := Prod.mk.inj drawn
  obtain rfl := Except.ok.inj sameReference
  rcases cases_of_bind ran with ⟨failure, refused, rfl⟩ | ⟨_, _, checked₄, ran⟩
  · rw [run_ofExcept] at refused
    rw [← (Prod.mk.inj refused).2, same₃]
    exact ⟨⟨_, rfl⟩, Or.inl ⟨failure, rfl⟩⟩
  obtain ⟨-, rfl⟩ := ok_of_ofExcept checked₄
  obtain ⟨rfl, rfl⟩ := Prod.mk.inj ran
  refine ⟨⟨ledger.storage.drawn + 1, by rw [same₃]⟩, Or.inr ?_⟩
  let posting : Posting :=
    { movement, amount := exact, description := text, reference := .drawn third.storage.drawn }
  obtain ⟨cents, moves⟩ : ∃ cents, posting.Moves cents := moves_of_accepted exactly allowed apart
  exact ⟨posting, cents, rfl, ⟨rfl, exactly, checkText_ok checked₂⟩, by rw [← same₃], moves⟩

/-- Tries of a posting on the ledger's store. -/
theorem execute_settled (engine : Engine) {posting : Posting} {cents : Int} {ledger : Ledger}
    (alone : ledger.storage.intrusions = []) (moves : posting.Moves cents) :
    posting.Settled cents ledger.storage (execute engine posting ledger).2.storage
      (execute engine posting ledger).1 := by
  cases tries : engine.retry with
  | error failure =>
    rw [execute_uncounted tries]
    exact .refused failure ⟨rfl, rfl⟩
  | ok retry =>
    rw [execute_run tries]
    exact Retry.runFrom_settled alone moves (retry.maxAttempts - 1) 1

/-- What moving money does to the store: it is refused and the tables are left alone, or a posting of cents
is tried on them and its outcome is that of the whole, unless the locks cannot be given back. -/
theorem post_executes (engine : Engine) (movement : Movement) (amount description : Value)
    {ledger after : Ledger} {outcome : Except Failure Record}
    (ran : post engine movement amount description ledger = (outcome, after)) :
    (∃ failure serial, outcome = .error failure ∧
        after.storage = { ledger.storage with drawn := serial }) ∨
      ∃ posting cents serial locked, Asked movement amount description posting ∧
        posting.reference = .drawn ledger.storage.drawn ∧ posting.Moves cents ∧
        locked.storage = { ledger.storage with drawn := serial } ∧
        after.storage = (execute engine posting locked).2.storage ∧
        (outcome = (execute engine posting locked).1 ∨
          ∃ failure, outcome = .error failure ∧ ∀ named, failure ≠ .ledger named) := by
  rw [post_eq_prepare] at ran
  rcases cases_of_bind ran with ⟨failure, refused, rfl⟩ | ⟨posting, prepared, preparing, ran⟩
  · obtain ⟨⟨serial, storage⟩, -⟩ := prepare_cases refused
    exact Or.inl ⟨failure, serial, rfl, storage⟩
  obtain ⟨⟨serial, storage⟩, ⟨_, failed⟩ | ⟨_, cents, same, asked, reference, moves⟩⟩ :=
    prepare_cases preparing
  · cases failed
  obtain rfl := Except.ok.inj same
  rcases cases_of_bind ran with ⟨failure, got, -⟩ | ⟨_, _, got, ran⟩
  · cases (Prod.mk.inj got).1
  obtain ⟨sameLedger, rfl⟩ := Prod.mk.inj got
  obtain rfl := Except.ok.inj sameLedger
  rcases hold_cases ran with ⟨failure, rfl, same⟩ | ⟨held, locked, same, same', ends⟩
  · exact Or.inl ⟨failure, serial, rfl, Eq.trans same storage⟩
  · exact Or.inr ⟨posting, cents, serial, locked, asked, reference, moves, Eq.trans same storage,
      same', ends⟩

/-- What moving money comes to: it is refused and the tables are left alone, or a posting of cents is
settled and its outcome is that of the whole, unless the locks cannot be given back. -/
theorem post_cases (engine : Engine) (movement : Movement) (amount description : Value)
    {ledger after : Ledger} {outcome : Except Failure Record}
    (alone : ledger.storage.intrusions = [])
    (ran : post engine movement amount description ledger = (outcome, after)) :
    (∃ failure, outcome = .error failure ∧ ledger.storage.Keeps after.storage) ∨
      ∃ posting cents settled, Asked movement amount description posting ∧
        posting.reference = .drawn ledger.storage.drawn ∧ posting.Moves cents ∧
        posting.Settled cents ledger.storage after.storage settled ∧
        (outcome = settled ∨ ∃ failure, outcome = .error failure ∧ ∀ named, failure ≠ .ledger named) := by
  have kept (serial : Nat) : ledger.storage.Keeps { ledger.storage with drawn := serial } :=
    ⟨rfl, rfl⟩
  rcases post_executes engine movement amount description ran with
    ⟨failure, serial, rfl, storage⟩ |
    ⟨posting, cents, serial, locked, asked, reference, moves, storage, same, ends⟩
  · exact Or.inl ⟨failure, rfl, storage ▸ kept serial⟩
  · have alone' : locked.storage.intrusions = [] := by
      rw [storage]
      exact alone
    have settled := execute_settled engine alone' moves
    rw [← same, storage] at settled
    exact Or.inr ⟨posting, cents, _, asked, reference, moves, settled.of_keeps (kept serial), ends⟩

/-- A request was applied exactly once, under the reference that was drawn for it. -/
def Applied (movement : Movement) (amount description : Value) (row : TransactionRow)
    (before after : Storage) : Prop :=
  ∃ posting cents, Asked movement amount description posting ∧
    posting.reference = .drawn before.drawn ∧ posting.Moves cents ∧
    before.database.Posted posting cents row after.database

/-- Whatever is asked for and wherever the store fails, the tables stay as they were or have the
movement applied exactly once. -/
theorem post_applied (engine : Engine) (movement : Movement) (amount description : Value)
    {ledger : Ledger} (alone : ledger.storage.intrusions = []) :
    let after := (post engine movement amount description ledger).2.storage
    after.database = ledger.storage.database ∨
      ∃ row, Applied movement amount description row ledger.storage after := by
  intro after
  rcases post_cases engine movement amount description alone rfl with ⟨failure, -, kept⟩ |
    ⟨posting, cents, settled, asked, reference, moves, settlement, -⟩
  · exact Or.inl kept.1
  · cases settlement with
    | refused failure kept => exact Or.inl kept.1
    | known record row found isRead kept => exact Or.inl kept.1
    | applied record row posted isRead =>
      exact Or.inr ⟨row, posting, cents, asked, reference, moves, posted⟩
    | unreported failure row posted unreported =>
      exact Or.inr ⟨row, posting, cents, asked, reference, moves, posted⟩

/-- All or nothing, and exactly once: the tables stay as they were or have the movement applied exactly
once, and a record that is given is the one that the new row is read as. -/
theorem post_exactly_once (engine : Engine) (movement : Movement) (amount description : Value)
    (ledger : Ledger) (alone : ledger.storage.intrusions = [])
    (fresh : ledger.storage.database.transactionReferenced? (.drawn ledger.storage.drawn) = none) :
    let outcome := (post engine movement amount description ledger).1
    let after := (post engine movement amount description ledger).2.storage
    (after.database = ledger.storage.database ∨
        ∃ row, Applied movement amount description row ledger.storage after) ∧
      ∀ record, outcome = .ok record →
        ∃ row, Applied movement amount description row ledger.storage after ∧
          row.read = .ok record := by
  intro outcome after
  refine ⟨post_applied engine movement amount description alone, fun record given ↦ ?_⟩
  have ran : post engine movement amount description ledger =
      (.ok record, (post engine movement amount description ledger).2) := Prod.ext given rfl
  rcases post_cases engine movement amount description alone ran with ⟨failure, failed, -⟩ |
    ⟨posting, cents, settled, asked, reference, moves, settlement, same | ⟨failure, failed, -⟩⟩
  · cases failed
  · cases settlement with
    | refused failure kept => cases same
    | known record row found isRead kept =>
      rw [reference, fresh] at found
      cases found
    | applied record' row posted isRead =>
      obtain rfl := Except.ok.inj same
      exact ⟨row, ⟨posting, cents, asked, reference, moves, posted⟩, isRead⟩
    | unreported failure row posted unreported => cases same
  · cases failed

/-- One account without money, in a store whose next commit takes effect without being reported. -/
def nextUnreported : Ledger where
  storage := {
    database := { accounts := [⟨1, "ACC0000000001", 1, .checking, .active, "0.00", 1⟩] }
    faults := [{ place := .acknowledgement, what := .trouble }] }

/-- An engine that tries so many times. -/
def trying (count : Nat) (positive : 0 < count) : Engine where
  ceilings := ⟨[(.deposit, .integer 100)]⟩
  lockTimeout := .integer 0
  retry := .ok ⟨count, .integer 0, positive⟩

/-- Whether something ended in a failure that the ledger names. -/
def isNamed {Result : Type} : Except Failure Result → Bool
  | .error (.ledger _) => true
  | _ => false

/-- With a second try the deposit is found, and was made once. -/
theorem post_exactly_once_found : ∃ record row,
    (post (trying 2 (by decide)) (.deposit 1) (.text "12.34") (.text "") nextUnreported).1 =
        .ok record ∧
      Applied (.deposit 1) (.text "12.34") (.text "") row nextUnreported.storage
        (post (trying 2 (by decide)) (.deposit 1) (.text "12.34") (.text "")
          nextUnreported).2.storage ∧
      row.read = .ok record := by
  have given : (post (trying 2 (by decide)) (.deposit 1) (.text "12.34") (.text "")
      nextUnreported).1.isOk = true := by decide +kernel
  cases ended : (post (trying 2 (by decide)) (.deposit 1) (.text "12.34") (.text "")
      nextUnreported).1 with
  | error failure =>
    rw [ended] at given
    cases given
  | ok record =>
    obtain ⟨row, applied, isRead⟩ :=
      (post_exactly_once (trying 2 (by decide)) (.deposit 1) (.text "12.34") (.text "")
        nextUnreported rfl rfl).2 record ended
    exact ⟨record, row, rfl, applied, isRead⟩

/-- A failure that the ledger names leaves the tables as they were exactly if every commit that took
effect meanwhile was reported; otherwise the movement was applied exactly once. -/
theorem post_failed_iff (engine : Engine) (movement : Movement) (amount description : Value)
    (ledger : Ledger) (alone : ledger.storage.intrusions = []) (failure : LedgerFailure)
    (failed : (post engine movement amount description ledger).1 = .error (.ledger failure)) :
    let after := (post engine movement amount description ledger).2.storage
    (after.database = ledger.storage.database ↔ after.unreported = ledger.storage.unreported) ∧
      (after.database ≠ ledger.storage.database →
        ∃ row, Applied movement amount description row ledger.storage after) := by
  intro after
  have ran : post engine movement amount description ledger =
      (.error (.ledger failure), (post engine movement amount description ledger).2) :=
    Prod.ext failed rfl
  have unchanged (kept : ledger.storage.Keeps after) :
      (after.database = ledger.storage.database ↔
          after.unreported = ledger.storage.unreported) ∧
        (after.database ≠ ledger.storage.database →
          ∃ row, Applied movement amount description row ledger.storage after) :=
    ⟨⟨fun _ ↦ kept.2, fun _ ↦ kept.1⟩, fun changed ↦ absurd kept.1 changed⟩
  rcases post_cases engine movement amount description alone ran with ⟨_, _, kept⟩ |
    ⟨posting, cents, settled, asked, reference, moves, settlement, ends⟩
  · exact unchanged kept
  · have same : settled = .error (.ledger failure) := by
      rcases ends with same | ⟨other, failed', unnamed⟩
      · exact same.symm
      · exact absurd (Except.error.inj failed').symm (unnamed failure)
    cases settlement with
    | refused _ kept => exact unchanged kept
    | known record row found isRead kept => cases same
    | applied record row posted isRead => cases same
    | unreported _ row posted unreported =>
      have changed : after.database ≠ ledger.storage.database := by
        intro unchanged
        have longer := congrArg List.length posted.recorded
        rw [unchanged, List.length_append, List.length_singleton] at longer
        omega
      refine ⟨⟨fun unchanged ↦ absurd unchanged changed, fun unused ↦ ?_⟩, fun _ ↦ ?_⟩
      · change after.unreported + 1 = _ at unreported
        omega
      · exact ⟨row, posting, cents, asked, reference, moves, posted⟩

/-- With a single try the deposit is called a failure, although it was made. -/
theorem post_failed_unreported : ∃ failure,
    (post (trying 1 (by decide)) (.deposit 1) (.text "12.34") (.text "") nextUnreported).1 =
        .error (.ledger failure) ∧
      ∃ row, Applied (.deposit 1) (.text "12.34") (.text "") row nextUnreported.storage
        (post (trying 1 (by decide)) (.deposit 1) (.text "12.34") (.text "")
          nextUnreported).2.storage := by
  have failed : isNamed (post (trying 1 (by decide)) (.deposit 1) (.text "12.34") (.text "")
      nextUnreported).1 = true := by decide +kernel
  unfold isNamed at failed
  split at failed
  · next failure ended =>
    refine ⟨failure, ended, ?_⟩
    exact (post_failed_iff (trying 1 (by decide)) (.deposit 1) (.text "12.34") (.text "")
      nextUnreported rfl failure ended).2 (by decide +kernel)
  · cases failed

end Ledger

end Passbook
