import Passbook.Proofs.Money.Cents
import Passbook.Proofs.Storage.Frame
import Passbook.Proofs.Storage.Tables

/-!
What a write that succeeds has written, in the unit's own view of the tables: a balance or a status stands in
the row of the version that was read (`writeBalance_true`, `writeStatus_true`), a record has become the last of
the transactions (`append_ok`), a new account the last of the accounts (`addAccount_ok`).
-/

set_option autoImplicit false
set_option relaxedAutoImplicit false

namespace Passbook.Work

open Procedure Session

theorem requireWord_ok {number : Int} {session after : Session} {result : Unit}
    (ran : requireWord number session = (.ok result, after)) :
    fitsWord number = true ∧ after = session := by
  unfold requireWord at ran
  split at ran
  · next fits => exact ⟨fits, (congrArg Prod.snd ran).symm⟩
  · cases ran

theorem view_ok {session after : Session} {database : Database}
    (ran : view session = (.ok database, after)) : database = session.view ∧ after = session := by
  obtain ⟨same, rfl⟩ := Prod.mk.inj ran
  exact ⟨(Except.ok.inj same).symm, rfl⟩

/-- What a column of amounts holds for a value is the text of its cents; for a missing one it is nothing. -/
theorem boundAmount_ok {given : Value} {session after : Session} {bound : Option String}
    (ran : boundAmount given session = (.ok bound, after)) :
    given = .absent ∧ bound = none ∨
      given ≠ .absent ∧ ∃ cents, Money.rounded given = .ok cents ∧ bound = some cents.text := by
  unfold boundAmount at ran
  by_cases there : given = .absent
  · subst there
    obtain ⟨same, -⟩ := Prod.mk.inj ran
    exact Or.inl ⟨rfl, (Except.ok.inj same).symm⟩
  · rw [Money.bind_eq_map_rounded .text there] at ran
    cases brought : Money.rounded given with
    | error failure =>
      rw [brought] at ran
      cases (Prod.mk.inj ran).1
    | ok cents =>
      rw [brought] at ran
      obtain ⟨same, -⟩ := Prod.mk.inj ran
      exact Or.inr ⟨there, cents, rfl, (Except.ok.inj same).symm⟩

/-! ### Parts that write once -/

/-- How a part of a unit ends, begun at a moment of it, that writes the tables at most once: it has been spared the
writing, and no result tells otherwise, or it has written certain tables. What it does before and after that
leaves a relation to an earlier moment. -/
inductive Amends {Result : Type} (relation : Session → Session → Prop) (before : Session)
    (spared : Result → Prop) (wrote : Except Failure Result → Database → Prop) (work : Work Result)
    (session : Session) : Prop
  | spared (outcome : Except Failure Result) (after : Session) : work session = (outcome, after) →
      relation before after → (∀ result, outcome = .ok result → spared result) →
      Amends relation before spared wrote work session
  | wrote (outcome : Except Failure Result) (middle after : Session) (database : Database) :
      work session = (outcome, after) → relation before middle →
      relation { middle with pending := some database } after → wrote outcome database →
      Amends relation before spared wrote work session

section Amends

variable {Result First : Type} {relation : Session → Session → Prop} {before session after : Session}
  {spared : Result → Prop} {wrote : Except Failure Result → Database → Prop}

/-- The tables are written, and what comes after that leaves the relation. -/
theorem amends_write {database : Database} {next : Unit → Work Result} (same : relation before session)
    (leaves : (next ⟨⟩).Leaves relation)
    (written : ∀ outcome last,
      next ⟨⟩ { session with pending := some database } = (outcome, last) → wrote outcome database) :
    Amends relation before spared wrote (Work.write database >>= next) session :=
  .wrote _ session _ database (Prod.eta _).symm same (leaves _) (written _ _ rfl)

theorem amends_pure (same : relation before session) {result : Result} (isSpared : spared result) :
    Amends relation before spared wrote (pure result) session :=
  .spared _ _ rfl same fun _ given ↦ Except.ok.inj given ▸ isSpared

theorem amends_throw (same : relation before session) (failure : Failure) :
    Amends relation before spared wrote (throw failure) session :=
  .spared _ _ rfl same fun _ given ↦ by cases given

/-- A part whose result tells that it wrote has done so. -/
theorem Amends.of_ok {work : Work Result} (amends : Amends relation before spared wrote work session)
    {result : Result} (ran : work session = (.ok result, after)) (told : ¬spared result) :
    ∃ middle database, relation before middle ∧ relation { middle with pending := some database } after ∧
      wrote (.ok result) database := by
  cases amends with
  | spared outcome last ended _ tells =>
    obtain ⟨rfl, rfl⟩ := Prod.mk.inj (ended.symm.trans ran)
    exact absurd (tells result rfl) told
  | wrote outcome middle last database ended same left written =>
    obtain ⟨rfl, rfl⟩ := Prod.mk.inj (ended.symm.trans ran)
    exact ⟨middle, database, same, left, written⟩

theorem Amends.mono {work : Work Result} {wrote' : Except Failure Result → Database → Prop}
    (amends : Amends relation before spared wrote work session)
    (weaken : ∀ outcome database, wrote outcome database → wrote' outcome database) :
    Amends relation before spared wrote' work session := by
  cases amends with
  | spared outcome after ended same tells => exact .spared outcome after ended same tells
  | wrote outcome middle after database ended same left written =>
    exact .wrote outcome middle after database ended same left (weaken outcome database written)

/-- The result of a part that writes whenever it has one may be given in another form. -/
theorem Amends.map {work : Work First} {wrote : Except Failure First → Database → Prop}
    (amends : Amends relation before (fun _ ↦ False) wrote work session) (form : First → Result) :
    Amends relation before (fun _ ↦ False)
      (fun outcome after ↦ ∃ first, wrote first after ∧ outcome = first.map form)
      (do return form (← work)) session := by
  have ends (outcome : Except Failure First) (after : Session) (ended : work session = (outcome, after)) :
      (do return form (← work) : Work Result) session = (outcome.map form, after) := by
    rw [run_bind, ended]
    cases outcome <;> rfl
  cases amends with
  | spared outcome after ended same tells =>
    refine .spared _ after (ends outcome after ended) same fun result given ↦ ?_
    cases outcome with
    | error failure => cases given
    | ok first => exact tells first rfl
  | wrote outcome middle after database ended same left written =>
    exact .wrote _ middle after database (ends outcome after ended) same left ⟨outcome, written, rfl⟩

variable [IsPreorder Session relation]

/-- Before the writing a part is gone through that leaves the relation. -/
theorem amends_bind {first : Work First} {next : First → Work Result} (same : relation before session)
    (leaves : first.Leaves relation)
    (goesOn : ∀ value middle, first session = (.ok value, middle) → relation before middle →
      Amends relation before spared wrote (next value) middle) :
    Amends relation before spared wrote (first >>= next) session := by
  have left := trans_of relation same (leaves session)
  cases ran : first session with
  | mk outcome middle =>
    rw [ran] at left
    cases outcome with
    | error failure =>
      exact .spared (.error failure) middle (by rw [run_bind, ran]) left fun _ given ↦ by cases given
    | ok value =>
      cases goesOn value middle ran left with
      | spared outcome after ended same tells =>
        exact .spared outcome after ((run_bind_ok ran next).trans ended) same tells
      | wrote outcome last after database ended same left written =>
        exact .wrote outcome last after database ((run_bind_ok ran next).trans ended) same left written

/-- A part that fails before the writing is spared it. -/
theorem amends_refused {next : First → Work Result} (same : relation before session) (failure : Failure) :
    Amends relation before spared wrote (throw failure >>= next) session :=
  amends_bind same (leaves_throw failure) fun _ _ thrown ↦ by cases (Prod.mk.inj thrown).1

end Amends

/-- The balance of a row that has the version asked for becomes what a value is rounded to. -/
structure WritesBalance (id version : Int) (balance : Value) (before after : Database) (row : AccountRow)
    (cents : Decimal) : Prop where
  fits : fitsWord id = true
  found : before.accountAt? id version = some row
  there : balance ≠ .absent
  brought : Money.rounded balance = .ok cents
  holds : Money.balanceHolds cents.text = true
  written : after = before.replace { row with balance := cents.text, version := row.version + 1 }

/-- A conditional write tells that it has not written: it was refused at its point, or the account is not there at
the version that was read. -/
structure Misses (point : Point) (id version : Int) (session : Session) (told : Bool) : Prop where
  told : told = false
  cause : (Planned.next point session.storage.faults).1 = some .refusal ∨
    session.view.accountAt? id version = none

/-- Who is refused at a point was to be refused there. -/
theorem refusal_of_pass {point : Point} {session after : Session} (passed : pass point session = (.ok true, after)) :
    (Planned.next point session.storage.faults).1 = some .refusal := by
  rw [pass_run] at passed
  have struck := (Prod.mk.inj passed).1
  cases happens : (Planned.next point session.storage.faults).1 with
  | none =>
    rw [happens] at struck
    cases struck
  | some fault =>
    rw [happens] at struck
    cases fault with
    | refusal => rfl
    | _ => cases struck

theorem amends_writeBalance (id version : Int) (balance : Value) (session : Session) :
    Amends Stays session (Misses .balanceWrite id version session)
      (fun outcome after ↦ outcome = .ok true ∧
        ∃ row cents, WritesBalance id version balance session.view after row cents)
      (writeBalance id version balance) session := by
  unfold writeBalance
  refine amends_bind (refl_of Stays session) (stays_pass .balanceWrite) fun refused _ passed same ↦ ?_
  cases refused with
  | true => exact amends_pure same ⟨rfl, Or.inl (refusal_of_pass passed)⟩
  | false =>
    rw [if_neg (by decide)]
    refine amends_bind same stays_connect fun _ _ _ same ↦ ?_
    refine amends_bind same (same_boundAmount balance) fun bound _ bounded same ↦ ?_
    refine amends_bind same (same_requireWord id) fun _ _ word same ↦ ?_
    refine amends_bind same (same_requireWord version) fun _ _ _ same ↦ ?_
    refine amends_bind same stays_beginWrite fun _ _ _ same ↦ ?_
    refine amends_bind same same_view fun database _ seen same ↦ ?_
    obtain ⟨rfl, rfl⟩ := view_ok seen
    rw [same.view]
    cases found : session.view.accountAt? id version with
    | none => exact amends_pure same ⟨rfl, Or.inr found⟩
    | some row =>
      rcases boundAmount_ok bounded with ⟨-, rfl⟩ | ⟨there, cents, brought, rfl⟩
      · exact amends_throw same _
      · dsimp only
        by_cases holds : Money.balanceHolds cents.text = true
        · rw [if_neg (by simp [holds])]
          refine amends_write same (leaves_pure _) fun outcome last ended ↦ ?_
          obtain ⟨rfl, -⟩ := Prod.mk.inj ended
          exact ⟨rfl, row, cents, (requireWord_ok word).1, found, there, brought, holds, rfl⟩
        · rw [if_pos (by simp [holds])]
          exact amends_refused same _

/-- A balance that was written stands in the row of the version that was read. -/
theorem writeBalance_true {id version : Int} {balance : Decimal} {session after : Session}
    (wrote : writeBalance id version (.decimal balance) session = (.ok true, after)) :
    fitsWord id = true ∧ after.storage.clock = session.storage.clock ∧
      ∃ row cents, session.view.accountAt? id version = some row ∧
        balance.quantize .toEven Money.centExponent = some cents ∧
        after.view = session.view.replace (Database.withBalance row cents.text) := by
  obtain ⟨middle, database, same, left, -, row, cents, writes⟩ :=
    (amends_writeBalance id version (.decimal balance) session).of_ok wrote fun misses ↦ nomatch misses.told
  obtain ⟨number, isNumber, quantized⟩ := Money.rounded_ok writes.brought
  obtain rfl : balance = number := Except.ok.inj isNumber
  exact ⟨writes.fits, left.clock.trans same.clock, row, cents, writes.found, quantized,
    left.view.trans writes.written⟩

theorem amends_writeStatus (id version : Int) (status : AccountStatus) (session : Session) :
    Amends Stays session (Misses .statusWrite id version session)
      (fun outcome after ↦ outcome = .ok true ∧ fitsWord id = true ∧
        ∃ row, session.view.accountAt? id version = some row ∧
          after = session.view.replace (Database.withStatus row status))
      (writeStatus id version status) session := by
  unfold writeStatus
  refine amends_bind (refl_of Stays session) (stays_pass .statusWrite) fun refused _ passed same ↦ ?_
  cases refused with
  | true => exact amends_pure same ⟨rfl, Or.inl (refusal_of_pass passed)⟩
  | false =>
    rw [if_neg (by decide)]
    refine amends_bind same stays_connect fun _ _ _ same ↦ ?_
    refine amends_bind same (same_requireWord id) fun _ _ word same ↦ ?_
    refine amends_bind same (same_requireWord version) fun _ _ _ same ↦ ?_
    refine amends_bind same stays_beginWrite fun _ _ _ same ↦ ?_
    refine amends_bind same same_view fun database _ seen same ↦ ?_
    obtain ⟨rfl, rfl⟩ := view_ok seen
    rw [same.view]
    cases found : session.view.accountAt? id version with
    | none => exact amends_pure same ⟨rfl, Or.inr found⟩
    | some row =>
      refine amends_write same (leaves_pure _) fun outcome last ended ↦ ?_
      obtain ⟨rfl, -⟩ := Prod.mk.inj ended
      exact ⟨rfl, (requireWord_ok word).1, row, rfl, rfl⟩

/-- A status that was written stands in the row of the version that was read. -/
theorem writeStatus_true {id version : Int} {status : AccountStatus} {session after : Session}
    (wrote : writeStatus id version status session = (.ok true, after)) :
    fitsWord id = true ∧ after.storage.clock = session.storage.clock ∧
      ∃ row, session.view.accountAt? id version = some row ∧
        after.view = session.view.replace (Database.withStatus row status) := by
  obtain ⟨middle, database, same, left, -, fits, row, found, written⟩ :=
    (amends_writeStatus id version status session).of_ok wrote fun misses ↦ nomatch misses.told
  exact ⟨fits, left.clock.trans same.clock, row, found, left.view.trans written⟩

theorem movementOf?_movement (movement : Movement) :
    movementOf? movement.kind movement.source movement.destination? = some movement := by
  cases movement <;> rfl

/-- The row that a record with a reference and an exact amount becomes. -/
def rowOf (record : Record) (reference : Reference) (cents : Decimal) (id : Int)
    (recordedAt : Instant) : TransactionRow where
  id := id
  reference := reference
  movement := record.movement
  status := record.status
  amount := cents.text
  description := record.description.getD ""
  recordedAt := recordedAt

/-- A record of cents above zero may be made if a transfer in it goes to another account. -/
theorem check_of_positive {movement : Movement} {amount : Decimal} {cents : Int}
    (whole : amount.cents? = some cents) (positive : 0 < cents)
    (apart : ∀ account, movement ≠ .transfer account account) :
    Record.check movement (.decimal amount) = .ok ⟨⟩ := by
  have compared := Decimal.compare?_zero whole
  rw [Int.compare_eq_gt.2 positive] at compared
  have above : (Value.decimal amount).isAtMost (.integer 0) = .ok false := by
    rw [Value.isAtMost, Value.compare_of_some rfl rfl compared]
    rfl
  unfold Record.check
  rw [above]
  cases movement with
  | transfer source destination =>
    have other : source ≠ destination := fun same ↦ apart source (same ▸ rfl)
    dsimp only
    rw [if_neg other]
    rfl
  | _ => rfl

/-- A record that may be made does not transfer from an account to itself. -/
theorem apart_of_check {movement : Movement} {amount : Value}
    (checked : Record.check movement amount = .ok ⟨⟩) (account : Int) :
    movement ≠ .transfer account account := by
  rintro rfl
  unfold Record.check at checked
  obtain ⟨nothing, -, checked⟩ := ok_of_bind_except checked
  dsimp only at checked
  cases nothing with
  | true => cases checked
  | false =>
    rw [if_neg (by decide), if_pos rfl] at checked
    cases checked

/-- The row of a record of cents is read as that record, with what the store adds. -/
theorem read_rowOf {record : Record} {amount : Decimal} {cents : Int}
    (whole : amount.cents? = some cents)
    (checked : Record.check record.movement (.decimal amount) = .ok ⟨⟩) (reference : Reference) (id : Int)
    (instant : Instant) :
    (rowOf record reference amount id instant).read = .ok { record with
      amount := .decimal amount
      description := some (record.description.getD "")
      id := some id
      reference := some reference
      recordedAt := some instant } := by
  unfold TransactionRow.read
  dsimp only [rowOf]
  rw [Money.readText_of_cents whole]
  change Record.check record.movement (.decimal amount) >>= _ = _
  rw [checked]
  rfl

theorem now_ok {session after : Session} {instant : Instant}
    (ran : now session = (.ok instant, after)) :
    instant = session.storage.clock ∧ after.view = session.view := by
  obtain ⟨same, rfl⟩ := Prod.mk.inj ran
  exact ⟨(Except.ok.inj same).symm, rfl⟩

theorem lingers_of_stays {Result : Type} {part : Work Result} (stays : part.Leaves Stays) :
    part.Leaves Lingers :=
  stays.mono fun _ _ ↦ Stays.lingers

/-- The row that a record becomes: it has the cents of the amount, which are above zero, stands under the next
id, and under the reference that was chosen for it or else under one that was drawn. -/
structure Becomes (record : Record) (database : Database) (cents : Decimal) (row : TransactionRow) :
    Prop where
  brought : Money.rounded record.amount = .ok cents
  holds : Money.amountHolds cents.text = true
  reference : ∀ chosen ∈ record.reference, row.reference = chosen
  unused : database.transactionReferenced? row.reference = none
  row : row = rowOf record row.reference cents (Database.nextId (database.transactions.map (·.id)))
    row.recordedAt

theorem amends_insertTransaction (record : Record) {before session : Session}
    (same : before.Lingers session) (clock : session.storage.clock = before.storage.clock) :
    Amends Lingers before (fun _ ↦ False)
      (fun outcome after ↦ ∃ row cents, outcome = .ok row ∧ row.recordedAt = before.storage.clock ∧
        Becomes record before.view cents row ∧ after = before.view.addTransaction row)
      (insertTransaction (.ofRecord record)) session := by
  unfold insertTransaction
  refine amends_bind same (lingers_of_stays stays_connect) fun _ begun connected same ↦ ?_
  have clock : begun.storage.clock = before.storage.clock := (stays_connect.of_eq connected).clock.trans clock
  extract_lets withReference
  -- The reference is the one that was chosen, or one that is drawn.
  suffices goesOn : ∀ reference middle, (∀ chosen ∈ record.reference, reference = chosen) →
      middle.storage.clock = before.storage.clock → before.Lingers middle →
      Amends Lingers before (fun _ ↦ False) _ (withReference reference) middle by
    cases named : record.reference with
    | some chosen =>
      simp only [NewTransaction.ofRecord, named, pure_bind]
      exact goesOn chosen begun (by simp [named]) clock same
    | none =>
      simp only [NewTransaction.ofRecord, named]
      refine amends_bind same (fun _ ↦ ⟨rfl, rfl, rfl⟩) fun reference _ drew same ↦ ?_
      obtain ⟨-, rfl⟩ := Prod.mk.inj drew
      exact goesOn reference _ (by simp [named]) clock same
  intro reference middle isChosen clock same
  unfold withReference
  extract_lets withInstant
  refine amends_bind same (fun _ ↦ ⟨rfl, rfl, rfl⟩) fun recordedAt _ clocked same ↦ ?_
  obtain ⟨rfl, -⟩ := now_ok clocked
  unfold withInstant
  refine amends_bind same (same_boundAmount _) fun bound _ bounded same ↦ ?_
  refine amends_bind same (same_requireWord _) fun _ _ _ same ↦ ?_
  refine amends_bind same (same_requireWord _) fun _ _ _ same ↦ ?_
  refine amends_bind same (same_requireWord _) fun _ _ _ same ↦ ?_
  refine amends_bind same (lingers_of_stays stays_beginWrite) fun _ _ _ same ↦ ?_
  refine amends_bind same same_view fun database _ seen same ↦ ?_
  obtain ⟨rfl, rfl⟩ := view_ok seen
  rw [same.view]
  rcases boundAmount_ok bounded with ⟨-, rfl⟩ | ⟨-, cents, brought, rfl⟩
  · exact amends_throw same _
  dsimp only [NewTransaction.ofRecord, Option.getD_none]
  rw [movementOf?_movement]
  dsimp only
  by_cases holds : Money.amountHolds cents.text = true
  · rw [if_neg (by simp [holds])]
    split
    · exact amends_refused same _
    · split
      · exact amends_refused same _
      · next unused =>
        refine amends_write same (leaves_pure _) fun outcome last ended ↦ ?_
        obtain ⟨rfl, -⟩ := Prod.mk.inj ended
        exact ⟨_, cents, rfl, clock, ⟨brought, holds, isChosen, by simpa using unused, rfl⟩, rfl⟩
  · rw [if_pos (by simp [holds])]
    exact amends_refused same _

/-- What a caller gets for a record that became a row. -/
def storedAs (record : Record) (row : TransactionRow) : Record :=
  { record with id := some row.id, reference := some row.reference, recordedAt := some row.recordedAt }

theorem amends_append (record : Record) (session : Session) :
    Amends Lingers session (fun _ ↦ False)
      (fun outcome after ↦ ∃ row cents, outcome = .ok (storedAs record row) ∧
        row.recordedAt = session.storage.clock ∧ Becomes record session.view cents row ∧
        after = session.view.addTransaction row)
      (append record) session := by
  unfold append
  refine amends_bind (refl_of Lingers session) (lingers_of_stays (stays_pass .append)) fun _ begun passed same ↦ ?_
  have clock := ((stays_pass .append).of_eq passed).clock
  refine ((amends_insertTransaction record same clock).map (storedAs record)).mono ?_
  rintro outcome after ⟨_, ⟨row, cents, rfl, recordedAt, becomes, rfl⟩, rfl⟩
  exact ⟨row, cents, rfl, recordedAt, becomes, rfl⟩

/-- A record that was appended is the last row of the transactions, under the next id and under a reference
that none of them had. -/
theorem append_ok {record stored : Record} {reference : Reference} {amount : Decimal}
    {session after : Session} (named : record.reference = some reference)
    (exact : record.amount = .decimal amount)
    (appended : append record session = (.ok stored, after)) :
    session.view.transactionReferenced? reference = none ∧
      ∃ cents id, amount.quantize .toEven Money.centExponent = some cents ∧
        after.view =
          session.view.addTransaction (rowOf record reference cents id session.storage.clock) ∧
        stored = { record with
          id := some id, reference := some reference, recordedAt := some session.storage.clock } ∧
        id = Database.nextId (session.view.transactions.map (·.id)) := by
  obtain ⟨_, _, -, left, row, cents, given, recordedAt, becomes, rfl⟩ :=
    (amends_append record session).of_ok appended id
  obtain rfl := Except.ok.inj given
  have view := left.view
  obtain ⟨number, isNumber, quantized⟩ := Money.rounded_ok becomes.brought
  rw [exact] at isNumber
  obtain rfl : amount = number := Except.ok.inj isNumber
  have isNamed := becomes.reference reference named
  have isRow := becomes.row
  rw [isNamed, recordedAt] at isRow
  refine ⟨isNamed ▸ becomes.unused, cents, row.id, quantized, ?_, ?_, ?_⟩
  · rw [view, isRow]
    rfl
  · rw [storedAs, isNamed, recordedAt]
  · rw [isRow]
    rfl

/-- The balance that a new account is to begin with: as it was offered, or none. -/
def NewAccount.opening (new : NewAccount) : Value :=
  new.balance.orElse (.decimal (.finite false 0 Money.centExponent))

/-- The row of a new account: it has a new id and the number that belongs to that, and the balance that was
offered. -/
structure Opens (new : NewAccount) (database : Database) (cents : Decimal) (row : AccountRow) : Prop where
  id : row.id = new.id.getD (Database.nextId (database.accounts.map (·.id)))
  number : row.number = Account.numberOf row.id
  unused : database.account? row.id = none
  brought : Money.rounded new.opening = .ok cents
  holds : Money.balanceHolds cents.text = true
  balance : row.balance = cents.text
  version : row.version = 1
  kind : row.kind = new.kind
  status : row.status = new.status
  owner : new.owner = some row.owner
  fits : fitsWord row.owner = true

theorem amends_addAccount (new : NewAccount) (session : Session) :
    Amends Stays session (fun _ ↦ False)
      (fun outcome after ↦ ∃ row cents, Opens new session.view cents row ∧
        after = session.view.addAccount row ∧ ∀ account, outcome = .ok account →
          account.id = row.id ∧ account.number = row.number ∧ account.owner = row.owner)
      (addAccount new) session := by
  unfold addAccount
  refine amends_bind (refl_of Stays session) stays_connect fun _ _ _ same ↦ ?_
  refine amends_bind same (same_boundAmount new.opening) fun bound _ bounded same ↦ ?_
  refine amends_bind same (same_requireWord _) fun _ _ _ same ↦ ?_
  refine amends_bind same (same_requireWord _) fun _ _ word same ↦ ?_
  refine amends_bind same stays_beginWrite fun _ _ _ same ↦ ?_
  refine amends_bind same same_view fun database _ seen same ↦ ?_
  obtain ⟨rfl, rfl⟩ := view_ok seen
  have fits := (requireWord_ok word).1
  rw [same.view]
  cases owner : new.owner with
  | none => exact amends_throw same _
  | some owner =>
    rcases boundAmount_ok bounded with ⟨-, rfl⟩ | ⟨-, cents, brought, rfl⟩
    · exact amends_throw same _
    dsimp only
    by_cases holds : Money.balanceHolds cents.text = true
    · rw [if_neg (by simp [holds])]
      split
      · exact amends_refused same _
      · next unused =>
        split
        · exact amends_refused same _
        · refine amends_write same ?_ fun outcome last ended ↦ ?_
          · refine leaves_bind (leaves_ofExcept _) fun account ↦ ?_
            exact leaves_bind (fun _ ↦ ⟨⟨rfl, rfl, rfl⟩, rfl⟩) fun _ ↦ leaves_pure _
          · rw [owner] at fits
            refine ⟨_, cents,
              ⟨rfl, rfl, by simpa using unused, brought, holds, rfl, rfl, rfl, rfl, owner, fits⟩, rfl, ?_⟩
            rintro account rfl
            obtain ⟨read, _, reading, ended⟩ := ok_of_bind ended
            obtain ⟨_, _, -, ended⟩ := ok_of_bind ended
            obtain ⟨_, _, rfl⟩ := AccountRow.read_ok (ok_of_ofExcept reading).1
            obtain rfl := Except.ok.inj (Prod.mk.inj ended).1
            exact ⟨rfl, rfl, rfl⟩
    · rw [if_pos (by simp [holds])]
      exact amends_refused same _

/-- An account that was added is the last of the accounts, under an id that none of them had; it is
empty unless it was to begin with a balance. -/
theorem addAccount_ok {new : NewAccount} {account : Account} {session after : Session}
    (empty : new.balance = .absent) (added : addAccount new session = (.ok account, after)) :
    after.storage.clock = session.storage.clock ∧
      ∃ row, session.view.account? row.id = none ∧ after.view = session.view.addAccount row ∧
        row.balance = (Decimal.finite false 0 Money.centExponent).text ∧ row.version = 1 ∧
        row.kind = new.kind ∧ row.status = new.status ∧ new.owner = some row.owner ∧
        account.id = row.id ∧ account.number = row.number ∧ account.owner = row.owner := by
  obtain ⟨middle, after, same, left, row, cents, opens, rfl, shown⟩ :=
    (amends_addAccount new session).of_ok added id
  obtain ⟨number, isNumber, quantized⟩ := Money.rounded_ok opens.brought
  rw [NewAccount.opening, empty] at isNumber
  obtain rfl := Except.ok.inj isNumber
  rw [Decimal.quantize_cents .toEven false (by decide)] at quantized
  obtain rfl := Option.some.inj quantized
  exact ⟨left.clock.trans same.clock, row, opens.unused, left.view, opens.balance, opens.version,
    opens.kind, opens.status, opens.owner, shown account rfl⟩

theorem recordEvent_run (account : Int) (event : AuditEvent) (session : Session) :
    recordEvent account event session =
      (.ok ⟨⟩, { session with pending := some (session.view.addAudit account event) }) :=
  rfl

end Passbook.Work
