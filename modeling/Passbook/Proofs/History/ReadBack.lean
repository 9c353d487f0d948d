import Passbook.Proofs.History.Growth
import Passbook.Proofs.Money.RoundTrip

/-!
What is read of a record that a caller has appended. It comes back from every later state of the tables, by its
id and by its reference, as it was appended but for two things: its amount is brought to cents, and a missing
description has become an empty one. So it equals what the caller was given exactly when that was a whole number
of cents with a description. Main statement: `Work.appendNew_readBack`.
-/

set_option autoImplicit false
set_option relaxedAutoImplicit false

namespace Passbook

open Procedure Session Work

/-- Two records agree in every field, the amounts as numbers. -/
structure Record.Equals (left right : Record) : Prop where
  movement : left.movement = right.movement
  amount : left.amount.compare right.amount = .ok (some .eq)
  description : left.description = right.description
  status : left.status = right.status
  id : left.id = right.id
  reference : left.reference = right.reference
  recordedAt : left.recordedAt = right.recordedAt

namespace Database

/-- A transaction that is added under a larger id than all others is found under it. -/
theorem transaction?_addTransaction {database : Database} {row : TransactionRow}
    (above : ∀ other ∈ database.transactions, other.id < row.id) :
    (database.addTransaction row).transaction? row.id = some row := by
  have new : database.transactions.find? (·.id == row.id) = none :=
    List.find?_eq_none.2 fun other there same ↦ (above other there).ne (eq_of_beq same)
  unfold addTransaction transaction?
  rw [List.find?_append, new]
  simp

end Database

/-! ### Reading -/

namespace Work

variable {storage : Storage} {row : TransactionRow} {record : Record}

/-- A transaction that is there and can be read is found under its id. -/
theorem transaction_run {id : Int} (reachable : storage.reachable = true) (fits : fitsWord id = true)
    (found : storage.database.transaction? id = some row) (isRead : row.read = .ok record) :
    ((transaction id).run storage).1 = .ok (some record) := by
  rw [run_eq]
  unfold transaction
  rw [run_bind_ok (connect_reachable reachable), run_bind_ok (requireWord_of_fits fits _),
    run_bind_ok (view_of_eq (show _ = storage.database from rfl)), found]
  simp only [run_bind, run_ofExcept, isRead, run_pure]

/-- A transaction that is there and can be read is found under its reference, unless a failure strikes. -/
theorem lookup_run {reference : Reference} (reachable : storage.reachable = true)
    (spared : (Planned.next .lookup storage.faults).1 = none)
    (found : storage.database.transactionReferenced? reference = some row)
    (isRead : row.read = .ok record) : ((lookup reference).run storage).1 = .ok (some record) := by
  have passed : pass .lookup (opened storage) =
      (.ok false, withFaults (opened storage) (Planned.next .lookup storage.faults).2) := by
    rw [pass_run]
    simp only [opened, spared, Planned.struck]
  rw [run_eq]
  unfold lookup
  rw [run_bind_ok passed, run_bind_ok (connect_reachable reachable),
    run_bind_ok (view_of_eq (show _ = storage.database from rfl)), found]
  simp only [run_bind, run_ofExcept, isRead, run_pure]

end Work

/-! ### What was appended -/

/-- An amount that a record was made of is a number. -/
theorem Record.number?_of_check {movement : Movement} {amount : Value}
    (checked : check movement amount = .ok ⟨⟩) :
    ∃ exact, amount.number? = some exact ∧ amount.toDecimal = .ok exact ∧ amount.isNumeric = true := by
  unfold check at checked
  obtain ⟨_, compared, -⟩ := ok_of_bind_except checked
  cases amount with
  | decimal number => exact ⟨number, rfl, rfl, rfl⟩
  | integer number => exact ⟨_, rfl, rfl, rfl⟩
  | truth holds => exact ⟨_, rfl, rfl, rfl⟩
  | binary number => exact ⟨_, rfl, rfl, rfl⟩
  | text | absent | list | tuple | mapping | bytes => cases compared

/-- What is read back equals what was given for the record exactly if nothing was rounded away and the
description was there. -/
theorem Work.Becomes.equals_iff {record : Record} {database : Database} {cents : Decimal}
    {row : TransactionRow} (becomes : Becomes record database cents row)
    (moves : Record.check record.movement record.amount = .ok ⟨⟩) :
    ∃ (number : ℚ) (units : ℤ), cents.cents? = some units ∧ 0 < units ∧ record.amount.Denotes number ∧
      IsRoundedEven (number * 100) units ∧
      (Record.Equals { storedAs record row with
          amount := .decimal cents, description := some (record.description.getD "") }
        (storedAs record row) ↔ number = units / 100 ∧ record.description.isSome = true) := by
  obtain ⟨units, whole, positive⟩ := becomes.positive
  obtain ⟨exact, isNumber, converted, numeric⟩ := Record.number?_of_check moves
  obtain ⟨_, _, isCents, -, -⟩ := Decimal.cents?_eq_some whole
  have finite : cents.isFinite = true := isCents ▸ rfl
  obtain ⟨units', whole', denotes, isRounded⟩ := Money.rounded_isRoundedEven becomes.brought finite
  obtain rfl : units = units' := Option.some.inj (whole.symm.trans whole')
  obtain ⟨read, isRead, quantized⟩ := Money.rounded_ok becomes.brought
  obtain rfl : exact = read := Except.ok.inj (converted.symm.trans isRead)
  have exactFinite := Decimal.isFinite_of_quantize quantized finite
  have isDenoted := (Value.denotes_of_toDecimal numeric converted exactFinite).1
  refine ⟨exact.toRat, units, whole, positive, isDenoted, isRounded _ isDenoted, ?_⟩
  have compared : (Value.decimal cents).compare record.amount = .ok (some (cmp ((units : ℚ) / 100) exact.toRat)) := by
    rw [← Decimal.toRat_of_cents whole]
    exact Value.compare_of_some rfl isNumber (Decimal.compare?_toRat finite exactFinite)
  constructor
  · intro equals
    have same := compared.symm.trans equals.amount
    refine ⟨((cmp_eq_eq_iff _ _).1 (Option.some.inj (Except.ok.inj same))).symm, ?_⟩
    have described : some (record.description.getD "") = record.description := equals.description
    rw [← described]
    rfl
  · rintro ⟨same, described⟩
    refine ⟨rfl, ?_, ?_, rfl, rfl, rfl, rfl⟩
    · rw [same, cmp_self_eq_eq] at compared
      exact compared
    · obtain ⟨description, isDescription⟩ := Option.isSome_iff_exists.1 described
      simp [storedAs, isDescription]

theorem Work.appendNew_ok {record stored : Record} {before after : Session}
    (appended : appendNew record before = (.ok stored, after)) :
    ∃ row cents, row.recordedAt = before.storage.clock ∧ Becomes record before.view cents row ∧
      Record.check record.movement record.amount = .ok ⟨⟩ ∧ after.view = before.view.addTransaction row ∧
      stored = storedAs record row := by
  unfold appendNew at appended
  obtain ⟨made, _, making, adding⟩ := ok_of_bind appended
  obtain ⟨accepted, rfl⟩ := ok_of_ofExcept making
  obtain ⟨rfl, moves⟩ := Record.make_ok accepted
  obtain ⟨_, _, -, left, row, cents, given, recordedAt, becomes, rfl⟩ :=
    (amends_append made before).of_ok adding id
  exact ⟨row, cents, recordedAt, becomes, moves, left.view, Except.ok.inj given⟩

/-- What a unit sees of the log stays in its sight as long as it drops nothing. -/
theorem StoreCall.forM_sees {calls : List StoreCall} (kept : .rollback ∉ calls) (session : Session) :
    session.view.Extends (calls.forM work session).2.view := by
  refine forM_induct (fun later ↦ session.view.Extends later.view) ?_ (.refl _)
  intro call member before after grown goes
  cases goes with
  | looked looks => exact grown.trans (.of_same looks.log.seen)
  | wrote wrote => exact grown.trans wrote.extends
  | committed _ seen => exact seen ▸ grown
  | rolledBack same => exact absurd (same ▸ member) kept

/-- A record that a caller has appended and committed, at whatever moment of a unit, comes back from every later
state of the tables, by its id and by its reference, as the same: it equals what the caller was given exactly if
that was a whole number of cents with a description. If not, it has the nearest cents and an empty description,
and is the same in every other field. Nothing else that is kept under a reference is touched. -/
theorem Work.appendNew_readBack {record stored : Record} {between : List StoreCall}
    {before after last left : Session} (appended : appendNew record before = (.ok stored, after))
    (kept : .rollback ∉ between) (goesOn : between.forM StoreCall.work after = (.ok ⟨⟩, last))
    (committed : commit last = (.ok ⟨⟩, left)) :
    ∃ (id : Int) (reference : Reference) (cents : Decimal) (number : ℚ) (units : ℤ),
      stored = { record with
        id := some id, reference := some reference, recordedAt := some before.storage.clock } ∧
      (∀ chosen ∈ record.reference, reference = chosen) ∧
      record.amount.Denotes number ∧ IsRoundedEven (number * 100) units ∧ 0 < units ∧
      cents.cents? = some units ∧
      let back := { stored with amount := .decimal cents, description := some (stored.description.getD "") }
      (back.Equals stored ↔ number = units / 100 ∧ stored.description.isSome = true) ∧
      (∀ later : Storage, left.storage.database.Develops later.database → later.reachable = true →
        (fitsWord id = true → ((transaction id).run later).1 = .ok (some back)) ∧
        ((Planned.next .lookup later.faults).1 = none →
          ((lookup reference).run later).1 = .ok (some back)) ∧
        ∀ other row, before.view.transactionReferenced? other = some row →
          later.database.transactionReferenced? other = some row) ∧
      ∀ other, other ≠ reference →
        after.view.transactionReferenced? other = before.view.transactionReferenced? other := by
  obtain ⟨row, cents, recordedAt, becomes, moves, view, rfl⟩ := appendNew_ok appended
  obtain ⟨number, units, whole, positive, denotes, isRounded, equals⟩ := becomes.equals_iff moves
  have grown : after.view.Extends left.storage.database := by
    rw [commit_ok committed]
    have kept := StoreCall.forM_sees kept after
    rw [goesOn] at kept
    exact kept
  have isRead := becomes.read moves
  refine ⟨row.id, row.reference, cents, number, units, by rw [storedAs, recordedAt], becomes.reference,
    denotes, isRounded, positive, whole, equals, fun later develops reachable ↦ ?_, fun other apart ↦ ?_⟩
  · have lasting := grown.trans develops.extends
    have found : after.view.transaction? row.id = some row := by
      rw [view]
      exact Database.transaction?_addTransaction becomes.above
    have referenced : after.view.transactionReferenced? row.reference = some row := by
      rw [view, Database.transactionReferenced?_addTransaction, becomes.unused, if_pos rfl]
      rfl
    refine ⟨fun fits ↦ ?_, fun spared ↦ ?_, fun other old there ↦ lasting.find? ?_⟩
    · exact transaction_run reachable fits (lasting.find? found) isRead
    · exact lookup_run reachable spared (lasting.find? referenced) isRead
    · have kept : after.view.transactionReferenced? other = some old := by
        rw [view, Database.transactionReferenced?_addTransaction, there]
        rfl
      exact kept
  · rw [view, Database.transactionReferenced?_addTransaction, if_neg (Ne.symm apart), Option.or_none]

/-- A deposit of six tenths of a cent is appended as such, and read back as one of a cent. -/
theorem Work.appendNew_readBack_roundedUp :
    let record : Record :=
      { movement := .deposit 1, amount := .decimal (.finite false 6 (-3)), description := some "fine",
        reference := some (.chosen 7) }
    let stored : Record := { record with id := some 1, recordedAt := some Instant.start }
    let back : Record := { stored with amount := .decimal (.finite false 1 (-2)) }
    let (appended, later) := (do let stored ← appendNew record; commit; return stored : Work Record).run {}
    appended = .ok stored ∧ ((transaction 1).run later).1 = .ok (some back) ∧ ¬back.Equals stored := by
  intro record stored back
  let after := (appendNew record (opened {})).2
  have appended : appendNew record (opened {}) = (.ok stored, after) := rfl
  have committed : commit after = (.ok ⟨⟩, (commit after).2) := rfl
  obtain ⟨id, reference, cents, number, units, given, -, denotes, isRounded, -, whole, equals, lasts, -⟩ :=
    appendNew_readBack appended List.not_mem_nil rfl committed
  obtain rfl : 1 = id := Option.some.inj (congrArg Record.id given)
  have isNumber : number = 6 / 1000 := by
    cases denotes with
    | decimal => norm_num [Decimal.signed]
  have one : IsRoundedEven (number * 100) 1 := ⟨by norm_num [isNumber], by norm_num [isNumber]⟩
  obtain rfl : units = 1 := isRounded.unique one
  obtain ⟨negative, coefficient, rfl, -, same⟩ := Decimal.cents?_eq_some whole
  obtain ⟨rfl, rfl⟩ : negative = false ∧ coefficient = 1 := by
    cases negative with
    | false => exact ⟨rfl, Int.ofNat.inj same⟩
    | true =>
      change -(coefficient : Int) = 1 at same
      omega
  refine ⟨rfl, (lasts (commit after).2.storage .none rfl).1 (by decide), fun equal ↦ ?_⟩
  have exact := (equals.1 equal).1
  norm_num [isNumber] at exact

end Passbook
