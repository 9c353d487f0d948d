import Passbook.Proofs.Ledger.Isolation
import Passbook.Proofs.Ledger.Rebalancing

/-!
How a calm unit applies a posting. Its outcome depends on the accounts alone: it ends at the first of them
that is missing or not active (`applyPosting_missing`, `applyPosting_inactive`), else at a debit that is not
covered (`applyPosting_insufficient`), else at a new balance that no column can hold
(`applyPosting_unstorable`), and otherwise it applies the posting (`applyPosting_calm`).
-/

set_option autoImplicit false
set_option relaxedAutoImplicit false

namespace Passbook

open Procedure Session

namespace Work

variable {calm : Session} {account : Account} {posting : Posting} {cents : Int}

/-! ### Reading the accounts -/

/-- A calm unit does not load an account that is missing. -/
theorem loadActive_missing {id : Int} (isCalm : calm.Calm) (fits : fitsWord id = true)
    (missing : calm.view.account? id = none) :
    ∃ after, loadActive id calm = (.error (.ledger (.accountNotFound (.integer id))), after) := by
  obtain ⟨after, loaded⟩ := load_missing isCalm fits missing
  refine ⟨after, ?_⟩
  unfold loadActive
  rw [run_bind_ok loaded]
  rfl

/-- A calm unit loads an account that is not active in vain. -/
theorem loadActive_inactive {id : Int} {row : AccountRow} (isCalm : calm.Calm)
    (fits : fitsWord id = true) (found : calm.view.account? id = some row)
    (isRead : row.read = .ok account) (inactive : row.status ≠ .active) :
    ∃ after, loadActive id calm =
      (.error (.ledger (.accountNotActive (.integer id) row.status)), after) := by
  obtain ⟨after, loaded, -⟩ := load_calm isCalm fits found isRead
  have status : account.status = row.status := by
    obtain ⟨_, _, rfl⟩ := AccountRow.read_ok isRead
    rfl
  have notEligible : account.status.isEligible = false :=
    beq_false_of_ne (status.symm ▸ inactive)
  refine ⟨after, ?_⟩
  unfold loadActive
  rw [run_bind_ok loaded]
  dsimp only
  rw [notEligible, status]
  rfl

/-- The accounts of a posting are read up to the first that is refused. -/
theorem readLegs_refused {earlier later : List (Int × Direction)} {leg : Int × Direction}
    {failure : Failure} (isCalm : calm.Calm) (wellKept : calm.view.WellKept)
    (legs : posting.movement.legs = earlier ++ leg :: later)
    (fits : ∀ other ∈ earlier, fitsWord other.1 = true)
    (active : ∀ other ∈ earlier, calm.view.Active other.1)
    (refused : ∀ session, calm.Mirrors session →
      ∃ after, loadActive leg.1 session = (.error failure, after)) :
    ∃ after, readLegs posting calm = (.error failure, after) := by
  unfold readLegs
  rw [legs]
  refine mapM_refused calm.Mirrors (fun other member session mirrors ↦ ?_)
    (fun session mirrors ↦ ?_) isCalm.mirrors
  · obtain ⟨row, found, isActive⟩ := active other member
    obtain ⟨account, -, status, isRead, -⟩ := wellKept.current (fits other member) found
    obtain ⟨after, loaded, mirrors'⟩ := loadActive_calm mirrors.quiet (fits other member)
      (mirrors.view.symm ▸ found) isRead (status.trans isActive)
    exact ⟨(account, other.2), after, run_bind_ok loaded _, mirrors.trans mirrors'⟩
  · obtain ⟨after, ended⟩ := refused session mirrors
    refine ⟨after, ?_⟩
    change (loadActive leg.1 >>= fun account ↦ pure (account, leg.2)) session = _
    rw [run_bind, ended]

/-- Accounts that are all there and active can be read. -/
theorem exists_read {database : Database} (wellKept : database.WellKept)
    {legs : List (Int × Direction)} (fits : ∀ leg ∈ legs, fitsWord leg.1 = true)
    (active : ∀ leg ∈ legs, database.Active leg.1) :
    ∃ read : List (Account × Direction), read.map (fun leg ↦ (leg.1.id, leg.2)) = legs ∧
      ∀ leg ∈ read, leg.1.status = .active ∧ database.Current leg.1 := by
  induction legs with
  | nil => exact ⟨[], rfl, fun _ member ↦ by cases member⟩
  | cons leg rest ih =>
    obtain ⟨row, found, isActive⟩ := active leg List.mem_cons_self
    obtain ⟨account, id, status, -, current⟩ :=
      wellKept.current (fits leg List.mem_cons_self) found
    obtain ⟨read, same, each⟩ := ih (fun other member ↦ fits other (List.mem_cons_of_mem _ member))
      fun other member ↦ active other (List.mem_cons_of_mem _ member)
    refine ⟨(account, leg.2) :: read, ?_, fun other member ↦ ?_⟩
    · rw [List.map_cons, same, id]
    · rcases List.mem_cons.1 member with rfl | later
      · exact ⟨status.trans isActive, current⟩
      · exact each other later

/-- A calm unit reads accounts as the tables have them. -/
theorem readLegs_current {read : List (Account × Direction)} (isCalm : calm.Calm)
    (legs : read.map (fun leg ↦ (leg.1.id, leg.2)) = posting.movement.legs)
    (each : ∀ leg ∈ read, leg.1.status = .active ∧ calm.view.Current leg.1) :
    ∃ after, readLegs posting calm = (.ok read, after) ∧ calm.Mirrors after :=
  readLegs_calm isCalm legs (fun leg member ↦ (each leg member).1)
    fun leg member ↦ ⟨(each leg member).2.id, (each leg member).2.there⟩

/-! ### The whole posting -/

/-- New balances that can be worked out are those of different accounts, each of which was worked out for
one that was read. -/
theorem newBalances_current {database : Database} {read : List (Account × Direction)}
    (moves : posting.Moves cents)
    (legs : read.map (fun leg ↦ (leg.1.id, leg.2)) = posting.movement.legs)
    (current : ∀ leg ∈ read, database.Current leg.1)
    (worked : ∀ leg ∈ read, ∃ number, Posting.newBalance leg.1 leg.2 posting.amount = .ok number) :
    ∃ changes, Posting.newBalances posting.amount read = .ok changes ∧
      (changes.map (·.1.id)).Nodup ∧ (∀ change ∈ changes, database.Current change.1) ∧
      (changes.map (·.1)).Perm (read.map (·.1)) ∧
      ∀ change ∈ changes, ∃ direction, (change.1, direction) ∈ read ∧
        Posting.newBalance change.1 direction posting.amount = .ok change.2 := by
  obtain ⟨changes, worked⟩ := Posting.newBalances_of_forall worked
  obtain ⟨sorted, single⟩ := Posting.newBalances_ok worked
  refine ⟨changes, worked, newBalances_apart moves legs worked, fun change member ↦ ?_, sorted, single⟩
  obtain ⟨direction, there, -⟩ := single change member
  exact current _ there

/-- The accounts of a posting are ones that the store can look for, if they were read. -/
theorem fits_of_current {database : Database} {read : List (Account × Direction)}
    (legs : read.map (fun leg ↦ (leg.1.id, leg.2)) = posting.movement.legs)
    (current : ∀ leg ∈ read, database.Current leg.1) :
    ∀ id ∈ posting.record.movement.accounts, fitsWord id = true := by
  change ∀ id ∈ posting.movement.accounts, fitsWord id = true
  rw [Movement.accounts_eq_legs, ← legs, List.map_map]
  intro id member
  obtain ⟨leg, there, rfl⟩ := List.mem_map.1 member
  exact (current leg there).id

/-- A calm unit writes a posting whose new balances can all be stored. -/
theorem writePosting_calm {read : List (Account × Direction)} (isCalm : calm.Calm)
    (moves : posting.Moves cents)
    (legs : read.map (fun leg ↦ (leg.1.id, leg.2)) = posting.movement.legs)
    (current : ∀ leg ∈ read, calm.view.Current leg.1)
    (storable : ∀ leg ∈ read, ∃ number,
      Posting.newBalance leg.1 leg.2 posting.amount = .ok number ∧ number.IsStorable)
    (unused : calm.view.transactionReferenced? posting.reference = none) :
    ∃ record after, writePosting posting read calm = (.ok record, after) ∧ after.Calm := by
  obtain ⟨changes, worked, apart, current', -, single⟩ :=
    newBalances_current moves legs current fun leg member ↦
      (storable leg member).imp fun _ both ↦ both.1
  obtain ⟨middle, changed, isCalm', transactions⟩ :=
    forM_changeBalance_calm isCalm apart current' fun change member ↦ by
      obtain ⟨direction, there, balance⟩ := single change member
      obtain ⟨number, balance', isStorable⟩ := storable _ there
      obtain rfl := Except.ok.inj (balance.symm.trans balance')
      exact isStorable
  have unused' : middle.view.transactionReferenced? posting.reference = none := by
    rw [Database.transactionReferenced?, transactions]
    exact unused
  obtain ⟨record, after, appended, isCalm''⟩ :=
    append_calm isCalm' rfl rfl moves.exact moves.positive (fits_of_current legs current) unused'
  refine ⟨record, after, ?_, isCalm''⟩
  unfold writePosting
  rw [worked, run_bind_ok (run_ofExcept _ calm), run_bind_ok changed, appended]

/-- A calm unit writes nothing for a posting one of whose new balances no column can hold. -/
theorem writePosting_unstorable {read : List (Account × Direction)} (isCalm : calm.Calm)
    (moves : posting.Moves cents)
    (legs : read.map (fun leg ↦ (leg.1.id, leg.2)) = posting.movement.legs)
    (current : ∀ leg ∈ read, calm.view.Current leg.1)
    (either : ∀ leg ∈ read, ∃ number, Posting.newBalance leg.1 leg.2 posting.amount = .ok number ∧
      (number.IsStorable ∨ number.IsTooLong))
    (tooLong : ∃ leg ∈ read, ∃ number,
      Posting.newBalance leg.1 leg.2 posting.amount = .ok number ∧ number.IsTooLong) :
    ∃ after, writePosting posting read calm = (.error .unstorable, after) := by
  obtain ⟨changes, worked, apart, current', sorted, single⟩ :=
    newBalances_current moves legs current fun leg member ↦
      (either leg member).imp fun _ both ↦ both.1
  have balanceOf (leg : Account × Direction) (isRead : leg ∈ read) (change : Account × Decimal)
      (member : change ∈ changes) (same : change.1 = leg.1) :
      Posting.newBalance leg.1 leg.2 posting.amount = .ok change.2 := by
    obtain ⟨direction, there, balance⟩ := single change member
    rw [same] at there balance
    rw [direction_unique moves legs isRead there]
    exact balance
  obtain ⟨after, refused⟩ := forM_changeBalance_unstorable isCalm apart current'
    (fun change member ↦ by
      obtain ⟨direction, there, balance⟩ := single change member
      obtain ⟨number, balance', kind⟩ := either _ there
      obtain rfl := Except.ok.inj (balance.symm.trans balance')
      exact kind)
    (by
      obtain ⟨leg, isRead, number, balance, long⟩ := tooLong
      obtain ⟨change, member, same⟩ := List.mem_map.1 (sorted.mem_iff.2 (List.mem_map_of_mem isRead))
      obtain rfl := Except.ok.inj ((balanceOf leg isRead change member same).symm.trans balance)
      exact ⟨change, member, long⟩)
  refine ⟨after, ?_⟩
  unfold writePosting
  rw [worked, run_bind_ok (run_ofExcept _ calm), run_bind, refused]

/-- A calm unit ends at the first account of a posting that is missing. -/
theorem applyPosting_missing {earlier later : List (Int × Direction)} {leg : Int × Direction}
    (isCalm : calm.Calm) (wellKept : calm.view.WellKept)
    (legs : posting.movement.legs = earlier ++ leg :: later)
    (fits : ∀ other ∈ posting.movement.legs, fitsWord other.1 = true)
    (active : ∀ other ∈ earlier, calm.view.Active other.1)
    (missing : calm.view.account? leg.1 = none) :
    ∃ after, applyPosting posting calm =
      (.error (.ledger (.accountNotFound (.integer leg.1))), after) := by
  rw [legs] at fits
  obtain ⟨after, ended⟩ := readLegs_refused isCalm wellKept legs
    (fun other member ↦ fits other (List.mem_append_left _ member)) active fun session mirrors ↦
      loadActive_missing mirrors.quiet (fits leg (List.mem_append_right _ List.mem_cons_self))
        (mirrors.view.symm ▸ missing)
  refine ⟨after, ?_⟩
  rw [applyPosting, run_bind, ended]

/-- A calm unit ends at the first account of a posting that is not active. -/
theorem applyPosting_inactive {earlier later : List (Int × Direction)} {leg : Int × Direction}
    {row : AccountRow} (isCalm : calm.Calm) (wellKept : calm.view.WellKept)
    (legs : posting.movement.legs = earlier ++ leg :: later)
    (fits : ∀ other ∈ posting.movement.legs, fitsWord other.1 = true)
    (active : ∀ other ∈ earlier, calm.view.Active other.1)
    (found : calm.view.account? leg.1 = some row) (inactive : row.status ≠ .active) :
    ∃ after, applyPosting posting calm =
      (.error (.ledger (.accountNotActive (.integer leg.1) row.status)), after) := by
  rw [legs] at fits
  have fits' : fitsWord leg.1 = true := fits leg (List.mem_append_right _ List.mem_cons_self)
  obtain ⟨account, -, -, isRead, -⟩ := wellKept.current fits' found
  obtain ⟨after, ended⟩ := readLegs_refused isCalm wellKept legs
    (fun other member ↦ fits other (List.mem_append_left _ member)) active fun session mirrors ↦
      loadActive_inactive mirrors.quiet fits' (mirrors.view.symm ▸ found) isRead inactive
  refine ⟨after, ?_⟩
  rw [applyPosting, run_bind, ended]

/-- A calm unit ends at a debit that is not covered, once all accounts have been read. -/
theorem applyPosting_insufficient {id : Int} {later : List (Int × Direction)} {row : AccountRow}
    {balance : Decimal} (isCalm : calm.Calm) (wellKept : calm.view.WellKept)
    (moves : posting.Moves cents) (legs : posting.movement.legs = (id, .debit) :: later)
    (fits : ∀ leg ∈ posting.movement.legs, fitsWord leg.1 = true)
    (active : ∀ leg ∈ posting.movement.legs, calm.view.Active leg.1)
    (found : calm.view.account? id = some row) (text : Money.readText row.balance = .ok balance)
    (less : balance.toRat < posting.amount.toRat) :
    ∃ after, applyPosting posting calm =
      (.error (.ledger (.insufficientFunds (.integer id) (.decimal balance)
        (.decimal posting.amount))), after) := by
  obtain ⟨read, same, each⟩ := exists_read wellKept fits active
  obtain ⟨middle, reads, mirrors⟩ := readLegs_current isCalm same each
  refine ⟨middle, ?_⟩
  rw [applyPosting, run_bind_ok reads]
  rw [legs] at same
  obtain ⟨first, rest, rfl, isFirst, -⟩ := List.map_eq_cons_iff.1 same
  obtain ⟨account, direction⟩ := first
  obtain ⟨rfl, rfl⟩ := Prod.mk.inj isFirst
  obtain ⟨-, current⟩ := each _ List.mem_cons_self
  obtain ⟨held, whole, -⟩ := current.cents wellKept.solvent
  obtain ⟨row', found', isRead⟩ := current.there
  obtain rfl := Option.some.inj (found.symm.trans found')
  obtain rfl : account.balance = balance := by
    obtain ⟨_, text', rfl⟩ := AccountRow.read_ok isRead
    exact Except.ok.inj (text'.symm.trans text)
  rw [Decimal.toRat_of_cents whole, Decimal.toRat_of_cents moves.exact,
    div_lt_div_iff_of_pos_right (by norm_num), Int.cast_lt] at less
  unfold writePosting
  rw [Posting.newBalances_insufficient whole moves.exact less]
  rfl

/-- A calm unit reads accounts that are all active, and works out a new balance for each leg if what goes is
there; it can be stored if what comes has room. -/
theorem readLegs_covered (isCalm : calm.Calm) (wellKept : calm.view.WellKept)
    (moves : posting.Moves cents) (fits : ∀ leg ∈ posting.movement.legs, fitsWord leg.1 = true)
    (active : ∀ leg ∈ posting.movement.legs, calm.view.Active leg.1)
    (covers : ∀ leg ∈ posting.movement.legs, calm.view.Covers posting.amount.toRat leg) :
    ∃ read middle, readLegs posting calm = (.ok read, middle) ∧ calm.Mirrors middle ∧
      read.map (fun leg ↦ (leg.1.id, leg.2)) = posting.movement.legs ∧
      (∀ leg ∈ read, middle.view.Current leg.1) ∧
      ∀ leg ∈ read, ∃ number, Posting.newBalance leg.1 leg.2 posting.amount = .ok number ∧
        (calm.view.HasRoom posting.amount.toRat (leg.1.id, leg.2) → number.IsStorable) ∧
        (¬calm.view.HasRoom posting.amount.toRat (leg.1.id, leg.2) → number.IsTooLong) := by
  obtain ⟨read, same, each⟩ := exists_read wellKept fits active
  obtain ⟨middle, reads, mirrors⟩ := readLegs_current isCalm same each
  refine ⟨read, middle, reads, mirrors, same, fun leg member ↦ ?_, fun leg member ↦ ?_⟩
  · rw [mirrors.view]
    exact (each leg member).2
  · exact Posting.newBalance_of_covers (each leg member).2 wellKept.solvent moves.exact
      moves.positive (covers _ (mem_legs_of_read same member))

/-- A calm unit does not apply a posting after which a balance would be too long for its column. -/
theorem applyPosting_unstorable (isCalm : calm.Calm) (wellKept : calm.view.WellKept)
    (moves : posting.Moves cents) (fits : ∀ leg ∈ posting.movement.legs, fitsWord leg.1 = true)
    (active : ∀ leg ∈ posting.movement.legs, calm.view.Active leg.1)
    (covers : ∀ leg ∈ posting.movement.legs, calm.view.Covers posting.amount.toRat leg)
    (noRoom : ∃ leg ∈ posting.movement.legs, ¬calm.view.HasRoom posting.amount.toRat leg) :
    ∃ after, applyPosting posting calm = (.error .unstorable, after) := by
  obtain ⟨read, middle, reads, mirrors, same, current, each⟩ :=
    readLegs_covered isCalm wellKept moves fits active covers
  rw [applyPosting, run_bind_ok reads]
  refine writePosting_unstorable mirrors.quiet moves same current (fun leg member ↦ ?_) ?_
  · obtain ⟨number, worked, storable, tooLong⟩ := each leg member
    refine ⟨number, worked, ?_⟩
    by_cases room : calm.view.HasRoom posting.amount.toRat (leg.1.id, leg.2)
    · exact Or.inl (storable room)
    · exact Or.inr (tooLong room)
  · obtain ⟨leg, isLeg, full⟩ := noRoom
    rw [← same] at isLeg
    obtain ⟨read, member, rfl⟩ := List.mem_map.1 isLeg
    obtain ⟨number, worked, -, tooLong⟩ := each read member
    exact ⟨read, member, number, worked, tooLong full⟩

/-- A calm unit applies a posting if all accounts are active, what goes is there, and what comes has
room. -/
theorem applyPosting_calm (isCalm : calm.Calm) (wellKept : calm.view.WellKept)
    (moves : posting.Moves cents) (fits : ∀ leg ∈ posting.movement.legs, fitsWord leg.1 = true)
    (active : ∀ leg ∈ posting.movement.legs, calm.view.Active leg.1)
    (covers : ∀ leg ∈ posting.movement.legs, calm.view.Covers posting.amount.toRat leg)
    (room : ∀ leg ∈ posting.movement.legs, calm.view.HasRoom posting.amount.toRat leg)
    (unused : calm.view.transactionReferenced? posting.reference = none) :
    ∃ record after, applyPosting posting calm = (.ok record, after) ∧ after.Calm := by
  obtain ⟨read, middle, reads, mirrors, same, current, each⟩ :=
    readLegs_covered isCalm wellKept moves fits active covers
  rw [applyPosting, run_bind_ok reads]
  refine writePosting_calm mirrors.quiet moves same current (fun leg member ↦ ?_)
    (mirrors.view.symm ▸ unused)
  obtain ⟨number, worked, storable, -⟩ := each leg member
  exact ⟨number, worked, storable (room _ (mem_legs_of_read same member))⟩

end Work

end Passbook
