import Passbook.Proofs.Ledger.Progress
import Passbook.Proofs.Ledger.Settlement

/-!
How a unit of work for a posting can fail. As long as the store fails in no other ways than its driver
reports, and the accounts are ones that it can look for, every part of the unit ends in a failure that is
known (`Failure.IsKnown`): one that callers are told about, or one that the tries turn into such a one. Main
statement: so does the whole try (`Work.tryPosting_known`).
-/

set_option autoImplicit false
set_option relaxedAutoImplicit false

namespace Passbook

open Procedure Session

/-! ### Known failures -/

/-- A failure that callers are told about, or that comes from the store as its driver reports it. -/
def Failure.IsKnown : Failure → Prop
  | .ledger _ | .integrity _ | .trouble _ | .unstorable | .store => True
  | _ => False

/-- The store fails in no other ways than its driver reports. -/
def Storage.FailsKnown (storage : Storage) : Prop :=
  ∀ planned ∈ storage.faults, planned.what ≠ .interrupted

namespace Planned

variable {Place What : Type} [DecidableEq Place] {place : Place} {planned : List (Planned Place What)}

/-- What happens at a place was planned. -/
theorem exists_of_next {what : What} (happens : (next place planned).1 = some what) :
    ∃ first ∈ planned, first.what = what := by
  induction planned with
  | nil => cases happens
  | cons first rest ih =>
    have strikes (same : some first.what = some what) : ∃ first' ∈ first :: rest, first'.what = what :=
      ⟨first, List.mem_cons_self, Option.some.inj same⟩
    unfold next at happens
    split at happens
    · split at happens
      · cases happens
      · split at happens
        · exact strikes happens
        · exact strikes happens
    · obtain ⟨first', member, same⟩ := ih happens
      exact ⟨first', List.mem_cons_of_mem _ member, same⟩

/-- What is planned from here on was planned before. -/
theorem exists_of_mem_next {later : Planned Place What} (remains : later ∈ (next place planned).2) :
    ∃ first ∈ planned, first.what = later.what := by
  induction planned with
  | nil => cases remains
  | cons first rest ih =>
    have kept (member : later ∈ rest) : ∃ first' ∈ first :: rest, first'.what = later.what :=
      ⟨later, List.mem_cons_of_mem _ member, rfl⟩
    unfold next at remains
    split at remains
    · split at remains
      · rcases List.mem_cons.1 remains with rfl | member
        · exact ⟨first, List.mem_cons_self, rfl⟩
        · exact kept member
      · split at remains
        · rcases List.mem_cons.1 remains with rfl | member
          · exact ⟨first, List.mem_cons_self, rfl⟩
          · exact kept member
        · exact kept remains
    · rcases List.mem_cons.1 remains with rfl | member
      · exact ⟨later, List.mem_cons_self, rfl⟩
      · obtain ⟨first', member', same⟩ := ih member
        exact ⟨first', List.mem_cons_of_mem _ member', same⟩

end Planned

/-- A unit beside which nobody else writes, at a store that fails in known ways only, as long as the tables
that it sees have a property. -/
structure Session.Serves (tables : Database → Prop) (session : Session) : Prop where
  alone : session.IsAlone
  known : session.storage.FailsKnown
  sees : tables session.view

/-- A unit of which nothing is asked about the tables that it sees. -/
abbrev Session.Works : Session → Prop := Serves fun _ ↦ True

theorem Session.Serves.works {tables : Database → Prop} {session : Session}
    (serves : session.Serves tables) : session.Works :=
  ⟨serves.alone, serves.known, trivial⟩

namespace Work

variable {Result : Type} {tables : Database → Prop}

/-- From units that see tables with a property a part of a unit leads to such units again, and the failures
that it ends in are known. -/
abbrev FailsKnown (tables : Database → Prop) (work : Work Result) : Prop :=
  work.Confined (Serves tables) Failure.IsKnown

/-! ### The parts of a unit -/

theorem known_pass (point : Point) : (pass point).FailsKnown tables := by
  intro session serves
  rw [pass_run]
  refine ⟨⟨serves.alone, fun later member ↦ ?_, serves.sees⟩, fun failure struck ↦ ?_⟩
  · obtain ⟨first, planned, same⟩ := Planned.exists_of_mem_next member
    exact same ▸ serves.known first planned
  · cases fault : (Planned.next point session.storage.faults).1 with
    | none =>
      rw [fault] at struck
      cases struck
    | some fault' =>
      obtain ⟨first, planned, same⟩ := Planned.exists_of_next fault
      have spared := serves.known first planned
      rw [same] at spared
      rw [fault] at struck
      cases fault' with
      | interrupted => exact absurd rfl spared
      | refusal => cases struck
      | _ =>
        obtain rfl := Except.error.inj struck
        trivial

theorem known_connect : connect.FailsKnown tables := by
  intro session serves
  simp only [connect, run_bind, run_get, run_ite]
  split
  · exact ⟨serves, fun _ same ↦ by cases same⟩
  · split
    · exact ⟨⟨serves.alone, serves.known, serves.sees⟩, fun _ same ↦ by cases same⟩
    · exact ⟨serves, fun _ same ↦ Except.error.inj same ▸ trivial⟩

theorem known_requireWord {number : Int} (fits : fitsWord number = true) :
    (requireWord number).FailsKnown tables := by
  rw [requireWord, if_pos fits]
  exact confined_pure _

/-- What goes on with the tables that the unit sees. -/
theorem known_view_bind {next : Database → Work Result}
    (goesOn : ∀ database, tables database → (next database).FailsKnown tables) :
    (view >>= next).FailsKnown tables := by
  have begins : view.FailsKnown tables := fun _ serves ↦ ⟨serves, fun _ same ↦ by cases same⟩
  refine leadsTo_bind begins (fun _ ↦ id) fun session database _ serves seen ↦ ?_
  obtain ⟨rfl, -⟩ := view_ok seen
  exact goesOn _ serves.sees

theorem known_remember (account : Account) : (remember account).FailsKnown tables :=
  confined_modify fun _ serves ↦ ⟨serves.alone, serves.known, serves.sees⟩

theorem known_admitIntruder (id : Int) : (admitIntruder id).FailsKnown tables := by
  intro session serves
  rw [admitIntruder_alone id serves.alone]
  exact ⟨serves, fun _ same ↦ by cases same⟩

/-! ### Reading -/

/-- An account that the store can look for is read, or not found. -/
theorem known_load {id : Int} (fits : fitsWord id = true)
    (wellKept : ∀ database, tables database → database.WellKept) :
    (load id).FailsKnown tables := by
  unfold load
  refine confined_bind (known_pass _) fun _ ↦ ?_
  refine confined_bind known_connect fun _ ↦ ?_
  refine confined_bind (known_requireWord fits) fun _ ↦ ?_
  refine known_view_bind fun database shown ↦ ?_
  split
  · exact confined_bind (known_admitIntruder id) fun _ ↦ confined_pure _
  · next row found =>
    obtain ⟨account, -, -, isRead, -⟩ := (wellKept database shown).current fits found
    rw [isRead]
    refine confined_bind (confined_ofExcept fun _ same ↦ by cases same) fun _ ↦ ?_
    refine confined_bind (known_remember _) fun _ ↦ ?_
    exact confined_bind (known_admitIntruder id) fun _ ↦ confined_pure _

theorem known_loadActive {id : Int} (fits : fitsWord id = true)
    (wellKept : ∀ database, tables database → database.WellKept) :
    (loadActive id).FailsKnown tables := by
  unfold loadActive
  refine confined_bind (known_load fits wellKept) fun loaded ↦ ?_
  split
  · exact confined_ite (confined_pure _) (confined_throw trivial)
  · exact confined_throw trivial

theorem known_readLegs {posting : Posting}
    (fits : ∀ leg ∈ posting.movement.legs, fitsWord leg.1 = true)
    (wellKept : ∀ database, tables database → database.WellKept) :
    (readLegs posting).FailsKnown tables := by
  unfold readLegs
  refine confined_mapM fun leg member ↦ ?_
  exact confined_bind (known_loadActive (fits leg member) wellKept) fun _ ↦ confined_pure _

/-- A record that is found can be read. -/
theorem known_lookup {reference : Reference}
    (readable : ∀ database row, tables database →
      database.transactionReferenced? reference = some row → ∃ record, row.read = .ok record) :
    (lookup reference).FailsKnown tables := by
  unfold lookup
  refine confined_bind (known_pass _) fun _ ↦ ?_
  refine confined_bind known_connect fun _ ↦ ?_
  refine known_view_bind fun database shown ↦ ?_
  split
  · exact confined_pure _
  · next row found =>
    obtain ⟨record, isRead⟩ := readable database row shown found
    rw [isRead]
    exact confined_bind (confined_ofExcept fun _ same ↦ by cases same) fun _ ↦ confined_pure _

/-! ### Writing -/

theorem known_boundAmount (given : Value) : (boundAmount given).FailsKnown tables := by
  unfold boundAmount
  split
  · exact confined_pure _
  · exact confined_pure _
  · exact confined_pure _
  · exact confined_throw trivial

theorem known_write (database : Database) :
    (write database).Confined Works Failure.IsKnown :=
  confined_modify fun _ serves ↦ ⟨serves.alone, serves.known, trivial⟩

theorem known_beginWrite : beginWrite.Confined Works Failure.IsKnown :=
  known_view_bind fun database _ ↦ known_write database

theorem known_now : now.Confined Works Failure.IsKnown := fun _ serves ↦
  ⟨⟨serves.alone, serves.known, trivial⟩, fun _ same ↦ by cases same⟩

theorem known_drawReference : drawReference.Confined Works Failure.IsKnown := fun _ serves ↦
  ⟨⟨serves.alone, serves.known, trivial⟩, fun _ same ↦ by cases same⟩

theorem known_writeBalance {id version : Int} (fits : fitsWord id = true)
    (fits' : fitsWord version = true) (balance : Value) :
    (writeBalance id version balance).Confined Works Failure.IsKnown := by
  unfold writeBalance
  refine confined_bind (known_pass _) fun refused ↦ ?_
  refine confined_ite (confined_pure _) ?_
  refine confined_bind known_connect fun _ ↦ ?_
  refine confined_bind (known_boundAmount balance) fun bound ↦ ?_
  refine confined_bind (known_requireWord fits) fun _ ↦ ?_
  refine confined_bind (known_requireWord fits') fun _ ↦ ?_
  refine confined_bind known_beginWrite fun _ ↦ ?_
  refine known_view_bind fun database _ ↦ ?_
  split
  · exact confined_pure _
  · split
    · refine confined_ite (confined_throw trivial) ?_
      exact confined_bind (known_write _) fun _ ↦ confined_pure _
    · exact confined_throw trivial

theorem known_insertTransaction {new : NewTransaction} (fits : fitsWord (new.id.getD 0) = true)
    (fits' : fitsWord (new.source.getD 0) = true)
    (fits'' : fitsWord (new.destination.getD 0) = true) :
    (insertTransaction new).Confined Works Failure.IsKnown := by
  unfold insertTransaction
  refine confined_bind known_connect fun _ ↦ ?_
  extract_lets withReference
  suffices goesOn : ∀ reference, (withReference reference).Confined Works Failure.IsKnown by
    split
    · exact confined_bind (confined_pure _) goesOn
    · exact confined_bind known_drawReference goesOn
  intro reference
  unfold withReference
  extract_lets withInstant
  suffices goesOn : ∀ recordedAt, (withInstant recordedAt).Confined Works Failure.IsKnown by
    split
    · exact confined_bind (confined_pure _) goesOn
    · exact confined_bind known_now goesOn
  intro recordedAt
  unfold withInstant
  refine confined_bind (known_boundAmount _) fun bound ↦ ?_
  refine confined_bind (known_requireWord fits) fun _ ↦ ?_
  refine confined_bind (known_requireWord fits') fun _ ↦ ?_
  refine confined_bind (known_requireWord fits'') fun _ ↦ ?_
  refine confined_bind known_beginWrite fun _ ↦ ?_
  refine known_view_bind fun database _ ↦ ?_
  split
  · split
    · refine confined_ite (confined_throw trivial) ?_
      split
      · refine confined_ite (confined_throw trivial) (confined_ite (confined_throw trivial) ?_)
        exact confined_bind (known_write _) fun _ ↦ confined_pure _
      · exact confined_throw trivial
    · exact confined_throw trivial
  · exact confined_throw trivial

theorem known_append {record : Record}
    (fits : ∀ id ∈ record.movement.accounts, fitsWord id = true) :
    (append record).Confined Works Failure.IsKnown := by
  obtain ⟨fitsSource, fitsDestination⟩ := fits_destination fits
  unfold append
  refine confined_bind (known_pass _) fun _ ↦ ?_
  refine confined_bind ?_ fun _ ↦ confined_pure _
  exact known_insertTransaction (show fitsWord 0 = true by decide) fitsSource fitsDestination

theorem known_commit : commit.Confined Works Failure.IsKnown := by
  unfold commit
  refine confined_bind (known_pass _) fun _ ↦ ?_
  refine confined_bind (confined_modify fun _ serves ↦ ?_) fun _ ↦ ?_
  · exact ⟨serves.alone, serves.known, trivial⟩
  · refine confined_bind (known_pass _) fun _ ↦ confined_modify fun _ serves ↦ ?_
    exact ⟨serves.alone, serves.known, trivial⟩

/-- A new balance that is not below zero is written, or the failure is known. -/
theorem known_changeBalance {account : Account} {number : Decimal} {order : Ordering}
    (fits : fitsWord account.id = true) (fits' : fitsWord account.version = true)
    (compared : number.compare? .zero = some order) (notLess : order ≠ .lt) :
    (changeBalance account number).Confined Works Failure.IsKnown := by
  have writes : (do if !(← writeBalance account.id account.version (.decimal number)) then
      throw (.ledger (.conflict (.modified account.id))) : Work Unit).Confined Works
        Failure.IsKnown := by
    refine confined_bind (known_writeBalance fits fits' _) fun wrote ↦ ?_
    exact confined_ite (confined_throw trivial) (confined_pure _)
  intro session serves
  rw [changeBalance_eq compared notLess]
  exact writes session serves

end Work

/-! ### New balances -/

namespace Posting

variable {account : Account} {amount : Decimal} {balance cents : Int}

/-- A new balance is worked out and not below zero, or the account has too little. -/
theorem newBalance_cases (direction : Direction) (held : account.balance.cents? = some balance)
    (notBelow : 0 ≤ balance) (exact : amount.cents? = some cents) (positive : 0 < cents) :
    (∃ number, newBalance account direction amount = .ok number ∧
        ∃ order, number.compare? .zero = some order ∧ order ≠ .lt) ∨
      newBalance account direction amount = .error (insufficient account amount) := by
  have storable {number : Decimal} (isStorable : number.IsStorable) :
      ∃ order, number.compare? .zero = some order ∧ order ≠ .lt := by
    obtain ⟨whole, exact, notBelow⟩ := isStorable
    exact ⟨_, Decimal.compare?_zero exact, fun less ↦
      Int.not_lt.2 notBelow (Int.compare_eq_lt.1 less)⟩
  cases direction with
  | debit =>
    by_cases enough : cents ≤ balance
    · obtain ⟨number, worked, isStorable⟩ := newBalance_covered held exact positive enough
      exact Or.inl ⟨number, worked, storable isStorable⟩
    · exact Or.inr (newBalance_insufficient held exact (Int.not_le.1 enough))
  | credit =>
    obtain ⟨number, worked, kind⟩ := newBalance_credit held notBelow exact positive
    refine Or.inl ⟨number, worked, ?_⟩
    split at kind
    · exact storable kind
    · exact kind.notBelow

end Posting

/-! ### One try -/

/-- Tables on which a posting can be tried: ones that are well kept and have no record of it yet, or ones
from which its record can be read. -/
def Posting.CanTry (posting : Posting) (database : Database) : Prop :=
  (database.WellKept ∧ database.transactionReferenced? posting.reference = none) ∨
    ∃ row record, database.transactionReferenced? posting.reference = some row ∧
      row.read = .ok record

namespace Work

variable {posting : Posting} {cents : Int} {database : Database} {session : Session}

/-- What is written for accounts as tables have them is written, or the failure is known. -/
theorem known_writePosting {read : List (Account × Direction)} (solvent : database.Solvent)
    (moves : posting.Moves cents)
    (legs : read.map (fun leg ↦ (leg.1.id, leg.2)) = posting.movement.legs)
    (current : ∀ leg ∈ read, database.Current leg.1) :
    (writePosting posting read).Confined Works Failure.IsKnown := by
  have balanceOf (leg : Account × Direction) (member : leg ∈ read) :=
    (current leg member).cents solvent
  unfold writePosting
  refine leadsTo_bind (confined_ofExcept fun failure failed ↦ ?_) (fun _ ↦ id)
    fun _ changes _ _ worked ↦ ?_
  · obtain ⟨leg, member, ended⟩ := Posting.newBalances_error failed
    obtain ⟨balance, held, notBelow⟩ := balanceOf leg member
    rcases Posting.newBalance_cases leg.2 held notBelow moves.exact moves.positive with
      ⟨number, worked, -⟩ | insufficient
    · rw [worked] at ended
      cases ended
    · rw [insufficient] at ended
      obtain rfl := Except.error.inj ended
      trivial
  obtain ⟨-, single⟩ := Posting.newBalances_ok (ok_of_ofExcept worked).1
  refine confined_bind (confined_forM fun change member ↦ ?_) fun _ ↦ known_append ?_
  · obtain ⟨direction, there, balance⟩ := single change member
    obtain ⟨cents', held, notBelow⟩ := balanceOf _ there
    have isCurrent := current _ there
    rcases Posting.newBalance_cases direction held notBelow moves.exact moves.positive with
      ⟨number, worked', order, compared, notLess⟩ | insufficient
    · obtain rfl := Except.ok.inj (worked'.symm.trans balance)
      exact known_changeBalance isCurrent.id isCurrent.version compared notLess
    · rw [insufficient] at balance
      cases balance
  · exact fits_of_current legs current

/-- Accounts that the store can look for are read and written, or the failure is known. -/
theorem known_applyPosting (wellKept : database.WellKept) (moves : posting.Moves cents)
    (fits : ∀ leg ∈ posting.movement.legs, fitsWord leg.1 = true) :
    (applyPosting posting).LeadsTo (Serves (· = database)) Works Failure.IsKnown := by
  have wellKept' (shown : Database) (same : shown = database) : shown.WellKept := same ▸ wellKept
  unfold applyPosting
  refine leadsTo_bind (known_readLegs fits wellKept') (fun _ ↦ Serves.works)
    fun session read _ serves reads ↦ ?_
  obtain ⟨legs, each⟩ := readLegs_ok serves.alone reads
  rw [serves.sees] at each
  refine LeadsTo.mono (fun _ ↦ Serves.works) ?_
  refine known_writePosting wellKept.solvent moves legs fun leg member ↦ ?_
  obtain ⟨-, row, found, isRead⟩ := each leg member
  have version : row.version = leg.1.version := by
    obtain ⟨_, _, same⟩ := AccountRow.read_ok isRead
    rw [same]
  exact ⟨fits _ (mem_legs_of_read legs member), version ▸ wellKept.versions _ row found, row, found,
    isRead⟩

theorem known_applyAndCommit (wellKept : database.WellKept) (moves : posting.Moves cents)
    (fits : ∀ leg ∈ posting.movement.legs, fitsWord leg.1 = true) :
    (applyAndCommit posting).LeadsTo (Serves (· = database)) Works Failure.IsKnown := by
  unfold applyAndCommit
  refine leadsTo_bind (known_applyPosting wellKept moves fits) (fun _ ↦ id) fun _ _ _ _ _ ↦ ?_
  exact confined_bind known_commit fun _ ↦ confined_pure _

/-- A try of a posting between accounts that the store can look for ends in a known failure if in any. A
record that may be there already has to be looked for. -/
theorem tryPosting_known (moves : posting.Moves cents)
    (fits : ∀ leg ∈ posting.movement.legs, fitsWord leg.1 = true) (canTry : posting.CanTry database)
    {repeated : Bool}
    (looks : repeated = false → database.transactionReferenced? posting.reference = none) :
    (tryPosting posting repeated).LeadsTo (Serves (· = database)) Works Failure.IsKnown := by
  have applies (unused : database.transactionReferenced? posting.reference = none) :
      (applyAndCommit posting).LeadsTo (Serves (· = database)) Works Failure.IsKnown := by
    rcases canTry with ⟨wellKept, -⟩ | ⟨row, _, found, -⟩
    · exact known_applyAndCommit wellKept moves fits
    · rw [unused] at found
      cases found
  have readable (shown : Database) (row : TransactionRow) (same : shown = database)
      (found : shown.transactionReferenced? posting.reference = some row) :
      ∃ record, row.read = .ok record := by
    rw [same] at found
    rcases canTry with ⟨-, unused⟩ | ⟨row', record, found', isRead⟩
    · rw [unused] at found
      cases found
    · obtain rfl := Option.some.inj (found'.symm.trans found)
      exact ⟨record, isRead⟩
  unfold tryPosting
  cases repeated with
  | false => exact applies (looks rfl)
  | true =>
    rw [if_pos rfl]
    refine leadsTo_bind (known_lookup readable) (fun _ ↦ Serves.works)
      fun session known _ serves looked ↦ ?_
    rcases lookup_ok looked with ⟨unused, rfl⟩ | ⟨row, record, found, isRead, rfl⟩
    · exact applies (serves.sees ▸ unused)
    · exact LeadsTo.mono (fun _ ↦ Serves.works) (confined_pure _)

/-- Behind a try that failed a posting can be tried again. -/
theorem canTry_of_tried {before after : Storage} {failure : Failure} (moves : posting.Moves cents)
    (canTry : posting.CanTry before.database)
    (tried : Tried posting cents before after (.error failure)) :
    posting.CanTry after.database := by
  cases tried with
  | failed _ kept =>
    rw [kept.1]
    exact canTry
  | unreported _ row posted _ =>
    obtain ⟨record, isRead⟩ := posted.read moves
    exact Or.inr ⟨row, record, posted.found, isRead⟩

end Work

end Passbook
