import Mathlib.Data.List.Nodup
import Passbook.Proofs.Ledger.Parts
import Passbook.Proofs.Ledger.Posted

/-!
Applying a posting inside a unit of work. Main statements: the accounts that are read are active and as
the tables have them (`readLegs_ok`), and what is written for a posting of exact cents applies it exactly
once, with the record that the new row reads back as (`writePosting_ok`). The accounts may have been read
at any time before, as long as the tables showed them then; that a balance was written means that they
are still as they were read (`writePosting_current`).
-/

set_option autoImplicit false
set_option relaxedAutoImplicit false

namespace Passbook

open Procedure Session

namespace Work

/-! ### Reading the accounts -/

theorem load_ok {id : Int} {account : Account} {session after : Session}
    (loaded : load id session = (.ok (some account), after)) :
    ∃ row, session.view.account? id = some row ∧ row.read = .ok account := by
  unfold load at loaded
  obtain ⟨_, _, passed, loaded⟩ := ok_of_bind loaded
  obtain ⟨_, _, connected, loaded⟩ := ok_of_bind loaded
  obtain ⟨_, _, word, loaded⟩ := ok_of_bind loaded
  obtain ⟨database, _, seen, loaded⟩ := ok_of_bind loaded
  obtain ⟨-, rfl⟩ := requireWord_ok word
  obtain ⟨rfl, rfl⟩ := view_ok seen
  have view := (sees_connect.of_eq connected).view.trans ((sees_pass .load).of_eq passed).view
  rw [view] at loaded
  cases found : session.view.account? id with
  | none =>
    rw [found] at loaded
    obtain ⟨_, _, _, loaded⟩ := ok_of_bind loaded
    cases (Prod.mk.inj loaded).1
  | some row =>
    rw [found] at loaded
    obtain ⟨read, _, reading, loaded⟩ := ok_of_bind loaded
    obtain ⟨_, _, _, loaded⟩ := ok_of_bind loaded
    obtain ⟨_, _, _, loaded⟩ := ok_of_bind loaded
    obtain ⟨isRead, -⟩ := ok_of_ofExcept reading
    obtain ⟨same, -⟩ := Prod.mk.inj loaded
    obtain rfl := Option.some.inj (Except.ok.inj same)
    exact ⟨row, rfl, isRead⟩

theorem leaves_loadActive (id : Int) : (loadActive id).Leaves Reads :=
  leftByReading_reads.loadActive (by decide) id

theorem loadActive_ok {id : Int} {account : Account} {session after : Session}
    (loaded : loadActive id session = (.ok account, after)) :
    account.status = .active ∧
      ∃ row, session.view.account? id = some row ∧ row.read = .ok account := by
  unfold loadActive at loaded
  obtain ⟨read, _, reading, loaded⟩ := ok_of_bind loaded
  cases read with
  | none => cases (Prod.mk.inj loaded).1
  | some found =>
    dsimp only at loaded
    split at loaded
    · next eligible =>
      obtain ⟨same, rfl⟩ := Prod.mk.inj loaded
      obtain rfl := Except.ok.inj same
      refine ⟨?_, load_ok reading⟩
      cases status : found.status <;> rw [status] at eligible <;> first | rfl | cases eligible
    · cases (Prod.mk.inj loaded).1

theorem leaves_readLegs (posting : Posting) : (readLegs posting).Leaves Reads :=
  leftByReading_reads.readLegs (by decide) posting

/-- What is read for a posting are the accounts of its legs, all of them active. -/
theorem readLegs_legs {posting : Posting} {read : List (Account × Direction)}
    {session after : Session} (ran : readLegs posting session = (.ok read, after)) :
    read.map (fun leg ↦ (leg.1.id, leg.2)) = posting.movement.legs ∧
      ∀ leg ∈ read, leg.1.status = .active := by
  obtain ⟨each, -⟩ := forall₂_of_mapM (fun _ ↦ True)
    (fun (leg : Int × Direction) (read : Account × Direction) ↦
      leg = (read.1.id, read.2) ∧ read.1.status = .active)
    (by
      intro leg middle read final _ body
      obtain ⟨account, _, loaded, body⟩ := ok_of_bind body
      obtain ⟨same, rfl⟩ := Prod.mk.inj body
      obtain rfl := Except.ok.inj same
      obtain ⟨active, row, found, isRead⟩ := loadActive_ok loaded
      have id := (AccountRow.id_of_read isRead).trans (Database.account?_id found)
      exact ⟨⟨Prod.ext id.symm rfl, active⟩, trivial⟩)
    trivial ran
  constructor
  · have back : posting.movement.legs.map id = read.map fun leg ↦ (leg.1.id, leg.2) :=
      map_eq_of_forall₂ (each.imp fun _ _ both ↦ both.1)
    rw [← back, List.map_id]
  · intro leg member
    obtain ⟨_, -, -, active⟩ := exists_of_forall₂_right each member
    exact active

/-- The accounts of a posting are read as the tables have them. -/
theorem readLegs_ok {posting : Posting} {read : List (Account × Direction)} {session after : Session}
    (alone : session.IsAlone) (ran : readLegs posting session = (.ok read, after)) :
    read.map (fun leg ↦ (leg.1.id, leg.2)) = posting.movement.legs ∧
      ∀ leg ∈ read, leg.1.status = .active ∧
        ∃ row, session.view.account? leg.1.id = some row ∧ row.read = .ok leg.1 := by
  obtain ⟨legs, active⟩ := readLegs_legs ran
  refine ⟨legs, fun leg member ↦ ⟨active leg member, ?_⟩⟩
  obtain ⟨each, -⟩ := forall₂_of_mapM session.Reads
    (fun (_ : Int × Direction) (read : Account × Direction) ↦
      ∃ row, session.view.account? read.1.id = some row ∧ row.read = .ok read.1)
    (by
      intro leg middle read final reads body
      obtain ⟨account, _, loaded, body⟩ := ok_of_bind body
      obtain ⟨same, rfl⟩ := Prod.mk.inj body
      obtain rfl := Except.ok.inj same
      obtain ⟨-, row, found, isRead⟩ := loadActive_ok loaded
      rw [(reads.2 alone).1] at found
      have id := (AccountRow.id_of_read isRead).trans (Database.account?_id found)
      exact ⟨⟨row, id.symm ▸ found, isRead⟩, reads.trans ((leaves_loadActive _).of_eq loaded)⟩)
    (refl_of Reads session) ran
  obtain ⟨_, -, holds⟩ := exists_of_forall₂_right each member
  exact holds

/-! ### Writing the new balances -/

/-- A balance that is changed is not below zero, and stands in the row of the version that was read. -/
theorem changeBalance_ok {account : Account} {balance : Decimal} {session after : Session}
    {result : Unit} (changed : changeBalance account balance session = (.ok result, after)) :
    (∃ order, balance.compare? .zero = some order ∧ order ≠ .lt) ∧
      writeBalance account.id account.version (.decimal balance) session = (.ok true, after) := by
  unfold changeBalance at changed
  obtain ⟨order, _, ordering, changed⟩ := ok_of_bind changed
  obtain ⟨compared, rfl⟩ := ok_of_ofExcept ordering
  dsimp only at changed
  by_cases below : order = .lt
  · rw [if_pos below] at changed
    obtain ⟨_, _, _, changed⟩ := ok_of_bind changed
    obtain ⟨_, _, thrown, _⟩ := ok_of_bind changed
    cases (Prod.mk.inj thrown).1
  · rw [if_neg below] at changed
    obtain ⟨wrote, _, writing, changed⟩ := ok_of_bind changed
    cases wrote with
    | false => cases (Prod.mk.inj changed).1
    | true =>
      obtain ⟨_, rfl⟩ := Prod.mk.inj changed
      exact ⟨⟨order, Posting.order_ok compared, below⟩, writing⟩

end Work

/-- Tables in which some accounts that were read have got new balances, and nothing else has changed. -/
structure Database.Rebalanced (changes : List (Account × Decimal)) (before after : Database) :
    Prop where
  changed : ∀ change ∈ changes, fitsWord change.1.id = true ∧
    (∃ order, change.2.compare? .zero = some order ∧ order ≠ .lt) ∧
      ∃ row cents, before.account? change.1.id = some row ∧ row.version = change.1.version ∧
        change.2.quantize .toEven Money.centExponent = some cents ∧
        after.account? change.1.id = some (withBalance row cents.text)
  others : ∀ id ∉ changes.map (·.1.id), after.account? id = before.account? id
  ids : after.accounts.map (·.id) = before.accounts.map (·.id)
  transactions : after.transactions = before.transactions
  audit : after.audit = before.audit

namespace Work

/-- New balances that were written one after the other stand in the rows of the versions that were
read. -/
theorem forM_changeBalance_ok {changes : List (Account × Decimal)} {session after : Session}
    {result : Unit} (apart : (changes.map (·.1.id)).Nodup)
    (changed : (changes.forM fun (account, balance) ↦ changeBalance account balance) session =
      (.ok result, after)) :
    after.storage.clock = session.storage.clock ∧ session.view.Rebalanced changes after.view := by
  induction changes generalizing session with
  | nil =>
    obtain ⟨_, rfl⟩ := Prod.mk.inj changed
    exact ⟨rfl, ⟨by simp, fun _ _ ↦ rfl, rfl, rfl, rfl⟩⟩
  | cons change rest ih =>
    rw [List.map_cons, List.nodup_cons] at apart
    obtain ⟨_, middle, first, later⟩ := ok_of_bind changed
    obtain ⟨notBelow, wrote⟩ := changeBalance_ok first
    obtain ⟨fits, clock, row, cents, found, quantized, view⟩ := writeBalance_true wrote
    obtain ⟨found, version⟩ := Database.accountAt?_eq_some found
    obtain ⟨clock', rebalanced⟩ := ih apart.2 later
    rw [view] at rebalanced
    have id : (Database.withBalance row cents.text).id = change.1.id :=
      (Database.account?_id found : row.id = change.1.id)
    refine ⟨clock'.trans clock, ?_, ?_, ?_, rebalanced.transactions, rebalanced.audit⟩
    · intro other member
      rcases List.mem_cons.1 member with rfl | later
      · refine ⟨fits, notBelow, row, cents, found, version, quantized, ?_⟩
        rw [rebalanced.others _ apart.1, ← id]
        exact Database.account?_replace_self (id.symm ▸ found)
      · have other : other.1.id ≠ (Database.withBalance row cents.text).id := fun same ↦
          apart.1 (id ▸ same ▸ List.mem_map_of_mem later)
        obtain ⟨fits, notBelow, row, cents, found, rest⟩ := rebalanced.changed _ later
        rw [Database.account?_replace_other other] at found
        exact ⟨fits, notBelow, row, cents, found, rest⟩
    · intro other absent
      rw [List.map_cons, List.mem_cons, not_or] at absent
      rw [rebalanced.others _ absent.2, Database.account?_replace_other (id ▸ absent.1)]
    · rw [rebalanced.ids, Database.ids_replace]

end Work

/-! ### The whole posting -/

/-- A posting that moves cents passes the check of its record. -/
theorem Posting.Moves.check {posting : Posting} {cents : Int} (moves : posting.Moves cents) :
    Record.check posting.movement (.decimal posting.amount) = .ok ⟨⟩ := by
  refine Work.check_of_positive moves.exact moves.positive fun account same ↦ ?_
  have apart := moves.apart
  rw [same] at apart
  simp [Movement.legs] at apart

/-- A record of a movement that moves cents is one that is read back as it was written. -/
theorem Posting.Moves.read_rowOf {posting : Posting} {cents : Int} (moves : posting.Moves cents)
    (id : Int) (instant : Instant) :
    (Work.rowOf posting.record posting.reference posting.amount id instant).read =
      .ok { posting.record with id := some id, recordedAt := some instant } :=
  Work.read_rowOf moves.exact moves.check posting.reference id instant

/-- The record of a posting that was applied can be read. -/
theorem Database.Posted.read {posting : Posting} {cents : Int} {row : TransactionRow}
    {before after : Database} (posted : before.Posted posting cents row after)
    (moves : posting.Moves cents) : ∃ record, row.read = .ok record := by
  unfold TransactionRow.read
  rw [posted.amount, Money.readText_of_cents moves.exact, posted.movement]
  change ∃ record, Record.check posting.movement (.decimal posting.amount) >>= _ = .ok record
  rw [moves.check]
  exact ⟨_, rfl⟩

namespace Work

theorem leaves_writePosting (posting : Posting) (read : List (Account × Direction)) :
    (writePosting posting read).Leaves Drafts :=
  leftByWriting_drafts.writePosting ⟨by decide, by decide⟩ posting read

/-- What was read for a posting has its leg in it. -/
theorem mem_legs_of_read {posting : Posting} {read : List (Account × Direction)}
    {leg : Account × Direction}
    (legs : read.map (fun leg ↦ (leg.1.id, leg.2)) = posting.movement.legs) (isRead : leg ∈ read) :
    (leg.1.id, leg.2) ∈ posting.movement.legs :=
  legs ▸ List.mem_map_of_mem isRead

/-- No account has two legs. -/
theorem direction_unique {posting : Posting} {cents : Int} {read : List (Account × Direction)}
    {account : Account} {direction direction' : Direction} (moves : posting.Moves cents)
    (legs : read.map (fun leg ↦ (leg.1.id, leg.2)) = posting.movement.legs)
    (isRead : (account, direction) ∈ read) (isRead' : (account, direction') ∈ read) :
    direction = direction' :=
  congrArg Prod.snd (List.inj_on_of_nodup_map moves.apart (mem_legs_of_read legs isRead)
    (mem_legs_of_read legs isRead') rfl)

/-- No account has two new balances. -/
theorem newBalances_apart {posting : Posting} {cents : Int} {read : List (Account × Direction)}
    {changes : List (Account × Decimal)} (moves : posting.Moves cents)
    (legs : read.map (fun leg ↦ (leg.1.id, leg.2)) = posting.movement.legs)
    (worked : Posting.newBalances posting.amount read = .ok changes) :
    (changes.map (·.1.id)).Nodup := by
  have sorted := (Posting.newBalances_ok worked).1.map (·.id)
  rw [List.map_map, List.map_map] at sorted
  refine sorted.nodup_iff.2 ?_
  have ids : read.map ((·.id) ∘ (·.1)) = posting.movement.legs.map (·.1) := by
    rw [← legs, List.map_map]
    rfl
  rw [ids]
  exact moves.apart

/-- What is written for a posting, part by part. -/
theorem writePosting_parts {posting : Posting} {cents : Int} {read : List (Account × Direction)}
    {session after : Session} {stored : Record} (moves : posting.Moves cents)
    (legs : read.map (fun leg ↦ (leg.1.id, leg.2)) = posting.movement.legs)
    (wrote : writePosting posting read session = (.ok stored, after)) :
    ∃ changes database id, Posting.newBalances posting.amount read = .ok changes ∧
      (changes.map (·.1.id)).Nodup ∧ session.view.Rebalanced changes database ∧
      database.transactionReferenced? posting.reference = none ∧
      after.view = database.addTransaction
        (rowOf posting.record posting.reference posting.amount id session.storage.clock) ∧
      stored = { posting.record with id := some id, recordedAt := some session.storage.clock } ∧
      id = Database.nextId (session.view.transactions.map (·.id)) := by
  unfold writePosting at wrote
  obtain ⟨changes, _, working, wrote⟩ := ok_of_bind wrote
  obtain ⟨_, middle, changing, appended⟩ := ok_of_bind wrote
  obtain ⟨worked, rfl⟩ := ok_of_ofExcept working
  have apart := newBalances_apart moves legs worked
  obtain ⟨clock, rebalanced⟩ := forM_changeBalance_ok apart changing
  obtain ⟨unused, whole, id, quantized, view, rfl, next⟩ := append_ok rfl rfl appended
  rw [Decimal.quantize_of_cents .toEven moves.exact] at quantized
  obtain rfl := Option.some.inj quantized
  rw [clock] at view
  rw [rebalanced.transactions] at next
  exact ⟨changes, middle.view, id, worked, apart, rebalanced, unused, view, by rw [clock]; rfl, next⟩

/-- An account whose balance was written is still as it was read. -/
theorem read_of_showed {database : Database} {account : Account} {row : AccountRow}
    (showed : database.Showed account) (found : database.account? account.id = some row)
    (version : row.version = account.version) : row.read = .ok account := by
  obtain ⟨shown, there, -, unchanged⟩ := showed
  rw [found] at there
  obtain rfl := Option.some.inj there
  exact unchanged version

/-- A new balance that was written is the exact one, for an account that is active and as it was
read. -/
theorem moved_of_written {account : Account} {way : Direction}
    {amount number whole : Decimal} {cents : Int} {row : AccountRow}
    (exact : amount.cents? = some cents) (active : account.status = .active)
    (isRead : row.read = .ok account)
    (balance : Posting.newBalance account way amount = .ok number)
    (notBelow : ∃ order, number.compare? .zero = some order ∧ order ≠ .lt)
    (quantized : number.quantize .toEven Money.centExponent = some whole) :
    row.status = .active ∧ ∃ old, Money.storedCents? row.balance = some old ∧
      0 ≤ way.moved old cents ∧ whole.cents? = some (way.moved old cents) := by
  obtain ⟨stored, text, rfl⟩ := AccountRow.read_ok isRead
  refine ⟨active, ?_⟩
  obtain ⟨order, compared, notLess⟩ := notBelow
  rcases Posting.newBalance_ok exact (Money.readText_cents text) balance with
    ⟨old, whole', fits | none⟩ | none
  · rw [Decimal.quantize_of_cents .toEven fits] at quantized
    obtain rfl := Option.some.inj quantized
    rw [Decimal.compare?_zero fits] at compared
    obtain rfl := Option.some.inj compared
    refine ⟨old, ?_, ?_, fits⟩
    · rw [Money.storedCents?_of_readText text, whole']
    · exact Int.not_lt.1 fun less ↦ notLess (Int.compare_eq_lt.2 less)
  · rw [none] at quantized
    cases quantized
  · rw [Decimal.compare?_notNumber none] at compared
    cases compared

/-- What is written for a posting of cents applies it exactly once, and its record is the one that the
new row is read as. -/
theorem writePosting_ok {posting : Posting} {cents : Int} {read : List (Account × Direction)}
    {session after : Session} {stored : Record} (moves : posting.Moves cents)
    (legs : read.map (fun leg ↦ (leg.1.id, leg.2)) = posting.movement.legs)
    (showed : ∀ leg ∈ read, session.view.Showed leg.1)
    (active : ∀ leg ∈ read, leg.1.status = .active)
    (wrote : writePosting posting read session = (.ok stored, after)) :
    ∃ row, session.view.Posted posting cents row after.view ∧ row.read = .ok stored := by
  obtain ⟨changes, database, id, worked, apart, rebalanced, unused, view, rfl, -⟩ :=
    writePosting_parts moves legs wrote
  obtain ⟨sorted, single⟩ := Posting.newBalances_ok worked
  rw [view]
  refine ⟨_, ⟨?_, ?_, rebalanced.ids, ?_, congrArg (· ++ _) rebalanced.transactions,
    rebalanced.audit, rfl, rfl, rfl, rfl, rfl⟩, moves.read_rowOf id _⟩
  · intro leg member
    rw [← legs] at member
    obtain ⟨⟨account, way⟩, isRead, rfl⟩ := List.mem_map.1 member
    obtain ⟨change, isChange, rfl⟩ :=
      List.mem_map.1 (sorted.mem_iff.2 (List.mem_map_of_mem (f := (·.1)) isRead))
    obtain ⟨way', isRead', balance⟩ := single change isChange
    -- The new balance was worked out for this leg.
    obtain rfl : way = way' := direction_unique moves legs isRead isRead'
    obtain ⟨-, notBelow, row, whole, found, version, quantized, there⟩ :=
      rebalanced.changed change isChange
    obtain ⟨rowActive, old, stored, enough, isWhole⟩ := moved_of_written moves.exact
      (active _ isRead) (read_of_showed (showed _ isRead) found version) balance notBelow quantized
    exact ⟨row, _, old, whole, found, rowActive, stored, enough, isWhole, there,
      row.moved_withBalance isWhole⟩
  · intro other absent
    refine rebalanced.others other fun changed ↦ absent ?_
    obtain ⟨change, isChange, rfl⟩ := List.mem_map.1 changed
    obtain ⟨way, isRead, -⟩ := single change isChange
    rw [Movement.accounts_eq_legs]
    exact List.mem_map_of_mem (f := (·.1)) (mem_legs_of_read legs isRead)
  · rw [Database.transactionReferenced?, ← rebalanced.transactions]
    exact unused

/-- When the writing of a posting succeeds, the accounts are still as they were read. -/
theorem writePosting_current {posting : Posting} {cents : Int} {read : List (Account × Direction)}
    {session after : Session} {stored : Record} (moves : posting.Moves cents)
    (legs : read.map (fun leg ↦ (leg.1.id, leg.2)) = posting.movement.legs)
    (showed : ∀ leg ∈ read, session.view.Showed leg.1)
    (wrote : writePosting posting read session = (.ok stored, after)) :
    ∀ leg ∈ read, fitsWord leg.1.id = true ∧
      ∃ row, session.view.account? leg.1.id = some row ∧ row.read = .ok leg.1 := by
  obtain ⟨changes, database, id, worked, apart, rebalanced, -, -, -⟩ :=
    writePosting_parts moves legs wrote
  obtain ⟨sorted, -⟩ := Posting.newBalances_ok worked
  rintro ⟨account, way⟩ isRead
  obtain ⟨change, isChange, rfl⟩ :=
    List.mem_map.1 (sorted.mem_iff.2 (List.mem_map_of_mem (f := (·.1)) isRead))
  obtain ⟨fits, -, row, -, found, version, -⟩ := rebalanced.changed change isChange
  exact ⟨fits, row, found, read_of_showed (showed _ isRead) found version⟩

end Work

end Passbook
