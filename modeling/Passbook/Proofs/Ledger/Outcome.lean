import Passbook.Proofs.Ledger.Undisturbed

/-!
What moving money comes to while nothing disturbs it. A request is accepted if its own data are in order,
every account involved is active, what goes is there and what comes has room (`Ledger.Accepted`). Otherwise
the first check that fails names the failure, in the order in which `Ledger.Refused` has its cases: the
amount, the description, the accounts against each other, each account in turn, what goes, and what comes.
Main statement: an accepted request gives the record of a movement applied exactly once, and any other one
ends with its failure and leaves the tables as they were (`Ledger.post_outcome`).
-/

set_option autoImplicit false
set_option relaxedAutoImplicit false

namespace Passbook

open Procedure Session

/-- Only the first leg of a movement is a debit. -/
theorem Movement.legs_of_debit {movement : Movement} {id : Int}
    (debited : (id, Direction.debit) ∈ movement.legs) :
    ∃ later, movement.legs = (id, .debit) :: later := by
  cases movement with
  | deposit account => simp [legs] at debited
  | interest account => simp [legs] at debited
  | withdrawal account =>
    obtain rfl : id = account := by simpa [legs] using debited
    exact ⟨_, rfl⟩
  | transfer source destination =>
    obtain rfl : id = source := by simpa [legs] using debited
    exact ⟨_, rfl⟩

/-- Accounts are all active, or there is a first one that is not. -/
theorem Database.active_or_first (database : Database) (legs : List (Int × Direction)) :
    (∀ leg ∈ legs, database.Active leg.1) ∨
      ∃ earlier leg later, legs = earlier ++ leg :: later ∧
        (∀ other ∈ earlier, database.Active other.1) ∧ ¬database.Active leg.1 := by
  induction legs with
  | nil => exact Or.inl (List.forall_mem_nil _)
  | cons leg rest ih =>
    by_cases active : database.Active leg.1
    · rcases ih with all | ⟨earlier, first, later, rfl, before, inactive⟩
      · exact Or.inl (List.forall_mem_cons.2 ⟨active, all⟩)
      · refine Or.inr ⟨leg :: earlier, first, later, rfl, ?_, inactive⟩
        exact List.forall_mem_cons.2 ⟨active, before⟩
    · exact Or.inr ⟨[], leg, rest, rfl, List.forall_mem_nil _, active⟩

namespace Ledger

/-! ### What a request comes to -/

/-- A request whose own data are in order, for which every account is active, holds what goes from it, and
has room for what comes to it. -/
def Accepted (ceilings : Ceilings) (movement : Movement) (amount description : Value)
    (database : Database) : Prop :=
  ∃ exact content, WellPut ceilings movement amount description exact content ∧
    ∀ leg ∈ movement.legs, database.Active leg.1 ∧ database.Covers exact.toRat leg ∧
      database.HasRoom exact.toRat leg

/-- The failure of the first check that a request does not pass; every case has passed all the checks of
the cases above it. -/
inductive Refused (ceilings : Ceilings) (movement : Movement) (amount description : Value)
    (database : Database) : LedgerFailure → Prop
  | inexact {fault : AmountFault} :
      Money.ofValue amount = .error (.ledger (.invalidAmount fault)) →
      Refused ceilings movement amount description database (.invalidAmount fault)
  | outOfBounds {exact bound : Decimal} {ceiling : Value} :
      Money.ofValue amount = .ok exact → ceilings.of? movement.kind = some ceiling →
      ceiling.number? = some bound → bound.isFinite = true →
      ¬(0 < exact.toRat ∧ exact.toRat ≤ bound.toRat) →
      Refused ceilings movement amount description database
        (.invalidAmount (.outOfBounds movement.kind ceiling exact))
  | notText {exact : Decimal} :
      ceilings.Admits movement.kind amount exact → (∀ content, description ≠ .text content) →
      Refused ceilings movement amount description database
        (.invalidDescription (.notText description))
  | tooLong {exact : Decimal} {content : String} :
      ceilings.Admits movement.kind amount exact → description = .text content →
      255 < content.length →
      Refused ceilings movement amount description database (.invalidDescription .tooLong)
  | sameAccount {exact : Decimal} {content : String} {account : Int} :
      ceilings.Admits movement.kind amount exact → Described description content →
      movement = .transfer account account →
      Refused ceilings movement amount description database (.sameAccount (.integer account))
  | accountNotFound {exact : Decimal} {content : String} {earlier later : List (Int × Direction)}
      {leg : Int × Direction} :
      WellPut ceilings movement amount description exact content →
      movement.legs = earlier ++ leg :: later → (∀ other ∈ earlier, database.Active other.1) →
      database.account? leg.1 = none →
      Refused ceilings movement amount description database (.accountNotFound (.integer leg.1))
  | accountNotActive {exact : Decimal} {content : String} {earlier later : List (Int × Direction)}
      {leg : Int × Direction} {row : AccountRow} :
      WellPut ceilings movement amount description exact content →
      movement.legs = earlier ++ leg :: later → (∀ other ∈ earlier, database.Active other.1) →
      database.account? leg.1 = some row → row.status ≠ .active →
      Refused ceilings movement amount description database
        (.accountNotActive (.integer leg.1) row.status)
  | insufficientFunds {exact balance : Decimal} {content : String} {id : Int} {row : AccountRow} :
      WellPut ceilings movement amount description exact content →
      (∀ leg ∈ movement.legs, database.Active leg.1) → (id, .debit) ∈ movement.legs →
      database.account? id = some row → Money.readText row.balance = .ok balance →
      balance.toRat < exact.toRat →
      Refused ceilings movement amount description database
        (.insufficientFunds (.integer id) (.decimal balance) (.decimal exact))
  | noRoom {exact : Decimal} {content : String} {id : Int} {row : AccountRow} :
      WellPut ceilings movement amount description exact content →
      (∀ leg ∈ movement.legs, database.Active leg.1) →
      (∀ leg ∈ movement.legs, database.Covers exact.toRat leg) → (id, .credit) ∈ movement.legs →
      database.account? id = some row → 10 ^ 26 ≤ Money.worth row.balance + exact.toRat →
      Refused ceilings movement amount description database (.outage (.refused movement.kind))

variable {engine : Engine} {movement : Movement} {amount description : Value} {ledger : Ledger}

theorem Undisturbed.fits (undisturbed : ledger.Undisturbed engine movement) :
    ∀ leg ∈ movement.legs, fitsWord leg.1 = true := fun _ member ↦
  undisturbed.words _ (movement.accounts_eq_legs ▸ List.mem_map_of_mem member)

/-- What goes is there, or an account has too little. -/
theorem covers_or_less {database : Database} (solvent : database.Solvent)
    {legs : List (Int × Direction)} (active : ∀ leg ∈ legs, database.Active leg.1) (amount : ℚ) :
    (∀ leg ∈ legs, database.Covers amount leg) ∨
      ∃ id row balance, (id, .debit) ∈ legs ∧ database.account? id = some row ∧
        Money.readText row.balance = .ok balance ∧ balance.toRat < amount := by
  refine or_iff_not_imp_left.2 fun uncovered ↦ ?_
  push Not at uncovered
  obtain ⟨⟨id, direction⟩, member, short⟩ := uncovered
  obtain ⟨row, found, -⟩ := active _ member
  obtain ⟨cents, stored, -⟩ := solvent id row found
  obtain ⟨balance, text, -, worth⟩ := Money.readText_of_storedCents stored
  unfold Database.Covers at short
  push Not at short
  obtain ⟨rfl, short⟩ := short
  have less := short row found
  rw [Money.worth_of_storedCents stored, ← worth] at less
  exact ⟨id, row, balance, member, found, text, less⟩

/-- What comes has room, or an account has too much. -/
theorem hasRoom_or_full {database : Database} {legs : List (Int × Direction)}
    (active : ∀ leg ∈ legs, database.Active leg.1) (amount : ℚ) :
    (∀ leg ∈ legs, database.HasRoom amount leg) ∨
      ∃ id row, (id, .credit) ∈ legs ∧ database.account? id = some row ∧
        10 ^ 26 ≤ Money.worth row.balance + amount := by
  refine or_iff_not_imp_left.2 fun crowded ↦ ?_
  push Not at crowded
  obtain ⟨⟨id, direction⟩, member, full⟩ := crowded
  obtain ⟨row, found, -⟩ := active _ member
  unfold Database.HasRoom at full
  push Not at full
  obtain ⟨rfl, full⟩ := full
  exact ⟨id, row, member, found, full row found⟩

/-- The data of a request are in order, or there is a first check of them that it does not pass, and the
engine ends there. -/
theorem wellPut_or_refused (movement : Movement) (description : Value)
    (complete : engine.ceilings.Complete) (judgeable : amount.IsJudgeable) (database : Database)
    (ledger : Ledger) :
    (∃ exact content, WellPut engine.ceilings movement amount description exact content) ∨
      ∃ named, Refused engine.ceilings movement amount description database named ∧
        ∃ after, prepare engine movement amount description ledger =
          (.error (.ledger named), after) := by
  obtain ⟨ceiling, bound, there, number, finite⟩ := complete movement.kind
  -- One check after the other, in the order of the engine: it fails, or the next one counts.
  rcases Money.ofValue_judged judgeable with ⟨exact, exactly⟩ | ⟨fault, refused⟩
  swap
  · exact Or.inr ⟨_, .inexact refused,
      (checkAmount_refused refused ledger).imp fun _ ↦ prepare_of_amount⟩
  by_cases inside : 0 < exact.toRat ∧ exact.toRat ≤ bound.toRat
  swap
  · exact Or.inr ⟨_, .outOfBounds exactly there number finite inside,
      (checkAmount_outOfBounds exactly there number finite inside ledger).imp
        fun _ ↦ prepare_of_amount⟩
  have admits : engine.ceilings.Admits movement.kind amount exact :=
    ⟨exactly, inside.1, ceiling, bound, there, number, finite, inside.2⟩
  by_cases isText : ∃ content, description = .text content
  swap
  · exact Or.inr ⟨_, .notText admits (not_exists.1 isText),
      (checkText_notText (not_exists.1 isText) ledger).imp fun _ ↦ prepare_of_text admits⟩
  obtain ⟨content, isText⟩ := isText
  by_cases short : content.length ≤ 255
  swap
  · exact Or.inr ⟨_, .tooLong admits isText (Nat.not_le.1 short),
      (checkText_tooLong isText (Nat.not_le.1 short) ledger).imp fun _ ↦ prepare_of_text admits⟩
  by_cases same : ∃ account, movement = .transfer account account
  · obtain ⟨account, rfl⟩ := same
    exact Or.inr ⟨_, .sameAccount admits ⟨isText, short⟩ rfl,
      (checkAccounts_same account ledger).imp fun _ ↦ prepare_of_accounts admits ⟨isText, short⟩⟩
  exact Or.inl ⟨exact, content, admits, ⟨isText, short⟩, not_exists.1 same⟩

/-- A request is accepted, or there is a first check that it does not pass. -/
theorem accepted_or_refused (complete : engine.ceilings.Complete)
    (solvent : ledger.storage.database.Solvent)
    (offered : (∃ content, amount = .text content) ∨ ∃ number, amount = .decimal number) :
    Accepted engine.ceilings movement amount description ledger.storage.database ∨
      ∃ named, Refused engine.ceilings movement amount description ledger.storage.database named := by
  have judgeable := Value.isJudgeable_of_offered offered
  rcases wellPut_or_refused movement description complete judgeable ledger.storage.database ledger with
    ⟨exact, content, wellPut⟩ | ⟨named, refused, -⟩
  swap
  · exact Or.inr ⟨named, refused⟩
  -- The accounts come behind the data of the request, and again one check after the other.
  rcases ledger.storage.database.active_or_first movement.legs with active |
    ⟨earlier, leg, later, legs, before, inactive⟩
  swap
  · cases found : ledger.storage.database.account? leg.1 with
    | none => exact Or.inr ⟨_, .accountNotFound wellPut legs before found⟩
    | some row =>
      exact Or.inr ⟨_, .accountNotActive wellPut legs before found fun isActive ↦
        inactive ⟨row, found, isActive⟩⟩
  rcases covers_or_less solvent active exact.toRat with covers |
    ⟨id, row, balance, debited, found, text, less⟩
  swap
  · exact Or.inr ⟨_, .insufficientFunds wellPut active debited found text less⟩
  rcases hasRoom_or_full active exact.toRat with room | ⟨id, row, credited, found, full⟩
  swap
  · exact Or.inr ⟨_, .noRoom wellPut active covers credited found full⟩
  exact Or.inl ⟨exact, content, wellPut, fun leg member ↦
    ⟨active leg member, covers leg member, room leg member⟩⟩

/-! ### What the engine makes of it -/

/-- A request that is accepted gives a record. -/
theorem post_of_accepted (undisturbed : ledger.Undisturbed engine movement)
    (accepted : Accepted engine.ceilings movement amount description ledger.storage.database) :
    ∃ record, (post engine movement amount description ledger).1 = .ok record := by
  obtain ⟨exact, content, wellPut, each⟩ := accepted
  obtain ⟨cents, moves⟩ := moves_of_wellPut wellPut ledger
  refine post_of_applied undisturbed wellPut ?_
  exact Work.applyPosting_calm undisturbed.calm undisturbed.wellKept moves undisturbed.fits
    (fun leg member ↦ (each leg member).1) (fun leg member ↦ (each leg member).2.1)
    (fun leg member ↦ (each leg member).2.2) undisturbed.fresh

/-- A request of which a check is not passed before any account is touched ends with the failure of it. -/
theorem post_of_prepare {failure : Failure}
    (refused : ∃ after, prepare engine movement amount description ledger = (.error failure, after)) :
    (post engine movement amount description ledger).1 = .error failure := by
  obtain ⟨after, refused⟩ := refused
  rw [post_eq_prepare, run_bind, refused]

/-- A request that is not accepted ends with the failure of the first check that it does not pass. -/
theorem post_of_refusal (undisturbed : ledger.Undisturbed engine movement) {named : LedgerFailure}
    (refused : Refused engine.ceilings movement amount description ledger.storage.database named) :
    (post engine movement amount description ledger).1 = .error (.ledger named) := by
  cases refused with
  | inexact refused =>
    exact post_of_prepare ((checkAmount_refused refused ledger).imp fun _ ↦ prepare_of_amount)
  | outOfBounds exactly there number finite outside =>
    exact post_of_prepare ((checkAmount_outOfBounds exactly there number finite outside ledger).imp
      fun _ ↦ prepare_of_amount)
  | notText admits noText =>
    exact post_of_prepare ((checkText_notText noText ledger).imp fun _ ↦ prepare_of_text admits)
  | tooLong admits isText long =>
    exact post_of_prepare ((checkText_tooLong isText long ledger).imp fun _ ↦ prepare_of_text admits)
  | sameAccount admits described same =>
    subst same
    exact post_of_prepare ((checkAccounts_same _ ledger).imp fun _ ↦
      prepare_of_accounts admits described)
  | accountNotFound wellPut legs before missing =>
    exact post_of_refused undisturbed wellPut (Work.applyPosting_missing undisturbed.calm
      undisturbed.wellKept legs undisturbed.fits before missing) rfl
  | accountNotActive wellPut legs before found inactive =>
    exact post_of_refused undisturbed wellPut (Work.applyPosting_inactive undisturbed.calm
      undisturbed.wellKept legs undisturbed.fits before found inactive) rfl
  | insufficientFunds wellPut active debited found text less =>
    obtain ⟨cents, moves⟩ := moves_of_wellPut wellPut ledger
    obtain ⟨later, legs⟩ := Movement.legs_of_debit debited
    exact post_of_refused undisturbed wellPut (Work.applyPosting_insufficient undisturbed.calm
      undisturbed.wellKept moves legs undisturbed.fits active found text less) rfl
  | noRoom wellPut active covers credited found full =>
    obtain ⟨cents, moves⟩ := moves_of_wellPut wellPut ledger
    have noRoom : ¬ledger.storage.database.HasRoom _ (_, .credit) := fun room ↦ by
      obtain ⟨row, found', below⟩ := room rfl
      obtain rfl := Option.some.inj (found.symm.trans found')
      exact absurd below (not_lt.2 full)
    exact post_of_refused undisturbed wellPut (Work.applyPosting_unstorable undisturbed.calm
      undisturbed.wellKept moves undisturbed.fits active covers ⟨_, credited, noRoom⟩) rfl

/-- Where no commit can go unreported, a record that is given is that of the movement applied exactly once,
and a failure that the ledger names leaves the tables as they were. -/
theorem post_leaves (undisturbed : ledger.Undisturbed engine movement)
    {outcome : Except Failure Record} {after : Ledger}
    (ran : post engine movement amount description ledger = (outcome, after)) :
    (∀ record, outcome = .ok record →
        ∃ row, Applied movement amount description row ledger.storage after.storage ∧
          row.read = .ok record) ∧
      ∀ named, outcome = .error (.ledger named) →
        after.storage.database = ledger.storage.database := by
  have reported : ledger.storage.unreported = 0 := by
    rw [Storage.unreported, undisturbed.faults]
    rfl
  rcases post_cases engine movement amount description undisturbed.intrusions ran with
    ⟨failure, rfl, kept⟩ |
    ⟨posting, cents, settled, asked, reference, moves, settlement, rfl | ⟨failure, rfl, unnamed⟩⟩
  · exact ⟨fun _ given ↦ (nomatch given), fun _ _ ↦ kept.1⟩
  · cases settlement with
    | refused failure kept => exact ⟨fun _ given ↦ (nomatch given), fun _ _ ↦ kept.1⟩
    | known record row found isRead kept =>
      rw [reference, undisturbed.fresh] at found
      cases found
    | applied record row posted isRead =>
      refine ⟨fun _ given ↦ ?_, fun _ refused ↦ nomatch refused⟩
      obtain rfl := Except.ok.inj given
      exact ⟨row, ⟨posting, cents, asked, reference, moves, posted⟩, isRead⟩
    | unreported failure row posted unreported =>
      rw [reported] at unreported
      cases unreported
  -- Only the locks can fail after the posting, with a failure that the ledger does not name.
  · exact ⟨fun _ given ↦ (nomatch given), fun named refused ↦
      absurd (Except.error.inj refused) (unnamed named)⟩

/-- The complete outcome of moving money while nothing disturbs it: a record exactly if the request is
accepted, and otherwise exactly the failure of the first check that it does not pass. A record is that of
the movement applied exactly once, and a failure leaves the tables as they were. -/
theorem post_outcome (engine : Engine) (movement : Movement) (amount description : Value)
    (ledger : Ledger) (undisturbed : ledger.Undisturbed engine movement)
    (offered : (∃ content, amount = .text content) ∨ ∃ number, amount = .decimal number) :
    let database := ledger.storage.database
    let outcome := (post engine movement amount description ledger).1
    let after := (post engine movement amount description ledger).2.storage
    ((∃ record, outcome = .ok record) ↔
        Accepted engine.ceilings movement amount description database) ∧
      (∀ failure, outcome = .error failure ↔ ∃ named, failure = .ledger named ∧
        Refused engine.ceilings movement amount description database named) ∧
      (∀ record, outcome = .ok record →
        ∃ row, Applied movement amount description row ledger.storage after ∧
          row.read = .ok record) ∧
      ∀ failure, outcome = .error failure → after.database = database := by
  intro database outcome after
  have given : Accepted engine.ceilings movement amount description database →
      ∃ record, outcome = .ok record := post_of_accepted undisturbed
  have failed (named : LedgerFailure) :
      Refused engine.ceilings movement amount description database named →
        outcome = .error (.ledger named) := post_of_refusal undisturbed
  have either : Accepted engine.ceilings movement amount description database ∨
      ∃ named, Refused engine.ceilings movement amount description database named :=
    accepted_or_refused undisturbed.ceilings undisturbed.wellKept.solvent offered
  have failed_iff (failure : Failure) : outcome = .error failure ↔ ∃ named,
      failure = .ledger named ∧
        Refused engine.ceilings movement amount description database named := by
    constructor
    · intro ended
      rcases either with accepted | ⟨named, refused⟩
      · obtain ⟨record, same⟩ := given accepted
        cases same.symm.trans ended
      · exact ⟨named, Except.error.inj (ended.symm.trans (failed named refused)), refused⟩
    · rintro ⟨named, rfl, refused⟩
      exact failed named refused
  obtain ⟨applied, unchanged⟩ := post_leaves undisturbed
    (Prod.eta (post engine movement amount description ledger)).symm
  refine ⟨⟨?_, given⟩, failed_iff, applied, ?_⟩
  · rintro ⟨record, ended⟩
    rcases either with accepted | ⟨named, refused⟩
    · exact accepted
    · cases (failed named refused).symm.trans ended
  · intro failure ended
    obtain ⟨named, rfl, -⟩ := (failed_iff failure).1 ended
    exact unchanged named ended

/-- Two active accounts, of which the first holds a hundred. -/
def twoActive : Ledger where
  storage := {
    database := {
      accounts := [⟨1, "ACC0000000001", 1, .checking, .active, "100.00", 1⟩,
        ⟨2, "ACC0000000002", 2, .savings, .active, "0.00", 1⟩] } }

/-- An engine that moves no more than so much at once. -/
def moving (most : Int) : Engine where
  ceilings := ⟨[(.deposit, .integer most), (.withdrawal, .integer most), (.transfer, .integer most),
    (.interest, .integer most)]⟩
  lockTimeout := .integer 0
  retry := .ok ⟨1, .integer 0, by decide⟩

theorem undisturbed_twoActive (most : Int) :
    twoActive.Undisturbed (moving most) (.transfer 1 2) where
  faults := rfl
  intrusions := rfl
  reachable := rfl
  wellKept := by
    constructor
    · intro id row found
      obtain ⟨member, -⟩ := Database.mem_of_account? found
      rcases List.mem_pair.1 member with rfl | rfl
      · exact ⟨10000, by decide +kernel, by decide⟩
      · exact ⟨0, by decide +kernel, by decide⟩
    · intro id row found
      obtain ⟨member, -⟩ := Database.mem_of_account? found
      rcases List.mem_pair.1 member with rfl | rfl <;> rfl
  fresh := rfl
  words := by decide
  ceilings kind := by
    cases kind <;> exact ⟨_, _, rfl, rfl, rfl⟩
  tries := ⟨_, rfl⟩
  waits := ⟨_, rfl, by decide +kernel⟩
  coherent := LockTable.coherent_empty
  free _ _ := rfl

theorem accepted_twoActive :
    Accepted (moving 1000).ceilings (.transfer 1 2) (.decimal (.finite false 1234 (-2)))
      (.text "Rent") twoActive.storage.database := by
  have amount : (Decimal.finite false 1234 (-2)).toRat = 12.34 := by
    norm_num [Decimal.toRat, Decimal.signed]
  have ceiling : (Decimal.finite false 1000 0).toRat = 1000 := by
    norm_num [Decimal.toRat, Decimal.signed]
  have admits : (moving 1000).ceilings.Admits .transfer (.decimal (.finite false 1234 (-2)))
      (.finite false 1234 (-2)) := by
    refine ⟨rfl, ?_, .integer 1000, .finite false 1000 0, rfl, rfl, rfl, ?_⟩
    · norm_num [amount]
    · norm_num [amount, ceiling]
  have hundred : Money.storedCents? "100.00" = some 10000 := by decide +kernel
  have nothing : Money.storedCents? "0.00" = some 0 := by decide +kernel
  refine ⟨.finite false 1234 (-2), "Rent", ⟨admits, ⟨rfl, by decide⟩, ?_⟩, fun leg member ↦ ?_⟩
  · rintro account ⟨⟩
  · rcases List.mem_pair.1 member with rfl | rfl
    · refine ⟨⟨_, rfl, rfl⟩, fun _ ↦ ⟨_, rfl, ?_⟩, fun isCredit ↦ by cases isCredit⟩
      norm_num [amount, Money.worth_of_storedCents hundred]
    · refine ⟨⟨_, rfl, rfl⟩, fun isDebit ↦ (by cases isDebit), fun _ ↦ ⟨_, rfl, ?_⟩⟩
      norm_num [amount, Money.worth_of_storedCents nothing]

/-- A transfer that is accepted gives the record of what was applied. -/
theorem post_outcome_twoActive : ∃ record row,
    (post (moving 1000) (.transfer 1 2) (.decimal (.finite false 1234 (-2))) (.text "Rent")
        twoActive).1 = .ok record ∧
      Applied (.transfer 1 2) (.decimal (.finite false 1234 (-2))) (.text "Rent") row
        twoActive.storage
        (post (moving 1000) (.transfer 1 2) (.decimal (.finite false 1234 (-2))) (.text "Rent")
          twoActive).2.storage ∧
      row.read = .ok record := by
  obtain ⟨given, -, applied, -⟩ := post_outcome (moving 1000) (.transfer 1 2)
    (.decimal (.finite false 1234 (-2))) (.text "Rent") twoActive (undisturbed_twoActive 1000)
    (Or.inr ⟨_, rfl⟩)
  obtain ⟨record, ended⟩ := given.2 accepted_twoActive
  obtain ⟨row, done, isRead⟩ := applied record ended
  exact ⟨record, row, ended, done, isRead⟩

end Ledger

end Passbook
