import Passbook.Proofs.Money.RoundTrip
import Passbook.Proofs.Storage.Calls
import Passbook.Proofs.Storage.Calm

/-!
What stands in the balances of the accounts. The column takes the nearest cents of a value if they are not below
zero. It also takes what is no number at all, since the rule of the column sees nothing in the text of that
(`Money.Takes`). Whatever else is offered, the tables stay as they were (`settles_writeBalance`,
`settles_addAccount`). Main statement: after any units of work, every balance is a finite number with two
decimals that is not below zero, unless a caller has offered what is no number (`StoreCall.balances_kept`).
-/

set_option autoImplicit false
set_option relaxedAutoImplicit false

namespace Passbook

open Procedure Session Work

/-- A value that is read, but as no number. -/
def Value.IsNoNumber (given : Value) : Prop :=
  ∃ read, given.toDecimal = .ok read ∧ read.isNotNumber = true

namespace Money

/-- A finite number that is not below zero, written out with two decimals. -/
structure IsBalance (content : String) : Prop where
  plain : Decimal.IsPlainAmount content.toList
  notBelow : ∃ cents, storedCents? content = some cents ∧ 0 ≤ cents

/-- What the column of balances takes for a value. -/
inductive Takes (given : Value) : String → Prop
  | amount (cents : Decimal) (units : Int) : rounded given = .ok cents → cents.cents? = some units →
      0 ≤ units → Takes given cents.text
  | notNumber (cents : Decimal) : rounded given = .ok cents → cents.isNotNumber = true →
      Takes given cents.text

variable {given : Value} {content : String} {cents : Decimal}

/-- The column takes what keeps its rule. -/
theorem takes_iff :
    Takes given content ↔
      ∃ cents, rounded given = .ok cents ∧ balanceHolds cents.text = true ∧ content = cents.text := by
  constructor
  · rintro (⟨cents, units, brought, whole, notBelow⟩ | ⟨cents, brought, none⟩)
    · exact ⟨cents, brought, (balanceHolds_rounded brought).2 (Or.inr ⟨units, whole, notBelow⟩), rfl⟩
    · exact ⟨cents, brought, (balanceHolds_rounded brought).2 (Or.inl none), rfl⟩
  · rintro ⟨cents, brought, holds, rfl⟩
    rcases (balanceHolds_rounded brought).1 holds with none | ⟨units, whole, notBelow⟩
    · exact .notNumber cents brought none
    · exact .amount cents units brought whole notBelow

/-- Only what is no number is rounded to no number. -/
theorem isNoNumber_of_rounded (brought : rounded given = .ok cents) (none : cents.isNotNumber = true) :
    given.IsNoNumber := by
  obtain ⟨read, converted, quantized⟩ := rounded_ok brought
  refine ⟨read, converted, ?_⟩
  cases read with
  | notNumber => rfl
  | infinite => cases quantized
  | finite negative coefficient exponent =>
    rw [Decimal.quantize_finite] at quantized
    split at quantized
    · obtain rfl := Option.some.inj quantized
      cases none
    · cases quantized

/-- What the column takes is a balance, unless it is offered no number. -/
theorem Takes.isBalance (takes : Takes given content) : IsBalance content ∨ given.IsNoNumber := by
  cases takes with
  | amount cents units brought whole notBelow =>
    exact Or.inl ⟨Decimal.isPlainAmount_text whole, units, storedCents?_text whole, notBelow⟩
  | notNumber cents brought none => exact Or.inr (isNoNumber_of_rounded brought none)

/-- What the column takes for a number is the nearest whole number of cents. -/
theorem Takes.nearest (takes : Takes given content) {number : ℚ} (denotes : given.Denotes number) :
    ∃ units : ℤ, storedCents? content = some units ∧ 0 ≤ units ∧ IsRoundedEven (number * 100) units := by
  cases takes with
  | notNumber cents brought none =>
    obtain ⟨read, converted, isNone⟩ := isNoNumber_of_rounded brought none
    have finite := Value.isFinite_of_denotes denotes converted
    cases read with
    | finite | infinite => cases isNone
    | notNumber => cases finite
  | amount cents units brought whole notBelow =>
    obtain ⟨_, _, isCents, -, -⟩ := Decimal.cents?_eq_some whole
    obtain ⟨units', whole', -, isRounded⟩ := rounded_isRoundedEven brought (isCents ▸ rfl)
    obtain rfl : units = units' := Option.some.inj (whole.symm.trans whole')
    exact ⟨units, storedCents?_text whole, notBelow, isRounded number denotes⟩

end Money

/-! ### One call -/

namespace Work

/-- A balance is written as the column takes it, in the row of the version that was read, or the tables stay as
they were. -/
theorem settles_writeBalance (id version : Int) (given : Value) (session : Session) :
    let (outcome, after) := writeBalance id version given session
    (∃ row content, outcome = .ok true ∧ session.view.accountAt? id version = some row ∧
      Money.Takes given content ∧
      after.view = session.view.replace { row with balance := content, version := row.version + 1 }) ∨
      outcome ≠ .ok true ∧ after.view = session.view := by
  cases amends_writeBalance id version given session with
  | spared outcome after ended same tells =>
    rw [ended]
    exact Or.inr ⟨fun told ↦ absurd (tells true told).told (by decide), same.view⟩
  | wrote outcome middle after database ended same left written =>
    obtain ⟨told, row, cents, writes⟩ := written
    rw [ended]
    exact Or.inl ⟨row, cents.text, told, writes.found,
      Money.takes_iff.2 ⟨cents, writes.brought, writes.holds, rfl⟩, left.view.trans writes.written⟩

/-- A calm unit writes a balance in a row that is there exactly if the column takes it. -/
theorem writeBalance_iff {calm : Session} {id version : Int} {row : AccountRow} (isCalm : calm.Calm)
    (fits : fitsWord id = true) (fits' : fitsWord version = true)
    (found : calm.view.accountAt? id version = some row) (given : Value) :
    (writeBalance id version given calm).1 = .ok true ↔ ∃ content, Money.Takes given content := by
  constructor
  · intro told
    rcases settles_writeBalance id version given calm with ⟨_, content, -, -, takes, -⟩ | ⟨other, -⟩
    · exact ⟨content, takes⟩
    · exact absurd told other
  · rintro ⟨content, takes⟩
    obtain ⟨cents, brought, holds, -⟩ := Money.takes_iff.1 takes
    obtain ⟨after, wrote, -⟩ := writeBalance_calm isCalm fits fits' found brought holds
    rw [wrote]

/-- A new account begins with a balance as the column takes it, or there is none. -/
theorem settles_addAccount (new : NewAccount) (session : Session) :
    let (outcome, after) := addAccount new session
    (∃ row, Money.Takes new.opening row.balance ∧
      after.view = { session.view with accounts := session.view.accounts ++ [row] }) ∨
      outcome.isOk = false ∧ after.view = session.view := by
  cases amends_addAccount new session with
  | spared outcome after ended same tells =>
    rw [ended]
    cases outcome with
    | error failure => exact Or.inr ⟨rfl, same.view⟩
    | ok account => exact absurd rfl (tells account · |>.elim)
  | wrote outcome middle after database ended same left written =>
    obtain ⟨row, cents, opens, rfl, -⟩ := written
    rw [ended]
    exact Or.inl ⟨row, Money.takes_iff.2 ⟨cents, opens.brought, opens.holds, opens.balance⟩, left.view⟩

end Work

/-! ### Units -/

/-- The balance that a call offers. -/
def StoreCall.offered? : StoreCall → Option Value
  | .addAccount new => some new.opening
  | .writeBalance _ _ balance => some balance
  | _ => none

/-- Every balance is one that there was, or is as the column takes what the call offers. -/
theorem Database.Wrote.balances {before after : Database} {call : StoreCall} (wrote : before.Wrote call after) :
    ∀ row ∈ after.accounts, (∃ old ∈ before.accounts, row.balance = old.balance) ∨
      ∃ given ∈ call.offered?, Money.Takes given row.balance := by
  intro row member
  cases wrote with
  | balance id version given old cents _ writes =>
    rw [writes.written] at member
    obtain ⟨other, there, rfl⟩ := List.mem_map.1 member
    split
    · exact Or.inr ⟨given, rfl, Money.takes_iff.2 ⟨cents, writes.brought, writes.holds, rfl⟩⟩
    · exact Or.inl ⟨other, there, rfl⟩
  | status id version status old found =>
    obtain ⟨other, there, rfl⟩ := List.mem_map.1 member
    split
    · exact Or.inl ⟨old, mem_of_accountAt? found, rfl⟩
    · exact Or.inl ⟨other, there, rfl⟩
  | account new added cents opens =>
    rcases List.mem_append.1 member with there | isNew
    · exact Or.inl ⟨row, there, rfl⟩
    · obtain rfl := List.mem_singleton.1 isNew
      exact Or.inr ⟨new.opening, rfl, Money.takes_iff.2 ⟨cents, opens.brought, opens.holds, opens.balance⟩⟩
  | transaction | event => exact Or.inl ⟨row, member, rfl⟩

/-- All balances, those that a unit sees and the committed ones, are allowed, and nobody else writes any. -/
structure Session.Allows (allowed : String → Prop) (session : Session) : Prop where
  alone : session.IsAlone
  committed : ∀ row ∈ session.storage.database.accounts, allowed row.balance
  seen : ∀ row ∈ session.view.accounts, allowed row.balance

/-- A call keeps all balances allowed if what the column takes from it is. -/
theorem Session.Allows.of_goes {allowed : String → Prop} {before after : Session} {call : StoreCall}
    (offers : ∀ given ∈ call.offered?, ∀ content, Money.Takes given content → allowed content)
    (allows : before.Allows allowed) (goes : call.Goes before after) : after.Allows allowed := by
  cases goes with
  | looked looks =>
    obtain ⟨view, database, others⟩ := looks.tables allows.alone
    exact ⟨others.trans allows.alone, database ▸ allows.committed, view ▸ allows.seen⟩
  | wrote wrote kept others =>
    refine ⟨others.trans allows.alone, kept ▸ allows.committed, fun row member ↦ ?_⟩
    rcases wrote.balances row member with ⟨old, there, same⟩ | ⟨given, isOffered, takes⟩
    · exact same ▸ allows.seen old there
    · exact offers given isOffered _ takes
  | committed _ seen made others =>
    exact ⟨others.trans allows.alone, made ▸ allows.seen, seen ▸ allows.seen⟩
  | rolledBack _ seen kept others =>
    exact ⟨others.trans allows.alone, kept ▸ allows.committed, seen ▸ allows.committed⟩

namespace StoreCall

/-- Units one after the other. -/
def units : List (List StoreCall) → Storage → Storage
  | [], storage => storage
  | calls :: rest, storage => units rest (unit calls storage)

/-- Units keep all balances allowed if what the column takes from them is. -/
theorem units_allow {allowed : String → Prop} {all : List (List StoreCall)}
    (offers : ∀ calls ∈ all, ∀ call ∈ calls, ∀ given ∈ call.offered?, ∀ content,
      Money.Takes given content → allowed content) {storage : Storage} (alone : storage.intrusions = [])
    (begins : ∀ row ∈ storage.database.accounts, allowed row.balance) :
    ∀ row ∈ (units all storage).database.accounts, allowed row.balance := by
  induction all generalizing storage with
  | nil => exact begins
  | cons calls rest ih =>
    have allows : ((calls.forM work) (opened storage)).2.Allows allowed :=
      forM_induct (Session.Allows allowed)
        (fun call member _ _ allows goes ↦
          allows.of_goes (offers calls List.mem_cons_self call member) goes)
        ⟨alone, begins, begins⟩
    rw [units, unit_eq]
    exact ih (fun others member ↦ offers others (List.mem_cons_of_mem _ member)) allows.alone allows.committed

/-- After units of whatever calls every balance is a finite number with two decimals that is not below zero,
unless a caller has offered what is no number and that is what stands there. A call that offers a balance writes
it as the column takes it or leaves the tables as they were, and a calm unit writes it in a row that is there
exactly if the column takes it; what it takes for a number is the nearest whole number of cents. -/
theorem balances_kept {storage : Storage} (alone : storage.intrusions = [])
    (begins : ∀ row ∈ storage.database.accounts, Money.IsBalance row.balance) (all : List (List StoreCall)) :
    (∀ row ∈ (units all storage).database.accounts, Money.IsBalance row.balance ∨
      ∃ calls ∈ all, ∃ call ∈ calls, ∃ given ∈ call.offered?,
        given.IsNoNumber ∧ Money.Takes given row.balance) ∧
    (∀ (session : Session) (id version : Int) (given : Value),
      let (outcome, after) := Work.writeBalance id version given session
      ((∃ row content, outcome = .ok true ∧ session.view.accountAt? id version = some row ∧
        Money.Takes given content ∧
        after.view = session.view.replace { row with balance := content, version := row.version + 1 }) ∨
        outcome ≠ .ok true ∧ after.view = session.view) ∧
      (session.Calm → fitsWord id = true → fitsWord version = true →
        (session.view.accountAt? id version).isSome = true →
          (outcome = .ok true ↔ ∃ content, Money.Takes given content))) ∧
    (∀ (session : Session) (new : NewAccount),
      let (outcome, after) := Work.addAccount new session
      (∃ row, Money.Takes new.opening row.balance ∧
        after.view = { session.view with accounts := session.view.accounts ++ [row] }) ∨
        outcome.isOk = false ∧ after.view = session.view) ∧
    ∀ (given : Value) (content : String) (number : ℚ), Money.Takes given content → given.Denotes number →
      ∃ units : ℤ, Money.storedCents? content = some units ∧ 0 ≤ units ∧
        IsRoundedEven (number * 100) units := by
  refine ⟨?_, fun session id version given ↦ ⟨settles_writeBalance id version given session, ?_⟩,
    fun session new ↦ settles_addAccount new session, fun given content number takes denotes ↦
      takes.nearest denotes⟩
  · let allowed (content : String) : Prop := Money.IsBalance content ∨
      ∃ calls ∈ all, ∃ call ∈ calls, ∃ given ∈ call.offered?, given.IsNoNumber ∧ Money.Takes given content
    have offers : ∀ calls ∈ all, ∀ call ∈ calls, ∀ given ∈ call.offered?, ∀ content,
        Money.Takes given content → allowed content := fun calls member call member' given isOffered _ takes ↦
      takes.isBalance.imp_right fun none ↦ ⟨calls, member, call, member', given, isOffered, none, takes⟩
    exact units_allow offers alone fun row member ↦ Or.inl (begins row member)
  · intro isCalm fits fits' there
    obtain ⟨row, found⟩ := Option.isSome_iff_exists.1 there
    exact writeBalance_iff isCalm fits fits' found given

/-- An account that is offered no number as its balance keeps the text of that. -/
theorem balances_kept_noNumber :
    let all : List (List StoreCall) :=
      [[.addAccount { owner := some 1, kind := .checking }, .commit],
        [.writeBalance 1 1 (.decimal (.notNumber false false 0)), .commit]]
    (units all {}).database.accounts.map (·.balance) = ["NaN"] ∧ ¬Money.IsBalance "NaN" ∧
      ∃ calls ∈ all, ∃ call ∈ calls, ∃ given ∈ call.offered?, given.IsNoNumber ∧ Money.Takes given "NaN" := by
  intro all
  have stored : (units all {}).database.accounts.map (·.balance) = ["NaN"] := by decide +kernel
  have isNone : ¬Money.IsBalance "NaN" := by
    rintro ⟨-, cents, there, -⟩
    have none : Money.storedCents? "NaN" = none := by decide +kernel
    rw [none] at there
    cases there
  obtain ⟨row, member, same⟩ := List.mem_map.1 (stored ▸ List.mem_singleton_self "NaN")
  have kept := (balances_kept rfl (fun _ none ↦ by cases none) all).1 row member
  rw [same] at kept
  exact ⟨stored, isNone, kept.resolve_left isNone⟩

end StoreCall

end Passbook
