import Mathlib.Data.List.Find
import Passbook.Proofs.Ledger.Request
import Passbook.Proofs.Money.RoundTrip
import Passbook.Proofs.Storage.Calls
import Passbook.Proofs.Storage.Lookups

/-!
Account numbers identify accounts. The id can be read off a number, however long it is and whatever its sign
(`Account.idOf_numberOf`). In a register every account has an id of its own and the number that belongs to it,
and can be read (`Database.Registered`); every call keeps both the tables that a unit sees and the committed ones
registers, whether it fails or not (`Session.Filed.of_goes`). Main statement: whatever units of callers and
openings have led to, no number is used twice, none is ever refused because it was, and accounts are found by
number and by owner exactly as they are in the tables (`Database.Populated.identified`). An owner whose number
the store cannot hold has no accounts, but to ask for them fails.
-/

set_option autoImplicit false
set_option relaxedAutoImplicit false

namespace Passbook

open Procedure Session Work
open StoreCall (afterAll)

namespace Account

/-- The id that a number was made of. -/
def idOf (number : String) : Int :=
  let (negative, shown) := Decimal.splitSign (number.toList.drop "ACC".length)
  let magnitude : Int := Text.ofDigits (Text.digitValues shown)
  if negative then -magnitude else magnitude

/-- The id can be read off the number, with zeros behind its sign or without. -/
theorem idOf_numberOf (id : Int) : idOf (numberOf id) = id := by
  obtain ⟨zeros, shape⟩ : ∃ zeros, padded 10 id =
      Decimal.signText (decide (id < 0)) ++ (List.replicate zeros '0' ++ Text.digits id.natAbs) :=
    ⟨10 - (if id < 0 then ['-'] else []).length - (Text.digits id.natAbs).length,
      by simp [padded, Decimal.signText]⟩
  have denotes := Text.ofDigits_zeros_digits zeros id.natAbs
  have plain : ∀ c ∈ List.replicate zeros '0' ++ Text.digits id.natAbs, c.isDigit = true :=
    Text.isDigit_of_mem_zeros_digits
  have nonempty : List.replicate zeros '0' ++ Text.digits id.natAbs ≠ [] :=
    List.append_ne_nil_of_right_ne_nil _ (List.ne_nil_of_length_pos (Decimal.digitCount_pos _))
  generalize List.replicate zeros '0' ++ Text.digits id.natAbs = shown at *
  obtain ⟨first, others, rfl⟩ := List.exists_cons_of_ne_nil nonempty
  have split := Decimal.splitSign_signText (decide (id < 0)) others (plain first List.mem_cons_self)
  have behind : ("ACC".toList ++ padded 10 id).drop "ACC".length = padded 10 id := rfl
  rw [numberOf, idOf, String.toList_ofList, behind, shape, split]
  dsimp only
  rw [denotes]
  by_cases below : id < 0
  · simp only [below, decide_true, if_true]
    omega
  · simp only [below, decide_false, Bool.false_eq_true, if_false]
    omega

theorem numberOf_injective : Function.Injective numberOf := Function.LeftInverse.injective idOf_numberOf

end Account

/-! ### Registers -/

/-- Every account has an id of its own and the number that belongs to it, its balance can be read, and its owner
is one that the store can hold. -/
structure Database.Registered (database : Database) : Prop where
  ids : (database.accounts.map (·.id)).Nodup
  numbered : ∀ row ∈ database.accounts, row.number = Account.numberOf row.id
  readable : ∀ row ∈ database.accounts, ∃ account, row.read = .ok account
  owners : ∀ row ∈ database.accounts, fitsWord row.owner = true

namespace Database

variable {database before after : Database} {row old : AccountRow}

theorem registered_empty : Registered {} :=
  ⟨.nil, List.forall_mem_nil _, List.forall_mem_nil _, List.forall_mem_nil _⟩

namespace Registered

/-- No number is used twice. -/
theorem numbers (registered : database.Registered) : (database.accounts.map (·.number)).Nodup := by
  have same : database.accounts.map (·.number) = (database.accounts.map (·.id)).map Account.numberOf := by
    rw [List.map_map]
    exact List.map_congr_left registered.numbered
  rw [same]
  exact registered.ids.map Account.numberOf_injective

/-- A number is used if its id is. -/
theorem accountNumbered?_numberOf (registered : database.Registered) (id : Int) :
    database.accountNumbered? (Account.numberOf id) = database.account? id := by
  refine List.find?_congr fun row member ↦ ?_
  rw [registered.numbered row member, Bool.eq_iff_iff, beq_iff_eq, beq_iff_eq]
  exact Account.numberOf_injective.eq_iff

/-- A register remains one if a row of it changes neither its id, its number nor its owner and can be read. -/
theorem replace (registered : database.Registered) (member : old ∈ database.accounts) (same : row.id = old.id)
    (number : row.number = old.number) (owner : row.owner = old.owner)
    (readable : ∃ account, row.read = .ok account) : (database.replace row).Registered := by
  have cases' : ∀ other ∈ (database.replace row).accounts, other = row ∨ other ∈ database.accounts := by
    intro other there
    obtain ⟨first, isRow, rfl⟩ := List.mem_map.1 there
    split
    · exact Or.inl rfl
    · exact Or.inr isRow
  refine ⟨?_, fun other there ↦ ?_, fun other there ↦ ?_, fun other there ↦ ?_⟩
  · rw [ids_replace]
    exact registered.ids
  · rcases cases' other there with rfl | there
    · rw [number, same, registered.numbered old member]
    · exact registered.numbered other there
  · rcases cases' other there with rfl | there
    · exact readable
    · exact registered.readable other there
  · rcases cases' other there with rfl | there
    · exact owner ▸ registered.owners old member
    · exact registered.owners other there

/-- The row that a new account becomes belongs into the register. -/
theorem addAccount (registered : database.Registered) {new : NewAccount} {cents : Decimal}
    (opens : Opens new database cents row) : (database.addAccount row).Registered := by
  have isNew : ∀ other ∈ database.accounts, other.id ≠ row.id := by
    simpa [account?] using opens.unused
  have readable : row.read = .ok _ :=
    AccountRow.read_of_readText (opens.balance ▸ Money.readText_rounded opens.brought)
  refine ⟨?_, ?_, ?_, ?_⟩
  · change ((database.accounts ++ [row]).map (·.id)).Nodup
    rw [List.map_append, List.nodup_append]
    refine ⟨registered.ids, List.nodup_singleton _, fun id there other last ↦ ?_⟩
    obtain ⟨first, isRow, rfl⟩ := List.mem_map.1 there
    obtain rfl := List.mem_singleton.1 last
    exact isNew first isRow
  · exact List.forall_mem_append.2 ⟨registered.numbered, List.forall_mem_singleton.2 opens.number⟩
  · exact List.forall_mem_append.2 ⟨registered.readable, List.forall_mem_singleton.2 ⟨_, readable⟩⟩
  · exact List.forall_mem_append.2 ⟨registered.owners, List.forall_mem_singleton.2 opens.fits⟩

end Registered

/-- The row that a call writes leaves a register. -/
theorem Wrote.registered {call : StoreCall} (wrote : before.Wrote call after) (registered : before.Registered) :
    after.Registered := by
  cases wrote with
  | balance id version given old cents _ writes =>
    rw [writes.written]
    exact registered.replace (mem_of_accountAt? writes.found) rfl rfl rfl
      ⟨_, AccountRow.read_of_readText (Money.readText_rounded writes.brought)⟩
  | status id version status old found =>
    obtain ⟨account, isRead⟩ := registered.readable old (mem_of_accountAt? found)
    obtain ⟨balance, text, -⟩ := AccountRow.read_ok isRead
    exact registered.replace (mem_of_accountAt? found) rfl rfl rfl ⟨_, AccountRow.read_of_readText text⟩
  | account new row cents opens => exact registered.addAccount opens
  | transaction | event => exact ⟨registered.ids, registered.numbered, registered.readable, registered.owners⟩

end Database

/-! ### Units -/

/-- Both the tables that a unit sees and the committed ones are registers, and nobody else writes. -/
structure Session.Filed (session : Session) : Prop where
  alone : session.IsAlone
  committed : session.storage.database.Registered
  seen : session.view.Registered

theorem Session.Filed.of_goes {before after : Session} {call : StoreCall} (filed : before.Filed)
    (goes : call.Goes before after) : after.Filed := by
  cases goes with
  | looked looks =>
    obtain ⟨view, database, others⟩ := looks.tables filed.alone
    exact ⟨others.trans filed.alone, database ▸ filed.committed, view ▸ filed.seen⟩
  | wrote wrote kept others =>
    exact ⟨others.trans filed.alone, kept ▸ filed.committed, wrote.registered filed.seen⟩
  | committed _ seen made others => exact ⟨others.trans filed.alone, made ▸ filed.seen, seen ▸ filed.seen⟩
  | rolledBack _ seen kept others =>
    exact ⟨others.trans filed.alone, kept ▸ filed.committed, seen ▸ filed.committed⟩

theorem Session.Filed.of_fresh {session : Session} (alone : session.IsAlone) (fresh : session.pending = none)
    (registered : session.storage.database.Registered) : session.Filed := by
  refine ⟨alone, registered, ?_⟩
  rw [Session.view, fresh]
  exact registered

theorem Session.Filed.afterAll {session : Session} (filed : session.Filed) (calls : List StoreCall) :
    (afterAll calls session).Filed :=
  List.foldlRecOn calls _ filed fun before filed call _ ↦ filed.of_goes (StoreCall.goes_work call before)

/-- The failure of an account whose number is used. -/
abbrev Work.numberUsed : Failure := .integrity (some .accountNumberUnique)

/-- A part that writes nothing and never finds a number used does so in no register. -/
theorem Work.spares_of_sees {Result : Type} {part : Work Result} (sees : part.Leaves Sees)
    (other : ∀ session, (part session).1 ≠ .error numberUsed) :
    part.Confined (·.view.Registered) (· ≠ numberUsed) := by
  refine fun session registered ↦ ⟨?_, fun failure ended isUsed ↦ other session (isUsed ▸ ended)⟩
  change (part session).2.view.Registered
  rw [(sees session).view]
  exact registered

theorem Work.succeeds_spares {Result : Type} (result : Result) : Except.ok result ≠ .error numberUsed := by
  simp

theorem Work.connect_spares : connect.Confined (·.view.Registered) (· ≠ numberUsed) := by
  refine spares_of_sees sees_connect fun session ↦ ?_
  simp only [connect, run_bind, run_get, run_ite]
  split
  · simp
  · split <;> simp

theorem Work.boundAmount_spares (given : Value) :
    (boundAmount given).Confined (·.view.Registered) (· ≠ numberUsed) := by
  unfold boundAmount
  split
  · exact confined_pure _
  · exact confined_pure _
  · exact confined_pure _
  · exact confined_throw (by simp)

theorem Work.requireWord_spares (number : Int) :
    (requireWord number).Confined (·.view.Registered) (· ≠ numberUsed) :=
  confined_ite (confined_pure _) (confined_throw (by simp))

/-- No account is refused for a number that is used: its id would be used too. -/
theorem Work.addAccount_spares (new : NewAccount) :
    (addAccount new).LeadsTo (·.view.Registered) (fun _ ↦ True) (· ≠ numberUsed) := by
  have refuses (broken : Constraint) (other : broken ≠ .accountNumberUnique) :
      (throw (.integrity (some broken)) : Work Account).Raises (· ≠ numberUsed) :=
    confined_throw fun same ↦ other (Option.some.inj (Failure.integrity.inj same))
  unfold addAccount
  refine leadsTo_bind connect_spares (fun _ _ ↦ trivial) fun _ _ _ _ _ ↦ ?_
  refine leadsTo_bind (boundAmount_spares new.opening) (fun _ _ ↦ trivial) fun _ bound _ _ bounded ↦ ?_
  refine leadsTo_bind (requireWord_spares _) (fun _ _ ↦ trivial) fun _ _ _ _ _ ↦ ?_
  refine leadsTo_bind (requireWord_spares _) (fun _ _ ↦ trivial) fun _ _ _ _ _ ↦ ?_
  refine leadsTo_bind (spares_of_sees sees_beginWrite fun _ ↦ succeeds_spares _) (fun _ _ ↦ trivial)
    fun _ _ _ _ _ ↦ ?_
  refine leadsTo_bind (spares_of_sees same_view fun _ ↦ succeeds_spares _) (fun _ _ ↦ trivial)
    fun session database _ registered seen ↦ ?_
  obtain ⟨rfl, -⟩ := view_ok seen
  suffices raises : Procedure.Raises (· ≠ numberUsed) _ from raises.mono fun _ _ ↦ trivial
  cases new.owner with
  | none => exact refuses .ownerPresent (by decide)
  | some owner =>
    rcases boundAmount_ok bounded with ⟨-, rfl⟩ | ⟨-, cents, brought, rfl⟩
    · exact refuses .balancePresent (by decide)
    have isRead (row : AccountRow) (same : row.balance = cents.text) :
        ∀ failure, row.read = .error failure → failure ≠ numberUsed := by
      rw [AccountRow.read_of_readText (same ▸ Money.readText_rounded brought)]
      simp
    dsimp only
    refine confined_ite (refuses .balanceCheck (by decide)) ?_
    generalize new.id.getD _ = id
    rw [registered.accountNumbered?_numberOf]
    by_cases used : (session.view.account? id).isSome = true
    · rw [if_pos used]
      exact refuses .accountIdUnique (by decide)
    · rw [if_neg used, if_neg used]
      refine confined_bind (confined_modify fun _ _ ↦ trivial) fun _ ↦ ?_
      refine confined_bind (confined_ofExcept (isRead _ rfl)) fun _ ↦ ?_
      exact confined_bind (confined_modify fun _ _ ↦ trivial) fun _ ↦ confined_pure _

/-- To open an account is a unit of certain calls. -/
theorem Work.openAccount_calls (owner : Option Int) (kind : AccountKind) (session : Session) :
    ∃ calls : List StoreCall, (openAccount owner kind session).2 = afterAll calls session := by
  cases added : addAccount { owner, kind } session with
  | mk outcome middle =>
    cases outcome with
    | error failure =>
      refine ⟨[.addAccount { owner, kind }], ?_⟩
      simp only [openAccount, afterAll, List.foldl_cons, List.foldl_nil, StoreCall.work, run_bind, added]
    | ok account =>
      refine ⟨[.addAccount { owner, kind },
        .recordEvent account.id (.opened kind account.number account.owner), .commit], ?_⟩
      simp only [openAccount, afterAll, List.foldl_cons, List.foldl_nil, StoreCall.work, run_bind, added, run_pure,
        recordEvent_run]
      split
      · next committing => rw [committing]
      · next committing => rw [committing]

/-! ### Lookups -/

namespace Database.Registered

variable {storage : Storage}

/-- A unit that has just been opened holds nothing that is older than the tables. -/
theorem shows_opened (storage : Storage) (row : AccountRow) : (opened storage).Shows row :=
  fun _ none ↦ by cases none

/-- An account is found under its number. -/
theorem run_accountNumbered (registered : storage.database.Registered) (reachable : storage.reachable = true)
    {row : AccountRow} (member : row ∈ storage.database.accounts) :
    ∃ account, row.read = .ok account ∧ ((accountNumbered row.number).run storage).1 = .ok (some account) := by
  obtain ⟨account, after, given, -, isRead⟩ := accountNumbered_ok (opened storage) reachable
    (accountNumbered?_of_mem registered.numbers member) (registered.readable row member)
  refine ⟨account, isRead (shows_opened storage row), ?_⟩
  rw [run_eq, given]

/-- Nothing is found under any other text. -/
theorem run_accountNumbered_none (reachable : storage.reachable = true) {number : String}
    (others : ∀ row ∈ storage.database.accounts, row.number ≠ number) :
    ((accountNumbered number).run storage).1 = .ok none := by
  obtain ⟨after, given⟩ := accountNumbered_none (opened storage) reachable
    (accountNumbered?_eq_none.2 others)
  rw [run_eq, given]

/-- The accounts of an owner are all that have this owner, by ascending id. -/
theorem run_accountsOf (registered : storage.database.Registered) (reachable : storage.reachable = true)
    {owner : Int} (fits : fitsWord owner = true) :
    ∃ accounts, ((Work.accountsOf owner).run storage).1 = .ok accounts ∧
      accounts.Pairwise (fun earlier later ↦ earlier.id < later.id) ∧
      ∀ account, account ∈ accounts ↔
        ∃ row ∈ storage.database.accounts, row.owner = owner ∧ row.read = .ok account := by
  have isRow : ∀ row ∈ storage.database.accountsOf owner, row ∈ storage.database.accounts :=
    fun row member ↦ (mem_accountsOf.1 member).1
  obtain ⟨accounts, after, given, each⟩ := accountsOf_ok (opened storage)
    (· ∈ storage.database.accounts) reachable fits
    (fun row member ↦ registered.readable row (isRow row member))
    (fun row member other there same ↦
      List.inj_on_of_nodup_map registered.ids there (isRow row member) same)
    fun row _ ↦ shows_opened storage row
  refine ⟨accounts, by rw [run_eq, given], ?_, fun account ↦ ⟨fun member ↦ ?_, ?_⟩⟩
  · have ascending := List.pairwise_map.2 (accountsOf_ascending registered.ids owner)
    have same : (storage.database.accountsOf owner).map (·.id) = accounts.map (·.id) :=
      map_eq_of_forall₂ (each.imp fun _ _ both ↦ both.1.symm)
    rw [same] at ascending
    exact List.pairwise_map.1 ascending
  · obtain ⟨row, isOwn, -, isRead⟩ := exists_of_forall₂_right each member
    obtain ⟨there, owned⟩ := mem_accountsOf.1 isOwn
    exact ⟨row, there, owned, isRead there⟩
  · rintro ⟨row, there, owned, isRead⟩
    obtain ⟨other, member, -, isRead'⟩ := exists_of_forall₂_left each (mem_accountsOf.2 ⟨there, owned⟩)
    obtain rfl := Except.ok.inj (isRead.symm.trans (isRead' there))
    exact member

end Database.Registered

/-! ### Tables that arise -/

/-- Tables that arise from empty ones through units of callers and openings of accounts, wherever these fail. A
unit goes on from any moment at which it has nothing pending, so others may stand between its parts. -/
inductive Database.Populated : Database → Prop where
  | empty : Populated {}
  | calls (session : Session) (calls : List StoreCall) : Populated session.storage.database → session.IsAlone →
      session.pending = none → Populated (afterAll calls session).storage.database
  | opening (ledger : Ledger) (owner : Option Int) (kind : AccountKind) : Populated ledger.storage.database →
      ledger.storage.intrusions = [] →
      Populated ((Request.openAccount owner kind).perform ledger).storage.database

namespace Database.Populated

variable {database : Database}

theorem registered (populated : database.Populated) : database.Registered := by
  induction populated with
  | empty => exact registered_empty
  | calls session calls _ alone fresh ih => exact ((Session.Filed.of_fresh alone fresh ih).afterAll calls).committed
  | opening ledger owner kind _ alone ih =>
    obtain ⟨calls, same⟩ := openAccount_calls owner kind (opened ledger.storage)
    rw [Request.perform, Ledger.openAccount_storage, run_eq, same]
    have filed : (opened ledger.storage).Filed := .of_fresh alone rfl ih
    exact (filed.afterAll calls).committed

/-- Every account has the number that belongs to its id, which can be read off it, and no other account has that;
so at no moment of any unit an account is refused for its number. A reachable store finds exactly the accounts
that there are: each by its number, none by any other text, and those of an owner by ascending id. An owner that
the store cannot hold has none, and to ask for them fails nevertheless. -/
theorem identified (populated : database.Populated) :
    (∀ row ∈ database.accounts, row.number = Account.numberOf row.id ∧ Account.idOf row.number = row.id) ∧
    (database.accounts.map (·.number)).Nodup ∧
    (∀ (session : Session) (calls : List StoreCall) (new : NewAccount), session.storage.database = database →
      session.IsAlone → session.pending = none →
        (Work.addAccount new (afterAll calls session)).1 ≠ .error numberUsed) ∧
    ∀ storage : Storage, storage.database = database → storage.reachable = true →
      (∀ row ∈ database.accounts, ∃ account, row.read = .ok account ∧
        ((accountNumbered row.number).run storage).1 = .ok (some account)) ∧
      (∀ number, (∀ row ∈ database.accounts, row.number ≠ number) →
        ((accountNumbered number).run storage).1 = .ok none) ∧
      (∀ owner, fitsWord owner = true → ∃ accounts, ((Work.accountsOf owner).run storage).1 = .ok accounts ∧
        accounts.Pairwise (fun earlier later ↦ earlier.id < later.id) ∧
        ∀ account, account ∈ accounts ↔ ∃ row ∈ database.accounts, row.owner = owner ∧ row.read = .ok account) ∧
      ∀ owner, fitsWord owner = false → ((Work.accountsOf owner).run storage).1 = .error .overflow ∧
        ∀ row ∈ database.accounts, row.owner ≠ owner := by
  have registered := populated.registered
  refine ⟨fun row member ↦ ?_, registered.numbers, ?_, ?_⟩
  · have numbered := registered.numbered row member
    exact ⟨numbered, numbered ▸ Account.idOf_numberOf row.id⟩
  · rintro session calls new rfl alone fresh isUsed
    have filed := (Session.Filed.of_fresh alone fresh registered).afterAll calls
    exact (addAccount_spares new _ filed.seen).2 numberUsed isUsed rfl
  · rintro storage rfl reachable
    refine ⟨fun row member ↦ registered.run_accountNumbered reachable member,
      fun number others ↦ Registered.run_accountNumbered_none reachable others,
      fun owner fits ↦ registered.run_accountsOf reachable fits, fun owner wide ↦ ⟨?_, ?_⟩⟩
    · rw [run_eq, accountsOf_overflow (opened storage) reachable wide]
    · rintro row member rfl
      rw [registered.owners row member] at wide
      cases wide

/-- Ids below zero and ids that are longer than the numbers are wide, with an account in between that is rolled
back. -/
theorem identified_wide :
    let calls : List StoreCall := [.addAccount { owner := some 7, kind := .checking, id := some (-5) },
      .addAccount { owner := some 7, kind := .savings, id := some 12345678901 }, .commit,
      .addAccount { owner := some 8, kind := .checking }, .rollback,
      .addAccount { owner := some 7, kind := .checking }, .commit]
    let database := (afterAll calls (opened {})).storage.database
    database.Populated ∧
      database.accounts.map (·.number) = ["ACC-000000005", "ACC12345678901", "ACC12345678902"] ∧
      ((Work.accountNumbered "ACC0000000001").run { database }).1.toOption = some none ∧
      ((Work.accountsOf 9223372036854775808).run { database }).1.toOption = none := by
  intro calls database
  have populated : database.Populated := .calls (opened {}) calls .empty rfl rfl
  have numbers : database.accounts.map (·.number) = ["ACC-000000005", "ACC12345678901", "ACC12345678902"] := by
    decide +kernel
  clear_value database
  have others : ∀ row ∈ database.accounts, row.number ≠ "ACC0000000001" := by
    have unused : "ACC0000000001" ∉ database.accounts.map (·.number) := by
      rw [numbers]
      decide
    simpa using unused
  obtain ⟨-, -, -, lookups⟩ := identified populated
  obtain ⟨-, missing, -, wide⟩ := lookups { database } rfl rfl
  refine ⟨populated, numbers, ?_, ?_⟩
  · rw [missing "ACC0000000001" others]
    rfl
  · rw [(wide 9223372036854775808 (by decide)).1]
    rfl

end Database.Populated

end Passbook
