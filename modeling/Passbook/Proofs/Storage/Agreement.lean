import Passbook.Proofs.Ledger.Service
import Passbook.Proofs.Storage.Numbers
import Passbook.Proofs.Storage.Rewrites
import Passbook.Proofs.Storage.Survival

/-!
What the lookups of a unit report after a conditional write. The write changes the row and not what the unit
holds of the account. Looking an account up by its id reads the row again and keeps that; looking it up by number
or by owner gives what the unit holds, and reads only what it does not hold (`Session.Watches`). Main statement:
after a conditional write the lookup by id reports the balance or the status that was written and the next
version, and the other two report the same unless the unit holds the account as it was before and has not looked
it up by id since (`StoreCall.lookups_after_write`). The balance is reported as the column rounds it.
-/

set_option autoImplicit false
set_option relaxedAutoImplicit false

namespace Passbook

open Procedure Session Work

/-- What an account that was read is after a conditional write: the balance is what the column rounds the value
to. -/
inductive Rewrite.Sets (seen : Account) : Rewrite → Account → Prop
  | balance (given : Value) (cents : Decimal) : Money.rounded given = .ok cents →
      Sets seen (.balance given) { seen with balance := cents, version := seen.version + 1 }
  | status (wanted : AccountStatus) :
      Sets seen (.status wanted) { seen with status := wanted, version := seen.version + 1 }

/-- The row that a conditional write makes is read as what the write sets. -/
theorem Rewrite.Makes.read {rewrite : Rewrite} {old new : AccountRow} {seen : Account}
    (makes : rewrite.Makes old new) (isRead : old.read = .ok seen) :
    ∃ written, new.read = .ok written ∧ rewrite.Sets seen written := by
  obtain ⟨balance, text, rfl⟩ := AccountRow.read_ok isRead
  cases makes with
  | balance given content takes =>
    obtain ⟨cents, brought, -, rfl⟩ := Money.takes_iff.1 takes
    have text' := Money.readText_rounded brought
    exact ⟨_, AccountRow.read_of_readText (by exact text'), .balance given cents brought⟩
  | status wanted => exact ⟨_, AccountRow.read_of_readText (by exact text), .status wanted⟩

/-! ### What a unit holds of one account -/

/-- The unit sees certain tables, and shows a row of them. -/
structure Session.Watches (database : Database) (row : AccountRow) (session : Session) : Prop where
  alone : session.IsAlone
  view : session.view = database
  shows : session.Shows row

namespace Work

section Watches

variable {Result : Type} {database : Database} {row other : AccountRow}

/-- A part of a unit that sees certain tables and shows a row still does afterwards, however it ends. -/
abbrev KeepsWatch (database : Database) (row : AccountRow) (part : Work Result) : Prop :=
  part.Confined (Watches database row) fun _ ↦ True

theorem watch_of_stays {part : Work Result} (stays : part.Leaves Stays) (keeps : part.Leaves KeepsLoaded) :
    part.KeepsWatch database row := by
  refine fun session watches ↦ ⟨⟨(stays session).intrusions.trans watches.alone,
    (stays session).view.trans watches.view, ?_⟩, fun _ _ ↦ trivial⟩
  have same : (part session).2.loaded = session.loaded := keeps session
  unfold Shows
  rw [same]
  exact watches.shows

theorem watch_pass (point : Point) : (pass point).KeepsWatch database row :=
  watch_of_stays (stays_pass point) (leftByDrafting_keepsLoaded.pass point trivial)

theorem watch_connect : connect.KeepsWatch database row :=
  watch_of_stays stays_connect leftByDrafting_keepsLoaded.connect

theorem watch_requireWord (number : Int) : (requireWord number).KeepsWatch database row :=
  watch_of_stays (same_requireWord number) (same_requireWord number)

theorem watch_admitIntruder (id : Int) : (admitIntruder id).KeepsWatch database row := by
  intro session watches
  rw [admitIntruder_alone id watches.alone]
  exact ⟨watches, fun _ _ ↦ trivial⟩

/-- What goes on with the tables that the unit sees. -/
theorem watch_view_bind {next : Database → Work Result} (goesOn : (next database).KeepsWatch database row) :
    (view >>= next).KeepsWatch database row := by
  refine leadsTo_bind (watch_of_stays same_view same_view) (fun _ ↦ id) fun session found _ watches seen ↦ ?_
  obtain ⟨rfl, -⟩ := view_ok seen
  exact watches.view.symm ▸ goesOn

variable (ids : (database.accounts.map (·.id)).Nodup) (there : row ∈ database.accounts)

include ids there

/-- To keep what a row is read as shows that row, and any other row as before. -/
theorem watch_remember {account : Account} (member : other ∈ database.accounts) (isRead : other.read = .ok account) :
    (remember account).KeepsWatch database row := by
  refine confined_modify fun session watches ↦ ⟨watches.alone, watches.view, fun held kept same ↦ ?_⟩
  rcases List.mem_cons.1 kept with rfl | older
  · have sameId := (AccountRow.id_of_read isRead).symm.trans same
    exact List.inj_on_of_nodup_map ids member there sameId ▸ isRead
  · exact watches.shows held (List.mem_of_mem_filter older) same

theorem watch_held (member : other ∈ database.accounts) : (held other).KeepsWatch database row := by
  unfold held
  refine confined_bind confined_get fun session ↦ ?_
  split
  · exact confined_pure _
  · refine leadsTo_bind (confined_ofExcept fun _ _ ↦ trivial) (fun _ same ↦ same) fun _ account _ _ reading ↦ ?_
    have isRead := (ok_of_ofExcept reading).1
    exact confined_bind (watch_remember ids there member isRead) fun _ ↦ confined_pure _

theorem watch_load (id : Int) : (load id).KeepsWatch database row := by
  unfold load
  refine confined_bind (watch_pass _) fun _ ↦ ?_
  refine confined_bind watch_connect fun _ ↦ ?_
  refine confined_bind (watch_requireWord id) fun _ ↦ ?_
  refine watch_view_bind ?_
  split
  · exact confined_bind (watch_admitIntruder id) fun _ ↦ confined_pure _
  · next other found =>
    refine leadsTo_bind (confined_ofExcept fun _ _ ↦ trivial) (fun _ same ↦ same) fun _ account _ _ reading ↦ ?_
    have isRead := (ok_of_ofExcept reading).1
    refine confined_bind (watch_remember ids there (Database.mem_of_account? found).1 isRead) fun _ ↦ ?_
    exact confined_bind (watch_admitIntruder id) fun _ ↦ confined_pure _

theorem watch_accountNumbered (number : String) : (accountNumbered number).KeepsWatch database row := by
  unfold accountNumbered
  refine confined_bind watch_connect fun _ ↦ watch_view_bind ?_
  split
  · exact confined_pure _
  · next other found =>
    have member := (Database.accountNumbered?_eq_some found).1
    exact confined_bind (watch_held ids there member) fun _ ↦ confined_pure _

theorem watch_accountsOf (owner : Int) : (accountsOf owner).KeepsWatch database row := by
  unfold accountsOf
  refine confined_bind watch_connect fun _ ↦ ?_
  refine confined_bind (watch_requireWord owner) fun _ ↦ watch_view_bind ?_
  exact confined_mapM fun other member ↦ watch_held ids there (Database.mem_accountsOf.1 member).1

end Watches

/-- An account that was looked up by its id is held as it was read. -/
theorem shows_of_load {id : Int} {row : AccountRow} {session after : Session} {loaded : Option Account}
    (alone : session.IsAlone) (found : session.view.account? id = some row)
    (ran : load id session = (.ok loaded, after)) : after.Shows row := by
  unfold load at ran
  obtain ⟨_, _, passed, ran⟩ := ok_of_bind ran
  obtain ⟨_, connecting, connected, ran⟩ := ok_of_bind ran
  have stays := trans_of Stays ((stays_pass .load).of_eq passed) (stays_connect.of_eq connected)
  have alone' : connecting.IsAlone := stays.intrusions.trans alone
  obtain ⟨_, _, word, ran⟩ := ok_of_bind ran
  obtain ⟨database, _, seen, ran⟩ := ok_of_bind ran
  obtain ⟨-, rfl⟩ := requireWord_ok word
  obtain ⟨rfl, rfl⟩ := view_ok seen
  rw [stays.view, found] at ran
  obtain ⟨account, _, reading, ran⟩ := ok_of_bind ran
  obtain ⟨isRead, rfl⟩ := ok_of_ofExcept reading
  rw [remember, run_bind_ok (run_modify _ _), run_bind_ok (admitIntruder_alone id (by exact alone'))] at ran
  obtain ⟨-, rfl⟩ := Prod.mk.inj ran
  intro held kept same
  rcases List.mem_cons.1 kept with rfl | older
  · exact isRead
  · have other := (List.mem_filter.1 older).2
    rw [AccountRow.id_of_read isRead, same] at other
    simp at other

end Work

/-- The unit sees a register with a certain row in it. -/
structure Session.Has (row : AccountRow) (session : Session) : Prop where
  filed : session.Filed
  found : session.view.account? row.id = some row

theorem Session.Has.there {row : AccountRow} {session : Session} (has : session.Has row) :
    row ∈ session.view.accounts :=
  (Database.mem_of_account? has.found).1

/-- The lookups by number and by owner give the account of a row that the unit shows as the row is read. -/
theorem Session.Has.lookups {row : AccountRow} {account : Account} {session : Session} (has : session.Has row)
    (reachable : session.storage.reachable = true) (shows : session.Shows row) (isRead : row.read = .ok account) :
    (Work.accountNumbered account.number session).1 = .ok (some account) ∧
      ∃ accounts, (Work.accountsOf account.owner session).1 = .ok accounts ∧ account ∈ accounts ∧
        ∀ other ∈ accounts, other.id = row.id → other = account := by
  have seen := has.filed.seen
  obtain ⟨balance, text, rfl⟩ := AccountRow.read_ok isRead
  refine ⟨?_, ?_⟩
  · obtain ⟨account, after, given, -, isRead'⟩ := accountNumbered_ok session reachable
      (Database.accountNumbered?_of_mem seen.numbers has.there) (seen.readable row has.there)
    rw [given, Except.ok.inj (isRead.symm.trans (isRead' shows))]
  · have isOwn : row ∈ session.view.accountsOf row.owner := Database.mem_accountsOf.2 ⟨has.there, rfl⟩
    have member {other : AccountRow} (owned : other ∈ session.view.accountsOf row.owner) :
        other ∈ session.view.accounts :=
      (Database.mem_accountsOf.1 owned).1
    obtain ⟨accounts, after, given, each⟩ := accountsOf_ok session (· = row) reachable (seen.owners row has.there)
      (fun other owned ↦ seen.readable other (member owned))
      (by
        rintro other owned _ rfl same
        exact List.inj_on_of_nodup_map seen.ids has.there (member owned) same)
      (by
        rintro _ rfl
        exact shows)
    refine ⟨accounts, by rw [given], ?_, fun other there same ↦ ?_⟩
    · obtain ⟨other, there, -, isRead'⟩ := exists_of_forall₂_left each isOwn
      rwa [Except.ok.inj (isRead.symm.trans (isRead' rfl))]
    · obtain ⟨origin, owned, sameId, isRead'⟩ := exists_of_forall₂_right each there
      have isRow : origin = row := List.inj_on_of_nodup_map seen.ids (member owned) has.there (sameId.symm.trans same)
      exact Except.ok.inj ((isRead' isRow).symm.trans (isRow ▸ isRead))

/-! ### Calls that spare an account -/

namespace StoreCall

/-- The moments of a unit whose caller goes on after each call, whether it has failed or not. -/
def tried : List StoreCall → Session → List Moment
  | [], _ => []
  | call :: rest, session => ⟨call, session⟩ :: tried rest (call.work session).2

end StoreCall

/-- The call looks accounts up, or is a conditional write that does not write to a certain account. -/
inductive Moment.Spares (id : Int) : Moment → Prop
  | load (other : Int) (session : Session) : Spares id ⟨.load other, session⟩
  | accountNumbered (number : String) (session : Session) : Spares id ⟨.accountNumbered number, session⟩
  | accountsOf (owner : Int) (session : Session) : Spares id ⟨.accountsOf owner, session⟩
  | rewrite (rewrite : Rewrite) (other version : Int) (session : Session) :
      other ≠ id ∨ (rewrite.work other version session).1 ≠ .ok true →
      Spares id ⟨rewrite.call other version, session⟩

/-- The call looks an account up by its id, and does not fail. -/
def Moment.Reloads (id : Int) (moment : Moment) : Prop :=
  moment.call = .load id ∧ (load id moment.before).1.isOk = true

namespace StoreCall

variable {row : AccountRow} {session : Session}

/-- A conditional write that does not write to an account leaves its row there. -/
theorem account?_rewrite (rewrite : Rewrite) {other version : Int}
    (found : session.view.account? row.id = some row)
    (apart : other ≠ row.id ∨ (rewrite.work other version session).1 ≠ .ok true) :
    (rewrite.work other version session).2.view.account? row.id = some row := by
  have ends := (rewrite.settles other version session).1
  cases ran : rewrite.work other version session with
  | mk outcome after =>
    rw [ran] at ends apart
    cases ends with
    | missed _ same | failed _ same => exact same ▸ found
    | written old new _ foundOld makes same =>
      have isOther : other ≠ row.id := apart.resolve_right (absurd rfl)
      have sameId : new.id = other :=
        makes.same.1.trans (Database.account?_id (Database.accountAt?_eq_some foundOld).1)
      rw [same]
      exact (Database.account?_replace_other fun isRow ↦ isOther (sameId.symm.trans isRow.symm)).trans found

/-- A call that spares an account leaves its row in the tables that the unit sees, and shown if it was. -/
theorem has_work {call : StoreCall} (spares : (Moment.mk call session).Spares row.id) (has : session.Has row) :
    (call.work session).2.Has row ∧ (session.Shows row → (call.work session).2.Shows row) := by
  have filed := has.filed.of_goes (goes_work call session)
  have ids := has.filed.seen.ids
  have looks {Result : Type} {part : Work Result} (looks : part.Leaves Looks)
      (keeps : part.KeepsWatch session.view row) :
      ((do let _ ← part : Work Unit) session).2.view.account? row.id = some row ∧
        (session.Shows row → ((do let _ ← part : Work Unit) session).2.Shows row) := by
    rw [run_discard]
    refine ⟨?_, fun shows ↦ (keeps session ⟨has.filed.alone, rfl, shows⟩).1.shows⟩
    have view := ((looks session).tables has.filed.alone).view
    exact view.symm ▸ has.found
  -- the lookups keep both; a conditional write keeps what the unit holds, whatever it writes
  suffices both : (call.work session).2.view.account? row.id = some row ∧
      (session.Shows row → (call.work session).2.Shows row) from ⟨⟨filed, both.1⟩, both.2⟩
  cases spares with
  | load other => exact looks (leftByReading_looks.load trivial other) (watch_load ids has.there other)
  | accountNumbered number =>
    exact looks (leftByReading_looks.accountNumbered number) (watch_accountNumbered ids has.there number)
  | accountsOf owner => exact looks (leftByReading_looks.accountsOf owner) (watch_accountsOf ids has.there owner)
  | rewrite rewrite other version _ apart =>
    rw [rewrite.work_call]
    refine ⟨account?_rewrite rewrite has.found apart, fun shows ↦ ?_⟩
    unfold Shows
    rw [rewrite.loaded_work]
    exact shows

/-- A lookup by the id of the account shows its row. -/
theorem shows_reload (has : session.Has row) (loads : (Work.load row.id session).1.isOk = true) :
    (work (.load row.id) session).2.Shows row := by
  rw [work, run_discard]
  cases ran : Work.load row.id session with
  | mk outcome after =>
    rw [ran] at loads
    cases outcome with
    | error failure => cases loads
    | ok loaded => exact shows_of_load has.filed.alone has.found ran

/-! ### Many calls -/

theorem keepsReach_work (call : StoreCall) : call.work.Leaves KeepsReach :=
  leaves_work leftByWriting_keepsReach (fun _ ↦ rfl) (fun _ ↦ rfl) (fun _ ↦ rfl) (fun _ ↦ rfl) call

/-- A store that can be reached remains so. -/
theorem keepsReach_afterAll (calls : List StoreCall) (session : Session) :
    KeepsReach session (afterAll calls session) :=
  List.foldlRecOn calls _ (refl_of KeepsReach session) fun before same call _ ↦
    trans_of KeepsReach same (keepsReach_work call before)

/-- After calls that spare an account its row is there, and it is shown if it was before or was looked up by its id
on the way. -/
theorem has_afterAll {calls : List StoreCall} (has : session.Has row)
    (spares : ∀ moment ∈ tried calls session, moment.Spares row.id) :
    (afterAll calls session).Has row ∧
      (session.Shows row ∨ (∃ moment ∈ tried calls session, moment.Reloads row.id) →
        (afterAll calls session).Shows row) := by
  induction calls generalizing session with
  | nil =>
    refine ⟨has, fun shows ↦ shows.resolve_right ?_⟩
    rintro ⟨moment, none, -⟩
    cases none
  | cons call rest ih =>
    obtain ⟨has', shows'⟩ := has_work (spares _ List.mem_cons_self) has
    obtain ⟨ends, later⟩ := ih has' fun moment member ↦ spares moment (List.mem_cons_of_mem _ member)
    refine ⟨ends, fun shows ↦ later ?_⟩
    rcases shows with shows | ⟨moment, member, isLoad, loads⟩
    · exact Or.inl (shows' shows)
    rcases List.mem_cons.1 member with rfl | member
    · dsimp only at isLoad loads
      subst isLoad
      exact Or.inl (shows_reload has loads)
    · exact Or.inr ⟨moment, member, isLoad, loads⟩

/-! ### After the write -/

/-- After a conditional write that tells that it has written, and other calls that do not write to the account, the
lookup by id reports what the write has set, if it does not fail. The lookups by number and by owner report the same
account if the unit did not hold it at the write or has looked it up by its id since. -/
theorem lookups_after_write (storage : Storage) (populated : storage.database.Populated)
    (alone : storage.intrusions = []) (reachable : storage.reachable = true) (before between : List StoreCall)
    (rewrite : Rewrite) (id version : Int)
    (told : (rewrite.work id version (afterAll before (opened storage))).1 = .ok true)
    (spares : ∀ moment ∈ tried between (rewrite.work id version (afterAll before (opened storage))).2,
      moment.Spares id) :
    let session := afterAll before (opened storage)
    let after := (rewrite.work id version session).2
    let later := afterAll between after
    ∃ old seen account, session.view.accountAt? id version = some old ∧ old.read = .ok seen ∧
      rewrite.Sets seen account ∧
      (Work.load id later).1 =
        (Planned.struck (Planned.next .load later.storage.faults).1).map (fun _ ↦ some account) ∧
      ((∀ held ∈ after.loaded, held.id ≠ id) ∨ (∃ moment ∈ tried between after, moment.Reloads id) →
        (Work.accountNumbered account.number later).1 = .ok (some account) ∧
        ∃ accounts, (Work.accountsOf account.owner later).1 = .ok accounts ∧ account ∈ accounts ∧
          ∀ other ∈ accounts, other.id = id → other = account) := by
  intro session after later
  have fresh : (opened storage).Filed := .of_fresh alone rfl populated.registered
  have filed : session.Filed := fresh.afterAll before
  have goes := goes_work (rewrite.call id version) session
  have made := keepsReach_work (rewrite.call id version) session
  rw [rewrite.work_call] at goes made
  have ends := (rewrite.settles id version session).1
  rw [told] at ends
  cases ends with
  | written old new fits found makes same =>
  obtain ⟨foundOld, -⟩ := Database.accountAt?_eq_some found
  obtain ⟨seen, seenRead⟩ := filed.seen.readable old (Database.mem_of_accountAt? found)
  obtain ⟨account, isRead, sets⟩ := makes.read seenRead
  obtain rfl : new.id = id := makes.same.1.trans (Database.account?_id foundOld)
  have has : after.Has new := ⟨filed.of_goes goes, by rw [same]; exact Database.account?_replace_self foundOld⟩
  obtain ⟨has', shows'⟩ := has_afterAll has spares
  have keepsReach : KeepsReach (opened storage) later :=
    trans_of KeepsReach (trans_of KeepsReach (keepsReach_afterAll before _) made) (keepsReach_afterAll between after)
  have stillReachable : later.storage.reachable = true := keepsReach.trans reachable
  refine ⟨old, seen, account, found, seenRead, sets,
    load_shown has'.filed.alone stillReachable fits has'.found isRead, fun fresh ↦ ?_⟩
  -- a unit that held nothing of the account at the write shows the new row from then on
  refine has'.lookups stillReachable (shows' (fresh.imp_left fun none held member same ↦ ?_)) isRead
  exact absurd same (none held member)

/-- The new account is held as it was opened; the lookup by owner gives that, and the one by id what was written. -/
theorem lookups_after_write_reloaded :
    let before : List StoreCall := [.addAccount { owner := some 1, kind := .checking }]
    let between : List StoreCall := [.accountsOf 1, .load 1, .writeStatus 1 1 .frozen]
    let rewrite : Rewrite := .balance (.text "12.34")
    let session := afterAll before (opened {})
    let later := afterAll between (rewrite.work 1 1 session).2
    (rewrite.work 1 1 session).1 = .ok true ∧
      ∃ account, (Work.load 1 later).1 = .ok (some account) ∧
        (Work.accountNumbered account.number later).1 = .ok (some account) ∧
        account.version = 2 ∧ Money.rounded (.text "12.34") = .ok account.balance := by
  intro before between rewrite session later
  have told : (rewrite.work 1 1 session).1 = .ok true := toOption_eq_some_except.1 (by decide +kernel)
  have missed : ((Rewrite.status .frozen).work 1 1 (afterAll (between.take 2) (rewrite.work 1 1 session).2)).1 =
      .ok false := toOption_eq_some_except.1 (by decide +kernel)
  have reloads : ((Work.load 1 (afterAll (between.take 1) (rewrite.work 1 1 session).2)).1).isOk = true := by
    decide +kernel
  have calm : later.storage.faults = [] := List.isEmpty_iff.1 (by decide +kernel)
  have spares : ∀ moment ∈ tried between (rewrite.work 1 1 session).2, moment.Spares 1 := by
    refine List.forall_mem_cons.2 ⟨.accountsOf 1 _, List.forall_mem_cons.2 ⟨.load 1 _, ?_⟩⟩
    exact List.forall_mem_singleton.2 (.rewrite (.status .frozen) 1 1 _ (Or.inr (missed ▸ nofun)))
  obtain ⟨old, seen, account, found, isRead, sets, loaded, lookups⟩ :=
    lookups_after_write {} .empty rfl rfl before between rewrite 1 1 told spares
  obtain ⟨numbered, -⟩ := lookups (Or.inr ⟨_, List.mem_cons_of_mem _ List.mem_cons_self, rfl, reloads⟩)
  have isLoaded : (Work.load 1 later).1 = .ok (some account) := by
    refine loaded.trans ?_
    rw [calm]
    rfl
  obtain ⟨balance, -, rfl⟩ := AccountRow.read_ok isRead
  have version : old.version = 1 := (Database.accountAt?_eq_some found).2
  change Rewrite.Sets _ (.balance (.text "12.34")) account at sets
  cases sets with
  | balance given cents rounded => exact ⟨told, _, isLoaded, numbered, by simp [version], rounded⟩

/-- What the unit held before the write is what the lookups by number and by owner still report, and what the lookup
by id reports is rounded. -/
theorem lookups_after_write_stale :
    let storage := unit [.addAccount { owner := some 1, kind := .checking }, .commit] {}
    let session := afterAll [.load 1] (opened storage)
    let rewrite : Rewrite := .balance (.decimal (.finite false 3999 (-3)))
    let after := (rewrite.work 1 1 session).2
    let report (account : Account) := (account.status, account.balance.text, account.version)
    (rewrite.work 1 1 session).1.toOption = some true ∧
      (Work.accountNumbered "ACC0000000001" after).1.toOption.map (·.map report) = some (some (.active, "0.00", 1)) ∧
      (Work.accountsOf 1 after).1.toOption.map (·.map report) = some [(.active, "0.00", 1)] ∧
      (Work.load 1 after).1.toOption.map (·.map report) = some (some (.active, "4.00", 2)) := by
  decide +kernel

end StoreCall

end Passbook
