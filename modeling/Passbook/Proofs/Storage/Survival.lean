import Passbook.Proofs.Storage.Calls

/-!
What survives a unit of work. The moments of a unit are the calls that were made in it, up to the first that
fails, each with the unit as it was before it (`StoreCall.moments`). What a call has written survives exactly if
the next commit or rollback after it is a commit that takes effect (`StoreCall.survivors`); how the unit is left,
and whether an earlier commit was reported, makes no difference. Main statement: the committed tables are those
that the unit saw at its last commit, and they are what the surviving calls alone have written one after the
other (`StoreCall.unit_survivors`).
-/

set_option autoImplicit false
set_option relaxedAutoImplicit false

namespace Passbook

open Procedure Session Work

/-- A call that is made in a unit of work, with the unit as it is before it. -/
structure Moment where
  call : StoreCall
  before : Session

namespace Moment

/-- The unit after the call, whether that has failed or not. -/
def after (moment : Moment) : Session := (moment.call.work moment.before).2

/-- The call is a commit that takes effect, be it reported or not. -/
def publishes (moment : Moment) : Bool :=
  match moment.call with
  | .commit => (pass .commit moment.before).1.isOk
  | _ => false

/-- The call drops what is pending. -/
def drops (moment : Moment) : Bool :=
  match moment.call with
  | .rollback => true
  | _ => false

/-- The call writes a row. -/
def writes (moment : Moment) : Bool := !moment.drops && moment.after.view != moment.before.view

end Moment

/-- Tables that calls have led to by what each of them has written, one after the other. -/
inductive Database.WroteAll (before : Database) : List StoreCall → Database → Prop
  | nil : WroteAll before [] before
  | snoc {calls : List StoreCall} {call : StoreCall} {middle after : Database} :
      WroteAll before calls middle → middle.Wrote call after → WroteAll before (calls ++ [call]) after

theorem Database.WroteAll.trans {before middle after : Database} {first second : List StoreCall}
    (begins : before.WroteAll first middle) (goesOn : middle.WroteAll second after) :
    before.WroteAll (first ++ second) after := by
  induction goesOn with
  | nil =>
    rw [List.append_nil]
    exact begins
  | snoc _ wrote ih =>
    rw [← List.append_assoc]
    exact .snoc ih wrote

namespace StoreCall

/-- The calls that are made in a unit, up to the first that fails. -/
def moments : List StoreCall → Session → List Moment
  | [], _ => []
  | call :: rest, session =>
    ⟨call, session⟩ :: match call.work session with
      | (.ok _, after) => moments rest after
      | (.error _, _) => []

/-- Whether what is pending is made permanent by what comes next. -/
def isSealed : List Moment → Bool
  | [] => false
  | moment :: later => moment.publishes || !moment.drops && isSealed later

/-- The calls of which something remains. -/
def survivors : List Moment → List StoreCall
  | [] => []
  | moment :: later =>
    if moment.writes && isSealed later then moment.call :: survivors later else survivors later

/-! ### One call -/

/-- The calls after one that is made are the others, or none if it has failed. -/
theorem exists_later (call : StoreCall) (rest : List StoreCall) (session : Session) :
    ∃ later, (later = rest ∨ later = []) ∧
      moments (call :: rest) session =
        ⟨call, session⟩ :: moments later (Moment.mk call session).after ∧
      ((call :: rest).forM work session).2 = (later.forM work (Moment.mk call session).after).2 := by
  rw [forM_cons, run_bind, moments, Moment.after]
  cases ran : call.work session with
  | mk outcome after =>
    cases outcome with
    | ok value => exact ⟨rest, Or.inl rfl, rfl, rfl⟩
    | error failure => exact ⟨[], Or.inr rfl, rfl, rfl⟩

/-- What a call makes of the committed tables and of those that the unit sees. -/
inductive Settles (moment : Moment) : Prop
  | published : moment.publishes = true → moment.writes = false →
      moment.after.storage.database = moment.before.view → moment.after.view = moment.before.view →
      Settles moment
  | dropped : moment.publishes = false → moment.drops = true →
      moment.after.storage.database = moment.before.storage.database →
      moment.after.view = moment.before.storage.database → Settles moment
  | wrote : moment.publishes = false → moment.drops = false → moment.writes = true →
      moment.after.storage.database = moment.before.storage.database →
      moment.before.view.Wrote moment.call moment.after.view → Settles moment
  | looked : moment.publishes = false → moment.drops = false → moment.writes = false →
      moment.after.storage.database = moment.before.storage.database →
      moment.after.view = moment.before.view → Settles moment

theorem writes_eq_false {moment : Moment} (same : moment.after.view = moment.before.view) :
    moment.writes = false := by
  simp [Moment.writes, same]

/-- A commit makes permanent what the unit sees, or leaves the tables as they were. -/
theorem settles_commit {session : Session} (alone : session.IsAlone) : Settles ⟨.commit, session⟩ := by
  obtain ⟨-, database⟩ := commit_effect (Prod.eta (Work.commit session)).symm
  have view : (Work.commit session).2.view = session.view := by
    cases goes_commit session with
    | looked looks => exact (looks.tables alone).view
    | committed _ seen => exact seen
    | wrote wrote => cases wrote
    | rolledBack same => cases same
  cases passed : (pass .commit session).1.isOk with
  | true =>
    rw [passed] at database
    exact .published passed (writes_eq_false view) database view
  | false =>
    rw [passed] at database
    exact .looked passed rfl (writes_eq_false view) database view

theorem settles (call : StoreCall) {session : Session} (alone : session.IsAlone) :
    Settles ⟨call, session⟩ ∧ (Moment.mk call session).after.IsAlone := by
  have goes := goes_work call session
  refine ⟨?_, ?_⟩
  · by_cases isCommit : call = .commit
    · subst isCommit
      exact settles_commit alone
    by_cases isRollback : call = .rollback
    · subst isRollback
      exact .dropped rfl rfl rfl rfl
    have publishes : (Moment.mk call session).publishes = false := by
      unfold Moment.publishes
      split
      · next same => exact absurd same isCommit
      · rfl
    have drops : (Moment.mk call session).drops = false := by
      unfold Moment.drops
      split
      · next same => exact absurd same isRollback
      · rfl
    cases goes with
    | looked looks =>
      obtain ⟨view, database, -⟩ := looks.tables alone
      exact .looked publishes drops (writes_eq_false view) database view
    | wrote wrote kept =>
      by_cases same : (call.work session).2.view = session.view
      · exact .looked publishes drops (writes_eq_false same) kept same
      · refine .wrote publishes drops ?_ kept wrote
        rw [Moment.writes, drops]
        exact bne_iff_ne.2 same
    | committed same => exact absurd same isCommit
    | rolledBack same => exact absurd same isRollback
  · cases goes with
    | looked looks => exact (looks.tables alone).isAlone alone
    | wrote _ _ others | committed _ _ _ others | rolledBack _ _ _ others => exact others.trans alone

/-! ### Units -/

/-- A unit goes on from any moment: what is pending survives if what comes next seals it, and so does what is yet
to be written. -/
theorem forM_survivors (calls : List StoreCall) {pending : List StoreCall} {session : Session} (alone : session.IsAlone)
    (drafted : session.storage.database.WroteAll pending session.view) :
    session.storage.database.WroteAll
      ((if isSealed (moments calls session) then pending else []) ++ survivors (moments calls session))
      (calls.forM work session).2.storage.database := by
  induction calls generalizing session pending with
  | nil => exact .nil
  | cons call rest ih =>
    obtain ⟨later, isLater, made, ended⟩ := exists_later call rest session
    have goesOn {middle : Session} (pending : List StoreCall) (alone : middle.IsAlone)
        (drafted : middle.storage.database.WroteAll pending middle.view) :
        middle.storage.database.WroteAll
          ((if isSealed (moments later middle) then pending else []) ++ survivors (moments later middle))
          (later.forM work middle).2.storage.database := by
      rcases isLater with rfl | rfl
      · exact ih alone drafted
      · exact .nil
    rw [made, ended]
    obtain ⟨settled, alone'⟩ := settles call alone
    rw [isSealed, survivors]
    cases settled with
    | published publishes writes database view =>
      have next := goesOn [] alone' (by rw [database, view]; exact .nil)
      rw [database] at next
      simpa [publishes, writes] using drafted.trans next
    | dropped publishes drops database view =>
      have next := goesOn [] alone' (by rw [database, view]; exact .nil)
      rw [database] at next
      simpa [publishes, drops, Moment.writes] using next
    | wrote publishes drops writes database wrote =>
      have next := goesOn (pending ++ [call]) alone'
        (by rw [database]; exact .snoc drafted wrote)
      rw [database] at next
      cases isKept : isSealed (moments later (Moment.mk call session).after) with
      | true => simpa [publishes, drops, writes, isKept] using next
      | false => simpa [publishes, drops, writes, isKept] using next
    | looked publishes drops writes database view =>
      have next := goesOn pending alone' (by rw [database, view]; exact drafted)
      rw [database] at next
      simpa [publishes, drops, writes] using next

/-- The committed tables are those that the unit saw at the last commit that took effect. -/
theorem forM_database {calls : List StoreCall} {session : Session} (alone : session.IsAlone) :
    (calls.forM work session).2.storage.database =
      (((moments calls session).filter Moment.publishes).getLast?.map (·.before.view)).getD
        session.storage.database := by
  induction calls generalizing session with
  | nil => rfl
  | cons call rest ih =>
    obtain ⟨later, isLater, made, ended⟩ := exists_later call rest session
    obtain ⟨settled, alone'⟩ := settles call alone
    have goesOn : (later.forM work (Moment.mk call session).after).2.storage.database =
        (((moments later (Moment.mk call session).after).filter Moment.publishes).getLast?.map
          (·.before.view)).getD (Moment.mk call session).after.storage.database := by
      rcases isLater with rfl | rfl
      · exact ih alone'
      · rfl
    rw [made, ended, goesOn]
    cases settled with
    | published publishes _ database =>
      rw [List.filter_cons_of_pos publishes, List.getLast?_cons, database]
      cases ((moments later (Moment.mk call session).after).filter Moment.publishes).getLast? <;> rfl
    | dropped publishes _ database | wrote publishes _ _ database | looked publishes _ _ database =>
      rw [List.filter_cons_of_neg (by simp [publishes]), database]

/-- After a unit of whatever calls, however it is left, the committed tables are those that it saw at the last
commit that took effect, and the first ones if none did. What it saw then is what the surviving calls alone have
written, one after the other: those after which the next commit or rollback is a commit that takes effect. -/
theorem unit_survivors (storage : Storage) (alone : storage.intrusions = []) (calls : List StoreCall) :
    let made := moments calls (opened storage)
    (unit calls storage).database =
      ((made.filter Moment.publishes).getLast?.map (·.before.view)).getD storage.database ∧
    storage.database.WroteAll (survivors made) (unit calls storage).database := by
  intro made
  have isAlone : (opened storage).IsAlone := alone
  rw [unit_eq]
  refine ⟨forM_database isAlone, ?_⟩
  have drafted : (opened storage).storage.database.WroteAll [] (opened storage).view := .nil
  have survived := forM_survivors calls isAlone drafted
  rw [ite_self, List.nil_append] at survived
  exact survived

/-- Of a unit that commits an account, and later fails with a change of it rolled back and another one not
committed, the account alone remains. -/
theorem unit_survivors_failed :
    let calls : List StoreCall :=
      [.addAccount { owner := some 1, kind := .checking }, .commit, .writeBalance 1 1 (.text "12.34"),
        .rollback, .writeStatus 1 1 .frozen, .raise .store]
    let made := moments calls (opened {})
    survivors made = [.addAccount { owner := some 1, kind := .checking }] ∧ made.length = 6 ∧
      (unit calls {}).database.accounts.map (fun row ↦ (row.status, row.balance, row.version)) =
        [(.active, "0.00", 1)] ∧
      Database.WroteAll {} (survivors made) (unit calls {}).database := by
  intro calls made
  exact ⟨rfl, by decide +kernel, by decide +kernel, (unit_survivors {} rfl calls).2⟩

end StoreCall

end Passbook
