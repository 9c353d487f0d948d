import Passbook.Proofs.Storage.Balances

/-!
Conditional writes: a balance or a status is written in the row of an account if that still has the version that
was read. Main statements: such a write replaces this one row by one whose version is higher by one, or changes
nothing, and the committed tables stay as they are either way (`Rewrite.settles`); it tells that it has written
exactly if the row was there at that version, unless the store was told to refuse (`Rewrite.Ends.told_iff`); and it
does not fail if the store can be reached and holds what it is given (`Rewrite.tells`).
-/

set_option autoImplicit false
set_option relaxedAutoImplicit false

namespace Passbook

open Procedure Session Work

/-- What a conditional write sets: the balance of an account or its status. -/
inductive Rewrite where
  | balance (given : Value)
  | status (status : AccountStatus)
deriving Repr

namespace Rewrite

/-- The point that a conditional write goes through. -/
def point : Rewrite → Point
  | .balance _ => .balanceWrite
  | .status _ => .statusWrite

/-- A conditional write, of the version of an account that was read. -/
def work (id version : Int) : Rewrite → Work Bool
  | .balance given => writeBalance id version given
  | .status wanted => writeStatus id version wanted

/-- The call of a conditional write. -/
def call (id version : Int) : Rewrite → StoreCall
  | .balance given => .writeBalance id version given
  | .status wanted => .writeStatus id version wanted

/-- The row that a conditional write makes of one: the balance is what the column takes of the value, and the
version is the next. -/
inductive Makes (old : AccountRow) : Rewrite → AccountRow → Prop
  | balance (given : Value) (content : String) : Money.Takes given content →
      Makes old (.balance given) { old with balance := content, version := old.version + 1 }
  | status (wanted : AccountStatus) :
      Makes old (.status wanted) { old with status := wanted, version := old.version + 1 }

variable {rewrite : Rewrite} {old new : AccountRow}

theorem Makes.same (makes : rewrite.Makes old new) :
    new.id = old.id ∧ new.number = old.number ∧ new.owner = old.owner ∧ new.version = old.version + 1 := by
  cases makes <;> exact ⟨rfl, rfl, rfl, rfl⟩

/-- How a conditional write ends: it has replaced the row, or it has missed it, or it has failed and changed nothing
either. -/
inductive Ends (rewrite : Rewrite) (id version : Int) (before : Session) (after : Database) :
    Except Failure Bool → Prop
  | written (old new : AccountRow) : fitsWord id = true → before.view.accountAt? id version = some old →
      rewrite.Makes old new → after = before.view.replace new → Ends rewrite id version before after (.ok true)
  | missed : Misses rewrite.point id version before false → after = before.view →
      Ends rewrite id version before after (.ok false)
  | failed (failure : Failure) : after = before.view → Ends rewrite id version before after (.error failure)

/-- A part that is spared the writing if it misses ends so. -/
theorem ends_of_amends (rewrite : Rewrite) {id version : Int} {session : Session} {part : Work Bool}
    {wrote : Except Failure Bool → Database → Prop}
    (writes : ∀ outcome database, wrote outcome database → rewrite.Ends id version session database outcome)
    (amends : Amends Stays session (Misses rewrite.point id version session) wrote part session) :
    rewrite.Ends id version session (part session).2.view (part session).1 ∧
      (part session).2.storage.database = session.storage.database ∧
      (part session).2.storage.intrusions = session.storage.intrusions := by
  cases amends with
  | spared outcome after ended same tells =>
    rw [ended]
    refine ⟨?_, same.database, same.intrusions⟩
    cases outcome with
    | error failure => exact .failed failure same.view
    | ok told =>
      obtain ⟨rfl, cause⟩ := tells told rfl
      exact .missed ⟨rfl, cause⟩ same.view
  | wrote outcome middle after database ended same left written =>
    have view : after.view = database := left.view
    rw [ended]
    refine ⟨?_, left.database.trans same.database, left.intrusions.trans same.intrusions⟩
    rw [view]
    exact writes outcome database written

/-- A conditional write has replaced the row of the version that was read by one whose version is higher by one,
or the unit sees the tables that it saw; the committed tables are the same either way. -/
theorem settles (rewrite : Rewrite) (id version : Int) (session : Session) :
    rewrite.Ends id version session (rewrite.work id version session).2.view (rewrite.work id version session).1 ∧
      (rewrite.work id version session).2.storage.database = session.storage.database ∧
      (rewrite.work id version session).2.storage.intrusions = session.storage.intrusions := by
  cases rewrite with
  | balance given =>
    refine ends_of_amends (.balance given) ?_ (amends_writeBalance id version given session)
    rintro outcome after ⟨rfl, row, cents, writes⟩
    exact .written row _ writes.fits writes.found
      (.balance given _ (Money.takes_iff.2 ⟨cents, writes.brought, writes.holds, rfl⟩)) writes.written
  | status wanted =>
    refine ends_of_amends (.status wanted) ?_ (amends_writeStatus id version wanted session)
    rintro outcome after ⟨rfl, fits, row, found, written⟩
    exact .written row _ fits found (.status wanted) written

/-- A conditional write keeps nothing of what it has written. -/
theorem loaded_work (rewrite : Rewrite) (id version : Int) (session : Session) :
    (rewrite.work id version session).2.loaded = session.loaded := by
  cases rewrite with
  | balance given => exact leftByDrafting_keepsLoaded.writeBalance trivial id version given session
  | status wanted => exact leftByDrafting_keepsLoaded.writeStatus trivial id version wanted session

/-- The call of a conditional write leaves what the write leaves. -/
theorem work_call (rewrite : Rewrite) (id version : Int) (session : Session) :
    ((rewrite.call id version).work session).2 = (rewrite.work id version session).2 := by
  cases rewrite <;> exact congrArg Prod.snd (run_discard _ session)

/-! ### What it tells -/

/-- A conditional write that does not fail tells that it has written exactly if the account is there at the version
that was read, unless the store was told to refuse. -/
theorem Ends.told_iff {id version : Int} {before : Session} {after : Database} {told : Bool}
    (ends : rewrite.Ends id version before after (.ok told))
    (spared : (Planned.next rewrite.point before.storage.faults).1 ≠ some .refusal) :
    told = true ↔ ∃ row, before.view.account? id = some row ∧ row.version = version := by
  cases ends with
  | written old new _ found => exact ⟨fun _ ↦ ⟨old, Database.accountAt?_eq_some found⟩, fun _ ↦ rfl⟩
  | missed misses =>
    refine ⟨fun told ↦ (by cases told), ?_⟩
    rintro ⟨row, found, rfl⟩
    have missing := misses.cause.resolve_left spared
    simp [Database.accountAt?, found] at missing

/-- What is to be set can be stored: a status always, and a balance if the column takes the value. -/
def IsStorable : Rewrite → Prop
  | .balance given => ∃ content, Money.Takes given content
  | .status _ => True

/-- A conditional write does not fail if the store can be reached and does not fail at its point, and if it can hold
what it is given. -/
theorem tells (rewrite : Rewrite) {id version : Int} {session : Session}
    (reachable : session.storage.reachable = true)
    (passes : (Planned.next rewrite.point session.storage.faults).1 = none) (fits : fitsWord id = true)
    (fits' : fitsWord version = true) (storable : rewrite.IsStorable) :
    (rewrite.work id version session).1 = .ok (session.view.accountAt? id version).isSome := by
  obtain ⟨after, passed, reachable', view⟩ : ∃ after, pass rewrite.point session = (.ok false, after) ∧
      after.storage.reachable = true ∧ ({ after with connected := true } : Session).view = session.view := by
    refine ⟨withFaults session (Planned.next rewrite.point session.storage.faults).2, ?_, reachable, rfl⟩
    rw [pass_run, passes]
    rfl
  have begins : beginWrite { after with connected := true } =
      (.ok ⟨⟩, { after with connected := true, pending := some session.view }) := by
    unfold beginWrite
    rw [run_bind_ok (view_of_eq view)]
    rfl
  have seen : Work.view { after with connected := true, pending := some session.view } =
      (.ok session.view, { after with connected := true, pending := some session.view }) := rfl
  cases rewrite with
  | balance given =>
    obtain ⟨content, takes⟩ := storable
    obtain ⟨cents, brought, holds, -⟩ := Money.takes_iff.1 takes
    change (writeBalance id version given session).1 = _
    change pass .balanceWrite session = (.ok false, after) at passed
    unfold writeBalance
    rw [run_bind_ok passed, if_neg Bool.false_ne_true, run_bind_ok (connect_reachable reachable'),
      run_bind_ok (boundAmount_rounded brought _), run_bind_ok (requireWord_of_fits fits _),
      run_bind_ok (requireWord_of_fits fits' _), run_bind_ok begins, run_bind_ok seen]
    cases session.view.accountAt? id version with
    | none => rfl
    | some row =>
      dsimp only
      rw [if_neg (by simpa using holds)]
      rfl
  | status wanted =>
    change (writeStatus id version wanted session).1 = _
    change pass .statusWrite session = (.ok false, after) at passed
    unfold writeStatus
    rw [run_bind_ok passed, if_neg Bool.false_ne_true, run_bind_ok (connect_reachable reachable'),
      run_bind_ok (requireWord_of_fits fits _), run_bind_ok (requireWord_of_fits fits' _), run_bind_ok begins,
      run_bind_ok seen]
    cases session.view.accountAt? id version <;> rfl

end Rewrite

end Passbook
