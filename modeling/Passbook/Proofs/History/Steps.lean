import Passbook.Proofs.Clients.Lifecycle
import Passbook.Proofs.Ledger.Reconciliation

/-!
Tables as the ledger's own units leave them. `Database.Step` is what one committed unit does, and
`Database.Attained` says that tables arise from empty ones, through requests one after the other or among
any number of clients at once, wherever the store fails. Main statement: what holds of empty tables and is
kept by every unit holds of all tables that arise (`Attained.induct`).
-/

set_option autoImplicit false
set_option relaxedAutoImplicit false

namespace Passbook

/-- What one unit of the ledger's own does to the tables. -/
inductive Database.Step (before after : Database) : Prop
  | posted (posting : Posting) (cents : Int) (row : TransactionRow) :
      posting.Moves cents → before.Posted posting cents row after → Step before after
  | statusChanged (id : Int) (status : AccountStatus) (reason : String) (old : AccountRow) :
      before.StatusChanged id status reason old after → Step before after
  | opened (row : AccountRow) : before.Opened row after → Step before after

/-- Tables that arise from empty ones while nobody but the ledger's own operations writes: through requests
one after the other, or among clients whose steps follow each other in any order. -/
def Database.Attained (database : Database) : Prop :=
  Reached database ∨ ∃ events : List Event, (∀ id intrusion, .intrude id intrusion ∉ events) ∧
    ((World.start {}).run events).database = database

theorem Request.Done.step {request : Request} {before after : Storage}
    (done : request.Done before after) : before.database.Step after.database := by
  cases done with
  | opened _ _ row opened => exact .opened row opened
  | statusChanged id status reason old changed => exact .statusChanged id status reason old changed
  | posted _ _ _ _ row applied =>
    obtain ⟨posting, cents, -, -, moves, posted⟩ := applied
    exact .posted posting cents row moves posted

theorem Deed.Effect.step {deed : Deed} {before after : Database} (effect : deed.Effect before after)
    (own : ∀ id intrusion, deed ≠ .intruded id intrusion) : before.Step after := by
  cases effect with
  | posted posting cents row moves posted => exact .posted posting cents row moves posted
  | statusChanged id status reason old changed => exact .statusChanged id status reason old changed
  | opened _ _ row opened => exact .opened row opened
  | intruded id intrusion => exact absurd rfl (own id intrusion)

namespace Database

variable {before after database : Database}

/-- What holds of empty tables and is kept by every unit holds of all tables that arise. -/
theorem Attained.induct (property : Database → Prop) (empty : property {})
    (step : ∀ before after, property before → Step before after → property after)
    (attained : database.Attained) : property database := by
  rcases attained with reached | ⟨events, own, rfl⟩
  · induction reached with
    | empty => exact empty
    | request ledger request _ alone ih =>
      rcases request.perform_cases alone with same | done
      · exact same ▸ ih
      · exact step _ _ ih done.step
  · refine (World.run_induct (fun world ↦ property world.database) (World.sound_start {}) empty
      events ?_).2
    intro before event deed after member holds stepped
    have own : ∀ done ∈ deed, ∀ id intrusion, done ≠ .intruded id intrusion :=
      stepped.own fun id intrusion same ↦ own id intrusion (same ▸ member)
    cases stepped.committed with
    | nothing same =>
      have same : after.database = before.database := same
      exact same ▸ holds
    | unit done effect _ => exact step _ _ holds (effect.step (own done rfl))

theorem Reconciled.step (reconciled : before.Reconciled) (step : before.Step after) :
    after.Reconciled := by
  cases step with
  | posted posting cents row moves posted => exact reconciled.posted moves posted
  | statusChanged id status reason old changed => exact reconciled.statusChanged changed
  | opened row opened => exact reconciled.opened opened

/-- Balances and transactions agree in all tables that arise. -/
theorem Attained.reconciled (attained : database.Attained) : database.Reconciled :=
  attained.induct Reconciled reconciled_empty fun _ _ reconciled step ↦ reconciled.step step

/-! ### Accounts from one unit to the next -/

/-- After a movement every account is as before, or has a new balance and is involved. -/
theorem Posted.account?_cases {posting : Posting} {cents : Int} {new : TransactionRow}
    (posted : before.Posted posting cents new after) {id : Int} {row : AccountRow}
    (found : after.account? id = some row) :
    ∃ old, before.account? id = some old ∧
      (id ∉ posting.movement.accounts ∧ row = old ∨
        id ∈ posting.movement.accounts ∧ ∃ balance, row = withBalance old balance) := by
  by_cases involved : id ∈ posting.movement.accounts
  · have isLeg := involved
    rw [Movement.accounts_eq_legs] at isLeg
    obtain ⟨leg, member, rfl⟩ := List.mem_map.1 isLeg
    obtain ⟨old, _, _, number, there, -, -, -, -, written, moved⟩ := posted.legs leg member
    rw [written] at found
    obtain rfl := Option.some.inj found
    exact ⟨old, there, Or.inr ⟨involved, number.text, moved.eq_withBalance⟩⟩
  · rw [posted.others id involved] at found
    exact ⟨row, found, Or.inl ⟨involved, rfl⟩⟩

/-- After a change of status every account is as before, or is the one that has the new status. -/
theorem StatusChanged.account?_cases {id : Int} {status : AccountStatus} {reason : String}
    {old : AccountRow} (changed : before.StatusChanged id status reason old after) {other : Int}
    {row : AccountRow} (found : after.account? other = some row) :
    other ≠ id ∧ before.account? other = some row ∨ other = id ∧ row = withStatus old status := by
  rw [changed.account?] at found
  split at found
  · next same => exact Or.inr ⟨same, (Option.some.inj found).symm⟩
  · next other => exact Or.inl ⟨other, found⟩

/-- After an account was opened every account is as before, or is the new one. -/
theorem Opened.account?_cases {new : AccountRow} (opened : before.Opened new after) {id : Int}
    {row : AccountRow} (found : after.account? id = some row) :
    id ≠ new.id ∧ before.account? id = some row ∨ id = new.id ∧ row = new := by
  rw [opened.account?] at found
  by_cases same : new.id = id
  · rw [if_pos same, ← same, opened.unused] at found
    exact Or.inr ⟨same.symm, (Option.some.inj found).symm⟩
  · rw [if_neg same, Option.or_none] at found
    exact Or.inl ⟨fun same' ↦ same same'.symm, found⟩

/-- Accounts that are there stay there. -/
theorem Step.isSome_account? (step : before.Step after) (id : Int)
    (there : (before.account? id).isSome = true) : (after.account? id).isSome = true := by
  have advances : before.Advances after := by
    cases step with
    | posted _ _ _ _ posted => exact posted.advances
    | statusChanged _ _ _ _ changed => exact changed.advances
    | opened _ opened => exact opened.advances
  obtain ⟨row, found⟩ := Option.isSome_iff_exists.1 there
  obtain ⟨later, found', -⟩ := advances id row found
  exact Option.isSome_iff_exists.2 ⟨later, found'⟩

end Database

end Passbook
