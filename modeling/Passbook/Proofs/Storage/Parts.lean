import Passbook.Proofs.Procedure
import Passbook.Storage.Log

/-!
The parts of a unit of work and the steps that they consist of. A relation between two moments of a unit that
every step of reading leaves is left by every part that reads (`Work.LeftByReading`), one that every step of
drafting leaves by every part that writes and keeps nothing (`Work.LeftByDrafting`), one that keeping what was written
leaves too by every part that writes (`Work.LeftByChanging`), and one that all leave by every part but the commit
(`Work.LeftByWriting`). Some relations hold only across certain of the points at which the store may
fail, and so only for parts that go through no others.
-/

set_option autoImplicit false
set_option relaxedAutoImplicit false

namespace Passbook.Work

open Procedure

/-- A relation that holds across every step of reading: going through certain points, connecting, keeping what
was read, and letting another writer in. -/
structure LeftByReading (across : Point → Prop) (relation : Session → Session → Prop) : Prop where
  pass : ∀ point, across point → (pass point).Leaves relation
  connect : connect.Leaves relation
  remember : ∀ account, (remember account).Leaves relation
  admitIntruder : ∀ id, (admitIntruder id).Leaves relation

/-- A relation that holds across every step of drafting: going through certain points, connecting, and making the
tables other ones for the unit itself. Nobody else is let in, and nothing is kept of what was written. -/
structure LeftByDrafting (across : Point → Prop) (relation : Session → Session → Prop) : Prop where
  pass : ∀ point, across point → (pass point).Leaves relation
  connect : connect.Leaves relation
  write : ∀ database, (write database).Leaves relation
  now : now.Leaves relation
  drawReference : drawReference.Leaves relation

/-- A relation that holds across every step of writing: those of drafting, and keeping what was written. -/
structure LeftByChanging (across : Point → Prop) (relation : Session → Session → Prop) : Prop
    extends LeftByDrafting across relation where
  remember : ∀ account, (remember account).Leaves relation

/-- A relation that holds across every step of reading and of writing. -/
structure LeftByWriting (across : Point → Prop) (relation : Session → Session → Prop) : Prop
    extends LeftByReading across relation, LeftByChanging across relation

/-! ### What single steps may change -/

/-- Connecting changes nothing but that the unit is connected. -/
theorem connect_cases (session : Session) :
    (connect session).2 = session ∨ (connect session).2 = { session with connected := true } := by
  simp only [connect, run_bind, run_get, run_ite]
  split
  · exact Or.inl rfl
  · split
    · exact Or.inr rfl
    · exact Or.inl rfl

/-- A store that can be reached is connected to. -/
theorem connect_reachable {session : Session} (reachable : session.storage.reachable = true) :
    connect session = (.ok ⟨⟩, { session with connected := true }) := by
  obtain ⟨storage, pending, connected, loaded, committed⟩ := session
  dsimp only at reachable
  simp only [connect, run_bind, run_get, run_ite, reachable, if_true]
  cases connected <;> rfl

/-- Who was not connected before, and is now, can reach the store. -/
theorem reachable_of_connect {session after : Session} {result : Unit}
    (fresh : session.connected = false) (ran : connect session = (.ok result, after)) :
    session.storage.reachable = true := by
  by_contra unreachable
  simp only [connect, run_bind, run_get, run_ite, fresh, unreachable] at ran
  cases (Prod.mk.inj ran).1

/-- Another writer changes nothing but what waits to be written and the committed accounts. -/
theorem admitIntruder_after (id : Int) (session : Session) :
    ∃ intrusions accounts, (admitIntruder id session).2 =
      { session with
        storage := { session.storage with
          intrusions, database := { session.storage.database with accounts } } } := by
  unfold admitIntruder
  rw [run_bind, run_get]
  dsimp only
  rw [run_bind, run_set]
  dsimp only
  cases (Planned.next id session.storage.intrusions).1 with
  | none => exact ⟨_, _, rfl⟩
  | some intrusion =>
    dsimp only
    split
    · exact ⟨_, _, rfl⟩
    · cases session.storage.database.account? id with
      | none => exact ⟨_, _, rfl⟩
      | some row =>
        dsimp only
        rw [run_ite]
        split <;> exact ⟨_, _, rfl⟩

variable {across : Point → Prop} {relation : Session → Session → Prop} [IsPreorder Session relation]

/-! ### Steps that change nothing -/

theorem same_requireWord (number : Int) : (requireWord number).Leaves relation :=
  leaves_ite (leaves_pure _) (leaves_throw _)

theorem same_view : view.Leaves relation := leaves_bind leaves_get fun _ ↦ leaves_pure _

theorem same_boundAmount (given : Value) : (boundAmount given).Leaves relation := by
  unfold boundAmount
  split
  · exact leaves_pure _
  · exact leaves_pure _
  · exact leaves_pure _
  · exact leaves_throw _

/-! ### Parts that read -/

/-- Loading goes through its point, and then leaves the relation whether or not that point does. -/
theorem LeftByReading.load_eq (left : LeftByReading across relation) (id : Int) :
    ∃ rest : Bool → Work (Option Account),
      Work.load id = Work.pass .load >>= rest ∧ ∀ refused, (rest refused).Leaves relation := by
  refine ⟨_, rfl, fun refused ↦ ?_⟩
  refine leaves_bind left.connect fun _ ↦ ?_
  refine leaves_bind (same_requireWord id) fun _ ↦ ?_
  refine leaves_bind same_view fun database ↦ ?_
  split
  · exact leaves_bind (left.admitIntruder id) fun _ ↦ leaves_pure _
  · refine leaves_bind (leaves_ofExcept _) fun account ↦ ?_
    refine leaves_bind (left.remember account) fun _ ↦ ?_
    exact leaves_bind (left.admitIntruder id) fun _ ↦ leaves_pure _

theorem LeftByReading.load (left : LeftByReading across relation) (point : across .load) (id : Int) :
    (Work.load id).Leaves relation := by
  obtain ⟨rest, same, leaves⟩ := left.load_eq id
  rw [same]
  exact leaves_bind (left.pass .load point) leaves

/-- Looking for a transaction goes through its point, and then leaves the relation whether or not that point
does. -/
theorem LeftByReading.lookup_eq (left : LeftByReading across relation) (reference : Reference) :
    ∃ rest : Bool → Work (Option Record),
      Work.lookup reference = Work.pass .lookup >>= rest ∧ ∀ refused, (rest refused).Leaves relation := by
  refine ⟨_, rfl, fun refused ↦ ?_⟩
  refine leaves_bind left.connect fun _ ↦ ?_
  refine leaves_bind same_view fun database ↦ ?_
  split
  · exact leaves_pure _
  · exact leaves_bind (leaves_ofExcept _) fun _ ↦ leaves_pure _

theorem LeftByReading.lookup (left : LeftByReading across relation) (point : across .lookup)
    (reference : Reference) : (Work.lookup reference).Leaves relation := by
  obtain ⟨rest, same, leaves⟩ := left.lookup_eq reference
  rw [same]
  exact leaves_bind (left.pass .lookup point) leaves

theorem LeftByReading.held (left : LeftByReading across relation) (row : AccountRow) :
    (Work.held row).Leaves relation := by
  unfold Work.held
  refine leaves_bind leaves_get fun session ↦ ?_
  split
  · exact leaves_pure _
  · refine leaves_bind (leaves_ofExcept _) fun account ↦ ?_
    exact leaves_bind (left.remember account) fun _ ↦ leaves_pure _

theorem LeftByReading.accountNumbered (left : LeftByReading across relation) (number : String) :
    (Work.accountNumbered number).Leaves relation := by
  unfold Work.accountNumbered
  refine leaves_bind left.connect fun _ ↦ ?_
  refine leaves_bind same_view fun database ↦ ?_
  split
  · exact leaves_pure _
  · exact leaves_bind (left.held _) fun _ ↦ leaves_pure _

theorem LeftByReading.accountsOf (left : LeftByReading across relation) (owner : Int) :
    (Work.accountsOf owner).Leaves relation := by
  unfold Work.accountsOf
  refine leaves_bind left.connect fun _ ↦ ?_
  refine leaves_bind (same_requireWord owner) fun _ ↦ ?_
  exact leaves_bind same_view fun database ↦ leaves_mapM left.held _

theorem LeftByReading.transaction (left : LeftByReading across relation) (id : Int) :
    (Work.transaction id).Leaves relation := by
  unfold Work.transaction
  refine leaves_bind left.connect fun _ ↦ ?_
  refine leaves_bind (same_requireWord id) fun _ ↦ ?_
  refine leaves_bind same_view fun database ↦ ?_
  split
  · exact leaves_pure _
  · exact leaves_bind (leaves_ofExcept _) fun _ ↦ leaves_pure _

theorem LeftByReading.historyRows (left : LeftByReading across relation) (account limit : Int) :
    (Work.historyRows account limit).Leaves relation := by
  unfold Work.historyRows
  refine leaves_bind left.connect fun _ ↦ ?_
  refine leaves_bind (same_requireWord account) fun _ ↦ ?_
  refine leaves_bind (same_requireWord limit) fun _ ↦ ?_
  exact leaves_bind same_view fun database ↦ leaves_pure _

theorem LeftByReading.history (left : LeftByReading across relation) (account limit : Int) :
    (Work.history account limit).Leaves relation := by
  unfold Work.history
  refine leaves_bind (left.historyRows account limit) fun rows ↦ ?_
  exact leaves_mapM (fun row ↦ leaves_ofExcept _) rows

/-! ### Parts that write -/

theorem LeftByDrafting.beginWrite (left : LeftByDrafting across relation) :
    Work.beginWrite.Leaves relation :=
  leaves_bind same_view fun _ ↦ left.write _

theorem LeftByDrafting.writeBalance (left : LeftByDrafting across relation) (point : across .balanceWrite)
    (id version : Int) (balance : Value) : (Work.writeBalance id version balance).Leaves relation := by
  unfold Work.writeBalance
  refine leaves_bind (left.pass .balanceWrite point) fun refused ↦ ?_
  refine leaves_ite (leaves_pure _) ?_
  refine leaves_bind left.connect fun _ ↦ ?_
  refine leaves_bind (same_boundAmount balance) fun bound ↦ ?_
  refine leaves_bind (same_requireWord id) fun _ ↦ ?_
  refine leaves_bind (same_requireWord version) fun _ ↦ ?_
  refine leaves_bind left.beginWrite fun _ ↦ ?_
  refine leaves_bind same_view fun database ↦ ?_
  split
  · exact leaves_pure _
  · split
    · refine leaves_ite (leaves_throw _) ?_
      exact leaves_bind (left.write _) fun _ ↦ leaves_pure _
    · exact leaves_throw _

theorem LeftByDrafting.writeStatus (left : LeftByDrafting across relation) (point : across .statusWrite)
    (id version : Int) (status : AccountStatus) :
    (Work.writeStatus id version status).Leaves relation := by
  unfold Work.writeStatus
  refine leaves_bind (left.pass .statusWrite point) fun refused ↦ ?_
  refine leaves_ite (leaves_pure _) ?_
  refine leaves_bind left.connect fun _ ↦ ?_
  refine leaves_bind (same_requireWord id) fun _ ↦ ?_
  refine leaves_bind (same_requireWord version) fun _ ↦ ?_
  refine leaves_bind left.beginWrite fun _ ↦ ?_
  refine leaves_bind same_view fun database ↦ ?_
  split
  · exact leaves_pure _
  · exact leaves_bind (left.write _) fun _ ↦ leaves_pure _

theorem LeftByDrafting.insertTransaction (left : LeftByDrafting across relation) (new : NewTransaction) :
    (Work.insertTransaction new).Leaves relation := by
  unfold Work.insertTransaction
  refine leaves_bind left.connect fun _ ↦ ?_
  extract_lets withReference
  suffices goesOn : ∀ reference, (withReference reference).Leaves relation by
    split
    · exact leaves_bind (leaves_pure _) goesOn
    · exact leaves_bind left.drawReference goesOn
  intro reference
  unfold withReference
  extract_lets withInstant
  suffices goesOn : ∀ recordedAt, (withInstant recordedAt).Leaves relation by
    split
    · exact leaves_bind (leaves_pure _) goesOn
    · exact leaves_bind left.now goesOn
  intro recordedAt
  unfold withInstant
  refine leaves_bind (same_boundAmount _) fun bound ↦ ?_
  refine leaves_bind (same_requireWord _) fun _ ↦ ?_
  refine leaves_bind (same_requireWord _) fun _ ↦ ?_
  refine leaves_bind (same_requireWord _) fun _ ↦ ?_
  refine leaves_bind left.beginWrite fun _ ↦ ?_
  refine leaves_bind same_view fun database ↦ ?_
  split
  · split
    · refine leaves_ite (leaves_throw _) ?_
      split
      · refine leaves_ite (leaves_throw _) (leaves_ite (leaves_throw _) ?_)
        exact leaves_bind (left.write _) fun _ ↦ leaves_pure _
      · exact leaves_throw _
    · exact leaves_throw _
  · exact leaves_throw _

theorem LeftByDrafting.append (left : LeftByDrafting across relation) (point : across .append)
    (record : Record) : (Work.append record).Leaves relation := by
  unfold Work.append
  refine leaves_bind (left.pass .append point) fun _ ↦ ?_
  exact leaves_bind (left.insertTransaction _) fun row ↦ leaves_pure _

theorem LeftByChanging.addAccount (left : LeftByChanging across relation) (new : NewAccount) :
    (Work.addAccount new).Leaves relation := by
  unfold Work.addAccount
  refine leaves_bind left.connect fun _ ↦ ?_
  refine leaves_bind (same_boundAmount _) fun bound ↦ ?_
  refine leaves_bind (same_requireWord _) fun _ ↦ ?_
  refine leaves_bind (same_requireWord _) fun _ ↦ ?_
  refine leaves_bind left.beginWrite fun _ ↦ ?_
  refine leaves_bind same_view fun database ↦ ?_
  split
  · split
    · refine leaves_ite (leaves_throw _) (leaves_ite (leaves_throw _) (leaves_ite (leaves_throw _) ?_))
      refine leaves_bind (left.write _) fun _ ↦ ?_
      refine leaves_bind (leaves_ofExcept _) fun account ↦ ?_
      exact leaves_bind (left.remember _) fun _ ↦ leaves_pure _
    · exact leaves_throw _
  · exact leaves_throw _

theorem LeftByDrafting.recordEvent (left : LeftByDrafting across relation) (account : Int)
    (event : AuditEvent) : (Work.recordEvent account event).Leaves relation := by
  unfold Work.recordEvent
  exact leaves_bind same_view fun _ ↦ left.write _

end Passbook.Work
