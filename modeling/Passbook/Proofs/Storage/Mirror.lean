import Passbook.Proofs.Storage.Frame

/-!
Units in isolation. A calm unit mirrors another one if both see the same tables at the same time and
nothing ever goes wrong with the calm one. What a unit has done with a result, its calm mirror does with
the same result (`Mirrored`), and afterwards both see the same tables again. So whatever was made
permanent by a unit that was disturbed on the way is what the same unit does on its own.
-/

set_option autoImplicit false
set_option relaxedAutoImplicit false

namespace Passbook

open Procedure

/-- Nothing will ever go wrong with the unit. -/
structure Session.Calm (session : Session) : Prop where
  faults : session.storage.faults = []
  intrusions : session.storage.intrusions = []
  reachable : session.storage.reachable = true

/-- A calm unit that sees what another one sees. -/
structure Session.Mirrors (session calm : Session) : Prop where
  alone : session.IsAlone
  quiet : calm.Calm
  view : calm.view = session.view
  clock : calm.storage.clock = session.storage.clock

theorem Session.Mirrors.trans {session first second : Session} (mirrors : session.Mirrors first)
    (again : first.Mirrors second) : session.Mirrors second :=
  ⟨mirrors.alone, again.quiet, again.view.trans mirrors.view, again.clock.trans mirrors.clock⟩

theorem Session.Calm.mirrors {session : Session} (calm : session.Calm) : session.Mirrors session :=
  ⟨calm.intrusions, calm, rfl, rfl⟩

namespace Work

variable {Result First Item : Type}

/-- Every result of the work that has a property is had by a calm mirror too. -/
def MirroredWhen (property : Result → Prop) (work : Work Result) : Prop :=
  ∀ session calm result after, session.Mirrors calm → work session = (.ok result, after) →
    property result → ∃ after', work calm = (.ok result, after') ∧ after.Mirrors after'

/-- Every result of the work is had by a calm mirror too. -/
def Mirrored (work : Work Result) : Prop := work.MirroredWhen fun _ ↦ True

section Combinators

theorem Mirrored.of_run {work : Work Result} (mirrored : work.Mirrored)
    {session calm after : Session} {result : Result} (mirrors : session.Mirrors calm)
    (ran : work session = (.ok result, after)) :
    ∃ after', work calm = (.ok result, after') ∧ after.Mirrors after' :=
  mirrored session calm result after mirrors ran trivial

theorem mirrored_pure (result : Result) : (pure result : Work Result).Mirrored := by
  intro session calm value after mirrors ran _
  obtain ⟨same, rfl⟩ := Prod.mk.inj ran
  obtain rfl := Except.ok.inj same
  exact ⟨calm, rfl, mirrors⟩

theorem mirrored_throw (failure : Failure) : (throw failure : Work Result).Mirrored := by
  intro session calm value after mirrors ran _
  cases (Prod.mk.inj ran).1

theorem mirrored_ofExcept (outcome : Except Failure Result) :
    Mirrored (Procedure.ofExcept outcome : Work Result) := by
  intro session calm value after mirrors ran _
  obtain ⟨rfl, rfl⟩ := ok_of_ofExcept ran
  exact ⟨calm, rfl, mirrors⟩

theorem Mirrored.when {work : Work Result} (mirrored : work.Mirrored) (property : Result → Prop) :
    work.MirroredWhen property :=
  fun _ _ _ _ mirrors ran _ ↦ mirrored.of_run mirrors ran

/-- Two parts are mirrored if from a result of the first that is not the second never comes to one that
counts. -/
theorem mirrored_bind_when {property : First → Prop} {counts : Result → Prop} {first : Work First}
    {next : First → Work Result} (begins : first.MirroredWhen property)
    (goesOn : ∀ value, property value → (next value).MirroredWhen counts)
    (stops : ∀ value session result after, ¬property value →
      next value session = (.ok result, after) → ¬counts result) :
    (first >>= next).MirroredWhen counts := by
  intro session calm result after mirrors ran counted
  obtain ⟨value, middle, done, ran⟩ := ok_of_bind ran
  by_cases has : property value
  · obtain ⟨middle', done', mirrors'⟩ := begins session calm value middle mirrors done has
    obtain ⟨after', ran', mirrors''⟩ :=
      goesOn value has middle middle' result after mirrors' ran counted
    exact ⟨after', (run_bind_ok done' next).trans ran', mirrors''⟩
  · exact absurd counted (stops value middle result after has ran)

theorem mirrored_bind {first : Work First} {next : First → Work Result}
    (begins : first.Mirrored) (goesOn : ∀ value, (next value).Mirrored) :
    (first >>= next).Mirrored :=
  mirrored_bind_when begins (fun value _ ↦ goesOn value) fun _ _ _ _ never ↦ absurd trivial never

theorem mirrored_ite {condition : Prop} [Decidable condition] {first second : Work Result}
    (positive : first.Mirrored) (negative : second.Mirrored) :
    (if condition then first else second).Mirrored := by
  split
  · exact positive
  · exact negative

theorem mirrored_forM {body : Item → Work PUnit} (each : ∀ item, (body item).Mirrored)
    (items : List Item) : (items.forM body).Mirrored := by
  induction items with
  | nil => exact mirrored_pure _
  | cons item rest ih => exact mirrored_bind (each item) fun _ ↦ ih

end Combinators

theorem pass_calm (point : Point) {calm : Session} (isCalm : calm.Calm) :
    pass point calm = (.ok false, calm) := by
  obtain ⟨storage, pending, connected, loaded, committed⟩ := calm
  obtain ⟨database, reachable, faults, intrusions, clock, drawn⟩ := storage
  obtain rfl : faults = [] := isCalm.faults
  rfl

/-- A point that struck with no failure strikes a calm mirror with nothing. -/
theorem mirrored_pass {point : Point} (before : point ≠ .acknowledgement) :
    (pass point).MirroredWhen (· = false) := by
  intro session calm refused after mirrors ran spared
  have reads := (leaves_pass before).of_eq ran
  obtain ⟨view, clock⟩ := reads.2 mirrors.alone
  refine ⟨calm, spared ▸ pass_calm point mirrors.quiet, (reads.1 mirrors.alone).1, mirrors.quiet, ?_, ?_⟩
  · rw [view, mirrors.view]
  · rw [clock, mirrors.clock]

/-- Where a refusal is of no account, going through a point is mirrored in any case. -/
theorem mirrored_pass_bind {point : Point} (before : point ≠ .acknowledgement)
    {next : Work Result} (goesOn : next.Mirrored) :
    (do let _ ← pass point; next : Work Result).Mirrored := by
  intro session calm result after mirrors ran _
  obtain ⟨refused, middle, passed, ran⟩ := ok_of_bind ran
  have reads := (leaves_pass before).of_eq passed
  obtain ⟨view, clock⟩ := reads.2 mirrors.alone
  have mirrors' : middle.Mirrors calm :=
    ⟨(reads.1 mirrors.alone).1, mirrors.quiet, view ▸ mirrors.view, clock ▸ mirrors.clock⟩
  obtain ⟨after', ran', mirrors''⟩ := goesOn.of_run mirrors' ran
  exact ⟨after', (run_bind_ok (pass_calm point mirrors.quiet) _).trans ran', mirrors''⟩

/-! ### The parts of a unit -/

theorem connect_calm {calm : Session} (isCalm : calm.Calm) :
    ∃ after, connect calm = (.ok ⟨⟩, after) ∧ calm.Mirrors after :=
  ⟨_, connect_reachable isCalm.reachable, isCalm.intrusions,
    ⟨isCalm.faults, isCalm.intrusions, isCalm.reachable⟩, rfl, rfl⟩

theorem mirrored_connect : connect.Mirrored := by
  intro session calm result after mirrors ran _
  have reads := leaves_connect.of_eq ran
  obtain ⟨view, clock⟩ := reads.2 mirrors.alone
  obtain ⟨after', done, mirrors'⟩ := connect_calm mirrors.quiet
  refine ⟨after', done, (reads.1 mirrors.alone).1, mirrors'.quiet, ?_, ?_⟩
  · rw [mirrors'.view, mirrors.view, view]
  · rw [mirrors'.clock, mirrors.clock, clock]

theorem mirrored_requireWord (number : Int) : (requireWord number).Mirrored :=
  mirrored_ite (mirrored_pure _) (mirrored_throw _)

theorem mirrored_view : view.Mirrored := by
  intro session calm database after mirrors ran _
  obtain ⟨same, rfl⟩ := Prod.mk.inj ran
  obtain rfl := Except.ok.inj same
  refine ⟨calm, ?_, mirrors⟩
  rw [← mirrors.view]
  rfl

theorem mirrored_boundAmount (given : Value) : (boundAmount given).Mirrored := by
  unfold boundAmount
  split
  · exact mirrored_pure _
  · exact mirrored_pure _
  · exact mirrored_pure _
  · exact mirrored_throw _

/-- A change that is the same for all units that see the same is mirrored. -/
theorem mirrored_modify {change : Session → Session}
    (mirrors : ∀ session calm, session.Mirrors calm → (change session).Mirrors (change calm)) :
    (modify change : Work Unit).Mirrored := by
  intro session calm result after related ran _
  obtain ⟨same, rfl⟩ := Prod.mk.inj ran
  obtain rfl := Except.ok.inj same
  exact ⟨change calm, rfl, mirrors session calm related⟩

theorem mirrored_remember (account : Account) : (remember account).Mirrored :=
  mirrored_modify fun _ _ mirrors ↦
    ⟨mirrors.alone, ⟨mirrors.quiet.faults, mirrors.quiet.intrusions, mirrors.quiet.reachable⟩,
      mirrors.view, mirrors.clock⟩

theorem mirrored_write (database : Database) : (write database).Mirrored :=
  mirrored_modify fun _ _ mirrors ↦
    ⟨mirrors.alone, ⟨mirrors.quiet.faults, mirrors.quiet.intrusions, mirrors.quiet.reachable⟩,
      rfl, mirrors.clock⟩

theorem mirrored_beginWrite : beginWrite.Mirrored :=
  mirrored_bind mirrored_view mirrored_write

theorem mirrored_now : now.Mirrored := by
  intro session calm instant after mirrors ran _
  obtain ⟨same, rfl⟩ := Prod.mk.inj ran
  obtain rfl := Except.ok.inj same
  refine ⟨{ calm with storage := { calm.storage with clock := calm.storage.clock + 1 } }, ?_,
    mirrors.alone, ⟨mirrors.quiet.faults, mirrors.quiet.intrusions, mirrors.quiet.reachable⟩,
    mirrors.view, congrArg (· + 1) mirrors.clock⟩
  rw [← mirrors.clock]
  rfl

theorem requireWord_of_fits {number : Int} (fits : fitsWord number = true) (session : Session) :
    requireWord number session = (.ok ⟨⟩, session) := by
  rw [requireWord, if_pos fits]
  rfl

theorem view_of_eq {session : Session} {database : Database} (same : session.view = database) :
    view session = (.ok database, session) :=
  same ▸ rfl

/-- A calm unit loads an account that can be read. -/
theorem load_calm {id : Int} {row : AccountRow} {account : Account} {calm : Session}
    (isCalm : calm.Calm) (fits : fitsWord id = true) (found : calm.view.account? id = some row)
    (isRead : row.read = .ok account) :
    ∃ after, load id calm = (.ok (some account), after) ∧ calm.Mirrors after := by
  obtain ⟨connected, connects, mirrors⟩ := connect_calm isCalm
  unfold load
  rw [run_bind_ok (pass_calm .load isCalm), run_bind_ok connects,
    run_bind_ok (requireWord_of_fits fits connected), run_bind_ok (view_of_eq mirrors.view), found]
  dsimp only
  have reading : (Procedure.ofExcept row.read : Work Account) connected =
      (.ok account, connected) := by
    rw [isRead]
    rfl
  obtain ⟨remembered, remembers, mirrors'⟩ :=
    (mirrored_remember account).of_run mirrors.quiet.mirrors rfl
  rw [run_bind_ok reading, run_bind_ok remembers,
    run_bind_ok (admitIntruder_alone id mirrors'.quiet.intrusions)]
  refine ⟨remembered, rfl, mirrors.trans ?_⟩
  exact ⟨mirrors.quiet.intrusions, mirrors'.quiet, mirrors'.view, mirrors'.clock⟩

theorem mirrored_writeBalance (id version : Int) (balance : Value) :
    (writeBalance id version balance).MirroredWhen (· = true) := by
  unfold writeBalance
  refine mirrored_bind_when (mirrored_pass (by decide)) (fun refused spared ↦ ?_) ?_
  · subst spared
    refine Mirrored.when ?_ _
    rw [if_neg (by decide)]
    refine mirrored_bind mirrored_connect fun _ ↦ ?_
    refine mirrored_bind (mirrored_boundAmount balance) fun bound ↦ ?_
    refine mirrored_bind (mirrored_requireWord id) fun _ ↦ ?_
    refine mirrored_bind (mirrored_requireWord version) fun _ ↦ ?_
    refine mirrored_bind mirrored_beginWrite fun _ ↦ ?_
    refine mirrored_bind mirrored_view fun database ↦ ?_
    split
    · exact mirrored_pure _
    · split
      · refine mirrored_ite (mirrored_throw _) ?_
        exact mirrored_bind (mirrored_write _) fun _ ↦ mirrored_pure _
      · exact mirrored_throw _
  · intro refused session result after struck ran
    rw [Bool.not_eq_false] at struck
    rw [if_pos struck] at ran
    rw [← Except.ok.inj (Prod.mk.inj ran).1]
    decide

theorem mirrored_writeStatus (id version : Int) (status : AccountStatus) :
    (writeStatus id version status).MirroredWhen (· = true) := by
  unfold writeStatus
  refine mirrored_bind_when (mirrored_pass (by decide)) (fun refused spared ↦ ?_) ?_
  · subst spared
    refine Mirrored.when ?_ _
    rw [if_neg (by decide)]
    refine mirrored_bind mirrored_connect fun _ ↦ ?_
    refine mirrored_bind (mirrored_requireWord id) fun _ ↦ ?_
    refine mirrored_bind (mirrored_requireWord version) fun _ ↦ ?_
    refine mirrored_bind mirrored_beginWrite fun _ ↦ ?_
    refine mirrored_bind mirrored_view fun database ↦ ?_
    split
    · exact mirrored_pure _
    · exact mirrored_bind (mirrored_write _) fun _ ↦ mirrored_pure _
  · intro refused session result after struck ran
    rw [Bool.not_eq_false] at struck
    rw [if_pos struck] at ran
    rw [← Except.ok.inj (Prod.mk.inj ran).1]
    decide

/-- A record that has its reference is appended by a calm mirror just so. -/
theorem mirrored_append {record : Record} {reference : Reference}
    (named : record.reference = some reference) : (append record).Mirrored := by
  unfold append
  refine mirrored_pass_bind (by decide) ?_
  refine mirrored_bind ?_ fun row ↦ mirrored_pure _
  unfold insertTransaction
  simp only [NewTransaction.ofRecord, named]
  refine mirrored_bind mirrored_connect fun _ ↦ ?_
  refine mirrored_bind (mirrored_pure _) fun reference ↦ ?_
  refine mirrored_bind mirrored_now fun instant ↦ ?_
  refine mirrored_bind (mirrored_boundAmount _) fun bound ↦ ?_
  refine mirrored_bind (mirrored_requireWord _) fun _ ↦ ?_
  refine mirrored_bind (mirrored_requireWord _) fun _ ↦ ?_
  refine mirrored_bind (mirrored_requireWord _) fun _ ↦ ?_
  refine mirrored_bind mirrored_beginWrite fun _ ↦ ?_
  refine mirrored_bind mirrored_view fun database ↦ ?_
  split
  · refine mirrored_ite (mirrored_throw _) ?_
    split
    · refine mirrored_ite (mirrored_throw _) (mirrored_ite (mirrored_throw _) ?_)
      exact mirrored_bind (mirrored_write _) fun _ ↦ mirrored_pure _
    · exact mirrored_throw _
  · exact mirrored_throw _

theorem mirrored_addAccount (new : NewAccount) : (addAccount new).Mirrored := by
  unfold addAccount
  refine mirrored_bind mirrored_connect fun _ ↦ ?_
  refine mirrored_bind (mirrored_boundAmount _) fun bound ↦ ?_
  refine mirrored_bind (mirrored_requireWord _) fun _ ↦ ?_
  refine mirrored_bind (mirrored_requireWord _) fun _ ↦ ?_
  refine mirrored_bind mirrored_beginWrite fun _ ↦ ?_
  refine mirrored_bind mirrored_view fun database ↦ ?_
  split
  · split
    · refine mirrored_ite (mirrored_throw _) ?_
      refine mirrored_ite (mirrored_throw _) (mirrored_ite (mirrored_throw _) ?_)
      refine mirrored_bind (mirrored_write _) fun _ ↦ ?_
      refine mirrored_bind (mirrored_ofExcept _) fun account ↦ ?_
      exact mirrored_bind (mirrored_remember _) fun _ ↦ mirrored_pure _
    · exact mirrored_throw _
  · exact mirrored_throw _

theorem mirrored_recordEvent (account : Int) (event : AuditEvent) :
    (recordEvent account event).Mirrored :=
  mirrored_bind mirrored_view fun _ ↦ mirrored_write _

/-- A calm unit makes permanent what it sees. -/
theorem commit_calm {calm : Session} (isCalm : calm.Calm) :
    ∃ after, commit calm = (.ok ⟨⟩, after) ∧ calm.Mirrors after ∧
      after.storage.database = calm.view := by
  have isCalm' : calm.published.Calm := ⟨isCalm.faults, isCalm.intrusions, isCalm.reachable⟩
  refine ⟨{ calm.published with committed := true }, ?_, ⟨isCalm.intrusions,
    ⟨isCalm.faults, isCalm.intrusions, isCalm.reachable⟩, rfl, rfl⟩, rfl⟩
  unfold commit
  rw [run_bind_ok (pass_calm .commit isCalm), run_bind_ok (run_modify Session.published calm),
    run_bind_ok (pass_calm .acknowledgement isCalm')]
  rfl

end Work

end Passbook
