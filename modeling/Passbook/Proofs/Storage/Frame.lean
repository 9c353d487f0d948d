import Passbook.Proofs.Storage.Parts

/-!
What the parts of a unit of work leave alone. `Session.Reads` relates two moments of a unit between which
it has only read, and `Session.Drafts` two moments between which nothing of it has become permanent; both
are about a unit that no other writer disturbs. `Session.Stays`, `Session.Lingers`, `Session.Looks` and
`Session.Draws` are about any unit. Every part of a unit but the commit only drafts
(`leftByWriting_drafts`), and every part that only reads leaves the tables as they were
(`leftByReading_reads`); `commit_cases` says what a commit can do.
-/

set_option autoImplicit false
set_option relaxedAutoImplicit false

-- The zero of a sum is that of the core library, whatever else is imported.
attribute [local instance (high)] Zero.ofOfNat0

namespace Passbook

namespace Planned

/-- How going through a point ends when this strikes there. -/
def struck : Option Fault → Except Failure Bool
  | none => .ok false
  | some fault =>
    match fault.failure? with
    | none => .ok true
    | some failure => .error failure

/-- How often a failure is still to strike at a point. -/
def strikes (point : Point) (faults : List (Planned Point Fault)) : Nat :=
  (faults.map fun planned ↦
    if planned.place = point ∧ planned.what.failure?.isSome then max 1 planned.times.toNat else 0).sum

theorem strikes_cons (point : Point) (first : Planned Point Fault)
    (rest : List (Planned Point Fault)) :
    strikes point (first :: rest) =
      (if first.place = point ∧ first.what.failure?.isSome then max 1 first.times.toNat else 0) +
        strikes point rest := by
  simp [strikes]

/-- Going through one point uses up no failure of another. -/
theorem strikes_next_other {place point : Point} (other : place ≠ point)
    (faults : List (Planned Point Fault)) :
    strikes point (next place faults).2 = strikes point faults := by
  induction faults with
  | nil => rfl
  | cons first rest ih =>
    unfold next
    by_cases here : first.place = place
    · have apart : first.place ≠ point := fun same ↦ other (here.symm.trans same)
      rw [if_pos here]
      split
      · simp [strikes_cons, apart]
      · split <;> simp [strikes_cons, apart]
    · rw [if_neg here]
      dsimp only
      rw [strikes_cons, strikes_cons, ih]

/-- Going through a point uses up one failure there if one strikes, and none else. -/
theorem strikes_next (point : Point) (faults : List (Planned Point Fault)) :
    strikes point (next point faults).2 +
        (match struck (next point faults).1 with
          | .error _ => 1
          | .ok _ => 0) =
      strikes point faults := by
  induction faults with
  | nil => rfl
  | cons first rest ih =>
    unfold next
    by_cases here : first.place = point
    · have weight : strikes point (first :: rest) =
          (if first.what.failure?.isSome then max 1 first.times.toNat else 0) +
            strikes point rest := by
        simp [strikes_cons, here]
      rw [if_pos here, weight]
      split
      · simp [struck, strikes_cons, here]
      · cases failed : first.what.failure? with
        | none => split <;> simp [struck, strikes_cons, here, failed]
        | some failure =>
          simp only [Option.isSome_some, if_true]
          split
          · simp only [struck, failed, strikes_cons, here, Option.isSome_some, and_self, if_true]
            omega
          · simp only [struck, failed]
            omega
    · rw [if_neg here]
      dsimp only
      rw [strikes_cons, strikes_cons, ← ih]
      omega

theorem strikes_next_ok {point : Point} {faults : List (Planned Point Fault)} {refused : Bool}
    (spared : struck (next point faults).1 = .ok refused) :
    strikes point (next point faults).2 = strikes point faults := by
  have used := strikes_next point faults
  rw [spared] at used
  exact used

theorem strikes_next_error {point : Point} {faults : List (Planned Point Fault)} {failure : Failure}
    (hit : struck (next point faults).1 = .error failure) :
    strikes point (next point faults).2 + 1 = strikes point faults := by
  have used := strikes_next point faults
  rw [hit] at used
  exact used

end Planned

/-- How many commits are still to take effect without being reported. -/
def Storage.unreported (storage : Storage) : Nat := Planned.strikes .acknowledgement storage.faults

namespace Session

/-- Nobody else writes while the unit is at work. -/
def IsAlone (session : Session) : Prop := session.storage.intrusions = []

/-- Nothing has become permanent between two moments of a unit. -/
def Drafts (before after : Session) : Prop :=
  before.IsAlone → after.IsAlone ∧ after.storage.database = before.storage.database ∧
    after.storage.unreported = before.storage.unreported

/-- The unit has only read between two moments: it sees the same tables at the same time. -/
def Reads (before after : Session) : Prop :=
  before.Drafts after ∧
    (before.IsAlone → after.view = before.view ∧ after.storage.clock = before.storage.clock)

theorem Drafts.trans {first second third : Session} (begins : first.Drafts second)
    (goesOn : second.Drafts third) : first.Drafts third := by
  intro alone
  obtain ⟨alone₁, database₁, unreported₁⟩ := begins alone
  obtain ⟨alone₂, database₂, unreported₂⟩ := goesOn alone₁
  exact ⟨alone₂, database₂.trans database₁, unreported₂.trans unreported₁⟩

theorem Reads.trans {first second third : Session} (begins : first.Reads second)
    (goesOn : second.Reads third) : first.Reads third := by
  refine ⟨begins.1.trans goesOn.1, fun alone ↦ ?_⟩
  obtain ⟨view₁, clock₁⟩ := begins.2 alone
  obtain ⟨view₂, clock₂⟩ := goesOn.2 (begins.1 alone).1
  exact ⟨view₂.trans view₁, clock₂.trans clock₁⟩

/-- The unit sees the same tables at the same time, and the committed tables are the same. -/
structure Sees (before after : Session) : Prop where
  view : after.view = before.view
  database : after.storage.database = before.storage.database
  clock : after.storage.clock = before.storage.clock

/-- The unit has written nothing between two moments. -/
def Idles (before after : Session) : Prop := after.pending = before.pending

/-- Whether the store can be reached has not changed between two moments of a unit. -/
def KeepsReach (before after : Session) : Prop := after.storage.reachable = before.storage.reachable

instance : IsPreorder Session KeepsReach where
  refl _ := rfl
  trans _ _ _ begins goesOn := Eq.trans goesOn begins

/-- The unit holds what it held before. -/
def KeepsLoaded (before after : Session) : Prop := after.loaded = before.loaded

instance : IsPreorder Session KeepsLoaded where
  refl _ := rfl
  trans _ _ _ begins goesOn := Eq.trans goesOn begins

instance : IsPreorder Session Idles where
  refl _ := rfl
  trans _ _ _ begins goesOn := Eq.trans goesOn begins

instance : IsPreorder Session Sees where
  refl _ := ⟨rfl, rfl, rfl⟩
  trans _ _ _ begins goesOn :=
    ⟨goesOn.view.trans begins.view, goesOn.database.trans begins.database,
      goesOn.clock.trans begins.clock⟩

instance : IsPreorder Session Drafts where
  refl _ := fun alone ↦ ⟨alone, rfl, rfl⟩
  trans _ _ _ := Drafts.trans

instance : IsPreorder Session Reads where
  refl _ := ⟨fun alone ↦ ⟨alone, rfl, rfl⟩, fun _ ↦ ⟨rfl, rfl⟩⟩
  trans _ _ _ := Reads.trans

/-- Nothing has come of the time between two moments: the tables are the same, those that the unit sees and the
committed ones, and so are the clock and what waits to be written by others. -/
structure Stays (before after : Session) : Prop extends before.Sees after where
  intrusions : after.storage.intrusions = before.storage.intrusions

/-- The tables are the same at two moments, though time may have gone on. -/
structure Lingers (before after : Session) : Prop where
  view : after.view = before.view
  database : after.storage.database = before.storage.database
  intrusions : after.storage.intrusions = before.storage.intrusions

theorem Stays.lingers {before after : Session} (stays : before.Stays after) : before.Lingers after :=
  ⟨stays.view, stays.database, stays.intrusions⟩

theorem Lingers.isAlone {before after : Session} (lingers : before.Lingers after) (alone : before.IsAlone) :
    after.IsAlone :=
  lingers.intrusions.trans alone

instance : IsPreorder Session Stays where
  refl session := ⟨refl_of Sees session, rfl⟩
  trans _ _ _ begins goesOn :=
    ⟨trans_of Sees begins.toSees goesOn.toSees, goesOn.intrusions.trans begins.intrusions⟩

instance : IsPreorder Session Lingers where
  refl _ := ⟨rfl, rfl, rfl⟩
  trans _ _ _ begins goesOn :=
    ⟨goesOn.view.trans begins.view, goesOn.database.trans begins.database,
      goesOn.intrusions.trans begins.intrusions⟩

/-- The committed transactions are the same at two moments of a unit. -/
def KeepsLog (before after : Session) : Prop :=
  after.storage.database.transactions = before.storage.database.transactions

/-- The committed transactions are the same at two moments of a unit, and so are those that it sees. -/
structure SeesLog (before after : Session) : Prop where
  kept : before.KeepsLog after
  seen : after.view.transactions = before.view.transactions

instance : IsPreorder Session KeepsLog where
  refl _ := rfl
  trans _ _ _ begins goesOn := Eq.trans goesOn begins

instance : IsPreorder Session SeesLog where
  refl _ := ⟨rfl, rfl⟩
  trans _ _ _ begins goesOn :=
    ⟨trans_of KeepsLog begins.kept goesOn.kept, goesOn.seen.trans begins.seen⟩

theorem Sees.seesLog {before after : Session} (sees : before.Sees after) : before.SeesLog after :=
  ⟨congrArg Database.transactions sees.database, congrArg Database.transactions sees.view⟩

/-- Between two moments of a unit no reference was drawn again. -/
def Draws (before after : Session) : Prop := before.storage.drawn ≤ after.storage.drawn

instance : IsPreorder Session Draws where
  refl _ := Nat.le_refl _
  trans _ _ _ := Nat.le_trans

/-- Between two moments the unit has only looked at the tables: another writer may have changed accounts, and
nobody has changed transactions. -/
structure Looks (before after : Session) : Prop where
  log : before.SeesLog after
  tables : before.IsAlone → before.Lingers after

theorem Lingers.looks {before after : Session} (lingers : before.Lingers after) : before.Looks after :=
  ⟨⟨congrArg Database.transactions lingers.database, congrArg Database.transactions lingers.view⟩,
    fun _ ↦ lingers⟩

instance : IsPreorder Session Looks where
  refl session := (refl_of Lingers session).looks
  trans _ _ _ begins goesOn :=
    ⟨trans_of SeesLog begins.log goesOn.log, fun alone ↦
      trans_of Lingers (begins.tables alone) (goesOn.tables ((begins.tables alone).isAlone alone))⟩

end Session

namespace Work

open Procedure Session
open Planned (struck)

variable {Result : Type}

theorem reads_drafts {work : Work Result} (reads : work.Leaves Reads) : work.Leaves Drafts :=
  reads.mono fun _ _ related ↦ related.1

/-- The unit with other failures planned. -/
def withFaults (session : Session) (faults : List (Planned Point Fault)) : Session :=
  { session with storage := { session.storage with faults } }

/-- Going through a point changes nothing but what is planned. -/
theorem pass_run (point : Point) (session : Session) :
    pass point session =
      (struck (Planned.next point session.storage.faults).1,
        withFaults session (Planned.next point session.storage.faults).2) := by
  simp only [pass, run_bind, run_get, run_set]
  generalize (Planned.next point session.storage.faults).1 = fault
  cases fault with
  | none => rfl
  | some fault =>
    simp only [struck]
    cases fault.failure? <;> rfl

theorem sees_pass (point : Point) : (pass point).Leaves Sees := by
  intro session
  rw [pass_run]
  exact ⟨rfl, rfl, rfl⟩

theorem sees_connect : connect.Leaves Sees := by
  intro session
  rcases connect_cases session with same | same <;> rw [same] <;> exact ⟨rfl, rfl, rfl⟩

theorem sees_beginWrite : beginWrite.Leaves Sees := fun _ ↦ ⟨rfl, rfl, rfl⟩

theorem stays_pass (point : Point) : (pass point).Leaves Stays := by
  intro session
  refine ⟨sees_pass point session, ?_⟩
  rw [pass_run]
  rfl

theorem stays_connect : connect.Leaves Stays := by
  intro session
  refine ⟨sees_connect session, ?_⟩
  rcases connect_cases session with same | same <;> rw [same]

theorem stays_beginWrite : beginWrite.Leaves Stays := fun session ↦ ⟨sees_beginWrite session, rfl⟩

theorem leaves_pass {point : Point} (before : point ≠ .acknowledgement) : (pass point).Leaves Reads := by
  intro session
  rw [pass_run]
  exact ⟨fun alone ↦ ⟨alone, rfl, Planned.strikes_next_other before _⟩, fun _ ↦ ⟨rfl, rfl⟩⟩

theorem leaves_connect : connect.Leaves Reads := by
  intro session
  rcases connect_cases session with same | same <;> rw [same] <;>
    exact ⟨fun alone ↦ ⟨alone, rfl, rfl⟩, fun _ ↦ ⟨rfl, rfl⟩⟩

theorem leaves_remember (account : Account) : (remember account).Leaves Reads := fun _ ↦
  ⟨fun alone ↦ ⟨alone, rfl, rfl⟩, fun _ ↦ ⟨rfl, rfl⟩⟩

theorem leaves_write (database : Database) : (write database).Leaves Drafts := fun _ alone ↦
  ⟨alone, rfl, rfl⟩

theorem leaves_now : now.Leaves Drafts := fun _ alone ↦ ⟨alone, rfl, rfl⟩

theorem leaves_drawReference : drawReference.Leaves Drafts := fun _ alone ↦ ⟨alone, rfl, rfl⟩

/-- Nobody waits for an account that nobody else writes. -/
theorem admitIntruder_alone (id : Int) {session : Session} (alone : session.IsAlone) :
    admitIntruder id session = (.ok ⟨⟩, session) := by
  unfold IsAlone at alone
  simp only [admitIntruder, run_bind, run_get, run_set, alone, Planned.next]
  rw [← alone]
  rfl

theorem leaves_admitIntruder (id : Int) : (admitIntruder id).Leaves Reads := by
  intro session
  constructor
  · intro alone
    rw [admitIntruder_alone id alone]
    exact ⟨alone, rfl, rfl⟩
  · intro alone
    rw [admitIntruder_alone id alone]
    exact ⟨rfl, rfl⟩

theorem leftByReading_reads : LeftByReading (· ≠ .acknowledgement) Reads where
  pass _ before := leaves_pass before
  connect := leaves_connect
  remember := leaves_remember
  admitIntruder := leaves_admitIntruder

theorem leftByWriting_drafts : LeftByWriting (· ≠ .acknowledgement) Drafts where
  pass _ before := reads_drafts (leaves_pass before)
  connect := reads_drafts leaves_connect
  remember account := reads_drafts (leaves_remember account)
  admitIntruder id := reads_drafts (leaves_admitIntruder id)
  write := leaves_write
  now := leaves_now
  drawReference := leaves_drawReference

theorem leaves_load (id : Int) : (load id).Leaves Reads := leftByReading_reads.load (by decide) id

theorem leaves_lookup (reference : Reference) : (lookup reference).Leaves Reads :=
  leftByReading_reads.lookup (by decide) reference

theorem leaves_addAccount (new : NewAccount) : (addAccount new).Leaves Drafts :=
  leftByWriting_drafts.addAccount new

theorem leaves_recordEvent (account : Int) (event : AuditEvent) :
    (recordEvent account event).Leaves Drafts :=
  leftByWriting_drafts.recordEvent account event

/-- Whatever only reads writes nothing, and neither does the letting in of others. -/
theorem leftByReading_idles : LeftByReading (fun _ ↦ True) Idles where
  pass point _ session := by
    rw [pass_run]
    exact rfl
  connect session := by
    rcases connect_cases session with same | same <;> rw [same] <;> exact rfl
  remember _ _ := rfl
  admitIntruder id session := by
    obtain ⟨intrusions, accounts, same⟩ := admitIntruder_after id session
    rw [same]
    exact rfl

/-- Only who reads or adds accounts holds others afterwards. -/
theorem leftByDrafting_keepsLoaded : LeftByDrafting (fun _ ↦ True) KeepsLoaded where
  pass point _ session := by
    rw [pass_run]
    exact rfl
  connect session := by
    rcases connect_cases session with same | same <;> rw [same] <;> exact rfl
  write _ _ := rfl
  now _ := rfl
  drawReference _ := rfl

theorem leftByReading_seesLog : LeftByReading (fun _ ↦ True) SeesLog where
  pass point _ := (sees_pass point).mono fun _ _ sees ↦ sees.seesLog
  connect := sees_connect.mono fun _ _ sees ↦ sees.seesLog
  remember _ _ := ⟨rfl, rfl⟩
  admitIntruder id session := by
    obtain ⟨intrusions, accounts, same⟩ := admitIntruder_after id session
    rw [same]
    refine ⟨rfl, ?_⟩
    unfold Session.view
    cases session.pending <;> rfl

theorem leftByWriting_keepsLog : LeftByWriting (fun _ ↦ True) KeepsLog where
  pass point across := (leftByReading_seesLog.pass point across).mono fun _ _ sees ↦ sees.kept
  connect := leftByReading_seesLog.connect.mono fun _ _ sees ↦ sees.kept
  remember account := (leftByReading_seesLog.remember account).mono fun _ _ sees ↦ sees.kept
  admitIntruder id := (leftByReading_seesLog.admitIntruder id).mono fun _ _ sees ↦ sees.kept
  write _ _ := rfl
  now _ := rfl
  drawReference _ := rfl

theorem leftByWriting_keepsReach : LeftByWriting (fun _ ↦ True) KeepsReach where
  pass point _ session := by
    rw [pass_run]
    exact rfl
  connect session := by
    rcases connect_cases session with same | same <;> rw [same] <;> exact rfl
  remember _ _ := rfl
  admitIntruder id session := by
    obtain ⟨intrusions, accounts, same⟩ := admitIntruder_after id session
    rw [same]
    exact rfl
  write _ _ := rfl
  now _ := rfl
  drawReference _ := rfl

theorem leftByWriting_draws : LeftByWriting (fun _ ↦ True) Draws where
  pass point _ session := by
    rw [pass_run]
    exact Nat.le_refl _
  connect session := by
    rcases connect_cases session with same | same <;> rw [same] <;> exact Nat.le_refl _
  remember _ _ := Nat.le_refl _
  admitIntruder id session := by
    obtain ⟨intrusions, accounts, same⟩ := admitIntruder_after id session
    rw [same]
    exact Nat.le_refl _
  write _ _ := Nat.le_refl _
  now _ := Nat.le_refl _
  drawReference _ := Nat.le_succ _

theorem draws_commit : commit.Leaves Draws := by
  unfold commit
  refine leaves_bind (leftByWriting_draws.toLeftByReading.pass .commit trivial) fun _ ↦ ?_
  refine leaves_bind (fun _ ↦ Nat.le_refl _) fun _ ↦ ?_
  refine leaves_bind (leftByWriting_draws.toLeftByReading.pass .acknowledgement trivial) fun _ ↦ ?_
  exact fun _ ↦ Nat.le_refl _

theorem leftByReading_looks : LeftByReading (fun _ ↦ True) Looks where
  pass point _ := (stays_pass point).mono fun _ _ stays ↦ stays.lingers.looks
  connect := stays_connect.mono fun _ _ stays ↦ stays.lingers.looks
  remember _ _ := Lingers.looks ⟨rfl, rfl, rfl⟩
  admitIntruder id session :=
    ⟨leftByReading_seesLog.admitIntruder id session, fun alone ↦ by
      rw [admitIntruder_alone id alone]
      exact refl_of Lingers session⟩

/-- A unit that is closed leaves the store as its last part did: what is dropped was never in it. -/
theorem run_eq (work : Work Result) (storage : Storage) :
    work.run storage = ((work (opened storage)).1, (work (opened storage)).2.storage) := by
  unfold run perform
  cases ran : work (opened storage) with
  | mk outcome session =>
    cases outcome with
    | ok result => rfl
    | error failure =>
      unfold left
      dsimp only
      split <;> rfl

/-- A commit fails before it has any effect, or takes effect and is reported, or takes effect without
being reported. -/
theorem commit_cases {session after : Session} {outcome : Except Failure Unit}
    (alone : session.IsAlone) (ran : commit session = (outcome, after)) :
    (∃ failure, outcome = .error failure ∧ session.Drafts after) ∨
      (outcome = .ok ⟨⟩ ∧ after.storage.database = session.view ∧ after.IsAlone ∧
        after.storage.unreported = session.storage.unreported) ∨
      ∃ failure, outcome = .error failure ∧ after.storage.database = session.view ∧ after.IsAlone ∧
        after.storage.unreported + 1 = session.storage.unreported := by
  have kept : Planned.strikes .acknowledgement (Planned.next .commit session.storage.faults).2 =
      session.storage.unreported :=
    Planned.strikes_next_other (by decide) session.storage.faults
  simp only [commit, run_bind, pass_run, run_modify] at ran
  cases before : struck (Planned.next .commit session.storage.faults).1 with
  | error failure =>
    rw [before] at ran
    obtain ⟨rfl, rfl⟩ := Prod.mk.inj ran
    exact Or.inl ⟨failure, rfl, fun _ ↦ ⟨alone, rfl, kept⟩⟩
  | ok refused =>
    rw [before] at ran
    simp only [published, withFaults] at ran
    right
    cases reported : struck (Planned.next .acknowledgement
        (Planned.next .commit session.storage.faults).2).1 with
    | error failure =>
      rw [reported] at ran
      obtain ⟨rfl, rfl⟩ := Prod.mk.inj ran
      exact Or.inr ⟨failure, rfl, rfl, alone, (Planned.strikes_next_error reported).trans kept⟩
    | ok refused =>
      rw [reported] at ran
      obtain ⟨rfl, rfl⟩ := Prod.mk.inj ran
      exact Or.inl ⟨rfl, rfl, alone, (Planned.strikes_next_ok reported).trans kept⟩

/-- A commit that fails has drafted only, or what the unit sees has become permanent and that is not reported. -/
theorem commit_failed {session after : Session} {failure : Failure} (alone : session.IsAlone)
    (ran : commit session = (.error failure, after)) :
    (after.storage.database = session.storage.database ∧
      after.storage.unreported = session.storage.unreported) ∨
      after.storage.database = session.view ∧
        after.storage.unreported + 1 = session.storage.unreported := by
  rcases commit_cases alone ran with ⟨_, -, drafts⟩ | ⟨same, -⟩ | ⟨_, -, database, -, unreported⟩
  · exact Or.inl (drafts alone).2
  · cases same
  · exact Or.inr ⟨database, unreported⟩

/-- A commit that gets past the point at which it may still fail without effect makes permanent what the
unit sees. -/
theorem commit_effect {session after : Session} {outcome : Except Failure Unit}
    (ran : commit session = (outcome, after)) :
    after.storage.intrusions = session.storage.intrusions ∧ after.storage.database =
      if (pass .commit session).1.isOk then session.view else session.storage.database := by
  simp only [commit, run_bind, pass_run, run_modify] at ran
  rw [pass_run]
  cases before : struck (Planned.next .commit session.storage.faults).1 with
  | error failure =>
    rw [before] at ran
    obtain ⟨-, rfl⟩ := Prod.mk.inj ran
    exact ⟨rfl, rfl⟩
  | ok refused =>
    rw [before] at ran
    simp only [published, withFaults] at ran
    cases reported : struck (Planned.next .acknowledgement
        (Planned.next .commit session.storage.faults).2).1 with
    | error failure =>
      rw [reported] at ran
      obtain ⟨-, rfl⟩ := Prod.mk.inj ran
      exact ⟨rfl, rfl⟩
    | ok refused =>
      rw [reported] at ran
      obtain ⟨-, rfl⟩ := Prod.mk.inj ran
      exact ⟨rfl, rfl⟩

/-- After a commit that was reported nothing is pending. -/
theorem pending_of_commit {session left : Session} {result : Unit}
    (ran : commit session = (.ok result, left)) : left.pending = none := by
  unfold commit at ran
  obtain ⟨_, passed, _, ran⟩ := ok_of_bind ran
  obtain ⟨_, middle, publishing, ran⟩ := ok_of_bind ran
  obtain ⟨_, final, acknowledged, ran⟩ := ok_of_bind ran
  rw [run_modify] at publishing ran
  have idle := (leftByReading_idles.pass .acknowledgement trivial).of_eq acknowledged
  rw [← (Prod.mk.inj publishing).2] at idle
  rw [← (Prod.mk.inj ran).2]
  exact idle

/-- A commit leaves the tables as they were or as the unit sees them. -/
theorem commit_database {session after : Session} {outcome : Except Failure Unit}
    (ran : commit session = (outcome, after)) :
    after.storage.database = session.storage.database ∨ after.storage.database = session.view := by
  obtain ⟨-, database⟩ := commit_effect ran
  split at database
  · exact Or.inr database
  · exact Or.inl database

/-- A commit that is reported has made permanent what the unit sees. -/
theorem commit_ok {session after : Session} {result : Unit}
    (ran : commit session = (.ok result, after)) : after.storage.database = session.view := by
  obtain ⟨-, database⟩ := commit_effect ran
  unfold commit at ran
  obtain ⟨_, _, passed, -⟩ := ok_of_bind ran
  rw [database, passed]
  rfl

end Work

end Passbook
