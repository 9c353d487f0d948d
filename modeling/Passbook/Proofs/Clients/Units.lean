import Mathlib.Logic.Function.Basic
import Passbook.Proofs.Storage.Rewrites
import Passbook.Proofs.Storage.Survival

/-!
Units of work that share one store. Any number of units are open at a time, and their calls follow each other in
any order (`UnitCrowd.run`); a unit may commit, roll back, go on after a failure, and be left with anything pending.
The store lets one unit write at a time: a call by which another one would write has no effect until what is pending
is permanent or dropped. A conditional write that tells that it has written is a `Win`, which lands with the next
commit of its unit unless the unit drops it before. The invariant is that the wins that are in some tables are of
different versions, which the account has passed, and that its version counts them (`Database.Bears`). Main
statement: no win lands twice, the committed version of an account never falls, and a conditional write tells that it
has written exactly if the account is there at the version that was read (`UnitCrowd.first_committer_wins`).
-/

set_option autoImplicit false
set_option relaxedAutoImplicit false

namespace Passbook

open Procedure Session Work StoreCall

/-- A conditional write that told that it had written: the account, and the version that was read. -/
structure Win where
  account : Int
  version : Int
deriving DecidableEq, Repr

/-- What a conditional write wins. -/
def Rewrite.wins (rewrite : Rewrite) (id version : Int) (session : Session) : List Win :=
  if (rewrite.work id version session).1.toOption = some true then [⟨id, version⟩] else []

/-- What a call wins. -/
def Moment.wins (moment : Moment) : List Win :=
  match moment.call with
  | .writeBalance id version given => (Rewrite.balance given).wins id version moment.before
  | .writeStatus id version status => (Rewrite.status status).wins id version moment.before
  | _ => []

/-! ### Wins in tables -/

namespace Database

/-- The version that an account begins with: that of the first tables, or the one of a new account. -/
def firstVersion (first : Database) (id : Int) : Int := ((first.account? id).map (·.version)).getD 1

/-- Tables that have moved forward from the first ones, with some wins in them: these are of different versions, which
the account has passed, and its version counts them. -/
structure Bears (first : Database) (won : List Win) (database : Database) : Prop where
  advances : first.Advances database
  once : won.Nodup
  passed : ∀ win ∈ won, ∃ row, database.account? win.account = some row ∧ win.version < row.version
  counted : ∀ id row, database.account? id = some row →
    row.version = first.firstVersion id + won.countP (·.account = id)

variable {first database after : Database} {won : List Win} {row old : AccountRow}

theorem bears_start (first : Database) : first.Bears [] first := by
  refine ⟨.refl first, .nil, List.forall_mem_nil _, fun id row found ↦ ?_⟩
  simp [firstVersion, found]

namespace Bears

theorem of_accounts (bears : first.Bears won database) (same : after.accounts = database.accounts) :
    first.Bears won after := by
  have looks (id : Int) : after.account? id = database.account? id := congrArg (List.find? _) same
  refine ⟨fun id row found ↦ ?_, bears.once, fun win member ↦ ?_, fun id row found ↦ ?_⟩
  · rw [looks]
    exact bears.advances id row found
  · rw [looks]
    exact bears.passed win member
  · rw [looks] at found
    exact bears.counted id row found

/-- No win is of an account that is not there. -/
theorem countP_eq_zero (bears : first.Bears won database) {id : Int} (missing : database.account? id = none) :
    won.countP (·.account = id) = 0 := by
  refine List.countP_eq_zero.2 fun win member same ↦ ?_
  obtain ⟨row, found, -⟩ := bears.passed win member
  rw [of_decide_eq_true same, missing] at found
  cases found

theorem addAccount (bears : first.Bears won database) (unused : database.account? row.id = none)
    (version : row.version = 1) : first.Bears won (database.addAccount row) := by
  have advances : database.Advances (database.addAccount row) := advances_addAccount database row
  refine ⟨bears.advances.trans advances, bears.once, fun win member ↦ ?_, fun id found there ↦ ?_⟩
  · obtain ⟨found, there, passed⟩ := bears.passed win member
    exact ⟨found, by rw [account?_addAccount, there]; rfl, passed⟩
  · rw [account?_addAccount] at there
    cases before : database.account? id with
    | some old =>
      rw [before] at there
      obtain rfl := Option.some.inj there
      exact bears.counted id old before
    | none =>
      rw [before, Option.none_or] at there
      obtain ⟨rfl, rfl⟩ : row.id = id ∧ row = found := by simpa using there
      have isNew : first.account? row.id = none := by
        by_contra isOld
        obtain ⟨old, found⟩ := Option.ne_none_iff_exists'.1 isOld
        obtain ⟨later, there, -⟩ := bears.advances row.id old found
        rw [unused] at there
        cases there
      simp [firstVersion, isNew, bears.countP_eq_zero before, version]

/-- A win of the version that the account has. -/
theorem win (bears : first.Bears won database) (found : database.account? row.id = some old)
    (version : row.version = old.version + 1) :
    first.Bears (won ++ [⟨row.id, old.version⟩]) (database.replace row) := by
  have raised : old.version < row.version := by omega
  have isNew : ⟨row.id, old.version⟩ ∉ won := by
    intro member
    obtain ⟨now, there, passed⟩ := bears.passed _ member
    obtain rfl := Option.some.inj (found.symm.trans there)
    exact Int.lt_irrefl _ passed
  have advances : database.Advances (database.replace row) := advances_replace found raised
  refine ⟨bears.advances.trans advances, ?_, ?_, fun id now there ↦ ?_⟩
  · rw [← List.concat_eq_append]
    exact bears.once.concat isNew
  · refine List.forall_mem_append.2 ⟨fun win member ↦ ?_, List.forall_mem_singleton.2 ?_⟩
    · obtain ⟨before, there, passed⟩ := bears.passed win member
      obtain ⟨later, stillThere, rfl | further⟩ := advances _ before there
      · exact ⟨later, stillThere, passed⟩
      · exact ⟨later, stillThere, Int.lt_trans passed further⟩
    · exact ⟨row, account?_replace_self found, raised⟩
  · rw [account?_replace found] at there
    rw [List.countP_append, List.countP_singleton]
    split at there
    · next same =>
      obtain rfl := Option.some.inj there
      subst same
      have counted := bears.counted row.id old found
      simp only [decide_true, if_true]
      omega
    · next other =>
      have counted := bears.counted id now there
      rw [if_neg (by simpa using Ne.symm other)]
      omega

end Bears

end Database

/-! ### One call of one unit -/

/-- What of the wins of a unit is neither permanent nor dropped after a call. -/
def Moment.keeps (moment : Moment) (won : List Win) : List Win :=
  if moment.publishes || moment.drops then [] else won ++ moment.wins

/-- What of the wins of a unit is made permanent by a call. -/
def Moment.lands (moment : Moment) (won : List Win) : List Win :=
  if moment.publishes then won else []

section Moments

variable {first : Database} {landed won : List Win} {moment : Moment}

theorem Rewrite.wins_call (rewrite : Rewrite) (id version : Int) (session : Session) :
    (Moment.mk (rewrite.call id version) session).wins = rewrite.wins id version session := by
  cases rewrite <;> rfl

/-- A call that is no conditional write wins nothing. -/
theorem Moment.wins_eq_nil
    (other : ∀ (rewrite : Rewrite) (id version : Int), moment.call ≠ rewrite.call id version) : moment.wins = [] := by
  unfold Moment.wins
  split
  · next id version given same => exact absurd same (other (.balance given) id version)
  · next id version status same => exact absurd same (other (.status status) id version)
  · rfl

/-- A conditional write wins what it replaces. -/
theorem Database.Bears.rewrite {session : Session} (bears : first.Bears won session.view) (rewrite : Rewrite)
    (id version : Int) :
    first.Bears (won ++ rewrite.wins id version session) (rewrite.work id version session).2.view := by
  have ends := (rewrite.settles id version session).1
  unfold Rewrite.wins
  cases ran : rewrite.work id version session with
  | mk outcome after =>
    rw [ran] at ends
    cases ends with
    | written old new _ found makes same =>
      obtain ⟨sameId, -, -, raised⟩ := makes.same
      obtain ⟨there, rfl⟩ := Database.accountAt?_eq_some found
      obtain rfl : new.id = id := sameId.trans (Database.account?_id there)
      rw [same]
      exact bears.win there raised
    | missed _ same | failed _ same =>
      rw [same]
      simpa [Except.toOption] using bears

/-- What is in the tables that a unit sees after a call that neither makes them permanent nor drops them. -/
theorem Database.Bears.after (bears : first.Bears won moment.before.view) (alone : moment.before.IsAlone)
    (goesOn : moment.publishes = false) (isKept : moment.drops = false) :
    first.Bears (won ++ moment.wins) moment.after.view := by
  obtain ⟨call, session⟩ := moment
  by_cases rewrites : ∃ (rewrite : Rewrite) (id version : Int), call = rewrite.call id version
  · obtain ⟨rewrite, id, version, rfl⟩ := rewrites
    rw [rewrite.wins_call, Moment.after, rewrite.work_call]
    exact bears.rewrite rewrite id version
  have other (rewrite : Rewrite) (id version : Int) : call ≠ rewrite.call id version :=
    fun same ↦ rewrites ⟨rewrite, id, version, same⟩
  rw [Moment.wins_eq_nil other, List.append_nil]
  cases (StoreCall.settles call alone).1 with
  | published publishes => exact absurd publishes (by simp [goesOn])
  | dropped _ drops => exact absurd drops (by simp [isKept])
  | looked _ _ _ _ view => exact view ▸ bears
  | wrote _ _ _ _ wrote =>
    generalize (Moment.mk call session).after.view = after at wrote ⊢
    cases wrote with
    | balance id version given => exact absurd rfl (other (.balance given) id version)
    | status id version status => exact absurd rfl (other (.status status) id version)
    | account new row cents opens => exact bears.addAccount opens.unused opens.version
    | transaction | event => exact bears.of_accounts rfl

/-- Of a unit's wins some have landed and the others are in what it has pending; the tables that it sees have moved
forward from the committed ones. -/
structure Session.Bears (first : Database) (landed won : List Win) (session : Session) : Prop where
  alone : session.IsAlone
  committed : first.Bears landed session.storage.database
  seen : first.Bears (landed ++ won) session.view
  advances : session.storage.database.Advances session.view

/-- Whatever becomes of a call, wins land when it makes them permanent, and the committed tables move forward. -/
theorem Session.Bears.after (bears : moment.before.Bears first landed won) :
    moment.after.Bears first (landed ++ moment.lands won) (moment.keeps won) ∧
      moment.before.storage.database.Advances moment.after.storage.database := by
  obtain ⟨settled, alone⟩ := StoreCall.settles moment.call bears.alone
  unfold Moment.lands Moment.keeps
  -- a call that neither commits nor rolls back adds what it wins
  have goesOn (publishes : moment.publishes = false) (drops : moment.drops = false)
      (database : moment.after.storage.database = moment.before.storage.database) :
      moment.after.Bears first (landed ++ []) (won ++ moment.wins) ∧
        moment.before.storage.database.Advances moment.after.storage.database := by
    have raised := (Database.bears_start moment.before.view).after bears.alone publishes drops
    rw [List.append_nil, database]
    refine ⟨⟨alone, database ▸ bears.committed, ?_, ?_⟩, .refl _⟩
    · rw [← List.append_assoc]
      exact bears.seen.after bears.alone publishes drops
    · rw [database]
      exact bears.advances.trans raised.advances
  cases settled with
  | published publishes _ database view =>
    rw [publishes, Bool.true_or, if_pos rfl, if_pos rfl]
    refine ⟨⟨alone, database ▸ bears.seen, ?_, ?_⟩, database ▸ bears.advances⟩
    · rw [List.append_nil]
      exact view ▸ bears.seen
    · exact database ▸ view ▸ .refl _
  | dropped publishes drops database view =>
    rw [publishes, drops, Bool.or_true, if_neg Bool.false_ne_true, if_pos rfl, List.append_nil]
    refine ⟨⟨alone, database ▸ bears.committed, ?_, ?_⟩, database ▸ .refl _⟩
    · rw [List.append_nil]
      exact view ▸ bears.committed
    · exact database ▸ view ▸ .refl _
  | wrote publishes drops _ database | looked publishes drops _ database =>
    rw [publishes, drops, Bool.or_false, if_neg Bool.false_ne_true, if_neg Bool.false_ne_true]
    exact goesOn publishes drops database

end Moments

/-! ### Many units -/

/-- What a unit is at between its calls, but for what is pending. -/
structure OpenUnit where
  connected : Bool := false
  loaded : List Account := []
  committed : Bool := false
deriving Repr

/-- The unit that writes: the tables with its writes, and what it has won since it began to write. -/
structure Writer where
  name : Nat
  tables : Database
  won : List Win
deriving Repr

/-- Units that share one store, at most one of which writes, and the wins that have been made permanent. -/
structure UnitCrowd where
  storage : Storage
  writer : Option Writer := none
  units : Nat → OpenUnit := fun _ ↦ {}
  landed : List Win := []

/-- Something that a unit does: a call, whose caller handles the failure if there is one, or it is left, by a failure
or not, and another unit takes its name. -/
inductive UnitEvent where
  | call (name : Nat) (call : StoreCall)
  | leave (name : Nat) (failed : Bool)
deriving Repr

namespace UnitCrowd

/-- What a unit writes, if it is the one that does. -/
def writing (crowd : UnitCrowd) (name : Nat) : Option Writer := crowd.writer.filter (·.name == name)

/-- What others write. -/
def othersWriting (crowd : UnitCrowd) (name : Nat) : Option Writer := crowd.writer.filter (·.name != name)

/-- A unit before its next call. -/
def session (crowd : UnitCrowd) (name : Nat) : Session where
  storage := crowd.storage
  pending := (crowd.writing name).map (·.tables)
  connected := (crowd.units name).connected
  loaded := (crowd.units name).loaded
  committed := (crowd.units name).committed

/-- What a unit has won that is neither permanent nor dropped. -/
def won (crowd : UnitCrowd) (name : Nat) : List Win := ((crowd.writing name).map (·.won)).getD []

/-- A unit would be writing after a call while another one writes. -/
def waits (crowd : UnitCrowd) (name : Nat) (after : Session) : Bool :=
  after.pending.isSome && (crowd.othersWriting name).isSome

/-- A unit is where a call has left it. -/
def resume (crowd : UnitCrowd) (name : Nat) (after : Session) (won lands : List Win) : UnitCrowd where
  storage := after.storage
  writer := (after.pending.map fun tables ↦ { name, tables, won }).or (crowd.othersWriting name)
  units := Function.update crowd.units name
    { connected := after.connected, loaded := after.loaded, committed := after.committed }
  landed := crowd.landed ++ lands

/-- One step of one unit. A call for which it has to wait has no effect. A unit whose row the tables have refused to
add is, as in `StoreCall.afterAll`, one that rolls back before it goes on. -/
def step (crowd : UnitCrowd) : UnitEvent → UnitCrowd
  | .call name call =>
    let moment : Moment := ⟨call, crowd.session name⟩
    if crowd.waits name moment.after then crowd
    else crowd.resume name moment.after (moment.keeps (crowd.won name)) (moment.lands (crowd.won name))
  | .leave name failed =>
    { crowd with
      storage := ((crowd.session name).left failed).closed
      writer := crowd.othersWriting name
      units := Function.update crowd.units name {} }

/-- Steps one after the other, from a store that nobody is writing to. -/
def run (storage : Storage) (events : List UnitEvent) : UnitCrowd := events.foldl step { storage }

/-- What has landed and what may yet land is in the tables, and nobody writes but the units. -/
structure Sound (first : Database) (crowd : UnitCrowd) : Prop where
  alone : crowd.storage.intrusions = []
  committed : first.Bears crowd.landed crowd.storage.database
  writer : ∀ writer, crowd.writer = some writer →
    first.Bears (crowd.landed ++ writer.won) writer.tables ∧ crowd.storage.database.Advances writer.tables

variable {first : Database} {crowd : UnitCrowd} {name : Nat}

theorem writing_eq_some {writer : Writer} :
    crowd.writing name = some writer ↔ crowd.writer = some writer ∧ writer.name = name := by
  simp [writing, Option.filter_eq_some_iff]

theorem othersWriting_eq_some {writer : Writer} :
    crowd.othersWriting name = some writer ↔ crowd.writer = some writer ∧ writer.name ≠ name := by
  simp [othersWriting, Option.filter_eq_some_iff]

/-- While others write a unit does not. -/
theorem writing_eq_none {writer : Writer} (others : crowd.othersWriting name = some writer) :
    crowd.writing name = none := by
  obtain ⟨isWriter, other⟩ := othersWriting_eq_some.1 others
  simp [writing, isWriter, other]

theorem Sound.session (sound : crowd.Sound first) (name : Nat) :
    (crowd.session name).Bears first crowd.landed (crowd.won name) := by
  refine ⟨sound.alone, sound.committed, ?_, ?_⟩
  all_goals
    unfold Session.view UnitCrowd.session
  · unfold won
    cases isWriting : crowd.writing name with
    | none => simpa using sound.committed
    | some writer => exact (sound.writer writer (writing_eq_some.1 isWriting).1).1
  · cases isWriting : crowd.writing name with
    | none => exact .refl _
    | some writer => exact (sound.writer writer (writing_eq_some.1 isWriting).1).2

/-- A unit that has nothing pending leaves the committed tables as they are. -/
theorem database_of_fresh {moment : Moment} (alone : moment.before.IsAlone) (fresh : moment.before.pending = none) :
    moment.after.storage.database = moment.before.storage.database := by
  cases (StoreCall.settles moment.call alone).1 with
  | published _ _ database =>
    rw [database, Session.view, fresh]
    rfl
  | dropped _ _ database | wrote _ _ _ database | looked _ _ _ database => exact database

/-! ### One step -/

section Resume

variable {other : Nat} {after : Session} {won lands : List Win}

/-- A unit goes on where it was left. -/
theorem session_resume : (crowd.resume name after won lands).session name = after := by
  have pending : ((crowd.resume name after won lands).writing name).map (·.tables) = after.pending := by
    unfold resume writing othersWriting
    cases after.pending with
    | some tables => simp
    | none =>
      cases crowd.writer with
      | none => rfl
      | some writer => by_cases same : writer.name = name <;> simp [Option.filter, same]
  unfold UnitCrowd.session
  rw [pending]
  simp [resume]

/-- What the others write is left to them. -/
theorem writing_resume (goesOn : crowd.waits name after = false) (others : other ≠ name) :
    (crowd.resume name after won lands).writing other = crowd.writing other := by
  cases pending : after.pending with
  | some tables =>
    have nobody : crowd.othersWriting name = none := by simpa [waits, pending] using goesOn
    have missing : crowd.writing other = none := by
      refine Option.eq_none_iff_forall_ne_some.2 fun writer writes ↦ ?_
      obtain ⟨isWriter, rfl⟩ := writing_eq_some.1 writes
      have theirs := othersWriting_eq_some.2 ⟨isWriter, others⟩
      rw [nobody] at theirs
      cases theirs
    rw [missing]
    simp [writing, resume, pending, Ne.symm others]
  | none =>
    ext writer
    rw [writing_eq_some, writing_eq_some]
    simp only [resume, pending, Option.map_none, Option.none_or, othersWriting_eq_some]
    constructor
    · rintro ⟨⟨isWriter, -⟩, same⟩
      exact ⟨isWriter, same⟩
    · rintro ⟨isWriter, rfl⟩
      exact ⟨⟨isWriter, others⟩, rfl⟩

/-- Others see what they have seen, if nothing is made permanent. -/
theorem view_resume (goesOn : crowd.waits name after = false) (others : other ≠ name)
    (kept : after.storage.database = crowd.storage.database) :
    ((crowd.resume name after won lands).session other).view = (crowd.session other).view := by
  unfold Session.view UnitCrowd.session
  rw [writing_resume goesOn others]
  change ((crowd.writing other).map (·.tables)).getD after.storage.database = _
  rw [kept]

end Resume

theorem step_call {call : StoreCall} (goesOn : crowd.waits name (Moment.mk call (crowd.session name)).after = false) :
    crowd.step (.call name call) =
      crowd.resume name (Moment.mk call (crowd.session name)).after
        ((Moment.mk call (crowd.session name)).keeps (crowd.won name))
        ((Moment.mk call (crowd.session name)).lands (crowd.won name)) :=
  if_neg (by simp [goesOn])

theorem Sound.resume (sound : crowd.Sound first) {moment : Moment} (isUnit : moment.before = crowd.session name) :
    (crowd.resume name moment.after (moment.keeps (crowd.won name)) (moment.lands (crowd.won name))).Sound first ∧
      crowd.storage.database.Advances moment.after.storage.database := by
  have before := sound.session name
  rw [← isUnit] at before
  obtain ⟨bears, advances⟩ := before.after
  have sameStore : moment.before.storage = crowd.storage := isUnit ▸ rfl
  rw [sameStore] at advances
  refine ⟨⟨bears.alone, bears.committed, fun writer isWriter ↦ ?_⟩, advances⟩
  have seen := bears.seen
  have ahead := bears.advances
  unfold UnitCrowd.resume at isWriter ⊢
  unfold Session.view at seen ahead
  cases pending : moment.after.pending with
  | some tables =>
    rw [pending] at isWriter seen ahead
    obtain rfl := Option.some.inj isWriter
    exact ⟨seen, ahead⟩
  | none =>
    -- others write, and this unit has made nothing permanent
    rw [pending] at isWriter
    have nothing : crowd.writing name = none := writing_eq_none isWriter
    have fresh : moment.before.pending = none := by
      rw [isUnit, UnitCrowd.session, nothing]
      rfl
    have lands : moment.lands (crowd.won name) = [] := by
      rw [won, nothing]
      exact ite_self _
    dsimp only
    rw [lands, List.append_nil, database_of_fresh before.alone fresh, sameStore]
    exact sound.writer writer (othersWriting_eq_some.1 isWriter).1

theorem Sound.step (sound : crowd.Sound first) (event : UnitEvent) :
    (crowd.step event).Sound first ∧ crowd.storage.database.Advances (crowd.step event).storage.database := by
  cases event with
  | leave name failed =>
    have kept : (crowd.step (.leave name failed)).storage = crowd.storage := by
      change ((crowd.session name).left failed).closed = crowd.storage
      unfold closed left
      split <;> rfl
    rw [kept]
    refine ⟨⟨by rw [kept]; exact sound.alone, by rw [kept]; exact sound.committed, fun writer isWriter ↦ ?_⟩, .refl _⟩
    rw [kept]
    exact sound.writer writer (othersWriting_eq_some.1 isWriter).1
  | call name call =>
    cases waits : crowd.waits name (Moment.mk call (crowd.session name)).after with
    | true =>
      have same : crowd.step (.call name call) = crowd := if_pos waits
      rw [same]
      exact ⟨sound, .refl _⟩
    | false =>
      rw [step_call waits]
      exact sound.resume rfl

/-! ### Runs -/

theorem sound_foldl (sound : crowd.Sound first) (events : List UnitEvent) :
    (events.foldl UnitCrowd.step crowd).Sound first ∧
      crowd.storage.database.Advances (events.foldl UnitCrowd.step crowd).storage.database := by
  induction events generalizing crowd with
  | nil => exact ⟨sound, .refl _⟩
  | cons event rest ih =>
    obtain ⟨next, advances⟩ := sound.step event
    obtain ⟨ends, further⟩ := ih next
    exact ⟨ends, advances.trans further⟩

theorem sound_run (storage : Storage) (alone : storage.intrusions = []) (events : List UnitEvent) :
    (run storage events).Sound storage.database := by
  refine (sound_foldl ⟨alone, Database.bears_start _, fun writer none ↦ ?_⟩ events).1
  cases none

/-- What a conditional write of a unit comes to when it need not wait. -/
theorem step_rewrite {rewrite : Rewrite} {id version : Int}
    (goesOn : crowd.waits name (rewrite.work id version (crowd.session name)).2 = false) :
    let session := crowd.session name
    let next := crowd.step (.call name (rewrite.call id version))
    rewrite.Ends id version session (next.session name).view (rewrite.work id version session).1 ∧
      next.storage.database = crowd.storage.database ∧
      ∀ other, other ≠ name → (next.session other).view = (crowd.session other).view := by
  intro session next
  obtain ⟨ends, kept, -⟩ := rewrite.settles id version session
  have after : (Moment.mk (rewrite.call id version) session).after = (rewrite.work id version session).2 :=
    rewrite.work_call id version session
  rw [← after] at goesOn kept ends
  have stepped : next = crowd.resume name _ _ _ := step_call goesOn
  rw [stepped, session_resume]
  exact ⟨ends, kept, fun other others ↦ view_resume goesOn others kept⟩

/-- Whatever units do, of the conditional writes of one version of an account at most one is ever made permanent; the
committed version counts those that were, and never falls. One that need not wait tells that it has written exactly if
its unit sees the account at this version, unless it fails or the store was told to refuse; and it does not fail if the
store works and can hold what it is given. When it tells so it has replaced this one row, by one whose version is
higher by one, in the tables that its unit sees, and otherwise it has changed nothing. -/
theorem first_committer_wins (storage : Storage) (alone : storage.intrusions = []) (events : List UnitEvent) :
    let crowd := run storage events
    (∀ win, crowd.landed.count win ≤ 1) ∧
    (∀ id row, crowd.storage.database.account? id = some row →
      row.version = storage.database.firstVersion id + crowd.landed.countP (·.account = id)) ∧
    (∀ more : List UnitEvent, crowd.storage.database.Advances (more.foldl UnitCrowd.step crowd).storage.database) ∧
    ∀ (name : Nat) (rewrite : Rewrite) (id version : Int),
      let session := crowd.session name
      let outcome := (rewrite.work id version session).1
      let next := crowd.step (.call name (rewrite.call id version))
      crowd.waits name (rewrite.work id version session).2 = false →
        (∀ told, outcome = .ok told → (Planned.next rewrite.point crowd.storage.faults).1 ≠ some .refusal →
          (told = true ↔ ∃ row, session.view.account? id = some row ∧ row.version = version)) ∧
        (crowd.storage.reachable = true → (Planned.next rewrite.point crowd.storage.faults).1 = none →
          fitsWord id = true → fitsWord version = true → rewrite.IsStorable →
            outcome = .ok (session.view.accountAt? id version).isSome) ∧
        (outcome = .ok true → ∃ old new, session.view.accountAt? id version = some old ∧ rewrite.Makes old new ∧
          (next.session name).view = session.view.replace new) ∧
        (outcome ≠ .ok true → (next.session name).view = session.view) ∧
        next.storage.database = crowd.storage.database ∧
        ∀ other, other ≠ name → (next.session other).view = (crowd.session other).view := by
  intro crowd
  have sound : crowd.Sound storage.database := sound_run storage alone events
  refine ⟨fun win ↦ List.nodup_iff_count_le_one.1 sound.committed.once win, sound.committed.counted,
    fun more ↦ (sound_foldl sound more).2, fun name rewrite id version ↦ ?_⟩
  intro session outcome next goesOn
  obtain ⟨ends, kept, others⟩ := step_rewrite goesOn
  have tells (reachable : crowd.storage.reachable = true)
      (passes : (Planned.next rewrite.point crowd.storage.faults).1 = none) (fits : fitsWord id = true)
      (fits' : fitsWord version = true) (storable : rewrite.IsStorable) :
      outcome = .ok (session.view.accountAt? id version).isSome :=
    rewrite.tells reachable passes fits fits' storable
  change rewrite.Ends id version session (next.session name).view outcome at ends
  clear_value outcome
  refine ⟨fun told isTold spared ↦ (isTold ▸ ends).told_iff spared, tells, fun isTold ↦ ?_, fun isOther ↦ ?_, kept,
    others⟩
  · rw [isTold] at ends
    cases ends with
    | written old new _ found makes same => exact ⟨old, new, found, makes, same⟩
  · cases ends with
    | written => exact absurd rfl isOther
    | missed _ same | failed _ same => exact same

/-- A unit that wrote first and rolled back leaves the version to another one, whose write waited and then lands;
it does not get it again. -/
theorem first_committer_wins_rolledBack :
    let storage := unit [.addAccount { owner := some 1, kind := .checking }, .commit] {}
    let events : List UnitEvent := [.call 1 (.load 1), .call 2 (.load 1), .call 1 (.writeBalance 1 1 (.text "5.00")),
      .call 2 (.writeStatus 1 1 .frozen), .call 1 .rollback, .call 2 (.writeStatus 1 1 .frozen), .call 2 .commit]
    let crowd := run storage events
    let again : Rewrite := .balance (.text "5.00")
    storage.intrusions = [] ∧ crowd.landed = [⟨1, 1⟩] ∧ (∀ win, crowd.landed.count win ≤ 1) ∧
      crowd.storage.database.accounts.map (fun row ↦ (row.status, row.balance, row.version)) =
        [(.frozen, "0.00", 2)] ∧
      crowd.waits 1 (again.work 1 1 (crowd.session 1)).2 = false ∧
      ((crowd.step (.call 1 (again.call 1 1))).session 1).view = (crowd.session 1).view := by
  intro storage events crowd again
  have alone : storage.intrusions = [] := List.isEmpty_iff.1 (by decide +kernel)
  have goesOn : crowd.waits 1 (again.work 1 1 (crowd.session 1)).2 = false := by decide +kernel
  have stale : (again.work 1 1 (crowd.session 1)).1 = .ok false := toOption_eq_some_except.1 (by decide +kernel)
  obtain ⟨once, -, -, writes⟩ := first_committer_wins storage alone events
  obtain ⟨-, -, -, same, -⟩ := writes 1 again 1 1 goesOn
  refine ⟨alone, by decide +kernel, once, by decide +kernel, goesOn, same ?_⟩
  exact stale ▸ nofun

end UnitCrowd

end Passbook
