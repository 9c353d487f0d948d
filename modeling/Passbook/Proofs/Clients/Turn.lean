import Passbook.Proofs.Clients.World

/-!
One turn of a client among others. `Deed.Effect` says what a committed unit has done to the tables, and
`Committed` that a step has committed one unit, which does the same on its own, or nothing. What a client
holds was read at some time before (`Progress.Sound`), and stays so whatever others commit. Main
statement: a turn of such a client commits one unit or nothing, and leaves the client with what it has
read (`Client.sound_turn`).
-/

set_option autoImplicit false
set_option relaxedAutoImplicit false

namespace Passbook

open Procedure Session Work

/-! ### Effects -/

/-- What a committed unit has done to the tables. -/
inductive Deed.Effect (before after : Database) : Deed → Prop
  | posted (posting : Posting) (cents : Int) (row : TransactionRow) :
      posting.Moves cents → before.Posted posting cents row after →
      Effect before after (.posted posting)
  | statusChanged (id : Int) (status : AccountStatus) (reason : String) (old : AccountRow) :
      before.StatusChanged id status reason old after →
      Effect before after (.statusChanged id status reason)
  | opened (owner : Option Int) (kind : AccountKind) (row : AccountRow) :
      before.Opened row after → owner = some row.owner → row.kind = kind →
      Effect before after (.opened owner kind)
  | intruded (id : Int) (intrusion : Intrusion) (old new : AccountRow) :
      before.account? id = some old →
      new = { old with
        balance := intrusion.balance.getD old.balance
        status := intrusion.status.getD old.status
        version := old.version + 1 } →
      Money.balanceHolds new.balance = true → after = before.replace new →
      Effect before after (.intruded id intrusion)

namespace Database

variable {before after : Database}

theorem Posted.advances {posting : Posting} {cents : Int} {row : TransactionRow}
    (posted : before.Posted posting cents row after) : before.Advances after := by
  intro id old found
  by_cases involved : id ∈ posting.movement.accounts
  · rw [Movement.accounts_eq_legs] at involved
    obtain ⟨leg, member, rfl⟩ := List.mem_map.1 involved
    obtain ⟨there, new, _, _, found', -, -, -, -, written, moved⟩ := posted.legs leg member
    rw [found] at found'
    obtain rfl := Option.some.inj found'
    refine ⟨new, written, Or.inr ?_⟩
    rw [moved.version]
    exact Int.lt_succ _
  · exact ⟨old, (posted.others id involved).trans found, Or.inl rfl⟩

theorem StatusChanged.advances {id : Int} {status : AccountStatus} {reason : String}
    {old : AccountRow} (changed : before.StatusChanged id status reason old after) :
    before.Advances after := by
  intro other row found
  by_cases same : other = id
  · subst same
    rw [changed.found] at found
    obtain rfl := Option.some.inj found
    exact ⟨_, changed.account?_self, Or.inr (Int.lt_succ _)⟩
  · exact ⟨row, by rw [changed.account?, if_neg same, found], Or.inl rfl⟩

theorem Opened.advances {row : AccountRow} (opened : before.Opened row after) :
    before.Advances after := by
  intro id old found
  exact ⟨old, by rw [opened.account?, found]; rfl, Or.inl rfl⟩

end Database

theorem Deed.Effect.advances {before after : Database} {deed : Deed}
    (effect : deed.Effect before after) : before.Advances after := by
  cases effect with
  | posted _ _ _ _ posted => exact posted.advances
  | statusChanged _ _ _ _ changed => exact changed.advances
  | opened _ _ _ opened => exact opened.advances
  | intruded id intrusion old new found isNew _ written =>
    obtain rfl := isNew
    obtain rfl := Database.account?_id found
    rw [written]
    exact Database.advances_replace found (Int.lt_succ _)

/-- A step from one store to another has committed one unit, which does the same on its own, or
nothing. -/
inductive Committed (before after : Storage) : Option Deed → Prop
  | nothing : after.database = before.database → Committed before after none
  | unit (deed : Deed) : deed.Effect before.database after.database →
      deed.perform before.clock before.database = .ok after.database →
      Committed before after (some deed)

theorem Committed.advances {before after : Storage} {deed : Option Deed}
    (committed : Committed before after deed) : before.database.Advances after.database := by
  cases committed with
  | nothing same =>
    rw [same]
    exact Database.Advances.refl _
  | unit deed effect _ => exact effect.advances

/-- A unit that comes to a result on its own. -/
theorem Work.tables_ok {Result : Type} {work : Work Result} {storage : Storage} {result : Result}
    {database : Database} (ended : (work.run storage).1 = .ok result)
    (left : (work.run storage).2.database = database) : work.tables storage = .ok database := by
  rw [Work.tables, ended, ← left]
  rfl

/-- What another writer does to an account that there is. -/
theorem admitIntruder_tables {database : Database} {id : Int} {old : AccountRow}
    (found : database.account? id = some old) (intrusion : Intrusion) (instant : Instant) :
    (Deed.intruded id intrusion).perform instant database =
      if Money.balanceHolds (Work.intruded intrusion old).balance then
        .ok (database.replace (Work.intruded intrusion old))
      else .error (.integrity (some .balanceCheck)) := by
  have planned : Planned.next id [({ place := id, what := intrusion } : Planned Int Intrusion)] =
      (some intrusion, []) := by
    simp [Planned.next]
  dsimp only [Deed.perform, Work.tables]
  rw [run_eq]
  simp only [admitIntruder, run_bind, run_get, run_set, opened, planned, Option.isSome_none,
    Bool.false_eq_true, if_false, Storage.calm]
  rw [found]
  simp only [run_ite, run_modify, run_throw]
  split <;> rfl

/-! ### What clients hold -/

namespace Work

/-- An account that a client has just loaded is as the tables have it. -/
theorem showed_of_load {id : Int} {account : Account} {session after : Session}
    (loaded : load id session = (.ok (some account), after)) :
    account.id = id ∧ session.view.Showed account := by
  obtain ⟨row, found, isRead⟩ := load_ok loaded
  exact ⟨(AccountRow.id_of_read isRead).trans (Database.account?_id found),
    Database.showed_of_read found isRead⟩

theorem showed_of_loadActive {id : Int} {account : Account} {session after : Session}
    (loaded : loadActive id session = (.ok account, after)) :
    account.status = .active ∧ account.id = id ∧ session.view.Showed account := by
  obtain ⟨active, row, found, isRead⟩ := loadActive_ok loaded
  exact ⟨active, (AccountRow.id_of_read isRead).trans (Database.account?_id found),
    Database.showed_of_read found isRead⟩

theorem leaves_writeOpening (owner : Option Int) (kind : AccountKind) :
    (writeOpening owner kind).Leaves Drafts := by
  unfold writeOpening
  refine leaves_bind (leaves_addAccount _) fun account ↦ ?_
  exact leaves_bind (leaves_recordEvent _ _) fun _ ↦ leaves_pure _

end Work

/-- What a client holds was read from the tables at some time before. -/
def Progress.Sound (database : Database) : Progress → Prop
  | .looking attempt => ∃ cents, attempt.posting.Moves cents
  | .posting attempt read rest =>
    (∃ cents, attempt.posting.Moves cents) ∧
      read.map (fun leg ↦ (leg.1.id, leg.2)) ++ rest = attempt.posting.movement.legs ∧
      ∀ leg ∈ read, leg.1.status = .active ∧ database.Showed leg.1
  | .changing id _ _ read => ∀ account ∈ read, account.id = id ∧ database.Showed account
  | .rereading _ => True
  | .opening _ _ => True

theorem Progress.Sound.of_advances {before after : Database} {progress : Progress}
    (sound : progress.Sound before) (advances : before.Advances after) : progress.Sound after := by
  cases progress with
  | looking attempt => exact sound
  | posting attempt read rest =>
    obtain ⟨moves, legs, showed⟩ := sound
    refine ⟨moves, legs, fun leg member ↦ ?_⟩
    obtain ⟨active, shown⟩ := showed leg member
    exact ⟨active, shown.of_advances advances⟩
  | changing id status reason read =>
    intro account held
    obtain ⟨sameId, shown⟩ := sound account held
    exact ⟨sameId, shown.of_advances advances⟩
  | rereading id => trivial
  | opening owner kind => trivial

/-- A posting that is tried begins with nothing read. -/
theorem Try.sound_start {attempt : Try} {cents : Int} (moves : attempt.posting.Moves cents)
    (database : Database) : attempt.start.Sound database := by
  refine ⟨⟨cents, moves⟩, rfl, ?_⟩
  simp

/-- A try that failed is followed by another one of the same posting, or by nothing. -/
theorem Try.sound_failed {attempt : Try} {cents : Int} (moves : attempt.posting.Moves cents)
    (database : Database) (failure : Failure) :
    ∀ progress ∈ attempt.failed failure, progress.Sound database := by
  intro progress follows
  unfold Try.failed at follows
  split at follows
  · cases follows
  · split at follows
    · cases follows
    · split at follows
      · cases follows
      · obtain rfl := Option.some.inj follows
        exact ⟨cents, moves⟩

/-! ### Turns -/

/-- A turn commits one unit or nothing, and leaves the client with what was read. -/
structure Turn.Sound (before : Storage) (turn : Turn) : Prop where
  alone : turn.storage.intrusions = []
  committed : Committed before turn.storage turn.deed
  holds : ∀ later ∈ turn.client, later.progress.Sound turn.storage.database

namespace Client

variable {Result : Type} {client : Client} {storage : Storage}

theorem runs_storage (part : Work Result) (next : Result → Option Progress)
    (failed : Failure → Option Progress) :
    (client.runs storage part next failed).storage = (part (client.session storage)).2.storage := by
  unfold runs
  cases part (client.session storage) with
  | mk outcome session => cases outcome <;> rfl

theorem runs_deed (part : Work Result) (next : Result → Option Progress)
    (failed : Failure → Option Progress) :
    (client.runs storage part next failed).deed = none := by
  unfold runs
  cases part (client.session storage) with
  | mk outcome session => cases outcome <;> rfl

/-- What a client is at after a turn is what follows from the outcome of its part. -/
theorem runs_client {part : Work Result} {next : Result → Option Progress}
    {failed : Failure → Option Progress} {property : Progress → Prop}
    (goesOn : ∀ result session, part (client.session storage) = (.ok result, session) →
      ∀ progress ∈ next result, property progress)
    (stops : ∀ failure, ∀ progress ∈ failed failure, property progress) :
    ∀ later ∈ (client.runs storage part next failed).client, property later.progress := by
  intro later isLater
  unfold runs at isLater
  cases ran : part (client.session storage) with
  | mk outcome session =>
    rw [ran] at isLater
    cases outcome with
    | ok result =>
      obtain ⟨progress, follows, rfl⟩ := Option.map_eq_some_iff.1 isLater
      exact goesOn result session ran progress follows
    | error failure =>
      obtain ⟨progress, follows, rfl⟩ := Option.map_eq_some_iff.1 isLater
      exact stops failure progress follows

/-- A turn that reads commits nothing. -/
theorem sound_runs {part : Work Result} {next : Result → Option Progress}
    {failed : Failure → Option Progress} (reads : part.Leaves Reads)
    (alone : storage.intrusions = [])
    (goesOn : ∀ result session, part (client.session storage) = (.ok result, session) →
      ∀ progress ∈ next result, progress.Sound storage.database)
    (stops : ∀ failure, ∀ progress ∈ failed failure, progress.Sound storage.database) :
    (client.runs storage part next failed).Sound storage := by
  have isAlone : (client.session storage).IsAlone := alone
  obtain ⟨alone', database, -⟩ := (reads (client.session storage)).1 isAlone
  rw [← runs_storage part next failed] at database
  constructor
  · rw [runs_storage]
    exact alone'
  · rw [runs_deed]
    exact .nothing database
  · rw [database]
    exact runs_client goesOn stops

/-- A turn that writes commits all of it, or nothing. -/
theorem sound_writes {writes : Work Result} {deed : Deed} {next : Option Progress}
    {failed : Failure → Option Progress} (drafts : writes.Leaves Drafts)
    (alone : storage.intrusions = [])
    (does : ∀ result written, writes (client.session storage) = (.ok result, written) →
      deed.Effect storage.database written.view ∧
        deed.perform storage.clock storage.database = .ok written.view)
    (goesOn : ∀ database, ∀ progress ∈ next, progress.Sound database)
    (stops : ∀ database failure, ∀ progress ∈ failed failure, progress.Sound database) :
    (client.writes storage writes deed next failed).Sound storage := by
  have isAlone : (client.session storage).IsAlone := alone
  suffices committed : (client.writes storage writes deed next failed).storage.intrusions = [] ∧
      Committed storage (client.writes storage writes deed next failed).storage
        (client.writes storage writes deed next failed).deed from
    ⟨committed.1, committed.2, runs_client (fun _ _ _ ↦ goesOn _) (stops _)⟩
  change (client.runs storage writes.committing _ failed).storage.intrusions = [] ∧
    Committed storage (client.runs storage writes.committing _ failed).storage
      (if writes.takesEffect (client.session storage) then some deed else none)
  rw [runs_storage, committing, takesEffect, run_bind, run_bind]
  cases wrote : writes (client.session storage) with
  | mk outcome written =>
    obtain ⟨alone', database, -⟩ := drafts.of_eq wrote isAlone
    cases outcome with
    | error failure => exact ⟨alone', .nothing database⟩
    | ok result =>
      obtain ⟨effect, performs⟩ := does result written wrote
      obtain ⟨same, committed⟩ := commit_effect (Prod.eta (commit written)).symm
      refine ⟨same.trans alone', ?_⟩
      by_cases effective : (pass .commit written).1.isOk = true
      · rw [if_pos effective] at committed ⊢
        rw [← committed] at effect performs
        exact .unit deed effect performs
      · rw [if_neg effective] at committed ⊢
        exact .nothing (committed.trans database)

/-! ### What each turn comes to -/

/-- What a client writes for a posting of which it has read all accounts is that posting. -/
theorem effect_of_writePosting {attempt : Try} {read : List (Account × Direction)} {cents : Int}
    (alone : storage.intrusions = []) (moves : attempt.posting.Moves cents)
    (legs : read.map (fun leg ↦ (leg.1.id, leg.2)) = attempt.posting.movement.legs)
    (showed : ∀ leg ∈ read, leg.1.status = .active ∧ storage.database.Showed leg.1)
    {record : Record} {written : Session}
    (wrote : writePosting attempt.posting read (client.session storage) = (.ok record, written)) :
    (Deed.posted attempt.posting).Effect storage.database written.view ∧
      (Deed.posted attempt.posting).perform storage.clock storage.database = .ok written.view := by
  have isAlone : (client.session storage).IsAlone := alone
  have shown : ∀ leg ∈ read, (client.session storage).view.Showed leg.1 :=
    fun leg member ↦ (showed leg member).2
  have active : ∀ leg ∈ read, leg.1.status = .active := fun leg member ↦ (showed leg member).1
  obtain ⟨row, posted, -⟩ := writePosting_ok moves legs shown active wrote
  obtain ⟨ended, left⟩ := tryPosting_isolated isAlone moves legs shown active wrote
  exact ⟨.posted attempt.posting cents row moves posted, tables_ok ended left⟩

/-- What a client writes for a change of status of an account that it has read is that change. -/
theorem effect_of_writeStatusChange {account : Account} {status : AccountStatus} {reason : String}
    (alone : storage.intrusions = []) (showed : storage.database.Showed account)
    {written : Session}
    (wrote : writeStatusChange account status reason (client.session storage) =
      (.ok ⟨⟩, written)) :
    (Deed.statusChanged account.id status reason).Effect storage.database written.view ∧
      (Deed.statusChanged account.id status reason).perform storage.clock storage.database =
        .ok written.view := by
  have isAlone : (client.session storage).IsAlone := alone
  have shown : (client.session storage).view.Showed account := showed
  obtain ⟨-, -, old, changed, -⟩ := writeStatusChange_ok shown wrote
  obtain ⟨ended, left⟩ := changeStatus_isolated isAlone shown wrote
  exact ⟨.statusChanged account.id status reason old changed, tables_ok ended left⟩

/-- What a client writes for the opening of an account is that opening. -/
theorem effect_of_writeOpening {owner : Option Int} {kind : AccountKind}
    (alone : storage.intrusions = []) {account : Account} {written : Session}
    (wrote : writeOpening owner kind (client.session storage) = (.ok account, written)) :
    (Deed.opened owner kind).Effect storage.database written.view ∧
      (Deed.opened owner kind).perform storage.clock storage.database = .ok written.view := by
  have isAlone : (client.session storage).IsAlone := alone
  unfold writeOpening at wrote
  obtain ⟨added, middle, adding, wrote⟩ := ok_of_bind wrote
  obtain ⟨_, _, recorded, wrote⟩ := ok_of_bind wrote
  obtain ⟨same, rfl⟩ := Prod.mk.inj wrote
  obtain rfl := Except.ok.inj same
  obtain ⟨ended, left⟩ := openAccount_isolated isAlone adding recorded
  obtain ⟨-, row, unused, view, empty, version, sameKind, active, sameOwner, id, number, owner'⟩ :=
    addAccount_ok rfl adding
  rw [recordEvent_run, id, number, owner', view] at recorded
  obtain ⟨-, rfl⟩ := Prod.mk.inj recorded
  exact ⟨.opened owner kind row (Database.opened_addAudit unused empty active version sameKind) sameOwner
    sameKind, tables_ok ended left⟩

/-- A turn of a client that holds what it has read commits one unit or nothing, and leaves the client
with what it has read. -/
theorem sound_turn (alone : storage.intrusions = [])
    (sound : client.progress.Sound storage.database) : (client.turn storage).Sound storage := by
  have isAlone : (client.session storage).IsAlone := alone
  unfold turn
  cases progress : client.progress with
  | looking attempt =>
    rw [progress] at sound
    obtain ⟨cents, moves⟩ := sound
    apply sound_runs (leaves_lookup _) alone
    · intro found session ran later follows
      split at follows
      · cases follows
      · obtain rfl := Option.some.inj follows
        exact Try.sound_start moves _
    · exact Try.sound_failed moves _
  | posting attempt read rest =>
    rw [progress] at sound
    obtain ⟨⟨cents, moves⟩, legs, showed⟩ := sound
    cases rest with
    | cons leg rest =>
      obtain ⟨id, direction⟩ := leg
      apply sound_runs (leaves_loadActive id) alone
      · intro account session ran later follows
        obtain rfl := Option.some.inj follows
        obtain ⟨active, sameId, shown⟩ := showed_of_loadActive ran
        refine ⟨⟨cents, moves⟩, ?_, ?_⟩
        · simpa [sameId] using legs
        · intro leg member
          rcases List.mem_append.1 member with before | now
          · exact showed leg before
          · obtain rfl := List.mem_singleton.1 now
            exact ⟨active, shown⟩
      · exact Try.sound_failed moves _
    | nil =>
      rw [List.append_nil] at legs
      apply sound_writes (leaves_writePosting _ _) alone
      · intro record written wrote
        exact effect_of_writePosting alone moves legs showed wrote
      · intro database later follows
        cases follows
      · intro database
        exact Try.sound_failed moves database
  | changing id status reason read =>
    rw [progress] at sound
    cases read with
    | none =>
      apply sound_runs (leaves_load id) alone
      · intro account session ran later follows
        obtain ⟨account, rfl, rfl⟩ := Option.map_eq_some_iff.1 follows
        intro held isHeld
        obtain rfl := Option.some.inj isHeld
        exact showed_of_load ran
      · intro failure later follows
        cases follows
    | some account =>
      obtain ⟨rfl, shown⟩ := sound account rfl
      apply sound_writes (leaves_writeStatusChange _ _ _) alone
      · intro result written wrote
        exact effect_of_writeStatusChange alone shown wrote
      · intro database later follows
        obtain rfl := Option.some.inj follows
        trivial
      · intro database failure later follows
        cases follows
  | rereading id =>
    apply sound_runs (leaves_load id) alone
    · intro account session ran later follows
      cases follows
    · intro failure later follows
      cases follows
  | opening owner kind =>
    apply sound_writes (leaves_writeOpening _ _) alone
    · intro account written wrote
      exact effect_of_writeOpening alone wrote
    · intro database later follows
      cases follows
    · intro database failure later follows
      cases follows

end Client

end Passbook
