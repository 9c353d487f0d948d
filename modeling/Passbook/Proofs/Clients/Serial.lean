import Mathlib.Data.List.Infix
import Passbook.Proofs.Clients.Turn

/-!
Clients among others do what they would do one after the other. `World.Sound` is the invariant: every
client holds only what it has read at some time before. One step commits one unit or nothing
(`World.stepped_step`), so the committed tables are always those of the log replayed, each unit on its own
and in the order of the commits (`World.serializable`): what has been committed is never lost, every new
balance is the one before that commit plus or minus the amount, and no balance falls below zero.
-/

set_option autoImplicit false
set_option relaxedAutoImplicit false

namespace Passbook

open Procedure Session Work

/-! ### Balances that are not below zero -/

/-- Another writer sets no balance, or a whole number of cents that is not below zero. -/
def Intrusion.Solvent (intrusion : Intrusion) : Prop :=
  ∀ balance ∈ intrusion.balance, ∃ cents, Money.storedCents? balance = some cents ∧ 0 ≤ cents

theorem Deed.Effect.solvent {before after : Database} {deed : Deed}
    (effect : deed.Effect before after) (solvent : before.Solvent)
    (others : ∀ id intrusion, deed = .intruded id intrusion → intrusion.Solvent) :
    after.Solvent := by
  intro id row found
  cases effect with
  | posted posting cents _ moves posted =>
    by_cases involved : id ∈ posting.movement.accounts
    · rw [Movement.accounts_eq_legs] at involved
      obtain ⟨leg, member, rfl⟩ := List.mem_map.1 involved
      obtain ⟨_, _, _, _, -, -, -, enough, whole, written, moved⟩ := posted.legs leg member
      rw [written] at found
      obtain rfl := Option.some.inj found
      exact ⟨_, moved.storedCents?.trans whole, enough⟩
    · rw [posted.others id involved] at found
      exact solvent id row found
  | statusChanged changed status reason old statusChanged =>
    rw [statusChanged.account?] at found
    split at found
    · obtain rfl := Option.some.inj found
      exact solvent changed old statusChanged.found
    · exact solvent id row found
  | opened owner kind new opened =>
    rw [opened.account?] at found
    cases there : before.account? id with
    | some old =>
      rw [there] at found
      obtain rfl := Option.some.inj found
      exact solvent id old there
    | none =>
      rw [there, Option.none_or] at found
      split at found
      · obtain rfl := Option.some.inj found
        refine ⟨0, ?_, Int.le_refl 0⟩
        rw [opened.empty]
        exact Money.storedCents?_text (Decimal.cents?_finite false (by decide))
      · cases found
  | intruded changed intrusion old new there isNew _ written =>
    obtain rfl := Database.account?_id there
    have there' : before.account? new.id = some old := isNew ▸ there
    rw [written, Database.account?_replace there'] at found
    split at found
    · obtain rfl := Option.some.inj found
      rw [isNew]
      cases set : intrusion.balance with
      | none =>
        simp only [Option.getD_none]
        exact solvent old.id old there
      | some balance =>
        simp only [Option.getD_some]
        exact others old.id intrusion rfl balance set
    · exact solvent id row found

/-! ### One step -/

/-- What a client begins with was asked of it, and nothing has been committed. -/
theorem Request.begin_cases (request : Request) (storage : Storage) :
    (∃ serial, (request.begin storage).2 = { storage with drawn := serial }) ∧
      ∀ progress ∈ (request.begin storage).1, progress.Sound storage.database := by
  cases request with
  | openAccount owner kind =>
    refine ⟨⟨storage.drawn, rfl⟩, ?_⟩
    rintro progress ⟨⟩
    trivial
  | changeStatus id status reason =>
    refine ⟨⟨storage.drawn, rfl⟩, ?_⟩
    rintro progress ⟨⟩ account held
    cases held
  | post engine movement amount description =>
    cases prepared : Ledger.prepare engine movement amount description { storage } with
    | mk outcome ledger =>
      obtain ⟨drawn, accepted⟩ := Ledger.prepare_cases prepared
      rw [Request.begin, prepared]
      cases outcome with
      | error failure =>
        refine ⟨drawn, ?_⟩
        rintro progress ⟨⟩
      | ok posting =>
        obtain ⟨_, refused⟩ | ⟨posting, cents, same, -, -, moves⟩ := accepted
        · cases refused
        · obtain rfl := Except.ok.inj same
          cases engine.retry with
          | error failure =>
            refine ⟨drawn, ?_⟩
            rintro progress ⟨⟩
          | ok retry =>
            refine ⟨drawn, ?_⟩
            rintro progress ⟨⟩
            exact Try.sound_start moves _

/-- Clients do not what other writers do. -/
theorem Client.turn_deed {client : Client} {storage : Storage} {id : Int} {intrusion : Intrusion} :
    (client.turn storage).deed ≠ some (.intruded id intrusion) := by
  unfold Client.turn
  split
  case h_3 | h_5 | h_7 =>
    unfold Client.writes
    dsimp only
    split <;> simp
  all_goals
    rw [Client.runs_deed]
    simp

namespace World

/-- Every client holds only what it has read. -/
structure Sound (world : World) : Prop where
  alone : world.storage.intrusions = []
  clients : ∀ name client, world.clients name = some client →
    client.progress.Sound world.database

variable {world : World}

/-- A client may come to something else while others keep what they have read. -/
theorem Sound.update (sound : world.Sound) {storage : Storage} (alone : storage.intrusions = [])
    (advances : world.database.Advances storage.database) (name : Nat) {client : Option Client}
    (holds : ∀ later ∈ client, later.progress.Sound storage.database) (log : List (Deed × Instant)) :
    Sound { storage, clients := Function.update world.clients name client, log } := by
  refine ⟨alone, ?_⟩
  intro other later isLater
  dsimp only at isLater
  by_cases same : other = name
  · rw [same, Function.update_self] at isLater
    exact holds later isLater
  · rw [Function.update_of_ne same] at isLater
    exact (sound.clients other later isLater).of_advances advances

/-- What one step comes to: the clients still hold what they have read, and the log has grown by what was
committed. Only where another writer comes in, it may be what that does. -/
structure Stepped (before : World) (event : Event) (deed : Option Deed) (after : World) : Prop where
  sound : after.Sound
  committed : Committed before.storage after.storage deed
  log : after.log = before.log ++ (deed.map (·, before.storage.clock)).toList
  origin : ∀ id intrusion, deed = some (.intruded id intrusion) → event = .intrude id intrusion

theorem stepped_nothing {after : World} (event : Event) (sound : after.Sound)
    (database : after.database = world.database) (log : after.log = world.log) :
    Stepped world event none after := by
  refine ⟨sound, .nothing database, ?_, ?_⟩
  · simp [log]
  · intro id intrusion never
    cases never

theorem stepped_ask (sound : world.Sound) (name : Nat) (request : Request) :
    Stepped world (.ask name request) none (world.step (.ask name request)) := by
  obtain ⟨⟨serial, storage⟩, begins⟩ := request.begin_cases world.storage
  have alone : (request.begin world.storage).2.intrusions = [] := by
    rw [storage]
    exact sound.alone
  have database : (request.begin world.storage).2.database = world.database := by
    rw [storage]
    rfl
  refine stepped_nothing _ (sound.update alone ?_ name ?_ world.log) database rfl
  · rw [database]
    exact Database.Advances.refl _
  · intro client isClient
    obtain ⟨progress, begun, rfl⟩ := Option.map_eq_some_iff.1 isClient
    rw [database]
    exact begins progress begun

theorem stepped_go (sound : world.Sound) (name : Nat) :
    ∃ deed, Stepped world (.go name) deed (world.step (.go name)) := by
  cases atWork : world.clients name with
  | none =>
    have idle : world.step (.go name) = world := by simp only [step, atWork]
    rw [idle]
    exact ⟨none, stepped_nothing _ sound rfl rfl⟩
  | some client =>
    have turned := Client.sound_turn sound.alone (sound.clients name client atWork)
    have goes : world.step (.go name) =
        { storage := (client.turn world.storage).storage
          clients := Function.update world.clients name (client.turn world.storage).client
          log := world.log ++
            ((client.turn world.storage).deed.map (·, world.storage.clock)).toList } := by
      simp only [step, atWork]
    rw [goes]
    refine ⟨(client.turn world.storage).deed, ?_, turned.committed, rfl, ?_⟩
    · exact sound.update turned.alone turned.committed.advances name turned.holds _
    · intro id intrusion deed
      exact absurd deed Client.turn_deed

theorem stepped_intrude (sound : world.Sound) (id : Int) (intrusion : Intrusion) :
    ∃ deed, Stepped world (.intrude id intrusion) deed (world.step (.intrude id intrusion)) := by
  have idle : Stepped world (.intrude id intrusion) none world :=
    stepped_nothing _ sound rfl rfl
  unfold step
  dsimp only
  cases found : world.database.account? id with
  | none => exact ⟨none, idle⟩
  | some old =>
    cases performs : (Deed.intruded id intrusion).perform world.storage.clock world.database with
    | error failure => exact ⟨none, idle⟩
    | ok database =>
      have effect : (Deed.intruded id intrusion).Effect world.database database := by
        rw [admitIntruder_tables found] at performs
        split at performs
        · next holds =>
          exact .intruded id intrusion old _ found rfl holds (Except.ok.inj performs).symm
        · cases performs
      refine ⟨some (.intruded id intrusion), ⟨sound.alone, ?_⟩, .unit _ effect performs, rfl, ?_⟩
      · intro name client atWork
        exact (sound.clients name client atWork).of_advances effect.advances
      · intro other what same
        cases same
        rfl

/-- One step commits one unit or nothing. -/
theorem stepped_step (sound : world.Sound) (event : Event) :
    ∃ deed, Stepped world event deed (world.step event) := by
  cases event with
  | ask name request => exact ⟨none, stepped_ask sound name request⟩
  | go name => exact stepped_go sound name
  | intrude id intrusion => exact stepped_intrude sound id intrusion
  | disturb faults reachable clock =>
    exact ⟨none, stepped_nothing _ ⟨sound.alone, sound.clients⟩ rfl rfl⟩

/-! ### Runs -/

/-- Nobody is at work in the beginning. -/
theorem sound_start (database : Database) : (start database).Sound := by
  refine ⟨rfl, ?_⟩
  intro name client atWork
  cases atWork

/-- What holds in the beginning and after every step that commits one unit or nothing holds after every
run. -/
theorem run_induct (property : World → Prop) {world : World} (sound : world.Sound)
    (begins : property world) (events : List Event)
    (goesOn : ∀ before event deed after, event ∈ events → property before →
      Stepped before event deed after → property after) :
    (world.run events).Sound ∧ property (world.run events) := by
  induction events generalizing world with
  | nil => exact ⟨sound, begins⟩
  | cons event rest ih =>
    obtain ⟨deed, stepped⟩ := stepped_step sound event
    have next := goesOn world event deed _ List.mem_cons_self begins stepped
    exact ih stepped.sound next fun before event deed after later ↦
      goesOn before event deed after (List.mem_cons_of_mem _ later)

theorem replay_append (database : Database) (log : List (Deed × Instant)) (entry : Deed × Instant) :
    replay database (log ++ [entry]) = (do entry.1.perform entry.2 (← replay database log)) := by
  unfold replay
  rw [List.foldlM_append]
  simp

/-- The committed tables are those of the log replayed, and every unit in it had its effect on the tables
as the units before it had left them. -/
def Replayed (database : Database) (world : World) : Prop :=
  replay database world.log = .ok world.database ∧
    ∀ earlier deed instant, earlier ++ [(deed, instant)] <+: world.log →
      ∃ before after, replay database earlier = .ok before ∧
        replay database (earlier ++ [(deed, instant)]) = .ok after ∧ deed.Effect before after

theorem replayed_start (database : Database) : (start database).Replayed database := by
  refine ⟨rfl, ?_⟩
  intro earlier deed instant isPrefix
  exact absurd (List.prefix_nil.1 isPrefix) (by simp)

theorem Stepped.replayed {start : Database} {before after : World} {event : Event}
    {deed : Option Deed} (stepped : Stepped before event deed after)
    (replayed : before.Replayed start) : after.Replayed start := by
  obtain ⟨whole, parts⟩ := replayed
  have log := stepped.log
  cases stepped.committed with
  | nothing same =>
    rw [Option.map_none, Option.toList_none, List.append_nil] at log
    refine ⟨?_, ?_⟩
    · rw [log, whole]
      exact congrArg Except.ok same.symm
    · rw [log]
      exact parts
  | unit deed effect performs =>
    change after.log = before.log ++ [(deed, before.storage.clock)] at log
    have last : replay start after.log = .ok after.database := by
      rw [log, replay_append, whole]
      exact performs
    refine ⟨last, ?_⟩
    intro earlier other instant isPrefix
    rw [log, List.prefix_concat_iff] at isPrefix
    rcases isPrefix with now | before
    · obtain ⟨rfl, same⟩ := List.append_inj' now rfl
      obtain ⟨rfl, rfl⟩ := Prod.mk.inj (List.singleton_inj.1 same)
      refine ⟨_, _, whole, ?_, effect⟩
      rw [← log]
      exact last
    · exact parts earlier other instant before

theorem Stepped.solvent {before after : World} {event : Event} {deed : Option Deed}
    (stepped : Stepped before event deed after) (solvent : before.database.Solvent)
    (others : ∀ id intrusion, event = .intrude id intrusion → intrusion.Solvent) :
    after.database.Solvent := by
  cases stepped.committed with
  | nothing same =>
    rw [World.database, same]
    exact solvent
  | unit deed effect _ =>
    refine effect.solvent solvent ?_
    intro id intrusion same
    exact others id intrusion (stepped.origin id intrusion (congrArg some same))

/-- However many clients there are, whatever is asked of them, however their steps follow each other and
however the store fails, the committed tables are those that the committed units lead to one after the
other in the order of their commits, each on its own. Every unit has had its whole effect on what the
units before it had left, so nothing that was committed is lost; and as long as other writers set no
balance below zero, no balance ever is. -/
theorem serializable (database : Database) (events : List Event) :
    let world := (start database).run events
    replay database world.log = .ok world.database ∧
      (∀ earlier deed instant, earlier ++ [(deed, instant)] <+: world.log →
        ∃ before after, replay database earlier = .ok before ∧
          replay database (earlier ++ [(deed, instant)]) = .ok after ∧ deed.Effect before after) ∧
      (database.Solvent →
        (∀ id intrusion, .intrude id intrusion ∈ events → intrusion.Solvent) →
        world.database.Solvent) := by
  intro world
  have replayed : world.Replayed database := by
    refine (run_induct _ (sound_start database) (replayed_start database) events ?_).2
    intro before event deed after _ replayed stepped
    exact stepped.replayed replayed
  refine ⟨replayed.1, replayed.2, ?_⟩
  intro solvent others
  refine (run_induct (fun world ↦ world.database.Solvent) (sound_start database) solvent events
    ?_).2
  intro before event deed after member solvent stepped
  refine stepped.solvent solvent ?_
  rintro id intrusion rfl
  exact others id intrusion member

/-- Two deposits whose account another writer has written since they read it. -/
theorem serializable_stale :
    let deposit (amount : String) := Request.post (Ledger.trying 2 (by decide)) (.deposit 1)
      (.text amount) (.text "")
    let world := (start {}).run
      [.ask 0 (.openAccount (some 1) .checking), .go 0, .ask 0 (deposit "12.34"),
        .ask 1 (deposit "1.00"), .go 0, .go 1, .intrude 1 { balance := some "5.00" },
        .go 0, .go 0, .go 0, .go 0, .go 1, .go 1, .go 1, .go 1]
    world.log.length = 4 ∧ world.database.accounts.map (·.balance) = ["18.34"] ∧
      replay {} world.log = .ok world.database ∧ world.database.Solvent := by
  intro deposit world
  have serial := serializable {} [.ask 0 (.openAccount (some 1) .checking), .go 0,
    .ask 0 (deposit "12.34"), .ask 1 (deposit "1.00"), .go 0, .go 1,
    .intrude 1 { balance := some "5.00" }, .go 0, .go 0, .go 0, .go 0, .go 1, .go 1, .go 1, .go 1]
  refine ⟨by decide +kernel, by decide +kernel, serial.1, serial.2.2 ?_ ?_⟩
  · intro id row found
    cases found
  · intro id intrusion member balance set
    simp only [List.mem_cons, List.not_mem_nil, reduceCtorEq, Event.intrude.injEq, false_or,
      or_false] at member
    obtain ⟨-, rfl⟩ := member
    obtain rfl := Option.some.inj set
    exact ⟨500, by decide +kernel, by decide⟩

end World

end Passbook
