import Passbook.Proofs.Clients.Serial

/-!
The life of an account among clients. A unit that moves money finds every account involved active in the
tables that it is committed to, whenever it may have read them (`World.MovesActive`), and an account that is
closed stays as it is, with the transactions that touch it (`Deed.Effect.closed`). Main statement: this holds
along every run in which nobody but clients writes (`World.closed_is_final`).
-/

set_option autoImplicit false
set_option relaxedAutoImplicit false

namespace Passbook

/-- The transactions that touch an account, in the order in which they were added. -/
def Database.mentioning (database : Database) (id : Int) : List TransactionRow :=
  database.transactions.filter (·.movement.accounts.contains id)

/-! ### One unit -/

namespace Deed.Effect

variable {before after : Database} {deed : Deed} {id : Int} {row : AccountRow}

/-- Money moves only on accounts that are active. -/
theorem active {posting : Posting} (effect : Effect before after (.posted posting))
    (involved : id ∈ posting.movement.accounts) :
    ∃ row, before.account? id = some row ∧ row.status = .active := by
  cases effect with
  | posted posting cents new _ posted =>
    rw [Movement.accounts_eq_legs] at involved
    obtain ⟨leg, member, rfl⟩ := List.mem_map.1 involved
    obtain ⟨old, _, _, _, found, active, -⟩ := posted.legs leg member
    exact ⟨old, found, active⟩

/-- Only what moves money on an account changes its balance. -/
theorem balance (effect : deed.Effect before after)
    (own : ∀ id intrusion, deed ≠ .intruded id intrusion) (found : before.account? id = some row)
    (unmoved : ∀ posting, deed = .posted posting → id ∉ posting.movement.accounts) :
    (after.account? id).map (·.balance) = some row.balance := by
  cases effect with
  | posted posting cents new _ posted =>
    rw [posted.others id (unmoved posting rfl), found]
    rfl
  | statusChanged changed status reason old statusChanged =>
    rw [statusChanged.account?]
    by_cases same : id = changed
    · rw [if_pos same]
      have old' := statusChanged.found
      rw [← same, found] at old'
      obtain rfl := Option.some.inj old'
      rfl
    · rw [if_neg same, found]
      rfl
  | opened owner kind new opened =>
    rw [opened.account?, found]
    rfl
  | intruded changed intrusion => exact absurd rfl (own changed intrusion)

/-- Only what moves money adds transactions. -/
theorem transactions (effect : deed.Effect before after)
    (own : ∀ id intrusion, deed ≠ .intruded id intrusion) :
    (∃ posting, deed = .posted posting) ∨ after.transactions = before.transactions := by
  cases effect with
  | posted posting => exact Or.inl ⟨posting, rfl⟩
  | statusChanged changed status reason old statusChanged =>
    exact Or.inr statusChanged.transactions
  | opened owner kind new opened =>
    exact Or.inr opened.transactions
  | intruded changed intrusion => exact absurd rfl (own changed intrusion)

/-- A closed account stays as it is, and no transaction that touches it is added. -/
theorem closed (effect : deed.Effect before after)
    (own : ∀ id intrusion, deed ≠ .intruded id intrusion) (found : before.account? id = some row)
    (closed : row.status = .closed) :
    after.account? id = some row ∧ after.mentioning id = before.mentioning id := by
  have outside (posting : Posting) (same : deed = .posted posting) :
      id ∉ posting.movement.accounts := by
    intro involved
    subst same
    obtain ⟨other, found', active⟩ := effect.active involved
    rw [found] at found'
    obtain rfl := Option.some.inj found'
    rw [closed] at active
    cases active
  have mentions := effect.transactions own
  cases effect with
  | posted posting cents new _ posted =>
    have untouched := outside posting rfl
    refine ⟨(posted.others id untouched).trans found, ?_⟩
    rw [Database.mentioning, posted.recorded, List.filter_append]
    simp [Database.mentioning, posted.movement, untouched]
  | statusChanged changed status reason old statusChanged =>
    rcases mentions with ⟨_, ⟨⟩⟩ | same
    refine ⟨?_, congrArg (List.filter _) same⟩
    have differ : id ≠ changed := by
      rintro rfl
      have old' := statusChanged.found
      rw [found] at old'
      obtain rfl := Option.some.inj old'
      have allowed := statusChanged.allowed
      rw [closed, AccountStatus.closed_mayBecome] at allowed
      cases allowed
    rw [statusChanged.account?, if_neg differ, found]
  | opened owner kind new opened =>
    rcases mentions with ⟨_, ⟨⟩⟩ | same
    refine ⟨?_, congrArg (List.filter _) same⟩
    rw [opened.account?, found]
    rfl
  | intruded changed intrusion => exact absurd rfl (own changed intrusion)

end Deed.Effect

namespace World

variable {before after : World} {event : Event} {deed : Option Deed}

/-! ### One step -/

/-- Money moves in a step only by a posting that the step commits, on accounts that are active at that
moment. -/
structure MovesActive (before after : World) : Prop where
  active : ∀ posting instant, after.log = before.log ++ [(.posted posting, instant)] →
    ∀ id ∈ posting.movement.accounts, ∃ row, before.database.account? id = some row ∧
      row.status = .active
  balances : ∀ id row, before.database.account? id = some row →
    (after.database.account? id).map (·.balance) ≠ some row.balance →
      ∃ posting instant, after.log = before.log ++ [(.posted posting, instant)] ∧
        id ∈ posting.movement.accounts
  transactions : after.database.transactions ≠ before.database.transactions →
    ∃ posting instant, after.log = before.log ++ [(.posted posting, instant)]

theorem Stepped.own (stepped : Stepped before event deed after)
    (own : ∀ id intrusion, event ≠ .intrude id intrusion) :
    ∀ done ∈ deed, ∀ id intrusion, done ≠ .intruded id intrusion := by
  rintro done same id intrusion rfl
  exact own id intrusion (stepped.origin id intrusion same)

theorem Stepped.movesActive (stepped : Stepped before event deed after)
    (own : ∀ id intrusion, event ≠ .intrude id intrusion) : MovesActive before after := by
  have log := stepped.log
  have clients := stepped.own own
  cases stepped.committed with
  | nothing same =>
    have same : after.database = before.database := same
    rw [Option.map_none, Option.toList_none, List.append_nil] at log
    refine ⟨?_, ?_, ?_⟩
    · intro posting instant grown
      rw [log] at grown
      simp at grown
    · intro id row found changed
      rw [same, found] at changed
      exact absurd rfl changed
    · intro changed
      rw [same] at changed
      exact absurd rfl changed
  | unit done effect _ =>
    change after.log = before.log ++ [(done, before.storage.clock)] at log
    have own := clients done rfl
    refine ⟨?_, ?_, ?_⟩
    · intro posting instant grown id involved
      rw [log, List.append_cancel_left_eq, List.singleton_inj] at grown
      obtain rfl : done = .posted posting := congrArg Prod.fst grown
      exact effect.active involved
    · intro id row found changed
      by_contra none
      refine changed (effect.balance own found ?_)
      rintro posting rfl involved
      exact none ⟨posting, _, log, involved⟩
    · intro changed
      rcases effect.transactions own with ⟨posting, rfl⟩ | same
      · exact ⟨posting, _, log⟩
      · exact absurd same changed

theorem Stepped.closed (stepped : Stepped before event deed after)
    (own : ∀ id intrusion, event ≠ .intrude id intrusion) {id : Int} {row : AccountRow}
    (found : before.database.account? id = some row) (closed : row.status = .closed) :
    after.database.account? id = some row ∧
      after.database.mentioning id = before.database.mentioning id := by
  have clients := stepped.own own
  cases stepped.committed with
  | nothing same =>
    have same : after.database = before.database := same
    rw [same]
    exact ⟨found, rfl⟩
  | unit done effect _ => exact effect.closed (clients done rfl) found closed

/-! ### Runs -/

theorem run_append (world : World) (earlier later : List Event) :
    world.run (earlier ++ later) = (world.run earlier).run later :=
  List.foldl_append

theorem sound_run {world : World} (sound : world.Sound) (events : List Event) :
    (world.run events).Sound :=
  (run_induct (fun _ ↦ True) sound trivial events fun _ _ _ _ _ _ _ ↦ trivial).1

/-- However many clients there are and however their steps follow each other, as long as nobody else writes:
every step moves money only on accounts that are active when it is committed; and from the moment on at which
an account is closed, neither its row nor the transactions that touch it change any more. -/
theorem closed_is_final (database : Database) (events : List Event)
    (own : ∀ id intrusion, .intrude id intrusion ∉ events) :
    (∀ earlier event later, events = earlier ++ event :: later →
      MovesActive ((start database).run earlier) (((start database).run earlier).step event)) ∧
    (∀ earlier later id row, events = earlier ++ later →
      ((start database).run earlier).database.account? id = some row → row.status = .closed →
        ((start database).run events).database.account? id = some row ∧
          ((start database).run events).database.mentioning id =
            ((start database).run earlier).database.mentioning id) := by
  have sound := sound_run (sound_start database)
  refine ⟨?_, ?_⟩
  · rintro earlier event later rfl
    obtain ⟨deed, stepped⟩ := stepped_step (sound earlier) event
    refine stepped.movesActive ?_
    rintro id intrusion rfl
    exact own id intrusion (List.mem_append_right _ List.mem_cons_self)
  · rintro earlier later id row rfl found closed
    rw [run_append]
    refine (run_induct (fun world ↦ world.database.account? id = some row ∧
      world.database.mentioning id = ((start database).run earlier).database.mentioning id)
      (sound earlier) ⟨found, rfl⟩ later ?_).2
    rintro before event deed after member ⟨found, same⟩ stepped
    have own (id : Int) (intrusion : Intrusion) : event ≠ .intrude id intrusion := by
      rintro rfl
      exact own id intrusion (List.mem_append_right _ member)
    obtain ⟨found, same'⟩ := stepped.closed own found closed
    exact ⟨found, same'.trans same⟩

/-- An account is closed while a deposit to it is under way. -/
def closing : List Event :=
  [.ask 0 (.openAccount (some 1) .checking), .go 0,
    .ask 0 (.post (Ledger.trying 2 (by decide)) (.deposit 1) (.text "5.00") (.text "")), .go 0,
    .ask 1 (.changeStatus 1 .closed "done"), .go 1, .go 1]

/-- The deposit goes on, is tried again and refused. -/
theorem closed_is_final_deposit :
    let deposited : List Event := [.go 0, .go 0, .go 0]
    let world := (start {}).run (closing ++ deposited)
    ∃ row, ((start {}).run closing).database.account? 1 = some row ∧ row.status = .closed ∧
      world.database.account? 1 = some row ∧ world.database.mentioning 1 = [] ∧
      world.log.length = 2 ∧ (world.clients 0).isNone := by
  intro deposited world
  have rests := (closed_is_final {} (closing ++ deposited) (by simp [closing, deposited])).2 closing
    deposited 1
  obtain ⟨row, found, closed⟩ : ∃ row, ((start {}).run closing).database.account? 1 = some row ∧
      row.status = .closed := by
    exact ⟨⟨1, "ACC0000000001", 1, .checking, .closed, "0.00", 2⟩, by decide +kernel, rfl⟩
  obtain ⟨same, mentions⟩ := rests row rfl found closed
  refine ⟨row, found, closed, same, ?_, by decide +kernel, by decide +kernel⟩
  rw [mentions]
  decide +kernel

end World

end Passbook
