import Passbook.Proofs.Clients.Bank

/-!
Every call is answered. What a call still has to do is counted (`Call.left`): every step of it makes that less,
and so does the end of its patience. As long as a call is not answered, some call can go on, since one that
waits waits for an account above all that it has, and whoever has the largest of all waits for nobody
(`Bank.Sound.exists_goes`). Main statement: if every call gets its turn again and again, however they follow each
other, then all of them are answered (`Bank.Sound.answered_of_rounds`).
-/

set_option autoImplicit false
set_option relaxedAutoImplicit false

namespace Passbook

/-! ### What is left of one call -/

/-- The turns that the tries behind this one may still take, each of which looks for a record, reads at most
two accounts and writes. -/
def Try.later (attempt : Try) : Nat := 4 * attempt.more

/-- The turns that a client may still take. -/
def Client.left (client : Client) : Nat :=
  match client.progress with
  | .looking attempt => attempt.later + 4
  | .posting attempt _ rest => attempt.later + rest.length + 1
  | .changing .. | .rereading _ | .opening .. => 0

/-- The steps that a client of the lock table may still take on its way. -/
def LockTask.left : LockTask → Nat
  | .outside | .failed _ => 0
  | .entering _ rest => 2 * rest.length + 1
  | .waiting _ _ rest => 2 * rest.length + 2
  | .expired taken _ => 3 * taken.length + 2
  | .returning rest => 3 * rest.length + 1
  | .dropping _ _ rest => 3 * rest.length + 3
  | .leaving _ rest => 3 * rest.length + 2

namespace Call

/-- How many locks a call takes. -/
def width (call : Call) : Nat := (Locking.ordered call.movement.accounts).length

/-- The turns that a call takes at most while it has its locks. -/
def turns (call : Call) : Nat :=
  match call.engine.retry with
  | .error _ => 0
  | .ok retry => 4 * (retry.maxAttempts - 1) + 3

/-- The steps that a call may still take. -/
def left (call : Call) (caller : Caller) : Nat :=
  match caller.stage with
  | .asked => 5 * call.width + call.turns + 6
  | .locking _ => caller.lock.task.left + call.turns + 3 * call.width + 4
  | .working client => client.left + 3 * call.width + 3
  | .unlocking _ => caller.lock.task.left + 1
  | .answered _ => 0

end Call

theorem Movement.length_legs (movement : Movement) : movement.legs.length ≤ 2 := by
  cases movement <;> simp [legs]

namespace Client

variable {Result : Type} {client later : Client} {storage after : Storage}

/-- A client that has another try may take its turns and those of the tries behind it. -/
theorem left_of_served {attempt : Try} {failure : Failure}
    (again : attempt.served failure = .goesOn later) : later.left ≤ attempt.later := by
  unfold Try.served at again
  split at again
  · cases again
  · split at again
    · cases again
    · next more count =>
      split at again <;> cases again
      simp only [left, Try.later, count]
      omega

theorem left_of_serves {part : Work Result} {next : Result → Session → Served} {attempt : Try} {bound : Nat}
    (behind : attempt.later ≤ bound)
    (goesOn : ∀ result session, next result session = .goesOn later → later.left ≤ bound)
    (served : client.serves storage part next attempt.served = (.goesOn later, after)) :
    later.left ≤ bound := by
  unfold serves at served
  split at served
  · exact goesOn _ _ (Prod.mk.inj served).1
  · exact (left_of_served (Prod.mk.inj served).1).trans behind

/-- Every turn of a client that posts leaves it with fewer. -/
theorem Posts.left_lt (posts : client.Posts) (served : client.serve storage = (.goesOn later, after)) :
    later.left < client.left := by
  unfold Posts at posts
  unfold Client.serve at served
  cases progress : client.progress with
  | looking attempt =>
    rw [progress] at served
    have total : client.left = attempt.later + 4 := by rw [left, progress]
    have fewer : later.left ≤ attempt.later + 3 := by
      refine left_of_serves (by omega) (fun found session goesOn ↦ ?_) served
      cases found <;> cases goesOn
      have legs := attempt.posting.movement.length_legs
      simp only [left, Session.client, Try.start]
      omega
    omega
  | posting attempt read rest =>
    rw [progress] at served
    have total : client.left = attempt.later + rest.length + 1 := by rw [left, progress]
    have fewer : later.left ≤ attempt.later + rest.length := by
      cases rest with
      | nil =>
        dsimp only at served
        refine left_of_serves (by omega) (fun posted session goesOn ↦ ?_) served
        cases goesOn
      | cons leg rest =>
        refine left_of_serves (by omega) (fun account session goesOn ↦ ?_) served
        cases goesOn
        simp only [left, Session.client, List.length_cons]
        omega
    omega
  | changing | rereading | opening => simp only [progress] at posts

end Client

namespace LockClient

variable {client later : LockClient} {before after : LockTable} {accounts : List Int}

theorem length_descending (uses : List LockUse) : (descending uses).length = uses.length :=
  (descending_perm uses).length_eq

/-- Every step on the way leaves a client with fewer. -/
theorem left_go (went : client.act? .go before = some (later, after)) :
    later.task.left < client.task.left := by
  obtain ⟨owned, task⟩ := client
  simp only [act?, go?] at went
  cases task with
  | outside | failed => cases went
  | entering taken rest =>
    cases rest <;> cases went
    · exact Nat.one_pos
    · simp only [LockTask.left, List.length_cons]
      omega
  | waiting taken next rest =>
    obtain ⟨table, -, same⟩ := Option.map_eq_some_iff.1 went
    cases same
    simp only [LockTask.left]
    omega
  | expired taken next =>
    dsimp only at went
    split at went <;> cases went <;> simp only [LockTask.left, length_descending] <;> omega
  | leaving first rest =>
    dsimp only at went
    split at went <;> cases went <;> simp only [LockTask.left] <;> omega
  | returning rest =>
    cases rest with
    | nil =>
      cases went
      exact Nat.one_pos
    | cons first rest =>
      dsimp only at went
      split at went <;> cases went <;> simp only [LockTask.left, List.length_cons] <;> omega
  | dropping first found rest =>
    dsimp only at went
    split at went <;> cases went <;> simp only [LockTask.left] <;> omega

theorem left_hold (idle : client.Idle) (acted : client.act? (.hold accounts) before = some (later, after)) :
    later.task.left = 2 * (Locking.ordered accounts).length + 1 := by
  obtain ⟨owned, outside⟩ := idle
  simp only [act?, outside, owned, List.isEmpty_nil, if_true] at acted
  cases acted
  rfl

theorem left_release (has : client.Has accounts)
    (acted : client.act? (.release client.heldAccounts) before = some (later, after)) :
    later.task.left ≤ 3 * (Locking.ordered accounts).length + 1 := by
  obtain ⟨outside, owned⟩ := has
  have count : client.owned.length = (Locking.ordered accounts).length := by
    rw [← owned, List.length_map]
  simp only [act?, outside] at acted
  cases acted
  have fewer := List.length_filter_le (client.heldAccounts.contains ·.account) client.owned
  simp only [LockTask.left, length_descending]
  omega

/-- A client whose time is over gives back less than it was on its way to. -/
theorem Nears.left_expire (nears : client.Nears accounts)
    (acted : client.act? .expire before = some (later, after)) :
    later.task.left ≤ 3 * (Locking.ordered accounts).length + 2 := by
  obtain ⟨owned, task⟩ := client
  obtain ⟨-, ahead⟩ := nears
  unfold act? at acted
  cases task <;> cases acted
  dsimp only at ahead
  simp only [LockTask.left, ← ahead, List.length_append, List.length_map]
  omega

end LockClient

namespace Call

variable {call : Call} {patience : Value} {caller later : Caller} {storage left : Storage}
  {table after : LockTable}

theorem Steps.left_lt (steps : call.Steps patience caller.lock storage table caller.stage later left after)
    (tied : caller.Tied call.movement.accounts) : call.left later < call.left caller := by
  obtain ⟨stage, lock⟩ := caller
  cases steps with
  | refused | untimed | overlong | answers | fails =>
    simp only [Call.left]
    omega
  | setsOut posting ledger later after prepared acted =>
    have count := LockClient.left_hold tied acted
    simp only [Call.left, width, count]
    omega
  | locks posting later after inside acted =>
    have fewer := LockClient.left_go acted
    simp only [Call.left] at fewer ⊢
    omega
  | uncounted posting failure later after outside failed acted =>
    have fewer := LockClient.left_release (LockClient.Has.of_outside tied outside) acted
    simp only [Call.left, width]
    omega
  | begins posting retry outside counted =>
    have legs := posting.movement.length_legs
    simp only [Call.left, Call.turns, counted, Client.left, Try.start, Try.later, Try.first]
    omega
  | turns client later after served =>
    have fewer := tied.2.left_lt served
    simp only [Call.left]
    omega
  | ends client outcome left later after served acted =>
    have fewer := LockClient.left_release tied.1 acted
    simp only [Call.left, width]
    omega
  | unlocks outcome later after acted =>
    have fewer := LockClient.left_go acted
    simp only [Call.left] at fewer ⊢
    omega

/-- A call that has its locks can give them back. -/
theorem acts?_release {accounts : List Int} (has : caller.lock.Has accounts) (stage : Stage)
    (storage : Storage) (table : LockTable) :
    caller.acts? stage (.release caller.lock.heldAccounts) storage table ≠ none := by
  obtain ⟨later, acted, -⟩ := has.release table
  rw [Caller.acts?, acted]
  exact Option.some_ne_none _

/-- A call on its way among the locks can go on, unless it waits for one that is taken. -/
theorem acts?_go {stage : Stage} (sound : caller.lock.Sound) (inside : caller.lock.task ≠ .outside)
    (stuck : caller.acts? stage .go storage table = none) :
    ∃ use, caller.lock.Awaits use ∧ use.lock ∈ table.taken := by
  rcases (LockClient.go?_eq_none sound).1 (Option.map_eq_none_iff.1 stuck) with
    outside | ⟨taken, next, rest, task, isTaken⟩
  · exact absurd outside inside
  · exact ⟨next, LockClient.awaits_iff.2 ⟨taken, rest, task⟩, isTaken⟩

/-- A call that cannot go on has been answered, or waits for a lock that is taken. -/
theorem go?_eq_none (tied : caller.Tied call.movement.accounts) (sound : caller.lock.Sound)
    (stuck : call.go? patience caller storage table = none) :
    (∃ outcome, caller.stage = .answered outcome) ∨
      ∃ use, caller.lock.Awaits use ∧ use.lock ∈ table.taken := by
  unfold go? at stuck
  unfold Caller.Tied at tied
  cases stage : caller.stage with
  | asked =>
    rw [stage] at stuck tied
    obtain ⟨later, acted, -⟩ := tied.hold call.movement.accounts table
    unfold ask? Caller.acts? at stuck
    rw [acted] at stuck
    dsimp only at stuck
    split at stuck
    · cases stuck
    · split at stuck
      · cases stuck
      · split at stuck <;> cases stuck
  | locking posting =>
    rw [stage] at stuck tied
    dsimp only at stuck
    split at stuck
    · next outside =>
      split at stuck
      · exact absurd stuck (acts?_release (.of_outside tied outside) _ _ _)
      · cases stuck
    · next inside => exact Or.inr (acts?_go sound inside stuck)
  | working client =>
    rw [stage] at stuck tied
    dsimp only at stuck
    split at stuck
    · cases stuck
    · exact absurd stuck (acts?_release tied.1 _ _ _)
  | unlocking outcome =>
    rw [stage] at stuck
    dsimp only at stuck
    split at stuck
    · cases stuck
    · cases stuck
    · next inside _ => exact Or.inr (acts?_go sound inside stuck)
  | answered outcome => exact Or.inl ⟨outcome, rfl⟩

end Call

/-! ### All calls -/

namespace Bank

variable {Name : Type} {calls : Name → Call} {bank : Bank Name}

/-- Every call has been answered. -/
def Answered (bank : Bank Name) : Prop := ∀ name, ∃ outcome, (bank.callers name).stage = .answered outcome

variable [Fintype Name]

/-- The steps that all calls together may still take. -/
def left (calls : Name → Call) (bank : Bank Name) : Nat :=
  ∑ name, (calls name).left (bank.callers name)

/-- As long as not every call has been answered, one of them can go on. -/
theorem Sound.exists_goes (sound : bank.Sound calls) (unanswered : ¬bank.Answered) :
    ∃ name, (calls name).go? bank.patience (bank.callers name) bank.storage bank.table ≠ none := by
  by_contra stuck
  have each (name : Name) := Call.go?_eq_none (sound.tied name) (sound.orderly.sound name)
    (not_not.1 (not_exists.1 stuck name))
  refine unanswered fun name ↦ (each name).resolve_right ?_
  rintro ⟨use, awaits, taken⟩
  -- Whoever has the largest account waits for nobody.
  obtain ⟨holder, _, awaits', held⟩ := sound.orderly.waitsFor awaits taken
  obtain ⟨largest, holds, free⟩ := sound.ascending.exists_largest held
  rcases each largest with ⟨outcome, answered⟩ | ⟨next, awaits, taken⟩
  · have idle := sound.tied largest
    rw [Caller.Tied, answered] at idle
    obtain ⟨owned, outside⟩ := idle
    refine holds ?_
    change (bank.callers largest).lock.heldAccounts = []
    rw [LockClient.heldAccounts, LockClient.holding, owned, outside]
    rfl
  · obtain ⟨other, waits⟩ := sound.orderly.waitsFor awaits taken
    exact free other waits

variable [DecidableEq Name]

/-- A step that does anything leaves less to do. -/
theorem Sound.left_lt (sound : bank.Sound calls) (event : Name × CallEvent)
    (moves : (calls event.1).move? bank.patience event.2 (bank.callers event.1) bank.storage
      bank.table ≠ none) :
    (bank.step calls event).left calls < bank.left calls := by
  obtain ⟨name, event⟩ := event
  rcases bank.step_cases calls (name, event) with ⟨stuck, -⟩ | ⟨caller, storage, table, moved, same⟩
  · exact absurd stuck moves
  rw [same]
  have fewer : (calls name).left caller < (calls name).left (bank.callers name) := by
    cases event with
    | go => exact (Call.steps_of_go? moved).left_lt (sound.tied name)
    | expire =>
      obtain ⟨posting, failure, lock, stage, acted, rfl, -⟩ := Caller.expire?_eq_some moved
      have near := sound.tied name
      rw [Caller.Tied, stage] at near
      rcases near with nears | ⟨outside, -⟩
      · have bound := nears.left_expire acted
        simp only [Call.left, stage, Call.width]
        omega
      · unfold LockClient.act? at acted
        rw [outside] at acted
        cases acted
  refine Finset.sum_lt_sum (fun other _ ↦ ?_) ⟨name, Finset.mem_univ name, ?_⟩
  · dsimp only
    by_cases same : other = name
    · rw [same, Function.update_self]
      exact Nat.le_of_lt fewer
    · rw [Function.update_of_ne same]
  · dsimp only
    rw [Function.update_self]
    exact fewer

theorem Sound.left_step_le (sound : bank.Sound calls) (event : Name × CallEvent) :
    (bank.step calls event).left calls ≤ bank.left calls := by
  rcases bank.step_cases calls event with ⟨-, same⟩ | ⟨caller, storage, table, moved, -⟩
  · rw [same]
  · refine Nat.le_of_lt (sound.left_lt event ?_)
    rw [moved]
    exact Option.some_ne_none _

theorem Sound.left_run_le (sound : bank.Sound calls) (events : List (Name × CallEvent)) :
    (bank.run calls events).left calls ≤ bank.left calls := by
  induction events generalizing bank with
  | nil => exact Nat.le_refl _
  | cons event rest ih => exact (ih (sound.step event)).trans (sound.left_step_le event)

/-- If a call that can go on gets its turn, then there is less to do. -/
theorem Sound.left_run_lt (sound : bank.Sound calls) {name : Name}
    (goes : (calls name).go? bank.patience (bank.callers name) bank.storage bank.table ≠ none)
    {events : List (Name × CallEvent)} (turn : (name, .go) ∈ events) :
    (bank.run calls events).left calls < bank.left calls := by
  induction events with
  | nil => cases turn
  | cons event rest ih =>
    -- Either the first step does something, or the call can still go on behind it.
    rcases bank.step_cases calls event with ⟨stuck, same⟩ | ⟨caller, storage, table, moved, -⟩
    · have later : (name, CallEvent.go) ∈ rest := by
        rcases List.mem_cons.1 turn with rfl | later
        · exact absurd stuck goes
        · exact later
      change ((bank.step calls event).run calls rest).left calls < _
      rw [same]
      exact ih later
    · refine Nat.lt_of_le_of_lt ((sound.step event).left_run_le rest) (sound.left_lt event ?_)
      rw [moved]
      exact Option.some_ne_none _

omit [Fintype Name] in
/-- Once every call has been answered nothing happens any more. -/
theorem Answered.step (answered : bank.Answered) (event : Name × CallEvent) :
    bank.step calls event = bank := by
  obtain ⟨name, event⟩ := event
  obtain ⟨outcome, stage⟩ := answered name
  rcases bank.step_cases calls (name, event) with ⟨-, same⟩ | ⟨caller, storage, table, moved, -⟩
  · exact same
  · cases event with
    | go =>
      unfold Call.move? Call.go? at moved
      rw [stage] at moved
      cases moved
    | expire =>
      obtain ⟨_, _, _, stage', -⟩ := Caller.expire?_eq_some moved
      rw [stage] at stage'
      cases stage'

omit [Fintype Name] in
theorem Answered.run (answered : bank.Answered) (events : List (Name × CallEvent)) :
    bank.run calls events = bank := by
  induction events with
  | nil => rfl
  | cons event rest ih =>
    change (bank.step calls event).run calls rest = bank
    rw [answered.step, ih]

/-- If every call gets its turn often enough, be it in whatever order and whoever else finds the time over in
between, then every call is answered. The induction is over the rounds, each of which leaves less to do. -/
theorem Sound.answered_of_rounds (sound : bank.Sound calls) {rounds : List (List (Name × CallEvent))}
    (fair : ∀ round ∈ rounds, ∀ name, (name, .go) ∈ round) (enough : bank.left calls ≤ rounds.length) :
    (bank.run calls rounds.flatten).Answered := by
  induction rounds generalizing bank with
  | nil =>
    by_contra unanswered
    obtain ⟨name, goes⟩ := sound.exists_goes unanswered
    have fewer := sound.left_lt (name, .go) goes
    rw [List.length_nil] at enough
    omega
  | cons round rest ih =>
    by_cases answered : bank.Answered
    · rw [answered.run]
      exact answered
    · obtain ⟨name, goes⟩ := sound.exists_goes answered
      have fewer := sound.left_run_lt goes (fair round List.mem_cons_self name)
      rw [List.length_cons] at enough
      rw [List.flatten_cons, Bank.run, List.foldl_append]
      change ((bank.run calls round).run calls rest.flatten).Answered
      exact ih (sound.run round) (fun other member ↦ fair other (List.mem_cons_of_mem _ member)) (by omega)

end Bank

end Passbook
