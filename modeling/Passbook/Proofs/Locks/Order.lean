import Mathlib.Data.Finset.Max
import Mathlib.Data.List.Permutation
import Mathlib.Logic.Relation
import Passbook.Proofs.Locks.Crowd

/-!
No deadlock among clients of a lock table. Locks are taken in strictly ascending order of the accounts
(`Locking.ordered_ascending`), so a client that has no locks when it sets out for some waits only for an
account above all that it holds (`LockClient.Ascending`). Whoever waits for another waits for a larger account
than that one holds, so nobody waits in a circle, and whoever holds the largest account of all can always go
on (`LockCrowd.deadlock_free`).
-/

set_option autoImplicit false
set_option relaxedAutoImplicit false

namespace Passbook

/-! ### Accounts in order -/

namespace Locking

theorem eraseReps_loop (first : Int) (rest before : List Int) :
    List.eraseRepsBy.loop (· == ·) first rest before =
      before.reverse ++ List.eraseRepsBy.loop (· == ·) first rest [] := by
  induction rest generalizing first before with
  | nil => simp [List.eraseRepsBy.loop]
  | cons second rest ih =>
    unfold List.eraseRepsBy.loop
    split
    · exact ih _ _
    · rw [ih, ih second [first]]
      simp

theorem eraseReps_cons_cons (first second : Int) (rest : List Int) :
    (first :: second :: rest).eraseReps =
      if first = second then (second :: rest).eraseReps
      else first :: (second :: rest).eraseReps := by
  unfold List.eraseReps List.eraseRepsBy
  dsimp only
  rw [List.eraseRepsBy.loop.eq_2]
  by_cases same : first = second
  · simp [same]
  · rw [if_neg same, beq_false_of_ne same]
    dsimp only
    rw [eraseReps_loop]
    rfl

theorem mem_eraseReps {account : Int} {accounts : List Int} :
    account ∈ accounts.eraseReps ↔ account ∈ accounts := by
  induction accounts with
  | nil => rfl
  | cons first rest ih =>
    cases rest with
    | nil => rfl
    | cons second rest =>
      rw [eraseReps_cons_cons]
      by_cases same : first = second
      · subst same
        simp [ih]
      · rw [if_neg same, List.mem_cons, ih, List.mem_cons (a := account) (b := first)]

theorem eraseReps_ascending {accounts : List Int} (sorted : accounts.Pairwise (· ≤ ·)) :
    accounts.eraseReps.Pairwise (· < ·) := by
  induction accounts with
  | nil => exact List.Pairwise.nil
  | cons first rest ih =>
    cases rest with
    | nil => exact List.pairwise_singleton _ _
    | cons second rest =>
      rw [eraseReps_cons_cons]
      obtain ⟨least, sorted⟩ := List.pairwise_cons.1 sorted
      by_cases same : first = second
      · rw [if_pos same]
        exact ih sorted
      · rw [if_neg same]
        refine List.pairwise_cons.2 ⟨fun other member ↦ ?_, ih sorted⟩
        have below : first < second := lt_of_le_of_ne (least second List.mem_cons_self) same
        rcases List.mem_cons.1 (mem_eraseReps.1 member) with rfl | later
        · exact below
        · exact below.trans_le ((List.pairwise_cons.1 sorted).1 other later)

/-- The accounts to be locked are those that were asked for. -/
theorem mem_ordered {account : Int} {accounts : List Int} :
    account ∈ ordered accounts ↔ account ∈ accounts := by
  rw [ordered, mem_eraseReps, List.mem_mergeSort]

/-- Accounts are locked in ascending order, and none of them twice. -/
theorem ordered_ascending (accounts : List Int) : (ordered accounts).Pairwise (· < ·) := by
  refine eraseReps_ascending ?_
  have sorted : (accounts.mergeSort fun first second ↦ decide (first ≤ second)).Pairwise
      fun first second ↦ decide (first ≤ second) = true :=
    List.pairwise_mergeSort (by simpa using fun _ _ _ ↦ Int.le_trans) (by simpa using Int.le_total)
      accounts
  simpa using sorted

theorem nodup_ordered (accounts : List Int) : (ordered accounts).Nodup :=
  (ordered_ascending accounts).imp fun below ↦ Int.ne_of_lt below

end Locking

/-! ### Clients one by one -/

namespace LockAction

/-- Whether locks are acquired whatever the client has already. -/
def nests : LockAction → Bool
  | .acquire _ => true
  | _ => false

end LockAction

namespace LockClient

/-- A client waits for a lock. -/
def Awaits (client : LockClient) (use : LockUse) : Prop := client.task.waitsOn = some use

/-- A client on its way to locks has no others, and takes them in ascending order. -/
def Ascending (client : LockClient) : Prop :=
  match client.task with
  | .entering taken rest =>
    client.owned = [] ∧ (taken.map (·.account) ++ rest).Pairwise (· < ·)
  | .waiting taken next rest =>
    client.owned = [] ∧ (taken.map (·.account) ++ next.account :: rest).Pairwise (· < ·)
  | _ => True

variable {client later : LockClient} {before after : LockTable}

theorem awaits_iff {use : LockUse} :
    client.Awaits use ↔ ∃ taken rest, client.task = .waiting taken use rest := by
  unfold Awaits LockTask.waitsOn
  cases client.task <;> simp

theorem Ascending.go (ascending : client.Ascending)
    (went : client.go? before = some (later, after)) : later.Ascending := by
  obtain ⟨owned, task⟩ := client
  unfold go? at went
  cases task with
  | outside => cases went
  | failed failure => cases went
  | entering taken rest =>
    cases rest with
    | nil =>
      cases went
      trivial
    | cons account rest =>
      cases went
      exact ascending
  | waiting taken next rest =>
    obtain ⟨table, -, same⟩ := Option.map_eq_some_iff.1 went
    cases same
    obtain ⟨none, sorted⟩ := ascending
    refine ⟨none, ?_⟩
    simpa using sorted
  | expired taken next | leaving first rest =>
    dsimp only at went
    split at went <;> cases went <;> trivial
  | returning rest =>
    cases rest with
    | nil =>
      cases went
      trivial
    | cons first rest =>
      dsimp only at went
      split at went <;> cases went <;> trivial
  | dropping first found rest =>
    dsimp only at went
    split at went <;> cases went <;> trivial

theorem Ascending.act (ascending : client.Ascending) {action : LockAction}
    (plain : action.nests = false) (acted : client.act? action before = some (later, after)) :
    later.Ascending := by
  unfold act? at acted
  split at acted
  · cases plain
  · next accounts outside =>
    split at acted
    · next none =>
      cases acted
      refine ⟨List.isEmpty_iff.1 none, ?_⟩
      rw [List.map_nil, List.nil_append]
      exact Locking.ordered_ascending accounts
    · cases acted
  · cases acted
    trivial
  · cases acted
    trivial
  · exact ascending.go acted
  · cases acted

/-- A client waits only for an account above all that it holds. -/
theorem Ascending.held_lt (ascending : client.Ascending) {use : LockUse} (awaits : client.Awaits use)
    {account : Int} (held : account ∈ client.heldAccounts) : account < use.account := by
  obtain ⟨taken, rest, task⟩ := awaits_iff.1 awaits
  rw [Ascending, task] at ascending
  obtain ⟨none, sorted⟩ := ascending
  rw [heldAccounts, holding, none, task, List.nil_append] at held
  exact (List.pairwise_append.1 sorted).2.2 account held use.account List.mem_cons_self

/-- A client can go on, or can give back what it has. -/
def CanGo (client : LockClient) (table : LockTable) : Prop :=
  (client.act? .go table).isSome ∨ (client.act? (.release client.heldAccounts) table).isSome

/-- A client that cannot go on waits for a lock that is taken. -/
theorem canGo_or_awaits (sound : client.Sound) (table : LockTable) :
    client.CanGo table ∨ ∃ use, client.Awaits use ∧ use.lock ∈ table.taken := by
  cases went : client.go? table with
  | some next =>
    refine Or.inl (Or.inl ?_)
    simp [act?, went]
  | none =>
    rcases (go?_eq_none sound).1 went with outside | ⟨taken, next, rest, task, held⟩
    · refine Or.inl (Or.inr ?_)
      simp [act?, outside]
    · exact Or.inr ⟨next, awaits_iff.2 ⟨taken, rest, task⟩, held⟩

end LockClient

/-! ### Clients among others -/

namespace LockCrowd

open LockClient

variable {Name : Type}

/-- A client waits for an account that another one holds. -/
def WaitsFor (crowd : LockCrowd Name) (waiter holder : Name) : Prop :=
  ∃ use, (crowd.clients waiter).Awaits use ∧ use.account ∈ (crowd.clients holder).heldAccounts

/-- Every client takes locks in ascending order. -/
def Ascending (crowd : LockCrowd Name) : Prop := ∀ name, (crowd.clients name).Ascending

variable {crowd : LockCrowd Name}

/-- Whoever waits for somebody, and be it through others, waits for an account that is not above all that
the last of them holds. -/
theorem Ascending.reaches (ascending : crowd.Ascending) {waiter holder : Name} {use : LockUse}
    (awaits : (crowd.clients waiter).Awaits use)
    (waits : Relation.TransGen crowd.WaitsFor waiter holder) :
    ∃ account ∈ (crowd.clients holder).heldAccounts, use.account ≤ account := by
  induction waits with
  | single waits =>
    obtain ⟨other, awaitsOther, held⟩ := waits
    obtain rfl : use = other := Option.some.inj (awaits.symm.trans awaitsOther)
    exact ⟨use.account, held, Int.le_refl _⟩
  | @tail middle last _ waits ih =>
    obtain ⟨account, holds, most⟩ := ih
    obtain ⟨next, awaitsNext, held⟩ := waits
    refine ⟨next.account, held, ?_⟩
    exact Int.le_of_lt (Int.lt_of_le_of_lt most ((ascending middle).held_lt awaitsNext holds))

/-- Nobody waits in a circle. -/
theorem Ascending.acyclic (ascending : crowd.Ascending) (name : Name) :
    ¬Relation.TransGen crowd.WaitsFor name name := by
  intro circle
  obtain ⟨next, ⟨use, awaits, -⟩, -⟩ := Relation.TransGen.head'_iff.1 circle
  obtain ⟨account, held, most⟩ := ascending.reaches awaits circle
  exact absurd ((ascending name).held_lt awaits held) (Int.not_lt.2 most)

section Steps

variable [DecidableEq Name]

theorem ascending_step (ascending : crowd.Ascending) {event : Name × LockAction}
    (plain : event.2.nests = false) : (crowd.step event).Ascending := by
  unfold step
  split
  · next later table acted =>
    intro name
    dsimp only
    by_cases same : name = event.1
    · rw [same, Function.update_self]
      exact (ascending event.1).act plain acted
    · rw [Function.update_of_ne same]
      exact ascending name
  · exact ascending

theorem ascending_run {events : List (Name × LockAction)}
    (plain : ∀ event ∈ events, event.2.nests = false) : (run events).Ascending := by
  unfold run
  generalize start : ({} : LockCrowd Name) = crowd
  have ascending : crowd.Ascending := start ▸ fun _ ↦ trivial
  clear start
  induction events generalizing crowd with
  | nil => exact ascending
  | cons event rest ih =>
    obtain ⟨first, later⟩ := List.forall_mem_cons.1 plain
    exact ih later _ (ascending_step ascending first)

end Steps

variable [Fintype Name]

/-- Whoever waits for a lock that is taken waits for somebody. -/
theorem Orderly.waitsFor (orderly : crowd.Orderly) {name : Name} {use : LockUse}
    (awaits : (crowd.clients name).Awaits use) (taken : use.lock ∈ crowd.table.taken) :
    ∃ holder, crowd.WaitsFor name holder := by
  have one := orderly.held use.lock
  rw [if_pos taken] at one
  obtain ⟨holder, -, holds⟩ : ∃ holder ∈ Finset.univ, (crowd.clients holder).holdCount use.lock ≠ 0 := by
    refine Finset.exists_ne_zero_of_sum_ne_zero ?_
    rw [one]
    exact Nat.one_ne_zero
  obtain ⟨held, member, same⟩ := List.countP_pos_iff.1 (Nat.pos_of_ne_zero holds)
  have mine : crowd.table.live.get? use.account = some use.lock := by
    obtain ⟨taken, rest, task⟩ := awaits_iff.1 awaits
    refine orderly.there name use (mem_uses.2 (Or.inr (Or.inr ?_)))
    rw [task]
    exact List.mem_cons_self
  have theirs := orderly.there holder held (mem_uses_of_holding member)
  rw [of_decide_eq_true same] at theirs
  refine ⟨holder, use, awaits, ?_⟩
  rw [orderly.coherent.apart _ _ _ mine theirs]
  exact List.mem_map_of_mem member

/-- As long as anything is held, some client that holds something waits for nobody. -/
theorem Ascending.exists_largest (ascending : crowd.Ascending) {name : Name} {account : Int}
    (held : account ∈ (crowd.clients name).heldAccounts) :
    ∃ holder, (crowd.clients holder).heldAccounts ≠ [] ∧ ∀ other, ¬crowd.WaitsFor holder other := by
  classical
  let all : Finset Int :=
    Finset.univ.biUnion fun name ↦ (crowd.clients name).heldAccounts.toFinset
  have mem_all {account : Int} : account ∈ all ↔
      ∃ name, account ∈ (crowd.clients name).heldAccounts := by
    simp [all]
  obtain ⟨largest, member, most⟩ := all.exists_max_image id ⟨account, mem_all.2 ⟨name, held⟩⟩
  obtain ⟨holder, holds⟩ := mem_all.1 member
  refine ⟨holder, List.ne_nil_of_mem holds, ?_⟩
  rintro other ⟨use, awaits, theirs⟩
  have above := (ascending holder).held_lt awaits holds
  exact absurd above (Int.not_lt.2 (most use.account (mem_all.2 ⟨other, theirs⟩)))

variable [DecidableEq Name]

/-- However many clients there are, whichever accounts they want and however their steps follow each other:
as long as none sets out for locks while it still has some, a client that waits holds only smaller accounts
than the one that it waits for, nobody waits in a circle, and while anybody waits for somebody there is a
client that holds a lock, waits for nobody and can go on. -/
theorem deadlock_free (events : List (Name × LockAction))
    (plain : ∀ event ∈ events, event.2.nests = false) :
    let crowd := run events
    (∀ name use, (crowd.clients name).Awaits use →
      ∀ account ∈ (crowd.clients name).heldAccounts, account < use.account) ∧
    (∀ name, ¬Relation.TransGen crowd.WaitsFor name name) ∧
    (∀ waiter holder, crowd.WaitsFor waiter holder →
      ∃ name, (crowd.clients name).heldAccounts ≠ [] ∧ (∀ other, ¬crowd.WaitsFor name other) ∧
        (crowd.clients name).CanGo crowd.table) := by
  intro crowd
  have orderly : crowd.Orderly := orderly_run events
  have ascending : crowd.Ascending := ascending_run plain
  refine ⟨fun name use awaits account ↦ (ascending name).held_lt awaits, ascending.acyclic, ?_⟩
  rintro waiter holder ⟨use, -, held⟩
  obtain ⟨name, holds, free⟩ := ascending.exists_largest held
  refine ⟨name, holds, free, ?_⟩
  rcases canGo_or_awaits (orderly.sound name) crowd.table with canGo | ⟨next, awaits, taken⟩
  · exact canGo
  · obtain ⟨other, waits⟩ := orderly.waitsFor awaits taken
    exact absurd waits (free other)

/-- Two clients that want the same two accounts, one of them asking for the larger one first. -/
def opposite : List (Bool × LockAction) :=
  [(true, .hold [1, 2]), (true, .go), (true, .go), (false, .hold [2, 1, 2]), (false, .go), (true, .go)]

theorem deadlock_free_opposite :
    (run opposite).WaitsFor false true ∧
      ¬Relation.TransGen (run opposite).WaitsFor true true ∧
      ∃ name, ((run opposite).clients name).heldAccounts ≠ [] ∧
        (∀ other, ¬(run opposite).WaitsFor name other) ∧
        ((run opposite).clients name).CanGo (run opposite).table := by
  obtain ⟨-, acyclic, progress⟩ := deadlock_free opposite (by decide)
  have waits : (run opposite).WaitsFor false true := by
    refine ⟨⟨1, 0⟩, by cbv, ?_⟩
    have held : ((run opposite).clients true).heldAccounts = [1] := by cbv
    rw [held]
    exact List.mem_cons_self
  exact ⟨waits, acyclic true, progress false true waits⟩

end LockCrowd

end Passbook
