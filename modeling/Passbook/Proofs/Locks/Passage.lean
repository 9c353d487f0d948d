import Passbook.Proofs.Locks.Client

/-!
The way of a client to its locks and back. A client that holds the locks of some accounts around something else is
on its way to them (`LockClient.Nears`), then has them (`LockClient.Has`), then gives them back
(`LockClient.Leaves`), and is idle before and behind that. Its steps lead from one of these to the next.
-/

set_option autoImplicit false
set_option relaxedAutoImplicit false

namespace Passbook

namespace LockClient

variable {client later : LockClient} {before after : LockTable} {accounts : List Int}

/-- A client on its way to the locks of some accounts. -/
def Nears (client : LockClient) (accounts : List Int) : Prop :=
  client.owned = [] ∧
    match client.task with
    | .entering taken rest => taken.map (·.account) ++ rest = Locking.ordered accounts
    | .waiting taken next rest =>
      taken.map (·.account) ++ next.account :: rest = Locking.ordered accounts
    | _ => False

/-- A client that has the locks of some accounts. -/
def Has (client : LockClient) (accounts : List Int) : Prop :=
  client.task = .outside ∧ client.owned.map (·.account) = Locking.ordered accounts

/-- A client that gives back all that it has. -/
def Leaves (client : LockClient) : Prop :=
  client.owned = [] ∧
    match client.task with
    | .entering .. | .waiting .. => False
    | _ => True

/-- A client that was on its way and is not any more has the locks. -/
theorem Has.of_outside (near : client.Nears accounts ∨ client.Has accounts)
    (outside : client.task = .outside) : client.Has accounts := by
  rcases near with ⟨-, ahead⟩ | has
  · rw [outside] at ahead
    exact ahead.elim
  · exact has

theorem Has.heldAccounts_eq (has : client.Has accounts) :
    client.heldAccounts = Locking.ordered accounts := by
  obtain ⟨outside, owned⟩ := has
  rw [heldAccounts, holding, outside, LockTask.holding, List.append_nil, owned]

theorem Idle.hold (idle : client.Idle) (accounts : List Int) (table : LockTable) :
    ∃ later, client.act? (.hold accounts) table = some (later, table) ∧ later.Nears accounts := by
  obtain ⟨owned, outside⟩ := idle
  refine ⟨client.enters accounts, ?_, owned, rfl⟩
  simp [act?, outside, owned]

/-- A step on the way to locks is one on that way still, or the last of it. -/
theorem Nears.go (nears : client.Nears accounts)
    (went : client.act? .go before = some (later, after)) :
    later.Nears accounts ∨ later.Has accounts := by
  obtain ⟨owned, task⟩ := client
  obtain ⟨nothing, ahead⟩ := nears
  obtain rfl : owned = [] := nothing
  simp only [act?, go?] at went
  cases task with
  | entering taken rest =>
    dsimp only at ahead
    cases rest with
    | nil =>
      cases went
      refine Or.inr ⟨rfl, ?_⟩
      rw [← ahead, List.append_nil]
      rfl
    | cons account rest =>
      cases went
      exact Or.inl ⟨rfl, ahead⟩
  | waiting taken next rest =>
    dsimp only at ahead
    obtain ⟨table, -, same⟩ := Option.map_eq_some_iff.1 went
    cases same
    refine Or.inl ⟨rfl, ?_⟩
    dsimp only
    rw [← ahead, List.map_append, List.append_assoc]
    rfl
  | _ => exact ahead.elim

theorem Nears.expire (nears : client.Nears accounts)
    (went : client.act? .expire before = some (later, after)) : later.Leaves := by
  obtain ⟨owned, task⟩ := client
  obtain ⟨nothing, -⟩ := nears
  unfold act? at went
  cases task <;> cases went
  exact ⟨nothing, trivial⟩

/-- A client that gives back all that it holds sets out to do so, and keeps nothing. -/
theorem act?_release (client : LockClient) (outside : client.task = .outside) (table : LockTable) :
    client.act? (.release client.heldAccounts) table =
      some (⟨[], .returning (descending client.owned)⟩, table) := by
  have isHeld (use : LockUse) (member : use ∈ client.owned) :
      client.heldAccounts.contains use.account = true :=
    List.contains_iff_mem.2 (List.mem_map_of_mem (List.mem_append_left _ member))
  have released : client.owned.filter (client.heldAccounts.contains ·.account) = client.owned :=
    List.filter_eq_self.2 isHeld
  have kept : client.owned.filter (!client.heldAccounts.contains ·.account) = [] := by
    refine List.filter_eq_nil_iff.2 fun use member ↦ ?_
    rw [isHeld use member]
    decide
  simp only [act?, outside, released, kept]

/-- A client that has locks gives all of them back. -/
theorem Has.release (has : client.Has accounts) (table : LockTable) :
    ∃ later, client.act? (.release client.heldAccounts) table = some (later, table) ∧ later.Leaves :=
  ⟨_, act?_release client has.1 table, rfl, trivial⟩

/-- A step on the way out is one on that way still. -/
theorem Leaves.go (leaves : client.Leaves) (went : client.act? .go before = some (later, after)) :
    later.Leaves := by
  obtain ⟨owned, task⟩ := client
  obtain ⟨nothing, out⟩ := leaves
  simp only [act?, go?] at went
  cases task with
  | outside | failed => cases went
  | entering | waiting => exact out.elim
  | expired taken next | leaving first rest =>
    dsimp only at went
    split at went <;> cases went <;> exact ⟨nothing, trivial⟩
  | returning rest =>
    cases rest with
    | nil =>
      cases went
      exact ⟨nothing, trivial⟩
    | cons first rest =>
      dsimp only at went
      split at went <;> cases went <;> exact ⟨nothing, trivial⟩
  | dropping first found rest =>
    dsimp only at went
    split at went <;> cases went <;> exact ⟨nothing, trivial⟩

theorem Leaves.idle (leaves : client.Leaves) (outside : client.task = .outside) : client.Idle :=
  ⟨leaves.1, outside⟩

end LockClient

end Passbook
