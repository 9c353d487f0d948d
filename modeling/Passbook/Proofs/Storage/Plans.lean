import Passbook.Proofs.Storage.Frame

/-!
What is planned at a point of an operation. A point has a queue of its own (`Planned.queue`), and only going
through the point takes anything from it (`Planned.queue_next`, `Planned.queue_next_other`). Whatever part of a
unit does not go through a point leaves its queue as it is, and does not change whether the store can be
reached (`Work.leftByWriting_steady`).
-/

set_option autoImplicit false
set_option relaxedAutoImplicit false

namespace Passbook

namespace Planned

variable {Place What : Type} [DecidableEq Place]

/-- What is planned at a place, in order. -/
def queue (place : Place) (plans : List (Planned Place What)) : List (Planned Place What) :=
  plans.filter fun plan ↦ plan.place = place

theorem queue_cons_of_eq {place : Place} {first : Planned Place What} (here : first.place = place)
    (rest : List (Planned Place What)) : queue place (first :: rest) = first :: queue place rest := by
  simp [queue, here]

theorem queue_cons_of_ne {place : Place} {first : Planned Place What} (elsewhere : first.place ≠ place)
    (rest : List (Planned Place What)) : queue place (first :: rest) = queue place rest := by
  simp [queue, elsewhere]

/-- What happens at a place, and what stays planned there, is up to its own queue. -/
theorem queue_next (place : Place) (plans : List (Planned Place What)) :
    next place (queue place plans) = ((next place plans).1, queue place (next place plans).2) := by
  induction plans with
  | nil => rfl
  | cons first rest ih =>
    by_cases here : first.place = place
    · rw [queue_cons_of_eq here]
      unfold next
      rw [if_pos here, if_pos here]
      split
      · exact Prod.ext rfl (queue_cons_of_eq (by exact here) _).symm
      · split
        · exact Prod.ext rfl (queue_cons_of_eq (by exact here) _).symm
        · rfl
    · rw [queue_cons_of_ne here, ih, next, if_neg here]
      exact Prod.ext rfl (queue_cons_of_ne here _).symm

/-- Going through one place leaves the queue of another. -/
theorem queue_next_other {place other : Place} (apart : other ≠ place) (plans : List (Planned Place What)) :
    queue place (next other plans).2 = queue place plans := by
  induction plans with
  | nil => rfl
  | cons first rest ih =>
    unfold next
    by_cases here : first.place = other
    · have elsewhere : first.place ≠ place := fun same ↦ apart (here.symm.trans same)
      rw [if_pos here, queue_cons_of_ne elsewhere]
      split
      · exact queue_cons_of_ne (by exact elsewhere) _
      · split
        · exact queue_cons_of_ne (by exact elsewhere) _
        · rfl
    · rw [if_neg here]
      by_cases there : first.place = place
      · rw [queue_cons_of_eq there, queue_cons_of_eq there, ih]
      · rw [queue_cons_of_ne there, queue_cons_of_ne there, ih]

end Planned

namespace Session

/-- Between two moments of a unit nothing was taken from the queue of a point, and whether the store can be
reached has not changed. -/
structure Steady (point : Point) (before after : Session) : Prop where
  queue : Planned.queue point after.storage.faults = Planned.queue point before.storage.faults
  reachable : after.storage.reachable = before.storage.reachable

instance (point : Point) : IsPreorder Session (Steady point) where
  refl _ := ⟨rfl, rfl⟩
  trans _ _ _ begins goesOn :=
    ⟨goesOn.queue.trans begins.queue, goesOn.reachable.trans begins.reachable⟩

/-- What happens at the point is what would have happened before. -/
theorem Steady.next {point : Point} {before after : Session} (steady : before.Steady point after) :
    (Planned.next point after.storage.faults).1 = (Planned.next point before.storage.faults).1 := by
  have same := congrArg (Planned.next point) steady.queue
  rw [Planned.queue_next, Planned.queue_next] at same
  exact (Prod.mk.inj same).1

/-- Between two moments of a unit it went through a point once, and whether the store can be reached has not
changed. -/
structure Passed (point : Point) (before after : Session) : Prop where
  queue : Planned.queue point after.storage.faults =
    Planned.queue point (Planned.next point before.storage.faults).2
  reachable : after.storage.reachable = before.storage.reachable

theorem Passed.steady {point : Point} {before middle after : Session} (passed : before.Passed point middle)
    (steady : middle.Steady point after) : before.Passed point after :=
  ⟨steady.queue.trans passed.queue, steady.reachable.trans passed.reachable⟩

/-- What happens at the point is what would have happened there the second time. -/
theorem Passed.next {point : Point} {before after : Session} (passed : before.Passed point after) :
    (Planned.next point after.storage.faults).1 =
      (Planned.next point (Planned.next point before.storage.faults).2).1 := by
  have same := congrArg (Planned.next point) passed.queue
  rw [Planned.queue_next, Planned.queue_next] at same
  exact (Prod.mk.inj same).1

end Session

namespace Work

open Procedure Session
open Planned (struck)

variable {Result : Type} {point : Point}

theorem steady_pass {other : Point} (apart : other ≠ point) : (pass other).Leaves (Steady point) := by
  intro session
  rw [pass_run]
  exact ⟨Planned.queue_next_other apart _, rfl⟩

theorem steady_connect : connect.Leaves (Steady point) := by
  intro session
  rcases connect_cases session with same | same <;> rw [same] <;> exact ⟨rfl, rfl⟩

theorem steady_admitIntruder (id : Int) : (admitIntruder id).Leaves (Steady point) := by
  intro session
  obtain ⟨intrusions, accounts, same⟩ := admitIntruder_after id session
  rw [same]
  exact ⟨rfl, rfl⟩

/-- Only going through a point takes anything from its queue. -/
theorem leftByWriting_steady (point : Point) : LeftByWriting (· ≠ point) (Steady point) where
  pass _ apart := steady_pass apart
  connect := steady_connect
  remember _ _ := ⟨rfl, rfl⟩
  admitIntruder := steady_admitIntruder
  write _ _ := ⟨rfl, rfl⟩
  now _ := ⟨rfl, rfl⟩
  drawReference _ := ⟨rfl, rfl⟩

/-- A part goes through a point once if it does so at first and not again. -/
theorem passed_bind {rest : Bool → Work Result} (steady : ∀ refused, (rest refused).Leaves (Steady point)) :
    (pass point >>= rest).Leaves (Passed point) := by
  intro session
  rw [run_bind, pass_run]
  cases struck (Planned.next point session.storage.faults).1 with
  | error failure => exact ⟨rfl, rfl⟩
  | ok refused =>
    have goesOn := steady refused (withFaults session (Planned.next point session.storage.faults).2)
    exact ⟨goesOn.queue, goesOn.reachable⟩

theorem passed_load (id : Int) : (load id).Leaves (Passed .load) := by
  obtain ⟨rest, same, steady⟩ := (leftByWriting_steady .load).load_eq id
  rw [same]
  exact passed_bind steady

/-- A commit goes through two points only. -/
theorem steady_commit (before : .commit ≠ point) (after : .acknowledgement ≠ point) :
    commit.Leaves (Steady point) := by
  unfold commit
  refine leaves_bind (steady_pass before) fun _ ↦ ?_
  refine leaves_bind (fun _ ↦ ⟨rfl, rfl⟩) fun _ ↦ ?_
  exact leaves_bind (steady_pass after) fun _ _ ↦ ⟨rfl, rfl⟩

end Work

end Passbook
