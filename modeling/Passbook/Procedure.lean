/-!
Procedures: what runs on a state and ends in a result or a problem, leaving a state either way. What a
procedure did to the state before a problem stays done. The lemmas say what each way of building a
procedure does to a state: a problem in the first of two procedures is the problem of both
(`run_bind`), and a problem that is caught is handled in the state that it left (`run_tryCatch`).
-/

set_option autoImplicit false
set_option relaxedAutoImplicit false

namespace Passbook

/-- What runs on a state and ends in a result or a problem. -/
abbrev Procedure (Problem State Result : Type) := ExceptT Problem (StateM State) Result

namespace Procedure

variable {Problem State Result First : Type}

/-- Ends with an outcome, and leaves the state alone. -/
def ofExcept (outcome : Except Problem Result) : Procedure Problem State Result :=
  fun state ↦ (outcome, state)

/-- Runs a procedure whose problem is a value of this one. -/
def attempt (body : Procedure Problem State Result) :
    Procedure Problem State (Except Problem Result) :=
  fun state ↦
    let (outcome, state) := body state
    (.ok outcome, state)

@[simp]
theorem run_pure (result : Result) (state : State) :
    (pure result : Procedure Problem State Result) state = (.ok result, state) := rfl

@[simp]
theorem run_throw (problem : Problem) (state : State) :
    (throw problem : Procedure Problem State Result) state = (.error problem, state) := rfl

@[simp]
theorem run_ofExcept (outcome : Except Problem Result) (state : State) :
    (ofExcept outcome : Procedure Problem State Result) state = (outcome, state) := rfl

@[simp]
theorem run_attempt (body : Procedure Problem State Result) (state : State) :
    attempt body state = (.ok (body state).1, (body state).2) := rfl

@[simp]
theorem run_bind (first : Procedure Problem State First)
    (next : First → Procedure Problem State Result) (state : State) :
    (first >>= next) state =
      match first state with
      | (.ok result, state) => next result state
      | (.error problem, state) => (.error problem, state) := by
  change (ExceptT.bindCont next (first state).1) (first state).2 = _
  cases first state with
  | mk outcome state => cases outcome <;> rfl

@[simp]
theorem run_get (state : State) :
    (get : Procedure Problem State State) state = (.ok state, state) := rfl

@[simp]
theorem run_set (other state : State) :
    (set other : Procedure Problem State PUnit) state = (.ok ⟨⟩, other) := rfl

@[simp]
theorem run_modify (change : State → State) (state : State) :
    (modify change : Procedure Problem State PUnit) state = (.ok ⟨⟩, change state) := rfl

@[simp]
theorem run_tryCatch (body : Procedure Problem State Result)
    (handler : Problem → Procedure Problem State Result) (state : State) :
    tryCatch body handler state =
      match body state with
      | (.ok result, state) => (.ok result, state)
      | (.error problem, state) => handler problem state := by
  change ExceptT.tryCatch body handler state = _
  unfold ExceptT.tryCatch
  simp only [ExceptT.mk, bind, StateT.bind]
  cases body state with
  | mk outcome state => cases outcome <;> rfl

@[simp]
theorem run_ite (condition : Prop) [Decidable condition]
    (first second : Procedure Problem State Result) (state : State) :
    (if condition then first else second) state =
      if condition then first state else second state := by
  split <;> rfl

end Procedure

end Passbook
