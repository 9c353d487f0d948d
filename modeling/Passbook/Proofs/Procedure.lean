import Mathlib.Data.List.Forall2
import Mathlib.Order.Defs.Unbundled
import Passbook.Procedure

/-!
Reasoning about procedures. A procedure that ends in a result has gone through each of its parts with a
result (`ok_of_bind`). `Leaves` says that the states before and after a procedure are related, however it ends;
for a reflexive and transitive relation that holds of a procedure as soon as it holds of the parts
(`leaves_bind`, `leaves_mapM`, `leaves_forM`). `LeadsTo` says of a procedure that it leads from states of
one kind to states of another, and that its problems are all of a kind; `Confined` and `Raises` are its
cases for one kind of states and for all states.
-/

set_option autoImplicit false
set_option relaxedAutoImplicit false

namespace Passbook

section Except

variable {Problem Item Result First : Type}

/-- What may fail in two parts and does not: neither of them does. -/
theorem ok_of_bind_except {first : Except Problem First} {next : First → Except Problem Result}
    {result : Result} (ran : (first >>= next) = .ok result) :
    ∃ value, first = .ok value ∧ next value = .ok result := by
  cases first with
  | error problem => cases ran
  | ok value => exact ⟨value, rfl, ran⟩

/-- What may fail in two parts fails as one of them does. -/
theorem error_of_bind_except {first : Except Problem First} {next : First → Except Problem Result}
    {problem : Problem} (ended : (first >>= next) = .error problem) :
    first = .error problem ∨ ∃ value, first = .ok value ∧ next value = .error problem := by
  cases first with
  | error other => exact Or.inl (congrArg Except.error (Except.error.inj ended))
  | ok value => exact Or.inr ⟨value, rfl, ended⟩

/-- Each result of a function that may fail, done for one item after the other. -/
theorem forall₂_of_mapM_except {body : Item → Except Problem Result} {items : List Item}
    {results : List Result} (ran : items.mapM body = .ok results) :
    List.Forall₂ (fun item result ↦ body item = .ok result) items results := by
  induction items generalizing results with
  | nil =>
    obtain rfl := Except.ok.inj ran
    exact .nil
  | cons item rest ih =>
    rw [List.mapM_cons] at ran
    obtain ⟨result, first, ran⟩ := ok_of_bind_except ran
    obtain ⟨later, others, ran⟩ := ok_of_bind_except ran
    obtain rfl := Except.ok.inj ran
    exact .cons first (ih others)

/-- A function that may fail, done for one item after the other, fails as it does for one of them. -/
theorem error_of_mapM_except {body : Item → Except Problem Result} {items : List Item}
    {problem : Problem} (ended : items.mapM body = .error problem) :
    ∃ item ∈ items, body item = .error problem := by
  induction items with
  | nil => cases ended
  | cons item rest ih =>
    rw [List.mapM_cons] at ended
    rcases error_of_bind_except ended with first | ⟨result, -, ended⟩
    · exact ⟨item, List.mem_cons_self, first⟩
    rcases error_of_bind_except ended with others | ⟨later, -, ended⟩
    · obtain ⟨failed, member, same⟩ := ih others
      exact ⟨failed, List.mem_cons_of_mem _ member, same⟩
    · cases ended

theorem toOption_eq_some_except {outcome : Except Problem Result} {result : Result} :
    outcome.toOption = some result ↔ outcome = .ok result := by
  cases outcome <;> simp [Except.toOption]

end Except

/-- What stands on the right of related lists stands in relation to something on the left. -/
theorem exists_of_forall₂_right {Left Right : Type} {relation : Left → Right → Prop}
    {lefts : List Left} {rights : List Right} (related : List.Forall₂ relation lefts rights)
    {right : Right} (member : right ∈ rights) : ∃ left ∈ lefts, relation left right := by
  induction related with
  | nil => cases member
  | cons first _ ih =>
    rcases List.mem_cons.1 member with rfl | later
    · exact ⟨_, List.mem_cons_self, first⟩
    · obtain ⟨left, there, holds⟩ := ih later
      exact ⟨left, List.mem_cons_of_mem _ there, holds⟩

/-- What stands on the left of related lists stands in relation to something on the right. -/
theorem exists_of_forall₂_left {Left Right : Type} {relation : Left → Right → Prop}
    {lefts : List Left} {rights : List Right} (related : List.Forall₂ relation lefts rights)
    {left : Left} (member : left ∈ lefts) : ∃ right ∈ rights, relation left right :=
  exists_of_forall₂_right related.flip member

theorem map_eq_of_forall₂ {Left Right Common : Type} {image : Left → Common}
    {image' : Right → Common} {lefts : List Left} {rights : List Right}
    (related : List.Forall₂ (fun left right ↦ image left = image' right) lefts rights) :
    lefts.map image = rights.map image' := by
  induction related with
  | nil => rfl
  | cons first _ ih => rw [List.map_cons, List.map_cons, first, ih]

namespace Procedure

variable {Problem State Result First Item : Type}

/-- A procedure of two parts ends as the first part does if that is a problem, and else as the second
part does. -/
theorem cases_of_bind {first : Procedure Problem State First}
    {next : First → Procedure Problem State Result} {state final : State}
    {outcome : Except Problem Result} (ran : (first >>= next) state = (outcome, final)) :
    (∃ problem, first state = (.error problem, final) ∧ outcome = .error problem) ∨
      ∃ value middle, first state = (.ok value, middle) ∧ next value middle = (outcome, final) := by
  rw [run_bind] at ran
  split at ran
  · next value middle done => exact Or.inr ⟨value, middle, done, ran⟩
  · next problem middle ended =>
    obtain ⟨rfl, rfl⟩ := Prod.mk.inj ran
    exact Or.inl ⟨problem, ended, rfl⟩

/-- A procedure of two parts that ends in a result: so did both parts. -/
theorem ok_of_bind {first : Procedure Problem State First}
    {next : First → Procedure Problem State Result} {state final : State} {result : Result}
    (ran : (first >>= next) state = (.ok result, final)) :
    ∃ value middle, first state = (.ok value, middle) ∧ next value middle = (.ok result, final) := by
  rcases cases_of_bind ran with ⟨problem, _, same⟩ | both
  · cases same
  · exact both

theorem ok_of_ofExcept {outcome : Except Problem Result} {state final : State} {result : Result}
    (ran : (ofExcept outcome : Procedure Problem State Result) state = (.ok result, final)) :
    outcome = .ok result ∧ state = final := by
  rw [run_ofExcept] at ran
  exact ⟨congrArg Prod.fst ran, congrArg Prod.snd ran⟩

/-- Two parts of which the first ends in a result. -/
theorem run_bind_ok {first : Procedure Problem State First} {state middle : State} {value : First}
    (done : first state = (.ok value, middle)) (next : First → Procedure Problem State Result) :
    (first >>= next) state = next value middle := by
  rw [run_bind, done]

/-- To leave out what a procedure gives changes nothing in the state that it leaves. -/
theorem run_discard (body : Procedure Problem State Result) (state : State) :
    (do let _ ← body : Procedure Problem State Unit) state = ((body state).1.map fun _ ↦ ⟨⟩, (body state).2) := by
  rw [run_bind]
  cases ran : body state with
  | mk outcome after => cases outcome <;> rfl

/-- What is done for one item after the other, and ends well, ends well for each of them. -/
theorem ok_of_forM {body : Item → Procedure Problem State PUnit} {items : List Item}
    {state final : State} {result : PUnit} (ran : items.forM body state = (.ok result, final))
    {item : Item} (member : item ∈ items) :
    ∃ before after, body item before = (.ok ⟨⟩, after) := by
  induction items generalizing state with
  | nil => cases member
  | cons first rest ih =>
    obtain ⟨_, middle, done, later⟩ := ok_of_bind ran
    rcases List.mem_cons.1 member with rfl | member
    · exact ⟨state, middle, done⟩
    · exact ih later member

/-- Each result of a procedure done for one item after the other has what a single one has, as long as
every one of them leaves a state in which the next may be done. -/
theorem forall₂_of_mapM (holds : State → Prop) (property : Item → Result → Prop)
    {body : Item → Procedure Problem State Result}
    (single : ∀ item state result final, holds state → body item state = (.ok result, final) →
      property item result ∧ holds final)
    {items : List Item} {results : List Result} {state final : State} (start : holds state)
    (ran : items.mapM body state = (.ok results, final)) :
    List.Forall₂ property items results ∧ holds final := by
  induction items generalizing results state with
  | nil =>
    obtain ⟨same, rfl⟩ := Prod.mk.inj ran
    obtain rfl := Except.ok.inj same
    exact ⟨.nil, start⟩
  | cons item rest ih =>
    rw [List.mapM_cons] at ran
    obtain ⟨result, _, first, ran⟩ := ok_of_bind ran
    obtain ⟨later, _, others, ran⟩ := ok_of_bind ran
    obtain ⟨same, rfl⟩ := Prod.mk.inj ran
    obtain rfl := Except.ok.inj same
    obtain ⟨has, goesOn⟩ := single item _ result _ start first
    obtain ⟨others', ends⟩ := ih goesOn others
    exact ⟨.cons has others', ends⟩

/-- A procedure done for one item after the other ends at the first of them for which it is a problem. -/
theorem mapM_refused (holds : State → Prop) {body : Item → Procedure Problem State Result}
    {earlier later : List Item} {item : Item} {problem : Problem}
    (succeeds : ∀ other ∈ earlier, ∀ state, holds state →
      ∃ result after, body other state = (.ok result, after) ∧ holds after)
    (refused : ∀ state, holds state → ∃ after, body item state = (.error problem, after))
    {state : State} (start : holds state) :
    ∃ after, (earlier ++ item :: later).mapM body state = (.error problem, after) := by
  induction earlier generalizing state with
  | nil =>
    obtain ⟨after, ended⟩ := refused state start
    refine ⟨after, ?_⟩
    rw [List.nil_append, List.mapM_cons, run_bind, ended]
  | cons other rest ih =>
    obtain ⟨result, middle, done, goesOn⟩ := succeeds other List.mem_cons_self state start
    obtain ⟨after, ended⟩ :=
      ih (fun next member ↦ succeeds next (List.mem_cons_of_mem _ member)) goesOn
    refine ⟨after, ?_⟩
    rw [List.cons_append, List.mapM_cons, run_bind_ok done, run_bind, ended]

/-- However a procedure ends, the state that it leaves is related to the one that it found. -/
def Leaves (relation : State → State → Prop) (body : Procedure Problem State Result) : Prop :=
  ∀ state, relation state (body state).2

section Leaves

variable {relation : State → State → Prop}

theorem Leaves.mono {weaker : State → State → Prop} {body : Procedure Problem State Result}
    (leaves : body.Leaves relation)
    (weaken : ∀ before after, relation before after → weaker before after) : body.Leaves weaker :=
  fun state ↦ weaken state _ (leaves state)

theorem Leaves.of_eq {body : Procedure Problem State Result} (leaves : body.Leaves relation)
    {state final : State} {outcome : Except Problem Result} (ran : body state = (outcome, final)) :
    relation state final := by
  have related := leaves state
  rw [ran] at related
  exact related

theorem leaves_ite {condition : Prop} [Decidable condition]
    {first second : Procedure Problem State Result} (positive : first.Leaves relation)
    (negative : second.Leaves relation) :
    (if condition then first else second).Leaves relation := by
  split
  · exact positive
  · exact negative

variable [preorder : IsPreorder State relation]

theorem leaves_of_same {body : Procedure Problem State Result}
    (same : ∀ state, (body state).2 = state) : body.Leaves relation := by
  intro state
  rw [same]
  exact preorder.refl state

theorem leaves_pure (result : Result) :
    (pure result : Procedure Problem State Result).Leaves relation :=
  leaves_of_same fun _ ↦ rfl

theorem leaves_throw (problem : Problem) :
    (throw problem : Procedure Problem State Result).Leaves relation :=
  leaves_of_same fun _ ↦ rfl

theorem leaves_ofExcept (outcome : Except Problem Result) :
    (ofExcept outcome : Procedure Problem State Result).Leaves relation :=
  leaves_of_same fun _ ↦ rfl

theorem leaves_get : (get : Procedure Problem State State).Leaves relation :=
  leaves_of_same fun _ ↦ rfl

theorem leaves_bind {first : Procedure Problem State First}
    {next : First → Procedure Problem State Result} (begins : first.Leaves relation)
    (goesOn : ∀ value, (next value).Leaves relation) : (first >>= next).Leaves relation := by
  intro state
  have related := begins state
  rw [run_bind]
  split
  · next value middle done =>
    rw [done] at related
    exact preorder.trans _ _ _ related (goesOn value middle)
  · next problem middle done =>
    rw [done] at related
    exact related

theorem leaves_tryCatch {body : Procedure Problem State Result}
    {handler : Problem → Procedure Problem State Result} (begins : body.Leaves relation)
    (handles : ∀ problem, (handler problem).Leaves relation) :
    (tryCatch body handler).Leaves relation := by
  intro state
  have related := begins state
  rw [run_tryCatch]
  split
  · next result middle done =>
    rw [done] at related
    exact related
  · next problem middle ended =>
    rw [ended] at related
    exact preorder.trans _ _ _ related (handles problem middle)

theorem leaves_mapM {body : Item → Procedure Problem State Result}
    (each : ∀ item, (body item).Leaves relation) (items : List Item) :
    (items.mapM body).Leaves relation := by
  induction items with
  | nil =>
    rw [List.mapM_nil]
    exact leaves_pure _
  | cons item rest ih =>
    rw [List.mapM_cons]
    exact leaves_bind (each item) fun _ ↦ leaves_bind ih fun _ ↦ leaves_pure _

theorem leaves_forM {body : Item → Procedure Problem State PUnit}
    (each : ∀ item, (body item).Leaves relation) (items : List Item) :
    (items.forM body).Leaves relation := by
  induction items with
  | nil => exact leaves_pure _
  | cons item rest ih => exact leaves_bind (each item) fun _ ↦ ih

end Leaves

/-- From states of one kind a procedure leads to states of another, however it ends, and whatever problem it
ends in has a property. -/
def LeadsTo (start finish : State → Prop) (property : Problem → Prop)
    (body : Procedure Problem State Result) : Prop :=
  ∀ state, start state → finish (body state).2 ∧
    ∀ problem, (body state).1 = .error problem → property problem

/-- From states of one kind a procedure leads to such states again, however it ends, and whatever problem it
ends in has a property. -/
abbrev Confined (holds : State → Prop) : (Problem → Prop) → Procedure Problem State Result → Prop :=
  LeadsTo holds holds

/-- Whatever problem a procedure ends in has a property. -/
abbrev Raises : (Problem → Prop) → Procedure Problem State Result → Prop := Confined fun _ ↦ True

section LeadsTo

variable {start middle finish holds : State → Prop} {property : Problem → Prop}

theorem LeadsTo.of_eq {body : Procedure Problem State Result} (leads : body.LeadsTo start finish property)
    {state final : State} {outcome : Except Problem Result} (ran : body state = (outcome, final))
    (begun : start state) :
    finish final ∧ ∀ problem, outcome = .error problem → property problem := by
  have both := leads state begun
  rw [ran] at both
  exact both

theorem LeadsTo.mono {body : Procedure Problem State Result}
    (stronger : ∀ state, start state → middle state) (leads : body.LeadsTo middle finish property) :
    body.LeadsTo start finish property :=
  fun state begun ↦ leads state (stronger state begun)

/-- A procedure of two parts leads from where the first begins to where the second ends, if a problem in
between is as good as one at the end. The second part may rely on what the first has given. -/
theorem leadsTo_bind {first : Procedure Problem State First}
    {next : First → Procedure Problem State Result} (begins : first.LeadsTo start middle property)
    (weaken : ∀ state, middle state → finish state)
    (goesOn : ∀ state value between, start state → first state = (.ok value, between) →
      (next value).LeadsTo middle finish property) :
    (first >>= next).LeadsTo start finish property := by
  intro state begun
  rw [run_bind]
  split
  · next value between done =>
    exact goesOn state value between begun done between (begins.of_eq done begun).1
  · next problem between ended =>
    obtain ⟨ends, has⟩ := begins.of_eq ended begun
    exact ⟨weaken between ends, fun _ same ↦ Except.error.inj same ▸ has problem rfl⟩

theorem confined_pure (result : Result) :
    (pure result : Procedure Problem State Result).Confined holds property :=
  fun _ start ↦ ⟨start, fun _ same ↦ by cases same⟩

theorem confined_throw {problem : Problem} (has : property problem) :
    (throw problem : Procedure Problem State Result).Confined holds property :=
  fun _ start ↦ ⟨start, fun _ same ↦ Except.error.inj same ▸ has⟩

theorem confined_ofExcept {outcome : Except Problem Result}
    (has : ∀ problem, outcome = .error problem → property problem) :
    (ofExcept outcome : Procedure Problem State Result).Confined holds property :=
  fun _ start ↦ ⟨start, has⟩

theorem confined_get : (get : Procedure Problem State State).Confined holds property :=
  fun _ start ↦ ⟨start, fun _ same ↦ by cases same⟩

theorem confined_set {other : State} (kept : holds other) :
    (set other : Procedure Problem State PUnit).Confined holds property :=
  fun _ _ ↦ ⟨kept, fun _ same ↦ by cases same⟩

theorem confined_modify {change : State → State} (kept : ∀ state, holds state → holds (change state)) :
    (modify change : Procedure Problem State PUnit).Confined holds property :=
  fun state start ↦ ⟨kept state start, fun _ same ↦ by cases same⟩

theorem confined_bind {first : Procedure Problem State First}
    {next : First → Procedure Problem State Result} (begins : first.Confined holds property)
    (goesOn : ∀ value, (next value).Confined holds property) :
    (first >>= next).Confined holds property :=
  leadsTo_bind begins (fun _ ↦ id) fun _ value _ _ _ ↦ goesOn value

theorem confined_ite {condition : Prop} [Decidable condition]
    {first second : Procedure Problem State Result} (positive : first.Confined holds property)
    (negative : second.Confined holds property) :
    (if condition then first else second).Confined holds property := by
  split
  · exact positive
  · exact negative

theorem confined_mapM {body : Item → Procedure Problem State Result} {items : List Item}
    (each : ∀ item ∈ items, (body item).Confined holds property) :
    (items.mapM body).Confined holds property := by
  induction items with
  | nil =>
    rw [List.mapM_nil]
    exact confined_pure _
  | cons item rest ih =>
    rw [List.mapM_cons]
    refine confined_bind (each item List.mem_cons_self) fun _ ↦ ?_
    exact confined_bind (ih fun other member ↦ each other (List.mem_cons_of_mem _ member)) fun _ ↦
      confined_pure _

theorem confined_forM {body : Item → Procedure Problem State PUnit} {items : List Item}
    (each : ∀ item ∈ items, (body item).Confined holds property) :
    (items.forM body).Confined holds property := by
  induction items with
  | nil => exact confined_pure _
  | cons item rest ih =>
    exact confined_bind (each item List.mem_cons_self) fun _ ↦
      ih fun other member ↦ each other (List.mem_cons_of_mem _ member)

end LeadsTo

end Procedure

end Passbook
