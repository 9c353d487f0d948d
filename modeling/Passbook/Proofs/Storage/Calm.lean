import Passbook.Proofs.Money.Order
import Passbook.Proofs.Storage.Mirror
import Passbook.Proofs.Storage.Writes

/-!
What a calm unit brings about. Nothing goes wrong with it, so only what it is asked decides how its parts
end: an account that is missing is not found (`load_missing`), a balance that keeps the rule of its column is
written (`writeBalance_calm`), one that cannot be brought to cents is not (`writeBalance_unstorable`), and a
record of more than nothing under a new reference is appended (`append_calm`).
-/

set_option autoImplicit false
set_option relaxedAutoImplicit false

namespace Passbook

open Procedure Session

namespace Database

/-- No transaction has the next id yet. -/
theorem transaction?_nextId (database : Database) :
    database.transaction? (nextId (database.transactions.map (·.id))) = none := by
  refine List.find?_eq_none.2 fun row member same ↦ ?_
  have below := lt_nextId (List.mem_map_of_mem (f := (·.id)) member)
  exact absurd (eq_of_beq same) (Int.ne_of_lt below)

end Database

namespace Work

variable {calm : Session} {id version : Int} {balance : Decimal} {cents : Int}

/-- A calm unit does not find an account that is missing. -/
theorem load_missing (isCalm : calm.Calm) (fits : fitsWord id = true)
    (missing : calm.view.account? id = none) :
    ∃ after, load id calm = (.ok none, after) := by
  obtain ⟨connected, connects, mirrors⟩ := connect_calm isCalm
  unfold load
  rw [run_bind_ok (pass_calm .load isCalm), run_bind_ok connects,
    run_bind_ok (requireWord_of_fits fits connected), run_bind_ok (view_of_eq mirrors.view),
    missing]
  exact ⟨connected, run_bind_ok (admitIntruder_alone id mirrors.quiet.intrusions) _⟩

theorem boundAmount_rounded {given : Value} (brought : Money.rounded given = .ok balance) (session : Session) :
    boundAmount given session = (.ok (some balance.text), session) := by
  have there : given ≠ .absent := by
    rintro rfl
    cases brought
  rw [boundAmount, Money.bind_eq_map_rounded .text there, brought]
  rfl

theorem boundAmount_cents (whole : balance.cents? = some cents) (session : Session) :
    boundAmount (.decimal balance) session = (.ok (some balance.text), session) :=
  boundAmount_rounded (Money.rounded_of_cents whole) session

theorem boundAmount_unstorable (none : balance.quantize .toEven Money.centExponent = none)
    (session : Session) :
    boundAmount (.decimal balance) session = (.error .unstorable, session) := by
  rw [boundAmount, Money.bind_decimal_eq, none]
  rfl

theorem beginWrite_calm (isCalm : calm.Calm) :
    ∃ after, beginWrite calm = (.ok ⟨⟩, after) ∧ after.Calm ∧ after.view = calm.view :=
  ⟨{ calm with pending := some calm.view }, rfl,
    ⟨isCalm.faults, isCalm.intrusions, isCalm.reachable⟩, rfl⟩

/-- A calm unit writes a balance that keeps the rule of its column. -/
theorem writeBalance_calm {row : AccountRow} {given : Value} (isCalm : calm.Calm)
    (fits : fitsWord id = true) (fits' : fitsWord version = true)
    (found : calm.view.accountAt? id version = some row) (brought : Money.rounded given = .ok balance)
    (holds : Money.balanceHolds balance.text = true) :
    ∃ after, writeBalance id version given calm = (.ok true, after) ∧ after.Calm ∧
      after.view = calm.view.replace (Database.withBalance row balance.text) := by
  obtain ⟨connected, connects, mirrors⟩ := connect_calm isCalm
  obtain ⟨began, begins, isCalm', view'⟩ := beginWrite_calm mirrors.quiet
  rw [mirrors.view] at view'
  refine ⟨{ began with pending := some (calm.view.replace (Database.withBalance row balance.text)) },
    ?_, ⟨isCalm'.faults, isCalm'.intrusions, isCalm'.reachable⟩, rfl⟩
  unfold writeBalance
  rw [run_bind_ok (pass_calm .balanceWrite isCalm), if_neg (by decide), run_bind_ok connects,
    run_bind_ok (boundAmount_rounded brought connected),
    run_bind_ok (requireWord_of_fits fits connected), run_bind_ok (requireWord_of_fits fits' connected),
    run_bind_ok begins, run_bind_ok (view_of_eq view'), found]
  dsimp only
  rw [if_neg (by simpa using holds)]
  rfl

/-- A calm unit refuses a balance that cannot be brought to cents. -/
theorem writeBalance_unstorable (isCalm : calm.Calm) (id version : Int)
    (none : balance.quantize .toEven Money.centExponent = none) :
    ∃ after, writeBalance id version (.decimal balance) calm = (.error .unstorable, after) := by
  obtain ⟨connected, connects, -⟩ := connect_calm isCalm
  refine ⟨connected, ?_⟩
  unfold writeBalance
  rw [run_bind_ok (pass_calm .balanceWrite isCalm), if_neg (by decide), run_bind_ok connects,
    run_bind, boundAmount_unstorable none connected]

theorem now_calm (isCalm : calm.Calm) :
    ∃ after, now calm = (.ok calm.storage.clock, after) ∧ after.Calm ∧ after.view = calm.view :=
  ⟨{ calm with storage := { calm.storage with clock := calm.storage.clock + 1 } }, rfl,
    ⟨isCalm.faults, isCalm.intrusions, isCalm.reachable⟩, rfl⟩

/-- The numbers of the accounts that a row names, or zero in place of a destination that it has none of. -/
theorem fits_destination {movement : Movement}
    (fits : ∀ id ∈ movement.accounts, fitsWord id = true) :
    fitsWord movement.source = true ∧ fitsWord (movement.destination?.getD 0) = true := by
  refine ⟨fits _ List.mem_cons_self, ?_⟩
  cases there : movement.destination? with
  | none => decide
  | some destination =>
    refine fits destination (List.mem_cons_of_mem _ ?_)
    rw [there]
    exact List.mem_cons_self

theorem insertTransaction_calm {record : Record} {reference : Reference} {amount : Decimal}
    (isCalm : calm.Calm) (named : record.reference = some reference)
    (exact : record.amount = .decimal amount) (whole : amount.cents? = some cents)
    (positive : 0 < cents) (fits : ∀ id ∈ record.movement.accounts, fitsWord id = true)
    (unused : calm.view.transactionReferenced? reference = none) :
    ∃ row after, insertTransaction (.ofRecord record) calm = (.ok row, after) ∧ after.Calm := by
  obtain ⟨connected, connects, mirrors⟩ := connect_calm isCalm
  obtain ⟨timed, tells, isCalm₁, view₁⟩ := now_calm mirrors.quiet
  obtain ⟨began, begins, isCalm₂, view₂⟩ := beginWrite_calm isCalm₁
  have same : began.view = calm.view := (view₂.trans view₁).trans mirrors.view
  obtain ⟨fitsSource, fitsDestination⟩ := fits_destination fits
  let row := rowOf record reference amount
    (Database.nextId (calm.view.transactions.map (·.id))) connected.storage.clock
  refine ⟨row, { began with pending := some (calm.view.addTransaction row) }, ?_,
    ⟨isCalm₂.faults, isCalm₂.intrusions, isCalm₂.reachable⟩⟩
  unfold insertTransaction
  simp only [NewTransaction.ofRecord, named, exact, movementOf?_movement, Option.getD_none,
    Option.getD_some]
  rw [run_bind_ok connects, run_bind_ok (run_pure reference connected), run_bind_ok tells,
    run_bind_ok (boundAmount_cents whole timed),
    run_bind_ok (requireWord_of_fits (by decide) timed),
    run_bind_ok (requireWord_of_fits fitsSource timed),
    run_bind_ok (requireWord_of_fits fitsDestination timed), run_bind_ok begins,
    run_bind_ok (view_of_eq same)]
  dsimp only
  rw [if_neg (by simpa using (Money.amountHolds_text whole).2 positive),
    Database.transaction?_nextId, if_neg (by decide), unused, if_neg (by decide)]
  rfl

/-- A calm unit appends a record of more than nothing under a new reference. -/
theorem append_calm {record : Record} {reference : Reference} {amount : Decimal}
    (isCalm : calm.Calm) (named : record.reference = some reference)
    (exact : record.amount = .decimal amount) (whole : amount.cents? = some cents)
    (positive : 0 < cents) (fits : ∀ id ∈ record.movement.accounts, fitsWord id = true)
    (unused : calm.view.transactionReferenced? reference = none) :
    ∃ stored after, append record calm = (.ok stored, after) ∧ after.Calm := by
  obtain ⟨row, after, inserted, isCalm'⟩ :=
    insertTransaction_calm isCalm named exact whole positive fits unused
  unfold append
  rw [run_bind_ok (pass_calm .append isCalm), run_bind_ok inserted]
  exact ⟨_, after, rfl, isCalm'⟩

end Work

end Passbook
