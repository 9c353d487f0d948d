import Passbook.Ledger.Posting
import Passbook.Ledger.Service
import Passbook.Proofs.Storage.Parts

/-!
The parts of the ledger's units of work: what they leave follows from the steps that they consist of, as for
the parts that talk to the store (`Work.LeftByReading`, `Work.LeftByChanging`, `Work.LeftByWriting`).
-/

set_option autoImplicit false
set_option relaxedAutoImplicit false

namespace Passbook.Work

open Procedure

variable {across : Point → Prop} {relation : Session → Session → Prop} [IsPreorder Session relation]

/-! ### Postings -/

theorem LeftByReading.loadActive (left : LeftByReading across relation) (point : across .load)
    (id : Int) : (Work.loadActive id).Leaves relation := by
  unfold Work.loadActive
  refine leaves_bind (left.load point id) fun loaded ↦ ?_
  split
  · exact leaves_ite (leaves_pure _) (leaves_throw _)
  · exact leaves_throw _

theorem LeftByReading.readLegs (left : LeftByReading across relation) (point : across .load)
    (posting : Posting) : (Work.readLegs posting).Leaves relation := by
  unfold Work.readLegs
  refine leaves_mapM (fun leg ↦ ?_) _
  exact leaves_bind (left.loadActive point leg.1) fun _ ↦ leaves_pure _

theorem LeftByChanging.changeBalance (left : LeftByChanging across relation)
    (point : across .balanceWrite) (account : Account) (balance : Decimal) :
    (Work.changeBalance account balance).Leaves relation := by
  unfold Work.changeBalance
  refine leaves_bind (leaves_ofExcept _) fun order ↦ ?_
  extract_lets goOn
  have goesOn : ∀ none, (goOn none).Leaves relation := by
    intro none
    refine leaves_bind (left.writeBalance point _ _ _) fun wrote ↦ ?_
    exact leaves_ite (leaves_throw _) (leaves_pure _)
  split
  · refine leaves_bind (leaves_ofExcept _) fun _ ↦ ?_
    exact leaves_bind (leaves_throw _) goesOn
  · exact goesOn ⟨⟩

theorem LeftByChanging.writePosting (left : LeftByChanging across relation)
    (points : across .balanceWrite ∧ across .append) (posting : Posting)
    (read : List (Account × Direction)) : (Work.writePosting posting read).Leaves relation := by
  unfold Work.writePosting
  refine leaves_bind (leaves_ofExcept _) fun changes ↦ ?_
  refine leaves_bind ?_ fun _ ↦ left.append points.2 _
  refine leaves_forM (fun change ↦ ?_) _
  exact left.changeBalance points.1 change.1 change.2

theorem LeftByWriting.applyPosting (left : LeftByWriting across relation)
    (points : across .load ∧ across .balanceWrite ∧ across .append) (posting : Posting) :
    (Work.applyPosting posting).Leaves relation := by
  unfold Work.applyPosting
  refine leaves_bind (left.readLegs points.1 posting) fun read ↦ ?_
  exact left.writePosting points.2 posting read

/-! ### Changes of status -/

theorem LeftByChanging.writeStatusChange (left : LeftByChanging across relation)
    (point : across .statusWrite) (account : Account) (status : AccountStatus) (reason : String) :
    (Work.writeStatusChange account status reason).Leaves relation := by
  unfold Work.writeStatusChange
  extract_lets record write
  have records : ∀ none, (record none).Leaves relation := fun _ ↦ left.recordEvent _ _
  have writes : ∀ none, (write none).Leaves relation := by
    intro none
    refine leaves_bind (left.writeStatus point _ _ _) fun wrote ↦ ?_
    split
    · exact leaves_bind (leaves_throw _) records
    · exact records ⟨⟩
  split
  · exact leaves_bind (leaves_throw _) writes
  · exact writes ⟨⟩

end Passbook.Work
