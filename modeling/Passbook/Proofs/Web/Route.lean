import Passbook.Proofs.Text.Splitting
import Passbook.Web.Site

/-!
Where requests to move money go. A path is split at its slashes (`walked_eq`, `pathParts?_eq`), so it can be
followed from the target of a request to its endpoint. Main statement: what is posted to the path of a movement is
answered by what moves money (`Site.answer_sendable`).
-/

set_option autoImplicit false
set_option relaxedAutoImplicit false

namespace Passbook.Web

theorem walked_eq (path : List Char) :
    walked path = List.intercalate ['/'] (walkBehind [] (path.splitOnP (· == '/'))) := by
  have parts := Text.splitOn_eq (String.ofList path) '/'
  change (String.ofList path).splitOn "/" = _ at parts
  have same (parts : List (List Char)) : (parts.map String.ofList).map String.toList = parts := by
    rw [List.map_map]
    simp
  unfold walked
  dsimp only
  rw [parts, same, String.toList_ofList]

theorem pathParts?_eq (path : String) :
    pathParts? path =
      match (path.toList.splitOnP (· == '/')).map String.ofList with
      | "" :: parts => if parts.any (·.isEmpty) then none else some parts
      | _ => none := by
  have parts := Text.splitOn_eq path '/'
  change path.splitOn "/" = _ at parts
  rw [← parts]
  rfl

/-- The path under which money is moved. -/
def pathOf (kind : TransactionKind) : String :=
  match kind with
  | .deposit => "/transactions/deposit"
  | .withdrawal => "/transactions/withdraw"
  | .transfer => "/transactions/transfer"
  | .interest => "/transactions/interest"

theorem route_pathOf (kind : TransactionKind) : route "POST" (pathOf kind) = .to (.post kind) := by
  unfold route endpointsOf
  rw [pathParts?_eq]
  cases kind <;> decide +kernel

theorem ofTarget_pathOf (kind : TransactionKind) :
    Address.ofTarget (pathOf kind) = .ok ⟨(pathOf kind).toList, none⟩ := by
  simp only [Address.ofTarget, Address.atSite, Address.atHost, Target.ownPath, walked_eq]
  cases kind <;> decide +kernel

theorem pathText_pathOf (kind : TransactionKind) :
    Address.pathText ⟨(pathOf kind).toList, none⟩ = pathOf kind := by
  cases kind <;> decide +kernel

namespace Site

variable (kind : TransactionKind) {body : Body}

theorem addressOf_pathOf : addressOf ⟨"POST", pathOf kind, body⟩ =
    if body.isSendable then .ok ⟨(pathOf kind).toList, none⟩ else .error .notEncodable := by
  rw [addressOf, ofTarget_pathOf]
  rfl

/-- A body that cannot be sent is not answered. -/
theorem answer_unsendable (unsendable : body.isSendable = false) (ledger : Ledger) :
    answer ⟨"POST", pathOf kind, body⟩ ledger = (.error .notEncodable, ledger) := by
  unfold answer
  rw [addressOf_pathOf, unsendable]
  rfl

/-- A body that can be sent is answered by what moves money. -/
theorem answer_sendable (sendable : body.isSendable = true) :
    answer ⟨"POST", pathOf kind, body⟩ = withBody ⟨"POST", pathOf kind, body⟩ (post kind) := by
  have method : "POST".map Char.toUpper = "POST" := by decide +kernel
  have whole : forMethod "POST" = id := rfl
  funext ledger
  unfold answer
  dsimp only
  rw [addressOf_pathOf, sendable, method, Procedure.run_bind, if_pos rfl, Procedure.run_ofExcept]
  dsimp only
  rw [pathText_pathOf, route_pathOf, whole]
  exact congrFun (bind_pure _) ledger

end Site

end Passbook.Web
