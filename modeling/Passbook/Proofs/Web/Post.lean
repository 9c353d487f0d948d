import Passbook.Proofs.Json.Object
import Passbook.Proofs.Ledger.Recorded
import Passbook.Proofs.Web.Amount
import Passbook.Proofs.Web.Route

/-!
Requests to move money, from their bodies to what is recorded. A request is declined, which leaves the ledger as it
was, or its amount is accepted by the field and moved (`Site.post_cases`). A body gives a number literal for the
amount if there stands what the literal is read as (`Body.Gives`), as in the text of every object of literals that
ends with an amount (`Body.gives_objectText`). Main statement: what is recorded then is what the literal is taken
for, and that is what it denotes if its digits are few (`Site.answer_literal`).
-/

set_option autoImplicit false
set_option relaxedAutoImplicit false

-- What holds of all members of a list is decided along the list, whatever else is imported.
attribute [local instance (high)] List.decidableBAll

namespace Passbook

open Procedure

namespace Web

/-! ### Fields -/

namespace Checked

variable {First Second Result : Type}

theorem both_ok {first : Checked First} {second : Checked Second} {value : First × Second}
    (checked : first.both second = .ok value) : first = .ok value.1 ∧ second = .ok value.2 := by
  unfold both at checked
  split at checked
  · obtain rfl := Except.ok.inj checked
    exact ⟨rfl, rfl⟩
  · cases checked
  · cases checked
  · cases checked

/-- A field without a usual value that is all right stands in the body. -/
theorem inBody_ok {body : Json} {name : String} {reader : Json → Except FieldFault Result}
    {value : Result} (checked : inBody body name none reader = .ok value) :
    ∃ found, body.entry? name = some found ∧ reader found = .ok value := by
  unfold inBody at checked
  split at checked
  · next found there =>
    refine ⟨found, there, ?_⟩
    cases read : reader found with
    | error fault =>
      rw [read] at checked
      cases checked
    | ok taken =>
      rw [read] at checked
      exact congrArg Except.ok (Except.ok.inj checked)
  · next same => cases same
  · cases checked

theorem fields_ok {content : Content} {reader : Json → Checked Result} {value : Result}
    (checked : fields content reader = .ok value) :
    ∃ body, content = .json body ∧ reader body = .ok value := by
  unfold fields at checked
  split at checked
  · cases checked
  · split at checked
    · exact ⟨_, rfl, checked⟩
    · cases checked
  · cases checked

end Checked

/-! ### Answers that report no movement -/

/-- No failure is answered as something that was made. -/
theorem statusOf_ne (failure : LedgerFailure) : statusOf failure ≠ 201 := by
  cases failure <;> simp [statusOf]

theorem status_ofProblems {problems : List Problem} {answer : Answer}
    (answered : Answer.ofProblems problems = .ok answer) : answer.status = 422 := by
  unfold Answer.ofProblems at answered
  split at answered
  · cases answered
  · split at answered
    · cases answered
    · obtain rfl := Except.ok.inj answered
      rfl

/-- The answer says that nothing was made, and the ledger is as before. -/
def Declined (ledger : Ledger) (ended : Except Breakdown Answer × Ledger) : Prop :=
  (∀ answer, ended.1 = .ok answer → answer.status ≠ 201) ∧ ended.2 = ledger

namespace Site

/-- Refused fields are answered without looking at the ledger. -/
theorem declined_ofProblems (problems : List Problem) (ledger : Ledger) :
    Declined ledger (Answer.ofProblems problems, ledger) := by
  refine ⟨fun answer answered ↦ ?_, rfl⟩
  rw [status_ofProblems answered]
  decide

/-- An engine is made without changing the ledger. -/
theorem engine_run (ledger : Ledger) :
    Answering.engine ledger = ((Engine.make {} ledger.settings).mapError .operation, ledger) := by
  unfold Answering.engine
  rw [run_bind, run_get]
  dsimp only
  cases Engine.make {} ledger.settings <;> rfl

/-- An operation is answered with its result, or with a failure. -/
theorem answering_created {Result : Type} {action : Ledger.Action Result} {shown : Result → Answer}
    (ledger : Ledger) :
    let ended := Answering.answering action (fun result ↦ pure (shown result)) ledger
    ended.2 = (action ledger).2 ∧
      ∀ answer, ended.1 = .ok answer → answer.status = 201 →
        ∃ result, (action ledger).1 = .ok result ∧ answer = shown result := by
  intro ended
  have same : ended = _ := run_bind (Answering.attempting action) _ ledger
  rw [same]
  unfold Answering.attempting
  cases action ledger with
  | mk outcome after =>
    cases outcome with
    | ok result =>
      refine ⟨rfl, fun answer answered _ ↦ ⟨result, rfl, ?_⟩⟩
      exact (Except.ok.inj answered).symm
    | error failure =>
      cases failure with
      | ledger failure =>
        refine ⟨rfl, fun answer answered created ↦ ?_⟩
        obtain rfl := Except.ok.inj answered
        exact absurd created (statusOf_ne failure)
      | _ => exact ⟨rfl, fun answer answered ↦ by cases answered⟩

/-- The fields of a request to move money. -/
def postFields (kind : TransactionKind) (content : Content) : Checked (Movement × Decimal × String) :=
  Checked.fields content fun body ↦
    (movement kind body).both <|
      (Checked.inBody body "amount" none amount).both
        (.inBody body "description" (some (Ledger.usualDescription kind)) (shortText maxDescription))

theorem post_eq (kind : TransactionKind) (content : Content) :
    post kind content = (do
      let engine ← Answering.engine
      check (postFields kind content) fun (movement, amount, description) ↦
        Answering.answering (Ledger.post engine movement (.decimal amount) (.text description))
          fun record ↦ return .ofJson 201 (recordJson record)) :=
  rfl

/-- An amount whose fields are all right stands in the body and is accepted. -/
theorem postFields_ok {kind : TransactionKind} {content : Content} {movement : Movement}
    {number : Decimal} {description : String}
    (checked : postFields kind content = .ok (movement, number, description)) :
    ∃ body found, content = .json body ∧ body.entry? "amount" = some found ∧
      amount found = .ok number := by
  obtain ⟨body, content, fields⟩ := Checked.fields_ok checked
  obtain ⟨-, fields⟩ := Checked.both_ok fields
  obtain ⟨found, there, accepted⟩ := Checked.inBody_ok (Checked.both_ok fields).1
  exact ⟨body, found, content, there, accepted⟩

/-- What a request to move money comes to: it is declined, or its amount is accepted and moved, and an answer that
something was made shows the record. -/
theorem post_cases (kind : TransactionKind) (content : Content) (ledger : Ledger) :
    Declined ledger (post kind content ledger) ∨
      ∃ engine movement number description body found,
        content = .json body ∧ body.entry? "amount" = some found ∧ amount found = .ok number ∧
        let moved := Ledger.post engine movement (.decimal number) (.text description) ledger
        (post kind content ledger).2 = moved.2 ∧
          ∀ answer, (post kind content ledger).1 = .ok answer → answer.status = 201 →
            ∃ record, moved.1 = .ok record ∧ answer = .ofJson 201 (recordJson record) := by
  rw [post_eq, run_bind, engine_run]
  cases Engine.make {} ledger.settings with
  | error failure => exact Or.inl ⟨(fun _ answered ↦ by cases answered), rfl⟩
  | ok engine =>
    cases checked : postFields kind content with
    | error problems => exact Or.inl (declined_ofProblems problems ledger)
    | ok fields =>
      obtain ⟨movement, number, description⟩ := fields
      obtain ⟨body, found, rfl, there, accepted⟩ := postFields_ok checked
      exact Or.inr ⟨engine, movement, number, description, body, found, rfl, there, accepted,
        answering_created ledger⟩

end Site

/-! ### Bodies with a literal for the amount -/

/-- A number literal is given for the amount of a body: there stands what the literal is read as, and if it cannot
be read, neither can the body. -/
inductive Body.Gives (body : Body) (literal : Json.Literal) : Prop
  | read (value found : Json) : body.content = .ok (.json value) → value.entry? "amount" = some found →
      literal.IsReadAs found → Gives body literal
  | unread (fault : Json.Fault) : (∀ found, ¬literal.IsReadAs found) → body.content = .error fault →
      Gives body literal

/-- A body of the text of an object is what the text is read as. -/
theorem Body.content_objectText {entries : List Json.LiteralEntry} (some : entries ≠ [])
    {contentType : String} (isJson : isJsonType contentType = true) :
    (Body.raw (Json.objectText entries) contentType).content =
      (entries.mapM Json.LiteralEntry.reading).map fun read ↦ .json (Json.ofEntries read) := by
  have nonempty : (Json.objectText entries).isEmpty = false := by simp [Json.objectText]
  unfold Body.content
  dsimp only
  rw [nonempty, if_neg Bool.false_ne_true, if_pos isJson, Json.readBytes_objectText entries some]
  cases entries.mapM Json.LiteralEntry.reading <;> rfl

/-- An object of literals that has an amount behind other fields gives its literal. -/
theorem Body.gives_objectText (earlier : List Json.LiteralEntry) (literal : Json.Literal)
    {contentType : String} (isJson : isJsonType contentType = true)
    (readable : ∀ entry ∈ earlier, ∃ found, entry.literal.IsReadAs found) :
    (Body.raw (Json.objectText (earlier ++ [⟨"amount", by decide, literal⟩])) contentType).Gives
      literal := by
  obtain ⟨others, read⟩ := Json.exists_readings readable
  have some : earlier ++ [⟨"amount", by decide, literal⟩] ≠ [] := by simp
  have content := Body.content_objectText some isJson
  rw [List.mapM_append, read] at content
  cases reading : literal.reading with
  | ok found =>
    refine .read (Json.ofEntries (others ++ [("amount", found)])) found ?_
      (Json.lookup_ofEntries others "amount" found) (literal.isReadAs_iff.2 reading)
    rw [content, List.mapM_cons, Json.LiteralEntry.reading, reading]
    rfl
  | error fault =>
    refine .unread fault (fun found isRead ↦ ?_) ?_
    · cases reading.symm.trans (literal.isReadAs_iff.1 isRead)
    · rw [content, List.mapM_cons, Json.LiteralEntry.reading, reading]
      rfl

/-! ### Requests with a literal for the amount -/

/-- An amount that is moved is recorded for what it is. -/
theorem toRat_ofValue {number exact : Decimal}
    (taken : Money.ofValue (.decimal number) = .ok exact) : exact.toRat = number.toRat := by
  have judged : Money.ofDecimal (.decimal number) number = .ok exact := taken
  obtain ⟨finite, -, equal⟩ := Money.ofDecimal_ok judged
  obtain ⟨cents, whole⟩ := Money.ofValue_cents taken
  obtain ⟨_, _, rfl, -, -⟩ := Decimal.cents?_eq_some whole
  rw [Decimal.compare?_toRat finite rfl] at equal
  exact ((cmp_eq_eq_iff _ _).1 (Option.some.inj equal)).symm

/-- An amount of cents that is above zero is a cent at least. -/
theorem IsCents.one_le {x : ℚ} (whole : IsCents x) (positive : 0 < x) : 1 / 100 ≤ x := by
  obtain ⟨cents, rfl⟩ := whole
  have some : (0 : ℚ) < cents := by linarith
  have above : 0 < cents := by exact_mod_cast some
  have one : (1 : ℚ) ≤ cents := by exact_mod_cast above
  linarith

namespace Site

variable (kind : TransactionKind) {body : Body} {literal : Json.Literal}

/-- A body that cannot be read is answered without looking at the ledger. -/
theorem declined_of_unread {request : Request} {go : Content → Answering Answer} {fault : Json.Fault}
    (unread : request.body.content = .error fault) (ledger : Ledger) :
    Declined ledger (withBody request go ledger) := by
  unfold withBody
  rw [unread]
  cases fault with
  | malformed place => exact declined_ofProblems _ ledger
  | tooManyDigits | tooDeep | undecodable =>
    refine ⟨fun given answered ↦ ?_, rfl⟩
    obtain rfl := Except.ok.inj answered
    decide

/-- What a request to move the amount of a literal comes to. -/
theorem answer_cases (gives : body.Gives literal) (ledger : Ledger) :
    let ended := answer ⟨"POST", pathOf kind, body⟩ ledger
    Declined ledger ended ∨
      ∃ engine movement number description found,
        literal.IsReadAs found ∧ amount found = .ok number ∧
        let moved := Ledger.post engine movement (.decimal number) (.text description) ledger
        ended.2 = moved.2 ∧
          ∀ given, ended.1 = .ok given → given.status = 201 →
            ∃ record, moved.1 = .ok record ∧ given = .ofJson 201 (recordJson record) := by
  intro ended
  cases sendable : body.isSendable with
  | false =>
    have same : ended = _ := answer_unsendable kind sendable ledger
    rw [same]
    exact Or.inl ⟨(fun _ answered ↦ by cases answered), rfl⟩
  | true =>
    have same : ended = _ := congrFun (answer_sendable kind sendable) ledger
    rw [same]
    cases gives with
    | unread fault _ unread => exact Or.inl (declined_of_unread unread ledger)
    | read value found content there isRead =>
      have goesOn : withBody ⟨"POST", pathOf kind, body⟩ (post kind) ledger =
          post kind (.json value) ledger := by
        unfold withBody
        rw [content]
      rw [goesOn]
      rcases post_cases kind (.json value) ledger with declined |
        ⟨engine, movement, number, description, body', found', same', there', accepted, moved⟩
      · exact Or.inl declined
      · obtain rfl := Content.json.inj same'
        obtain rfl := Option.some.inj (there.symm.trans there')
        exact Or.inr ⟨engine, movement, number, description, found, isRead, accepted, moved⟩

/-- What is posted to move an amount is recorded for what its literal is taken for, and otherwise declined, which
leaves the ledger as it was. A literal of few digits is taken for what it denotes, and any other for an amount
less than one part in `2 ^ 51` off. -/
theorem answer_literal (gives : body.Gives literal) (ledger : Ledger)
    (fresh : ledger.storage.database.transactionReferenced? (.drawn ledger.storage.drawn) = none) :
    let ended := answer ⟨"POST", pathOf kind, body⟩ ledger
    (∀ given, ended.1 = .ok given → given.status = 201 →
      ∃ row record, ended.2.storage.database.transactions = ledger.storage.database.transactions ++ [row] ∧
        row.read = .ok record ∧ given = .ofJson 201 (recordJson record) ∧
        Money.worth row.amount = literal.taken ∧
        (literal.IsShort → Money.worth row.amount = literal.value) ∧
        2 ^ 51 * |Money.worth row.amount - literal.value| < literal.value) ∧
      (¬(0 < literal.taken ∧ IsCents literal.taken) → Declined ledger ended) ∧
      (literal.IsShort → ¬(0 < literal.value ∧ IsCents literal.value) → Declined ledger ended) := by
  intro ended
  rcases answer_cases kind gives ledger with declined |
    ⟨engine, movement, number, description, found, isRead, accepted, changed, moved⟩
  · exact ⟨fun given answered created ↦ absurd created (declined.1 given answered),
      fun _ ↦ declined, fun _ _ ↦ declined⟩
  have same := Json.Literal.toRat_amount isRead accepted
  obtain ⟨-, -, positive, whole⟩ := amount_cents accepted
  rw [same] at positive whole
  have some := whole.one_le positive
  refine ⟨fun given answered created ↦ ?_, fun refused ↦ absurd ⟨positive, whole⟩ refused,
    fun short refused ↦ ?_⟩
  · obtain ⟨record, recorded, shown⟩ := moved given answered created
    obtain ⟨exact, row, taken, added, reads, worth⟩ := Ledger.post_recorded fresh recorded
    rw [toRat_ofValue taken, same] at worth
    refine ⟨row, record, ?_, reads, shown, worth,
      fun short ↦ worth.trans (Json.Literal.taken_eq_value short some), ?_⟩
    · exact (congrArg (·.storage.database.transactions) changed).trans added
    · rw [worth]
      exact Json.Literal.taken_close some
  · rw [← Json.Literal.taken_eq_value short some] at refused
    exact absurd ⟨positive, whole⟩ refused

/-- An account without money. -/
def oneAccount : Ledger where
  storage := { database := { accounts := [⟨1, "ACC0000000001", 1, .checking, .active, "0.00", 1⟩] } }

/-- The literal of one digit. -/
def oneDigit : Json.Literal where
  negative := false
  numeral := { whole := ⟨['1'], by decide, by decide⟩ }
  leading := Or.inr (by simp)

/-- Ten, with a one in the eighteenth place behind the point. -/
def tenAndMore : Json.Literal where
  negative := false
  numeral := {
    whole := ⟨['1', '0'], by decide, by decide⟩
    fraction := some ⟨List.replicate 17 '0' ++ ['1'], by decide, by decide⟩ }
  leading := Or.inr (by simp)

/-- What is sent to deposit this on the first account. -/
def tooFine : String :=
  Json.objectText ([⟨"account_id", by decide, oneDigit⟩] ++ [⟨"amount", by decide, tenAndMore⟩])

example : tooFine = "\x7b\"account_id\":1,\"amount\":10.000000000000000001\x7d" := by decide +kernel

/-- Whether something was made. -/
def isCreated : Except Breakdown Answer → Bool
  | .ok given => given.status = 201
  | .error _ => false

/-- What was sent is more than ten, and ten is deposited. -/
theorem answer_literal_tooFine :
    let ended := answer ⟨"POST", pathOf .deposit, .raw tooFine "application/json"⟩ oneAccount
    ∃ given row, ended.1 = .ok given ∧ given.status = 201 ∧
      ended.2.storage.database.transactions = [row] ∧ Money.worth row.amount = 10 ∧
      tenAndMore.value = 10 + 1 / 10 ^ 18 := by
  intro ended
  have isJson : isJsonType "application/json" = true := by decide +kernel
  have closest : Binary64.ofDecimal false 10000000000000000001 (-18) =
      .finite false 5629499534213120 (-49) := by decide +kernel
  have gives : (Body.raw tooFine "application/json").Gives tenAndMore := by
    refine Body.gives_objectText [⟨"account_id", by decide, oneDigit⟩] tenAndMore isJson ?_
    intro entry member
    obtain rfl := List.mem_singleton.1 member
    exact ⟨.integer 1, oneDigit.isReadAs_iff.2 rfl⟩
  have content : (Body.raw tooFine "application/json").content = .ok (.json (.object
      [("account_id", .integer 1), ("amount", .number (.finite false 5629499534213120 (-49)))])) := by
    rw [tooFine, Body.content_objectText (by simp) isJson, ← closest]
    rfl
  have created : isCreated ended.1 = true := by
    change isCreated (answer _ oneAccount).1 = true
    rw [answer_sendable .deposit (by decide +kernel), withBody, content]
    decide +kernel
  have taken : tenAndMore.taken = 10 := by
    have shown : tenAndMore.taken = (Binary64.ofDecimal false 10000000000000000001 (-18)).shown := rfl
    have shortest : Binary64.shortest 5629499534213120 (-49) = (1, 1) := by decide +kernel
    rw [shown, closest, Binary64.shown, shortest]
    norm_num
  have value : tenAndMore.value = 10 + 1 / 10 ^ 18 := by
    have digits : tenAndMore.value = (10000000000000000001 : Nat) * 10 ^ (-18 : Int) := rfl
    rw [digits]
    norm_num
  obtain ⟨records, -, -⟩ := answer_literal .deposit gives oneAccount rfl
  unfold isCreated at created
  split at created
  · next given answered =>
    have status : given.status = 201 := by simpa using created
    obtain ⟨row, record, added, -, -, worth, -⟩ := records given answered status
    exact ⟨given, row, answered, status, added, worth.trans taken, value⟩
  · cases created

end Site

end Web

end Passbook
