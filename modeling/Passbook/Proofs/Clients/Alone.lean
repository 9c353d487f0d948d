import Passbook.Proofs.Clients.Serving

/-!
A client that nobody comes between. If a client takes all its turns one after the other, the store is left
as the ledger's own operation leaves it (`World.perform_alone`): the turns are the parts of the operation,
all of them and in their order.
-/

set_option autoImplicit false
set_option relaxedAutoImplicit false

namespace Passbook

open Procedure Session

namespace Client

/-- A client that takes one turn after the other comes to an end, and leaves a store. -/
inductive Ends : Option Client → Storage → Storage → Prop
  | idle (storage : Storage) : Ends none storage storage
  | turn (client : Client) (storage after : Storage) :
      Ends (client.turn storage).client (client.turn storage).storage after →
      Ends (some client) storage after

end Client

/-- A client that comes to an outcome comes to an end without it, and leaves the same store. -/
theorem Served.Comes.toEnds {served : Served} {storage after : Storage} {outcome : Except Failure Record}
    (comes : served.Comes storage outcome after) (posts : ∀ client, served = .goesOn client → client.Posts) :
    Client.Ends served.client? storage after := by
  induction comes with
  | ends outcome storage => exact .idle storage
  | turn client storage outcome after _ ih =>
    obtain ⟨isClient, isStorage⟩ := Client.serve_turn (posts client rfl) storage
    refine .turn client storage after ?_
    rw [isClient, isStorage]
    exact ih fun later again ↦ (posts client rfl).serve (Prod.ext again rfl)

/-! ### Requests -/

namespace Ledger

variable {Result First : Type}

/-- What the action comes to and does to the store depends on nothing but the store. -/
def Storebound (action : Action Result) : Prop :=
  ∀ first second : Ledger, first.SameStore second →
    (action first).1 = (action second).1 ∧ (action first).2.SameStore (action second).2

theorem storebound_bind {first : Action First} {next : First → Action Result}
    (begins : Storebound first) (goesOn : ∀ value, Storebound (next value)) :
    Storebound (first >>= next) := by
  intro left right same
  obtain ⟨outcome, storage⟩ := begins left right same
  rw [run_bind, run_bind]
  cases ran : first left with
  | mk result middle =>
    cases ran' : first right with
    | mk result' middle' =>
      rw [ran, ran'] at outcome storage
      obtain rfl : result = result' := outcome
      cases result with
      | error failure => exact ⟨rfl, storage⟩
      | ok value => exact goesOn value middle middle' storage

theorem storebound_pure (result : Result) : Storebound (pure result : Action Result) :=
  fun _ _ same ↦ ⟨rfl, same⟩

theorem storebound_throw (failure : Failure) : Storebound (throw failure : Action Result) :=
  fun _ _ same ↦ ⟨rfl, same⟩

theorem storebound_ofExcept (outcome : Except Failure Result) :
    Storebound (Procedure.ofExcept outcome) :=
  fun _ _ same ↦ ⟨rfl, same⟩

theorem storebound_report (severity : Severity) (text : String) :
    Storebound (report severity text) :=
  fun _ _ same ↦ ⟨rfl, same⟩

theorem storebound_drawReference : Storebound drawReference := by
  intro first second same
  constructor
  · change Except.ok (Reference.drawn first.storage.drawn) = .ok (.drawn second.storage.drawn)
    rw [same]
  · change { second.storage with drawn := second.storage.drawn + 1 } =
      { first.storage with drawn := first.storage.drawn + 1 }
    rw [same]

theorem storebound_checkAmount (engine : Engine) (kind : TransactionKind) (given : Value) :
    Storebound (checkAmount engine kind given) := by
  unfold checkAmount
  split
  · dsimp only
    split
    · exact storebound_bind (storebound_report _ _) fun _ ↦ storebound_throw _
    · exact storebound_throw _
  · refine storebound_bind (storebound_ofExcept _) fun allowed ↦ ?_
    split
    · exact storebound_pure _
    · refine storebound_bind (storebound_report _ _) fun _ ↦ ?_
      split
      · exact storebound_throw _
      · exact storebound_throw _

theorem storebound_checkText (kind : TransactionKind) (given : Value) :
    Storebound (checkText kind given) := by
  unfold checkText
  split
  · exact storebound_pure _
  · exact storebound_bind (storebound_report _ _) fun _ ↦ storebound_throw _

theorem storebound_checkAccounts (movement : Movement) : Storebound (checkAccounts movement) := by
  unfold checkAccounts
  split
  · split
    · exact storebound_bind (storebound_report _ _) fun _ ↦ storebound_throw _
    · exact storebound_pure _
  · exact storebound_pure _

theorem storebound_prepare (engine : Engine) (movement : Movement) (amount description : Value) :
    Storebound (prepare engine movement amount description) := by
  unfold prepare
  refine storebound_bind (storebound_checkAmount _ _ _) fun exact ↦ ?_
  refine storebound_bind (storebound_checkText _ _) fun text ↦ ?_
  refine storebound_bind (storebound_checkAccounts _) fun _ ↦ ?_
  refine storebound_bind storebound_drawReference fun reference ↦ ?_
  exact storebound_bind (storebound_ofExcept _) fun _ ↦ storebound_pure _

theorem execute_storage (engine : Engine) (posting : Posting) (ledger : Ledger) :
    (execute engine posting ledger).2.storage =
      match engine.retry with
      | .error _ => ledger.storage
      | .ok retry => ((Try.first posting retry).run ledger.storage).2 := by
  cases tries : engine.retry with
  | error failure => rw [execute_uncounted tries]
  | ok retry =>
    rw [execute_run tries]
    rfl

end Ledger

namespace Request

open Client Work

/-- What a client is, once it has been asked for something. -/
def client (request : Request) (storage : Storage) : Option Client :=
  (request.begin storage).1.map fun progress ↦ { progress }

theorem ends_opening (owner : Option Int) (kind : AccountKind) (storage : Storage) :
    Ends (some { progress := .opening owner kind }) storage
      ((Work.openAccount owner kind).run storage).2 := by
  let client : Client := { progress := .opening owner kind }
  have whole : Work.openAccount owner kind =
      (do let account ← writeOpening owner kind; commit; return id account) := by
    simp only [Work.openAccount, writeOpening, bind_assoc, pure_bind, id]
  have fresh : opened storage = client.session storage := rfl
  rw [run_eq, whole, fresh]
  apply Ends.turn
  simp only [turn, writes]
  rcases committing_cases (writeOpening owner kind) id (client.session storage) with
    ⟨failure, left, ran, ended⟩ | ⟨account, left, ran, ended⟩
  · rw [runs_error ran, ended]
    exact .idle left.storage
  · rw [runs_ok ran, ended]
    exact .idle left.storage

theorem ends_rereading (client : Client) {id : Int} (progress : client.progress = .rereading id)
    (storage : Storage) :
    Ends (some client) storage (load id (client.session storage)).2.storage := by
  apply Ends.turn
  simp only [turn, progress]
  cases loaded : load id (client.session storage) with
  | mk outcome session =>
    cases outcome with
    | error failure =>
      rw [runs_error loaded]
      exact .idle session.storage
    | ok found =>
      rw [runs_ok loaded]
      exact .idle session.storage

/-- The turns of a change of status whose account has been read: all that it writes, and then the account
once more. -/
theorem ends_changing_read (client : Client) {id : Int} {status : AccountStatus} {reason : String}
    {account : Account} (progress : client.progress = .changing id status reason (some account))
    (storage : Storage) :
    Ends (some client) storage
      ((do
        writeStatusChange account status reason
        commit
        return (account.status, (← load id).getD account) : Work (AccountStatus × Account))
          (client.session storage)).2.storage := by
  have parts : (do
      writeStatusChange account status reason
      commit
      return (account.status, (← load id).getD account) : Work (AccountStatus × Account)) =
      (do
        (writeStatusChange account status reason).committing
        return (account.status, (← load id).getD account)) := by
    simp only [committing, bind_assoc]
  rw [parts, run_bind]
  apply Ends.turn
  simp only [turn, progress, writes]
  cases wrote : (writeStatusChange account status reason).committing (client.session storage) with
  | mk outcome left =>
    cases outcome with
    | error failure =>
      rw [runs_error wrote]
      exact .idle left.storage
    | ok _ =>
      rw [runs_ok wrote]
      obtain ⟨_, _, _, committed⟩ := ok_of_bind wrote
      have again := ends_rereading (left.client (.rereading id)) rfl left.storage
      rw [session_client (pending_of_commit committed)] at again
      have same : ((do return (account.status, (← load id).getD account) :
          Work (AccountStatus × Account)) left).2 = (load id left).2 := by
        rw [run_bind]
        cases load id left with
        | mk outcome final => cases outcome <;> rfl
      dsimp only
      rw [same]
      exact again

theorem ends_changing (id : Int) (status : AccountStatus) (reason : String) (storage : Storage) :
    Ends (some { progress := .changing id status reason none }) storage
      ((Work.changeStatus id status reason).run storage).2 := by
  let client : Client := { progress := .changing id status reason none }
  have fresh : opened storage = client.session storage := rfl
  rw [run_eq, fresh, Work.changeStatus, run_bind]
  apply Ends.turn
  simp only [turn]
  cases loaded : load id (client.session storage) with
  | mk outcome session =>
    cases outcome with
    | error failure =>
      rw [runs_error loaded]
      exact .idle session.storage
    | ok found =>
      rw [runs_ok loaded]
      cases found with
      | none => exact .idle session.storage
      | some account =>
        have goesOn := ends_changing_read
          (session.client (.changing id status reason (some account))) rfl session.storage
        rw [session_of_idles (leftByReading_idles.load trivial id) loaded] at goesOn
        exact goesOn

theorem ends_post (engine : Engine) (movement : Movement) (amount description : Value)
    (ledger : Ledger) :
    let request := Request.post engine movement amount description
    (Ledger.post engine movement amount description ledger).2.storage =
        (request.begin ledger.storage).2 ∨
      Ends (request.client ledger.storage) (request.begin ledger.storage).2
        (Ledger.post engine movement amount description ledger).2.storage := by
  obtain ⟨outcome, kept⟩ := Ledger.storebound_prepare engine movement amount description ledger
    { storage := ledger.storage } rfl
  rw [Ledger.post_eq_prepare]
  simp only [client, begin]
  rw [run_bind]
  cases prepared : Ledger.prepare engine movement amount description ledger with
  | mk result after =>
    cases prepared' : Ledger.prepare engine movement amount description
        { storage := ledger.storage } with
    | mk result' after' =>
      rw [prepared, prepared'] at outcome kept
      obtain rfl : result = result' := outcome
      obtain kept : after'.storage = after.storage := kept
      cases result with
      | error failure => exact Or.inl kept.symm
      | ok posting =>
        dsimp only
        rw [run_bind, run_get]
        dsimp only
        generalize held : Locking.hold _ _ _ after = ended
        obtain ⟨outcome, final⟩ := ended
        rcases Ledger.hold_cases held with ⟨failure, -, same⟩ | ⟨locks, locked, same, executed, -⟩
        · left
          rw [show final.storage = after.storage from same, ← kept]
          cases engine.retry <;> rfl
        · have ended : final.storage = (Ledger.execute engine posting locked).2.storage := executed
          rw [Ledger.execute_storage, show locked.storage = after.storage from same, ← kept] at ended
          rw [show (outcome, final).2.storage = _ from ended]
          cases engine.retry with
          | error failure => exact Or.inl rfl
          | ok retry =>
            right
            refine (Try.comes_start posting retry after'.storage).toEnds fun client same ↦ ?_
            cases same
            trivial

/-- A request ends as the turns of its client do, unless it never comes to them. -/
theorem perform_ends (request : Request) (ledger : Ledger) :
    (request.perform ledger).storage = (request.begin ledger.storage).2 ∨
      Ends (request.client ledger.storage) (request.begin ledger.storage).2
        (request.perform ledger).storage := by
  cases request with
  | openAccount owner kind =>
    right
    rw [perform, Ledger.openAccount_storage]
    exact ends_opening owner kind ledger.storage
  | changeStatus id status reason =>
    right
    rw [perform, Ledger.changeStatus_storage]
    exact ends_changing id status reason ledger.storage
  | post engine movement amount description =>
    exact ends_post engine movement amount description ledger

end Request

/-- A client that nobody comes between leaves the store as its turns do one after the other. -/
theorem Client.Ends.run {client : Option Client} {storage after : Storage}
    (ends : Client.Ends client storage after) {world : World} {name : Nat}
    (isClient : world.clients name = client) (isStorage : world.storage = storage) :
    ∃ turns, (world.run (List.replicate turns (.go name))).storage = after ∧
      (world.run (List.replicate turns (.go name))).clients name = none := by
  induction ends generalizing world with
  | idle storage => exact ⟨0, isStorage, isClient⟩
  | turn client storage after _ ih =>
    subst isStorage
    have goes : world.step (.go name) =
        { storage := (client.turn world.storage).storage
          clients := Function.update world.clients name (client.turn world.storage).client
          log := world.log ++
            ((client.turn world.storage).deed.map (·, world.storage.clock)).toList } := by
      simp only [World.step, isClient]
    have isClient' : (world.step (.go name)).clients name = (client.turn world.storage).client := by
      rw [goes]
      exact Function.update_self _ _ _
    have isStorage' : (world.step (.go name)).storage = (client.turn world.storage).storage := by
      rw [goes]
    obtain ⟨turns, left, idle⟩ := ih isClient' isStorage'
    exact ⟨turns + 1, left, idle⟩

/-- If a client is asked for something and nobody comes between its turns, then it leaves the store as the
ledger's own operation does; or the operation ends before the first of them, and the client with it. -/
theorem World.perform_alone (world : World) (name : Nat) (request : Request) (ledger : Ledger)
    (same : ledger.storage = world.storage) :
    let asked := world.step (.ask name request)
    (request.perform ledger).storage = asked.storage ∨
      ∃ turns, (asked.run (List.replicate turns (.go name))).storage =
          (request.perform ledger).storage ∧
        (asked.run (List.replicate turns (.go name))).clients name = none := by
  have comes := request.perform_ends ledger
  rw [same] at comes
  rcases comes with never | ends
  · exact Or.inl never
  · exact Or.inr (ends.run (Function.update_self _ _ _) rfl)

end Passbook
