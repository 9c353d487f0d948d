import Passbook.Proofs.History.Steps

/-!
The history only grows, and what a request does not name stays as it is. `Database.Records` says that
transactions were only added, under larger ids than those before them; it goes from the parts of a try to
all tries of a movement (`Ledger.post_records`). `Request.Frames` says what a request leaves alone: the rows
of the history, whose accounts there are and who owns them, the accounts that it does not name, the statuses
if it moves money and the balances if it does not. Main statement: every request does so in every state that
requests lead to, and along a whole run the history is never rewritten (`Reached.append_only`).
-/

set_option autoImplicit false
set_option relaxedAutoImplicit false

namespace Passbook

open Procedure Session

/-! ### Transactions under new ids -/

/-- Transactions were only added, each under a larger id than all that there were. -/
def Database.Records (before after : Database) : Prop :=
  ∃ added, after.transactions = before.transactions ++ added ∧
    ∀ row ∈ added, ∀ other ∈ before.transactions, other.id < row.id

namespace Database.Records

variable {before middle after : Database}

theorem of_same (same : after.transactions = before.transactions) : before.Records after :=
  ⟨[], by rw [same, List.append_nil], fun _ member ↦ by cases member⟩

theorem trans (begins : before.Records middle) (goesOn : middle.Records after) :
    before.Records after := by
  obtain ⟨first, recorded, above⟩ := begins
  obtain ⟨second, recorded', above'⟩ := goesOn
  refine ⟨first ++ second, by rw [recorded', recorded, List.append_assoc], ?_⟩
  intro row member other there
  rcases List.mem_append.1 member with earlier | later
  · exact above row earlier other there
  · exact above' row later other (recorded ▸ List.mem_append_left first there)

end Database.Records

namespace Work

variable {posting : Posting} {cents : Int}

/-- What is applied in a unit is recorded under the next id. -/
theorem applyPosting_records {session after : Session} {record : Record} (alone : session.IsAlone)
    (moves : posting.Moves cents)
    (applied : applyPosting posting session = (.ok record, after)) :
    session.view.Records after.view := by
  unfold applyPosting at applied
  obtain ⟨read, middle, reading, wrote⟩ := ok_of_bind applied
  obtain ⟨drafts, reads⟩ := (leaves_readLegs posting).of_eq reading
  obtain ⟨legs, -⟩ := readLegs_legs reading
  obtain ⟨changes, database, id, -, -, rebalanced, -, view, -, next⟩ :=
    writePosting_parts moves legs wrote
  rw [← (reads alone).1]
  refine ⟨[rowOf posting.record posting.reference posting.amount id middle.storage.clock], ?_, ?_⟩
  · rw [view, ← rebalanced.transactions]
    rfl
  · intro row member other there
    obtain rfl := List.mem_singleton.1 member
    change other.id < id
    rw [next]
    exact Database.lt_nextId (List.mem_map_of_mem there)

/-- A unit that has written nothing yet leaves the history as it was or with one more row. -/
theorem applyAndCommit_records {session after : Session} {outcome : Except Failure Posted}
    (alone : session.IsAlone) (fresh : session.view = session.storage.database)
    (moves : posting.Moves cents) (ran : applyAndCommit posting session = (outcome, after)) :
    session.storage.database.Records after.storage.database := by
  unfold applyAndCommit at ran
  rcases cases_of_bind ran with ⟨failure, failed, -⟩ | ⟨record, middle, applied, ran⟩
  · obtain ⟨-, same, -⟩ := (leaves_applyPosting posting).of_eq failed alone
    exact .of_same (congrArg Database.transactions same)
  obtain ⟨alone', same, -⟩ := (leaves_applyPosting posting).of_eq applied alone
  have records := applyPosting_records alone moves applied
  rw [fresh] at records
  have committed : after.storage.database = middle.storage.database ∨
      after.storage.database = middle.view := by
    rcases cases_of_bind ran with ⟨failure, committed, -⟩ | ⟨_, _, committed, returned⟩
    · exact commit_database committed
    · obtain ⟨-, rfl⟩ := Prod.mk.inj returned
      exact commit_database committed
  rcases committed with unchanged | published
  · exact .of_same (congrArg Database.transactions (unchanged.trans same))
  · exact published ▸ records

theorem tryPosting_records {storage after : Storage} {outcome : Except Failure Posted}
    (alone : storage.intrusions = []) (moves : posting.Moves cents) {repeated : Bool}
    (ran : (tryPosting posting repeated).run storage = (outcome, after)) :
    storage.database.Records after.database := by
  rw [run_eq] at ran
  obtain ⟨rfl, rfl⟩ := Prod.mk.inj ran
  have isAlone : (opened storage).IsAlone := alone
  unfold tryPosting
  cases repeated with
  | false => exact applyAndCommit_records isAlone rfl moves rfl
  | true =>
    rw [if_pos rfl, run_bind]
    cases looked : lookup posting.reference (opened storage) with
    | mk result middle =>
      obtain ⟨drafts, reads⟩ := (leaves_lookup posting.reference).of_eq looked
      obtain ⟨alone', same, -⟩ := drafts isAlone
      have kept : storage.database.Records middle.storage.database :=
        .of_same (congrArg Database.transactions same)
      cases result with
      | error failure => exact kept
      | ok known =>
        cases known with
        | some record => exact kept
        | none =>
          have fresh : middle.view = middle.storage.database := (reads isAlone).1.trans same.symm
          exact kept.trans (applyAndCommit_records alone' fresh moves rfl)

end Work

/-- However often a movement is tried, transactions are only added under new ids. -/
theorem Ledger.execute_records (engine : Engine) {posting : Posting} {cents : Int} {ledger : Ledger}
    (alone : ledger.storage.intrusions = []) (moves : posting.Moves cents) :
    ledger.storage.database.Records (execute engine posting ledger).2.storage.database := by
  cases tries : engine.retry with
  | error failure =>
    rw [execute_uncounted tries]
    exact .of_same rfl
  | ok retry =>
    rw [execute_run tries]
    refine Retry.runFrom_induct
      (motive := fun before after _ ↦
        before.intrusions = [] → before.database.Records after.database)
      ?_ ?_ ?_ (retry.maxAttempts - 1) 1 ledger.storage alone
    · intro number before after posted tried alone
      exact Work.tryPosting_records alone moves tried
    · intro number before after failure final tried alone
      exact Work.tryPosting_records alone moves tried
    · intro number before middle after failure outcome tried goesOn alone
      exact (Work.tryPosting_records alone moves tried).trans
        (goesOn (Work.tryPosting_tried alone moves tried).1)

/-- Moving money adds transactions under new ids, if any. -/
theorem Ledger.post_records (engine : Engine) (movement : Movement) (amount description : Value)
    {ledger : Ledger} (alone : ledger.storage.intrusions = []) :
    ledger.storage.database.Records
      (post engine movement amount description ledger).2.storage.database := by
  rcases post_executes engine movement amount description (Prod.eta _).symm with
    ⟨failure, serial, -, storage⟩ | ⟨posting, cents, serial, locked, -, -, moves, storage, same, -⟩
  · rw [storage]
    exact .of_same rfl
  · rw [same]
    have alone' : locked.storage.intrusions = [] := by
      rw [storage]
      exact alone
    have records := execute_records engine alone' moves
    rw [storage] at records
    exact records

/-! ### What a request leaves alone -/

/-- What of an account is settled when it is opened. -/
def AccountRow.identity (row : AccountRow) : Int × String × Int × AccountKind :=
  (row.id, row.number, row.owner, row.kind)

namespace Request

/-- Whether a request moves money. -/
def movesMoney : Request → Bool
  | .post .. => true
  | .openAccount .. | .changeStatus .. => false

/-- Whether a request opens an account. -/
def opens : Request → Bool
  | .openAccount .. => true
  | .changeStatus .. | .post .. => false

/-- The accounts that a request names. -/
def accounts : Request → List Int
  | .openAccount .. => []
  | .changeStatus id _ _ => [id]
  | .post _ movement _ _ => movement.accounts

/-- What a request leaves alone. -/
structure Frames (request : Request) (before after : Database) : Prop where
  /-- At most one row is added to the history, under a larger id than all others of its table. -/
  history : ∃ posted audited, after.transactions = before.transactions ++ posted ∧
    after.audit = before.audit ++ audited ∧ posted.length + audited.length ≤ 1 ∧
    (∀ row ∈ posted, ∀ other ∈ before.transactions, other.id < row.id) ∧
    (∀ row ∈ audited, ∀ other ∈ before.audit, other.id < row.id) ∧
    (if request.movesMoney then audited = [] else posted = [])
  /-- The accounts are the same, and only an opening adds one. -/
  identities : ∃ new, new.length ≤ 1 ∧ (request.opens = false → new = []) ∧
    after.accounts.map (·.identity) = before.accounts.map (·.identity) ++ new
  others : ∀ row ∈ before.accounts, row.id ∉ request.accounts → row ∈ after.accounts
  statuses : request.movesMoney = true →
    after.accounts.map (fun row ↦ (row.id, row.status)) =
      before.accounts.map fun row ↦ (row.id, row.status)
  balances : request.movesMoney = false →
    before.accounts.map (fun row ↦ (row.id, row.balance)) <+:
      after.accounts.map fun row ↦ (row.id, row.balance)

end Request

namespace Database

variable {before after : Database}

/-- What is read off every account is the same if it is so under every id. -/
theorem map_accounts_eq {Image : Type} (image : AccountRow → Image)
    (keys : (before.accounts.map (·.id)).Nodup)
    (ids : after.accounts.map (·.id) = before.accounts.map (·.id))
    (same : ∀ id row, after.account? id = some row →
      ∃ old, before.account? id = some old ∧ image row = image old) :
    after.accounts.map image = before.accounts.map image := by
  have byId (database : Database) (keys : (database.accounts.map (·.id)).Nodup) :
      (database.accounts.map image).map some =
        (database.accounts.map (·.id)).map fun id ↦ (database.account? id).map image := by
    rw [List.map_map, List.map_map]
    refine List.map_congr_left fun row member ↦ ?_
    exact (congrArg (Option.map image) (account?_of_mem keys member)).symm
  have keys' : (after.accounts.map (·.id)).Nodup := ids ▸ keys
  refine List.map_injective_iff.2 (Option.some_injective _) ?_
  rw [byId after keys', byId before keys, ← ids]
  refine List.map_congr_left fun id member ↦ ?_
  obtain ⟨row, isRow, rfl⟩ := List.mem_map.1 member
  have found := account?_of_mem keys' isRow
  obtain ⟨old, there, agrees⟩ := same _ _ found
  rw [found, there, Option.map_some, Option.map_some, agrees]

end Database

namespace Request.Frames

variable {before after : Database}

theorem of_same (request : Request) (database : Database) : request.Frames database database where
  history := ⟨[], [], by simp, by simp, by simp, by simp, by simp, by simp⟩
  identities := ⟨[], by simp, by simp, by simp⟩
  others _ member _ := member
  statuses _ := rfl
  balances _ := List.prefix_rfl

theorem opened {owner : Option Int} {kind : AccountKind} {new : AccountRow}
    (opened : before.Opened new after) : (openAccount owner kind).Frames before after := by
  refine ⟨⟨[], _, ?_, opened.audit, Nat.le_refl 1, by simp, ?_, rfl⟩, ?_, ?_, nofun, ?_⟩
  · rw [opened.transactions, List.append_nil]
  · intro row member other there
    obtain rfl := List.mem_singleton.1 member
    exact Database.lt_nextId (List.mem_map_of_mem there)
  · refine ⟨[new.identity], Nat.le_refl 1, nofun, ?_⟩
    rw [opened.accounts, List.map_append]
    rfl
  · intro row member _
    rw [opened.accounts]
    exact List.mem_append_left _ member
  · intro _
    rw [opened.accounts, List.map_append]
    exact List.prefix_append _ _

theorem statusChanged {id : Int} {status : AccountStatus} {reason : String} {old : AccountRow}
    (keys : (before.accounts.map (·.id)).Nodup)
    (changed : before.StatusChanged id status reason old after) :
    (changeStatus id status reason).Frames before after := by
  have images {Image : Type} (image : AccountRow → Image)
      (kept : image (Database.withStatus old status) = image old) :
      after.accounts.map image = before.accounts.map image := by
    refine Database.map_accounts_eq image keys changed.ids fun other row found ↦ ?_
    rcases changed.account?_cases found with ⟨-, there⟩ | ⟨rfl, rfl⟩
    · exact ⟨row, there, rfl⟩
    · exact ⟨old, changed.found, kept⟩
  refine ⟨⟨[], _, ?_, changed.audit, Nat.le_refl 1, by simp, ?_, rfl⟩, ?_, ?_, nofun, ?_⟩
  · rw [changed.transactions, List.append_nil]
  · intro row member other there
    obtain rfl := List.mem_singleton.1 member
    exact Database.lt_nextId (List.mem_map_of_mem there)
  · refine ⟨[], Nat.zero_le 1, fun _ ↦ rfl, ?_⟩
    rw [List.append_nil]
    exact images _ rfl
  · intro row member outside
    have found := Database.account?_of_mem keys member
    have differ : row.id ≠ id := by simpa [Request.accounts] using outside
    have same : after.account? row.id = before.account? row.id := by
      rw [changed.account?, if_neg differ]
    rw [← same] at found
    exact (Database.mem_of_account? found).1
  · intro _
    exact images (fun row ↦ (row.id, row.balance)) rfl ▸ List.prefix_rfl

theorem posted {engine : Engine} {movement : Movement} {amount description : Value}
    {posting : Posting} {cents : Int} {new : TransactionRow}
    (keys : (before.accounts.map (·.id)).Nodup) (asked : posting.movement = movement)
    (records : before.Records after) (posted : before.Posted posting cents new after) :
    (post engine movement amount description).Frames before after := by
  have images {Image : Type} (image : AccountRow → Image)
      (kept : ∀ old balance, image (Database.withBalance old balance) = image old) :
      after.accounts.map image = before.accounts.map image := by
    refine Database.map_accounts_eq image keys posted.ids fun id row found ↦ ?_
    obtain ⟨old, there, ⟨-, rfl⟩ | ⟨-, balance, rfl⟩⟩ := posted.account?_cases found
    · exact ⟨row, there, rfl⟩
    · exact ⟨old, there, kept old balance⟩
  obtain ⟨added, recorded, above⟩ := records
  obtain rfl : added = [new] := List.append_cancel_left (recorded.symm.trans posted.recorded)
  refine ⟨⟨[new], [], recorded, ?_, Nat.le_refl 1, above, by simp, rfl⟩, ?_, ?_, ?_, nofun⟩
  · rw [posted.audit, List.append_nil]
  · refine ⟨[], Nat.zero_le 1, fun _ ↦ rfl, ?_⟩
    rw [List.append_nil]
    exact images _ fun _ _ ↦ rfl
  · intro row member outside
    have found := Database.account?_of_mem keys member
    have outside' : row.id ∉ posting.movement.accounts := asked ▸ outside
    rw [← posted.others _ outside'] at found
    exact (Database.mem_of_account? found).1
  · intro _
    exact images (fun row ↦ (row.id, row.status)) fun _ _ ↦ rfl

end Request.Frames

/-- Every request leaves alone what it should, in tables with one row for each account. -/
theorem Request.frames {ledger : Ledger} (keys : (ledger.storage.database.accounts.map (·.id)).Nodup)
    (alone : ledger.storage.intrusions = []) (request : Request) :
    request.Frames ledger.storage.database (request.perform ledger).storage.database := by
  rcases request.perform_cases alone with same | done
  · rw [same]
    exact .of_same request _
  · cases done with
    | opened _ _ row opened => exact .opened opened
    | statusChanged _ _ _ old changed => exact .statusChanged keys changed
    | posted engine movement amount description row applied =>
      obtain ⟨posting, cents, asked, -, -, posted⟩ := applied
      exact .posted keys asked.movement
        (Ledger.post_records engine movement amount description alone) posted

/-! ### Runs -/

/-- Tables that requests lead to from others. -/
inductive Database.Leads (first : Database) : Database → Prop where
  | none : Leads first first
  | request (ledger : Ledger) (request : Request) : Leads first ledger.storage.database →
      ledger.storage.intrusions = [] → Leads first (request.perform ledger).storage.database

/-- The history of other tables goes on from these, and their accounts are still there. -/
structure Database.Continues (first last : Database) : Prop where
  transactions : first.transactions <+: last.transactions
  audit : first.audit <+: last.audit
  identities : first.accounts.map (·.identity) <+: last.accounts.map (·.identity)

theorem Request.Frames.continues {request : Request} {before after : Database}
    (frames : request.Frames before after) : before.Continues after := by
  obtain ⟨posted, audited, transactions, audit, -⟩ := frames.history
  obtain ⟨new, -, -, identities⟩ := frames.identities
  exact ⟨⟨posted, transactions.symm⟩, ⟨audited, audit.symm⟩, ⟨new, identities.symm⟩⟩

theorem Database.Continues.trans {first second third : Database} (begins : first.Continues second)
    (goesOn : second.Continues third) : first.Continues third :=
  ⟨begins.transactions.trans goesOn.transactions, begins.audit.trans goesOn.audit,
    begins.identities.trans goesOn.identities⟩

theorem Reached.leads {first last : Database} (reached : Reached first) (leads : first.Leads last) :
    Reached last := by
  induction leads with
  | none => exact reached
  | request ledger request _ alone ih => exact .request ledger request ih alone

/-- In every state that requests lead to, wherever the store fails, a request adds at most one row to the
history and leaves alone what it should, and an inquiry changes nothing; and from there on no row of the
history is ever rewritten or lost, and no account disappears or changes its id, number, owner or kind. -/
theorem Reached.append_only {database : Database} (reached : Reached database) :
    (∀ (ledger : Ledger) (request : Request), ledger.storage.database = database →
      ledger.storage.intrusions = [] →
        request.Frames database (request.perform ledger).storage.database) ∧
    (∀ (ledger : Ledger) (inquiry : Inquiry), ledger.storage.database = database →
      ledger.storage.intrusions = [] → (inquiry.perform ledger).storage.database = database) ∧
    ∀ later, database.Leads later → database.Continues later := by
  refine ⟨?_, ?_, fun later leads ↦ ?_⟩
  · rintro ledger request rfl alone
    exact request.frames reached.reconciled.keys alone
  · rintro ledger inquiry rfl alone
    exact inquiry.perform_database alone
  · induction leads with
    | none => exact ⟨List.prefix_rfl, List.prefix_rfl, List.prefix_rfl⟩
    | request ledger request leads alone ih =>
      have frames := request.frames (reached.leads leads).reconciled.keys alone
      exact ih.trans frames.continues

/-- A deposit of which the commit goes unreported is found by its second try, and was recorded once. -/
theorem Reached.append_only_unreported :
    let first := (Request.openAccount (some 1) .checking).perform {}
    let disturbed : Ledger := { first with
      storage := { first.storage with faults := [{ place := .acknowledgement, what := .trouble }] } }
    let request := Request.post (Ledger.trying 2 (by decide)) (.deposit 1) (.text "12.34") (.text "")
    let last := (request.perform disturbed).storage.database
    last.transactions.map (·.amount) = ["12.34"] ∧ request.Frames first.storage.database last ∧
      first.storage.database.Continues last := by
  intro first disturbed request last
  have reached : Reached first.storage.database := .request {} _ .empty rfl
  have alone : disturbed.storage.intrusions = [] := by decide +kernel
  obtain ⟨frames, -, continues⟩ := reached.append_only
  exact ⟨by decide +kernel, frames disturbed request rfl alone,
    continues last (.request disturbed request .none alone)⟩

end Passbook
