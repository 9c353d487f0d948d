import Passbook.Proofs.Storage.Writes

/-!
Callers that open units of their own. A `StoreCall` is what a caller may ask of the store inside a unit, and a
unit is a list of such calls, done up to the first that fails. Whatever becomes of a call, it has only looked at
the tables, or has written one row into the unit's own tables, or has made these permanent, or has dropped them
(`StoreCall.goes_work`). Main statement: what each of these four keeps is kept by every list of calls
(`StoreCall.forM_induct`).
-/

set_option autoImplicit false
set_option relaxedAutoImplicit false

namespace Passbook

open Procedure Session Work

/-- What a caller may ask of the store inside a unit of work. -/
inductive StoreCall where
  | load (id : Int)
  | accountNumbered (number : String)
  | accountsOf (owner : Int)
  | addAccount (new : NewAccount)
  | writeBalance (id version : Int) (balance : Value)
  | writeStatus (id version : Int) (status : AccountStatus)
  /-- The record is made first, so one that moves nothing is refused. -/
  | append (record : Record)
  | transaction (id : Int)
  | lookup (reference : Reference)
  | history (account limit : Int)
  | recordEvent (account : Int) (event : AuditEvent)
  | commit
  | rollback
  | letGo
  /-- The caller fails on its own account. -/
  | raise (failure : Failure)
deriving Repr

/-- Makes a record and appends it. -/
def Work.appendNew (record : Record) : Work Record := do
  append (← Procedure.ofExcept record.make)

/-- The work of a call; what it gives the caller is left out. -/
def StoreCall.work : StoreCall → Work Unit
  | .load id => do let _ ← Work.load id
  | .accountNumbered number => do let _ ← Work.accountNumbered number
  | .accountsOf owner => do let _ ← Work.accountsOf owner
  | .addAccount new => do let _ ← Work.addAccount new
  | .writeBalance id version balance => do let _ ← Work.writeBalance id version balance
  | .writeStatus id version status => do let _ ← Work.writeStatus id version status
  | .append record => do let _ ← Work.appendNew record
  | .transaction id => do let _ ← Work.transaction id
  | .lookup reference => do let _ ← Work.lookup reference
  | .history account limit => do let _ ← Work.history account limit
  | .recordEvent account event => Work.recordEvent account event
  | .commit => Work.commit
  | .rollback => Work.rollback
  | .letGo => Work.letGo
  | .raise failure => throw failure

/-- A unit of a caller's own, opened on a store. -/
def StoreCall.unit (calls : List StoreCall) (storage : Storage) : Storage :=
  ((calls.forM work).run storage).2

theorem StoreCall.unit_eq (calls : List StoreCall) (storage : Storage) :
    unit calls storage = (calls.forM work (opened storage)).2.storage :=
  congrArg Prod.snd (run_eq _ storage)

/-! ### What a call comes to -/

/-- A record that was made can be made as it stands. -/
theorem Record.make_ok {record made : Record} (accepted : record.make = .ok made) :
    made = record ∧ Record.check record.movement record.amount = .ok ⟨⟩ := by
  obtain ⟨_, moves, same⟩ := ok_of_bind_except accepted
  exact ⟨(Except.ok.inj same).symm, moves⟩

/-- The tables with the one row that a call writes. -/
inductive Database.Wrote (before : Database) : StoreCall → Database → Prop
  | balance (id version : Int) (given : Value) (row : AccountRow) (cents : Decimal) (after : Database) :
      WritesBalance id version given before after row cents →
      Wrote before (.writeBalance id version given) after
  | status (id version : Int) (status : AccountStatus) (row : AccountRow) :
      before.accountAt? id version = some row →
      Wrote before (.writeStatus id version status)
        (before.replace { row with status, version := row.version + 1 })
  | account (new : NewAccount) (row : AccountRow) (cents : Decimal) :
      Opens new before cents row →
      Wrote before (.addAccount new) { before with accounts := before.accounts ++ [row] }
  | transaction (record : Record) (row : TransactionRow) (cents : Decimal) :
      Record.check record.movement record.amount = .ok ⟨⟩ → Becomes record before cents row →
      Wrote before (.append record) { before with transactions := before.transactions ++ [row] }
  | event (account : Int) (event : AuditEvent) :
      Wrote before (.recordEvent account event)
        { before with audit := before.audit ++ [⟨nextId (before.audit.map (·.id)), account, event⟩] }

/-- What a call comes to between two moments of a unit, whether it fails or not. -/
inductive StoreCall.Goes (call : StoreCall) (before after : Session) : Prop
  | looked : before.Looks after → Goes call before after
  | wrote : before.view.Wrote call after.view → after.storage.database = before.storage.database →
      after.storage.intrusions = before.storage.intrusions → Goes call before after
  | committed : call = .commit → after.view = before.view → after.storage.database = before.view →
      after.storage.intrusions = before.storage.intrusions → Goes call before after
  | rolledBack : call = .rollback → after.view = before.storage.database →
      after.storage.database = before.storage.database →
      after.storage.intrusions = before.storage.intrusions → Goes call before after

namespace StoreCall

variable {call : StoreCall} {Result : Type}

/-- A call that writes at most once comes to that. -/
theorem goes_of_amends {relation : Session → Session → Prop} {spared : Result → Prop}
    {wrote : Except Failure Result → Database → Prop} {work : Work Result} {session : Session}
    (lingers : ∀ before after, relation before after → before.Lingers after)
    (writes : ∀ outcome database, wrote outcome database → session.view.Wrote call database)
    (amends : Amends relation session spared wrote work session) :
    call.Goes session (work session).2 := by
  cases amends with
  | spared outcome after ended same =>
    rw [ended]
    exact .looked (lingers _ _ same).looks
  | wrote outcome middle after database ended same left written =>
    obtain ⟨-, kept, others⟩ := lingers _ _ same
    obtain ⟨view, kept', others'⟩ := lingers _ _ left
    rw [ended]
    refine .wrote ?_ (kept'.trans kept) (others'.trans others)
    rw [view]
    exact writes outcome database written

theorem goes_commit (session : Session) : commit.Goes session (Work.commit session).2 := by
  unfold Work.commit
  rw [run_bind]
  split
  · next refused middle passed =>
    obtain ⟨⟨view, -, -⟩, others⟩ := (stays_pass .commit).of_eq passed
    have acknowledged : (do
        let _ ← pass .acknowledgement
        modify fun session ↦ { session with committed := true } : Work Unit).Leaves Stays :=
      leaves_bind (stays_pass .acknowledgement) fun _ _ ↦ ⟨⟨rfl, rfl, rfl⟩, rfl⟩
    obtain ⟨⟨view', database, -⟩, others'⟩ := acknowledged middle.published
    exact .committed rfl (view'.trans view) (database.trans view) (others'.trans others)
  · next failure middle failed => exact .looked ((stays_pass .commit).of_eq failed).lingers.looks

theorem goes_append (record : Record) (session : Session) :
    (append record).Goes session (appendNew record session).2 := by
  unfold appendNew
  rw [run_bind, run_ofExcept]
  cases making : record.make with
  | error failure => exact .looked (refl_of Looks session)
  | ok made =>
    obtain ⟨rfl, moves⟩ := Record.make_ok making
    refine goes_of_amends (fun _ _ ↦ id) ?_ (amends_append made session)
    rintro outcome _ ⟨row, cents, -, -, becomes, rfl⟩
    exact .transaction made row cents moves becomes

/-- Whatever becomes of a call, it has looked, written one row, made the unit's tables permanent or dropped
them. -/
theorem goes_work (call : StoreCall) (session : Session) : call.Goes session (call.work session).2 := by
  have same {Result : Type} (work : Work Result) :
      ((do let _ ← work : Work Unit) session).2 = (work session).2 :=
    congrArg Prod.snd (run_discard work session)
  have looks {Result : Type} {work : Work Result} (looks : work.Leaves Looks) :
      call.Goes session ((do let _ ← work : Work Unit) session).2 :=
    .looked (same work ▸ looks session)
  cases call with
  | load id => exact looks (leftByReading_looks.load trivial id)
  | accountNumbered number => exact looks (leftByReading_looks.accountNumbered number)
  | accountsOf owner => exact looks (leftByReading_looks.accountsOf owner)
  | transaction id => exact looks (leftByReading_looks.transaction id)
  | lookup reference => exact looks (leftByReading_looks.lookup trivial reference)
  | history account limit => exact looks (leftByReading_looks.history account limit)
  | addAccount new =>
    rw [work, same]
    refine goes_of_amends (fun _ _ ↦ Stays.lingers) ?_ (amends_addAccount new session)
    rintro outcome _ ⟨row, cents, opens, rfl, -⟩
    exact .account new row cents opens
  | writeBalance id version balance =>
    rw [work, same]
    refine goes_of_amends (fun _ _ ↦ Stays.lingers) ?_ (amends_writeBalance id version balance session)
    rintro outcome after ⟨-, row, cents, writes⟩
    exact .balance id version balance row cents after writes
  | writeStatus id version status =>
    rw [work, same]
    refine goes_of_amends (fun _ _ ↦ Stays.lingers) ?_ (amends_writeStatus id version status session)
    rintro outcome _ ⟨-, -, row, found, rfl⟩
    exact .status id version status row found
  | append record =>
    rw [work, same]
    exact goes_append record session
  | recordEvent account event => exact .wrote (.event account event) rfl rfl
  | commit => exact goes_commit session
  | rollback => exact .rolledBack rfl rfl rfl rfl
  | letGo => exact .looked (Lingers.looks ⟨rfl, rfl, rfl⟩)
  | raise failure => exact .looked (refl_of Looks session)

/-- A relation that every step of reading and of writing leaves, and that holds across making permanent what the unit
sees, dropping what is pending and letting go of what is held, is left by every call. -/
theorem leaves_work {relation : Session → Session → Prop} [IsPreorder Session relation]
    (left : LeftByWriting (fun _ ↦ True) relation) (publishes : ∀ session, relation session session.published)
    (acknowledges : ∀ session, relation session { session with committed := true })
    (drops : ∀ session, relation session session.rolledBack)
    (releases : ∀ session, relation session { session with loaded := [] }) (call : StoreCall) :
    call.work.Leaves relation := by
  have gives {Result : Type} {work : Work Result} (leaves : work.Leaves relation) :
      (do let _ ← work : Work Unit).Leaves relation :=
    leaves_bind leaves fun _ ↦ leaves_pure _
  cases call with
  | load id => exact gives (left.load trivial id)
  | accountNumbered number => exact gives (left.accountNumbered number)
  | accountsOf owner => exact gives (left.accountsOf owner)
  | addAccount new => exact gives (left.addAccount new)
  | writeBalance id version balance => exact gives (left.writeBalance trivial id version balance)
  | writeStatus id version status => exact gives (left.writeStatus trivial id version status)
  | append record => exact gives (leaves_bind (leaves_ofExcept _) fun made ↦ left.append trivial made)
  | transaction id => exact gives (left.transaction id)
  | lookup reference => exact gives (left.lookup trivial reference)
  | history account limit => exact gives (left.history account limit)
  | recordEvent account event => exact left.recordEvent account event
  | commit =>
    refine leaves_bind (left.toLeftByReading.pass .commit trivial) fun _ ↦ ?_
    refine leaves_bind publishes fun _ ↦ ?_
    exact leaves_bind (left.toLeftByReading.pass .acknowledgement trivial) fun _ ↦ acknowledges
  | rollback => exact drops
  | letGo => exact releases
  | raise failure => exact leaves_throw failure

/-- A unit after calls whose caller goes on after each of them, whether it has failed or not. Behind a row that the
tables have refused to add, a store may have dropped what is pending and refuse every call up to a rollback: that is
the unit with a rollback in this place and without the calls in between. -/
def afterAll (calls : List StoreCall) (session : Session) : Session :=
  calls.foldl (fun session call ↦ (call.work session).2) session

theorem forM_cons (call : StoreCall) (rest : List StoreCall) (session : Session) :
    (call :: rest).forM work session = (call.work >>= fun _ ↦ rest.forM work) session :=
  rfl

/-- What is kept by every call of a list is kept by the list, however far that is done. -/
theorem forM_induct {calls : List StoreCall} (property : Session → Prop)
    (kept : ∀ call ∈ calls, ∀ before after, property before → call.Goes before after → property after)
    {session : Session} (begins : property session) : property (calls.forM work session).2 := by
  induction calls generalizing session with
  | nil => exact begins
  | cons call rest ih =>
    have next := kept call List.mem_cons_self session _ begins (goes_work call session)
    rw [forM_cons, run_bind]
    split
    · next value middle done =>
      rw [done] at next
      exact ih (fun other member ↦ kept other (List.mem_cons_of_mem _ member)) next
    · next failure middle failed =>
      rw [failed] at next
      exact next

end StoreCall

end Passbook
