import Passbook.Proofs.Clients.World

/-!
What a client comes to with a posting. A turn of a client that posts either leaves it at work or gives the
outcome of the whole posting (`Client.serve`); but for the outcome it is the turn that the world knows
(`Client.serve_turn`). Main statement: a client that nobody comes between comes to what all tries of its posting
come to (`Try.comes_start`).
-/

set_option autoImplicit false
set_option relaxedAutoImplicit false

namespace Passbook

open Procedure Session

/-! ### Turns with an outcome -/

/-- What a turn of a client that posts comes to: it is still at work, or its posting has ended. -/
inductive Served where
  | goesOn (client : Client)
  | ends (outcome : Except Failure Record)

/-- The client that is still at work. -/
def Served.client? : Served → Option Client
  | .goesOn client => some client
  | .ends _ => none

/-- What a failed try comes to: another one behind a pause, or the outcome of all of them. -/
def Try.served (attempt : Try) (failure : Failure) : Served :=
  match attempt.retry.verdict (.ofPosting attempt.posting) attempt.number failure with
  | .final last _ => .ends (.error last)
  | .again _ =>
    match attempt.more with
    | 0 => .ends (.error failure)
    | more + 1 =>
      match attempt.retry.pause attempt.number with
      | .error last => .ends (.error last)
      | .ok _ => .goesOn { progress := .looking { attempt with number := attempt.number + 1, more } }

namespace Client

variable {Result : Type} {client : Client} {storage : Storage}

/-- A turn in which a client that posts runs a part of its unit. After a failure the unit is over. -/
def serves (client : Client) (storage : Storage) (part : Work Result)
    (next : Result → Session → Served) (failed : Failure → Served) : Served × Storage :=
  match part (client.session storage) with
  | (.ok result, session) => (next result session, session.storage)
  | (.error failure, session) => (failed failure, session.storage)

/-- One turn of a client that posts; others do not turn here. -/
def serve (client : Client) (storage : Storage) : Served × Storage :=
  match client.progress with
  | .looking attempt =>
    client.serves storage (Work.lookup attempt.posting.reference)
      (fun found session ↦
        match found with
        | some record => .ends (.ok record)
        | none => .goesOn (session.client attempt.start))
      attempt.served
  | .posting attempt read ((id, direction) :: rest) =>
    client.serves storage (Work.loadActive id)
      (fun account session ↦
        .goesOn (session.client (.posting attempt (read ++ [(account, direction)]) rest)))
      attempt.served
  | .posting attempt read [] =>
    let writes : Work Work.Posted := do
      let record ← Work.writePosting attempt.posting read
      Work.commit
      return .applied record
    client.serves storage writes (fun posted _ ↦ .ends (.ok posted.record)) attempt.served
  | .changing .. | .rereading _ | .opening .. => (.goesOn client, storage)

/-- A client that is at a posting. -/
def Posts (client : Client) : Prop :=
  match client.progress with
  | .looking _ | .posting .. => True
  | .changing .. | .rereading _ | .opening .. => False

theorem serves_ok {part : Work Result} {result : Result} {session : Session}
    (ran : part (client.session storage) = (.ok result, session)) (next : Result → Session → Served)
    (failed : Failure → Served) :
    client.serves storage part next failed = (next result session, session.storage) := by
  rw [serves, ran]

theorem serves_error {part : Work Result} {failure : Failure} {session : Session}
    (ran : part (client.session storage) = (.error failure, session))
    (next : Result → Session → Served) (failed : Failure → Served) :
    client.serves storage part next failed = (failed failure, session.storage) := by
  rw [serves, ran]

theorem runs_ok {part : Work Result} {result : Result} {session : Session}
    (ran : part (client.session storage) = (.ok result, session)) (next : Result → Option Progress)
    (failed : Failure → Option Progress) :
    client.runs storage part next failed =
      { client := (next result).map session.client, storage := session.storage } := by
  rw [runs, ran]

theorem runs_error {part : Work Result} {failure : Failure} {session : Session}
    (ran : part (client.session storage) = (.error failure, session))
    (next : Result → Option Progress) (failed : Failure → Option Progress) :
    client.runs storage part next failed =
      { client := (failed failure).map fun progress ↦ { progress }, storage := session.storage } := by
  rw [runs, ran]

/-- Writes that are made permanent end as a unit does that gives something afterwards. -/
theorem committing_cases {Other : Type} (writes : Work Result) (give : Result → Other)
    (session : Session) :
    let whole := (do let result ← writes; Work.commit; return give result : Work Other) session
    (∃ failure left, writes.committing session = (.error failure, left) ∧
        whole = (.error failure, left)) ∨
      ∃ result left, writes.committing session = (.ok ⟨⟩, left) ∧ whole = (.ok (give result), left) := by
  dsimp only
  rw [Work.committing, run_bind, run_bind]
  cases writes session with
  | mk outcome written =>
    cases outcome with
    | error failure => exact Or.inl ⟨failure, written, rfl, rfl⟩
    | ok result =>
      dsimp only
      rw [run_bind]
      cases committed : Work.commit written with
      | mk outcome left =>
        cases outcome with
        | error failure => exact Or.inl ⟨failure, left, rfl, rfl⟩
        | ok _ => exact Or.inr ⟨result, left, rfl, rfl⟩

/-- A unit in which nothing is pending goes on as it is. -/
theorem session_client {session : Session} (nothing : session.pending = none)
    (progress : Progress) : (session.client progress).session session.storage = session := by
  obtain ⟨storage, pending, connected, loaded, committed⟩ := session
  obtain rfl : pending = none := nothing
  rfl

/-- After a part that wrote nothing the unit goes on as it is. -/
theorem session_of_idles {part : Work Result} (idles : part.Leaves Idles) {result : Result}
    {session : Session} (ran : part (client.session storage) = (.ok result, session))
    (progress : Progress) : (session.client progress).session session.storage = session :=
  session_client (idles.of_eq ran) progress

/-- A client that has another try is at it as it would be without an outcome. -/
theorem client?_served (attempt : Try) (failure : Failure) :
    (attempt.served failure).client? =
      (attempt.failed failure).map fun progress ↦ { progress } := by
  unfold Try.served Try.failed
  cases attempt.retry.verdict (.ofPosting attempt.posting) attempt.number failure with
  | final last notices => rfl
  | again notice =>
    dsimp only
    cases attempt.more with
    | zero => rfl
    | succ more =>
      dsimp only
      cases attempt.retry.pause attempt.number <;> rfl

/-- But for the outcome, a turn of a client that posts is the one that the world knows. -/
theorem serve_turn (posts : client.Posts) (storage : Storage) :
    (client.turn storage).client = (client.serve storage).1.client? ∧
      (client.turn storage).storage = (client.serve storage).2 := by
  unfold Posts at posts
  cases progress : client.progress with
  | looking attempt =>
    simp only [turn, serve, progress]
    cases looked : Work.lookup attempt.posting.reference (client.session storage) with
    | mk outcome session =>
      cases outcome with
      | error failure =>
        rw [runs_error looked, serves_error looked]
        exact ⟨(client?_served attempt failure).symm, rfl⟩
      | ok found =>
        rw [runs_ok looked, serves_ok looked]
        cases found <;> exact ⟨rfl, rfl⟩
  | posting attempt read rest =>
    cases rest with
    | nil =>
      simp only [turn, serve, progress, writes]
      rcases committing_cases (Work.writePosting attempt.posting read) Work.Posted.applied
        (client.session storage) with ⟨failure, left, ran, whole⟩ | ⟨record, left, ran, whole⟩
      · rw [runs_error ran, serves_error whole]
        exact ⟨(client?_served attempt failure).symm, rfl⟩
      · rw [runs_ok ran, serves_ok whole]
        exact ⟨rfl, rfl⟩
    | cons leg rest =>
      obtain ⟨id, direction⟩ := leg
      simp only [turn, serve, progress]
      cases loaded : Work.loadActive id (client.session storage) with
      | mk outcome session =>
        cases outcome with
        | error failure =>
          rw [runs_error loaded, serves_error loaded]
          exact ⟨(client?_served attempt failure).symm, rfl⟩
        | ok account =>
          rw [runs_ok loaded, serves_ok loaded]
          exact ⟨rfl, rfl⟩
  | changing | rereading | opening => simp only [progress] at posts

/-- A client that has another try is at a posting. -/
theorem posts_of_served {attempt : Try} {failure : Failure} {later : Client}
    (again : attempt.served failure = .goesOn later) : later.Posts := by
  unfold Try.served at again
  split at again
  · cases again
  · split at again
    · cases again
    · split at again <;> cases again
      trivial

theorem posts_of_serves {part : Work Result} {next : Result → Session → Served} {attempt : Try}
    {later : Client} {after : Storage}
    (goesOn : ∀ result session, next result session = .goesOn later → later.Posts)
    (served : client.serves storage part next attempt.served = (.goesOn later, after)) :
    later.Posts := by
  unfold serves at served
  split at served
  · exact goesOn _ _ (Prod.mk.inj served).1
  · exact posts_of_served (Prod.mk.inj served).1

/-- A client that is still at work after a turn is still at its posting. -/
theorem Posts.serve (posts : client.Posts) {later : Client} {after : Storage}
    (served : client.serve storage = (.goesOn later, after)) : later.Posts := by
  unfold Posts at posts
  unfold Client.serve at served
  cases progress : client.progress with
  | looking attempt =>
    rw [progress] at served
    refine posts_of_serves (fun found session goesOn ↦ ?_) served
    cases found <;> cases goesOn
    trivial
  | posting attempt read rest =>
    rw [progress] at served
    cases rest with
    | nil =>
      dsimp only at served
      refine posts_of_serves (fun posted session goesOn ↦ ?_) served
      cases goesOn
    | cons leg rest =>
      refine posts_of_serves (fun account session goesOn ↦ ?_) served
      cases goesOn
      trivial
  | changing | rereading | opening => simp only [progress] at posts

end Client

/-! ### A client on its own -/

/-- A client that takes one turn after the other comes to an outcome, and leaves a store. -/
inductive Served.Comes : Served → Storage → Except Failure Record → Storage → Prop
  | ends (outcome : Except Failure Record) (storage : Storage) :
    Comes (.ends outcome) storage outcome storage
  | turn (client : Client) (storage : Storage) (outcome : Except Failure Record) (after : Storage) :
    Comes (client.serve storage).1 (client.serve storage).2 outcome after →
    Comes (.goesOn client) storage outcome after

namespace Try

open Client Work Served

variable {attempt : Try} {storage after : Storage} {outcome : Except Failure Record}

/-- What is left of a try of which some accounts have been read. -/
def unit (attempt : Try) (read : List (Account × Direction)) (rest : List (Int × Direction)) :
    Work Posted := do
  let later ← rest.mapM fun (id, direction) ↦ do return (← loadActive id, direction)
  let record ← writePosting attempt.posting (read ++ later)
  commit
  return .applied record

theorem applyAndCommit_eq_unit (attempt : Try) :
    applyAndCommit attempt.posting = attempt.unit [] attempt.posting.movement.legs := by
  simp only [applyAndCommit, applyPosting, readLegs, unit, bind_assoc, List.nil_append]

/-- What a client is at after a try. -/
def follow (attempt : Try) : Except Failure Posted → Served
  | .ok posted => .ends (.ok posted.record)
  | .error failure => attempt.served failure

/-- The turns of a try of which some accounts have been read do what is left of it. -/
theorem comes_unit {client : Client} {read : List (Account × Direction)}
    {rest : List (Int × Direction)} (progress : client.progress = .posting attempt read rest)
    (goesOn : Comes (attempt.follow (attempt.unit read rest (client.session storage)).1)
      (attempt.unit read rest (client.session storage)).2.storage outcome after) :
    Comes (.goesOn client) storage outcome after := by
  induction rest generalizing client read storage with
  | nil =>
    apply Comes.turn
    simp only [serve, progress]
    simp only [unit, List.mapM_nil, pure_bind, List.append_nil] at goesOn
    generalize ran : (do
      let record ← writePosting attempt.posting read
      commit
      return .applied record : Work Posted) (client.session storage) = ended at goesOn
    obtain ⟨outcome, session⟩ := ended
    cases outcome with
    | error failure =>
      rw [serves_error ran]
      exact goesOn
    | ok posted =>
      rw [serves_ok ran]
      exact goesOn
  | cons leg rest ih =>
    obtain ⟨id, direction⟩ := leg
    apply Comes.turn
    simp only [serve, progress]
    simp only [unit, List.mapM_cons, bind_assoc, pure_bind] at goesOn
    rw [run_bind] at goesOn
    cases loaded : loadActive id (client.session storage) with
    | mk outcome session =>
      rw [loaded] at goesOn
      cases outcome with
      | error failure =>
        rw [serves_error loaded]
        exact goesOn
      | ok account =>
        rw [serves_ok loaded]
        refine ih rfl ?_
        rw [session_of_idles (leftByReading_idles.loadActive trivial id) loaded]
        simpa only [unit, List.append_assoc, List.singleton_append] using goesOn

/-- What a try and all those after it come to. -/
def run (attempt : Try) (storage : Storage) : (Except Failure Record × Journal) × Storage :=
  attempt.retry.runFrom (.ofPosting attempt.posting) (Retry.tries attempt.posting) attempt.more
    attempt.number storage

/-- A client whose try has ended comes to what the tries after it come to, if it would from the next. -/
theorem comes_follow {tried : Except Failure Posted} {middle : Storage}
    (ran : Retry.tries attempt.posting attempt.number storage = (tried, middle))
    (again : ∀ more, attempt.more = more + 1 →
      let next : Try := { attempt with number := attempt.number + 1, more }
      Comes (.goesOn { progress := .looking next }) middle (next.run middle).1.1 (next.run middle).2) :
    Comes (attempt.follow tried) middle (attempt.run storage).1.1 (attempt.run storage).2 := by
  cases tried with
  | ok posted =>
    have left : ∃ journal, attempt.run storage = ((.ok posted.record, journal), middle) := by
      refine ⟨{ notices := Retry.successNotices (.ofPosting attempt.posting) posted }, ?_⟩
      unfold run
      cases attempt.more <;>
      · rw [Retry.runFrom]
        simp only [bind, StateT.bind]
        rw [ran]
        rfl
    obtain ⟨journal, left⟩ := left
    rw [left]
    exact .ends _ middle
  | error failure =>
    unfold follow served run
    cases count : attempt.more with
    | zero =>
      rw [Retry.runFrom]
      simp only [bind, StateT.bind]
      rw [ran]
      dsimp only
      cases attempt.retry.verdict (.ofPosting attempt.posting) attempt.number failure with
      | final last notices => exact .ends _ middle
      | again notice => exact .ends _ middle
    | succ more =>
      rw [Retry.runFrom]
      simp only [bind, StateT.bind]
      rw [ran]
      dsimp only
      cases attempt.retry.verdict (.ofPosting attempt.posting) attempt.number failure with
      | final last notices => exact .ends _ middle
      | again notice =>
        dsimp only
        cases attempt.retry.pause attempt.number with
        | error last => exact .ends _ middle
        | ok pause => exact again more count

/-- A try that is not repeated has the turns of one of which nothing has been read. -/
theorem comes_start_of (attempt : Try) (first : attempt.number = 1) (storage : Storage)
    (again : ∀ middle more, attempt.more = more + 1 →
      let next : Try := { attempt with number := attempt.number + 1, more }
      Comes (.goesOn { progress := .looking next }) middle (next.run middle).1.1
        (next.run middle).2) :
    Comes (.goesOn { progress := attempt.start }) storage (attempt.run storage).1.1
      (attempt.run storage).2 := by
  apply comes_unit rfl
  rw [← applyAndCommit_eq_unit]
  apply comes_follow ?_ (again _)
  rw [Retry.tries, first, run_eq]
  rfl

/-- A repeated try has a turn that looks for the record of an earlier one before them. -/
theorem comes_looking_of {attempt : Try} (repeated : 1 < attempt.number) (storage : Storage)
    (again : ∀ middle more, attempt.more = more + 1 →
      let next : Try := { attempt with number := attempt.number + 1, more }
      Comes (.goesOn { progress := .looking next }) middle (next.run middle).1.1
        (next.run middle).2) :
    Comes (.goesOn { progress := .looking attempt }) storage (attempt.run storage).1.1
      (attempt.run storage).2 := by
  let client : Client := { progress := .looking attempt }
  change Comes (.goesOn client) storage _ _
  apply Comes.turn
  simp only [serve, client]
  have tried : Retry.tries attempt.posting attempt.number storage =
      ((tryPosting attempt.posting true (client.session storage)).1,
        (tryPosting attempt.posting true (client.session storage)).2.storage) := by
    rw [Retry.tries, run_eq, decide_eq_true repeated]
    rfl
  rw [tryPosting, if_pos rfl, run_bind] at tried
  cases looked : lookup attempt.posting.reference (client.session storage) with
  | mk outcome session =>
    rw [looked] at tried
    cases outcome with
    | error failure =>
      rw [serves_error looked]
      exact comes_follow tried (again _)
    | ok found =>
      rw [serves_ok looked]
      cases found with
      | some record => exact comes_follow tried (again _)
      | none =>
        apply comes_unit rfl
        rw [session_of_idles (leftByReading_idles.lookup trivial _) looked, ← applyAndCommit_eq_unit]
        exact comes_follow tried (again _)

/-- The turns of a repeated try and of those after it. The induction is over the tries that are left. -/
theorem comes_looking {attempt : Try} (repeated : 1 < attempt.number) (storage : Storage) :
    Comes (.goesOn { progress := .looking attempt }) storage (attempt.run storage).1.1
      (attempt.run storage).2 := by
  generalize count : attempt.more = more
  induction more generalizing attempt storage with
  | zero =>
    apply comes_looking_of repeated
    intro middle more left
    rw [count] at left
    cases left
  | succ more ih =>
    apply comes_looking_of repeated
    intro middle fewer left
    rw [count] at left
    obtain rfl := Nat.succ.inj left
    exact ih (Nat.lt_succ_of_lt repeated) middle rfl

/-- A client that nobody comes between comes to what the first try of its posting and all those after it
come to. -/
theorem comes_start (posting : Posting) (retry : Retry) (storage : Storage) :
    let attempt := first posting retry
    Comes (.goesOn { progress := attempt.start }) storage (attempt.run storage).1.1
      (attempt.run storage).2 :=
  comes_start_of (first posting retry) rfl storage fun middle _ _ ↦
    comes_looking (Nat.lt_succ_self 1) middle

end Try

end Passbook
