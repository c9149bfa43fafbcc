import Panewire.Data.Table
import Panewire.Names
import Mathlib.Data.List.Pairwise

/-!
# The spawn operations of the hub

The hub keeps every accepted spawn request as an **operation** row. Beside it stands a
**reservation**: a row that owns the job id and, for work on a task, the (task, role) slot. The
functions below are the statements and transactions of the store, each atomic; an error leaves the
store as it was. `Op` collects the writes, and `Store.perform` runs one.

What `fleet.ValidateSubmission` accepts and how a request is fingerprinted are parameters
(`Config`). Of a request, a node request and an outcome, only the fields that the store or the
coordinator reads are kept, and all times are in milliseconds.
-/

namespace Panewire.Spawn

open Go Data List

/-! ## Rows -/

/-- `fleet.Submission`; `rest` is the part of the wire form that is stored and compared only. -/
structure Submission where
  requestID : String
  args : List String
  deadlineSeconds : ℤ
  rest : String
  deriving DecidableEq

/-- `fleet.Spawn`, the parsed arguments. -/
structure Parsed where
  job : String
  owner : String
  task : String
  role : String
  parentJob : String
  reviewPass : String
  deriving DecidableEq

/-- `hubSpawnRequest`, what a node is asked to do. -/
structure NodeRequest where
  requestID : String
  machine : String
  args : List String
  deadlineMS : ℤ
  deriving DecidableEq

/-- `hubSpawnOutcome` -/
structure Outcome where
  rc : ℤ := 0
  stage : String := ""
  reason : String := ""
  host : String := ""
  profile : String := ""
  retryable : Bool := false
  nodeResult : Bool := false
  deriving DecidableEq

inductive Status where
  | accepted
  | dispatching
  | reconciling
  | deadlineExceeded
  | succeeded
  | failed
  | retryable
  deriving DecidableEq

/-- The status as it is stored. -/
def Status.text : Status → String
  | .accepted => "accepted"
  | .dispatching => "dispatching"
  | .reconciling => "reconciling"
  | .deadlineExceeded => "deadline_exceeded"
  | .succeeded => "succeeded"
  | .failed => "failed"
  | .retryable => "retryable"

/-- `spawnPending` -/
def Status.pending : Status → Bool
  | .accepted | .dispatching | .reconciling | .deadlineExceeded => true
  | .succeeded | .failed | .retryable => false

/-- A row of `spawn_operations`. -/
structure OperationRow where
  job : String
  owner : String
  fingerprint : String
  payload : Submission
  status : Status
  created : ℤ
  deadline : ℤ
  /-- `node_id` and `node_payload`, which are only written together -/
  node : Option NodeRequest
  result : Outcome
  lastRun : ℤ
  attempt : ℕ

/-- The `request_id` column is the id in the stored request. -/
abbrev OperationRow.requestID (row : OperationRow) : String := row.payload.requestID

/-- `hubSpawnTask`: an operation as the hub read it at some time. -/
structure Task where
  request : Submission
  job : String
  owner : String
  status : Status
  created : ℤ
  deadline : ℤ
  attempt : ℕ
  node : Option NodeRequest
  outcome : Outcome
  deriving DecidableEq

/-- `scanSpawnTask` -/
def OperationRow.task (row : OperationRow) : Task where
  request := row.payload
  job := row.job
  owner := row.owner
  status := row.status
  created := row.created
  deadline := row.deadline
  attempt := row.attempt
  node := row.node
  outcome := row.result

/-- A row of `spawn_reservations`. -/
structure Reservation where
  job : String
  requestID : String
  taskRole : Option String
  deriving DecidableEq

/-- A row of `spawn_notifications`. -/
structure Notification where
  eventID : String
  requestID : String
  job : String
  owner : String
  result : Outcome
  created : ℤ

/-! ## Reservations -/

/-- `spawn_reservations` with its three unique constraints. -/
structure Reservations where
  rows : List Reservation
  jobs : (rows.map (·.job)).Nodup
  requests : (rows.map (·.requestID)).Nodup
  /-- a request without a slot does not collide -/
  roles : (rows.filterMap (·.taskRole)).Nodup

namespace Reservations

instance : Membership Reservation Reservations := ⟨fun t r => r ∈ t.rows⟩

variable {r : Reservation} {t : Reservations}

@[simp] theorem mem_rows : r ∈ t.rows ↔ r ∈ t := Iff.rfl

def empty : Reservations := ⟨[], by simp, by simp, by simp⟩

@[simp] theorem not_mem_empty : r ∉ empty := not_mem_nil

/-- Two reservations that collide in one of the unique columns. -/
def clash (r q : Reservation) : Bool :=
  r.job = q.job || r.requestID = q.requestID || (r.taskRole.isSome && r.taskRole = q.taskRole)

variable {q : Reservation}

theorem clash_eq_false : clash r q = false ↔
    r.job ≠ q.job ∧ r.requestID ≠ q.requestID ∧ ∀ k, r.taskRole = some k → q.taskRole ≠ some k := by
  rw [clash, Bool.or_eq_false_iff, Bool.or_eq_false_iff, decide_eq_false_iff_not,
    decide_eq_false_iff_not, and_assoc]
  cases hr : r.taskRole with
  | none => simp
  | some k => simp [eq_comm]

/-- No row collides with the new one. -/
def Fits (t : Reservations) (r : Reservation) : Prop := ∀ q ∈ t, clash r q = false

instance (t : Reservations) (r : Reservation) : Decidable (t.Fits r) :=
  inferInstanceAs (Decidable (∀ q ∈ t.rows, clash r q = false))

/-- One more row. -/
def concat (t : Reservations) (r : Reservation) (h : t.Fits r) : Reservations where
  rows := t.rows ++ [r]
  jobs := by
    rw [List.map_append, List.map_singleton, ← List.concat_eq_append]
    refine t.jobs.concat fun hmem => ?_
    obtain ⟨q, hq, hjob⟩ := List.mem_map.mp hmem
    exact (clash_eq_false.mp (h q hq)).1 hjob.symm
  requests := by
    rw [List.map_append, List.map_singleton, ← List.concat_eq_append]
    refine t.requests.concat fun hmem => ?_
    obtain ⟨q, hq, hid⟩ := List.mem_map.mp hmem
    exact (clash_eq_false.mp (h q hq)).2.1 hid.symm
  roles := by
    rw [List.filterMap_append]
    cases hr : r.taskRole with
    | none => simpa [hr] using t.roles
    | some k =>
      have hone : [r].filterMap (·.taskRole) = [k] := by simp [hr]
      rw [hone, ← List.concat_eq_append]
      refine t.roles.concat fun hmem => ?_
      obtain ⟨q, hq, hrole⟩ := List.mem_filterMap.mp hmem
      exact (clash_eq_false.mp (h q hq)).2.2 k hr hrole

@[simp] theorem mem_concat {h : t.Fits r} : q ∈ t.concat r h ↔ q ∈ t ∨ q = r := by
  show q ∈ t.rows ++ [r] ↔ _
  simp

/-- `INSERT … ON CONFLICT DO NOTHING`; `none` when no row was added. -/
def insertNew (t : Reservations) (r : Reservation) : Option Reservations :=
  if h : t.Fits r then some (t.concat r h) else none

/-- **What an insert adds.** -/
theorem insertNew_eq_some {t' : Reservations} (h : t.insertNew r = some t') :
    t.Fits r ∧ ∀ q, q ∈ t' ↔ q ∈ t ∨ q = r := by
  unfold insertNew at h
  split at h
  · next hfi =>
    cases h
    exact ⟨hfi, fun q => mem_concat⟩
  · cases h

/-- `DELETE … WHERE p` -/
def deleteWhere (t : Reservations) (p : Reservation → Bool) : Reservations where
  rows := t.rows.filter fun r => !p r
  jobs := t.jobs.sublist (List.filter_sublist.map _)
  requests := t.requests.sublist (List.filter_sublist.map _)
  roles := t.roles.sublist (List.filter_sublist.filterMap _)

/-- Clearing some slots leaves the others. -/
theorem filterMap_clear_sublist (p : Reservation → Bool) (rows : List Reservation) :
    ((rows.map fun r => if p r then { r with taskRole := none } else r).filterMap
      (·.taskRole)).Sublist (rows.filterMap (·.taskRole)) := by
  induction rows with
  | nil => exact List.Sublist.slnil
  | cons r rows ih =>
    rw [map_cons]
    cases hr : r.taskRole with
    | none =>
      have hc : (if p r then { r with taskRole := none } else r).taskRole = none := by
        split
        · rfl
        · exact hr
      rw [filterMap_cons_none hc, filterMap_cons_none hr]
      exact ih
    | some k =>
      rw [filterMap_cons_some hr]
      by_cases hp : p r
      · rw [if_pos hp]
        exact ih.cons k
      · rw [if_neg hp, filterMap_cons_some hr]
        exact ih.cons_cons k

/-- `UPDATE … SET task_role=NULL WHERE p` -/
def clearRoleWhere (t : Reservations) (p : Reservation → Bool) : Reservations where
  rows := t.rows.map fun r => if p r then { r with taskRole := none } else r
  jobs := by
    have hsame : (t.rows.map fun r => if p r then { r with taskRole := none } else r).map
        (·.job) = t.rows.map (·.job) := by
      rw [List.map_map]
      exact List.map_congr_left fun r _ => by simp only [Function.comp]; split <;> rfl
    rw [hsame]
    exact t.jobs
  requests := by
    have hsame : (t.rows.map fun r => if p r then { r with taskRole := none } else r).map
        (·.requestID) = t.rows.map (·.requestID) := by
      rw [List.map_map]
      exact List.map_congr_left fun r _ => by simp only [Function.comp]; split <;> rfl
    rw [hsame]
    exact t.requests
  roles := t.roles.sublist (filterMap_clear_sublist p t.rows)

theorem mem_deleteWhere {p : Reservation → Bool} : r ∈ t.deleteWhere p ↔ r ∈ t ∧ p r = false := by
  show r ∈ t.rows.filter _ ↔ _
  simp

theorem mem_clearRoleWhere {p : Reservation → Bool} :
    r ∈ t.clearRoleWhere p ↔ ∃ q ∈ t, (if p q then { q with taskRole := none } else q) = r := by
  show r ∈ t.rows.map _ ↔ _
  simp

/-- Two reservations of one job are one reservation. -/
theorem eq_of_job (hr : r ∈ t) (hq : q ∈ t) (h : r.job = q.job) : r = q :=
  inj_on_of_nodup_map t.jobs hr hq h

/-- Two reservations of one slot are one reservation. -/
theorem eq_of_role {k : String} (hr : r ∈ t) (hq : q ∈ t)
    (hrk : r.taskRole = some k) (hqk : q.taskRole = some k) : r = q := by
  have hp := pairwise_filterMap.mp t.roles
  have hs : Std.Symm fun a a' : Reservation =>
      ∀ b, a.taskRole = some b → ∀ b', a'.taskRole = some b' → b ≠ b' :=
    ⟨fun _ _ h b hb b' hb' heq => h b' hb' b hb heq.symm⟩
  by_contra hne
  exact hp.forall hr hq hne k hrk k hqk rfl

end Reservations

/-! ## The store -/

structure Store where
  operations : Table OperationRow.requestID
  reservations : Reservations
  notifications : Table Notification.eventID

/-- Parts of the program that the store calls but does not depend on. -/
structure Config where
  /-- `fleet.ValidateSubmission`; `none` is an error -/
  validate : Submission → Option Parsed
  /-- the digest of the JSON text of a request -/
  fingerprint : Submission → String

inductive Error where
  /-- `errSpawnClaimed` -/
  | claimed
  | invalid
  /-- `sql.ErrNoRows` -/
  | noRows
  /-- a unique constraint, or a storage fault -/
  | unavailable
  deriving DecidableEq

/-- `SpawnRoleKey` -/
def spawnRoleKey (task role pass : String) : String :=
  let key := task ++ ":" ++ role
  if pass ≠ "" then key ++ ":p" ++ pass else key

/-- `Spawn.RoleKey` -/
def Parsed.roleKey (p : Parsed) : String := spawnRoleKey p.task p.role p.reviewPass

/-- The slot that a request takes: none for a child job or for work without a task. -/
def Parsed.taskRole (p : Parsed) : Option String :=
  if p.task ≠ "" && p.parentJob = "" then some p.roleKey else none

/-- `hubSpawnArg` -/
def hubSpawnArg (flag : String) : List String → String
  | [] => ""
  | arg :: rest =>
    match cutPrefix arg (flag ++ "=") with
    | some value => value
    | none =>
      match rest with
      | value :: _ => if arg = flag then value else hubSpawnArg flag rest
      | [] => ""

/-- `spawnSubmitterLane` -/
def spawnSubmitterLane (args : List String) : String :=
  ((["--requested-by", "--parent"].map (hubSpawnArg · args)).find?
    hubAgentLabelPattern.accepts).getD ""

/-- `spawnRefusalReplayable` -/
def spawnRefusalReplayable (reason : String) : Bool :=
  let code := before reason ": "
  code ≠ "checkout_refused:origin-mismatch" && code ≠ "checkout_refused:branch-elsewhere"

/-- `spawnOutcomeStatus` -/
def spawnOutcomeStatus (o : Outcome) : Status :=
  if o.rc = 0 then .succeeded
  else if o.reason = "timeout" then if o.retryable then .retryable else .deadlineExceeded
  else if o.reason = "disconnected" || o.reason = "unknown" then .reconciling
  else if o.retryable then .retryable
  else .failed

namespace Store

def empty : Store := ⟨.empty, .empty, .empty⟩

variable (id : String)

/-- `spawnTask` -/
def spawnTask (s : Store) : Except Error Task :=
  match s.operations.find id with
  | some row => .ok row.task
  | none => .error .noRows

/-- `pendingSpawns` -/
def pendingSpawns (s : Store) : List Task :=
  let rows := s.operations.rows.filter (·.status.pending)
  let byAge (a b : OperationRow) : Bool :=
    a.lastRun < b.lastRun || (a.lastRun = b.lastRun && a.created ≤ b.created)
  ((rows.mergeSort byAge).take 32).map (·.task)

/-- The row of a request that is accepted now. -/
def accepted (cfg : Config) (request : Submission) (job owner : String) (now : ℤ) :
    OperationRow where
  job := job
  owner := owner
  fingerprint := cfg.fingerprint request
  payload := request
  status := .accepted
  created := now
  deadline := now + request.deadlineSeconds * 1000
  node := none
  result := {}
  lastRun := 0
  attempt := 1

/-- `claimSpawn`; the flag says whether the request is new. A repeat of a request is answered with
the operation that it started. -/
def claimSpawn (cfg : Config) (request : Submission) (job owner : String) (now : ℤ) (s : Store) :
    Except Error (Task × Bool) × Store :=
  match cfg.validate request with
  | none => (.error .invalid, s)
  | some spawn =>
    match s.operations.find request.requestID with
    | some row =>
      if row.fingerprint = cfg.fingerprint request && row.owner = owner then
        (.ok (row.task, false), s)
      else (.error .claimed, s)
    | none =>
      match s.reservations.insertNew ⟨job, request.requestID, spawn.taskRole⟩ with
      | none => (.error .claimed, s)
      | some reservations =>
        let row := accepted cfg request job owner now
        (.ok (row.task, true),
          { s with operations := (s.operations.insertNew row).1, reservations := reservations })

/-- `UPDATE spawn_operations … WHERE request_id=? AND p` -/
def change (p : OperationRow → Bool) (f : OperationRow → OperationRow)
    (hf : ∀ row, (f row).requestID = row.requestID) (s : Store) : Store :=
  { s with operations := s.operations.updateWhere (fun row => row.requestID = id && p row) f hf }

/-- Whether such a statement finds its row. -/
def affects (p : OperationRow → Bool) (s : Store) : Bool :=
  (s.operations.find id).any p

/-- The statement of `bindSpawn`. No two operations have one `node_id`. -/
def bindSpawn (attempt : ℕ) (node : NodeRequest) (s : Store) : Except Error Unit × Store :=
  let unbound (row : OperationRow) : Bool :=
    row.attempt = attempt && row.node.isNone && row.status = .accepted
  let taken := s.operations.rows.any fun row =>
    row.requestID ≠ id && row.node.any fun other => other.requestID = node.requestID
  if s.affects id unbound && taken then (.error .unavailable, s)
  else (.ok (), s.change id unbound
    (fun row => { row with node := some node, status := .dispatching }) fun _ => rfl)

/-- The statement of `unbindRefusedSpawn`. -/
def unbindRefusedSpawn (attempt : ℕ) (nodeID : String) (s : Store) : Except Error Unit × Store :=
  let bound (row : OperationRow) : Bool :=
    row.attempt = attempt && row.node.any (fun node => node.requestID = nodeID) &&
      row.status = .dispatching
  if s.affects id bound then
    (.ok (), s.change id bound (fun row => { row with node := none, status := .accepted })
      fun _ => rfl)
  else (.error .claimed, s)

/-- `resumeCleanedSpawn`: a new attempt of an operation that was cleaned up. -/
def resumeCleanedSpawn (cfg : Config) (task : Task) (now : ℤ) (s : Store) :
    Except Error Unit × Store :=
  match cfg.validate task.request with
  | none => (.error .invalid, s)
  | some spawn =>
    match s.reservations.insertNew ⟨task.job, task.request.requestID, spawn.taskRole⟩ with
    | none => (.error .claimed, s)
    | some reservations =>
      let cleaned (row : OperationRow) : Bool :=
        row.status = .retryable && row.attempt = task.attempt
      if s.affects task.request.requestID cleaned then
        (.ok (), { s with reservations := reservations }.change task.request.requestID cleaned
          (fun row => { row with
            status := .accepted
            deadline := now + task.request.deadlineSeconds * 1000
            node := none
            attempt := row.attempt + 1
            lastRun := 0 }) fun _ => rfl)
      else (.error .claimed, s)

/-- The statement of `resumeUndispatchedSpawn`. -/
def resumeUndispatchedSpawn (task : Task) (s : Store) : Store :=
  s.change task.request.requestID
    (fun row => row.attempt = task.attempt && row.node.isNone && row.status = .reconciling)
    (fun row => { row with status := .accepted }) fun _ => rfl

/-- `releaseCompletedSpawnRole` -/
def releaseCompletedSpawnRole (roleKey : String) (s : Store) : Store :=
  let finished := s.affects id fun row => row.status = .succeeded || row.status = .failed
  { s with reservations := s.reservations.clearRoleWhere fun r =>
      r.requestID = id && r.taskRole = some roleKey && finished }

/-- `touchSpawn` -/
def touchSpawn (now : ℤ) (s : Store) : Store :=
  s.change id (fun _ => true) (fun row => { row with lastRun := now }) fun _ => rfl

end Store

/-! ## Completion -/

/-- The query of `completeSpawn` for a timeout: the node of this attempt, if one is bound. -/
def Store.boundNode (task : Task) (s : Store) : Except Error (Option NodeRequest) :=
  match s.operations.find task.request.requestID with
  | some row => if row.attempt = task.attempt then .ok row.node else .error .noRows
  | none => .error .noRows

/-- A timeout is retryable when no node is bound, or when the node says so. -/
def Outcome.timedOut (o : Outcome) (node : Option NodeRequest) : Outcome :=
  { o with retryable := node.isNone || (o.nodeResult && o.retryable) }

/-- The outcome once `spawnRefusalReplayable` was applied. -/
def Outcome.judged (o : Outcome) : Outcome :=
  { o with retryable := o.retryable && spawnRefusalReplayable o.reason }

/-- The status that an outcome ends with. -/
def Outcome.status (o : Outcome) : Status := spawnOutcomeStatus o.judged

/-- The outcome as it is stored. -/
def Outcome.stored (o : Outcome) : Outcome :=
  if o.status = .deadlineExceeded || o.status = .reconciling then
    { o.judged with retryable := false }
  else o.judged

/-- The condition of the update in `completeSpawn`, beside the request id. -/
def OperationRow.takes (task : Task) (o : Outcome) (row : OperationRow) : Bool :=
  row.attempt = task.attempt && row.status.pending && row.status ≠ o.status &&
    !(row.status = .deadlineExceeded && o.status = .reconciling) &&
    (row.node.isNone || o.reason ≠ "timeout" || o.status ≠ .retryable || o.nodeResult)

/-- Who is told, and under which event id. -/
def notices (task : Task) (status : Status) : List (String × String) :=
  let eventID := task.request.requestID ++ ":" ++ toString task.attempt ++ ":" ++ status.text
  let lane := spawnSubmitterLane task.request.args
  let also := (status = .failed || status = .retryable) && lane ≠ "" && lane ≠ task.owner
  (eventID, task.owner) :: if also then [(eventID ++ ":" ++ lane, lane)] else []

namespace Store

/-- The outbox rows of a completion. -/
def notify (task : Task) (o : Outcome) (now : ℤ) (s : Store) : Store :=
  (notices task o.status).foldl (fun s (id, lane) =>
    let row : Notification := ⟨id, task.request.requestID, task.job, lane, o.stored, now⟩
    { s with notifications := (s.notifications.insertNew row).1 }) s

/-- Nothing else changes. -/
theorem notify_keeps (task : Task) (o : Outcome) (now : ℤ) (s : Store) :
    (s.notify task o now).operations = s.operations ∧
      (s.notify task o now).reservations = s.reservations := by
  unfold notify
  induction notices task o.status generalizing s with
  | nil => exact ⟨rfl, rfl⟩
  | cons n ns ih => exact ih _

/-- The reservation of a task is given back. -/
def unreserve (task : Task) (s : Store) : Store :=
  { s with reservations := s.reservations.deleteWhere fun r =>
      r.job = task.job && r.requestID = task.request.requestID }

/-- **The writes of `completeSpawn`.** The outcome of a timeout has already been compared with
`boundNode`, which another caller's writes may have outdated since. -/
def completeSpawn (task : Task) (o : Outcome) (now : ℤ) (s : Store) : Bool × Store :=
  if s.affects task.request.requestID (·.takes task o) then
    let s := s.change task.request.requestID (·.takes task o)
      (fun row => { row with status := o.status, result := o.stored }) fun _ => rfl
    let s := if o.status = .retryable then s.unreserve task else s
    (true, s.notify task o now)
  else (false, s)

end Store

/-! ## Calls -/

/-- A write to the store. -/
inductive Op where
  | claim (request : Submission) (job owner : String) (now : ℤ)
  | bind (id : String) (attempt : ℕ) (node : NodeRequest)
  | complete (task : Task) (outcome : Outcome) (now : ℤ)
  | unbind (id : String) (attempt : ℕ) (nodeID : String)
  | resumeCleaned (task : Task) (now : ℤ)
  | resumeUndispatched (task : Task)
  | releaseRole (id roleKey : String)
  | touch (id : String) (now : ℤ)

/-- What a call leaves behind. -/
def Store.perform (cfg : Config) (s : Store) : Op → Store
  | .claim request job owner now => (s.claimSpawn cfg request job owner now).2
  | .bind id attempt node => (s.bindSpawn id attempt node).2
  | .complete task outcome now => (s.completeSpawn task outcome now).2
  | .unbind id attempt nodeID => (s.unbindRefusedSpawn id attempt nodeID).2
  | .resumeCleaned task now => (s.resumeCleanedSpawn cfg task now).2
  | .resumeUndispatched task => s.resumeUndispatchedSpawn task
  | .releaseRole id roleKey => s.releaseCompletedSpawnRole id roleKey
  | .touch id now => s.touchSpawn id now

/-- The snapshot that a call acts on. -/
def Op.task : Op → Option Task
  | .complete task _ _ | .resumeCleaned task _ | .resumeUndispatched task => some task
  | .claim _ _ _ _ | .bind _ _ _ | .unbind _ _ _ | .releaseRole _ _ | .touch _ _ => none

end Panewire.Spawn
