import Panewire.Spawn.Sound
import Panewire.Conc.Protocol

/-!
# The spawn coordinator

One loop lists the pending operations and hands them to four **workers**; a map of active request
ids keeps two workers off one request. A worker acts on the task as it was listed, which may be long
ago: it places the request, binds it to a node, sends it, and completes the operation with what the
node answers or with what it finds out itself. HTTP handlers submit and abandon requests beside it.

Each statement and each transaction is one atomic step, with its own fault. What other parts of the
hub find (placement, the pane probes, handoffkeep) is answered by the environment. A completion is
labelled with its **source**: the node request whose result it writes, or `none` for an outcome that
the hub made up itself.
-/

namespace Panewire.Spawn

open Conc Go

/-! ## State and environment -/

/-- What can go wrong with a statement. -/
inductive Fault where
  | none
  /-- it was committed, but its answer is lost -/
  | lost
  /-- it was not committed -/
  | refused
  deriving DecidableEq

/-- `hubSpawnResult`; `code` and `refusal` are what the hub reads from the tail of the output. -/
structure NodeResult where
  /-- whether the node answered, and not the hub for a lost connection -/
  completed : Bool
  rc : ℤ
  error : String
  stage : String
  retryable : Bool
  code : String
  refusal : String
  /-- the profile in its receipt -/
  receipt : Option String := none

/-- What becomes of a message to a node. -/
inductive Reach where
  | disconnected
  | answered (result : NodeResult)
  | cancelled
  | expired

/-- What the environment answers to a step. -/
structure Answer where
  time : ℤ := 0
  fault : Fault := .none
  reach : Reach := .disconnected
  /-- how often placement tries a node -/
  rounds : ℕ := 0
  /-- the node request that placement made -/
  node : NodeRequest := ⟨"", "", [], 0⟩
  /-- how placement ended: its exit code and reason, or a panic -/
  ended : Option (ℤ × String) := none
  /-- a check on another part of the hub comes out well -/
  yes : Bool := true

/-- The state that all threads of the hub share. -/
structure Hub where
  store : Store
  /-- the keys of the `active` map -/
  active : List String := []
  /-- the channel to the workers -/
  work : List Task := []
  booted : Bool := false
  /-- history only: the snapshots read so far -/
  read : List Task := []

/-- A write with its source, or any other step. -/
inductive Label where
  | call (source : Option String) (op : Op)
  | other

/-- What can be started. -/
inductive Proc where
  | boot
  | coordinator
  | worker
  | submit (request : Submission)
  | abandon (id reason : String)
  /-- the hub itself submits the successor of a job, in the slot of a finished one -/
  | replace (request : Submission) (job owner priorID priorRole : String)

/-- A program of the hub. -/
abbrev Hub.Cmd (α : Type) := Conc.Cmd Hub Answer Label Proc α

/-! ## Steps -/

def clock : Hub.Cmd ℤ := .act .other fun h e => (h, e.time)
def ask : Hub.Cmd Bool := .act .other fun h e => (h, e.yes)
def reach : Hub.Cmd Reach := .act .other fun h e => (h, e.reach)

/-- A read of the store, and the snapshots that it returns. -/
def query {α : Type} (f : Store → Except Error α) (tasks : α → List Task) :
    Hub.Cmd (Except Error α) :=
  .act .other fun h e =>
    match e.fault, f h.store with
    | .none, .ok a => ({ h with read := tasks a ++ h.read }, .ok a)
    | .none, .error err => (h, .error err)
    | _, _ => (h, .error .unavailable)

section Programs

variable (cfg : Config)

/-- A write to the store. -/
def exec {α : Type} (source : Option String) (op : Op) (reply : Store → Except Error α) :
    Hub.Cmd (Except Error α) :=
  .act (.call source op) fun h e =>
    match e.fault with
    | .none => ({ h with store := h.store.perform cfg op }, reply h.store)
    | .lost => ({ h with store := h.store.perform cfg op }, .error .unavailable)
    | .refused => (h, .error .unavailable)

def spawnTask (id : String) : Hub.Cmd (Except Error Task) := query (·.spawnTask id) fun t => [t]

def pendingSpawns : Hub.Cmd (Except Error (List Task)) := query (fun s => .ok s.pendingSpawns) id

/-- `bindSpawn` -/
def bindSpawn (id : String) (attempt : ℕ) (node : NodeRequest) : Hub.Cmd (Except Error Task) := do
  match ← exec cfg none (.bind id attempt node) fun s => (s.bindSpawn id attempt node).1 with
  | .error err => pure (.error err)
  | .ok () =>
    match ← spawnTask id with
    | .error err => pure (.error err)
    | .ok task =>
      if task.attempt = attempt && task.node = some node then pure (.ok task)
      else pure (.error .claimed)

/-- `unbindRefusedSpawn` -/
def unbindRefusedSpawn (id : String) (attempt : ℕ) (nodeID : String) :
    Hub.Cmd (Except Error Task) := do
  match ← exec cfg none (.unbind id attempt nodeID)
      fun s => (s.unbindRefusedSpawn id attempt nodeID).1 with
  | .error err => pure (.error err)
  | .ok () => spawnTask id

variable (task : Task)

/-- `resumeUndispatchedSpawn` -/
def resumeUndispatchedSpawn : Hub.Cmd (Except Error Task) := do
  match ← exec cfg none (.resumeUndispatched task) fun _ => .ok () with
  | .error err => pure (.error err)
  | .ok () => spawnTask task.request.requestID

/-- The writes of `completeSpawn`. -/
def recordOutcome (source : Option String) (task : Task) (o : Outcome) :
    Hub.Cmd (Except Error Bool) := do
  let now ← clock
  exec cfg source (.complete task o now) fun s => .ok (s.completeSpawn task o now).1

/-- `completeSpawn`; its query comes before its writes. -/
def completeSpawn (source : Option String) (task : Task) (o : Outcome) :
    Hub.Cmd (Except Error Bool) := do
  if o.reason = "timeout" then
    match ← query (·.boundNode task) fun _ => [] with
    | .error err => pure (.error err)
    | .ok node => recordOutcome cfg source task (o.timedOut node)
  else recordOutcome cfg source task o

/-- `finishSpawnOutcome` -/
def finishSpawnOutcome (o : Outcome) : Hub.Cmd Unit := do
  let _ ← completeSpawn cfg none task o
  pure ()

/-- `releaseSpawnRole`; whether it worked -/
def releaseSpawnRole : Hub.Cmd Bool := do
  match cfg.validate task.request with
  | none => pure false
  | some spawn =>
    if spawn.task = "" || spawn.parentJob ≠ "" then pure true
    else
      match ← exec cfg none (.releaseRole task.request.requestID spawn.roleKey)
          fun _ => .ok () with
      | .error _ => pure false
      | .ok () => pure true

/-! ## Dispatch -/

/-- `spawnTaskHost` -/
def spawnTaskHost : String := (task.node.map (·.machine)).getD ""

/-- `finishUnownedSpawn`: the probes must show that no pane has the label of the job. -/
def finishUnownedSpawn (o : Outcome) : Hub.Cmd Bool := do
  if task.node.isNone then pure false
  else if !(← ask) then pure false
  else
    match ← completeSpawn cfg none task o with
    | .ok true => releaseSpawnRole cfg task
    | .ok false | .error _ => pure false

/-- `resolveOrphanedSpawn`, which probes at most once a minute. -/
def resolveOrphanedSpawn : Hub.Cmd Bool := do
  if !(← ask) then pure false
  else
    finishUnownedSpawn cfg task
      { rc := 75, stage := "landing", reason := "orphaned_after_restart",
        host := spawnTaskHost task, nodeResult := true }

/-- `spawnResultReason` -/
def spawnResultReason (r : NodeResult) : String :=
  let reason := if r.error = "" then "spawn_failed" else r.error
  if reason = "spawn_failed" && r.code ≠ "" then reason ++ ":" ++ r.code else reason

def hubSpawnReasonLimit : ℕ := 768

/-- `spawnOutcomeReason` -/
def spawnOutcomeReason (code refusal : String) : String :=
  if code = "timeout" || code = "disconnected" || code = "unknown" then code
  else if refusal = "" then code
  else prefixWithin (code ++ ": " ++ refusal) hubSpawnReasonLimit

def nextHostRefusals : List String :=
  ["cwd_unmapped", "spawn_failed:hooks_review", "spawn_failed:trust_prompt",
    "spawn_failed:omp_setup_wizard", "spawn_failed:auth_unavailable"]

/-- `spawnRefusalTriesNextHost` -/
def spawnRefusalTriesNextHost (reason : String) : Bool :=
  nextHostRefusals.contains (before reason ": ")

/-- `directSpawnTransport` -/
structure Transport where
  task : Task
  bound : Bool := false
  placing : Bool := false

/-- `directSpawnTransport.unknown` -/
def Transport.unknown (t : Transport) (reason : String) : Hub.Cmd Unit :=
  finishSpawnOutcome cfg t.task
    { rc := if reason = "timeout" then 124 else 75, stage := "landing", reason := reason,
      host := spawnTaskHost t.task }

/-- `nextHostAfterRefusal`: the transport that may try another host, if it may. -/
def Transport.nextHostAfterRefusal (t : Transport) (node : NodeRequest) (r : NodeResult) :
    Hub.Cmd (Option Transport) := do
  let host := hubSpawnArg "--host" t.task.request.args
  if !t.placing || r.rc = 0 || !r.retryable || !spawnRefusalTriesNextHost (spawnResultReason r) ||
      !(host = "" || host = "auto") then pure none
  else
    match ← unbindRefusedSpawn cfg t.task.request.requestID t.task.attempt node.requestID with
    | .error _ => pure none
    | .ok task => pure (some { t with task := task, bound := false })

/-- The outcome that a node's result stands for. -/
def NodeResult.outcome (r : NodeResult) (node : NodeRequest) : Outcome where
  rc := r.rc
  stage := if r.stage = "" then "placement" else r.stage
  reason := if r.rc = 0 then r.error else spawnOutcomeReason (spawnResultReason r) r.refusal
  host := node.machine
  profile := r.receipt.getD (hubSpawnArg "-m" node.args)
  retryable := r.retryable
  nodeResult := true

/-- Whether the result says nothing definite. -/
def NodeResult.indefinite (r : NodeResult) : Bool :=
  !r.completed || ["reconciling", "unknown", "journal_unavailable", "journal_conflict"].contains
    r.error

/-- The result of a node, as `dispatch` takes it. -/
def Transport.settle (t : Transport) (node : NodeRequest) (r : NodeResult) :
    Hub.Cmd Transport := do
  if r.indefinite then
    t.unknown cfg "unknown"
    pure t
  -- a success is only believed when the pane is read and its receipt fits
  else if r.rc = 0 && !(← ask) then
    t.unknown cfg "unknown"
    pure t
  else
    match ← t.nextHostAfterRefusal cfg node r with
    | some t' => pure t'
    | none =>
      let _ ← completeSpawn cfg (some node.requestID) t.task (r.outcome node)
      pure t

/-- `directSpawnTransport.dispatch`, without the reply to placement. -/
def Transport.dispatch (t : Transport) (node : NodeRequest) : Hub.Cmd Transport := do
  match ← reach with
  | .disconnected =>
    t.unknown cfg "disconnected"
    pure t
  | .cancelled => pure t
  | .expired =>
    t.unknown cfg "timeout"
    pure t
  | .answered r =>
    let now ← clock
    if r.completed && r.error = "unknown" && t.task.deadline ≤ now then
      if ← resolveOrphanedSpawn cfg t.task then pure t else t.settle cfg node r
    else t.settle cfg node r

/-- `directSpawnTransport.Spawn`. The transport stays bound when the answer to the statement is
lost, for it may have been committed. -/
def Transport.spawn (t : Transport) (request : NodeRequest) : Hub.Cmd Transport := do
  let node := { request with deadlineMS := t.task.deadline }
  -- a node that is too old for this is refused first
  if !(← ask) then pure t
  else if t.bound then pure t
  else
    match ← bindSpawn cfg t.task.request.requestID t.task.attempt node with
    | .error _ => pure { t with bound := true }
    | .ok task => Transport.dispatch cfg { task := task, bound := true, placing := true } node

/-! ## Workers -/

/-- `ExecuteSubmission`, as far as the transport sees it: it asks for some nodes in turn and
ends. -/
def executeSubmission : ℕ → Transport → Hub.Cmd (Transport × Option (ℤ × String))
  | 0, t => .act .other fun h e => (h, (t, e.ended))
  | n + 1, t => do
    let node ← (.act .other fun h e => (h, e.node) : Hub.Cmd NodeRequest)
    let t ← t.spawn cfg node
    executeSubmission n t

/-- `executeSpawnTask` before the deadline. -/
def launch : Hub.Cmd Unit := do
  match task.node with
  | some node =>
    let _ ← Transport.dispatch cfg { task := task } node
    pure ()
  | none =>
    if !(← ask) then
      finishSpawnOutcome cfg task
        { rc := 78, stage := "placement", reason := "configuration", retryable := true }
    else if !(← ask) then
      finishSpawnOutcome cfg task
        { rc := 124, stage := "placement", reason := "timeout", retryable := true }
    else
      let n ← (.act .other fun h e => (h, e.rounds) : Hub.Cmd ℕ)
      match ← executeSubmission cfg n { task := task } with
      | (_, none) =>
        finishSpawnOutcome cfg task { rc := 1, stage := "launch", reason := "unknown" }
      | (t, some (rc, reason)) =>
        -- the result of the node owns completion, and a hub that stops leaves the request as it is
        if t.bound then pure ()
        else if !(← ask) then pure ()
        else if ← ask then
          finishSpawnOutcome cfg task
            { rc := rc, stage := "placement", reason := reason, retryable := true }
        else
          finishSpawnOutcome cfg task
            { rc := 124, stage := "placement", reason := "timeout", retryable := true }

/-- `executeSpawnTask` -/
def executeSpawnTask : Hub.Cmd Unit := do
  let now ← clock
  if task.deadline ≤ now then
    finishSpawnOutcome cfg task
      { rc := 124, stage := "landing", reason := "timeout", host := spawnTaskHost task,
        retryable := task.node.isNone }
    match task.node with
    | none => pure ()
    | some node =>
      let _ ← Transport.dispatch cfg { task := task } node
      pure ()
  else if task.node.isNone && task.status = .reconciling then
    match ← resumeUndispatchedSpawn cfg task with
    | .error _ => pure ()
    | .ok task => launch cfg task
  else launch cfg task

/-- `delete(active, id)` -/
def forget (id : String) : Hub.Cmd Unit :=
  .act .other fun h _ => ({ h with active := h.active.filter (· ≠ id) }, ())

/-- One task of a worker. -/
def worker : Hub.Cmd Unit := do
  let task ← (.actWhen .other (fun h _ => !h.work.isEmpty)
    (fun h _ => ({ h with work := h.work.tail }, h.work.head?)) : Hub.Cmd (Option Task))
  match task with
  | none => pure ()
  | some task =>
    let now ← clock
    let _ ← exec cfg none (.touch task.request.requestID now) fun _ => .ok ()
    executeSpawnTask cfg task
    forget task.request.requestID
    .go .worker

/-- Claim the request in the `active` map; whether it was free. -/
def activate (id : String) : Hub.Cmd Bool :=
  .act .other fun h _ =>
    if h.active.contains id then (h, false) else ({ h with active := id :: h.active }, true)

/-- Hand a task to the workers, if the channel has room; whether it had. -/
def handOut : Hub.Cmd Bool :=
  .act .other fun h _ =>
    if h.work.length < 4 then ({ h with work := h.work ++ [task] }, true) else (h, false)

/-- One pass of the loop of `runSpawnCoordinator`. -/
def coordinator : Hub.Cmd Unit := do
  match ← pendingSpawns with
  | .error _ => .go .coordinator
  | .ok tasks =>
    Cmd.forEach tasks fun task => do
      if ← activate task.request.requestID then
        let sent ← handOut task
        Cmd.when (!sent) (forget task.request.requestID)
    .go .coordinator

/-- The coordinator is started once. -/
def boot : Hub.Cmd Unit := do
  (.actWhen .other (fun h _ => !h.booted) fun h _ => ({ h with booted := true }, ()) : Hub.Cmd Unit)
  .go .coordinator
  Cmd.forEach [0, 1, 2, 3] fun _ => .go .worker

/-! ## Handlers -/

/-- `claimSpawn` -/
def claimSpawn (request : Submission) (job owner : String) : Hub.Cmd (Except Error Bool) := do
  let now ← clock
  exec cfg none (.claim request job owner now)
    fun s => (s.claimSpawn cfg request job owner now).1.map (·.2)

/-- The holder of a slot. -/
def spawnRoleOwner (roleKey : String) : Hub.Cmd (Except Error String) :=
  query (fun s => match s.reservations.rows.find? (·.taskRole = some roleKey) with
    | some r => .ok r.requestID
    | none => .error .noRows) fun _ => []

/-- `reclaimSpawnRole`: the probes may find the holder of the slot finished. -/
def reclaimSpawnRole (request : Submission) (spawn : Parsed) : Hub.Cmd Unit := do
  match ← spawnRoleOwner spawn.roleKey with
  | .error _ => pure ()
  | .ok id =>
    if ← ask then
      let _ ← exec cfg none (.releaseRole id spawn.roleKey) fun _ => .ok ()
      let _ ← claimSpawn cfg request spawn.job spawn.owner
      pure ()

/-- `handleSpawnSubmit`; a repeat of a request that was cleaned up starts a new attempt. -/
def submit (request : Submission) : Hub.Cmd Unit := do
  match cfg.validate request with
  | none => pure ()
  | some spawn =>
    match ← spawnTask request.requestID with
    | .ok old =>
      let now ← clock
      if old.owner = spawn.owner && old.request = request && old.status = .retryable then
        let _ ← exec cfg none (.resumeCleaned old now) fun _ => .ok ()
        pure ()
      else pure ()
    | .error err =>
      -- handoffkeep may know the job
      if err = .noRows && (← ask) then
        match ← claimSpawn cfg request spawn.job spawn.owner with
        | .error .claimed =>
          if spawn.parentJob = "" then reclaimSpawnRole cfg request spawn else pure ()
        | .error _ | .ok _ => pure ()
      else pure ()

/-- `handleSpawnAbandon` -/
def abandon (id reason : String) : Hub.Cmd Unit := do
  match ← spawnTask id with
  | .error _ => pure ()
  | .ok task =>
    if task.status.pending && task.node.isSome then
      let _ ← finishUnownedSpawn cfg task
        { rc := 75, stage := "landing", reason := spawnOutcomeReason "operator_abandoned" reason,
          host := spawnTaskHost task }
      pure ()
    else pure ()

/-- A quota replacement gives the slot of the finished job to its successor. -/
def replaceSpawn (request : Submission) (job owner priorID priorRole : String) :
    Hub.Cmd Unit := do
  if ← ask then
    let _ ← exec cfg none (.releaseRole priorID priorRole) fun _ => .ok ()
    pure ()
  let _ ← claimSpawn cfg request job owner
  pure ()

/-- The program of each procedure. -/
def program : Proc → Prog Hub Answer Label Proc
  | .boot => boot.prog
  | .coordinator => coordinator.prog
  | .worker => (worker cfg).prog
  | .submit request => (submit cfg request).prog
  | .abandon id reason => (abandon cfg id reason).prog
  | .replace request job owner priorID priorRole =>
    (replaceSpawn cfg request job owner priorID priorRole).prog

end Programs

/-- The coordinator and its workers are only started by `boot`; a restart keeps the store. -/
def limits : Limits Hub Answer Label Proc where
  start r := match r with
    | .coordinator | .worker => false
    | _ => true
  step _ _ _ := true
  restart h := some { store := h.store, read := h.read }

/-- An empty store, and nothing started. -/
def Hub.start : Sys Hub Answer Label Proc := ⟨{ store := .empty }, []⟩

/-- A state that some run of the hub reaches. -/
def Running (cfg : Config) (s : Sys Hub Answer Label Proc) : Prop :=
  Run (program cfg) limits Hub.start s

end Panewire.Spawn
