import Panewire.Spawn.Coordinator

/-!
# The spawn journal of a node

The hub sends `job.spawn` messages, and sends them again when it lost the answer. Every message is
handled by a goroutine of its own, so copies of one request run side by side, and the process may
die at any point. Two records keep a request from running twice:

* the **journal**, a table on disk with one entry for each request id, `executing` from the moment
  that a goroutine claims it and `completed` once the result is stored;
* the **running marks** in memory, which tell an entry that is being executed from one that an
  earlier process left behind.

The statements of the journal are atomic steps with their own faults. `claimHubSpawn` is one step:
its lock keeps other claims and `endHubSpawn` out, and a completion that falls between its `INSERT`
and its `SELECT` is seen as if it came before both. The brief, the checkout and the engine are
answered by the environment. The JSON text of a stored result is taken to decode to that result.
-/

namespace Panewire.NodeSpawn

open Conc Data
open Spawn (Fault hubSpawnArg)

/-! ## Messages and results -/

/-- `hubSpawnCheckout` -/
structure Checkout where
  origin : String
  mode : String
  branch : String := ""
  sha : String := ""
  fetch : String := ""
  dir : String
  deriving DecidableEq

/-- `hubOutboundMessage`, as a `job.spawn` fills it. -/
structure Message where
  requestID : String
  cwdKey : String := ""
  briefInline : String := ""
  briefDoc : String := ""
  checkout : Option Checkout := none
  args : List String := []
  deadlineMS : ℤ := 0
  operatorAuthorized : Bool := false
  waitSeconds : ℤ := 0
  deriving DecidableEq

/-- `fleet.ExecutionReceipt` -/
structure ExecutionReceipt where
  job : String := ""
  host : String := ""
  pane : String := ""
  profile : String := ""
  model : String := ""
  role : String := ""
  cwd : String := ""
  label : String := ""
  kind : String := ""
  laneUnregistered : Bool := false
  deriving DecidableEq

/-- `hubSpawnResult`, without the two fields that only the hub fills in. -/
structure Result where
  receipt : Option ExecutionReceipt := none
  stage : String := ""
  stageMS : List (String × ℤ) := []
  retryable : Bool := false
  requestID : String
  rc : ℤ := 0
  jobID : String := ""
  pane : String := ""
  stdoutTail : String := ""
  error : String := ""
  deriving DecidableEq

/-- The `job.spawn.result` message. -/
structure Wire where
  receipt : Option ExecutionReceipt
  type : String
  requestID : String
  rc : ℤ
  jobID : String
  pane : String
  stdoutTail : String
  error : String
  stageMS : List (String × ℤ)
  stage : String
  retryable : Bool
  deriving DecidableEq

/-- What a legacy hub understands of a result: no receipt, and uncertainty as a timeout. -/
def Result.legacy (result : Result) : Result :=
  { result with
    receipt := none
    stage := ""
    stageMS := []
    retryable := false
    error :=
      if result.error ∈ ["reconciling", "unknown", "journal_unavailable", "journal_conflict"] then
        "timeout"
      else result.error }

/-- `spawnResultWire` -/
def spawnResultWire (result : Result) (extended : Bool) : Wire :=
  let result := if extended then result else result.legacy
  { receipt := result.receipt
    type := "job.spawn.result"
    requestID := result.requestID
    rc := result.rc
    jobID := result.jobID
    pane := result.pane
    stdoutTail := result.stdoutTail
    error := result.error
    stageMS := result.stageMS
    stage := result.stage
    retryable := result.retryable }

variable (message : Message)

/-- The answer that leaves it open what became of the request. -/
def Message.uncertain (error : String) : Result :=
  { requestID := message.requestID, rc := 75, error := error }

/-! ## The journal -/

/-- How far a request is; the result is stored together with `completed`. -/
inductive Progress where
  | executing
  | completed (result : Result)
  deriving DecidableEq

/-- A row of `spawn_inbox`. -/
structure Entry where
  requestID : String
  fingerprint : String
  status : Progress
  deriving DecidableEq

/-- The table `spawn_inbox`. -/
abbrev Journal := Table Entry.requestID

/-- What `claim` finds. -/
inductive Claim where
  /-- a statement failed -/
  | failed
  /-- the entry belongs to another payload -/
  | conflict
  /-- the request is new, and its entry is now there -/
  | claimed
  | executing
  | cached (result : Result)
  deriving DecidableEq

/-- `nodeSpawnJournal.claim`; `hash` is the fingerprint of the execution fields. -/
def Journal.claim (journal : Journal) (hash : String) (message : Message) (fault : Fault) :
    Journal × Claim :=
  let inserted := journal.insertNew ⟨message.requestID, hash, .executing⟩
  match fault with
  | .refused => (journal, .failed)
  | .lost => (inserted.1, .failed)
  | .none =>
    if inserted.2 then (inserted.1, .claimed)
    else
      match journal.find message.requestID with
      | none => (journal, .failed)
      | some entry =>
        if entry.fingerprint ≠ hash then (journal, .conflict)
        else
          match entry.status with
          | .executing => (journal, .executing)
          | .completed result => (journal, .cached result)

/-- The `UPDATE` of `nodeSpawnJournal.complete`. -/
def Journal.complete (journal : Journal) (result : Result) : Journal :=
  journal.updateWhere
    (fun entry => entry.requestID = result.requestID && entry.status = .executing)
    (fun entry => { entry with status := .completed result }) fun _ => rfl

/-! ## State and environment -/

/-- What the engine leaves: `fleet.Execution` and what was read off its output. -/
structure Execution where
  receipt : ExecutionReceipt := {}
  rc : ℤ := 0
  stage : String := ""
  stageMS : List (String × ℤ) := []
  retryable : Bool := false
  /-- pane and job of the `OK` line -/
  pane : String := ""
  jobID : String := ""
  /-- the tail of the output, with the tail of stderr and the fix for a failed run -/
  stdoutTail : String := ""
  /-- the context of the run has ended -/
  expired : Bool := false

/-- Why a claimed request stops before the engine. -/
structure Refusal where
  rc : ℤ
  error : String
  stdoutTail : String := ""
  stage : String := ""
  stageMS : List (String × ℤ) := []

/-- What the environment answers to a step. -/
structure Reading where
  fault : Fault := .none
  now : ℤ := 0
  /-- configuration, brief or checkout refuse the request -/
  refusal : Option Refusal := none
  execution : Execution := {}

/-- A reply, with the circumstances of its delivery. -/
structure Reply where
  message : Message
  /-- the entry of the request when the message arrived -/
  recorded : Option Entry
  /-- whether the journal failed this delivery -/
  journalFailed : Bool
  wire : Wire
  deriving DecidableEq

/-- The state that the goroutines share, and the journal that outlives them. -/
structure Node where
  journal : Journal := .empty
  spawnJournalUsers : ℕ := 0
  /-- the keys of the map `spawnActive` -/
  spawnActive : List String := []
  /-- whether `spawnMu` is held -/
  spawnMu : Bool := false
  /-- history only: the requests for which the engine was started -/
  engineRuns : List String := []
  /-- history only: the replies written -/
  replies : List Reply := []

/-- A delivery of a message. -/
inductive Proc where
  | deliver (message : Message)

/-- A program of the node. -/
abbrev Node.Cmd (α : Type) := Conc.Cmd Node Reading Unit Proc α

/-! ## Steps -/

/-- History only: the entry of the request, as a delivery finds it on arrival. -/
def arrive : Node.Cmd (Option Entry) :=
  .act () fun n _ => (n, n.journal.find message.requestID)

/-- `acquireSpawnJournal`: only opening can fail. -/
def acquireSpawnJournal : Node.Cmd Bool :=
  .act () fun n e =>
    if n.spawnJournalUsers = 0 && e.fault ≠ .none then (n, false)
    else ({ n with spawnJournalUsers := n.spawnJournalUsers + 1 }, true)

def releaseSpawnJournal : Node.Cmd Unit :=
  .act () fun n _ => ({ n with spawnJournalUsers := n.spawnJournalUsers - 1 }, ())

variable (hash : Message → String)

/-- `claimHubSpawn`: the claim, and whether this process is running the request. -/
def claimHubSpawn (message : Message) : Node.Cmd (Claim × Bool) :=
  .act () fun n e =>
    let (journal, claim) := n.journal.claim (hash message) message e.fault
    let spawnActive :=
      if claim = .claimed then message.requestID :: n.spawnActive else n.spawnActive
    ({ n with journal := journal, spawnActive := spawnActive },
      claim, message.requestID ∈ spawnActive)

/-- `endHubSpawn` -/
def endHubSpawn (id : String) : Node.Cmd Unit :=
  .act () fun n _ => ({ n with spawnActive := n.spawnActive.filter (· ≠ id) }, ())

/-- `sendSpawnResult` -/
def sendSpawnResult (recorded : Option Entry) (journalFailed : Bool) (result : Result) :
    Node.Cmd Unit :=
  .act () fun n _ =>
    let wire := spawnResultWire result message.operatorAuthorized
    ({ n with replies := n.replies ++ [⟨message, recorded, journalFailed, wire⟩] }, ())

def lockSpawn : Node.Cmd Unit :=
  .actWhen () (fun n _ => !n.spawnMu) fun n _ => ({ n with spawnMu := true }, ())

def unlockSpawn : Node.Cmd Unit := .act () fun n _ => ({ n with spawnMu := false }, ())

def now : Node.Cmd ℤ := .act () fun n e => (n, e.now)

/-- Configuration, brief and checkout. -/
def prepare : Node.Cmd (Option Refusal) := .act () fun n e => (n, e.refusal)

/-- The call of the engine. -/
def startEngine (id : String) : Node.Cmd Unit :=
  .act () fun n _ => ({ n with engineRuns := n.engineRuns ++ [id] }, ())

/-- The engine returns. -/
def awaitEngine : Node.Cmd Execution := .act () fun n e => (n, e.execution)

/-- Store the result; `false` when the statement reports an error. -/
def complete (result : Result) : Node.Cmd Bool :=
  .act () fun n e =>
    match e.fault with
    | .none => ({ n with journal := n.journal.complete result }, true)
    | .lost => ({ n with journal := n.journal.complete result }, false)
    | .refused => (n, false)

/-! ## Programs -/

/-- What `runHubSpawn` reports of an execution. -/
def Execution.result (execution : Execution) (id : String) : Result :=
  let timedOut := execution.rc ≠ 0 && execution.expired
  { receipt := some execution.receipt
    stage := execution.stage
    stageMS := execution.stageMS
    retryable := execution.retryable
    requestID := id
    rc := if timedOut then 124 else execution.rc
    jobID := if execution.receipt.job ≠ "" then execution.receipt.job else execution.jobID
    pane := if execution.receipt.pane ≠ "" then execution.receipt.pane else execution.pane
    stdoutTail := execution.stdoutTail
    error :=
      if timedOut then "timeout" else if execution.rc ≠ 0 then "spawn_failed" else "" }

/-- What `runHubSpawn` reports of a refusal. -/
def Refusal.result (refusal : Refusal) (id : String) : Result :=
  { requestID := id
    rc := refusal.rc
    error := refusal.error
    stdoutTail := refusal.stdoutTail
    stage := refusal.stage
    stageMS := refusal.stageMS
    retryable := true }

/-- `runHubSpawn` -/
def runHubSpawn : Node.Cmd Result := do
  match ← prepare with
  | some refusal => pure (refusal.result message.requestID)
  | none =>
    startEngine message.requestID
    let execution ← awaitEngine
    pure (execution.result message.requestID)

/-- `runClaimedHubSpawn`: a request whose deadline has passed is not started. -/
def runClaimedHubSpawn : Node.Cmd Result := do
  let time ← now
  if message.deadlineMS ≠ 0 && message.deadlineMS ≤ time then
    pure
      { requestID := message.requestID
        jobID := hubSpawnArg "--job" message.args
        rc := 124
        stage := "claim"
        error := "deadline_not_started"
        retryable := true }
  else runHubSpawn message

/-- `handleHubSpawn`, after the claim: run the request, store the result, then answer. -/
def executeClaimed (recorded : Option Entry) : Node.Cmd Unit := do
  lockSpawn
  let result ← runClaimedHubSpawn message
  unlockSpawn
  if ← complete result then sendSpawnResult message recorded false result
  endHubSpawn message.requestID

/-- `handleHubSpawn`, from the claim on. -/
def answerClaim (recorded : Option Entry) (claim : Claim) (active : Bool) : Node.Cmd Unit :=
  match claim with
  | .failed => sendSpawnResult message recorded true (message.uncertain "journal_conflict")
  | .conflict => sendSpawnResult message recorded false (message.uncertain "journal_conflict")
  | .cached result => sendSpawnResult message recorded false result
  | .executing =>
    sendSpawnResult message recorded false
      (message.uncertain (if active then "reconciling" else "unknown"))
  | .claimed => executeClaimed message recorded

/-- `handleHubSpawn` -/
def handleHubSpawn (message : Message) : Node.Cmd Unit := do
  let recorded ← arrive message
  if ← acquireSpawnJournal then
    let (claim, active) ← claimHubSpawn hash message
    answerClaim message recorded claim active
    releaseSpawnJournal
  else sendSpawnResult message recorded true (message.uncertain "journal_unavailable")

/-- The programs of the node. -/
def program : Proc → Prog Node Reading Unit Proc
  | .deliver message => (handleHubSpawn hash message).prog

/-- A restart loses what is in memory; journal and history stay. -/
def Node.restarted (n : Node) : Node :=
  { journal := n.journal, engineRuns := n.engineRuns, replies := n.replies }

/-- Any message may arrive at any time, any step may go either way, and the node may restart. -/
def limits : Limits Node Reading Unit Proc where
  start _ := true
  step _ _ _ := true
  restart n := some n.restarted

/-- A run of a node with the given fingerprint function. -/
abbrev Runs := Run (program hash) limits

/-- **The states of a node**, whatever was delivered and however often it restarted. -/
abbrev Reachable := Runs hash ⟨{}, []⟩

end Panewire.NodeSpawn
