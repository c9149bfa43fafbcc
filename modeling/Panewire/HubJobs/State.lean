import Panewire.Hub.ActiveJob
import Panewire.Hub.Event
import Panewire.Data.Assoc

/-!
# The hub's job table

The hub keeps one record of every job it has heard of: which node owns it, and the **epoch** of
that ownership, a number that only the hub issues. A node that is lost leaves its jobs orphaned;
an operator may then hand one to another node, which raises the epoch and **fences** the nodes that
had it before. A fenced node is told by a revocation, kept pending until the node acknowledges it.

* `Hub` — the table, the nodes and the pending revocations.
* `HubServer.apply` — one message, sweep or request, each a critical section of the hub's lock.
-/

namespace Panewire.HubJobs

open Data Hub

def hubOperatorMachineID : String := "operator"

/-! ## State -/

/-- One change of owner. -/
structure HubJobReassignment where
  source : String
  target : String
  epoch : ℕ
  time : ℤ
  deriving DecidableEq

/-- What the hub knows of a job. The epoch starts at 1 and every reassignment leaves a row here, so
it never comes near the bound of its machine type. -/
structure HubJobRecord where
  /-- what the owner last said of the job; the epoch is the hub's -/
  active : HubActiveJob
  node : String
  lastSeen : ℤ
  orphaned : Bool := false
  completed : Bool := false
  /-- the nodes that must not work on the job any more, with the epoch that fences them -/
  fencedNodes : List (String × ℕ) := []
  reassignments : List HubJobReassignment := []
  deriving DecidableEq

abbrev HubJobRecord.epoch (r : HubJobRecord) : ℕ := r.active.epoch

/-- The nodes that had the job and lost it. -/
def HubJobRecord.pastOwners (r : HubJobRecord) : List String := r.reassignments.map (·.source)

inductive NodeState where
  | connected
  | stale
  | disconnected
  deriving DecidableEq

/-- What the hub knows of a node; `agent` is its connection. -/
structure HubNodeRecord where
  state : NodeState
  stateSince : ℤ := 0
  agent : Option ℕ := none
  activeJobs : List (String × HubActiveJob) := []
  deriving DecidableEq

structure HubServer where
  nodes : List (String × HubNodeRecord) := []
  jobs : List (String × HubJobRecord) := []
  /-- by node and job, the epoch that the node has to be told -/
  pendingRevocations : List ((String × String) × ℕ) := []
  deriving DecidableEq

variable (h : HubServer)

def HubServer.job (id : String) : Option HubJobRecord := Assoc.get h.jobs id

def HubServer.node (machine : String) : Option HubNodeRecord :=
  Assoc.get h.nodes machine

/-! ## Heartbeats -/

variable (machineID : String)

/-- One job of a heartbeat. Epoch 1 is issued to whoever reports a job first; a heartbeat that is
stale or promotes itself is presence only. -/
def observeActiveJob (received : ℤ) (jobs : List (String × HubJobRecord)) (job : HubActiveJob) :
    List (String × HubJobRecord) :=
  match Assoc.get jobs job.jobID with
  | none =>
    if job.epoch = 1 then
      Assoc.put jobs job.jobID { active := job, node := machineID, lastSeen := received }
    else jobs
  | some current =>
    if current.completed ∨ current.node ≠ machineID ∨ current.epoch ≠ job.epoch then jobs
    else
      let updated := { current with active := job, lastSeen := received, orphaned := false }
      Assoc.put jobs job.jobID updated

/-- A job that its owner, back again, does not list. -/
def observeAbsentJob (seen : List String) (id : String) (current : HubJobRecord) : HubJobRecord :=
  if id ∉ seen ∧ current.node = machineID ∧ current.orphaned then
    { current with orphaned := false, completed := true }
  else current

def observeActiveJobs (active : List HubActiveJob) (received : ℤ) : HubServer :=
  match h.node machineID with
  | none => h
  | some record =>
    let activeJobs := active.foldl (fun m job => Assoc.put m job.jobID job) []
    let jobs := active.foldl (observeActiveJob machineID received) h.jobs
    { h with
      nodes := Assoc.put h.nodes machineID { record with activeJobs }
      jobs := Assoc.mapValues (observeAbsentJob machineID (active.map (·.jobID))) jobs }

/-! ## Terminal messages -/

/-- The record that a terminal message of the owner, at the owner's epoch, is about. -/
def HubServer.current (event : HubJobEventPayload) : Option HubJobRecord :=
  (h.job event.jobID).filter fun job => job.epoch = event.epoch ∧ job.node = machineID

/-- The job is over. -/
def HubJobRecord.finish (job : HubJobRecord) (received : ℤ) : HubJobRecord :=
  { job with completed := true, orphaned := false, lastSeen := received }

/-- The terminal message of a job. `observeJobCompletion` and `observeJobRevocation` differ only in
what they announce. -/
def observeJobEnd (event : HubJobEventPayload) (received : ℤ) : HubServer :=
  match h.current machineID event with
  | none => h
  | some job => { h with jobs := Assoc.put h.jobs event.jobID (job.finish received) }

def observeJobCompletion := observeJobEnd

def observeJobRevocation := observeJobEnd

/-- A terminal record of a job that was never registered: a receipt, never a candidate for
redispatch. -/
def lateRegisterJobCompletion (completion : HubJobEventPayload) (received : ℤ) : HubServer :=
  if completion.epoch ≠ 1 ∨ hubAgentLabelPattern.accepts completion.agentLabel = false then h
  else
    match h.job completion.jobID with
    | some _ => h
    | none =>
      let ownerLane :=
        if validReportRelayLaneName completion.ownerLane then completion.ownerLane else ""
      let active : HubActiveJob :=
        { jobID := completion.jobID, agentLabel := completion.agentLabel, epoch := 1, ownerLane }
      let job : HubJobRecord :=
        { active, node := machineID, lastSeen := received, completed := true }
      { h with jobs := Assoc.put h.jobs completion.jobID job }

/-! ## Orphans -/

/-- One job of a node that has been away too long. -/
def orphanJob (jobs : List (String × HubJobRecord)) (listed : String × HubActiveJob) :
    List (String × HubJobRecord) :=
  match Assoc.get jobs listed.1 with
  | none => jobs
  | some job =>
    if job.completed ∨ job.orphaned ∨ job.node ≠ machineID ∨ job.epoch ≠ listed.2.epoch then jobs
    else Assoc.put jobs listed.1 { job with orphaned := true }

/-- One node of the sweep; 0 is the time that was never set. -/
def sweepNode (orphanGrace now : ℤ) (jobs : List (String × HubJobRecord))
    (node : String × HubNodeRecord) : List (String × HubJobRecord) :=
  if node.2.state = .connected ∨ node.2.stateSince = 0 ∨ now - node.2.stateSince < orphanGrace then
    jobs
  else node.2.activeJobs.foldl (orphanJob node.1) jobs

def sweepOrphanedJobs (orphanGrace : ℤ) (h : HubServer) (now : ℤ) : HubServer :=
  { h with jobs := h.nodes.foldl (sweepNode orphanGrace now) h.jobs }

/-! ## Reassignment -/

def enqueueRevocation (job : String) (pending : List ((String × String) × ℕ))
    (fenced : String × ℕ) : List ((String × String) × ℕ) :=
  match Assoc.get pending (fenced.1, job) with
  | none => Assoc.put pending (fenced.1, job) fenced.2
  | some prior =>
    if prior < fenced.2 then Assoc.put pending (fenced.1, job) fenced.2 else pending

/-- The record in the hands of its new owner. -/
def HubJobRecord.reassign (job : HubJobRecord) (target : String) (now : ℤ) : HubJobRecord :=
  let epoch := job.epoch + 1
  -- a node may become the owner again
  let others := Assoc.mapValues (fun _ _ => epoch) (Assoc.del job.fencedNodes target)
  { job with
    active := { job.active with epoch }
    fencedNodes := Assoc.put others job.node epoch
    reassignments := job.reassignments ++ [⟨job.node, target, epoch, now⟩]
    node := target
    orphaned := false }

/-- The job, if it may be handed to `target`; `tokens` are the nodes with a credential. -/
def HubServer.reassignable (tokens : List String) (jobID target : String) : Option HubJobRecord :=
  if hubJobIDPattern.accepts jobID = false ∨ machineIDPattern.accepts target = false ∨
      target = hubOperatorMachineID ∨ target ∉ tokens then none
  else (h.job jobID).filter fun job => job.orphaned ∧ ¬ job.completed ∧ job.node ≠ target

def reassignJob (tokens : List String) (jobID target : String) (now : ℤ) : HubServer :=
  match h.reassignable tokens jobID target with
  | none => h
  | some job =>
    let job := job.reassign target now
    { h with
      jobs := Assoc.put h.jobs jobID job
      pendingRevocations := job.fencedNodes.foldl (enqueueRevocation jobID)
        (Assoc.del h.pendingRevocations (target, jobID)) }

def acknowledgeRevocation (ack : HubJobEventPayload) : HubServer :=
  if Assoc.get h.pendingRevocations (machineID, ack.jobID) = some ack.epoch then
    { h with pendingRevocations := Assoc.del h.pendingRevocations (machineID, ack.jobID) }
  else h

/-! ## Presence -/

/-- A node that connects starts with a fresh record. -/
def connect (agent : ℕ) (now : ℤ) : HubServer :=
  let record : HubNodeRecord := { state := .connected, stateSince := now, agent := some agent }
  { h with nodes := Assoc.put h.nodes machineID record }

/-- Change the record of a node, if there is one. -/
def HubServer.mapNode (f : HubNodeRecord → HubNodeRecord) : HubServer :=
  match h.node machineID with
  | none => h
  | some record => { h with nodes := Assoc.put h.nodes machineID (f record) }

/-- The node answered on its connection. -/
def touch (agent : ℕ) (now : ℤ) : HubServer :=
  h.mapNode machineID fun record =>
    if record.agent ≠ some agent then record
    else if record.state = .connected then record
    else { record with state := .connected, stateSince := now }

/-- The node has not answered for too long. -/
def markStale (now : ℤ) : HubServer :=
  h.mapNode machineID fun record =>
    if record.agent = none ∨ record.state = .stale then record
    else { record with state := .stale, stateSince := now }

/-- The connection ended. -/
def disconnect (agent : ℕ) (now : ℤ) : HubServer :=
  h.mapNode machineID fun record =>
    if record.agent ≠ some agent then record
    else
      { record with
        agent := none
        state := .disconnected
        stateSince := if record.state = .connected then now else record.stateSince }

/-! ## Operations -/

/-- What happens to the hub, one critical section of its lock at a time. A terminal message that
`completed` or `revoked` does not recognise is followed by `lateRegister`. -/
inductive Op where
  | heartbeat (machine : String) (active : List HubActiveJob) (received : ℤ)
  | completed (machine : String) (event : HubJobEventPayload) (received : ℤ)
  | revoked (machine : String) (event : HubJobEventPayload) (received : ℤ)
  | lateRegister (machine : String) (event : HubJobEventPayload) (received : ℤ)
  | acknowledge (machine : String) (ack : HubJobEventPayload)
  | sweep (orphanGrace now : ℤ)
  | reassign (tokens : List String) (jobID target : String) (now : ℤ)
  | connect (machine : String) (agent : ℕ) (now : ℤ)
  | touch (machine : String) (agent : ℕ) (now : ℤ)
  | stale (machine : String) (now : ℤ)
  | disconnect (machine : String) (agent : ℕ) (now : ℤ)

def HubServer.apply : Op → HubServer
  | .heartbeat machine active received => observeActiveJobs h machine active received
  | .completed machine event received => observeJobCompletion h machine event received
  | .revoked machine event received => observeJobRevocation h machine event received
  | .lateRegister machine event received => lateRegisterJobCompletion h machine event received
  | .acknowledge machine ack => acknowledgeRevocation h machine ack
  | .sweep orphanGrace now => sweepOrphanedJobs orphanGrace h now
  | .reassign tokens jobID target now => reassignJob h tokens jobID target now
  | .connect machine agent now => HubJobs.connect h machine agent now
  | .touch machine agent now => HubJobs.touch h machine agent now
  | .stale machine now => markStale h machine now
  | .disconnect machine agent now => HubJobs.disconnect h machine agent now

/-- The hub after a sequence of operations. -/
def HubServer.run (ops : List Op) : HubServer := ops.foldl HubServer.apply {}

end Panewire.HubJobs
