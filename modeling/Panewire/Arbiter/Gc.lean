import Panewire.Arbiter.Operations
import Panewire.Data.Assoc

/-!
# Garbage collection and the release of an orphan

A pass over the ledger compares it with the list of agents that Herdr reports. The list is read
between a **snapshot** of the jobs and the write transaction, so the write compares each job with
its snapshot before it believes that the job's agent is gone.

* `judge` — what a pass makes of one job: the identity, status, snapshot and startup-grace guards;
* `gcWrite` — the write of `GC`: expire leases, judge, clean quota-pool records, release orphans;
* `releaseOrphanWrite` — the write of `ReleaseOrphan`, with the same guards for one job.
-/

namespace Panewire.Arbiter

open Data

/-! ## Agents -/

inductive AgentStatus where
  | idle
  | working
  | blocked
  | done
  | unknown
  /-- a status the program does not understand -/
  | other (text : String)
  deriving DecidableEq

def AgentStatus.text : AgentStatus → String
  | idle => "idle"
  | working => "working"
  | blocked => "blocked"
  | done => "done"
  | unknown => "unknown"
  | other text => text

/-- One entry of Herdr's agent list. -/
structure Agent where
  status : AgentStatus
  jobID : String
  name : String
  label : String
  deriving DecidableEq

/-- `checkAgents` -/
def checkAgents : List Agent → Except Error Unit
  | [] => .ok ()
  | a :: as =>
    match a.status with
    | .other text => .error (.agentStatusUnknown text)
    | _ => checkAgents as

/-- An agent that carries the persisted identity of a job. A job id counts only when the identity
is that very job id. -/
def Agent.carries (a : Agent) (job label : String) : Bool :=
  (label ≠ "" && (a.name = label || a.label = label)) || (label = job && a.jobID = job)

/-- `matchedStatuses`: the statuses of the agents that carry the identity, and whether any does. -/
def matchedStatuses (agents : List Agent) (job label : String) : List AgentStatus × Bool :=
  let matching := agents.filter fun a => a.carries job label
  (((matching.map (·.status)).dedup).insertionSort fun a b => a.text ≤ b.text, !matching.isEmpty)

/-! ## What the events say about a job -/

/-- The kinds that only `Claim` records. -/
def isClaimKind (kind : String) : Bool := kind = "job.claim" || kind = "job.reclaim"

/-- The claims and re-claims of a job, in the order of their numbers. -/
def Db.claimEvents (db : Db) (job : String) : List EventRow :=
  (db.events.rows.filter fun e => e.job = job && isClaimKind e.kind).insertionSort
    fun a b => a.seq ≤ b.seq

/-- The agent label that a claim or re-claim names, if it names one. -/
def claimLabel (e : EventRow) : Except Error (Option String) :=
  match e.body with
  | .unreadable => .error (.claimUnreadable e.job e.kind)
  | .bare => .ok none
  | .payload o =>
    match o.get "agent_label" with
    | none | some .null => .ok none
    | some (.str label) => if label = "" then .error (.labelInvalid e.job) else .ok (some label)
    | some _ => .error (.labelInvalid e.job)

/-- `claimAgentLabel`: the label at the latest claim or re-claim that names one, or the empty
text. -/
def claimAgentLabel (db : Db) (job : String) : Except Error String := do
  let labels ← (db.claimEvents job).mapM fun e => return (e.kind, ← claimLabel e)
  let original := ((labels.filter fun l => l.1 = "job.claim").filterMap (·.2)).dedup
  if original.length > 1 then
    .error (.labelAmbiguous job (original.insertionSort fun a b => a ≤ b))
  else .ok ((labels.filterMap (·.2)).getLast?.getD "")

/-- What a pass remembers of a job before it reads the agent list. -/
structure Snapshot where
  state : JobState
  /-- the number of the latest claim or re-claim -/
  claim : Option ℤ
  deriving DecidableEq

def Db.jobState (db : Db) (job : String) : Option JobState := (db.core.jobs.find job).map (·.state)

def Db.latestClaim (db : Db) (job : String) : Option ℤ :=
  ((db.events.rows.filter fun e => e.job = job && isClaimKind e.kind).map (·.seq)).max?

/-- `jobSnapshot` -/
def jobSnapshot (db : Db) (job : String) : Option Snapshot :=
  (db.jobState job).map fun state => ⟨state, db.latestClaim job⟩

/-- `sameSnapshot` -/
def sameSnapshot (before now : Option Snapshot) : Bool := before.isSome && before = now

/-- `OrphanStartupGrace` -/
def orphanStartupGrace : ℤ := 10 * minute

/-- the zero `time.Time`, the first moment of the year 1 -/
def zeroTime : ℤ := -62135596800 * second

/-- The latest of some times. -/
def latest (ts : List ℤ) : ℤ := ts.foldl (fun m t => if m < t then t else m) zeroTime

/-- The times of a job's events of some kinds. -/
def Db.eventTimes (db : Db) (cal : Calendar) (job : String) (kinds : String → Bool) :
    Except Error (List ℤ) :=
  (db.events.rows.filter fun e => e.job = job && kinds e.kind).mapM fun e =>
    match parseISO cal e.created with
    | some t => .ok t
    | none => .error (.timeUnreadable e.created)

/-- `startupBlocker`: why a job still looks too new to retire. -/
def startupBlocker (cal : Calendar) (db : Db) (job : String) (moment : ℤ) :
    Except Error (Option String) := do
  let _ ← db.eventTimes cal job fun k => isClaimKind k || k = "job.spawned"
  let claims ← db.eventTimes cal job isClaimKind
  let spawns ← db.eventTimes cal job fun k => k = "job.spawned"
  if claims = [] then
    .ok (some "claim timestamp unavailable; retaining during startup grace")
  else if moment - latest claims < orphanStartupGrace then
    .ok (some "latest claim/reclaim is inside the 10-minute startup grace")
  else if spawns ≠ [] ∧ moment - latest spawns < orphanStartupGrace then
    .ok (some "latest spawn is inside the 10-minute startup grace")
  else .ok none

/-! ## Judging a job -/

/-- What a pass makes of a job. -/
inductive Verdict where
  /-- no label to compare with -/
  | unmapped
  /-- an agent with the identity is in status unknown -/
  | unknown
  /-- a listed agent owns its pane -/
  | owned
  | skipped (reason : String)
  /-- the job's agent is gone -/
  | stale (label : String) (statuses : List AgentStatus) (carried : Bool)
  deriving DecidableEq

/-- The snapshots that a pass took, by job. -/
abbrev Snapshots := List (String × Snapshot)

/-- The guards of a pass, in their order. -/
def judge (cal : Calendar) (db : Db) (snaps : Snapshots) (agents : List Agent) (moment : ℤ)
    (job : String) : Except Error Verdict := do
  let label ← claimAgentLabel db job
  if label = "" then return .unmapped
  let (statuses, carried) := matchedStatuses agents job label
  if AgentStatus.unknown ∈ statuses then return .unknown
  if statuses ≠ [] then return .owned
  if sameSnapshot (Assoc.get snaps job) (jobSnapshot db job) = false then
    return .skipped "job state or claim sequence changed after Herdr snapshot"
  match ← startupBlocker cal db job moment with
  | some reason => return .skipped reason
  | none => return .stale label statuses carried

/-! ## The write of a pass -/

/-- A lease that a pass moved to expired. -/
structure Transition where
  resource : String
  kind : LeaseKind
  job : String
  expires : Stamp
  deriving DecidableEq

/-- A quota-pool record whose agent is gone. -/
structure StaleQuota where
  row : QuotaRow
  agentLabel : String
  herdrStatus : List AgentStatus
  deriving DecidableEq

/-- A job that was released because its agent is gone. -/
structure Orphan where
  job : String
  priorState : JobState
  agentLabel : String
  reason : String
  herdrStatus : List AgentStatus
  eventSeq : ℤ
  deriving DecidableEq

/-- What a pass did. -/
structure GCResult where
  checked : ℕ
  expired : ℕ
  transitioned : List Transition
  staleQuota : List StaleQuota
  orphanReleased : List Orphan
  skipped : List (String × String)
  liveAgents : ℕ
  herdrAgents : ℕ
  deriving DecidableEq

/-- Archive a lease as expired; its row stays. -/
def expireLease (r : LeaseRow) (moment : ℤ) : Tx Bool := do
  let fresh ← query fun _ db => (db.core.archive r .expired moment).2
  exec fun _ core => (core.archive r .expired moment).1
  if fresh then
    let _ ← recordEvent r.job "lease.expire" (fun cal =>
      payload [("resource", some (.str r.resource)), ("kind", some (.str r.kind.text)),
        ("expires_at", some (.str (r.expires.text cal)))] (by simp)) none
    pure true
  else pure false

/-- Expire the leases that are over: how many, and which ones for the first time. -/
def expireLeases (moment : ℤ) : List LeaseRow → Tx (ℕ × List Transition)
  | [] => pure (0, [])
  | r :: rs => do
    match ← query fun cal _ => parseISO cal r.expires with
    | none => Data.Tx.fail (.timeUnreadable r.expires)
    | some expires =>
      if moment < expires then expireLeases moment rs
      else do
        let fresh ← expireLease r moment
        let (n, ts) ← expireLeases moment rs
        pure (n + 1, if fresh then ⟨r.resource, r.kind, r.job, r.expires⟩ :: ts else ts)

/-- Jobs marked leased that hold no lease and no quota-pool record. -/
def Core.rowless (core : Core) : List String :=
  ((core.jobs.rows.filter fun j => j.state = .leased &&
      !(core.leases.rows.any fun l => l.job = j.job) &&
      !(core.quotas.rows.any fun q => q.job = j.job)).map (·.job)).insertionSort fun a b => a ≤ b

/-- The quota-pool records, by job and pool. -/
def Core.sortedQuotas (core : Core) : List QuotaRow :=
  core.quotas.rows.insertionSort fun a b => a.job < b.job ∨ (a.job = b.job ∧ a.pool ≤ b.pool)

/-- Something a pass judges: a quota-pool record, or a job that holds nothing. -/
structure Check where
  job : String
  quota : Option QuotaRow
  deriving DecidableEq

def Core.checks (core : Core) : List Check :=
  core.sortedQuotas.map (fun q => ⟨q.job, some q⟩) ++ core.rowless.map fun job => ⟨job, none⟩

/-- Why a job is an orphan. -/
def orphanReason (carried : Bool) (statuses : List AgentStatus) : String :=
  if carried then "herdr agent status=" ++ Go.join "," (statuses.map AgentStatus.text)
  else "job absent from herdr agent list"

/-- A check that found the agent gone. -/
structure Decision where
  job : String
  label : String
  statuses : List AgentStatus
  carried : Bool
  quota : Option QuotaRow
  deriving DecidableEq

def Decision.reason (d : Decision) : String := orphanReason d.carried d.statuses

/-- The decisions among the judged checks. -/
def decisions (judged : List (Check × Verdict)) : List Decision :=
  judged.filterMap fun jv =>
    match jv.2 with
    | .stale label statuses carried => some ⟨jv.1.job, label, statuses, carried, jv.1.quota⟩
    | _ => none

/-- Delete the quota-pool record of each decision about one. -/
def cleanQuotas : List Decision → Tx (List StaleQuota)
  | [] => pure []
  | d :: ds =>
    match d.quota with
    | none => cleanQuotas ds
    | some q => do
      exec fun _ core => core.deleteQuota q.key
      let _ ← recordEvent d.job "quota_pool.stale_cleanup" (fun cal =>
        payload [("job_id", some (.str d.job)), ("pool", some (.str q.pool)),
          ("profile", some (.str q.profile)), ("started_at", some (.str (q.started.text cal))),
          ("agent_label", some (.str d.label)), ("reason", some (.str d.reason)),
          ("herdr_status", some .other)] (by simp)) none
      let rest ← cleanQuotas ds
      pure (⟨q, d.label, d.statuses⟩ :: rest)

/-- Whether a job is marked leased and holds nothing. -/
def Core.eligible (core : Core) (job : String) : Bool :=
  ((core.jobs.find job).map (·.state)) = some .leased &&
    !(core.leases.rows.any fun l => l.job = job) && !(core.quotas.rows.any fun q => q.job = job)

/-- Mark a leased job released and record why. -/
def releaseJob (d : Decision) (moment : ℤ) (forced : Bool) : Tx Orphan := do
  exec fun _ core => { core with
    jobs := core.jobs.updateWhere (fun r => r.job = d.job && r.state = .leased)
      (fun r => { r with state := .released, updated := iso moment }) fun _ => rfl }
  let seq ← recordEvent d.job "job.orphan_release" (fun _ =>
    payload [("job_id", some (.str d.job)), ("prior_state", some (.str "leased")),
      ("agent_label", some (.str d.label)), ("herdr_status", some .other),
      ("reason", some (.str d.reason)), ("forced", some (.bool forced))] (by simp)) none
  pure ⟨d.job, .leased, d.label, d.reason, d.statuses, seq⟩

/-- Release the candidates that hold nothing. -/
def releaseOrphans (moment : ℤ) : List Decision → Tx (List Orphan)
  | [] => pure []
  | d :: ds => do
    let eligible ← query fun _ db => db.core.eligible d.job
    if eligible then do
      let orphan ← releaseJob d moment false
      let rest ← releaseOrphans moment ds
      pure (orphan :: rest)
    else releaseOrphans moment ds

/-- The candidates for a release: one decision for each job, the last about it, by job. -/
def candidates (ds : List Decision) : List Decision :=
  ((ds.foldl (fun m d => Assoc.put m d.job d) []).map (·.2)).insertionSort fun a b => a.job ≤ b.job

/-- The write transaction of `GC`. -/
def gcWrite (snaps : Snapshots) (agents : List Agent) : Tx GCResult := do
  let moment ← now
  let held ← query fun _ db => db.core.leases.rows.filter fun l => l.kind.exclusive
  let (expired, transitioned) ← expireLeases moment held
  let checks ← query fun _ db => db.core.checks
  let judged ← Data.Tx.lift fun c o =>
    checks.mapM fun ck => return (ck, ← judge c.calendar o.db snaps agents moment ck.job)
  let unmapped := (judged.filter fun jv => jv.2 = .unmapped).map (·.1.job)
  let unknown := (judged.filter fun jv => jv.2 = .unknown).map (·.1.job)
  Data.Tx.refuseIf (unmapped ≠ [] ∨ unknown ≠ []) (.identityRefused unmapped unknown)
  let staleQuota ← cleanQuotas (decisions judged)
  let orphans ← releaseOrphans moment (candidates (decisions judged))
  pure {
    checked := held.length
    expired := expired
    transitioned := transitioned
    staleQuota := staleQuota
    orphanReleased := orphans
    skipped := judged.filterMap fun jv =>
      match jv.2 with
      | .skipped reason => some (jv.1.job, reason)
      | _ => none
    liveAgents := agents.countP fun a => a.status = .working
    herdrAgents := agents.length }

/-! ## The release of one orphan -/

/-- The leases, by resource and kind. -/
def Core.sortedLeases (core : Core) : List LeaseRow :=
  core.leases.rows.insertionSort fun a b =>
    a.resource < b.resource ∨ (a.resource = b.resource ∧ a.kind.text ≤ b.kind.text)

/-- What stands in the way of a release, other than the startup grace. -/
def orphanBlockers (core : Core) (job label : String) (state : JobState)
    (statuses : List AgentStatus) (carried : Bool) : List String :=
  (if state ≠ .leased then ["job state=" ++ state.text ++ " (expected leased)"] else []) ++
  (if AgentStatus.unknown ∈ statuses then ["agent=" ++ label ++ " herdr_status=unknown"]
    else if carried then ["agent=" ++ label ++ " herdr_status=" ++
      Go.join "," (statuses.map AgentStatus.text) ++ " (pane exists)"]
    else []) ++
  ((core.sortedLeases.filter fun l => l.job = job).map fun l =>
    "lease=" ++ l.resource ++ "/" ++ l.kind.text) ++
  ((core.sortedQuotas.filter fun q => q.job = job).map fun q => "quota_pool=" ++ q.pool)

/-- The write transaction of `ReleaseOrphan`. -/
def releaseOrphanWrite (job : String) (snaps : Snapshots) (agents : List Agent) :
    Tx Orphan := do
  let cur ← query fun _ db => jobSnapshot db job
  Data.Tx.refuseIf ((Assoc.get snaps job ≠ none ∨ cur ≠ none) ∧
    sameSnapshot (Assoc.get snaps job) cur = false) (.snapshotChanged job)
  match ← query fun _ db => db.jobState job with
  | none => Data.Tx.fail (.jobNotFound job)
  | some state =>
    let moment ← now
    let label ← Data.Tx.lift fun _ o => claimAgentLabel o.db job
    Data.Tx.refuseIf (label = "") (.unmapped job)
    let (statuses, carried) := matchedStatuses agents job label
    let blockers ← query fun _ db => orphanBlockers db.core job label state statuses carried
    let blockers ← Data.Tx.lift fun c o =>
      if blockers = [] then
        return (← startupBlocker c.calendar o.db job moment).toList
      else return blockers
    Data.Tx.refuseIf (blockers ≠ [])
      (.orphanRefused job blockers (AgentStatus.unknown ∈ statuses))
    let eligible ← query fun _ db => db.core.eligible job
    Data.Tx.refuseIf (eligible = false) (.notEligible job)
    releaseJob ⟨job, label, statuses, carried, none⟩ moment true

end Panewire.Arbiter
