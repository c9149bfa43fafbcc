import Panewire.Arbiter.Store

/-!
# Claims, leases and quota-pool records

The operations that record one event each: `AppendEvent`, `Claim`, `ReleaseClaim`, `Acquire`,
`Release`, `RecordQuotaPool` and `ReleaseQuotaPool`. Every one of them checks everything it
refuses before its event, which is the last thing its body does.
-/

namespace Panewire.Arbiter

open Data

/-- the payload with these fields -/
def payload (fs : List (String × Option Json)) (h : (fs.map Prod.fst).Nodup) : Object :=
  Object.ofOptional fs h

/-! ## Events -/

/-- `AppendEvent` -/
def appendEvent (job kind : String) (body : Object) (seq : Option ℤ) : Tx ℤ := do
  Data.Tx.refuseIf (validJobID job = false) (.invalidJobID job)
  Data.Tx.refuseIf (["job.claim", "job.claimed", "job.reclaim"].contains kind = true ∨
    Go.hasSuffix (safeKind kind) "claim" = true) (.claimKindRefused kind)
  recordEvent job kind (fun _ => body) seq

/-! ## Claims -/

/-- A request to register a job. -/
structure Claim where
  job : String
  lane : String
  t : String
  role : String
  parentLane : String
  agentLabel : String
  taskID : String
  taskLinkOverride : String
  taskInheritedFrom : String
  reclaimReleased : Bool
  deriving DecidableEq

structure ClaimResult where
  job : String
  ownerLane : String
  tLevel : String
  agentLabel : String
  role : String
  parentLane : String
  created : Stamp
  updated : Stamp
  eventSeq : ℤ
  reclaimed : Bool
  previousCreated : Option Stamp
  deriving DecidableEq

/-- `isDigits` -/
def isDigits (s : String) : Bool := s ≠ "" && s.toList.all Char.isDigit

/-- The task id as a number where it is one that `strconv.Atoi` takes. -/
def taskIDField (task : String) : Option Json :=
  if task = "" then none
  else match Go.parseInt task with
    | some n => if isDigits task then some (.num n) else some (.str task)
    | none => some (.str task)

/-- `Claim.payload` -/
def Claim.payload (cl : Claim) (label : String) : Object :=
  Arbiter.payload [("owner_lane", some (.str cl.lane)), ("t_level", some (.str cl.t)),
    ("role", some (.str cl.role)), ("agent_label", some (.str label)),
    ("parent_lane", some (if cl.parentLane ≠ "" then .str cl.parentLane else .null)),
    ("task_id", taskIDField cl.taskID),
    ("task_link_override", Json.ofString cl.taskLinkOverride),
    ("task_inherited_from", Json.ofString cl.taskInheritedFrom)] (by simp)

/-- The payload of a re-claim also names the claim it replaces. -/
def Claim.reclaimPayload (cl : Claim) (label : String) (row : JobRow) (cal : Calendar) : Object :=
  ((cl.payload label).put "previous_created_at" (.str (row.created.text cal))).put
    "previous_owner_lane" (.str row.ownerLane)

def tLevels : List String := ["T0", "T1", "T2", "T3"]

/-- The role a claim is stored with: a worker by default, and a builder under its old name. -/
def claimRole (role : String) : String :=
  let role := if role = "" then "worker" else role
  if role = "captain" then "builder" else role

/-- The agent label a claim is stored with. -/
def Claim.label (cl : Claim) : String := if cl.agentLabel = "" then cl.job else cl.agentLabel

/-- `Claim` -/
def claim (cl : Claim) : Tx ClaimResult := do
  Data.Tx.refuseIf (validJobID cl.job = false) (.invalidJobID cl.job)
  let cl := { cl with role := claimRole cl.role }
  Data.Tx.refuseIf (cl.role ≠ "worker" ∧ cl.role ≠ "builder") (.unknownRole cl.role)
  Data.Tx.refuseIf (cl.role = "builder" ∧ cl.parentLane = "") .builderNeedsParent
  Data.Tx.refuseIf (cl.role ≠ "builder" ∧ cl.parentLane ≠ "") .parentForBuilderOnly
  Data.Tx.refuseIf (cl.lane = "" ∨ cl.t ∉ tLevels) .laneAndLevelNeeded
  let moment ← now
  match ← query fun _ db => db.core.jobs.find cl.job with
  | none =>
    exec fun _ core => { core with
      jobs := (core.jobs.insertNew ⟨cl.job, cl.lane, .claimed, cl.t, iso moment, iso moment⟩).1 }
    let seq ← recordEvent cl.job "job.claim" (fun _ => cl.payload cl.label) none
    pure ⟨cl.job, cl.lane, cl.t, cl.label, cl.role, cl.parentLane, iso moment, iso moment, seq,
      false, none⟩
  | some row =>
    Data.Tx.refuseIf (cl.reclaimReleased = false ∨ row.state ≠ .released) (.jobDuplicate row)
    exec fun _ core => { core with
      jobs := core.jobs.updateWhere (fun r => r.job = cl.job)
        (fun r => { r with
          ownerLane := cl.lane, state := .claimed, tLevel := cl.t, updated := iso moment })
        fun _ => rfl }
    let seq ← recordEvent cl.job "job.reclaim" (cl.reclaimPayload cl.label row) none
    pure ⟨cl.job, cl.lane, cl.t, cl.label, cl.role, cl.parentLane, row.created, iso moment, seq,
      true, some row.created⟩

/-- `ReleaseClaim` -/
def releaseClaim (job : String) : Tx ℤ := do
  match ← query fun _ db => db.core.jobs.find job with
  | none => Data.Tx.fail .noRows
  | some row =>
    Data.Tx.refuseIf (row.state ≠ .claimed) .notClaimed
    let checked ← now
    let held ← query fun cal db => db.core.held cal job checked
    Data.Tx.refuseIf (held ≠ 0) .claimHoldsResources
    let moment ← now
    exec fun cal core => core.settle cal job moment
    recordEvent job "job.spawn_aborted"
      (fun _ => payload [("retryable", some (.bool true))] (by simp)) none

/-! ## Leases -/

/-- A request for an exclusive lease. -/
structure LeaseReq where
  job : String
  resource : String
  kind : LeaseKind
  ttl : ℤ
  hasTTL : Bool
  deriving DecidableEq

/-- A granted lease. -/
structure Lease where
  row : LeaseRow
  eventSeq : ℤ
  /-- the job whose expired lease this one replaced -/
  superseded : String
  deriving DecidableEq

/-- `requireJob` -/
def requireJob (job : String) : Tx Unit := do
  let row ← query fun _ db => db.core.jobs.find job
  Data.Tx.refuseIf (row = none) (.jobNotRegistered job)

/-- `nextToken` -/
def nextToken : Tx Token := do
  exec fun _ core => { core with tokenSeq := core.tokenSeq + 1 }
  Data.Tx.read fun c o => ⟨o.db.core.tokenSeq, c.secret⟩

/-- An expired generation is kept as evidence before it is replaced; a live one refuses. -/
def supersede (held : Option LeaseRow) (moment : ℤ) : Tx Unit :=
  match held with
  | none => pure ()
  | some held => do
    match ← query fun cal _ => parseISO cal held.expires with
    | none => Data.Tx.fail (.timeUnreadable held.expires)
    | some expires =>
      Data.Tx.refuseIf (moment < expires) (.leaseHeld held)
      exec fun _ core => (core.archive held .superseded moment).1.deleteLease held.key

/-- `Acquire` -/
def acquire (req : LeaseReq) : Tx Lease := do
  Data.Tx.refuseIf (req.kind.exclusive = false) (.notExclusive req.kind)
  Data.Tx.refuseIf (req.resource = "" ∨ req.ttl < 0) .resourceAndTTLNeeded
  let ttl := if req.hasTTL then req.ttl else req.kind.defaultTTL
  let moment ← now
  requireJob req.job
  let held ← query fun _ db => db.core.getLease req.resource req.kind
  supersede held moment
  let superseded := (held.map (·.job)).getD ""
  let token ← nextToken
  let row : LeaseRow := ⟨req.resource, req.kind, req.job, token, iso moment, iso (moment + ttl)⟩
  exec fun _ core => { core with leases := (core.leases.insertNew row).1 }
  exec fun _ core => core.mark req.job .leased moment
  let seq ← recordEvent req.job "lease.acquire" (fun cal =>
    payload [("resource", some (.str req.resource)), ("kind", some (.str req.kind.text)),
      ("resolved_from", some (.str "resource")), ("token", some (.str (maskToken token.text))),
      ("expires_at", some (.str (row.expires.text cal))),
      ("superseded", some (if superseded ≠ "" then .str superseded else .null))] (by simp)) none
  pure ⟨row, seq, superseded⟩

/-- `Release` -/
def release (job resource : String) (kind : LeaseKind) (token : String) (force : Bool) :
    Tx ℤ := do
  Data.Tx.refuseIf (kind.exclusive = false) (.notExclusive kind)
  Data.Tx.refuseIf (force = false ∧ token = "") .tokenNeeded
  let moment ← now
  match ← query fun _ db => db.core.getLease resource kind with
  | none => Data.Tx.fail (.noLease resource kind)
  | some row =>
    Data.Tx.refuseIf (force = false ∧ (row.job ≠ job ∨ row.token.text ≠ token)) (.staleOwner row)
    let state := if force then .forceReleased else .released
    exec fun _ core => (core.archive row state moment).1.deleteLease row.key
    exec fun cal core => core.settle cal row.job moment
    recordEvent row.job (if force then "lease.release.force" else "lease.release") (fun _ =>
      payload [("resource", some (.str row.resource)), ("kind", some (.str row.kind.text)),
        ("token", some (.str (maskToken row.token.text))), ("forced", some (.bool force))]
        (by simp)) none

/-! ## Quota-pool records -/

/-- The record of one run, with what its gate said. -/
structure QuotaRun where
  job : String
  profile : String
  launchProfile : String
  pool : String
  audit : List (String × String)
  deriving DecidableEq

structure QuotaResult where
  row : QuotaRow
  eventSeq : ℤ
  deriving DecidableEq

def QuotaRun.payload (q : QuotaRun) (started : Stamp) (cal : Calendar) : Object :=
  q.audit.foldl (fun o a => o.put a.1 (.str a.2))
    (Arbiter.payload [("job_id", some (.str q.job)), ("pool", some (.str q.pool)),
      ("profile", some (.str q.profile)), ("started_at", some (.str (started.text cal))),
      ("launch_profile", Json.ofString q.launchProfile)] (by simp))

/-- `RecordQuotaPool` -/
def recordQuotaPool (q : QuotaRun) : Tx QuotaResult := do
  Data.Tx.refuseIf (q.pool = "" ∨ q.profile = "") .profileAndPoolNeeded
  let moment ← now
  requireJob q.job
  let row : QuotaRow := ⟨q.job, q.pool, q.profile, iso moment⟩
  let taken ← query fun _ db => (db.core.quotas.find row.key).isSome
  Data.Tx.refuseIf taken (.quotaDuplicate q.job q.pool q.profile)
  exec fun _ core => { core with quotas := (core.quotas.insertNew row).1 }
  exec fun _ core => core.mark q.job .leased moment
  let seq ← recordEvent q.job "quota_pool.record" (q.payload row.started) none
  pure ⟨row, seq⟩

/-- `ReleaseQuotaPool` -/
def releaseQuotaPool (job pool : String) (force : Bool) : Tx ℤ := do
  let moment ← now
  match ← query fun _ db => db.core.quotas.find (job, pool) with
  | none => Data.Tx.fail (.noQuotaRecord job pool)
  | some row =>
    exec fun _ core => core.deleteQuota (job, pool)
    exec fun cal core => core.settle cal job moment
    recordEvent job (if force then "quota_pool.release.force" else "quota_pool.release") (fun cal =>
      payload [("job_id", some (.str job)), ("pool", some (.str pool)),
        ("profile", some (.str row.profile)), ("started_at", some (.str (row.started.text cal))),
        ("forced", some (.bool force))] (by simp)) none

end Panewire.Arbiter
