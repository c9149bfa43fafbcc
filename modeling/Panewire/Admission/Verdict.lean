import Panewire.Admission.Rungs
import Panewire.Data.Assoc
import Panewire.Data.Float64

/-!
# The admission verdict

One request is judged from the catalog, the operator's policy for the pools and the readings of
their quota. After the seat, the subscription and the rung are settled, the **windows** that gate
the rung must be below the cutoff and must cover what the pool requires. Without a usable reading
the operator's own entries take its place. A rung behind the **escalation** gate is refused while an
ordinary rung of its grade would be admitted, and to find out the judge calls itself.

* `settle` — everything but that last rule: a verdict, or an admission that is pending;
* `judgeWith` — the judge; it may run out of fuel.
-/

namespace Panewire.Admission

open Data

/-! ## What the judge reads -/

structure AdmissionBucket where
  window : String
  /-- when the window resets; none if the text is no instant -/
  reset : Option ℤ := none
  used : Option F64
  /-- account, model or group -/
  scopeKind : String := ""
  scopeName : String := ""
  deriving DecidableEq

inductive FreeState where
  | available
  | exhausted
  | unknown
  deriving DecidableEq

structure AdmissionFree where
  state : FreeState
  reset : Option ℤ := none
  deriving DecidableEq

/-- The stored reading of an account. -/
structure AdmissionReading where
  plan : String := ""
  fp : String := ""
  buckets : List AdmissionBucket := []
  free : Option AdmissionFree := none
  deriving DecidableEq

/-- A window that the operator entered. -/
structure AdmissionManual where
  id : String
  window : String
  reset : Option ℤ := none
  measuredAt : Option ℤ
  expiresAt : Option ℤ
  used : Option F64
  deriving DecidableEq

inductive PoolClass where
  | spend
  | preserve
  | exclude
  deriving DecidableEq

structure AdmissionPoolPolicy where
  poolClass : Option PoolClass := none
  /-- the last day of the class; `some none` is a text that is no date -/
  untilDay : Option (Option ℤ) := none
  cutoff : F64 := .num 0
  subscribed : Option Bool := none
  fusionBillingFP : String := ""
  inflightReservePct : List (String × F64) := []
  deriving DecidableEq

structure AdmissionPolicy where
  pools : List (String × AdmissionPoolPolicy) := []
  profiles : List (String × Option Bool) := []
  deriving DecidableEq

/-- How numbers and instants are written, and the pace of a window. -/
structure Rendering where
  /-- `%g` -/
  number : F64 → String
  /-- `%.2f` -/
  decimals : F64 → String
  instant : ℤ → String
  /-- the used share of a window over its elapsed share, if it can be paced -/
  pace : AdmissionBucket → ℤ → Option F64

structure AdmissionInputs where
  now : ℤ
  catalog : Catalog
  policy : AdmissionPolicy := {}
  readings : List (String × AdmissionReading) := []
  manual : List (String × List AdmissionManual) := []
  /-- a named account is judged -/
  accountScoped : Bool := false
  rendering : Rendering

structure AdmissionVerdict where
  ok : Bool := false
  exit : GateExit := .blocked
  profile : String
  pool : String
  grade : Option Grade := none
  poolClass : Option PoolClass := none
  reason : String := ""
  usedPct : Option F64 := none
  basis : String := ""
  e6Arm : String := ""
  missing : List String := []
  escalationOverride : Bool := false
  operatorRequestRef : String := ""
  requestedBy : String := ""
  source : String := ""
  manualIDs : List String := []
  inflight : String := ""
  deriving DecidableEq

def AdmissionVerdict.refuse (d : AdmissionVerdict) (code : GateExit) (reason : String) :
    AdmissionVerdict :=
  { d with ok := false, exit := code, reason }

/-! ## Policy -/

/-- The setting of a pool; the zero value if there is none. -/
def AdmissionPolicy.setting (p : AdmissionPolicy) (name : String) : AdmissionPoolPolicy :=
  (Assoc.get p.pools name).getD {}

/-- A pool's policy as it applies now. -/
structure EffectivePolicy where
  poolClass : PoolClass
  cutoff : F64
  fusionBillingFP : String
  inflightReserve : Bool

def nanosPerDay : ℤ := 86400 * 1000000000

def AdmissionPolicy.pool (p : AdmissionPolicy) (name : String) (now : ℤ) : EffectivePolicy :=
  let setting := p.setting name
  let expired := setting.untilDay.any fun day => day.all (· < now / nanosPerDay)
  { poolClass := if expired then .spend else setting.poolClass.getD .spend
    cutoff := if setting.cutoff = .num 0 then .num 99 else setting.cutoff
    fusionBillingFP := setting.fusionBillingFP
    inflightReserve := setting.inflightReservePct ≠ [] }

/-- A profile's own setting wins over its pool's. -/
def AdmissionPolicy.subscribed (p : AdmissionPolicy) (profile pool : String) : Bool :=
  match (Assoc.get p.profiles profile).join with
  | some s => s
  | none => (p.setting pool).subscribed.getD true

/-! ## Windows -/

def admissionValidPct : Option F64 → Bool
  | some (.num q) => 0 ≤ q && q ≤ 100
  | _ => false

def creditAccountPools : List String := ["anthropic-api", "openai-api"]

variable (inp : AdmissionInputs) (pool : String)

/-- The windows that a reading of the pool must cover. -/
def requiredWindows (plan : String) (manual : Bool) : List String :=
  if pool ∈ creditAccountPools ∨ manual ∧ pool = "commandcode" then ["credit"]
  else if pool = "codex" then
    if admissionNormalize plan = "prolite" then ["7d"]
    else if admissionNormalize plan = "free" then ["30d"]
    else ["5h", "7d"]
  else if pool = "commandcode" then ["5h", "7d", "30d"]
  else if pool ∈ ["claude", "kimi", "agy"] then ["5h", "7d"]
  else if pool ∈ ["grok", "devin"] then ["7d"]
  else if pool = "kiro" then ["30d"]
  else if pool = "clinepass" then ["5h", "7d", "30d"]
  else []

/-- Why missing windows refuse, or nothing. -/
def missingWindowRefusal (plan : String) (missing : List String) : String :=
  if missing = [] then ""
  else if pool = "codex" ∧ plan ∈ ["plus", "prolite", "free"] then
    "codex_required_window_missing:" ++ Go.join "," missing
  else if pool = "commandcode" ∧ "30d" ∈ missing then "commandcode_required_window_missing:30d"
  else ""

/-- The windows that gate a rung. -/
def matchingBuckets (buckets : List AdmissionBucket) (group : String) : List AdmissionBucket :=
  buckets.filter fun b => (b.scopeKind = "account" || b.scopeKind = "" ||
    (b.scopeKind = "group" && b.scopeName = group)) && admissionValidPct b.used

/-- The last entry of each window. -/
def latestManual (entries : List AdmissionManual) : List AdmissionManual :=
  entries.filter fun m => (entries.reverse.find? (·.window = m.window)) = some m

/-- The operator's entries that hold now, in the order of their windows. -/
def validManual (entries : List AdmissionManual) (now : ℤ) : List AdmissionManual :=
  ((latestManual entries).dedup.filter fun m => admissionValidPct m.used &&
    m.measuredAt.any (· ≤ now + 60 * 1000000000) && m.expiresAt.any (now < ·) &&
    m.reset.all (now < ·)).insertionSort fun a b => a.window ≤ b.window

/-! ## The judge -/

/-- SWE-2 profiles and the free bucket that each draws on. -/
def devinFreeRungs : List (String × String) :=
  [("devin-swe2", "swe-2-high"), ("devin-swe2-medium", "swe-2-medium"),
    ("devin-swe2-max", "swe-2-max"), ("devin-swe2-flash", "swe-2-flash-high"),
    ("devin-swe2-flash-medium", "swe-2-flash-medium")]

variable (req : AdmissionRequest)

/-- What is wrong with the form of a request. -/
def checkRequest : Option GateDenial :=
  if req.requestedBy ≠ "" ∧ req.operatorRequest = "" then
    some ⟨.blocked, "requested_by_requires_operator_request"⟩
  else if req.operatorRequest ≠ "" ∧ !admissionValidRef req.operatorRequest then
    some ⟨.blocked, "operator_request_ref_invalid"⟩
  else if Go.containsAny req.requestedBy " \t\n\r\x00" ∨ 80 < req.requestedBy.utf8ByteSize then
    some ⟨.blocked, "requested_by_invalid"⟩
  else none

/-- How the rung may be asked for. -/
def checkPlacement (row : AdmissionRow) : Option GateDenial :=
  if req.operatorRequest ≠ "" ∧ row.gate = .default then
    some ⟨.blocked, "operator_request_not_applicable: ordinary placement"⟩
  else if row.gate = .consultOnly ∧ req.operatorRequest = "" ∧ req.profile ≠ "codex-astra" then
    some ⟨.blocked, "consult_only: pass --operator-request"⟩
  else none

/-- Go on if nothing is wrong. -/
def AdmissionVerdict.unless (d : AdmissionVerdict) (denial : Option GateDenial) :
    Except AdmissionVerdict Unit :=
  match denial with
  | some e => .error (d.refuse e.code e.msg)
  | none => .ok ()

/-- A rung whose seat, subscription and policy allow the request. -/
structure Opened where
  d : AdmissionVerdict
  row : AdmissionRow
  resolved : String
  arm : String

/-- Windows that were found and are below the cutoff. -/
structure Pending extends Opened where
  buckets : List AdmissionBucket
  maxUsed : F64

namespace AdmissionInputs

/-- The pool of the first rung on offer stands for the profile's. -/
def hintPool (profile : String) : String :=
  ((profileRows inp.catalog.rows profile).head?.map (·.pool)).getD ""

/-- The seat and the subscription, as far as the profile decides them. The row matters to the role
check of credit rungs alone, which are checked with their own. -/
def checkProfile : Option GateDenial :=
  let hint : AdmissionRow := ((profileRows inp.catalog.rows req.profile).head?).getD
    { profile := "", effort := "", modelID := "", pool := "", grade := .unrated
      gate := .consultOnly }
  match if admissionCredit req.profile then none else admissionRoleCheck req hint with
  | some e => some e
  | none =>
    if !inp.policy.subscribed req.profile (inp.hintPool req.profile) then
      some ⟨.unsubscribed, "unsubscribed: profile or pool subscription disabled"⟩
    else checkRequest req

/-- An effort that was asked for needs its marker. -/
def checkMarker (allowUnrated : Bool) : Option GateDenial :=
  if (profileRows inp.catalog.rows req.profile).any fun r => req.effort ≠ "" &&
      r.effort = admissionNormalize req.effort && admissionMarkerRequired r allowUnrated &&
      req.e6Arm ≠ armOf req.profile r.effort then
    some ⟨.blocked, "e6_arm_required: exact measurement marker required"⟩
  else none

/-- What the policy or the billing account says against the rung. -/
def checkPool (row : AdmissionRow) : Option GateDenial :=
  let policy := inp.policy.pool row.pool inp.now
  if policy.poolClass = .exclude then some ⟨.blocked, "pool excluded by policy"⟩
  else if Go.hasPrefix req.profile "devin-fusion-sol61" ∧ (policy.fusionBillingFP = "" ∨
      (Assoc.get inp.readings row.pool).map (·.fp) ≠ some policy.fusionBillingFP) then
    some ⟨.unmeasurable, "fusion_billing_account_unavailable"⟩
  else none

/-- Everything that is decided before quota is looked at. -/
def opening (allowUnrated : Bool) : Except AdmissionVerdict Opened := do
  let d : AdmissionVerdict := { profile := req.profile, pool := inp.hintPool req.profile }
  d.unless (inp.checkProfile req)
  d.unless (inp.checkMarker req allowUnrated)
  match resolveRow inp.catalog.rows req allowUnrated with
  | .error e => .error (d.refuse e.code e.msg)
  | .ok (row, resolved, arm) => do
    let d := { d with pool := row.pool, grade := if row.placed then some row.grade else none }
    d.unless (admissionRoleCheck req row)
    d.unless (checkPlacement req row)
    let requestedBy := if req.requestedBy = "" then "unknown" else req.requestedBy
    let d := { d with
      operatorRequestRef := req.operatorRequest
      requestedBy := if req.operatorRequest = "" then "" else requestedBy
      poolClass := some (inp.policy.pool row.pool inp.now).poolClass }
    d.unless (inp.checkPool req row)
    .ok ⟨d, row, resolved, arm⟩

/-- The reading of a pool; the zero value if there is none. -/
def reading : AdmissionReading := (Assoc.get inp.readings pool).getD {}

/-- Why the free bucket of a named account refuses. -/
def checkFree (free : Option AdmissionFree) : Option GateDenial :=
  match free with
  | none | some ⟨.unknown, _⟩ => some ⟨.unmeasurable, "shared free bucket state unavailable"⟩
  | some ⟨.exhausted, none⟩ =>
    some ⟨.unmeasurable, "shared free bucket exhausted without a reset time"⟩
  | some ⟨.exhausted, some reset⟩ =>
    if inp.now < reset then
      some ⟨.blocked, "free limit exceeded until " ++ inp.rendering.instant reset⟩
    else none
  | some ⟨.available, _⟩ => none

/-- The verdict on a rung of the free bucket. -/
def judgeFree (o : Opened) (rung : String) : AdmissionVerdict :=
  match if inp.accountScoped then inp.checkFree (inp.reading o.row.pool).free else none with
  | some e => o.d.refuse e.code e.msg
  | none =>
    { o.d with
      ok := true
      exit := .admitted
      usedPct := some (.num 0)
      basis := "free-bucket:" ++ rung
      reason := "available (free): SWE-2 free bucket; account credits do not constrain this rung" }

/-- The cutoff of a pool; a pool to be preserved has a lower one by default. -/
def cutoff : F64 :=
  let policy := inp.policy.pool pool inp.now
  if (inp.policy.setting pool).cutoff = .num 0 ∧ policy.poolClass = .preserve then .num 90
  else policy.cutoff

def exhaustedAt (cutoff : F64) (b : AdmissionBucket) : Bool := b.used.any (cutoff.le ·)

/-- The refusal of a window at the cutoff. -/
def refuseExhausted (d : AdmissionVerdict) (cutoff : F64) (b : AdmissionBucket) :
    AdmissionVerdict :=
  { d with usedPct := b.used }.refuse .blocked
    ("quota exhausted window=" ++ b.window ++ " cutoff=" ++ inp.rendering.number cutoff)

/-- A window of commandcode that has been reset is not held against it at first. -/
def wasReset (b : AdmissionBucket) : Bool :=
  pool = "commandcode" && b.reset.any (· ≤ inp.now)

/-- The windows that the operator entered, as evidence. -/
def manualBuckets : List AdmissionBucket :=
  (validManual ((Assoc.get inp.manual pool).getD []) inp.now).map fun m =>
    { window := m.window, used := m.used, reset := m.reset, scopeKind := "account" }

/-- The evidence for a rung: the windows of the reading, or the operator's if none gates it. -/
def evidence (o : Opened) : Except AdmissionVerdict (AdmissionVerdict × List AdmissionBucket) :=
  let pool := o.row.pool
  let reading := inp.reading pool
  let buckets := matchingBuckets reading.buckets o.row.group
  if (Assoc.get inp.readings pool).isNone ∨ buckets = [] then
    let manual := validManual ((Assoc.get inp.manual pool).getD []) inp.now
    match (requiredWindows pool reading.plan true).find? fun w => !manual.any (·.window = w) with
    | some w => .error (o.d.refuse .unmeasurable
        ("measurement unavailable; manual fallback missing required window " ++ w))
    | none =>
      if manual = [] then .error (o.d.refuse .unmeasurable "measurement unavailable")
      else .ok ({ o.d with source := "operator", manualIDs := manual.map (·.id) },
        inp.manualBuckets pool)
  else .ok (o.d, buckets)

/-- The highest use. -/
def maxUsed (buckets : List AdmissionBucket) : F64 :=
  buckets.foldl (fun acc b => acc.max (b.used.getD .nan)) (.num (-1))

/-- The required windows that the evidence does not have. -/
def missingWindows (required : List String) (buckets : List AdmissionBucket) : List String :=
  required.filter fun w => !buckets.any (·.window = w)

/-- The windows of a rung against the cutoff and against what is required. -/
def weigh (o : Opened) : Except AdmissionVerdict Pending := do
  let pool := o.row.pool
  let cutoff := inp.cutoff pool
  let reading := inp.reading pool
  match (matchingBuckets reading.buckets o.row.group).find? fun b =>
      exhaustedAt cutoff b && !inp.wasReset pool b with
  | some b => .error (inp.refuseExhausted o.d cutoff b)
  | none => do
    let (d, buckets) ← inp.evidence o
    let valid := buckets.filter fun b => admissionValidPct b.used
    match valid.find? (exhaustedAt cutoff) with
    | some b => .error (inp.refuseExhausted d cutoff b)
    | none =>
      let used := maxUsed valid
      if used.lt (.num 0) then
        .error (d.refuse .unmeasurable "no measured matching quota windows")
      else
        let missing :=
          missingWindows (requiredWindows pool reading.plan (d.source = "operator")) valid
        let d := { d with usedPct := some used, missing }
        let why := missingWindowRefusal pool reading.plan missing
        if why ≠ "" then .error (d.refuse .unmeasurable why)
        else
          let inflight := if (inp.policy.pool pool inp.now).inflightReserve then
            "inflight=unknown(local)" else ""
          .ok { o with d := { d with inflight }, buckets, maxUsed := used }

/-- The verdict on a request, or an admission to which only the escalation rule may object. -/
def settle (allowUnrated : Bool) : Except AdmissionVerdict Pending := do
  let o ← inp.opening req allowUnrated
  match Assoc.get devinFreeRungs req.profile with
  | some rung => .error (inp.judgeFree o rung)
  | none => inp.weigh o

/-- The name of a class in a reason. -/
def className : PoolClass → String
  | .spend => "spend"
  | .preserve => "preserve"
  | .exclude => "exclude"

def paceWarnings (p : Pending) : String :=
  String.join (p.buckets.map fun b =>
    match inp.rendering.pace b inp.now with
    | some pace => if (F64.num 1).lt pace then
        "\npace-warning pool=" ++ p.row.pool ++ " window=" ++ b.window ++ " multiple=" ++
          inp.rendering.decimals pace
      else ""
    | none => "")

/-- The admission. -/
def conclude (p : Pending) : AdmissionVerdict :=
  let rung := if p.resolved = "" then "" else " [rung " ++ armOf req.profile p.resolved ++ "]"
  { p.d with
    ok := true
    exit := .admitted
    e6Arm := p.arm
    escalationOverride := p.row.gate = .escalation && req.operatorRequest ≠ ""
    reason := req.profile ++ " pool=" ++ p.row.pool ++ " used=" ++ inp.rendering.number p.maxUsed ++
      "% class=" ++ className (inp.policy.pool p.row.pool inp.now).poolClass ++ rung ++
      inp.paceWarnings p }

/-- The ordinary rungs of the same grade, as requests for the same seat. -/
def alternatives (row : AdmissionRow) : List AdmissionRequest :=
  (inp.catalog.rows.filter fun other => other.profile ≠ req.profile && other.grade = row.grade &&
    other.gate = .default && other.placed).map fun other =>
      { profile := other.profile, effort := other.effort, role := req.role }

end AdmissionInputs

/-- Ask one after the other until one is admitted; nothing comes back if one does not return. -/
def anyAdmitted (judge : AdmissionRequest → Option AdmissionVerdict) :
    List AdmissionRequest → Option Bool
  | [] => some false
  | req :: reqs =>
    match judge req with
    | none => none
    | some d => if d.ok then some true else anyAdmitted judge reqs

/-- The judge, with fuel for its recursion through the alternatives. -/
def AdmissionInputs.judgeWith (inp : AdmissionInputs) :
    ℕ → AdmissionRequest → Bool → Option AdmissionVerdict
  | 0, _, _ => none
  | fuel + 1, req, allowUnrated =>
    match inp.settle req allowUnrated with
    | .error d => some d
    | .ok p =>
      if p.row.gate = .escalation ∧ req.effort = "" ∧ req.operatorRequest = "" then
        match anyAdmitted (fun other => inp.judgeWith fuel other (admissionUnratedRole other))
            (inp.alternatives req p.row) with
        | none => none
        | some true =>
          some (p.d.refuse .blocked "escalation: same-grade ordinary alternative available")
        | some false => some (inp.conclude req p)
      else some (inp.conclude req p)

def AdmissionInputs.judge (inp : AdmissionInputs) (fuel : ℕ) (req : AdmissionRequest) :
    Option AdmissionVerdict :=
  inp.judgeWith fuel req (admissionUnratedRole req)

end Panewire.Admission
