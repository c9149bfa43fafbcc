import Mathlib.Data.String.Basic
import Panewire.Data.Float64

/-!
# Classifying a selection candidate

A candidate is one catalog rung on one account. `classify` gives it its quota **tier** and its waste
risk from the view of the account's pool, or drops it with a reason; a candidate whose reason stays
empty **survives** and is ranked.

* a credit pool's candidate is in the credit tier, or at waste risk while its balance expires;
* a paid pool's candidate is at waste risk when its longest window is about to lose quota;
* a candidate whose reading says too little is read once more after a refresh.
-/

namespace Panewire.Select

open Data

/-- Arithmetic on numbers, rounding as it may; nothing here depends on how. -/
structure Arith where
  mul : F64 → F64 → F64
  sub : F64 → F64 → F64
  div : F64 → F64 → F64
  /-- A duration in nanoseconds as hours. -/
  hours : ℤ → F64

/-! ## What a candidate is judged on -/

structure CatalogRow where
  profile : String
  effort : String
  grade : String
  modelId : String
  pool : String
  score : Option F64
  group : String
  deriving DecidableEq

structure FreeSet where
  pool : String
  models : List String

/-- The pool order policy with its defaults filled in. -/
structure PoolPolicy where
  order : List String
  free : List FreeSet
  creditPools : List String
  wasteBelow : F64
  excludeAt : F64
  horizonHours : F64
  minUnusedPct : F64

structure CreditBalance where
  leftPct : F64
  balanceUSD : Option F64
  burnUSDPerH : F64
  /-- `none` when no expiry is recorded -/
  expiresAt : Option ℤ
  deriving DecidableEq

structure PoolView where
  status : String
  stale : Bool
  cls : String
  waste : Option Bool
  blocking : Option F64
  projected : Option F64
  urgency : Option F64
  resetHours : Option F64
  longProjected : Option F64
  shortUsed : Option F64
  credit : Option CreditBalance
  group : String

/-- The view of an account, with one view per metering group where the reading has groups. -/
structure AccountView where
  whole : PoolView
  groups : List (String × PoolView)

inductive Outcome where
  | quotaExhausted
  | quotaUnknown
  | authUnavailable
  | noEligibleHost
  | policyUnavailable
  | noRoleCandidate
  deriving DecidableEq

/-- The outcome's code in lower case, which is the reason of a candidate that could not be read. -/
def Outcome.reason : Outcome → String
  | .quotaExhausted => "quota_exhausted"
  | .quotaUnknown => "quota_unknown"
  | .authUnavailable => "auth_unavailable"
  | .noEligibleHost => "no_eligible_host"
  | .policyUnavailable => "policy_unavailable"
  | .noRoleCandidate => "no_role_candidate"

structure CreditFinal where
  balance : CreditBalance
  hoursLeft : F64
  burnUSDPerH : Option F64
  atRiskUSD : Option F64
  usdUrgency : Option F64
  deriving DecidableEq

structure SelCand where
  row : CatalogRow
  accountKey : String
  ignoreGrade : Bool
  tier : ℤ := -1
  tierName : String := ""
  blocking : Option F64 := none
  projected : Option F64 := none
  urgency : Option F64 := none
  resetHrs : Option F64 := none
  reason : String := ""
  outcome : String := ""
  code : Option Outcome := none
  exhausted : Bool := false
  risk : Bool := false
  unused : Option F64 := none
  creditPool : Bool := false
  credit : Option CreditFinal := none
  usdUrgency : Option F64 := none
  creditLeft : Bool := false
  longProj : Option F64 := none
  paced : Bool := false
  behindCredit : Bool := false
  wasteGroup : String := ""
  deriving DecidableEq

/-- The round a candidate is selected in. -/
structure SelPlan where
  policy : PoolPolicy
  now : ℤ
  creditAt : Option ℤ
  /-- the role is one of the top roles, which ignore the grade -/
  top : Bool
  /-- the metering group of a model id -/
  agyGroup : String → String

/-! ## The policy's rules -/

/-- The position of a name, −1 when it is not there. -/
def index (names : List String) (name : String) : ℤ :=
  match names.idxOf? name with
  | some i => i
  | none => -1

namespace PoolPolicy

variable (p : PoolPolicy)

def isFree (row : CatalogRow) : Bool :=
  p.free.any fun fs => fs.pool == row.pool && (fs.models.isEmpty || fs.models.contains row.modelId)

def isCredit (pool : String) : Bool := p.creditPools.contains pool

end PoolPolicy

section Rules

variable (A : Arith)

def longProjection (v : PoolView) : Option F64 :=
  match v.longProjected, v.urgency, v.resetHours with
  | some x, _, _ => some x
  | none, some u, some h => some (A.sub (.num 100) (A.mul u h))
  | none, _, _ => if v.shortUsed.isNone then v.projected else none

/-- Whether an optional number is at least a bound. -/
def atLeast (x : Option F64) (bound : F64) : Bool := x.any fun x => bound.le x

namespace PoolPolicy

def tierOf (p : PoolPolicy) (row : CatalogRow) (v : PoolView) : String × ℤ :=
  if p.isFree row then ("free", index p.order "free")
  else if v.cls == "exclude" then ("", -1)
  else if p.isCredit row.pool || v.cls == "credit" then ("credit", index p.order "credit")
  else if v.status != "ok" || v.stale || v.cls != "spend" then ("", -1)
  else
    let wasted := match longProjection A v with
      | some long => long.lt p.wasteBelow
      | none => v.waste == some true
    let tier := if wasted then "waste" else "ranked"
    (tier, index p.order tier)

def paced (p : PoolPolicy) (row : CatalogRow) (free risk : Bool) (v : PoolView) : Bool :=
  !(free || risk || p.isCredit row.pool || v.cls == "credit") &&
    atLeast (longProjection A v) (.num 100)

/-- Whether the pool is about to lose quota, with the share that would be lost. -/
def wasteRisk (p : PoolPolicy) (row : CatalogRow) (free : Bool) (v : PoolView) :
    Bool × Option F64 :=
  match v.urgency, v.resetHours with
  | some u, some h =>
    if h.le (.num 0) then (false, none)
    else
      let unused := A.mul u h
      if free || p.isCredit row.pool || v.status != "ok" || v.stale || v.cls != "spend" then
        (false, some unused)
      else if F64.lt (.num 0) p.horizonHours && p.horizonHours.lt h then (false, some unused)
      else (p.minUnusedPct.le unused, some unused)
  | _, _ => (false, none)

def exhaustReason (p : PoolPolicy) (v : PoolView) (risk : Bool) : String :=
  if atLeast v.shortUsed (.num 100) || atLeast v.blocking (.num 100) then "window_exhausted"
  else if !risk then ""
  else if atLeast (longProjection A v) p.excludeAt then "projected_exhaust"
  else ""

end PoolPolicy

/-- The hours until a positive balance with a future expiry is lost. -/
def CreditBalance.expiring (c : CreditBalance) (now : ℤ) : Option F64 :=
  match c.expiresAt with
  | none => none
  | some expiry =>
    let hours := A.hours (expiry - now)
    if c.leftPct.le (.num 0) then none else if F64.lt (.num 0) hours then some hours else none

/-! ## Classification -/

variable (p : SelPlan)

/-- The time at which credit is judged. -/
def SelPlan.creditTime (p : SelPlan) : ℤ := p.creditAt.getD p.now

variable (c : SelCand)

/-- Reads the view's numbers into the candidate. -/
def readView (v : PoolView) : SelCand :=
  { c with
    blocking := v.blocking, projected := v.projected, urgency := v.urgency
    resetHrs := v.resetHours, longProj := longProjection A v, wasteGroup := v.group }

/-- A balance with `hours` left competes by the dollars, or else the share, that would be lost. -/
def expireCredit (balance : CreditBalance) (hours : F64) : SelCand :=
  match balance.balanceUSD with
  | some usd =>
    let burn := balance.burnUSDPerH
    let atRisk := F64.mathMax (.num 0) (A.sub usd (A.mul burn hours))
    let usdUrgency := A.div atRisk hours
    let c :=
      { c with
        creditLeft := true
        credit := some ⟨balance, hours, some burn, some atRisk, some usdUrgency⟩
        usdUrgency := some usdUrgency }
    if F64.lt (.num 0) atRisk then
      { c with tierName := "waste", tier := index p.policy.order "waste", risk := true }
    else c
  | none =>
    { c with
      creditLeft := true
      credit := some ⟨balance, hours, none, none, none⟩
      tierName := "waste", tier := index p.policy.order "waste", risk := true
      urgency := some (A.div balance.leftPct hours), resetHrs := some hours
      unused := some balance.leftPct }

/-- A credit pool's candidate. -/
def classifyCredit (v : PoolView) : SelCand :=
  let c :=
    { c with
      creditPool := true, creditLeft := false
      tierName := "credit", tier := index p.policy.order "credit" }
  if v.cls == "exclude" then
    { c with
      reason := "pool_excluded", code := some .noRoleCandidate, outcome := "dropped:pool_excluded" }
  else
    match v.credit with
    | none => c
    | some balance =>
      match balance.expiring A p.creditTime with
      | none => c
      | some hours => expireCredit A p c balance hours

/-- Drops the candidate with a reason and an outcome. -/
def SelCand.drop (reason : String) (code : Outcome) : SelCand :=
  { c with reason := reason, code := some code, outcome := "dropped:" ++ reason }

/-- The pace of a pool that is not credit: waste risk, and whether it will be used up. -/
def paceView (v : PoolView) : SelCand :=
  let free := p.policy.isFree c.row
  let risk := p.policy.wasteRisk A c.row free v
  { c with
    risk := risk.1, unused := risk.2, paced := p.policy.paced A c.row free risk.1 v
    exhausted := if free then atLeast v.projected p.policy.excludeAt else c.exhausted }

/-- Why a candidate is dropped for what was already used; a free one keeps the reason it has. -/
def usedUp (v : PoolView) : String :=
  if p.policy.isFree c.row then c.reason
  else
    let reason := p.policy.exhaustReason A v c.risk
    if reason = "" && atLeast v.blocking (.num 100) then "window_exhausted" else reason

/-- The tier of a candidate that is not used up; without one, or without a reading, it is dropped.
-/
def tierView (v : PoolView) : SelCand :=
  let tier := p.policy.tierOf A c.row v
  let c := { c with reason := "", tierName := tier.1, tier := tier.2 }
  if tier.2 < 0 || (!p.policy.isFree c.row && v.blocking.isNone && v.projected.isNone) then
    c.drop "quota_unknown" .quotaUnknown
  else c

/-- A paid or free pool's candidate. -/
def classifyPaid (v : PoolView) : SelCand :=
  let c := paceView A p c v
  if usedUp A p c v ≠ "" then c.drop (usedUp A p c v) .quotaExhausted else tierView A p c v

def classify (v : PoolView) : SelCand :=
  let c := readView A c v
  if p.policy.isCredit c.row.pool || v.cls == "credit" then classifyCredit A p c v
  else classifyPaid A p c v

def CatalogRow.meteringGroup (row : CatalogRow) (agyGroup : String → String) : String :=
  if row.pool != "agy" then ""
  else if row.group == "gemini" || row.group == "3p" then row.group
  else if agyGroup row.modelId == "gemini" || agyGroup row.modelId == "3p" then agyGroup row.modelId
  else ""

/-- The view a rung is judged on: its own metering group's where the reading has groups. -/
def AccountView.forRung (account : AccountView) (row : CatalogRow) (agyGroup : String → String) :
    Option PoolView :=
  if account.groups.isEmpty then some account.whole
  else if row.meteringGroup agyGroup = "" then some account.whole
  else account.groups.lookup (row.meteringGroup agyGroup)

def classifyRung (account : AccountView) : SelCand :=
  match account.forRung c.row p.agyGroup with
  | none => c.drop "quota_unknown" .quotaUnknown
  | some v => classify A p c v

/-! ## One candidate of the round -/

/-- What a refresh measures of one window set: such a view is always an `ok` view of class `spend`
without a credit balance. -/
structure Reading where
  blocking : Option F64
  projected : Option F64
  urgency : Option F64
  resetHours : Option F64
  longProjected : Option F64
  shortUsed : Option F64
  group : String

def Reading.view (r : Reading) : PoolView :=
  { status := "ok", stale := false, cls := "spend", waste := none, blocking := r.blocking
    projected := r.projected, urgency := r.urgency, resetHours := r.resetHours
    longProjected := r.longProjected, shortUsed := r.shortUsed, credit := none, group := r.group }

structure AccountReading where
  whole : Reading
  groups : List (String × Reading)

def AccountReading.view (r : AccountReading) : AccountView :=
  ⟨r.whole.view, r.groups.map fun g => (g.1, g.2.view)⟩

/-- What the round could read about one candidate's account. -/
structure Reads where
  /-- the credit pool's view, `none` when the pools could not be read -/
  credit : Option PoolView
  /-- the account's view, `none` when it could not be read -/
  account : Option AccountView
  /-- the account measured again, `none` when that failed -/
  refreshed : Option AccountReading
  /-- the outcome of a failed read -/
  failure : Outcome

/-- A candidate no rule has dropped yet. -/
def fresh (row : CatalogRow) (accountKey : String) : SelCand :=
  { row := row, accountKey := accountKey, ignoreGrade := p.top }

/-- Classifies a candidate again on what a refresh measured. -/
def reclassify (x : SelCand) (reads : Reads) : SelCand :=
  match reads.refreshed with
  | some again => classifyRung A p { x with reason := "", code := none, outcome := "" } again.view
  | none => x.drop reads.failure.reason reads.failure

/-- Classifies one rung on one account as the round does. -/
def consider (row : CatalogRow) (accountKey : String) (reads : Reads) : SelCand :=
  let x := fresh p row accountKey
  if p.policy.isCredit row.pool then
    match reads.credit with
    | none => x.drop "quota_unknown" .quotaUnknown
    | some v => classify A p x v
  else
    match reads.account with
    | none => x.drop reads.failure.reason reads.failure
    | some account =>
      let x := classifyRung A p x account
      if x.code = some .quotaUnknown then reclassify A p x reads else x

end Rules

end Panewire.Select
