import Mathlib.Data.List.Dedup
import Panewire.HubJobs.State
import Panewire.Text.Contains
import Panewire.Placement.Cache
import Panewire.Placement.Score

/-!
# Placement candidates

For every machine of the policy the hub puts together what it knows: the node's connection and last
reports, the operator's override, and the metrics. What stands against the machine is collected as
a list of reasons, and everything that refuses work says `not_accepting` in it. The decision is made
from these **candidates** alone.

Next to them stand the facts about a machine that a decision has to respect, read directly from the
state: `full`, `switchedOff`, `refuses` and `usable`. A candidate tells them: `usable_candidate`.
-/

namespace Panewire.Placement

open Go Data

/-! ## What is read -/

/-- The operator's policy: the local machine first, then the spill targets in their order. -/
structure PlacementPolicy (F : Type) where
  tags : List (String × List String) := []
  localMachine : String
  spillTargets : List String
  maxActiveJobs : ℤ
  wakeOnSpill : Bool := false
  memoryFreePctMin : Option F := none
  spawnBridgeSeconds : ℤ := 0
  score : PlacementScoreConfig F := {}
  /-- how many tasks a machine may hold -/
  machines : List (String × ℤ) := []
  power : List (String × F) := []
  laptops : List String := []

structure HubHostMemory (F : Type) where
  freePct : Option F := none
  swapUsedMB : Option F := none
  swapInPerS : Option F := none
  pressure : Option F := none

/-- A node's record, with the measurements that placement reads. -/
structure MeasuredNode (F : Type) extends HubJobs.HubNodeRecord where
  accepting : Bool
  connectedSince : Option ℤ := none
  hostMemory : Option (HubHostMemory F) := none
  powerSource : String := ""
  /-- when power was last reported -/
  powerAt : Option ℤ := none

structure HubBurstHold where
  target : String
  active : Bool
  expiresAt : ℤ

structure PlacementMetrics (F : Type) where
  load : List (String × F) := []
  cpu1m : List (String × F) := []
  memAvail : List (String × F) := []
  swapIn : List (String × F) := []
  swapInLinux : List (String × F) := []
  load1 : List (String × F) := []
  throttled : List String := []

inductive MetricsSource where
  | prometheus
  | hubOnly
  deriving DecidableEq

/-- Everything that a decision is made from. -/
structure Situation (F : Type) where
  policy : PlacementPolicy F
  nodes : List (String × MeasuredNode F) := []
  overrides : List (String × OverrideMode) := []
  holds : List HubBurstHold := []
  /-- the machine that the burst policy starts, if there is one -/
  burstTarget : Option String := none
  upCompleted : Bool := false
  metrics : PlacementMetrics F := {}
  source : MetricsSource
  now : ℤ
  times : TimeText

variable {F : Type} [Float64 F]

namespace PlacementPolicy

def spawnBridge (p : PlacementPolicy F) : ℤ :=
  if p.spawnBridgeSeconds ≤ 0 then 10 * 60 * 1000000000 else p.spawnBridgeSeconds * 1000000000

def memoryFreePctMinOrDefault (p : PlacementPolicy F) : F := p.memoryFreePctMin.getD 30.0

/-- The machine's relative speed. -/
def powerOf (p : PlacementPolicy F) (machine : String) : F :=
  (Assoc.get p.power machine).getD 100.0

def machineTaskSlots (p : PlacementPolicy F) (machine : String) : Option ℤ :=
  Assoc.get p.machines machine

end PlacementPolicy

def PlacementMetrics.signals (m : PlacementMetrics F) (machine : String) : PlacementSignals F where
  cpuBusy1m := Assoc.get m.cpu1m machine
  cpuBusy5m := Assoc.get m.load machine
  memAvailable := Assoc.get m.memAvail machine
  swapInMBps := (Assoc.get m.swapIn machine).or (Assoc.get m.swapInLinux machine)
  swapInLinux :=
    (Assoc.get m.swapIn machine).isNone && (Assoc.get m.swapInLinux machine).isSome
  load1PerCore := Assoc.get m.load1 machine
  liveJobs := 0
  terms := none
  free := 0.0
  power := 0.0
  bridgedJobs := 0

/-- The jobs of one task share their owner's lane; a job without an owner is a task of its own. -/
def placementTaskKey (job : HubActiveJob) : String :=
  if job.ownerLane = "" ∨ job.ownerLane = "default" then "\x00job\x00" ++ job.jobID
  else job.ownerLane

def countPlacementTasks (jobs : List (String × HubActiveJob)) : ℕ :=
  (jobs.map fun job => placementTaskKey job.2).dedup.length

def placementBridgeClockSkew : ℤ := 60 * 1000000000

/-- How many jobs are too young to show in the metrics. -/
def countBridgedJobs (times : TimeText) (jobs : List (String × HubActiveJob)) (now bridge : ℤ) :
    ℕ :=
  jobs.countP fun job => match times.parse job.2.startedAt with
    | none => false
    | some started => now - started < bridge && now - started > -placementBridgeClockSkew

/-- The later of two instants that may never have been. -/
def later : Option ℤ → Option ℤ → Option ℤ
  | some a, some b => some (max a b)
  | a, b => a.or b

/-- Why a listed laptop may not take new work; empty if it may. -/
def placementPowerRefusal (policy : PlacementPolicy F) (machine : String)
    (record : Option (MeasuredNode F)) (now : ℤ) : String :=
  match record with
  | none => ""
  | some record =>
    if machine ∉ policy.laptops then ""
    else if (later record.powerAt record.connectedSince).all fun last =>
        now - last > placementPowerReportMaxAge then "power_unknown"
    else if record.powerSource = "battery" then "on_battery"
    else ""

/-! ## Facts about a machine -/

namespace Situation

variable (q : Situation F) (machine : String)

def record : Option (MeasuredNode F) := Assoc.get q.nodes machine

/-- The machines that may be named. -/
def machines : List String := q.policy.localMachine :: q.policy.spillTargets

def connected : Bool := match q.record machine with
  | none => false
  | some record => record.agent.isSome && record.state = .connected

def override : OverrideMode := (Assoc.get q.overrides machine).getD .auto

/-- The operator switched the machine off. -/
def switchedOff : Bool := q.override machine = .off

def acceptingEffective (advertised : Bool) : Bool := match q.override machine with
  | .on => true
  | .off => false
  | .auto => advertised

/-- Its own flag, after the override; a machine that was never seen does not accept. -/
def accepting : Bool := match q.record machine with
  | none => false
  | some record => q.acceptingEffective machine record.accepting

def activeJobs : List (String × HubActiveJob) := match q.record machine with
  | none => []
  | some record => record.activeJobs

def memory : Option (HubHostMemory F) := (q.record machine).bind (·.hostMemory)

def freePct : Option F := (q.memory machine).bind (·.freePct)

/-- The memory floor, a guard against crashes. -/
def memoryPressure : Bool :=
  (q.freePct machine).any fun free => Float64.lt free q.policy.memoryFreePctMinOrDefault

def powerRefusal : String :=
  if q.connected machine then placementPowerRefusal q.policy machine (q.record machine) q.now
  else ""

/-- All task slots are taken. -/
def full : Bool :=
  (q.policy.machineTaskSlots machine).any fun slots =>
    (countPlacementTasks (q.activeJobs machine) : ℤ) ≥ slots

/-- It is connected and refuses work by its own flag, its memory or its power. -/
def refuses : Bool :=
  q.connected machine && (!q.accepting machine && !q.switchedOff machine ||
    q.memoryPressure machine || q.powerRefusal machine ≠ "")

/-- There is a load sample, and a fresh one: without a reading of the last minute the one of five
minutes is stale. -/
def sampled : Bool :=
  (Assoc.get q.metrics.load machine).isSome && (Assoc.get q.metrics.cpu1m machine).isSome

def throttled : Bool := machine ∈ q.metrics.throttled

/-- **The machine can take work.** -/
def usable : Bool :=
  !q.full machine && q.connected machine && !q.switchedOff machine && !q.refuses machine &&
    ((q.activeJobs machine).length : ℤ) < q.policy.maxActiveJobs &&
    (q.source = .hubOnly || q.sampled machine && !q.throttled machine)

def holdsActive : Bool :=
  q.holds.any fun hold => hold.active && q.now < hold.expiresAt && hold.target = machine

def burstReady : Bool := q.burstTarget = some machine && q.upCompleted

/-! ## The candidate of a machine -/

/-- What can stand against the machine, in this order. -/
def remarks : List (Bool × String) := [
  (!q.connected machine, "disconnected"),
  (q.connected machine && !q.accepting machine, "not_accepting"),
  (!q.sampled machine && q.source = .prometheus, "load_unknown"),
  (q.throttled machine, "throttled"),
  (((q.activeJobs machine).length : ℤ) ≥ q.policy.maxActiveJobs, "active_jobs>=max"),
  (q.full machine, "task_slots_full"),
  (q.holdsActive machine, "hold_active"),
  (q.burstReady machine, "burst_ready"),
  (q.memoryPressure machine, "not_accepting(memory_pressure)"),
  (!q.memoryPressure machine && (q.freePct machine).isNone, "memory_unknown"),
  (q.powerRefusal machine ≠ "", "not_accepting(" ++ q.powerRefusal machine ++ ")")]

def reasons : List String := ((q.remarks machine).filter (·.1)).map (·.2)

def reason : String :=
  join "," (if (q.reasons machine).isEmpty then ["available"] else q.reasons machine)

/-- Without a metric for its memory the node's own report is the next best measurement. -/
def signals : PlacementSignals F :=
  let k := q.policy.score.scoreK
  let measured := q.metrics.signals machine
  let known := { measured with
    memAvailable := measured.memAvailable.or ((q.freePct machine).map fun free => free / 100.0) }
  let jobs := (q.activeJobs machine).length
  let terms := k.terms known jobs
  { known with
    terms := some terms
    liveJobs := jobs
    free := terms.free
    power := q.policy.powerOf machine
    bridgedJobs := countBridgedJobs q.times (q.activeJobs machine) q.now q.policy.spawnBridge }

def score : F :=
  let signals := q.signals machine
  let base := q.policy.score.scoreK.scoreBase signals.free signals.bridgedJobs signals.power
  let less (b : Bool) (points s : F) : F := if b then s - points else s
  let more (b : Bool) (points s : F) : F := if b then s + points else s
  more (q.burstReady machine) 5.0 (more (q.holdsActive machine) 5.0
    (less (q.throttled machine) 100.0
      (less (!q.sampled machine && q.source = .prometheus) 500.0
        (less (!q.accepting machine) 200.0 (less (!q.connected machine) 1000.0 base)))))

def candidate : PlacementCandidate F where
  machine := machine
  score := q.score machine
  loadRatio := (Assoc.get q.metrics.load machine).getD 0.0
  throttled := q.throttled machine
  activeJobs := (q.activeJobs machine).length
  tasks := (q.policy.machineTaskSlots machine).map fun _ =>
    countPlacementTasks (q.activeJobs machine)
  taskSlots := (q.policy.machineTaskSlots machine).getD 0
  connected := q.connected machine
  metricsKnown := q.sampled machine || q.source = .hubOnly
  quotaDecision := none
  memoryFreePct := q.freePct machine
  swapUsedMB := (q.memory machine).bind (·.swapUsedMB)
  swapInPerS := (q.memory machine).bind (·.swapInPerS)
  pressure := (q.memory machine).bind (·.pressure)
  memoryKnown := (q.freePct machine).isSome
  holdsActive := q.holdsActive machine
  burstReady := q.burstReady machine
  reason := q.reason machine
  signals := q.signals machine
  slotFull := q.full machine
  accepting := q.connected machine && q.accepting machine && !q.memoryPressure machine &&
    q.powerRefusal machine = ""

/-- The candidates of all machines in policy order. -/
def placementCandidates : List (PlacementCandidate F) := q.machines.map q.candidate

/-- What the decision asks of a candidate. -/
def placementUsable (c : PlacementCandidate F) : Bool :=
  if c.slotFull || !c.connected || contains c.reason "not_accepting" ||
      (c.activeJobs : ℤ) ≥ q.policy.maxActiveJobs then false
  else if c.quotaDecision.any fun d => d ≠ "allow" && d ≠ "boost" && d ≠ "" then false
  else if q.source = .prometheus && !c.metricsKnown then false
  else if q.source = .prometheus && c.throttled then false
  else true

/-! ## What a candidate tells -/

/-- The machine's reasons say `not_accepting`. A machine below the memory floor says so even if it
is not connected. -/
def declines : Bool :=
  q.connected machine && !q.accepting machine || q.memoryPressure machine ||
    q.powerRefusal machine ≠ ""

private theorem contains_refusal (why : String) :
    contains ("not_accepting(" ++ why ++ ")") "not_accepting" = true := by
  refine containsChars_iff.mpr ⟨[], '(' :: (why.toList ++ [')']), ?_⟩
  simp

private theorem contains_reasons :
    (∃ text ∈ q.reasons machine, contains text "not_accepting" = true) ↔
      q.declines machine = true := by
  have ho : ∀ text ∈ ["disconnected", "load_unknown", "throttled", "active_jobs>=max",
      "task_slots_full", "hold_active", "burst_ready", "memory_unknown"],
      contains text "not_accepting" = false := by decide
  have hfl : contains "not_accepting" "not_accepting" = true := by decide
  have hme : contains "not_accepting(memory_pressure)" "not_accepting" = true := by decide
  have hgiv : (∃ text ∈ q.reasons machine, contains text "not_accepting" = true) ↔
      ∃ remark ∈ q.remarks machine, remark.1 = true ∧
        contains remark.2 "not_accepting" = true := by
    simp only [reasons, List.mem_map, List.mem_filter]
    exact ⟨fun ⟨_, ⟨r, ⟨hr, h1⟩, h2⟩, h⟩ => ⟨r, hr, h1, h2 ▸ h⟩,
      fun ⟨r, hr, h1, h⟩ => ⟨_, ⟨r, ⟨hr, h1⟩, rfl⟩, h⟩⟩
  rw [hgiv]
  simp only [List.forall_mem_cons] at ho
  obtain ⟨h1, h2, h3, h4, h5, h6, h7, h8, -⟩ := ho
  simp only [remarks, List.mem_cons, exists_eq_or_imp, List.not_mem_nil, h1, h2, h3, h4, h5, h6,
    h7, h8, hfl, hme, contains_refusal, declines, Bool.or_eq_true, Bool.false_eq_true,
    and_false, and_true, false_or, or_false, exists_eq_left, or_assoc]

/-- **The reasons say `not_accepting` exactly if the machine declines.** -/
theorem contains_reason :
    contains (q.reason machine) "not_accepting" = true ↔ q.declines machine = true := by
  rw [reason, contains_join "not_accepting" "," rfl (by decide) (by decide), ← contains_reasons]
  cases hrea : q.reasons machine with
  | nil =>
    have ha : contains "available" "not_accepting" = false := by decide
    simp [ha]
  | cons r rs => rfl

omit [Float64 F] in
/-- The operator's word counts as the flag of a machine that is known to the hub. -/
theorem not_accepting_of_switchedOff (h : q.switchedOff machine = true) :
    q.accepting machine = false := by
  have ho : q.override machine = .off := of_decide_eq_true h
  unfold accepting acceptingEffective
  rw [ho]
  cases q.record machine <;> rfl

theorem declines_of_connected (hc : q.connected machine = true) :
    q.declines machine = (q.switchedOff machine || q.refuses machine) := by
  unfold declines refuses
  cases ho : q.switchedOff machine with
  | true => simp [hc, q.not_accepting_of_switchedOff machine ho]
  | false => simp [hc]

/-- **A candidate tells whether its machine can take work.** -/
theorem usable_candidate : q.placementUsable (q.candidate machine) = q.usable machine := by
  unfold placementUsable usable candidate
  cases hc : q.connected machine with
  | false => simp
  | true =>
    have hw : contains (q.reason machine) "not_accepting" =
        (q.switchedOff machine || q.refuses machine) := by
      rw [Bool.eq_iff_iff, contains_reason, q.declines_of_connected machine hc]
    rw [Bool.eq_iff_iff]
    cases hs : q.source <;> simp [hw, and_assoc]

end Situation

end Panewire.Placement
