import Panewire.Text.Strings

/-!
# Scoring a placement candidate

How much room a host has is a product of five factors, one per measurement, times the host's power.
Load never excludes a host: the score only decides **among the usable ones**, by keeping the winner
of the policy's order unless a rival is clearly better, or unless all of them are loaded.

Scores are floating-point numbers in the source. Everything here is for an arbitrary type of numbers
of which nothing is assumed, so what is proved holds whatever the rounding is.
-/

namespace Go

/-- The operations of `float64`. -/
class Float64 (F : Type) extends Add F, Sub F, Mul F, Div F, Max F, Min F, NatCast F,
    OfScientific F where
  lt : F → F → Bool
  le : F → F → Bool
  eq : F → F → Bool

/-- Exact arithmetic. -/
instance : Float64 Rat where
  add := Rat.add
  sub := Rat.sub
  mul := Rat.mul
  div := Rat.div
  max a b := if Rat.blt a b then b else a
  min a b := if Rat.blt a b then a else b
  natCast n := Rat.ofInt n
  ofScientific := Rat.ofScientific
  lt := Rat.blt
  le a b := !Rat.blt b a
  eq a b := !Rat.blt a b && !Rat.blt b a

end Go

namespace Panewire.Placement

open Go

/-! ## Constants -/

/-- The optional `score` object of the policy. -/
structure PlacementScoreConfig (F : Type) where
  memFloor : Option F := none
  memSpan : Option F := none
  pageInHalfMBps : Option F := none
  linuxSwapInHalfMBps : Option F := none
  loadKnee : Option F := none
  loadCap : Option F := none
  jobsHalf : Option F := none
  claimCost : Option F := none
  hysteresis : Option F := none
  allLoadedBelow : Option F := none

/-- The constants with every default filled in. -/
structure PlacementScoreK (F : Type) where
  memFloor : F
  memSpan : F
  pageInHalf : F
  swapInHalf : F
  loadKnee : F
  loadCap : F
  jobsHalf : F
  claimCost : F
  hysteresis : F
  allLoadedBelow : F

variable {F : Type} [Float64 F]

def PlacementScoreConfig.scoreK (c : PlacementScoreConfig F) : PlacementScoreK F where
  memFloor := c.memFloor.getD 0.20
  memSpan := c.memSpan.getD 0.20
  pageInHalf := c.pageInHalfMBps.getD 10.0
  swapInHalf := c.linuxSwapInHalfMBps.getD 20.0
  loadKnee := c.loadKnee.getD 0.75
  loadCap := c.loadCap.getD 4.0
  jobsHalf := c.jobsHalf.getD 8.0
  claimCost := c.claimCost.getD 10.0
  hysteresis := c.hysteresis.getD 1.25
  allLoadedBelow := c.allLoadedBelow.getD 15.0

/-! ## Terms -/

structure PlacementTerms (F : Type) where
  cpu : F
  mem : F
  io : F
  load : F
  jobs : F

def PlacementTerms.free (t : PlacementTerms F) : F := t.cpu * t.mem * t.io * t.load * t.jobs

/-- What is measured on a host, and what the score makes of it. -/
structure PlacementSignals (F : Type) where
  cpuBusy1m : Option F
  cpuBusy5m : Option F
  memAvailable : Option F
  swapInMBps : Option F
  /-- the rate counts swap-ins, as Linux does, and not page-ins -/
  swapInLinux : Bool
  load1PerCore : Option F
  liveJobs : ℕ
  terms : Option (PlacementTerms F)
  free : F
  power : F
  bridgedJobs : ℕ

def PlacementSignals.ioHalf (s : PlacementSignals F) (k : PlacementScoreK F) : F :=
  if s.swapInLinux then k.swapInHalf else k.pageInHalf

namespace PlacementScoreK

/-- A measurement that the host does not report leaves its term at one. -/
def terms (k : PlacementScoreK F) (s : PlacementSignals F) (liveJobs : ℕ) : PlacementTerms F :=
  let busy5m := s.cpuBusy5m.getD 0.0
  let busy := match s.cpuBusy1m with
    | some busy1m => if Float64.lt busy5m busy1m then busy1m else busy5m
    | none => busy5m
  { cpu := 1.0 - min (max busy 0.0) 1.0
    mem := match s.memAvailable with
      | some available => min (max ((available - k.memFloor) / k.memSpan) 0.0) 1.0
      | none => 1.0
    io := match s.swapInMBps with
      | some rate => if Float64.lt 0.0 rate then 1.0 / (1.0 + rate / s.ioHalf k) else 1.0
      | none => 1.0
    load := match s.load1PerCore with
      | some load => 1.0 / (1.0 + max 0.0 (min (max load 0.0) k.loadCap - k.loadKnee))
      | none => 1.0
    jobs := 1.0 / (1.0 + (liveJobs : F) / k.jobsHalf) }

def scoreBase (k : PlacementScoreK F) (free : F) (bridgedJobs : ℕ) (power : F) : F :=
  free * power - (bridgedJobs : F) * k.claimCost

end PlacementScoreK

/-! ## Candidates -/

structure PlacementCandidate (F : Type) where
  machine : String
  score : F
  loadRatio : F
  throttled : Bool
  activeJobs : ℕ
  /-- how many tasks it holds, for a machine that the policy caps -/
  tasks : Option ℕ
  taskSlots : ℤ
  connected : Bool
  metricsKnown : Bool
  /-- the verdict of an old hub; no longer set -/
  quotaDecision : Option String
  memoryFreePct : Option F
  swapUsedMB : Option F
  swapInPerS : Option F
  pressure : Option F
  memoryKnown : Bool
  holdsActive : Bool
  burstReady : Bool
  reason : String
  signals : PlacementSignals F
  slotFull : Bool
  accepting : Bool

/-- The memory term, for a host whose memory was measured. -/
def PlacementCandidate.mem (c : PlacementCandidate F) : Option F :=
  match c.signals.terms, c.signals.memAvailable with
  | some terms, some _ => some terms.mem
  | _, _ => none

/-! ## The best of a list -/

section BestBy

variable {α : Type}

/-- The first element that no later one is better than, going through the list once. -/
def bestBy (better : α → α → Bool) (l : List α) : Option α :=
  l.foldl (fun pick c => match pick with
    | none => some c
    | some p => if better c p then some c else some p) none

theorem mem_of_bestBy {better : α → α → Bool} {l : List α} {a : α}
    (h : bestBy better l = some a) : a ∈ l := by
  refine List.foldlRecOn (motive := fun pick => ∀ p, pick = some p → p ∈ l) l _ ?_ ?_ a h
  · exact fun _ hp => nomatch hp
  intro pick hpi c hc p hp
  cases pick with
  | none => exact Option.some.inj hp ▸ hc
  | some q =>
    dsimp only at hp
    split at hp
    · exact Option.some.inj hp ▸ hc
    · exact hpi p hp

theorem mem_of_bestBy_zipIdx {better : α × ℕ → α × ℕ → Bool} {p : α × ℕ → Bool} {l : List α}
    {pick : α × ℕ} (h : bestBy better (l.zipIdx.filter p) = some pick) : pick.1 ∈ l :=
  List.fst_mem_of_mem_zipIdx (List.mem_of_mem_filter (mem_of_bestBy h))

end BestBy

/-! ## The decision among usable hosts -/

inductive DecideReason where
  | winner
  | allLoaded
  | challenger
  deriving DecidableEq

def DecideReason.text : DecideReason → String
  | .winner => ""
  | .allLoaded => "all_loaded"
  | .challenger => "challenger"

/-- No score reaches the mark; the best of no scores is minus infinity. -/
def allBelow (mark : F) (usable : List (PlacementCandidate F)) : Bool :=
  match usable with
  | [] => true
  | c :: cs => Float64.lt ((cs.map (·.score)).foldl max c.score) mark

/-- `c` has more free memory than `p`, or as much and a better score. -/
def moreFree (c p : PlacementCandidate F × ℕ) : Bool :=
  let m := c.1.mem.getD 0.0
  let pm := p.1.mem.getD 0.0
  Float64.lt pm m || (Float64.eq m pm && Float64.lt p.1.score c.1.score)

/-- Who takes the decision among the usable candidates, which come in policy order; `winner` is the
winner of that order with its position. -/
def PlacementScoreK.decide (k : PlacementScoreK F) (usable : List (PlacementCandidate F))
    (winner : PlacementCandidate F × ℕ) : PlacementCandidate F × DecideReason :=
  if allBelow k.allLoadedBelow usable then
    -- a host that reports no memory has an unknown term, not a free one
    match bestBy moreFree (usable.zipIdx.filter fun c => c.1.mem.isSome) with
    | some pick => (pick.1, .allLoaded)
    | none => (winner.1, .allLoaded)
  else
    match bestBy (fun c p => Float64.lt p.1.score c.1.score)
        (usable.zipIdx.filter fun c => c.2 ≠ winner.2) with
    | some rival =>
      if Float64.lt winner.1.score rival.1.score &&
          Float64.le (k.hysteresis * winner.1.score) rival.1.score then (rival.1, .challenger)
      else (winner.1, .winner)
    | none => (winner.1, .winner)

/-- **The decision goes to one of the usable candidates**, whatever the scores are. -/
theorem PlacementScoreK.decide_mem (k : PlacementScoreK F) {usable : List (PlacementCandidate F)}
    {winner : PlacementCandidate F × ℕ} (hw : winner.1 ∈ usable) :
    (k.decide usable winner).1 ∈ usable := by
  unfold PlacementScoreK.decide
  split
  · split
    · exact mem_of_bestBy_zipIdx ‹_›
    · exact hw
  · split
    · split
      · exact mem_of_bestBy_zipIdx ‹_›
      · exact hw
    · exact hw

end Panewire.Placement
