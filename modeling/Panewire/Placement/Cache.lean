import Panewire.Data.Assoc
import Panewire.Hub.ActiveJob
import Panewire.Conc.Machine

/-!
# The placement cache

The hub answers where new work should go from its policy and from what the nodes last reported. The
last answer is kept for half a minute. Whatever changes an answer **invalidates** it: a policy that
was reloaded, an operator's override, a node that connects, or a heartbeat with other memory, power
or active jobs. Computing an answer takes three critical sections (read the policy, read the nodes,
store the answer) with the metrics fetched in between, and the last one stores it without a look at
what happened since the first.

* `PlacementHub` — the hub, with every computation between its sections;
* `served_answers_fresh` — every answer that is served from the cache was computed after the last
  invalidation, and no computation fills the cache after an invalidation that it began before, in
  every run in which the cache is not invalidated while an answer is being computed;
* `stale_answer_served` — otherwise an answer from before an override is served after it.
-/

namespace Panewire.Placement

open Data Conc Hub List

/-! ## State -/

inductive PolicyStatus where
  | default
  | current
  | stale
  | invalid
  deriving DecidableEq

inductive PolicyFailure where
  | unreadable
  | invalid
  deriving DecidableEq

inductive OverrideMode where
  | auto
  | on
  | off
  deriving DecidableEq

/-- What placement reads of a node; `M` is its memory report and `J` its set of active jobs. -/
structure NodeFacts (M J : Type) where
  agent : Option ℕ
  accepting : Bool
  hostMemory : Option M
  powerSource : String
  /-- when power was last reported -/
  powerAt : Option ℤ
  activeJobs : J
  deriving DecidableEq

/-- What an answer is computed from. -/
structure Facts (P M J : Type) where
  policy : P
  status : PolicyStatus
  nodes : List (String × NodeFacts M J)
  overrides : List (String × OverrideMode)

/-- The answer in the cache. `readAt` counts the invalidations before the first read for it. -/
structure CacheEntry (R : Type) where
  key : String
  time : ℤ
  result : R
  readAt : ℕ
  deriving DecidableEq

/-- A computation between its critical sections. -/
structure Computation (P R : Type) where
  key : String
  now : ℤ
  policy : P
  status : PolicyStatus
  /-- how many invalidations there had been when it began -/
  begunAt : ℕ
  /-- the answer, once the nodes have been read -/
  result : Option R := none
  deriving DecidableEq

/-- An answer that was served from the cache. -/
structure Served where
  /-- the invalidations before the first read for the answer -/
  readAt : ℕ
  /-- the invalidations before it was served -/
  servedAt : ℕ
  deriving DecidableEq

/-- The cache was filled. -/
structure Fill where
  begunAt : ℕ
  filledAt : ℕ
  deriving DecidableEq

/-- The policy and how it was come by. -/
structure PolicyState (P : Type) where
  policy : P
  /-- the modification time of the file that was read last -/
  observed : Option ℤ
  loaded : Bool
  status : PolicyStatus
  lastFailure : Option PolicyFailure
  deriving DecidableEq

structure PlacementHub (P M J R : Type) where
  /-- the policy file, if the hub was configured with one -/
  policyFile : Option (PolicyFile P)
  policy : PolicyState P
  nodes : List (String × NodeFacts M J) := []
  overrides : List (String × OverrideMode) := []
  cache : Option (CacheEntry R) := none
  computations : List (ℕ × Computation P R) := []
  /-- how often the cache has been invalidated -/
  invalidations : ℕ := 0
  served : List Served := []
  fills : List Fill := []
  deriving DecidableEq

/-- What the source computes outside of this model. -/
structure Rules (P M J R : Type) where
  defaultPolicy : P
  /-- no active jobs -/
  noJobs : J
  /-- `makePlacement` and `makeTaggedPlacement`; the metrics that were fetched come as a text -/
  place : Facts P M J → String → String → ℤ → R

def placementPowerReportMaxAge : ℤ := 3 * 60 * 1000000000

def placementCacheAge : ℤ := 30 * 1000000000

section Steps

variable {P M J R : Type} [DecidableEq M] [DecidableEq J]

namespace PlacementHub

variable (h : PlacementHub P M J R)

/-- `h.placementCache = placementCache{}` -/
def invalidate : PlacementHub P M J R :=
  { h with cache := none, invalidations := h.invalidations + 1 }

def invalidateIf (b : Bool) : PlacementHub P M J R :=
  if b then h.invalidate else h

/-! ### The policy -/

/-- The failure is news. -/
def failureChanges (failure : PolicyFailure) : Bool :=
  h.policy.status ≠ (if h.policy.loaded then .stale else .invalid) ∨
    h.policy.lastFailure ≠ some failure

def setPlacementPolicyFailure (observed : Option ℤ) (failure : PolicyFailure) :
    PlacementHub P M J R :=
  let status := if h.policy.loaded then .stale else .invalid
  PlacementHub.invalidateIf
    { h with policy := ⟨h.policy.policy, observed, h.policy.loaded, status, some failure⟩ }
    (h.failureChanges failure)

variable (rules : Rules P M J R)

def reloadPlacementPolicy (h : PlacementHub P M J R) : PlacementHub P M J R :=
  match h.policyFile with
  | none =>
    { h with policy :=
        ⟨rules.defaultPolicy, h.policy.observed, true, .default, h.policy.lastFailure⟩ }
  | some .unreadable => h.setPlacementPolicyFailure h.policy.observed .unreadable
  | some (.file modTime policy) =>
    if h.policy.observed = some modTime then h
    else
      match policy with
      | none => h.setPlacementPolicyFailure (some modTime) .invalid
      | some policy =>
        PlacementHub.invalidate { h with policy := ⟨policy, some modTime, true, .current, none⟩ }

variable (machine : String)

/-- Reloading would invalidate the cache. -/
def reloadInvalidates : Bool :=
  match h.policyFile with
  | none => false
  | some .unreadable => h.failureChanges .unreadable
  | some (.file modTime policy) =>
    if h.policy.observed = some modTime then false
    else
      match policy with
      | none => h.failureChanges .invalid
      | some _ => true

/-! ### Nodes -/

def node : Option (NodeFacts M J) :=
  Assoc.get h.nodes machine

def setNode (record : NodeFacts M J) : PlacementHub P M J R :=
  { h with nodes := Assoc.put h.nodes machine record }

/-- The power report of a heartbeat can change an answer: it ends a stale period or tells of another
source. Without a source there is no report. -/
def powerInvalidates (record : NodeFacts M J) (power : String) (received : ℤ) : Bool :=
  power ≠ "" ∧
    ((record.powerAt.all fun reported => received - reported > placementPowerReportMaxAge) ∨
      record.powerSource ≠ power)

/-- The part of a heartbeat that belongs to the connection: memory and power. -/
def observeHost (agent : ℕ) (memory : Option M) (power : String) (received : ℤ) :
    PlacementHub P M J R :=
  match h.node machine with
  | none => h
  | some record =>
    if record.agent ≠ some agent then h
    else
      let updated :=
        { record with
          hostMemory := memory
          powerSource := if power = "" then record.powerSource else power
          powerAt := if power = "" then record.powerAt else some received }
      (h.setNode machine updated).invalidateIf
        (powerInvalidates record power received || record.hostMemory ≠ memory)

def observeActiveJobs (active : J) : PlacementHub P M J R :=
  match h.node machine with
  | none => h
  | some record =>
    (h.setNode machine { record with activeJobs := active }).invalidateIf
      (record.activeJobs ≠ active)

/-! ### Answers -/

/-- The answer in the cache, if it may be served. -/
def fresh (key : String) (now : ℤ) : Option (CacheEntry R) :=
  h.cache.filter fun entry => entry.key = key ∧ now - entry.time < placementCacheAge

/-- Serve the cached answer or begin to compute one. -/
def answer (id : ℕ) (key : String) (now : ℤ) : PlacementHub P M J R :=
  match h.fresh key now with
  | some entry => { h with served := ⟨entry.readAt, h.invalidations⟩ :: h.served }
  | none =>
    let begun : Computation P R :=
      ⟨key, now, h.policy.policy, h.policy.status, h.invalidations, none⟩
    { h with computations := Assoc.put h.computations id begun }

/-- The first critical section of `placement`. -/
def request (h : PlacementHub P M J R) (id : ℕ) (key : String) (now : ℤ) : PlacementHub P M J R :=
  (h.reloadPlacementPolicy rules).answer id key now

/-- The second: read the nodes and decide. -/
def decide (h : PlacementHub P M J R) (id : ℕ) (metrics : String) : Option (PlacementHub P M J R) :=
  match Assoc.get h.computations id with
  | some ⟨key, now, policy, status, begunAt, none⟩ =>
    let result := rules.place ⟨policy, status, h.nodes, h.overrides⟩ metrics key now
    some { h with
      computations := Assoc.put h.computations id ⟨key, now, policy, status, begunAt, some result⟩ }
  | _ => none

/-- The third: store the answer. -/
def fill (id : ℕ) : Option (PlacementHub P M J R) :=
  match Assoc.get h.computations id with
  | some ⟨key, now, _, _, begunAt, some result⟩ =>
    some { h with
      cache := some ⟨key, now, result, begunAt⟩
      computations := Assoc.del h.computations id
      fills := ⟨begunAt, h.invalidations⟩ :: h.fills }
  | _ => none

end PlacementHub

/-- What happens, one critical section at a time. -/
inductive Act (P M : Type) (J : Type) where
  /-- somebody edits the policy file -/
  | editPolicy (file : PolicyFile P)
  | connect (machine : String) (agent : ℕ) (accepting : Bool)
  | disconnect (machine : String)
  | observeHost (machine : String) (agent : ℕ) (memory : Option M) (power : String)
      (received : ℤ)
  | observeActiveJobs (machine : String) (active : J)
  | override (machine : String) (mode : OverrideMode)
  | request (id : ℕ) (key : String) (now : ℤ)
  | decide (id : ℕ) (metrics : String)
  | fill (id : ℕ)

namespace PlacementHub

def step (rules : Rules P M J R) (h : PlacementHub P M J R) :
    Act P M J → Option (PlacementHub P M J R)
  | .editPolicy file => some { h with policyFile := h.policyFile.map fun _ => file }
  | .connect machine agent accepting =>
    some (h.setNode machine ⟨some agent, accepting, none, "", none, rules.noJobs⟩).invalidate
  | .disconnect machine =>
    (h.node machine).map fun record => h.setNode machine { record with agent := none }
  | .observeHost machine agent memory power received =>
    some (h.observeHost machine agent memory power received)
  | .observeActiveJobs machine active => some (h.observeActiveJobs machine active)
  | .override machine mode =>
    some (PlacementHub.invalidate { h with overrides := Assoc.put h.overrides machine mode })
  | .request id key now =>
    if (Assoc.get h.computations id).isNone then some (h.request rules id key now) else none
  | .decide id metrics => h.decide rules id metrics
  | .fill id => h.fill id

end PlacementHub

/-! ## Invalidations -/

namespace PlacementHub

/-- The step invalidates the cache. -/
def invalidates (h : PlacementHub P M J R) : Act P M J → Bool
  | .editPolicy _ => false
  | .connect _ _ _ => true
  | .disconnect _ => false
  | .observeHost machine agent memory power received =>
    match h.node machine with
    | none => false
    | some record =>
      record.agent = some agent &&
        (powerInvalidates record power received || record.hostMemory ≠ memory)
  | .observeActiveJobs machine active =>
    match h.node machine with
    | none => false
    | some record => record.activeJobs ≠ active
  | .override _ _ => true
  | .request _ _ _ => h.reloadInvalidates
  | .decide _ _ => false
  | .fill _ => false

/-- **The cache is not invalidated while an answer is being computed.** -/
def undisturbed (h : PlacementHub P M J R) (a : Act P M J) : Bool :=
  h.computations.isEmpty || !h.invalidates a

/-- Any step. -/
def anyStep (_ : PlacementHub P M J R) (_ : Act P M J) : Bool := true

/-- Nothing was served or filled from before the last invalidation at that moment. -/
structure Fresh (h : PlacementHub P M J R) : Prop where
  served : ∀ e ∈ h.served, e.readAt = e.servedAt
  fills : ∀ e ∈ h.fills, e.begunAt = e.filledAt

/-- What the cache and the computations hold is from after the last invalidation. -/
structure Sound (h : PlacementHub P M J R) : Prop extends h.Fresh where
  cache : ∀ entry ∈ h.cache, entry.readAt = h.invalidations
  computations : ∀ c ∈ h.computations, c.2.begunAt = h.invalidations

/-- A hub that has just started. -/
def start (policyFile : Option (PolicyFile P)) (policy : PolicyState P) : PlacementHub P M J R :=
  { policyFile, policy }

variable {h h' : PlacementHub P M J R}

section Parts

omit [DecidableEq M] [DecidableEq J]

theorem Sound.start (policyFile : Option (PolicyFile P)) (policy : PolicyState P) :
    (start policyFile policy : PlacementHub P M J R).Sound where
  served _ he := absurd he not_mem_nil
  fills _ he := absurd he not_mem_nil
  cache _ he := nomatch he
  computations _ hc := absurd hc not_mem_nil

/-! ### What a step changes

Apart from the three sections of a computation, a step either leaves the cache and its computations
alone or invalidates the cache. -/

/-- The cache and the computations are as they were. -/
structure Same (h h' : PlacementHub P M J R) : Prop where
  cache : h'.cache = h.cache
  computations : h'.computations = h.computations
  invalidations : h'.invalidations = h.invalidations
  served : h'.served = h.served
  fills : h'.fills = h.fills

variable (hs : h.Sound)
include hs

theorem Sound.of_same (same : h.Same h') : h'.Sound where
  served := same.served ▸ hs.served
  fills := same.fills ▸ hs.fills
  cache := by
    rw [same.cache, same.invalidations]
    exact hs.cache
  computations := by
    rw [same.computations, same.invalidations]
    exact hs.computations

/-- Without computations under way an invalidation leaves nothing behind. -/
theorem Sound.invalidate (hn : h.computations = []) : h.invalidate.Sound where
  served := hs.served
  fills := hs.fills
  cache _ he := nomatch he
  computations c hc := by
    have hnil : c ∈ h.computations := hc
    rw [hn] at hnil
    exact absurd hnil not_mem_nil

theorem Sound.invalidateIf (b : Bool) (hn : b = true → h.computations = []) :
    (h.invalidateIf b).Sound := by
  unfold PlacementHub.invalidateIf
  split
  · next hb => exact hs.invalidate (hn hb)
  · exact hs

theorem Sound.setPolicy (policy : PolicyState P) :
    Sound { h with policy := policy } :=
  hs.of_same ⟨rfl, rfl, rfl, rfl, rfl⟩

theorem Sound.setNode (machine : String) (record : NodeFacts M J) :
    (h.setNode machine record).Sound :=
  hs.of_same ⟨rfl, rfl, rfl, rfl, rfl⟩

theorem Sound.reload (rules : Rules P M J R)
    (hn : h.reloadInvalidates = true → h.computations = []) :
    (h.reloadPlacementPolicy rules).Sound := by
  unfold reloadPlacementPolicy
  unfold reloadInvalidates at hn
  split
  · exact hs.setPolicy _
  · next hfi =>
    rw [hfi] at hn
    exact (hs.setPolicy _).invalidateIf _ hn
  · next hfi =>
    rw [hfi] at hn
    split
    · exact hs
    · next hnew =>
      simp only [if_neg hnew] at hn
      split
      · exact (hs.setPolicy _).invalidateIf _ hn
      · exact (hs.setPolicy _).invalidate (hn rfl)

/-! ### The three sections -/

theorem Sound.serve {key : String} {now : ℤ} {entry : CacheEntry R}
    (hent : h.fresh key now = some entry) :
    Sound { h with served := ⟨entry.readAt, h.invalidations⟩ :: h.served } where
  served e he := by
    rcases mem_cons.mp he with rfl | he
    · exact hs.cache entry (Option.filter_eq_some_iff.mp hent).1
    · exact hs.served e he
  fills := hs.fills
  cache := hs.cache
  computations := hs.computations

theorem Sound.putComputation (id : ℕ) {c : Computation P R} (hc : c.begunAt = h.invalidations) :
    Sound { h with computations := Assoc.put h.computations id c } where
  served := hs.served
  fills := hs.fills
  cache := hs.cache
  computations e he := by
    rcases mem_cons.mp he with rfl | he
    · exact hc
    · exact hs.computations e (mem_filter.mp he).1

theorem Sound.request (rules : Rules P M J R) (id : ℕ) (key : String) (now : ℤ)
    (hn : h.reloadInvalidates = true → h.computations = []) :
    (h.request rules id key now).Sound := by
  have hrel := hs.reload rules hn
  unfold PlacementHub.request PlacementHub.answer
  split
  · next he => exact hrel.serve he
  · exact hrel.putComputation id rfl

theorem Sound.decide {rules : Rules P M J R} {id : ℕ} {metrics : String}
    (hst : h.decide rules id metrics = some h') : h'.Sound := by
  unfold PlacementHub.decide at hst
  split at hst
  · next hget =>
    cases hst
    exact hs.putComputation id (hs.computations _ (Assoc.mem_of_get hget))
  · cases hst

theorem Sound.fill {id : ℕ} (hst : h.fill id = some h') : h'.Sound := by
  unfold PlacementHub.fill at hst
  split at hst
  · next begunAt _ hget =>
    cases hst
    have hb : begunAt = h.invalidations := hs.computations _ (Assoc.mem_of_get hget)
    refine ⟨⟨hs.served, fun e he => ?_⟩, fun entry hent => ?_, fun c hc => ?_⟩
    · rcases mem_cons.mp he with rfl | he
      · exact hb
      · exact hs.fills e he
    · cases hent
      exact hb
    · exact hs.computations c (mem_filter.mp hc).1
  · cases hst

end Parts

/-! ## Every run -/

theorem Sound.step (hs : h.Sound) {rules : Rules P M J R} {a : Act P M J}
    (hok : h.undisturbed a = true) (hst : h.step rules a = some h') : h'.Sound := by
  have hn : h.invalidates a = true → h.computations = [] := by
    intro hi
    simpa [undisturbed, hi] using hok
  cases a with
  | editPolicy file =>
    cases hst
    exact hs.of_same ⟨rfl, rfl, rfl, rfl, rfl⟩
  | connect machine agent accepting =>
    cases hst
    exact (hs.setNode _ _).invalidate (hn rfl)
  | disconnect machine =>
    obtain ⟨record, _, rfl⟩ := Option.map_eq_some_iff.mp hst
    exact hs.setNode _ _
  | observeHost machine agent memory power received =>
    cases hst
    unfold PlacementHub.observeHost
    unfold invalidates at hn
    split
    · exact hs
    · next record hno =>
      split
      · exact hs
      · next hag =>
        simp only [hno, not_not.mp hag, decide_true, Bool.true_and] at hn
        exact (hs.setNode _ _).invalidateIf _ hn
  | observeActiveJobs machine active =>
    cases hst
    unfold PlacementHub.observeActiveJobs
    unfold invalidates at hn
    split
    · exact hs
    · next record hno =>
      simp only [hno] at hn
      exact (hs.setNode _ _).invalidateIf _ hn
  | override machine mode =>
    cases hst
    have hset : Sound { h with overrides := Assoc.put h.overrides machine mode } :=
      hs.of_same ⟨rfl, rfl, rfl, rfl, rfl⟩
    exact hset.invalidate (hn rfl)
  | request id key now =>
    obtain ⟨_, hreq⟩ := Option.ite_none_right_eq_some.mp hst
    cases hreq
    exact hs.request rules id key now hn
  | decide id metrics => exact hs.decide hst
  | fill id => exact hs.fill hst

/-- **Cached answers are fresh** in every run in which the cache is not invalidated while an answer
is being computed: what is served was computed after the last invalidation, and what is stored was
begun after it. -/
theorem served_answers_fresh (rules : Rules P M J R) (policyFile : Option (PolicyFile P))
    (policy : PolicyState P) {h : PlacementHub P M J R}
    (hrun : Reach (step rules) undisturbed (start policyFile policy) h) : h.Fresh :=
  (hrun.keeps (Sound.start policyFile policy) fun _ _ _ hs hok hst =>
    hs.step hok hst).toFresh

end PlacementHub

end Steps

/-! ## An answer from before an override

The smallest instance: the answer is whether the machine `"m"` may be given work. -/

/-- A node that accepts and is not switched off takes work. -/
def sampleRules : Rules Unit Unit Unit Bool where
  defaultPolicy := ()
  noJobs := ()
  place facts _ _ _ := facts.nodes.any fun n =>
    n.2.accepting && Assoc.get facts.overrides n.1 ≠ some .off

def sampleStart : PlacementHub Unit Unit Unit Bool :=
  .start none ⟨(), none, true, .default, none⟩

/-- A request for an answer is under way when the operator switches the machine off. -/
def overrideDuringRequest : List (Act Unit Unit Unit) :=
  [.connect "m" 1 true, .request 0 "worker" 0, .decide 0 "", .override "m" .off, .fill 0,
    .request 1 "worker" 1]

/-- **A stale answer is served**: the cache was invalidated twice, and the answer that is served
next was computed after the first of the two and still names the machine that was switched off. -/
theorem stale_answer_served :
    ∃ h, Reach (PlacementHub.step sampleRules) PlacementHub.anyStep sampleStart h ∧
      (h.served, h.fills, h.cache.map (·.result)) = ([⟨1, 2⟩], [⟨1, 2⟩], some true) := by
  exact Reach.exists_of_replay overrideDuringRequest (by decide +kernel)

/-- With the override after the answer was stored, the next request computes a new one. -/
theorem served_answers_fresh_in_turn :
    ∃ h, Reach (PlacementHub.step sampleRules) PlacementHub.undisturbed sampleStart h ∧
      (h.served, h.cache.map (·.result)) = ([⟨2, 2⟩, ⟨1, 1⟩], some false) ∧ h.Fresh := by
  exact Reach.exists_of_replay_and
    [.connect "m" 1 true, .request 0 "worker" 0, .decide 0 "", .fill 0, .request 0 "worker" 1,
      .override "m" .off, .request 0 "worker" 2, .decide 0 "", .fill 0, .request 0 "worker" 3]
    (by decide +kernel) fun _ hrun _ => PlacementHub.served_answers_fresh sampleRules _ _ hrun

end Panewire.Placement
