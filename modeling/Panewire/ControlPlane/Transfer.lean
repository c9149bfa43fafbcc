import Mathlib.Data.String.Basic
import Panewire.Lanes.File

/-!
# Transfer of the control plane

The operator hands the authority lanes from one machine to another in steps: prepare or drain, make
ready, **commit** (which moves the routes and raises the epoch) and acknowledge. Each step is one
request with an id of its own. The control block remembers the last eight of them, so that a caller
who lost the reply can ask again.

* `transferControlPlane` — one request against the lanes file;
* `transferControlPlane_cases` — it leaves the file alone, or it takes effect on a control block
  whose epoch it expected and whose history does not know its id.
-/

namespace Panewire.ControlPlane

open Data Lanes

variable {snapshot : LanesFileSnapshot}

/-! ## Requests -/

structure RequestedLane where
  lane : String
  expected : Option ControlPlaneTransferRoute
  target : Option ControlPlaneTransferRoute
  deriving DecidableEq

/-- A request as decoded; a field that is missing is none, and so is an unknown action. Claims that
are missing count as false. -/
structure ControlPlaneTransferRequest where
  action : Option ControlPlaneAction
  requestID : String
  expectedEpoch : Option UInt64
  handoverDocKey : Option String
  inflightOperations : Option UInt64
  lanes : List RequestedLane
  readiness : ControlPlaneReadinessClaims := {}
  deriving DecidableEq

/-- A request that passed validation. -/
structure Transfer where
  requestID : String
  action : ControlPlaneAction
  expectedEpoch : UInt64
  handoverDocKey : String
  inflightOperations : UInt64
  lanes : List ControlPlaneTransferLane
  readiness : ControlPlaneReadinessClaims
  deriving DecidableEq

def validControlPlaneTransferRoute (route : ControlPlaneTransferRoute) : Bool :=
  validControlPlaneMachine route.machine && validLanePane route.pane

def validateLane (lane : RequestedLane) : Option ControlPlaneTransferLane :=
  match lane.expected, lane.target with
  | some expected, some target =>
    if laneNamePattern.accepts lane.lane ∧ validControlPlaneTransferRoute expected ∧
        validControlPlaneTransferRoute target then
      some ⟨lane.lane, expected, target⟩
    else none
  | _, _ => none

/-- The two lanes of a request. -/
def validateLanes (lanes : List RequestedLane) : Option (List ControlPlaneTransferLane) :=
  if lanes.length = 2 ∧ (lanes.map (·.lane)).Nodup then lanes.mapM validateLane else none

/-- The code of the refusal, or the request. -/
def validateControlPlaneTransferRequest (request : ControlPlaneTransferRequest) :
    Except String Transfer :=
  match request.action, request.expectedEpoch, request.handoverDocKey, request.inflightOperations,
      validateLanes request.lanes with
  | some action, some expectedEpoch, some handoverDocKey, some inflightOperations, some lanes =>
    if !validHubSpawnRequestID request.requestID ∨
        !validControlPlaneHandoverDocKey handoverDocKey then
      .error "invalid_transfer_request"
    else if lanes.head?.map (·.target.machine) ≠ lanes.getLast?.map (·.target.machine) then
      .error "mixed_target_machine"
    else .ok ⟨request.requestID, action, expectedEpoch, handoverDocKey, inflightOperations, lanes,
      request.readiness⟩
  | _, _, _, _, _ => .error "invalid_transfer_request"

/-- `controlPlaneRequestFingerprint` before it is hashed. -/
def Transfer.fingerprint (t : Transfer) : Fingerprint where
  action := t.action
  expectedEpoch := t.expectedEpoch
  handoverDocKey := t.handoverDocKey
  inflightOperations := t.inflightOperations
  lanes := t.lanes.insertionSort fun a b => a.lane ≤ b.lane
  readiness := t.readiness

structure ControlPlaneTransferResponse where
  requestID : String
  epoch : UInt64
  owner : String
  state : ControlPlaneState
  handoverDocKey : String
  lanes : List ControlPlaneRouteProjection
  readiness : List ControlPlaneReadinessCheck
  deriving DecidableEq

inductive TransferError where
  /-- a refusal, with its code -/
  | conflict (code : String)
  | lanesUnconfigured
  | lanesInvalid
  | lanesFileFull
  | lanesWriteFailed
  deriving DecidableEq

/-! ## The environment of one request -/

/-- How the write of the file ends. The rename is its last step that can fail. -/
inductive Storage where
  | written
  | full
  | failed
  /-- the file was replaced and then its lock could not be released -/
  | unlockFailed
  deriving DecidableEq

structure TransferEnv where
  /-- the path of the lanes file is configured -/
  configured : Bool := true
  /-- the policy that names the authority lanes: whether there is one, whether it was ever loaded,
  and what it says -/
  policyConfigured : Bool := false
  policyLoaded : Bool := false
  authorityLanes : List String := []
  /-- machines with a token, and machines that are connected -/
  tokens : List String := []
  nodes : List String := []
  now : ℤ := 0
  storage : Storage := .written
  deriving DecidableEq

variable (env : TransferEnv)

/-- Why these lanes are not the authority bundle. -/
def controlPlaneBundleDecision (lanes : List ControlPlaneTransferLane) : Option String :=
  if env.policyConfigured ∧ !env.policyLoaded then some "authority_lane_policy_unavailable"
  else if env.authorityLanes = [] then none
  else if lanes.length ≠ env.authorityLanes.length ∨
      (lanes.any fun l => l.lane ∉ env.authorityLanes) then
    some "authority_bundle_mismatch"
  else none

def controlPlaneTargetsReady (lanes : List ControlPlaneTransferLane)
    (routes : List (String × LaneRow)) : Bool :=
  lanes.all fun l => validLanePane l.target.pane &&
    knownLaneMachine env.tokens env.nodes l.target.machine routes

def controlPlaneClaimsReady (claims : ControlPlaneReadinessClaims) : Bool :=
  claims.modelLogin && claims.tools && claims.handoffkeepRead && claims.hubRead && claims.targetPane

def controlPlaneReadinessChecks (t : Transfer) (routes : List (String × LaneRow)) :
    List ControlPlaneReadinessCheck :=
  [⟨"model_login", t.readiness.modelLogin⟩, ⟨"tools", t.readiness.tools⟩,
    ⟨"handoffkeep_read", t.readiness.handoffkeepRead⟩, ⟨"hub_read", t.readiness.hubRead⟩,
    ⟨"target_pane", t.readiness.targetPane && controlPlaneTargetsReady env t.lanes routes⟩]

/-- The checks in their order, if all of them passed. -/
def orderedControlPlaneReadinessChecks (checks : List ControlPlaneReadinessCheck) :
    Option (List ControlPlaneReadinessCheck) :=
  if checks.length = controlPlaneReadinessNames.length ∧ (checks.map (·.name)).Nodup ∧
      (checks.all (·.ok)) ∧ (controlPlaneReadinessNames.all fun n => checks.any (·.name = n)) then
    some (controlPlaneReadinessNames.map (⟨·, true⟩))
  else none

def controlPlaneReadinessClearance (t : Transfer) (routes : List (String × LaneRow)) :
    Option (List ControlPlaneReadinessCheck) :=
  if !controlPlaneClaimsReady t.readiness then none
  else (orderedControlPlaneReadinessChecks (controlPlaneReadinessChecks env t routes)).filter
    fun _ => controlPlaneTargetsReady env t.lanes routes

/-! ## Transitions -/

def controlPlaneTransitions : ControlPlaneState → ControlPlaneAction → Option ControlPlaneState
  | .active, .prepare => some .prepared
  | .active, .drain => some .draining
  | .prepared, .commit => some .transferredUnacked
  | .draining, .handoverReady => some .handoverReady
  | .handoverReady, .commit => some .transferredUnacked
  | .transferredUnacked, .ack => some .active
  | _, _ => none

def controlPlaneCurrentState (control : LanesFileControl) : ControlPlaneState :=
  control.state.getD .active

def controlPlaneExpectedRoutesMatch (lanes : List ControlPlaneTransferLane)
    (routes : List (String × LaneRow)) : Bool :=
  lanes.all fun l =>
    match Assoc.get routes l.lane with
    | none => false
    | some route =>
      !route.sink && route.machine = l.expected.machine && route.pane = l.expected.pane

/-- The last record with the id. -/
def findControlPlaneHistoryRecord (history : List ControlPlaneHistoryRecord) (requestID : String) :
    Option ControlPlaneHistoryRecord :=
  history.reverse.find? (·.requestID = requestID)

def controlPlaneResponseFromHistory (record : ControlPlaneHistoryRecord) :
    ControlPlaneTransferResponse :=
  ⟨record.requestID, record.epoch, record.owner, record.state, record.handoverDocKey,
    record.routes, record.readiness⟩

/-- Every check of a request that the history does not know: the state that follows, and the
readiness checks that a commit needs. -/
def checkTransfer (snapshot : LanesFileSnapshot) (t : Transfer) :
    Except TransferError (ControlPlaneState × List ControlPlaneReadinessCheck) :=
  match controlPlaneBundleDecision env t.lanes with
  | some code => .error (.conflict code)
  | none =>
    if t.expectedEpoch ≠ snapshot.control.epoch then .error (.conflict "stale_epoch")
    else if !controlPlaneExpectedRoutesMatch t.lanes snapshot.routes then
      .error (.conflict "route_mismatch")
    else
      match controlPlaneTransitions (controlPlaneCurrentState snapshot.control) t.action with
      | none => .error (.conflict "illegal_transition")
      | some next =>
        if t.action = .handoverReady ∧ t.inflightOperations ≠ 0 then
          .error (.conflict "illegal_transition")
        else if t.action = .commit then
          match controlPlaneReadinessClearance env t snapshot.routes with
          | none => .error (.conflict "target_not_ready")
          | some checks => .ok (next, checks)
        else .ok (next, [])

def commitControlPlaneRoutes (routes : List (String × LaneRow))
    (lanes : List ControlPlaneTransferLane) : List (String × LaneRow) :=
  lanes.foldl (fun routes l =>
    let row := (Assoc.get routes l.lane).getD {}
    Assoc.put routes l.lane { row with machine := l.target.machine, pane := l.target.pane }) routes

def controlPlaneResponse (t : Transfer) (control : LanesFileControl) (state : ControlPlaneState)
    (routes : List (String × LaneRow)) (checks : List ControlPlaneReadinessCheck) :
    ControlPlaneTransferResponse where
  requestID := t.requestID
  epoch := control.epoch
  owner := control.owner
  state
  handoverDocKey := control.handoverDocKey
  lanes := (t.lanes.map fun l =>
    let row := (Assoc.get routes l.lane).getD {}
    ⟨l.lane, row.machine, row.pane⟩).insertionSort fun a b => a.lane ≤ b.lane
  readiness := checks

/-- A transition that took effect: the reply to it, its record, and the state it left. -/
structure Effect where
  response : ControlPlaneTransferResponse
  record : ControlPlaneHistoryRecord
  before : ControlPlaneState
  deriving DecidableEq

/-- The last entries of the history. -/
def cutHistory (history : List ControlPlaneHistoryRecord) : List ControlPlaneHistoryRecord :=
  history.drop (history.length - controlPlaneHistoryMaxEntries)

/-- The control block after the step, but for its history. -/
def advance (t : Transfer) (control : LanesFileControl) (next : ControlPlaneState) :
    LanesFileControl :=
  { control with
    epoch := if t.action = .commit then control.epoch + 1 else control.epoch
    owner := if t.action = .commit then
      (t.lanes.head?.map (·.target.machine)).getD "" else control.owner
    state := some next
    lastRequestID := t.requestID
    handoverDocKey := t.handoverDocKey
    updatedAt := some env.now }

def routesAfter (t : Transfer) (routes : List (String × LaneRow)) : List (String × LaneRow) :=
  if t.action = .commit then commitControlPlaneRoutes routes t.lanes else routes

/-- What a checked request does. -/
def effectOf (snapshot : LanesFileSnapshot) (t : Transfer) (next : ControlPlaneState)
    (checks : List ControlPlaneReadinessCheck) : Effect :=
  let response := controlPlaneResponse t (advance env t snapshot.control next) next
    (routesAfter t snapshot.routes) checks
  { response
    record := ⟨t.requestID, t.fingerprint, response.epoch, response.owner, response.handoverDocKey,
      response.state, response.lanes, response.readiness, env.now⟩
    before := controlPlaneCurrentState snapshot.control }

def snapshotAfter (snapshot : LanesFileSnapshot) (t : Transfer) (next : ControlPlaneState)
    (record : ControlPlaneHistoryRecord) : LanesFileSnapshot where
  routes := routesAfter t snapshot.routes
  control :=
    { advance env t snapshot.control next with
      history := cutHistory (snapshot.control.history ++ [record]) }

/-- What came of a request; `effect` is the transition if one became durable. -/
structure TransferResult where
  reply : Except TransferError ControlPlaneTransferResponse
  file : Option LanesFile
  effect : Option Effect := none

def transferControlPlane (file : Option LanesFile) (t : Transfer) : TransferResult :=
  if !env.configured then ⟨.error .lanesUnconfigured, file, none⟩
  else
    match parseForWrite file with
    | none => ⟨.error .lanesInvalid, file, none⟩
    | some snapshot =>
      -- Before the epoch is checked: a retry still expects the epoch of its first attempt.
      match findControlPlaneHistoryRecord snapshot.control.history t.requestID with
      | some record =>
        if record.fingerprint ≠ t.fingerprint then
          ⟨.error (.conflict "request_id_conflict"), file, none⟩
        else if env.storage = .unlockFailed then ⟨.error .lanesWriteFailed, file, none⟩
        else ⟨.ok (controlPlaneResponseFromHistory record), file, none⟩
      | none =>
        match checkTransfer env snapshot t with
        | .error err => ⟨.error err, file, none⟩
        | .ok (next, checks) =>
          let effect := effectOf env snapshot t next checks
          let written := encodeLanesFile (snapshotAfter env snapshot t next effect.record)
          match env.storage with
          | .full => ⟨.error .lanesFileFull, file, none⟩
          | .failed => ⟨.error .lanesWriteFailed, file, none⟩
          | .unlockFailed => ⟨.error .lanesWriteFailed, some written, some effect⟩
          | .written => ⟨.ok effect.response, some written, some effect⟩

/-! ## What one request does -/

variable {env}

theorem checkTransfer_ok {t : Transfer} {next : ControlPlaneState}
    {checks : List ControlPlaneReadinessCheck}
    (h : checkTransfer env snapshot t = .ok (next, checks)) :
    t.expectedEpoch = snapshot.control.epoch ∧
      controlPlaneTransitions (controlPlaneCurrentState snapshot.control) t.action = some next := by
  unfold checkTransfer at h
  split at h
  · cases h
  split at h
  · cases h
  next hep =>
  split at h
  · cases h
  split at h
  · cases h
  next next' ht =>
  refine ⟨not_not.mp hep, ?_⟩
  rw [ht]
  split at h
  · cases h
  · split at h
    · split at h
      · cases h
      · cases h; rfl
    · cases h; rfl

/-- The lanes of a request that passed are the authority bundle, where it expects them. -/
theorem checkTransfer_lanes {t : Transfer}
    {result : ControlPlaneState × List ControlPlaneReadinessCheck}
    (h : checkTransfer env snapshot t = .ok result) :
    controlPlaneBundleDecision env t.lanes = none ∧
      controlPlaneExpectedRoutesMatch t.lanes snapshot.routes = true := by
  unfold checkTransfer at h
  split at h
  · cases h
  · next hb =>
    split at h
    · cases h
    · split at h
      · cases h
      · next hrts => exact ⟨hb, by simpa using hrts⟩

/-- The request takes effect on what was read from the file. -/
structure TakesEffect (env : TransferEnv) (snapshot : LanesFileSnapshot) (t : Transfer)
    (effect : Effect) (file : Option LanesFile) : Prop where
  /-- the history does not know its id -/
  unknown : ∀ record ∈ snapshot.control.history, record.requestID ≠ t.requestID
  epoch : t.expectedEpoch = snapshot.control.epoch
  allowed : ∃ next checks, controlPlaneTransitions (controlPlaneCurrentState snapshot.control)
      t.action = some next ∧ effect = effectOf env snapshot t next checks ∧
    file = some (encodeLanesFile (snapshotAfter env snapshot t next effect.record))

theorem find_eq_none {history : List ControlPlaneHistoryRecord} {requestID : String}
    (h : findControlPlaneHistoryRecord history requestID = none) :
    ∀ record ∈ history, record.requestID ≠ requestID := by
  intro record hrc
  simpa using List.find?_eq_none.mp h record (List.mem_reverse.mpr hrc)

/-- What a request does to the file: nothing, or what its checks allow. -/
theorem transferControlPlane_spec (env : TransferEnv) (file : Option LanesFile) (t : Transfer) :
    ((transferControlPlane env file t).file = file ∧
      (transferControlPlane env file t).effect = none) ∨
    ∃ snapshot next checks, parseForWrite file = some snapshot ∧
      findControlPlaneHistoryRecord snapshot.control.history t.requestID = none ∧
      checkTransfer env snapshot t = .ok (next, checks) ∧
      (transferControlPlane env file t).effect = some (effectOf env snapshot t next checks) ∧
      (transferControlPlane env file t).file = some (encodeLanesFile
        (snapshotAfter env snapshot t next (effectOf env snapshot t next checks).record)) := by
  unfold transferControlPlane
  split
  · exact .inl ⟨rfl, rfl⟩
  split
  · exact .inl ⟨rfl, rfl⟩
  next snapshot hre =>
  split
  · split
    · exact .inl ⟨rfl, rfl⟩
    · split <;> exact .inl ⟨rfl, rfl⟩
  next hfi =>
  split
  · exact .inl ⟨rfl, rfl⟩
  · next next checks hcheck =>
    split
    · exact .inl ⟨rfl, rfl⟩
    · exact .inl ⟨rfl, rfl⟩
    · exact .inr ⟨snapshot, next, checks, hre, hfi, hcheck, rfl, rfl⟩
    · exact .inr ⟨snapshot, next, checks, hre, hfi, hcheck, rfl, rfl⟩

/-- **Either nothing happens or the request takes effect**, and what takes effect was neither known
nor late. -/
theorem transferControlPlane_cases (env : TransferEnv) (file : Option LanesFile) (t : Transfer) :
    ((transferControlPlane env file t).file = file ∧
      (transferControlPlane env file t).effect = none) ∨
    ∃ snapshot effect, parseForWrite file = some snapshot ∧
      (transferControlPlane env file t).effect = some effect ∧
      TakesEffect env snapshot t effect (transferControlPlane env file t).file := by
  rcases transferControlPlane_spec env file t with h | ⟨snapshot, next, checks, hre, hfin,
    hcheck, he, hfi⟩
  · exact .inl h
  · obtain ⟨hep, hn⟩ := checkTransfer_ok hcheck
    exact .inr ⟨snapshot, _, hre, he, find_eq_none hfin, hep, next, checks, hn,
      rfl, hfi⟩

/-- A request whose id the history knows. -/
theorem transferControlPlane_known {file : Option LanesFile}
    {t : Transfer} {record : ControlPlaneHistoryRecord} (hc : env.configured = true)
    (hre : parseForWrite file = some snapshot)
    (hfi : findControlPlaneHistoryRecord snapshot.control.history t.requestID = some record)
    (hl : env.storage ≠ .unlockFailed) :
    transferControlPlane env file t = ⟨if record.fingerprint = t.fingerprint then
      .ok (controlPlaneResponseFromHistory record)
      else .error (.conflict "request_id_conflict"), file, none⟩ := by
  unfold transferControlPlane
  rw [hc, hre]
  simp only [hfi, hl]
  by_cases h : record.fingerprint = t.fingerprint <;> simp [h]

/-- A reply that is not an error comes from the history or from taking effect. -/
theorem transferControlPlane_refused {file : Option LanesFile} {t : Transfer}
    (he : (transferControlPlane env file t).effect = none)
    (hu : ∀ snapshot ∈ parseForWrite file,
      ∀ record ∈ findControlPlaneHistoryRecord snapshot.control.history t.requestID,
        record.fingerprint ≠ t.fingerprint) :
    ∃ err, (transferControlPlane env file t).reply = .error err := by
  unfold transferControlPlane at he ⊢
  split
  · exact ⟨_, rfl⟩
  next hc =>
  split
  · exact ⟨_, rfl⟩
  next snapshot hre =>
  simp only [hre] at he
  split
  · next record hfi =>
    rw [if_pos (hu snapshot hre record hfi)]
    exact ⟨_, rfl⟩
  next hfi =>
  split
  · exact ⟨_, rfl⟩
  · next hcheck =>
    split <;> first | exact ⟨_, rfl⟩ | simp_all

end Panewire.ControlPlane
