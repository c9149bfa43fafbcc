import Panewire.Hub.Route

/-!
# The lanes file

One file holds the routes of all lanes and, next to them, the **control block**: who owns the
control plane, in which epoch, in which state of a handover, and the last few transfers. Every
change of either replaces the whole file under a lock.

* `parseForWrite` — reading the file in order to change it, which fails rather than lose an entry;
* `encodeLanesFile` — what is written;
* `rowAt_encode` — rows that were read and written again read the same;
* `controlOf_encode` — so does the control block, unless it has no epoch, no owner and no history:
  then it is not written.
-/

namespace Panewire.Lanes

open Data Hub List

/-! ## Control -/

inductive ControlPlaneAction where
  | prepare
  | drain
  | handoverReady
  | commit
  | ack
  deriving DecidableEq

inductive ControlPlaneState where
  | active
  | prepared
  | draining
  | handoverReady
  | transferredUnacked
  deriving DecidableEq

structure ControlPlaneRouteProjection where
  lane : String
  machine : String
  pane : String
  deriving DecidableEq

structure ControlPlaneReadinessCheck where
  name : String
  ok : Bool
  deriving DecidableEq

structure ControlPlaneTransferRoute where
  machine : String
  pane : String
  deriving DecidableEq

structure ControlPlaneTransferLane where
  lane : String
  expected : ControlPlaneTransferRoute
  target : ControlPlaneTransferRoute
  deriving DecidableEq

/-- The readiness claims of a request; one that was left out counts as false. -/
structure ControlPlaneReadinessClaims where
  modelLogin : Bool := false
  tools : Bool := false
  handoffkeepRead : Bool := false
  hubRead : Bool := false
  targetPane : Bool := false
  deriving DecidableEq

/-- What identifies the body of a transfer request. The source hashes its encoding; here it stands
for its hash. -/
structure Fingerprint where
  action : ControlPlaneAction
  expectedEpoch : UInt64
  handoverDocKey : String
  inflightOperations : UInt64
  /-- in lane order -/
  lanes : List ControlPlaneTransferLane
  readiness : ControlPlaneReadinessClaims
  deriving DecidableEq

structure ControlPlaneHistoryRecord where
  requestID : String
  /-- decides whether a repeated request id is the same request -/
  fingerprint : Fingerprint
  epoch : UInt64
  owner : String
  handoverDocKey : String
  state : ControlPlaneState
  routes : List ControlPlaneRouteProjection
  readiness : List ControlPlaneReadinessCheck
  time : ℤ
  deriving DecidableEq

structure LanesFileControl where
  epoch : UInt64 := 0
  owner : String := ""
  /-- none is the empty text -/
  state : Option ControlPlaneState := none
  lastRequestID : String := ""
  handoverDocKey : String := ""
  updatedAt : Option ℤ := none
  history : List ControlPlaneHistoryRecord := []
  deriving DecidableEq

def LanesFileControl.shouldPersist (control : LanesFileControl) : Bool :=
  control.epoch ≠ 0 || control.owner ≠ "" || control.history.length ≠ 0

/-! ### What may stand in a control block -/

def controlPlaneHistoryMaxEntries : ℕ := 8

def isHex (c : Char) : Bool := c.isDigit || ('a' ≤ c && c ≤ 'f') || ('A' ≤ c && c ≤ 'F')

/-- A version 4 UUID, in either case. -/
def validHubSpawnRequestID (value : String) : Bool :=
  let cs := value.toList
  cs.length = 36 && cs.zipIdx.all fun (c, i) =>
    if i = 8 ∨ i = 13 ∨ i = 18 ∨ i = 23 then c = '-'
    else if i = 14 then c = '4'
    else if i = 19 then c ∈ ['8', '9', 'a', 'b', 'A', 'B']
    else isHex c

/-- `^w[A-Za-z0-9]+:p[A-Za-z0-9]+$` -/
def lanePanePattern (pane : String) : Bool :=
  match pane.toList with
  | 'w' :: cs =>
    let workspace := cs.takeWhile Char.isAlphanum
    match cs.drop workspace.length with
    | ':' :: 'p' :: ds => !workspace.isEmpty && !ds.isEmpty && ds.all Char.isAlphanum
    | _ => false
  | _ => false

def validLanePane (pane : String) : Bool :=
  pane ≠ "" && pane.utf8ByteSize ≤ hubPaneIDLimit && lanePanePattern pane

def validControlPlaneHandoverDocKey (value : String) : Bool :=
  1 ≤ value.length && value.length ≤ 200 &&
    value.toList.all fun c => !Go.isSpace c && !isControl c

/-- A machine that may hold a lane. -/
def validControlPlaneMachine (machine : String) : Bool :=
  machine ≠ "operator" && machineIDPattern.accepts machine

def controlPlaneReadinessNames : List String :=
  ["model_login", "tools", "handoffkeep_read", "hub_read", "target_pane"]

/-- The five passing checks of a commit, or nothing. -/
def validControlPlaneHistoryReadiness (checks : List ControlPlaneReadinessCheck) : Bool :=
  checks = [] || checks = controlPlaneReadinessNames.map (⟨·, true⟩)

def validHistoryRecord (record : ControlPlaneHistoryRecord) : Bool :=
  validHubSpawnRequestID record.requestID && record.routes.length = 2 &&
    validControlPlaneHandoverDocKey record.handoverDocKey &&
    (record.routes.all fun route => laneNamePattern.accepts route.lane &&
      validControlPlaneMachine route.machine && validLanePane route.pane) &&
    validControlPlaneHistoryReadiness record.readiness

def validateLanesFileControl (control : LanesFileControl) : Bool :=
  (control.owner = "" || validControlPlaneMachine control.owner) &&
    (control.lastRequestID = "" || validHubSpawnRequestID control.lastRequestID) &&
    (control.handoverDocKey = "" || validControlPlaneHandoverDocKey control.handoverDocKey) &&
    control.history.length ≤ controlPlaneHistoryMaxEntries &&
    control.history.all validHistoryRecord

/-! ## Rows -/

/-- A row of the file. -/
structure LaneRow extends ReportRelayRoute where
  isProtected : Bool := false
  deriving DecidableEq

/-- What is on disk. -/
structure LanesFile where
  lanes : List (String × LaneRow)
  control : LanesFileControl := {}
  deriving DecidableEq

/-- A file that was read in order to change it. -/
structure LanesFileSnapshot where
  routes : List (String × LaneRow)
  control : LanesFileControl
  deriving DecidableEq

/-- A row as the hub uses it. -/
def parseRow (lane : String) (row : LaneRow) : Option LaneRow :=
  (parseRoute lane row.toReportRelayRoute).map fun route => { row with toReportRelayRoute := route }

/-- The rows that the hub reads. -/
def LanesFile.routes (file : LanesFile) : List (String × LaneRow) :=
  file.lanes.filterMap fun entry => (parseRow entry.1 entry.2).map (entry.1, ·)

/-- A machine that may be named: one with a token, with a row, or with a connection. -/
def knownLaneMachine (tokens nodes : List String) (machine : String)
    (routes : List (String × LaneRow)) : Bool :=
  if machine ∈ tokens then machine ≠ "operator"
  else (routes.any fun e => !e.2.sink && e.2.machine = machine) || machine ∈ nodes

/-- Reading for a change: every entry must be one that the hub can use, and the control block one
that it understands. A missing file is empty. -/
def parseForWrite (file : Option LanesFile) : Option LanesFileSnapshot :=
  match file with
  | none => some ⟨[], {}⟩
  | some file =>
    if validateLanesFileControl file.control ∧
        (file.lanes.all fun entry => (parseRow entry.1 entry.2).isSome) then
      some ⟨file.routes, file.control⟩
    else none

def encodeLanesFile (snapshot : LanesFileSnapshot) : LanesFile where
  lanes := snapshot.routes
  control := if snapshot.control.shouldPersist then snapshot.control else {}

/-! ## Reading back -/

/-- The control block on disk. -/
def controlOf (file : Option LanesFile) : LanesFileControl := (file.map (·.control)).getD {}

variable {snapshot : LanesFileSnapshot} {file : Option LanesFile}

/-- The rows on disk, as the hub reads them. -/
def routesOf (file : Option LanesFile) : List (String × LaneRow) :=
  (file.map LanesFile.routes).getD []

/-- The row of a lane. -/
def rowAt (file : Option LanesFile) (lane : String) : Option LaneRow :=
  Assoc.get (routesOf file) lane

/-- **What a change reads**: the rows and the control block on disk, and the block is valid. -/
theorem parse_ok (h : parseForWrite file = some snapshot) :
    snapshot = ⟨routesOf file, controlOf file⟩ ∧
      validateLanesFileControl snapshot.control = true := by
  cases file with
  | none => cases h; exact ⟨rfl, by decide⟩
  | some file =>
    obtain ⟨hv, hok⟩ := Option.ite_none_right_eq_some.mp h
    cases hok
    exact ⟨rfl, hv.1⟩

theorem control_of_parse (h : parseForWrite file = some snapshot) :
    snapshot.control = controlOf file := congrArg (·.control) (parse_ok h).1

theorem routes_of_parse (h : parseForWrite file = some snapshot) :
    snapshot.routes = routesOf file := congrArg (·.routes) (parse_ok h).1

/-- Rows that parse to themselves. -/
def Normal (routes : List (String × LaneRow)) : Prop :=
  ∀ entry ∈ routes, parseRow entry.1 entry.2 = some entry.2

variable {lane : String}

/-- Parsing a row that was parsed changes nothing. -/
theorem parseRoute_idem {raw route : ReportRelayRoute}
    (h : parseRoute lane raw = some route) : parseRoute lane route = some route := by
  unfold parseRoute at h
  split at h
  · cases h
  next hl =>
  split at h
  · cases h
  next hpar =>
  split at h
  · cases h
    rw [parseRoute, if_neg hl, if_neg hpar, if_pos (.inl rfl)]
  · next hp =>
    split at h
    · cases h
    · next hok =>
      cases h
      rw [parseRoute, if_neg hl, if_neg hpar, if_neg hp, if_neg hok]

theorem parseRow_idem {raw row : LaneRow} (h : parseRow lane raw = some row) :
    parseRow lane row = some row := by
  obtain ⟨route, hrt, rfl⟩ := Option.map_eq_some_iff.mp h
  simp [parseRow, parseRoute_idem hrt]

theorem normal_of_parse (h : parseForWrite file = some snapshot) : Normal snapshot.routes := by
  rw [routes_of_parse h]
  cases file with
  | none => exact fun _ he => absurd he not_mem_nil
  | some file =>
    intro entry hent
    obtain ⟨raw, -, hraw⟩ := mem_filterMap.mp hent
    obtain ⟨row, hrow, rfl⟩ := Option.map_eq_some_iff.mp hraw
    exact parseRow_idem hrow

variable {routes : List (String × LaneRow)}

theorem Normal.del (h : Normal routes) (lane : String) : Normal (Assoc.del routes lane) :=
  fun entry he => h entry (mem_filter.mp he).1

theorem Normal.put (h : Normal routes)
    {row : LaneRow} (hrow : parseRow lane row = some row) : Normal (Assoc.put routes lane row) := by
  intro entry he
  rcases mem_cons.mp he with rfl | he
  · exact hrow
  · exact h.del lane entry he

theorem routes_encode (h : Normal routes) (control : LanesFileControl) :
    (encodeLanesFile ⟨routes, control⟩).routes = routes := by
  have hs : ∀ entry ∈ routes, (parseRow entry.1 entry.2).map (entry.1, ·) = some entry := by
    intro entry he
    rw [h entry he]
    rfl
  exact (filterMap_congr hs).trans filterMap_some

theorem rowAt_encode (h : Normal routes) (control : LanesFileControl) (lane : String) :
    rowAt (some (encodeLanesFile ⟨routes, control⟩)) lane = Assoc.get routes lane :=
  congrArg (Assoc.get · lane) (routes_encode h control)

/-- A row that is put leaves what is read of the others. -/
theorem rowAt_encode_put (h : Normal routes)
    (control : LanesFileControl) {other : String} (row : LaneRow) (hne : lane ≠ other) :
    rowAt (some (encodeLanesFile ⟨Assoc.put routes lane row, control⟩)) other =
      Assoc.get routes other := by
  have ht : rowAt (some (encodeLanesFile ⟨Assoc.put routes lane row, control⟩)) other =
      rowAt (some (encodeLanesFile ⟨Assoc.del routes lane, control⟩)) other := by
    change Assoc.get (((lane, row) :: Assoc.del routes lane).filterMap fun entry =>
      (parseRow entry.1 entry.2).map (entry.1, ·)) other = _
    rw [filterMap_cons]
    cases parseRow lane row with
    | none => rfl
    | some parsed =>
      exact Assoc.get_cons_of_ne _ hne
  rw [ht, rowAt_encode (h.del lane), Assoc.get_del, if_neg hne]

theorem epoch_owner_encode (routes : List (String × LaneRow)) (control : LanesFileControl) :
    (controlOf (some (encodeLanesFile ⟨routes, control⟩))).epoch = control.epoch ∧
      (controlOf (some (encodeLanesFile ⟨routes, control⟩))).owner = control.owner := by
  change (if control.shouldPersist then control else {}).epoch = _ ∧
    (if control.shouldPersist then control else {}).owner = _
  split
  · exact ⟨rfl, rfl⟩
  · next h =>
    simp only [LanesFileControl.shouldPersist, Bool.or_eq_true, decide_eq_true_eq, not_or,
      not_not] at h
    exact ⟨h.1.1.symm, h.1.2.symm⟩

/-- The control block survives being written. -/
def LanesFileControl.Persists (control : LanesFileControl) : Prop :=
  control.shouldPersist = true ∨ control = {}

instance (control : LanesFileControl) : Decidable control.Persists :=
  inferInstanceAs (Decidable (_ ∨ _))

theorem controlOf_encode (routes : List (String × LaneRow)) (control : LanesFileControl) :
    controlOf (some (encodeLanesFile ⟨routes, control⟩)) = control ↔ control.Persists := by
  change (if control.shouldPersist then control else {}) = control ↔ _
  split
  · next h => exact ⟨fun _ => .inl h, fun _ => rfl⟩
  · next h => exact ⟨fun hc => .inr hc.symm, fun hp => (hp.resolve_left h).symm⟩

end Panewire.Lanes
