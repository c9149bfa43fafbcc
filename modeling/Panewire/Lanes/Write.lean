import Mathlib.Data.String.Basic
import Panewire.Lanes.File

/-!
# Writing lanes

A node may put and delete the rows of its own machine, and the hub drops rows whose panes are gone:
when a node at its **row cap** puts another one, when a pane was closed by command, and in a sweep
every half minute. All of them read the file under its lock, choose, and replace it as a whole.

* `putLane`, `deleteLane` — the requests of a node or of the operator;
* `nodeMayDropLane` — what every path asks before it drops a row;
* `releasePaneLanes`, `releaseDeadLanes` — rows that go without a request.
-/

namespace Panewire.Lanes

open Data Hub HubJobs

/-! ## State -/

/-- The policy that names the authority lanes. -/
structure AuthorityPolicy where
  /-- the policy file, if one is configured -/
  file : Option (PolicyFile (List String)) := none
  observed : Option ℤ := none
  loaded : Bool := false
  lanes : List String := []

/-- `reloadControlPlaneLanesLocked` -/
def AuthorityPolicy.reload (p : AuthorityPolicy) : AuthorityPolicy :=
  match p.file with
  | none => p
  | some .unreadable => p
  | some (.file modTime policy) =>
    if p.observed = some modTime then p
    else
      match policy with
      | none => { p with observed := some modTime }
      | some lanes => { p with observed := some modTime, loaded := true, lanes }

/-- A node's last session snapshot. -/
structure SessionSnapshot where
  ok : Bool
  truncated : Bool := false
  /-- `paneIDs` is the complete list of panes -/
  paneIDsComplete : Bool := false
  paneIDs : List String := []
  /-- the panes of the sessions -/
  sessions : List String := []
  receivedAt : ℤ
  deriving DecidableEq

structure LaneAbsenceKey where
  lane : String
  machine : String
  pane : String
  deriving DecidableEq

/-- What the hub remembers of rows. -/
structure LaneLiveness where
  wrote : List (String × ℤ) := []
  absent : List (LaneAbsenceKey × ℤ) := []
  deriving DecidableEq

/-- What a lane operation reads of the hub. -/
structure LaneHub where
  server : HubJobs.HubServer := {}
  snapshots : List (String × SessionSnapshot) := []
  tokens : List String := []
  policy : AuthorityPolicy := {}
  lanesNodeRowCap : ℕ := 64
  laneReleaseGrace : ℤ := 5 * 60 * 1000000000
  laneLife : LaneLiveness := {}
  now : ℤ := 0

/-- The file on disk: its size, what a file would take, and whether it can be replaced. -/
structure LaneStore where
  file : Option LanesFile
  bytes : ℕ
  encodedBytes : LanesFile → ℕ
  writable : Bool := true

inductive LaneError where
  | lanesInvalid
  | lanesWriteFailed
  | lanesFileFull
  | laneQuotaExceeded
  | laneNotFound
  | laneProtected
  | laneMachineMismatch
  | laneRequestInvalid
  | laneRouteChanged
  | authorityLaneDirectWrite
  | authorityLanePolicyUnavailable
  deriving DecidableEq

/-! ## Liveness -/

namespace LaneLiveness

variable (l : LaneLiveness)

def dropAbsence (lane : String) : LaneLiveness :=
  { l with absent := l.absent.filter fun e => e.1.lane ≠ lane }

def noteWrite (lane : String) (time : ℤ) : LaneLiveness :=
  LaneLiveness.dropAbsence { l with wrote := Assoc.put l.wrote lane time } lane

def forget (lane : String) : LaneLiveness :=
  LaneLiveness.dropAbsence { l with wrote := Assoc.del l.wrote lane } lane

def lastWrite (lane : String) : Option ℤ := Assoc.get l.wrote lane

/-- The time of the last write; a row that the hub never wrote was written when it is first
seen. -/
def writeOrSeed (lane : String) (now : ℤ) : ℤ × LaneLiveness :=
  match Assoc.get l.wrote lane with
  | some time => (time, l)
  | none => (now, { l with wrote := Assoc.put l.wrote lane now })

def retainWrites (routes : List (String × LaneRow)) : LaneLiveness :=
  { l with wrote := l.wrote.filter fun e => (Assoc.get routes e.1).isSome }

end LaneLiveness

/-! ## Who may drop a row -/

variable (h : LaneHub) (routes : List (String × LaneRow))

/-- A row of another machine, or a sink, reports to the lane. -/
def laneHasForeignChild (lane machine : String) : Bool :=
  (Assoc.entries routes).any fun e => e.2.parent = lane && e.2.machine ≠ machine

namespace LaneHub

/-- Another machine has a live job whose owner lane is the lane. -/
def laneHasForeignJob (lane machine : String) : Bool :=
  (h.server.nodes.any fun n => n.1 ≠ machine && n.2.activeJobs.any (·.2.ownerLane = lane)) ||
    h.server.jobs.any fun j =>
      !j.2.completed && j.2.node ≠ machine && j.2.active.ownerLane = lane

def laneHasForeignReference (lane machine : String) : Bool :=
  laneHasForeignChild routes lane machine || h.laneHasForeignJob lane machine

/-- Why a direct write of the lane may not proceed. A policy that was never loaded refuses every
lane. -/
def controlPlaneAuthorityDecision (lane : String) : Option LaneError :=
  let policy := h.policy.reload
  if policy.file.isSome ∧ !policy.loaded then some .authorityLanePolicyUnavailable
  else if lane ∈ policy.lanes then some .authorityLaneDirectWrite
  else none

def nodeMayDropLane (lane : String) (row : LaneRow) (machine : String) : Bool :=
  if row.sink ∨ row.machine ≠ machine ∨ row.isProtected ∨ row.pane = "" then false
  else if h.laneHasForeignReference routes lane machine then false
  else (h.controlPlaneAuthorityDecision lane).isNone

/-! ## What a snapshot proves -/

def sessionsFindSnapshotMaxAge : ℤ := 120 * 1000000000

def laneWriteSettle : ℤ := 10 * 1000000000

structure LaneObservation where
  panes : List String
  receivedAt : ℤ
  /-- the panes whose every job record on the node is completed -/
  finished : List String
  deriving DecidableEq

def observeNodePanes (machine : String) : Option LaneObservation :=
  match h.server.node machine with
  | none => none
  | some node =>
    if node.state ≠ .connected then none
    else
      match Assoc.get h.snapshots machine with
      | none => none
      | some snap =>
        if !snap.ok ∨ (snap.truncated ∧ !snap.paneIDsComplete) ∨ h.now < snap.receivedAt ∨
            sessionsFindSnapshotMaxAge < h.now - snap.receivedAt then none
        else
          let jobs := h.server.jobs.filter fun j => j.2.node = machine && j.2.active.pane ≠ ""
          let running := (jobs.filter fun j => !j.2.completed).map (·.2.active.pane)
          some {
            panes := if snap.paneIDsComplete then snap.paneIDs else snap.sessions
            receivedAt := snap.receivedAt
            finished := ((jobs.filter fun j => j.2.completed).map (·.2.active.pane)).filter
              (· ∉ running) }

/-- The fresh snapshot omits the row's pane and is late enough to speak for it. The first sighting
of a row is remembered. -/
def laneProvablyGone (life : LaneLiveness) (lane : String) (row : LaneRow)
    (obs : LaneObservation) : Bool × LaneLiveness :=
  if row.pane ∈ obs.panes then (false, life)
  else
    let seeded := life.writeOrSeed lane h.now
    (seeded.1 + laneWriteSettle < obs.receivedAt, seeded.2)

/-- One row of `evictableLanes`. -/
def evictStep (machine : String) (obs : LaneObservation) (acc : LaneLiveness × List String)
    (entry : String × LaneRow) : LaneLiveness × List String :=
  let gone := h.laneProvablyGone acc.1 entry.1 entry.2 obs
  (gone.2, if gone.1 ∧ h.nodeMayDropLane routes entry.1 entry.2 machine then
    acc.2 ++ [entry.1] else acc.2)

/-- The caller's own rows whose pane is provably gone, in lane order. -/
def evictableLanes (machine : String) : LaneLiveness × List String :=
  match h.observeNodePanes machine with
  | none => (h.laneLife, [])
  | some obs =>
    let found := (Assoc.entries routes).foldl (h.evictStep routes machine obs) (h.laneLife, [])
    (found.1, found.2.insertionSort (· ≤ ·))

end LaneHub

/-! ## Replacing the file -/

def lanesFileMaxBytes : ℕ := 64 * 1024

def lanesNodeFileMaxBytes : ℕ := lanesFileMaxBytes - 8 * 1024

/-- Encode and replace. What is not the operator's may not grow the file into the reserve. -/
def LaneStore.replace (store : LaneStore) (operator : Bool) (snapshot : LanesFileSnapshot) :
    Except LaneError LaneStore :=
  let file := encodeLanesFile snapshot
  let size := store.encodedBytes file
  if !operator ∧ lanesNodeFileMaxBytes < size ∧ store.bytes < size then .error .lanesFileFull
  else if lanesFileMaxBytes < size then .error .lanesFileFull
  else if !store.writable then .error .lanesWriteFailed
  else .ok { store with file := some file, bytes := size }

def removeLanes (lanes : List String) : List (String × LaneRow) :=
  lanes.foldl Assoc.del routes

/-! ## Put -/

structure HubLaneWriteRequest where
  machine : String := ""
  pane : String := ""
  parent : String := ""
  sink : Bool := false
  /-- `some none` removes the standby -/
  standby : Option (Option ReportRelayStandby) := none
  deriving DecidableEq

/-- The fields that a node may not choose freely. -/
def nodeLaneFieldScope (nodeMachine lane : String) (body : HubLaneWriteRequest)
    (routes : List (String × LaneRow)) : Option LaneError :=
  if body.sink ∨ body.machine ≠ nodeMachine then some .laneMachineMismatch
  else if body.standby.join.any (·.machine ≠ nodeMachine) then some .laneMachineMismatch
  else if body.parent ≠ "" then
    if !validReportRelayLaneName body.parent ∨ body.parent = lane then some .laneRequestInvalid
    else if (Assoc.get routes body.parent).all (·.sink) then some .laneMachineMismatch
    else none
  else none

def LaneHub.validateLaneWriteRequest (lane : String) (body : HubLaneWriteRequest)
    (routes : List (String × LaneRow)) : Option LaneError :=
  let known machine := knownLaneMachine h.tokens (h.server.nodes.map (·.1)) machine routes
  if !laneNamePattern.accepts lane then some .laneRequestInvalid
  else if body.parent ≠ "" ∧ (!validReportRelayLaneName body.parent ∨ body.parent = lane ∨
      (Assoc.get routes body.parent).isNone) then some .laneRequestInvalid
  else if body.sink then none
  else if body.standby.join.any fun s => !validReportRelayStandby s || s.machine = "operator" ||
      !known s.machine || !validLanePane s.pane then some .laneRequestInvalid
  else if body.machine = "operator" ∨ !machineIDPattern.accepts body.machine ∨
      !known body.machine ∨ !validLanePane body.pane then some .laneRequestInvalid
  else none

/-- The checks of a put by a node: its fields, the request, the row, the authority. -/
def LaneHub.checkNodePut (lane : String) (body : HubLaneWriteRequest) (nodeMachine : String)
    (routes : List (String × LaneRow)) : Option LaneError :=
  let existing := Assoc.get routes lane
  let owned := existing.any (·.machine = nodeMachine)
  match nodeLaneFieldScope nodeMachine lane body routes with
  | some err => some err
  | none =>
    match h.validateLaneWriteRequest lane { body with parent := "" } routes with
    | some err => some err
    | none =>
      if existing.isSome ∧ !owned then some .laneMachineMismatch
      else if existing.isNone ∧ h.laneHasForeignReference routes lane nodeMachine then
        some .laneMachineMismatch
      else
        match h.controlPlaneAuthorityDecision lane with
        -- Only a lane that the node owns may reveal that it is protected.
        | some .authorityLaneDirectWrite =>
          if owned then some .authorityLaneDirectWrite else some .laneMachineMismatch
        | decision => decision

/-- The row that a put writes. -/
def rowOf (body : HubLaneWriteRequest) (existing : LaneRow) : LaneRow :=
  if body.sink then
    { parent := body.parent, sink := true, deliver := existing.deliver,
      isProtected := existing.isProtected }
  else
    { machine := body.machine, pane := body.pane, parent := body.parent,
      deliver := existing.deliver, standby := body.standby.getD existing.standby,
      isProtected := existing.isProtected }

def countMachineLanes (machine : String) : ℕ :=
  (Assoc.entries routes).countP (·.2.machine = machine)

/-- The rows that a node at its cap gives up for a new one. -/
def LaneHub.evictions (routes : List (String × LaneRow)) (lane nodeMachine : String) :
    Except LaneError (LaneLiveness × List String) :=
  let excess := countMachineLanes routes nodeMachine + 1 - h.lanesNodeRowCap
  if nodeMachine = "" ∨ (Assoc.get routes lane).isSome ∨ excess = 0 then .ok (h.laneLife, [])
  else
    let dead := h.evictableLanes routes nodeMachine
    if dead.2.length < excess then .error .laneQuotaExceeded else .ok (dead.1, dead.2.take excess)

/-- A put; `nodeMachine` is empty for the operator. -/
def LaneHub.putLane (store : LaneStore) (lane : String) (body : HubLaneWriteRequest)
    (nodeMachine : String) : Except LaneError (LaneHub × LaneStore) :=
  match if nodeMachine = "" then h.controlPlaneAuthorityDecision lane else none with
  | some err => .error err
  | none =>
    match parseForWrite store.file with
    | none => .error .lanesInvalid
    | some snapshot =>
      match if nodeMachine = "" then h.validateLaneWriteRequest lane body snapshot.routes
        else h.checkNodePut lane body nodeMachine snapshot.routes with
      | some err => .error err
      | none =>
        match h.evictions snapshot.routes lane nodeMachine with
        | .error err => .error err
        | .ok (life, evicted) =>
          let row := rowOf body ((Assoc.get snapshot.routes lane).getD {})
          let routes := Assoc.put (removeLanes snapshot.routes evicted) lane row
          match store.replace (nodeMachine = "") ⟨routes, snapshot.control⟩ with
          | .error err => .error err
          | .ok store =>
            .ok ({ h with
              laneLife := evicted.foldl LaneLiveness.forget (life.noteWrite lane h.now) }, store)

/-! ## Delete -/

/-- A field that is not empty must be what the route says now. -/
structure LaneRouteExpectation where
  machine : String := ""
  pane : String := ""
  deriving DecidableEq

def LaneHub.checkDelete (routes : List (String × LaneRow)) (lane nodeMachine : String)
    (expect : LaneRouteExpectation) : Option LaneError :=
  match Assoc.get routes lane with
  | none => some (if nodeMachine = "" then .laneNotFound else .laneMachineMismatch)
  | some row =>
    if nodeMachine ≠ "" ∧
        (row.machine ≠ nodeMachine ∨ h.laneHasForeignReference routes lane nodeMachine) then
      some .laneMachineMismatch
    else
      match if nodeMachine = "" then none else h.controlPlaneAuthorityDecision lane with
      | some err => some err
      | none =>
        if row.isProtected then some .laneProtected
        else if (expect.machine ≠ "" ∧ row.machine ≠ expect.machine) ∨
            (expect.pane ≠ "" ∧ row.pane ≠ expect.pane) then some .laneRouteChanged
        else none

def LaneHub.deleteLane (store : LaneStore) (lane nodeMachine : String)
    (expect : LaneRouteExpectation) : Except LaneError (LaneHub × LaneStore) :=
  match if nodeMachine = "" then h.controlPlaneAuthorityDecision lane else none with
  | some err => .error err
  | none =>
    match parseForWrite store.file with
    | none => .error .lanesInvalid
    | some snapshot =>
      match h.checkDelete snapshot.routes lane nodeMachine expect with
      | some err => .error err
      | none =>
        match store.replace (nodeMachine = "")
          ⟨Assoc.del snapshot.routes lane, snapshot.control⟩ with
        | .error err => .error err
        | .ok store => .ok ({ h with laneLife := h.laneLife.forget lane }, store)

/-! ## Releases -/

/-- Remove the rows that `pick` chooses. -/
def LaneHub.rewriteLanes (store : LaneStore)
    (pick : List (String × LaneRow) → LaneLiveness × List String) :
    Except LaneError (LaneHub × LaneStore) :=
  match parseForWrite store.file with
  | none => .error .lanesInvalid
  | some snapshot =>
    let picked := pick snapshot.routes
    if picked.2 = [] then .ok ({ h with laneLife := picked.1 }, store)
    else
      match store.replace false ⟨removeLanes snapshot.routes picked.2, snapshot.control⟩ with
      | .error err => .error err
      | .ok store => .ok ({ h with laneLife := picked.2.foldl LaneLiveness.forget picked.1 }, store)

namespace LaneHub

/-- The rows of a machine at a pane that was closed, but for those written since the command
began. -/
def pickPaneLanes (machine pane : String) (commandStart : ℤ) (routes : List (String × LaneRow)) :
    LaneLiveness × List String :=
  (h.laneLife, (((Assoc.entries routes).filter fun e => e.2.pane = pane &&
    !(h.laneLife.lastWrite e.1).any (commandStart < ·) &&
    h.nodeMayDropLane routes e.1 e.2 machine).map (·.1)).insertionSort (· ≤ ·))

def releasePaneLanes (store : LaneStore) (machine pane : String) (commandStart : ℤ) :
    Except LaneError (LaneHub × LaneStore) :=
  h.rewriteLanes store (h.pickPaneLanes machine pane commandStart)

structure SweepState where
  life : LaneLiveness
  seen : List LaneAbsenceKey := []
  release : List String := []

/-- One row of a sweep. -/
def sweepStep (acc : SweepState) (entry : String × LaneRow) : SweepState :=
  let lane := entry.1
  let row := entry.2
  match (if row.sink ∨ row.machine = "" then none else h.observeNodePanes row.machine) with
  | none => acc
  | some obs =>
    if row.pane = "" then acc
    else
      let gone := h.laneProvablyGone acc.life lane row obs
      if !gone.1 then { acc with life := gone.2 }
      else
        let key : LaneAbsenceKey := ⟨lane, row.machine, row.pane⟩
        let since := (Assoc.get gone.2.absent key).getD h.now
        let life := { gone.2 with absent := Assoc.put gone.2.absent key since }
        let drop := (row.pane ∈ obs.finished || h.laneReleaseGrace ≤ h.now - since) &&
          h.nodeMayDropLane routes lane row row.machine
        ⟨life, key :: acc.seen, if drop then acc.release ++ [lane] else acc.release⟩

def pickDeadLanes (routes : List (String × LaneRow)) : LaneLiveness × List String :=
  let swept := (Assoc.entries routes).foldl (h.sweepStep routes)
    { life := h.laneLife.retainWrites routes }
  ({ swept.life with absent := swept.life.absent.filter (·.1 ∈ swept.seen) },
    swept.release.insertionSort (· ≤ ·))

def releaseDeadLanes (store : LaneStore) : Except LaneError (LaneHub × LaneStore) :=
  h.rewriteLanes store h.pickDeadLanes

end LaneHub

end Panewire.Lanes
