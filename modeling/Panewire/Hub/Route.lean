import Panewire.HubJobs.State

/-!
# Routes

The operator's lanes file says which pane of which machine a lane is, whom it reports to and how it
wants to be disturbed. The hub reads it again for every event and keeps only the entries it can use.
A lane event whose lane has no usable route goes to the pane of the one active job with that label.

* `parseRoute_sound` — an entry that was kept either is a sink or names a pane within the bounds of
  the wire.
* `resolveRelayRoute_sound` — so does the route of every event that is routed to a node.
-/

namespace Panewire.Hub

open Go Data HubJobs

variable {e : HubJobEventPayload}

/-! ## The lanes file -/

structure ReportRelayStandby where
  machine : String
  pane : String
  deriving DecidableEq

structure ReportRelayRoute where
  machine : String := ""
  pane : String := ""
  /-- the lane this one reports to -/
  parent : String := ""
  /-- an operator-only durable destination, never a pane -/
  sink : Bool := false
  deliver : String := ""
  standby : Option ReportRelayStandby := none
  /-- made from a job record -/
  jobRecord : Bool := false
  deriving DecidableEq

def validReportRelayStandby (s : ReportRelayStandby) : Bool :=
  machineIDPattern.accepts s.machine && trimSpace s.pane ≠ "" &&
    s.pane.utf8ByteSize ≤ hubPaneIDLimit

/-- One entry of the lanes file, as the hub uses it. -/
def parseRoute (lane : String) (route : ReportRelayRoute) : Option ReportRelayRoute :=
  if !validReportRelayLaneName lane then none
  else if route.parent ≠ "" ∧ !validReportRelayLaneName route.parent then none
  else if route.sink ∨ trimSpace route.pane = "" then
    some { route with sink := true, machine := "", pane := "", standby := none }
  else if !machineIDPattern.accepts route.machine ∨ hubPaneIDLimit < route.pane.utf8ByteSize ∨
      (route.standby.map validReportRelayStandby = some false) ∨
      (route.deliver ≠ "" ∧ !validRelayDeliver route.deliver) then none
  else some route

def parseReportRelayRoutes (file : List (String × ReportRelayRoute)) :
    List (String × ReportRelayRoute) :=
  file.filterMap fun entry => (parseRoute entry.1 entry.2).map (entry.1, ·)

/-- A route to a pane: the pane and the policy fit the wire. -/
structure ReportRelayRoute.ToPane (r : ReportRelayRoute) : Prop where
  pane_ne : r.pane ≠ ""
  pane_le : r.pane.utf8ByteSize ≤ hubPaneIDLimit
  deliver : r.deliver = "" ∨ validRelayDeliver r.deliver = true

/-- **An entry that is kept** has a valid lane name, and is a sink without a machine or a route to
a pane. -/
theorem parseRoute_sound {lane : String} {raw r : ReportRelayRoute}
    (h : parseRoute lane raw = some r) : validReportRelayLaneName lane = true ∧
      (r.sink = true ∧ r.machine = "" ∨ r.sink = false ∧ r.ToPane) := by
  unfold parseRoute at h
  split at h
  · cases h
  next hl =>
  refine ⟨by simpa using hl, ?_⟩
  split at h
  · cases h
  split at h
  · cases h; exact .inl ⟨rfl, rfl⟩
  next hp =>
  split at h
  · cases h
  next hok =>
  cases h
  rw [not_or] at hp
  simp only [not_or, not_and, Bool.not_eq_true, Bool.not_eq_false', not_lt] at hok
  refine .inr ⟨by simpa using hp.1, fun hn => ?_, hok.2.1, ?_⟩
  · exact hp.2 (by rw [hn]; rfl)
  · by_cases hd : raw.deliver = ""
    · exact .inl hd
    · exact .inr (hok.2.2.2 hd)

/-! ## The hub's view of the fleet -/

/-- Upward reports reach the owner lane's parent. -/
def RelayKind.upward : RelayKind → Bool
  | .jobEscalate | .jobJoined | .jobRevoked => true
  | _ => false

/-- The hub as it routes an event: its table of nodes and jobs, with the lanes file. -/
structure RelayServer extends HubServer where
  /-- the lanes file as the operator wrote it -/
  lanes : List (String × ReportRelayRoute) := []
  /-- a node connects under a machine id -/
  nodes_valid : ∀ node ∈ nodes, machineIDPattern.accepts node.1 = true := by decide
  /-- the pane of a job went through `normalizeHubActiveJobMetadata` -/
  pane_le : ∀ job ∈ jobs, job.2.active.pane.utf8ByteSize ≤ hubPaneIDLimit := by decide
  /-- a durable store is configured -/
  handoffkeep : Bool := false
  now : ℤ := 0
  /-- `hubJobStaleAge` -/
  staleAge : ℤ := 0

namespace RelayServer

variable (h : RelayServer)

/-- The node has an agent. -/
def connected (machine : String) : Bool := ((h.node machine).bind (·.agent)).isSome

def jobRecordStale (job : HubJobRecord) : Bool :=
  !job.completed && !job.orphaned && job.lastSeen ≠ 0 && h.staleAge ≤ h.now - job.lastSeen

def routes : List (String × ReportRelayRoute) := parseReportRelayRoutes h.lanes

/-- The entry of the lanes file that an event is for. -/
def routeEntry (kind : RelayKind) (event : HubJobEventPayload) : Option ReportRelayRoute :=
  match Assoc.get h.routes event.ownerLane with
  | none => none
  | some route =>
    if kind.upward then
      if route.parent = "" then none else Assoc.get h.routes route.parent
    else some route

/-- The pane of the one active job whose label is the lane. -/
def jobRoute (event : HubJobEventPayload) : Option ReportRelayRoute :=
  match h.jobs.filter fun (_, job) => !job.completed && !job.orphaned &&
      !h.jobRecordStale job && job.active.agentLabel == event.ownerLane with
  | [(_, job)] =>
    if job.active.pane ≠ "" ∧ h.connected job.node then
      some { machine := job.node, pane := job.active.pane, jobRecord := true }
    else none
  | _ => none

/-- Where an event goes. -/
inductive Resolved where
  | unrouted
  /-- a durable destination, nothing to inject -/
  | sink (route : ReportRelayRoute)
  /-- the agent of `route.machine` -/
  | pane (route : ReportRelayRoute)
  deriving DecidableEq

def resolveRelayRoute (kind : RelayKind) (event : HubJobEventPayload) : Resolved :=
  let entry := h.routeEntry kind event
  match kind, entry with
  | .laneEvent, some route =>
    if route.sink then .sink route
    else if h.connected route.machine ∧ route.pane ≠ "" then .pane route
    else match h.jobRoute event with
      | some route => .pane route
      | none => .unrouted
  | .laneEvent, none =>
    match h.jobRoute event with
    | some route => .pane route
    | none => .unrouted
  | _, some route => if h.connected route.machine then .pane route else .unrouted
  | _, none => .unrouted

theorem routes_sound {lane : String} {r : ReportRelayRoute}
    (hr : Assoc.get h.routes lane = some r) : validReportRelayLaneName lane = true ∧
      (r.sink = true ∧ r.machine = "" ∨ r.sink = false ∧ r.ToPane) := by
  obtain ⟨entry, hfi, rfl⟩ := Option.map_eq_some_iff.mp hr
  have hn : entry.1 = lane := by simpa using List.find?_some hfi
  obtain ⟨raw, -, hraw⟩ := List.mem_filterMap.mp (List.mem_of_find?_eq_some hfi)
  obtain ⟨r', hr', rfl⟩ := Option.map_eq_some_iff.mp hraw
  subst hn
  exact parseRoute_sound hr'

theorem jobRoute_sound {r : ReportRelayRoute} (hr : h.jobRoute e = some r) : r.ToPane := by
  unfold jobRoute at hr
  split at hr
  · next id job heq =>
    have hjob : (id, job) ∈ h.jobs :=
      List.mem_of_mem_filter (heq ▸ List.mem_singleton.mpr rfl)
    split at hr
    · next hp =>
      cases hr
      exact ⟨hp.1, h.pane_le _ hjob, .inl rfl⟩
    · cases hr
  · cases hr

/-- A machine without a name is never connected. -/
theorem not_connected_empty : ¬ h.connected "" = true := by
  intro hc
  obtain ⟨agent, ha⟩ := Option.isSome_iff_exists.mp hc
  obtain ⟨record, hr, -⟩ := Option.bind_eq_some_iff.mp ha
  exact Pattern.ne_empty_of_accepts (h.nodes_valid _ (Assoc.mem_of_get hr)) rfl

/-- The entry of an event is a sink, or a route to a pane; its owner lane has a valid name. -/
theorem routeEntry_sound {kind : RelayKind} {r : ReportRelayRoute}
    (hr : h.routeEntry kind e = some r) : validReportRelayLaneName e.ownerLane = true ∧
      (r.sink = true ∧ r.machine = "" ∨ r.sink = false ∧ r.ToPane) := by
  unfold routeEntry at hr
  split at hr
  · cases hr
  next route hrt =>
  obtain ⟨hn, hs⟩ := h.routes_sound hrt
  refine ⟨hn, ?_⟩
  split at hr
  · split at hr
    · cases hr
    · exact (h.routes_sound hr).2
  · cases hr; exact hs

/-- **A routed event has a pane**: within the bounds of the wire, with a policy the node knows; and
a job event has a lane name from the lanes file. -/
theorem resolveRelayRoute_sound {kind : RelayKind}
    {r : ReportRelayRoute} (hr : h.resolveRelayRoute kind e = .pane r) :
    r.ToPane ∧ (kind ≠ .laneEvent → validReportRelayLaneName e.ownerLane = true) := by
  have job : ∀ r, (match h.jobRoute e with
      | some route => Resolved.pane route
      | none => Resolved.unrouted) = Resolved.pane r → r.ToPane := by
    intro r hr
    split at hr
    · next hjob => cases hr; exact h.jobRoute_sound hjob
    · cases hr
  unfold resolveRelayRoute at hr
  dsimp only at hr
  split at hr
  · next route he =>
    refine ⟨?_, fun hne => absurd rfl hne⟩
    split at hr
    · cases hr
    · next hsi =>
      split at hr
      · cases hr
        rcases (h.routeEntry_sound he).2 with ⟨hs, -⟩ | ⟨-, hp⟩
        · exact absurd hs hsi
        · exact hp
      · exact job r hr
  · exact ⟨job r hr, fun hne => absurd rfl hne⟩
  · next route he =>
    split at hr
    · next hc =>
      cases hr
      obtain ⟨hn, hsou⟩ := h.routeEntry_sound he
      refine ⟨?_, fun _ => hn⟩
      rcases hsou with ⟨-, hm⟩ | ⟨-, hp⟩
      · exact absurd (hm ▸ hc) h.not_connected_empty
      · exact hp
    · cases hr
  · cases hr

end RelayServer

end Panewire.Hub
