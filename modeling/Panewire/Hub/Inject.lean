import Panewire.Hub.InboxSummary
import Panewire.Hub.Route

/-!
# Directives the hub queues

An accepted event that is routed to a pane becomes a `relay.inject` directive for the node of that
pane. With a durable store the directive carries the row's id, the lane, the kind and the delivery
policy; without one it is the bare four-field note.

The text of a directive may be changed by the lane's inbox: a summary is appended to it, and for a
batch of held notices the batch stands in its place. The gates that only keep a directive back
(deduplication, an inbox class, a cancelled chat message) are not part of the model: whatever they
let through is one of the directives here.
-/

namespace Panewire.Hub

open Go Data String

/-- The id of a durable row, as the store returns it. -/
abbrev RowID : Type := { n : ℕ // 1 ≤ n ∧ n < 2 ^ 63 }

structure HubRelayInjectEvent where
  kind : Option RelayKind := none
  jobID : String
  pane : String
  text : String
  lane : String := ""
  /-- `0` without a durable row -/
  eventID : ℕ := 0
  deliver : String := ""
  deriving DecidableEq

/-- The JSON object of a directive: everything but the type is left out when empty. -/
def HubRelayInjectEvent.encode (d : HubRelayInjectEvent) : Object :=
  Object.ofOptional
    [("type", some (.str "relay.inject")), ("kind", d.kind.map fun k => .str k.wire),
      ("job_id", Json.ofString d.jobID), ("pane", Json.ofString d.pane),
      ("text", Json.ofString d.text), ("lane", Json.ofString d.lane),
      ("event_id", if d.eventID = 0 then none else some (.num d.eventID)),
      ("deliver", Json.ofString d.deliver)] (by simp)

/-! ## Building a directive -/

/-- Review findings, an answer or an order for a lane that reports to another. -/
def isWorkerDirective (kind : RelayKind) (event : HubJobEventPayload) (route : ReportRelayRoute) :
    Bool :=
  kind = .laneEvent && route.parent ≠ "" && !route.sink &&
    (event.notifyType = some .findings || event.notifyType = some .decision ||
      event.notifyType = some .order)

/-- The policy of a durable directive: the event's, then the route's, then by what it is. -/
def deliverPolicyFor (kind : RelayKind) (event : HubJobEventPayload) (route : ReportRelayRoute) :
    String :=
  if event.deliverPolicy ≠ "" then event.deliverPolicy
  else if route.deliver ≠ "" then route.deliver
  else if isWorkerDirective kind event route then Relay.relayDeliverDirective
  else "idle"

def relayInjectDirective (kind : RelayKind) (event : HubJobEventPayload)
    (route : ReportRelayRoute) (eventID : ℕ) : HubRelayInjectEvent :=
  if eventID = 0 then
    { kind := if kind = .laneEvent then some kind else none, jobID := event.jobID,
      pane := route.pane, text := relayTextForKind kind event }
  else
    { kind := some kind, jobID := event.jobID, pane := route.pane,
      text := relayTextForKind kind event, lane := event.ownerLane, eventID,
      deliver := deliverPolicyFor kind event route }

def inboxSummaryJoin : String := " | "

/-- The text of a batch of held notices, as `prepareHeldBatch` leaves it. -/
abbrev BatchText : Type :=
  { t : String // Clean t ∧ t ≠ "" ∧ t.utf8ByteSize ≤ relaySingleItemMax - 512 }

/-- What the inbox has for a directive: the summary of the lane, and the batch that the event's id
names. -/
structure InboxView where
  summary : Option InboxSummary := none
  batch : Option BatchText := none

namespace RelayServer

variable (sha : Sha) (h : RelayServer)

/-- A summary needs the digest store, so a hub without one has none to append. -/
def appendInboxSummary (summary : Option InboxSummary) (text : String) : String :=
  match h.handoffkeep, summary with
  | true, some s => text ++ inboxSummaryJoin ++ s.line
  | _, _ => text

variable (view : InboxView)

/-- The text of a directive after the inbox. -/
def inboxText (kind : RelayKind) (event : HubJobEventPayload) (text : String) : String :=
  match view.batch with
  | some batch =>
    if kind = .laneEvent ∧ hasPrefix event.eventID "held-" then batch.val
    else h.appendInboxSummary view.summary text
  | none => h.appendInboxSummary view.summary text

def inboxRelayDirective (kind : RelayKind) (event : HubJobEventPayload) (route : ReportRelayRoute)
    (eventID : ℕ) : HubRelayInjectEvent :=
  let d := relayInjectDirective kind event route eventID
  { d with text := h.inboxText view kind event d.text }

/-! ## Queueing -/

/-- The text of a lane event that was stored before. -/
abbrev LaneText : Type :=
  { t : String // validLaneEventText t = true ∧ t.utf8ByteSize ≤ laneEventTextLimitSink }

/-- The store's answer to a write. -/
structure StoredRow where
  id : RowID
  /-- the row stood already, for a lane event with this text -/
  existing : Option LaneText := none
  /-- the row was delivered, to this very event -/
  delivered : Bool := false

/-- The id under which an event is relayed: `0` without a store, none when the write failed. -/
def persistRelayEvent (reply : Option StoredRow) : Option (ℕ × Bool) :=
  if h.handoffkeep then reply.map fun row => (row.id.val, row.delivered) else some (0, false)

/-- The directive of a job event. -/
def relayJobEvent (reply : Option StoredRow) (kind : RelayKind) (event : HubJobEventPayload) :
    Option HubRelayInjectEvent :=
  if event.ownerLane = "" ∨ event.jobID = "" then none
  else match h.resolveRelayRoute kind event with
    | .pane route =>
      match h.persistRelayEvent reply with
      | some (id, false) => some (h.inboxRelayDirective view kind event route id)
      | _ => none
    | _ => none

/-- The first writer's text wins over a changed duplicate. -/
def laneEventFromStored (event : HubJobEventPayload) (text : LaneText) : HubJobEventPayload :=
  { jobID := laneEventTransportID sha event.ownerLane event.eventID, epoch := event.epoch,
    ownerLane := event.ownerLane, eventID := event.eventID, text := text.val }

/-- The event that is injected once its row is stored. -/
def storedLaneEvent (event : HubJobEventPayload) (row : StoredRow) : HubJobEventPayload :=
  match row.existing with
  | none => event
  | some text => laneEventFromStored sha event text

/-- The directive of a lane event; an operator's request is never injected from a row that stood
already. -/
def relayLaneEvent (reply : Option StoredRow) (ingress : Bool) (event : HubJobEventPayload) :
    Option HubRelayInjectEvent :=
  if event.ownerLane = "" ∨ event.eventID = "" ∨ event.text = "" then none
  else if laneEventTextLimitSink < event.text.utf8ByteSize then none
  else if !h.handoffkeep then none
  else match h.resolveRelayRoute .laneEvent event, reply with
    | .pane route, some row =>
      if laneEventTextLimit < event.text.utf8ByteSize ∨ (ingress ∧ row.existing.isSome) ∨
          row.delivered then none
      else some (h.inboxRelayDirective view .laneEvent (storedLaneEvent sha event row) route
        row.id)
    | _, _ => none

/-- What the durable row keeps of an event. -/
def relayEventFromRecord (kind : RelayKind) (event : HubJobEventPayload) : HubJobEventPayload :=
  { jobID := if kind = .laneEvent then laneEventTransportID sha event.ownerLane event.eventID
      else event.jobID,
    epoch := event.epoch, ownerLane := event.ownerLane, reportPath := event.reportPath,
    reportLastLine := event.reportLastLine, question := event.question, pr := event.pr,
    head := event.head, reason := event.reason, paneID := event.paneID, eventID := event.eventID,
    text := event.text }

/-- When a row was first sent, for a person to read. -/
abbrev Stamp : Type := { s : String // Clean s ∧ s.length ≤ 64 }

/-- The mark of a replay whose first delivery was not proved or was held back. -/
inductive ReplayLabel where
  | none
  | unconfirmed (firstSent : Stamp)
  | idleRedelivery (firstSent : Stamp)

def ReplayLabel.text : ReplayLabel → String
  | .none => ""
  | .unconfirmed stamp => "[replayed after hub restart - first sent " ++ stamp.val ++
      " - may be a duplicate, do not re-run] "
  | .idleRedelivery stamp => "[held while this pane was working - first sent " ++ stamp.val ++
      " - delivered now that it is idle] "

/-- The directive of a stored event that is relayed again. -/
def replayRelayEvent (label : ReplayLabel) (id : RowID) (kind : RelayKind)
    (event : HubJobEventPayload) : Option HubRelayInjectEvent :=
  let event := relayEventFromRecord sha kind event
  if event.ownerLane = "" ∨ event.jobID = "" then none
  else match h.resolveRelayRoute kind event with
    | .pane route =>
      let d := h.inboxRelayDirective view kind event route id
      some { d with text := label.text ++ d.text }
    | _ => none

/-- **A directive that the hub queues for an accepted event.** -/
inductive Queues (kind : RelayKind) (e : HubJobEventPayload) : HubRelayInjectEvent → Prop
  /-- when a node reports a job event -/
  | job {view reply d} (hkind : kind ≠ .laneEvent)
    (hd : h.relayJobEvent view reply kind e = some d) : Queues kind e d
  /-- when a node or an operator addresses a lane -/
  | lane {view reply ingress d} (hkind : kind = .laneEvent)
    (hd : h.relayLaneEvent sha view reply ingress e = some d) : Queues kind e d
  /-- when the stored event is replayed; it passed the size gate before it was stored -/
  | replay {view label id d} (hstore : h.handoffkeep = true)
    (hgate : kind = .laneEvent → e.text.utf8ByteSize ≤ laneEventTextLimitSink)
    (hd : h.replayRelayEvent sha view label id kind e = some d) : Queues kind e d

end RelayServer

/-! ## What is carried over -/

section Sound

variable {kind : RelayKind} {e : HubJobEventPayload}

theorem deliverPolicyFor_valid {route : ReportRelayRoute} (he : e.Sound kind)
    (hr : route.ToPane) : deliverPolicyFor kind e route ≠ "" ∧
      validRelayDeliver (deliverPolicyFor kind e route) = true := by
  unfold deliverPolicyFor
  split
  · next hne => exact ⟨hne, he.policy.resolve_left hne⟩
  · split
    · next hne => exact ⟨hne, hr.deliver.resolve_left hne⟩
    · split
      · exact ⟨by decide, by decide +kernel⟩
      · exact ⟨by decide, by decide +kernel⟩

theorem relayEventFromRecord_sound (sha : Sha) (he : e.Sound kind) :
    (RelayServer.relayEventFromRecord sha kind e).Sound kind := by
  obtain ⟨hl, -, -, hp, hli, hw, hque⟩ := he.parts
  refine ⟨?_, by simp [RelayServer.relayEventFromRecord, short_empty, *], he.pr, he.head, he.text,
    he.lane, .inl rfl⟩
  unfold RelayServer.relayEventFromRecord
  split
  · exact hubJobID_laneEventTransportID sha _ _
  · exact he.jobID

theorem storedLaneEvent_sound (sha : Sha) (row : RelayServer.StoredRow) (he : e.Sound .laneEvent) :
    (RelayServer.storedLaneEvent sha e row).Sound .laneEvent ∧
      (RelayServer.storedLaneEvent sha e row).ownerLane = e.ownerLane := by
  unfold RelayServer.storedLaneEvent
  split
  · exact ⟨he, rfl⟩
  · next text _ =>
    obtain ⟨hl, -⟩ := he.parts
    exact ⟨⟨hubJobID_laneEventTransportID sha _ _,
      by simp [RelayServer.laneEventFromStored, hl, short_empty], short_empty.clean,
      short_empty.clean, clean_of_laneEventText text.2.1,
      fun _ => ⟨(he.lane rfl).1, text.2.1⟩, .inl rfl⟩, rfl⟩

theorem replayLabel_bounds (l : RelayServer.ReplayLabel) :
    Clean l.text ∧ l.text.utf8ByteSize ≤ 400 := by
  have bound : ∀ (before after : String) (stamp : RelayServer.Stamp), Clean before → Clean after →
      before.utf8ByteSize + after.utf8ByteSize ≤ 144 →
      Clean (before ++ stamp.val ++ after) ∧
        (before ++ stamp.val ++ after).utf8ByteSize ≤ 400 := by
    intro before after stamp hb ha hs
    have h₁ := utf8ByteSize_le stamp.val
    refine ⟨all_append.mpr ⟨all_append.mpr ⟨hb, stamp.2.1⟩, ha⟩, ?_⟩
    rw [utf8ByteSize_append, utf8ByteSize_append]
    omega
  cases l with
  | none => exact ⟨by decide, by decide⟩
  | unconfirmed stamp | idleRedelivery stamp =>
    exact bound _ _ stamp (by decide +kernel) (by decide +kernel) (by decide +kernel)

theorem appendInboxSummary_bounds (h : RelayServer) (summary : Option InboxSummary) {text : String}
    (hc : Clean text) (hne : text ≠ "") : Clean (h.appendInboxSummary summary text) ∧
      (h.appendInboxSummary summary text).utf8ByteSize ≤ text.utf8ByteSize + 1203 ∧
      h.appendInboxSummary summary text ≠ "" := by
  unfold RelayServer.appendInboxSummary
  split
  · next s _ =>
    obtain ⟨hl, hlen⟩ := s.line_short
    have hs := utf8ByteSize_le s.line
    have hj : inboxSummaryJoin.utf8ByteSize = 3 := by decide
    refine ⟨all_append.mpr ⟨all_append.mpr ⟨hc, by decide⟩, hl⟩, ?_, by simp [hne]⟩
    rw [utf8ByteSize_append, utf8ByteSize_append, hj]
    omega
  · exact ⟨hc, by omega, hne⟩

/-- Whatever the inbox makes of a short text, a label still fits before it. -/
theorem inboxText_bounds (h : RelayServer) (view : InboxView) (kind : RelayKind)
    (e : HubJobEventPayload) {text : String} (hc : Clean text) (hne : text ≠ "")
    (hs : text.utf8ByteSize + 1203 ≤ relaySingleItemMax - 512) :
    Clean (h.inboxText view kind e text) ∧
      (h.inboxText view kind e text).utf8ByteSize ≤ relaySingleItemMax - 512 ∧
      h.inboxText view kind e text ≠ "" := by
  obtain ⟨hc, hle, hne⟩ := appendInboxSummary_bounds h view.summary hc hne
  have appended := And.intro hc (And.intro (hle.trans hs) hne)
  unfold RelayServer.inboxText
  split
  · next batch _ =>
    split
    · exact ⟨batch.2.1, batch.2.2.2, batch.2.2.1⟩
    · exact appended
  · exact appended

end Sound

end Panewire.Hub
