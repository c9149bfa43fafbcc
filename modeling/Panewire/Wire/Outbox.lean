import Panewire.Hub.Event

/-!
# The node's outbox

A node scans its event files and owes each relayed event to the hub until the hub says that it is
stored. What leaves the node is the **wire form** of a scanned event, its texts normalised by the
hub's own rules; the outbox row is keyed by exactly what leaves the node.
-/

namespace Panewire.Wire

open Go Data Hub Object

/-! ## Scanned events -/

/-- An event file, as the scan read it. -/
structure HubScannedRelayEvent where
  kind : RelayKind
  jobID : String
  epoch : ℕ
  epoch_lt : epoch < 2 ^ 64 := by decide
  agentLabel : String := ""
  ownerLane : String := ""
  label : String := ""
  host : String := ""
  reportPath : String := ""
  reportLastLine : String := ""
  reason : String := ""
  question : String := ""
  pr : String := ""
  head : String := ""
  paneID : String := ""
  /-- the producer's identity: the name of a job event's file -/
  eventID : String
  text : String := ""
  cause : String := ""
  deliveryClass : String := ""
  notifyType : String := ""
  late : Bool := false
  truncated : Bool := false

def normalizeRelayEventText (value : String) : String := truncateHubRelayPayloadText value true

variable (job : HubScannedRelayEvent)

/-- The one normalised form of a scanned record. A lane event was bounded before its file was
written and is left as it is. -/
def relayEventWireForm : HubScannedRelayEvent :=
  if job.kind = .laneEvent then job
  else
    { job with
      ownerLane := normalizeRelayEventText job.ownerLane
      label := normalizeRelayEventText job.label
      host := normalizeRelayEventText job.host
      reportPath := normalizeRelayEventText job.reportPath
      reportLastLine := normalizeRelayEventText job.reportLastLine
      reason := normalizeRelayEventText job.reason
      question := normalizeRelayEventText job.question
      pr := normalizeRelayEventText job.pr
      head := normalizeRelayEventText job.head
      paneID := normalizeRelayEventText job.paneID
      eventID := normalizeRelayEventText job.eventID }

/-! ## Rows -/

structure RelayOutboxKey where
  kind : RelayKind
  jobID : String
  epoch : ℕ
  reportPath : String := ""
  reason : String := ""
  lane : String := ""
  eventID : String
  deriving DecidableEq

/-- A completion carries no reason, so its row has none either. -/
def relayEventOutboxKeyFor : RelayOutboxKey :=
  if job.kind = .laneEvent then
    { kind := job.kind, jobID := job.jobID, epoch := job.epoch, lane := job.ownerLane,
      eventID := job.eventID }
  else
    { kind := job.kind, jobID := job.jobID, epoch := job.epoch, reportPath := job.reportPath,
      reason := if job.kind = .jobCompleted then "" else job.reason, eventID := job.eventID }

/-- What identifies a row of `relay_sent`: the two partial indexes and, for rows without an event
identity, the primary key. -/
inductive RelayRowKey where
  | lane (lane eventID : String)
  | event (kind : RelayKind) (jobID eventID : String)
  | legacy (kind : RelayKind) (jobID : String) (epoch : ℕ) (reportPath reason : String)
  deriving DecidableEq

def RelayOutboxKey.row (k : RelayOutboxKey) : RelayRowKey :=
  if k.kind = .laneEvent then .lane k.lane k.eventID
  else if k.eventID ≠ "" then .event k.kind k.jobID k.eventID
  else .legacy k.kind k.jobID k.epoch k.reportPath k.reason

structure RelaySent where
  key : RelayOutboxKey
  sentAt : Option ℤ := none
  persistedAt : Option ℤ := none
  suppressedAt : Option ℤ := none
  deriving DecidableEq

/-- The table `relay_sent`. -/
abbrev RelayOutbox : Type := Data.Table fun r : RelaySent => r.key.row

/-- Exactly the row of `key` is retired. -/
def RelayOutbox.retire (t : RelayOutbox) (key : RelayOutboxKey) (at' : ℤ) : List RelaySent :=
  t.rows.map fun r => if r.key.row = key.row then { r with persistedAt := some at' } else r

/-- `relayPayloadOptionalString` -/
def putString (o : Object) (key value : String) : Object :=
  if value = "" then o else o.put key (.str value)

def stallNoticeEventIDPrefix : String := "stall:"

/-- The pane of a lane event's sender, as far as the hub may know it. -/
def laneEventSenderPane : String :=
  if job.notifyType = "idle-wake" ∨ hasPrefix job.eventID stallNoticeEventIDPrefix then ""
  else boundLaneEventPaneID job.paneID

/-- The fields of every job event. -/
def jobFields : List (String × Option Json) :=
  [("job_id", some (.str job.jobID)), ("epoch", some (.num job.epoch)),
    ("agent_label", Json.ofString job.agentLabel), ("owner_lane", Json.ofString job.ownerLane),
    ("label", Json.ofString job.label), ("host", Json.ofString job.host),
    ("report_path", Json.ofString job.reportPath),
    ("report_last_line", Json.ofString job.reportLastLine),
    ("event_id", Json.ofString job.eventID)]

/-- The payload of a job event. -/
def jobEventPayload (replay : Bool) : Object :=
  let base :=
    if job.kind = .jobCompleted then
      Object.ofOptional (jobFields job ++ [("replay", Json.ofBool replay)]) (by simp [jobFields])
    else
      Object.ofOptional (jobFields job ++ [("reason", some (.str job.reason)),
        ("question", Json.ofString job.question), ("pr", Json.ofString job.pr),
        ("head", Json.ofString job.head), ("pane_id", Json.ofString job.paneID),
        ("replay", Json.ofBool replay)]) (by simp [jobFields])
  let o := if job.late ∧ job.kind = .jobCompleted then base.put "late" (.bool true) else base
  putString (putString (putString (putString o "delivery_class" job.deliveryClass)
    "notify_type" job.notifyType) "cause" job.cause) "head" job.head

/-- The payload of a lane event; `acceptsPane` is what the hub of this connection announced. -/
def laneEventPayload (replay acceptsPane : Bool) : Object :=
  let o := Object.ofOptional
    [("owner_lane", some (.str job.ownerLane)), ("event_id", some (.str job.eventID)),
      ("text", some (.str job.text)),
      ("epoch", if job.epoch = 0 then none else some (.num job.epoch)),
      ("truncated", Json.ofBool job.truncated), ("replay", Json.ofBool replay),
      ("cause", Json.ofString job.cause), ("head", Json.ofString job.head),
      ("pr", Json.ofString job.pr)] (by simp)
  let o := putString (putString o "delivery_class" job.deliveryClass) "notify_type" job.notifyType
  if acceptsPane then putString o "pane_id" (laneEventSenderPane job) else o

/-- The wire form with the epoch of the row that still waits for this event, if there is one. -/
def sentForm (outstanding : Option { n : ℕ // n < 2 ^ 64 }) : HubScannedRelayEvent :=
  match outstanding with
  | none => relayEventWireForm job
  | some n => { relayEventWireForm job with epoch := n.val, epoch_lt := n.2 }

/-- **What leaves the node** for a scanned event: the key of its outbox row and its payload, both
from the wire form. -/
def relayEventForSend (outstanding : Option { n : ℕ // n < 2 ^ 64 }) (replay acceptsPane : Bool) :
    RelayOutboxKey × Object :=
  let sent := sentForm job outstanding
  (relayEventOutboxKeyFor sent,
    if job.kind = .laneEvent then laneEventPayload sent replay acceptsPane
    else jobEventPayload sent replay)

/-! ## Fields of a payload -/

theorem get_putString_ne {o : Object} {key value name : String} (h : name ≠ key) :
    (putString o key value).get name = o.get name := by
  unfold putString
  split
  · rfl
  · rw [get_put, if_neg h]

variable {job} {replay : Bool}

theorem jobEventPayload_reason (hkind : job.kind ≠ .jobCompleted) :
    (jobEventPayload job replay).get "reason" = some (.str job.reason) := by
  unfold jobEventPayload
  rw [get_putString_ne (by decide), get_putString_ne (by decide), get_putString_ne (by decide),
    get_putString_ne (by decide), if_neg (fun h => hkind h.2), if_neg hkind,
    get_ofOptional, List.lookup_append]
  simp [jobFields, List.lookup_cons]

theorem sentForm_kind (job : HubScannedRelayEvent) (outstanding : Option { n : ℕ // n < 2 ^ 64 }) :
    (sentForm job outstanding).kind = job.kind := by
  unfold sentForm relayEventWireForm
  split <;> split <;> rfl

end Panewire.Wire
