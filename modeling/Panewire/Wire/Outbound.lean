import Panewire.Hub.Event

/-!
# What a node accepts from the hub

The cases of the node's parser that belong to the relay: a directive to type a text, its edit and
its cancellation, and the acknowledgement of a stored event. The parser counts the fields of the
object and so tells the generations of one message apart.
-/

namespace Panewire.Wire

open Go Data Hub

/-- `hubOutboundMessage`, the fields that a relay message fills. -/
structure HubOutboundMessage where
  type : String
  jobID : String := ""
  epoch : ℕ := 0
  pane : String := ""
  text : String := ""
  deliverPolicy : String := ""
  kind : Option RelayKind := none
  reportPath : String := ""
  reason : String := ""
  /-- the hub's durable row -/
  eventID : ℤ := 0
  lane : String := ""
  producerEventID : String := ""
  deriving DecidableEq

/-- The kinds a directive with a durable row may have. -/
def relayInjectKinds : List RelayKind := [.laneEvent, .jobCompleted, .jobEscalate, .jobJoined]

variable (o : Object)

/-- A kind field that has to be one of `kinds`. -/
def requireKind (kinds : List RelayKind) : Option RelayKind :=
  o.require "kind" fun v => v.string.bind fun s =>
    (RelayKind.parse s).filter (· ∈ kinds)

/-- The eight fields of a directive with a durable row. -/
def parseDurableInject (m : HubOutboundMessage) : Option HubOutboundMessage := do
  let kind ← requireKind o relayInjectKinds
  let lane ← o.require "lane" Json.string
  let eventID ← o.require "event_id" Json.int64
  let deliverPolicy ← o.require "deliver" Json.string
  guard (hubAgentLabelPattern.accepts lane ∧ 1 ≤ eventID)
  guard (validRelayDeliver deliverPolicy ∧ validRelayFinalText m.text)
  return { m with kind := some kind, lane, eventID, deliverPolicy }

def parseRelayInject : Option HubOutboundMessage := do
  let jobID ← o.require "job_id" Json.string
  let pane ← o.require "pane" Json.string
  let text ← o.require "text" Json.string
  guard (hubJobIDPattern.accepts jobID ∧ pane ≠ "" ∧ pane.utf8ByteSize ≤ hubPaneIDLimit)
  let m : HubOutboundMessage := { type := "relay.inject", jobID, pane, text }
  if o.size = 4 then
    if validHubNoteText text then some m else none
  else if o.size = 5 then
    -- the kind is checked and not kept
    (requireKind o [.laneEvent]).bind fun _ => if validLaneRelayText text then some m else none
  else if o.size = 8 then parseDurableInject o m
  else none

def parseRelayEdit : Option HubOutboundMessage := do
  guard (o.size = 3)
  let eventID ← o.require "event_id" Json.int64
  let text ← o.require "text" Json.string
  guard (1 ≤ eventID ∧ validRelayFinalText text)
  return { type := "relay.edit", eventID, text }

def parseRelayCancel : Option HubOutboundMessage := do
  guard (o.size = 2)
  let eventID ← o.require "event_id" Json.int64
  guard (1 ≤ eventID)
  return { type := "relay.cancel", eventID }

/-- The relay record kinds that are acknowledged: a closed set, not a passthrough. -/
def relayPersistedKinds : List RelayKind :=
  [.jobCompleted, .jobEscalate, .jobJoined, .jobLost, .laneEvent]

/-- How an acknowledgement names the producer's event. -/
def parseProducer (m : HubOutboundMessage) : Option HubOutboundMessage :=
  if m.kind = some .laneEvent then do
    guard (o.size = 9)
    let lane ← o.require "lane" Json.string
    let producerEventID ← o.require "producer_event_id" Json.string
    guard (hubAgentLabelPattern.accepts lane ∧ validLaneEventID producerEventID)
    return { m with lane, producerEventID }
  else if o.size = 8 then do
    let producerEventID ← o.require "producer_event_id" Json.string
    guard (producerEventID.utf8ByteSize ≤ 240)
    return { m with producerEventID }
  else if o.size = 7 then some m
  else none

/-- `relay.persisted` and `pool.cooling.ack`, which allows nothing more. -/
def parseRelayPersisted (type : String) (o : Object) : Option HubOutboundMessage := do
  let jobID ← o.require "job_id" Json.string
  let kind ← requireKind o relayPersistedKinds
  let epoch ← o.require "epoch" Json.uint64
  let reportPath ← o.require "report_path" Json.string
  let reason ← o.require "reason" Json.string
  let eventID ← o.require "event_id" Json.int64
  guard (hubJobIDPattern.accepts jobID ∧ 1 ≤ eventID)
  parseProducer o { type, jobID, kind := some kind, epoch, reportPath, reason, eventID }

/-- `parseHubOutbound`, the cases of the relay. -/
def parseHubOutbound : Option HubOutboundMessage :=
  (o.require "type" Json.string).bind fun type =>
    if type = "relay.inject" then parseRelayInject o
    else if type = "relay.edit" then parseRelayEdit o
    else if type = "relay.cancel" then parseRelayCancel o
    else if type = "relay.persisted" ∨ type = "pool.cooling.ack" then parseRelayPersisted type o
    else none

/-! ## Fields of an encoded message -/

theorem requireKind_eq {o : Object} {kinds : List RelayKind} {k : RelayKind}
    (h : o.get "kind" = some (.str k.wire)) :
    requireKind o kinds = if k ∈ kinds then some k else none := by
  rw [requireKind, Object.require, h]
  simp only [Option.bind_some, Json.string_str, RelayKind.parse_wire, Option.filter_some,
    decide_eq_true_eq]

theorem guard_bind {α : Type} {p : Prop} [Decidable p] {f : Option α} :
    ((guard p : Option Unit).bind fun _ => f) = if p then f else none := by
  by_cases h : p <;> simp [guard, h]

end Panewire.Wire
