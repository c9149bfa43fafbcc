import Panewire.Hub.Route
import Panewire.Data.Lru

/-!
# What the hub remembers of a relay

An event on its way to a pane leaves traces in several places of the hub, all under one lock:

* the **dedupe index** holds a claim for every event that some call is handling or has handled;
* an **acknowledgement window** is open from the injection until the node answers; its key is the
  id of the durable row, or the job when there is no row;
* the **timeout index** suppresses a second notice for a window that timed out before;
* the **held projection** shows what a node holds back for a busy pane.

The rows themselves are in handoffkeep, which stores one row for each idempotency key. A window has
a timer from the time it is armed; the running timers are part of the state, so that any of them may
fire at any time.

Several fields are **history only**: no program reads them. They record which machine each event was
routed to, which arm a timer belongs to, which injections are unanswered, and what
acknowledgements did.
-/

namespace Panewire.HubRelay

open Data Hub

/-! ## Events and their keys -/

/-- An event that the hub relays; its job id went through a decoder. -/
structure Event where
  kind : RelayKind
  payload : HubJobEventPayload
  valid : hubJobIDPattern.accepts payload.jobID = true
  deriving DecidableEq

def relayDedupeKey (event : HubJobEventPayload) : String :=
  event.jobID ++ "\x00" ++ toString event.epoch ++ "\x00" ++ event.reportPath ++ "\x00" ++
    event.reason

def relayLaneEventOutboxKey (lane eventID : String) : String :=
  "lane.event\x00" ++ lane ++ "\x00" ++ eventID

def relayEventDedupeKey (kind : RelayKind) (event : HubJobEventPayload) : String :=
  if kind = .laneEvent then relayLaneEventOutboxKey event.ownerLane event.eventID
  else kind.wire ++ "\x00" ++ relayDedupeKey event ++ "\x00" ++ event.eventID

/-- The key of an event in the dedupe index. -/
def Event.key (e : Event) : String := relayEventDedupeKey e.kind e.payload

/-- The key of an acknowledgement window. -/
structure PendingKey where
  text : String
  colon : ':' ∈ text.toList
  deriving DecidableEq

def relayPendingKey (eventID : ℕ) (jobID : String) : PendingKey :=
  if 0 < eventID then ⟨"id:" ++ toString eventID, by simp⟩ else ⟨"job:" ++ jobID, by simp⟩

/-! ## Durable rows -/

/-- A row of handoffkeep; `payload` are the columns that the request filled in. -/
structure Row where
  id : ℕ
  kind : RelayKind
  payload : HubJobEventPayload
  machine : String
  paneID : String
  attempts : ℕ := 1
  deliveredAt : Bool := false
  deliveredTo : String := ""
  valid : hubJobIDPattern.accepts payload.jobID = true
  deriving DecidableEq

/-- handoffkeep's idempotency key: five fields of a job event, lane and event id of a lane event. -/
def idempotencyKey (kind : RelayKind) (event : HubJobEventPayload) : String :=
  if kind = .laneEvent then relayLaneEventOutboxKey event.ownerLane event.eventID
  else kind.wire ++ "\x00" ++ relayDedupeKey event

/-- The row is what a write of this event collides with. -/
def Row.collides (row : Row) (e : Event) : Bool :=
  row.kind = e.kind && idempotencyKey row.kind row.payload = idempotencyKey e.kind e.payload

/-- A write to handoffkeep: a colliding row only counts one more attempt, and its first route stays.
The result is the row, and whether it existed. -/
def appendEvent (rows : List Row) (e : Event) (machine pane : String) :
    List Row × Row × Bool :=
  match rows.find? (·.collides e) with
  | some row =>
    let bumped := { row with attempts := row.attempts + 1 }
    (rows.map fun r => if r.id = row.id then bumped else r, bumped, true)
  | none =>
    let row : Row := { id := rows.length + 1, kind := e.kind, payload := e.payload,
                       machine := machine, paneID := pane, valid := e.valid }
    (rows ++ [row], row, false)

/-- The delivery mark; the first one stays. -/
def markDelivered (rows : List Row) (id : ℕ) (machine pane : String) : List Row :=
  rows.map fun r =>
    if r.id = id && !r.deliveredAt then
      { r with deliveredAt := true, deliveredTo := machine ++ "/" ++ pane }
    else r

section Records

variable (sha : Sha)

/-- `relayEventFromRecord`: the event that a row stands for. -/
def relayEventFromRecord (record : Row) : Event where
  kind := record.kind
  payload :=
    { jobID :=
        if record.kind = .laneEvent then
          laneEventTransportID sha record.payload.ownerLane record.payload.eventID
        else record.payload.jobID
      epoch := record.payload.epoch
      ownerLane := record.payload.ownerLane
      reportPath := record.payload.reportPath
      reportLastLine := record.payload.reportLastLine
      question := record.payload.question
      pr := record.payload.pr
      head := record.payload.head
      reason := record.payload.reason
      paneID := record.paneID
      eventID := record.payload.eventID
      text := record.payload.text }
  valid := by
    dsimp only
    split
    · exact hubJobID_laneEventTransportID sha _ _
    · exact record.valid

/-- `laneEventFromStored` -/
def laneEventFromStored (record : Row) : Event where
  kind := .laneEvent
  payload :=
    { jobID := laneEventTransportID sha record.payload.ownerLane record.payload.eventID
      epoch := record.payload.epoch
      ownerLane := record.payload.ownerLane
      eventID := record.payload.eventID
      text := record.payload.text }
  valid := hubJobID_laneEventTransportID sha _ _

end Records

/-! ## Windows -/

/-- `relayPending`: an open acknowledgement window. -/
structure Pending where
  machine : String
  pane : String
  eventID : ℕ
  event : Event
  armed : Bool := false
  held : Bool := false
  /-- history only: the number of its last arm, 0 before the first -/
  timer : ℕ := 0
  deriving DecidableEq

/-- `relayAckPayload`; an `originalEventID` of 0 is none. -/
structure Ack where
  jobID : String
  pane : String
  reason : String := ""
  originalEventID : ℕ := 0
  deriving DecidableEq

/-- `hubRelayHeldProjection` -/
structure Held where
  machine : String
  pane : String
  jobID : String
  deriving DecidableEq

/-- What happened to the windows of a key. -/
inductive Ev where
  /-- a window timed out; `notice` when this was broadcast -/
  | timedOut (key : PendingKey) (notice : Bool)
  /-- a delivery was acknowledged -/
  | delivered (key : PendingKey)
  deriving DecidableEq

/-- The timer that expired a window, and the last arm of that window. -/
structure Expiry where
  key : PendingKey
  timer : ℕ
  latest : ℕ
  deriving DecidableEq

/-- What an acknowledgement from a machine did: to which event's window or row. -/
structure Effect where
  machine : String
  event : String
  deriving DecidableEq

structure HubState where
  relayDedupe : List (String × ℕ) := []
  lanePersisted : List (String × ℕ) := []
  lanePersistedOrder : List String := []
  relayPending : List (PendingKey × Pending) := []
  relayTimeouts : List String := []
  relayTimeoutOrder : List String := []
  relayHeld : List (ℕ × Held) := []
  /-- the timers that run -/
  timers : List (PendingKey × ℕ) := []
  /-- the rows in handoffkeep -/
  rows : List Row := []
  /-- history only: how many timers were started -/
  arms : ℕ := 0
  /-- history only -/
  expiries : List Expiry := []
  /-- history only: the claims that their calls have neither used for an injection nor given back -/
  owned : List String := []
  /-- history only: the events of the injections that were neither answered nor timed out -/
  live : List String := []
  /-- history only: the latest entry first -/
  log : List Ev := []
  /-- history only: an event, and the machine that a send or a replay of it was routed to -/
  routed : List (String × String) := []
  /-- history only -/
  effects : List Effect := []

def relayTimeoutsMaxEntries : ℕ := 4096
def lanePersistedMaxEntries : ℕ := 4096
def relayReplayMaxAttempts : ℕ := 3

namespace HubState

variable (h : HubState)

/-! ## The dedupe index -/

def forgetRelayEvent (key : String) : HubState :=
  { h with relayDedupe := Assoc.del h.relayDedupe key }

def rememberRelayEvent (key : String) (eventID : ℕ) : HubState :=
  if eventID = 0 then h else { h with relayDedupe := Assoc.put h.relayDedupe key eventID }

def rememberLanePersisted (key : String) (eventID : ℕ) : HubState :=
  if eventID = 0 then h
  else
    let touched := Lru.touch h.lanePersistedOrder key lanePersistedMaxEntries
    let kept := (touched.evicted.map (Assoc.del h.lanePersisted)).getD h.lanePersisted
    { h with
      lanePersisted := Assoc.put kept key eventID
      lanePersistedOrder := touched.order }

/-- `lanePersistedIDLocked`: 0 when the row is not known; looking it up counts as use. -/
def lanePersistedID (key : String) : HubState × ℕ :=
  match Assoc.get h.lanePersisted key with
  | some id =>
    ({ h with
        lanePersistedOrder :=
          (Lru.touch h.lanePersistedOrder key lanePersistedMaxEntries).order }, id)
  | none => (h, 0)

def forgetLanePersisted (key : String) : HubState :=
  { h with
    lanePersisted := Assoc.del h.lanePersisted key
    lanePersistedOrder := Lru.forget h.lanePersistedOrder key }

/-! ## Timeouts -/

/-- `rememberRelayTimeout`: whether to broadcast. -/
def rememberRelayTimeout (key : String) : HubState × Bool :=
  let touched := Lru.touch h.relayTimeoutOrder key relayTimeoutsMaxEntries
  if key ∈ h.relayTimeouts then ({ h with relayTimeoutOrder := touched.order }, false)
  else
    let kept := (touched.evicted.map h.relayTimeouts.erase).getD h.relayTimeouts
    ({ h with relayTimeouts := key :: kept, relayTimeoutOrder := touched.order }, true)

def forgetRelayTimeout (key : String) : HubState :=
  { h with
    relayTimeouts := h.relayTimeouts.erase key
    relayTimeoutOrder := Lru.forget h.relayTimeoutOrder key }

/-! ## Opening, arming and expiring a window -/

/-- The window under a key. -/
def window (key : PendingKey) : Option Pending := Assoc.get h.relayPending key

def setWindow (key : PendingKey) (pending : Pending) : HubState :=
  { h with relayPending := Assoc.put h.relayPending key pending }

def dropWindow (key : PendingKey) : HubState :=
  { h with relayPending := Assoc.del h.relayPending key }

/-- The window is gone because its injection was answered or timed out. -/
def retire (key : PendingKey) (pending : Pending) : HubState :=
  { h.dropWindow key with live := h.live.erase pending.event.key }

variable (machine : String)

/-- History only: what an acknowledgement from `machine` did to a window or a row of `event`. -/
def affect (event : String) : HubState :=
  { h with effects := ⟨machine, event⟩ :: h.effects }

/-- `registerRelayAckEvent`: an open window stays as it is. -/
def registerRelayAckEvent (e : Event) (machine pane : String) (eventID : ℕ) : HubState :=
  let key := relayPendingKey eventID e.payload.jobID
  match h.window key with
  | some _ => h
  | none => h.setWindow key { machine := machine, pane := pane, eventID := eventID, event := e }

/-- `armRelayAckEvent`: start the timer of a window that is neither armed nor held. -/
def armRelayAckEvent (key : PendingKey) : HubState :=
  match h.window key with
  | none => h
  | some pending =>
    if pending.armed || pending.held then h
    else
      let n := h.arms + 1
      { h.setWindow key { pending with armed := true, timer := n } with
        timers := (key, n) :: h.timers
        arms := n }

/-- One of several entries of a map, in the order that the runtime happens to visit them. -/
def choose {α : Type} (entries : List α) (pick : ℕ) : Option α := entries[pick % entries.length]?

/-- The window that a timer is for: the one under its key, or else one whose job is the key. -/
def expiring (key : PendingKey) (pick : ℕ) : Option (PendingKey × Pending) :=
  match h.window key with
  | some pending => some (key, pending)
  | none =>
    choose ((Assoc.entries h.relayPending).filter fun w => w.2.event.payload.jobID = key.text) pick

/-- `expireRelayAck`, under the lock: timer `n` of a key fires. -/
def expireRelayAck (key : PendingKey) (n pick : ℕ) : HubState × Option (PendingKey × Pending) :=
  let fired := { h with timers := h.timers.erase (key, n) }
  match h.expiring key pick with
  | none => (fired, none)
  | some (key, pending) =>
    if pending.held then (fired, none)
    else
      ({ fired.retire key pending with
          expiries := ⟨key, n, pending.timer⟩ :: h.expiries }, some (key, pending))

/-! ## Acknowledgements -/

/-- The window that an acknowledgement names, whoever sent it. -/
def named (ack : Ack) (pick : ℕ) : Option (PendingKey × Pending) :=
  let key := relayPendingKey ack.originalEventID ack.jobID
  match h.window key with
  | some pending => some (key, pending)
  | none =>
    if ack.originalEventID ≠ 0 then none
    else
      let ofJob := (Assoc.entries h.relayPending).filter fun w =>
        w.2.event.payload.jobID = ack.jobID && w.2.machine = machine
      match choose (ofJob.filter fun w => w.2.pane = ack.pane) pick with
      | some w => some w
      | none => choose ofJob pick

/-- `findRelayPendingLocked`: the window that an acknowledgement binds to. -/
def findRelayPending (ack : Ack) (pick : ℕ) : Option (PendingKey × Pending) :=
  match h.named machine ack pick with
  | none => none
  | some (key, pending) =>
    if pending.machine ≠ machine || (ack.jobID ≠ "" && pending.event.payload.jobID ≠ ack.jobID) then
      none
    else some (key, { pending with pane := ack.pane })

/-- `acknowledgeRelayPending`: retire the window. -/
def acknowledgeRelayPending (ack : Ack) (pick : ℕ) : HubState × Option (PendingKey × Pending) :=
  match h.findRelayPending machine ack pick with
  | none => (h, none)
  | some (key, pending) =>
    ((h.retire key pending).affect machine pending.event.key, some (key, pending))

/-- `consumeRelayPending`: retire whatever window is under the key. -/
def consumeRelayPending (key : PendingKey) : HubState :=
  match h.window key with
  | none => h
  | some pending => (h.retire key pending).affect machine pending.event.key

/-- `rememberRelayHeld`, for a connected node. -/
def rememberRelayHeld (id : ℕ) (jobID pane : String) : HubState :=
  let shown := { h with relayHeld := Assoc.put h.relayHeld id ⟨machine, pane, jobID⟩ }
  let key := relayPendingKey id jobID
  match h.window key with
  | none => shown
  | some pending =>
    if pending.machine ≠ machine then shown
    else
      (shown.setWindow key { pending with held := true, pane := pane }).affect machine
        pending.event.key

/-- `releaseRelayHeld`: whether the release was accepted; then the window is to be armed again. -/
def releaseRelayHeld (id : ℕ) (jobID : String) : HubState × Bool :=
  let key := relayPendingKey id jobID
  match Assoc.get h.relayHeld id, h.window key with
  | none, none => (h, false)
  | held, pending =>
    if held.any (·.machine ≠ machine) || pending.any (·.machine ≠ machine) then (h, false)
    else
      let released := { h with relayHeld := Assoc.del h.relayHeld id }
      match pending with
      | none => (released, true)
      | some pending =>
        ((released.setWindow key { pending with held := false, armed := false }).affect machine
          pending.event.key, true)

/-- `consumeRelayDropped` -/
def consumeRelayDropped (id : ℕ) (jobID pane : String) : HubState :=
  let key := relayPendingKey id jobID
  if (Assoc.get h.relayHeld id).any fun held => held.machine ≠ machine || held.pane ≠ pane then h
  else if (h.window key).any fun p => p.machine ≠ machine || p.pane ≠ pane then h
  else
    let dropped := { h with relayHeld := Assoc.del h.relayHeld id }
    match h.window key with
    | none => dropped
    | some pending => (dropped.retire key pending).affect machine pending.event.key

/-- The locked part of an operator's `handleRelayHeldDelete`. -/
def deleteRelayHeld (id : ℕ) (held : Held) : HubState :=
  { h.dropWindow (relayPendingKey id held.jobID) with relayHeld := Assoc.del h.relayHeld id }

end HubState

end Panewire.HubRelay
