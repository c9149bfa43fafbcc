import Panewire.HubRelay.State
import Panewire.Spawn.Coordinator

/-!
# The relay of the hub, as programs

Every message from a node, every HTTP request, every replayed row and every timer that fires is a
goroutine. What it does under the hub's lock is one atomic step; so is a call to handoffkeep, with
its own fault. Routes, the inbox, the chat store and the channel to a node are answered by the
environment, differently each time if it likes.

Left out are messages that only report (acknowledgements to the producer's node, notices on the
operator feed other than the one for a timeout) and the inbox stages.
-/

namespace Panewire.HubRelay

open Conc Data Hub
open Spawn (Fault)

/-- What the gates before a replay decide: the inbox, the chat store and the age of the row. -/
inductive Gate where
  | inject
  | retire
  | defer
  deriving DecidableEq

/-- What the environment answers to a step. -/
structure Answer where
  /-- what becomes of a call to handoffkeep or to the inbox store -/
  fault : Fault := .none
  /-- the route that the lanes file and the jobs give for an event -/
  route : ReportRelayRoute := {}
  /-- its node is connected -/
  routed : Bool := false
  /-- the channel to the node has room -/
  queued : Bool := true
  /-- the inbox takes the event, the lane is a sink, or the row is a digest batch -/
  yes : Bool := false
  gate : Gate := .inject
  /-- which entry of a map comes first -/
  pick : ℕ := 0

/-- Steps that are told apart. -/
inductive Label where
  /-- a duplicate looks for the route of its event -/
  | reackRoute (event : String)
  /-- a late acknowledgement of a machine looks for the route of the event that it names -/
  | lateRoute (machine event : String)
  /-- a duplicate writes its event again; `knownID` is the row that the claim names, or 0 -/
  | reackPersist (knownID : ℕ)
  | register (key : PendingKey)
  | release (key : PendingKey)
  /-- an unconfirmed report of a machine retires the window under a key -/
  | consume (machine : String) (key : PendingKey)
  /-- a release by a machine arms the window under a key -/
  | armReleased (machine : String) (key : PendingKey)
  | other
  deriving DecidableEq

/-- What can be started. -/
inductive Proc where
  | jobEvent (e : Event)
  /-- `ingress` without a producer node; `sinkOnly` for a digest that must not reach a pane -/
  | laneEvent (e : Event) (ingress sinkOnly : Bool)
  | replay (id : ℕ)
  | replayMarked (id : ℕ)
  | redeliver (id : ℕ)
  | delivered (machine : String) (ack : Ack)
  | unconfirmed (machine : String) (ack : Ack)
  | held (machine : String) (id : ℕ) (jobID pane : String)
  | released (machine : String) (id : ℕ) (jobID : String)
  | dropped (machine : String) (id : ℕ) (jobID pane : String)
  | cancelled (id : ℕ)
  | heldDelete (id : ℕ)
  | expire (key : PendingKey) (n : ℕ)
  | armReleased (machine : String) (key : PendingKey)

/-- A program of the hub. -/
abbrev HubState.Cmd (α : Type) := Conc.Cmd HubState Answer Label Proc α

/-- The hash of lane event ids, and whether the hub has a handoffkeep. -/
structure Config where
  sha : Sha
  handoffkeep : Bool := true

/-! ## Steps -/

def ask : HubState.Cmd Bool := .act .other fun h a => (h, a.yes)

def askGate : HubState.Cmd Gate := .act .other fun h a => (h, a.gate)

/-- A step on the state alone. -/
def change (f : HubState → HubState) : HubState.Cmd Unit := .act .other fun h _ => (f h, ())

/-- A call takes a free key. -/
def HubState.claim (h : HubState) (key : String) (id : ℕ) : HubState :=
  { h with relayDedupe := Assoc.put h.relayDedupe key id, owned := key :: h.owned }

/-- Claim an event: the row that an earlier claim names, or nothing if this is the first. -/
def claimRelayEvent (key : String) : HubState.Cmd (Option ℕ) :=
  .act .other fun h _ =>
    match Assoc.get h.relayDedupe key with
    | some id => (h, some id)
    | none => (h.claim key 0, none)

/-- Claim a lane event, unless its row or an earlier claim is known. -/
def claimLaneEvent (key : String) : HubState.Cmd Bool :=
  .act .other fun h _ =>
    let (h, persistedID) := h.lanePersistedID key
    if persistedID ≠ 0 then (h, false)
    else
      match Assoc.get h.relayDedupe key with
      | some _ => (h, false)
      | none => (h.claim key 0, true)

/-- Claim a row for its replay. -/
def claimReplay (key : String) (id : ℕ) : HubState.Cmd Bool :=
  .act .other fun h _ =>
    match Assoc.get h.relayDedupe key with
    | some _ => (h, false)
    | none => (h.claim key id, true)

def forgetRelayEvent (key : String) : HubState.Cmd Unit := change (·.forgetRelayEvent key)

/-- `forgetRelayEvent`, by the call that claimed the key. -/
def forgetOwnRelayEvent (key : String) : HubState.Cmd Unit :=
  change fun h => { h.forgetRelayEvent key with owned := h.owned.erase key }

def rememberRelayEvent (key : String) (id : ℕ) : HubState.Cmd Unit :=
  change (·.rememberRelayEvent key id)

def rememberLanePersisted (key : String) (id : ℕ) : HubState.Cmd Unit :=
  change (·.rememberLanePersisted key id)

/-- `resolveRelayRoute`: the route, and whether its node is connected; a lane event without a node
gets no route at all. Duplicates and late acknowledgements look too, but send nothing. -/
def resolveRelayRoute (l : Label) (e : Event) : HubState.Cmd (ReportRelayRoute × Bool) :=
  .act l fun h a =>
    let route := if e.kind = .laneEvent && !a.routed then {} else a.route
    (if l = .other && a.routed then { h with routed := (e.key, route.machine) :: h.routed } else h,
      route, a.routed)

/-- What a write to handoffkeep leaves. -/
inductive Persisted where
  | failed
  /-- the hub has no handoffkeep -/
  | without
  | stored (row : Row) (existing : Bool)

def Persisted.id : Persisted → ℕ
  | .stored row _ => row.id
  | .failed | .without => 0

section Programs

variable (cfg : Config)

/-- `persistRelayEventRecord` -/
def persistRelayEventRecord (l : Label) (e : Event) (machine pane : String) :
    HubState.Cmd Persisted :=
  .act l fun h a =>
    if !cfg.handoffkeep then (h, .without)
    else
      let (rows, row, existing) := appendEvent h.rows e machine pane
      match a.fault with
      | .none => ({ h with rows := rows }, .stored row existing)
      | .lost => ({ h with rows := rows }, .failed)
      | .refused => (h, .failed)

/-- `handoffkeep.relayEvent`: nothing when the read fails. -/
def readRow (id : ℕ) : HubState.Cmd (Option (Option Row)) :=
  .act .other fun h a =>
    (h, if a.fault ≠ .none then none else some (h.rows.find? (·.id = id)))

/-- `relayEventByTransportID` -/
def relayEventByTransportID (jobID : String) : HubState.Cmd (Option (Option Row)) :=
  .act .other fun h a =>
    (h, if a.fault ≠ .none then none else some (h.rows.find? fun row =>
      row.kind = .laneEvent && (row.payload.jobID = jobID ||
        laneEventTransportID cfg.sha row.payload.ownerLane row.payload.eventID = jobID)))

/-- The hub itself marks a row; `false` when the call fails. -/
def markRow (id : ℕ) (machine pane : String) : HubState.Cmd Bool :=
  .act .other fun h a =>
    match a.fault with
    | .none => ({ h with rows := markDelivered h.rows id machine pane }, true)
    | .lost => ({ h with rows := markDelivered h.rows id machine pane }, false)
    | .refused => (h, false)

variable (machine : String) (e : Event)

/-- The hub marks a row for an acknowledgement. -/
def markRowFor (event : String) (id : ℕ) (pane : String) : HubState.Cmd Bool :=
  .act .other fun h a =>
    let marked := { h.affect machine event with rows := markDelivered h.rows id machine pane }
    match a.fault with
    | .none => (marked, true)
    | .lost => (marked, false)
    | .refused => (h, false)

/-! ## Sending -/

def registerRelayAckEvent (route : ReportRelayRoute) (eventID : ℕ) : HubState.Cmd Unit :=
  .act (.register (relayPendingKey eventID e.payload.jobID)) fun h _ =>
    (h.registerRelayAckEvent e route.machine route.pane eventID, ())

def armRelayAckEvent (key : PendingKey) : HubState.Cmd Unit := change (·.armRelayAckEvent key)

/-- `queueRelay`: whether the directive of an event went out. -/
def queueRelay (event : String) : HubState.Cmd Bool :=
  .act .other fun h a =>
    if a.queued then ({ h with owned := h.owned.erase event, live := event :: h.live }, true)
    else (h, false)

/-- `injectRelayEvent`: open the window, send, start the clock; a full channel undoes the first and
gives the claim back. -/
def injectRelayEvent (route : ReportRelayRoute) (eventID : ℕ) (key : String) :
    HubState.Cmd Bool := do
  registerRelayAckEvent e route eventID
  if ← queueRelay key then
    armRelayAckEvent (relayPendingKey eventID e.payload.jobID)
    pure true
  else
    forgetOwnRelayEvent key
    change (·.dropWindow (relayPendingKey eventID e.payload.jobID))
    pure false

/-- `injectLaneRelayEvent` takes the same steps. -/
def injectLaneRelayEvent (route : ReportRelayRoute) (eventID : ℕ) (key : String) :
    HubState.Cmd Bool := injectRelayEvent e route eventID key

/-- `relayEventAlreadyDelivered` -/
def relayEventAlreadyDelivered (stored : Persisted) (e : Event) : Bool :=
  match stored with
  | .stored row existing =>
    existing && row.deliveredAt && row.payload.eventID = e.payload.eventID
  | .failed | .without => false

/-- `reacknowledgeRelayEventFrom`: a duplicate writes its event again, to name the row. -/
def reacknowledgeRelayEvent (key : String) (knownID : ℕ) : HubState.Cmd Unit := do
  if !cfg.handoffkeep then pure ()
  else
    let (route, routed) ← resolveRelayRoute (.reackRoute e.key) e
    if !routed then forgetRelayEvent key
    else
      match ← persistRelayEventRecord cfg (.reackPersist knownID) e route.machine route.pane with
      | .failed => if knownID = 0 then forgetRelayEvent key else pure ()
      | .without => pure ()
      | .stored row _ => rememberRelayEvent key row.id

/-- `relayJobEventFrom` -/
def relayJobEvent : HubState.Cmd Unit := do
  if e.payload.ownerLane = "" || e.payload.jobID = "" then pure ()
  else if ← ask then pure () -- the inbox has it
  else
    match ← claimRelayEvent e.key with
    | some knownID => reacknowledgeRelayEvent cfg e e.key knownID
    | none =>
      let (route, routed) ← resolveRelayRoute .other e
      if !routed then forgetOwnRelayEvent e.key
      else
        match ← persistRelayEventRecord cfg .other e route.machine route.pane with
        | .failed => forgetOwnRelayEvent e.key
        | stored =>
          rememberRelayEvent e.key stored.id
          if relayEventAlreadyDelivered stored e then pure ()
          else
            let _ ← injectRelayEvent e route stored.id e.key
            pure ()

/-- The text is longer than the lane takes. -/
def textTooLong (sink : Bool) : Bool :=
  laneEventTextLimitSink < e.payload.text.utf8ByteSize ||
    (!sink && laneEventTextLimit < e.payload.text.utf8ByteSize)

/-- `relayLaneEventContext`, once the row is there. -/
def relayStoredLaneEvent (route : ReportRelayRoute) (routed ingress : Bool) (key : String)
    (row : Row) (existing : Bool) : HubState.Cmd Unit := do
  if ingress && existing then
    rememberLanePersisted key row.id
    forgetOwnRelayEvent key
  else
    -- the stored text wins over a changed duplicate
    let e := if existing then laneEventFromStored cfg.sha row else e
    rememberLanePersisted key row.id
    rememberRelayEvent key row.id
    if relayEventAlreadyDelivered (.stored row existing) e then pure ()
    else if route.sink then
      if ← markRow row.id "sink" ("sink:" ++ e.payload.ownerLane) then pure ()
      else forgetOwnRelayEvent key
    else if !routed then forgetOwnRelayEvent key
    else
      match ← askGate with
      | .inject =>
        let _ ← injectLaneRelayEvent e route row.id key
        pure ()
      | _ =>
        -- the chat row was closed meanwhile
        let _ ← markRow row.id "hub" "chat-terminal"
        forgetOwnRelayEvent key

/-- `relayLaneEventContext` -/
def relayLaneEvent (ingress sinkOnly : Bool) : HubState.Cmd Unit := do
  if e.payload.ownerLane = "" || e.payload.eventID = "" || e.payload.text = "" then pure ()
  else if textTooLong e (← ask) then pure ()
  else if ← ask then pure () -- the inbox has it
  else if ← claimLaneEvent e.key then
    if !cfg.handoffkeep then forgetOwnRelayEvent e.key
    else
      let (route, routed) ← resolveRelayRoute .other e
      if sinkOnly && !route.sink then forgetOwnRelayEvent e.key
      else if textTooLong e route.sink then forgetOwnRelayEvent e.key
      else
        -- without a producer node, the row names the host of the request
        let machine := if ingress then e.payload.host else route.machine
        let pane := if ingress then "" else route.pane
        match ← persistRelayEventRecord cfg .other e machine pane with
        | .stored row existing =>
          relayStoredLaneEvent cfg e route routed ingress e.key row existing
        | _ => forgetOwnRelayEvent e.key
  else pure ()

/-! ## Replays -/

/-- The row was retired by an earlier replay. -/
def Row.retired (row : Row) : Bool := "hub/replay-retired:".toList <+: row.deliveredTo.toList

/-- The gates before a replay; the row is as the listing showed it. -/
def replayGate (record : Row) : HubState.Cmd Bool := do
  let event := relayEventFromRecord cfg.sha record
  if event.payload.ownerLane = "" || event.payload.jobID = "" then pure false
  else if record.deliveredAt || record.retired then pure false
  else
    match ← askGate with
    | .defer => pure false
    | .retire =>
      let _ ← markRow record.id "hub" "replay-retired:"
      pure false
    | .inject => pure (record.attempts < relayReplayMaxAttempts)

/-- The claim of a replay, and its route. -/
def claimRoute (record : Row) : HubState.Cmd (Option ReportRelayRoute) := do
  let event := relayEventFromRecord cfg.sha record
  if record.kind = .laneEvent then rememberLanePersisted event.key record.id
  if ← claimReplay event.key record.id then
    let (route, routed) ← resolveRelayRoute .other event
    if !routed || (record.kind = .laneEvent && route.sink) then
      forgetOwnRelayEvent event.key
      pure none
    else pure (some route)
  else pure none

/-- `replayRelayEvent` -/
def replayRelayEvent (id : ℕ) : HubState.Cmd Unit := do
  match ← readRow id with
  | some (some record) =>
    if ← replayGate cfg record then
      match ← claimRoute cfg record with
      | none => pure ()
      | some route =>
        let event := relayEventFromRecord cfg.sha record
        if ← injectRelayEvent event route record.id event.key then
          let _ ← persistRelayEventRecord cfg .other event route.machine route.pane
          pure ()
  | _ => pure ()

/-- `replayMarkedUnconfirmed`: retire the row for good, then send it once more. -/
def replayMarkedUnconfirmed (record : Row) : HubState.Cmd Unit := do
  if ← replayGate cfg record then
    match ← claimRoute cfg record with
    | none => pure ()
    | some route =>
      let event := relayEventFromRecord cfg.sha record
      match ← readRow record.id with
      | some (some latest) =>
        if latest.deliveredAt || latest.retired then forgetOwnRelayEvent event.key
        else if ← markRow record.id "hub" "replay-retired:unconfirmed" then
          let _ ← injectRelayEvent event route record.id event.key
          pure ()
        else
          forgetOwnRelayEvent event.key
          change (·.dropWindow (relayPendingKey record.id event.payload.jobID))
      | _ => forgetOwnRelayEvent event.key

/-- `redeliverWorkingExpiredOnIdle`, for a remembered row of a lane: the claim of the send that is
over is given back first. -/
def redeliverWorkingExpired (id : ℕ) : HubState.Cmd Unit := do
  match ← readRow id with
  | some (some record) =>
    if record.kind = .laneEvent then
      let key := (relayEventFromRecord cfg.sha record).key
      change fun h => if Assoc.get h.relayDedupe key = some record.id then
        h.forgetRelayEvent key else h
      replayMarkedUnconfirmed cfg record
    else pure ()
  | _ => pure ()

/-! ## Acknowledgements -/

/-- The row of a window that was opened before the row had an id. -/
def nameRow (pending : Pending) : HubState.Cmd ℕ :=
  .act .other fun h _ =>
    (h, if pending.eventID ≠ 0 then pending.eventID
      else
        match Assoc.get h.lanePersisted pending.event.key with
        | some id => id
        | none => (Assoc.get h.relayDedupe pending.event.key).getD 0)

/-- The local clean-up after a delivery. -/
def HubState.settle (h : HubState) (pending : Pending) : HubState :=
  let h := h.forgetRelayTimeout pending.event.payload.jobID
  let h := if pending.event.kind = .laneEvent then h.forgetLanePersisted pending.event.key else h
  { h with
    log := .delivered (relayPendingKey pending.eventID pending.event.payload.jobID) :: h.log }

/-- `markRelayEventDelivered` -/
def markRelayEventDelivered (pending : Pending) : HubState.Cmd Bool := do
  let id ← nameRow pending
  change (·.settle pending)
  if !cfg.handoffkeep then pure true
  else if id = 0 then pure false
  else markRowFor pending.machine pending.event.key id pending.pane

/-- `recordLateRelayDelivery`, for the row that was found. -/
def recordLateRow (ack : Ack) (record : Row) : HubState.Cmd Bool := do
  let event := relayEventFromRecord cfg.sha record
  if ack.jobID ≠ event.payload.jobID && ack.jobID ≠ record.payload.jobID then pure false
  else
    let (route, _) ← resolveRelayRoute (.lateRoute machine event.key) event
    if record.machine ≠ machine && (route.sink || route.machine ≠ machine) then pure false
    else if record.deliveredAt then pure true
    else
      markRelayEventDelivered cfg
        { machine := machine, pane := ack.pane, eventID := record.id, event := event }

/-- `recordLateRelayDelivery`: a delivery whose window is gone. -/
def recordLateRelayDelivery (ack : Ack) : HubState.Cmd Bool := do
  if !cfg.handoffkeep then pure false
  else if 1 ≤ ack.originalEventID then
    match ← readRow ack.originalEventID with
    | some (some record) => recordLateRow cfg machine ack record
    | _ => pure false
  else if !("lane-event-".toList <+: ack.jobID.toList) then pure false
  else
    match ← relayEventByTransportID cfg ack.jobID with
    | some (some record) => recordLateRow cfg machine ack record
    | _ => pure false

/-- `handleRelayAck` of `relay.delivered` -/
def relayDelivered (ack : Ack) : HubState.Cmd Unit := do
  let found ← Cmd.act .other fun h a => h.acknowledgeRelayPending machine ack a.pick
  let _ ← match found with
    | none => recordLateRelayDelivery cfg machine ack
    | some (_, pending) => markRelayEventDelivered cfg pending
  pure ()

def relayUnconfirmedMarkLane : String := "hub/unconfirmed"

/-- The marker row for a row, as an event. -/
def unconfirmedMark (rowID : ℕ) (digest : Bool) : Event where
  kind := .laneEvent
  payload :=
    let markID := "unconfirmed-mark-" ++ toString rowID ++ if digest then "-digest" else ""
    { jobID := laneEventTransportID cfg.sha relayUnconfirmedMarkLane markID
      epoch := 1
      ownerLane := relayUnconfirmedMarkLane
      eventID := markID
      text := "relay.unconfirmed mark: durable row " ++ toString rowID ++
        " keeps one labelled replay" }
  valid := hubJobID_laneEventTransportID cfg.sha _ _

/-- `isDigestBatch`: nothing when the read fails. -/
def isDigestBatch : HubState.Cmd (Option Bool) :=
  .act .other fun h a => (h, if a.fault ≠ .none then none else some a.yes)

/-- `markRelayEventUnconfirmed`, for a row id: whether the window may go. -/
def markUnconfirmedRow (id : ℕ) : HubState.Cmd Bool := do
  match ← readRow id with
  | none => pure false
  | some none => pure true
  | some (some record) =>
    if record.deliveredAt then pure true
    else
      match ← isDigestBatch with
      | none => pure false
      | some digest =>
        match ← persistRelayEventRecord cfg .other (unconfirmedMark cfg record.id digest) "" "" with
        | .failed => pure false
        | _ => pure true

/-- `markRelayEventUnconfirmed` -/
def markRelayEventUnconfirmed (pending : Pending) : HubState.Cmd Bool := do
  if !cfg.handoffkeep then pure true
  else
    let id ← nameRow pending
    if id ≠ 0 then markUnconfirmedRow cfg id
    else if pending.event.kind ≠ .laneEvent then pure true
    else
      match ← relayEventByTransportID cfg pending.event.payload.jobID with
      | none => pure false
      | some none => pure true
      | some (some record) => markUnconfirmedRow cfg record.id

/-- `handleRelayAck` of `relay.unconfirmed`: the mark comes before the window goes. -/
def relayUnconfirmed (ack : Ack) : HubState.Cmd Unit := do
  let found ← Cmd.act .other fun h a => (h, h.findRelayPending machine ack a.pick)
  match found with
  | none => pure ()
  | some (key, pending) =>
    if ← markRelayEventUnconfirmed cfg pending then
      Cmd.act (.consume machine key) fun h _ => (h.consumeRelayPending machine key, ())
    else pure ()

/-- `relay.released` -/
def relayReleased (id : ℕ) (jobID : String) : HubState.Cmd Unit := do
  let accepted ← Cmd.act (.release (relayPendingKey id jobID)) fun h _ =>
    h.releaseRelayHeld machine id jobID
  if accepted then .go (.armReleased machine (relayPendingKey id jobID)) else pure ()

/-- The arm that a release starts. -/
def armAfterRelease (key : PendingKey) : HubState.Cmd Unit :=
  .act (.armReleased machine key) fun h _ =>
    let armed := h.armRelayAckEvent key
    match h.window key with
    | some pending =>
      if pending.armed || pending.held then (armed, ())
      else (armed.affect machine pending.event.key, ())
    | none => (armed, ())

/-- An operator deletes a held row. -/
def relayHeldDelete (id : ℕ) : HubState.Cmd Unit := do
  let found ← Cmd.act .other fun h a =>
    match Assoc.get h.relayHeld id with
    | some held => if a.queued then (h.deleteRelayHeld id held, some held) else (h, none)
    | none => (h, none)
  match found with
  | some held =>
    if cfg.handoffkeep then
      let _ ← markRow id held.machine "cancelled"
  | none => pure ()

/-- A node confirms a cancellation that the hub may not remember. -/
def relayCancelled (id : ℕ) : HubState.Cmd Unit :=
  .act .other fun h a =>
    if a.yes then (h, ()) else ({ h with relayHeld := Assoc.del h.relayHeld id }, ())

/-! ## Timers -/

/-- A timer fires. -/
def fire (key : PendingKey) (n : ℕ) : HubState.Cmd (Option (PendingKey × Pending)) :=
  .actWhen .other (fun h _ => (key, n) ∈ h.timers) fun h a => h.expireRelayAck key n a.pick

/-- The notice of a timeout, unless it is suppressed. -/
def noteTimeout (key : PendingKey) : HubState.Cmd Unit :=
  change fun h =>
    let (h', notice) := h.rememberRelayTimeout key.text
    { h' with log := .timedOut key notice :: h.log }

/-- `expireRelayAck` -/
def expireRelayAck (key : PendingKey) (n : ℕ) : HubState.Cmd Unit := do
  match ← fire key n with
  | none => pure ()
  | some (key, pending) =>
    if cfg.handoffkeep then
      let _ ← persistRelayEventRecord cfg .other pending.event pending.machine pending.pane
    if pending.event.kind = .laneEvent then forgetRelayEvent pending.event.key
    noteTimeout key

/-- The programs of the hub. -/
def program : Proc → Prog HubState Answer Label Proc
  | .jobEvent e => (relayJobEvent cfg e).prog
  | .laneEvent e ingress sinkOnly => (relayLaneEvent cfg e ingress sinkOnly).prog
  | .replay id => (replayRelayEvent cfg id).prog
  | .replayMarked id => Cmd.prog do
    match ← readRow id with
    | some (some record) => replayMarkedUnconfirmed cfg record
    | _ => pure ()
  | .redeliver id => (redeliverWorkingExpired cfg id).prog
  | .delivered machine ack => (relayDelivered cfg machine ack).prog
  | .unconfirmed machine ack => (relayUnconfirmed cfg machine ack).prog
  | .held machine id jobID pane => (change (·.rememberRelayHeld machine id jobID pane)).prog
  | .released machine id jobID => (relayReleased machine id jobID).prog
  | .dropped machine id jobID pane => (change (·.consumeRelayDropped machine id jobID pane)).prog
  | .cancelled id => (relayCancelled id).prog
  | .heldDelete id => (relayHeldDelete cfg id).prog
  | .expire key n => (expireRelayAck cfg key n).prog
  | .armReleased machine key => (armAfterRelease machine key).prog

end Programs

/-- A job event comes as one, and a lane event as one; only a release arms a window again, and a
message of a node names the node. -/
def Proc.admissible : Proc → Bool
  | .jobEvent e => e.kind ≠ .laneEvent
  | .laneEvent e _ _ => e.kind = .laneEvent
  | .armReleased _ _ => false
  | .delivered machine _ | .unconfirmed machine _ | .held machine _ _ _
  | .released machine _ _ | .dropped machine _ _ _ => machine ≠ ""
  | _ => true

/-- A restart loses what is in memory; the rows and the history of routes and effects stay. -/
def HubState.restarted (h : HubState) : HubState :=
  { rows := h.rows, arms := h.arms, expiries := h.expiries, routed := h.routed,
    effects := h.effects }

/-- Anything may happen, in any order. -/
def limits : Limits HubState Answer Label Proc where
  start := Proc.admissible
  step _ _ _ := true
  restart h := some h.restarted

end Panewire.HubRelay
