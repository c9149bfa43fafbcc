import Panewire.Conc.Prog
import Panewire.Data.Assoc
import Panewire.Relay.Held

/-!
# The state of a relay node

The two tables of the node's store, the memory of the busy manager, and what it has sent out. Each
operation here is one atomic step of the manager: a store call, or a section under its lock. A
section with one store call is one step, because nothing in it can be observed before the lock is
released; only `hold` makes two store calls under the lock and is two steps.

`hist` is the history that properties are stated over, newest first: the directives that arrived,
the texts typed into panes, and the operator's edits and cancels. `offering` lists the events whose
directive is being handled right now. Neither is read by the manager.
-/

namespace Panewire.Relay

open Data Conc

/-- The rollout switch of the delivered record. -/
inductive DedupeMode where
  /-- count repeats, deliver them -/
  | shadow
  /-- suppress proven repeats -/
  | apply
  | off
  deriving DecidableEq

/-- What does not change while the node runs. -/
structure Config where
  mode : DedupeMode
  /-- the ceiling of a hold on a working pane that cannot be typed into -/
  cmdHoldMax : ℤ := 24 * hour
  /-- `relayPayloadFingerprint`: SHA-256 in hexadecimal -/
  fingerprint : String → String

/-- An event sent to the hub. -/
inductive Emit where
  | held (id : ℕ) (job pane lane reason preview : String) (heldSince : ℤ) (policy : String)
  | released (id : ℕ) (job pane lane finalText : String) (edited : Bool)
  | delivered (id : ℕ) (job pane reason finalText : String) (edited : Bool)
  | unconfirmed (id : ℕ) (job pane reason : String)
  | dropped (id : ℕ) (job pane lane reason harness : String)
  | batched (pane lane : String) (ids : List ℕ)
  | cancelled (id : ℕ)
  deriving DecidableEq

/-- A decision of the dedupe gate in the event journal. -/
structure JournalEntry where
  action : String
  lane : String
  eventID : ℕ
  pane : String
  deriving DecidableEq

/-- The history of a node. -/
inductive Ev where
  /-- a directive arrived -/
  | offered (m : Directive)
  /-- a text made of these rows went to a pane, with this result -/
  | injected (pane : String) (group : List Held) (text : String) (result : InjectResult)
  /-- an edit returned `ok`; `quiet` when no release and no offer had the event in hand -/
  | edited (id : ℕ) (text : String) (ok quiet : Bool)
  /-- a cancel returned `ok` -/
  | cancelled (id : ℕ) (ok quiet : Bool)
  deriving DecidableEq

structure Node where
  /-- `relay_held` -/
  rows : HeldTable
  /-- `relay_delivered` -/
  delivered : DeliveredTable
  /-- the manager's lock is taken -/
  locked : Bool := false
  /-- the rows held for each pane, as the manager remembers them -/
  held : List (String × List Held) := []
  /-- the wait registered for each pane -/
  waits : List (String × ℕ) := []
  /-- waits whose context was cancelled -/
  ended : List ℕ := []
  nextWait : ℕ := 0
  /-- the events a release is delivering -/
  inflight : List ℕ := []
  /-- the newest route seen for each lane -/
  lanePane : List (String × String) := []
  /-- the claims of offers, by lane and event -/
  claims : List (String × ℕ) := []
  /-- deadlines that a working pane's rows were moved to -/
  cmdHoldUntil : List (ℕ × ℤ) := []
  dedupeRestorePending : Bool := false
  recvSeq : ℕ := 0
  emitted : List Emit := []
  journal : List JournalEntry := []
  offering : List ℕ := []
  hist : List Ev := []

/-- The answer of the outside to one step. -/
structure Answer where
  now : ℤ := 0
  /-- the store call fails -/
  storeErr : Bool := false
  /-- the connection's context is done -/
  connDone : Bool := false
  /-- a reply of herdr -/
  reply : AgentReply := {}
  /-- the verdict of an inject -/
  verdict : InjectResult := {}
  /-- `relayLaneJobEnded` -/
  jobEnded : Bool := false

/-- What a step does, as far as a property may ask. -/
inductive Label where
  | offer (m : Directive)
  | readHeld (lane : String) (id : ℕ)
  | recordDelivered (d : Delivered)
  | edit (id : ℕ)
  | cancel (id : ℕ)
  | inject
  | store
  | other
  deriving DecidableEq

/-- The procedures of the node. -/
inductive Proc where
  | offer (m : Directive)
  | edit (id : ℕ) (text : String)
  | cancel (id : ℕ)
  | restore
  | resume
  /-- the goroutine of a wait; a detached one does not end with the connection -/
  | waitForPane (wait : ℕ) (detached : Bool) (pane : String) (waitFor : ℤ) (directiveHeld : Bool)
  /-- the timer that arms a pane again -/
  | rearm (pane : String)

namespace Node

/-! ## Store calls -/

variable (s : Node)

/-- `Store.InsertRelayHeld` -/
def insertRelayHeld (item : Held) : Node × Bool :=
  let seq :=
    if item.recvSeq = 0 then (s.rows.rows.map (·.recvSeq)).foldl max 0 + 1 else item.recvSeq
  let r := s.rows.insertNew (item.stored seq)
  ({ s with rows := r.1 }, r.2)

variable (pane : String)

/-- `Store.RelayHeldForPane` -/
def relayHeldForPane : List Held :=
  byRecvSeq (s.rows.rows.filter fun h => h.pane = pane)

/-- `Store.RelayHeldAll` -/
def relayHeldAll : List Held :=
  s.rows.rows.insertionSort fun a b => a.pane < b.pane ∨ a.pane = b.pane ∧ a.recvSeq ≤ b.recvSeq

/-- `Store.DeleteRelayHeld`: the rows of the event in any lane; whether it was exactly one. -/
def deleteRelayHeld (id : ℕ) : Node × Bool :=
  ({ s with rows := s.rows.deleteWhere fun h => h.eventID = id },
    (s.rows.rows.filter fun h => h.eventID = id).length = 1)

/-- `Store.UpdateRelayHeldText` -/
def updateRelayHeldText (id : ℕ) (text : String) : Node × Bool :=
  ({ s with rows := s.rows.update (Held.editFor id text) (Held.editFor_key id text) },
    (s.rows.rows.filter fun h => h.eventID = id).length = 1)

/-- `Store.ExtendRelayHeldMaxWait`: never shortens a wait. -/
def extendRelayHeldMaxWait (id : ℕ) (maxWait : ℤ) : Node :=
  let ms := maxWait.tdiv millisecond * millisecond
  { s with rows := s.rows.update (Held.extendFor id ms) (Held.extendFor_key id ms) }

/-- milliseconds -/
def relayDeliveredMaxAge : ℤ := 3 * 24 * 60 * 60 * 1000

/-- `Store.RecordRelayDelivered`: the first record of an event stays; old records go. -/
def recordRelayDelivered (d : Delivered) : Node :=
  { s with delivered := ((s.delivered.insertNew d).1).deleteWhere fun r =>
      r.deliveredAt < d.deliveredAt - relayDeliveredMaxAge }

/-! ## Sections under the lock -/

/-- The rows remembered for a pane. -/
def heldOf : List Held := (Assoc.get s.held pane).getD []

/-- Drop an event from the rows remembered for a pane. -/
def pruneHeld (id : ℕ) : Node :=
  match Assoc.get s.held pane with
  | none => s
  | some items => { s with held := Assoc.put s.held pane (items.filter fun h => h.eventID ≠ id) }

/-- `heldDeadlineLocked` -/
def heldDeadline (item : Held) : ℤ :=
  match Assoc.get s.cmdHoldUntil item.eventID with
  | some until_ => max (item.heldSince + item.maxWait) until_
  | none => item.heldSince + item.maxWait

/-- How long a wait on these rows lasts, in whole milliseconds. -/
def waitTime (now : ℤ) (first : Held) (rest : List Held) : ℤ :=
  let waitFor :=
    if first.fresh && rest.isEmpty then first.maxWait
    else rest.foldl (fun d h => min d (s.heldDeadline h)) (s.heldDeadline first) - now
  if waitFor < 0 then 0 else (waitFor + millisecond - 1) / millisecond * millisecond

/-- The locked part of `arm`: end the pane's wait and, if rows are held, register a new one. -/
def arm (now : ℤ) (pane : String) : Node × Option (ℕ × ℤ × Bool) :=
  let s := match Assoc.get s.waits pane with
    | some w => { s with ended := w :: s.ended }
    | none => s
  match s.heldOf pane with
  | [] => ({ s with waits := Assoc.del s.waits pane }, none)
  | first :: rest =>
    ({ s with
        held := Assoc.put s.held pane ((first :: rest).map fun h => { h with fresh := false })
        waits := Assoc.put s.waits pane s.nextWait
        nextWait := s.nextWait + 1 },
      some (s.nextWait, s.waitTime now first rest,
        (first :: rest).any fun h => h.deliverPolicy = relayDeliverDirective))

/-- `heldSnapshot`: the rows of a pane that no release is delivering. -/
def heldSnapshot : List Held :=
  (s.relayHeldForPane pane).filter fun h => h.eventID ∉ s.inflight

/-- Take rows for delivery: the pane's wait is over, its rows are in flight, and only the rows
that `remaining` gives, if any, stay remembered. -/
def takeInflight (items : List Held) (remaining : Option (List Held)) : Node :=
  { s with
    waits := Assoc.del s.waits pane
    held := match remaining with
      | none => Assoc.del s.held pane
      | some rows => Assoc.put s.held pane rows
    inflight := items.map (·.eventID) ++ s.inflight }

/-- `finishInflight` -/
def finishInflight (items : List Held) : Node :=
  { s with inflight := s.inflight.filter fun id => id ∉ items.map (·.eventID) }

/-- `reconcileHeld`: remember what the store has, with the precise instants kept. -/
def reconcileHeld : Node :=
  match s.relayHeldForPane pane with
  | [] => { s with held := Assoc.del s.held pane }
  | rows =>
    let live (row : Held) : Held :=
      match (s.heldOf pane).find? fun h => h.eventID = row.eventID with
      | some h => { row with heldSince := h.heldSince, fresh := h.fresh }
      | none => row
    { s with held := Assoc.put s.held pane (rows.map live) }

/-- The end of `hold`: remember the pane's rows, the new one with its precise instant. -/
def rememberHeld (item : Held) (inserted : Bool) : Node :=
  let rows := (s.relayHeldForPane item.pane).map fun h =>
    if inserted ∧ h.eventID = item.eventID then
      { h with heldSince := item.heldSince, fresh := true }
    else h
  { s with held := Assoc.put s.held item.pane rows }

/-- No release and no offer has the event in hand. -/
def quiet (id : ℕ) : Bool := id ∉ s.inflight && id ∉ s.offering

/-- `edit`; an edit that does not find exactly one row is reported as failed. -/
def edit (id : ℕ) (text : String) : Node × Bool :=
  let r := s.updateRelayHeldText id text
  ({ r.1 with
      held := if r.2 then s.held.map fun e => (e.1, e.2.map (Held.editFor id text)) else s.held
      hist := .edited id text r.2 (s.quiet id) :: s.hist }, r.2)

/-- `cancel`, and the panes to arm again when it succeeded. -/
def cancel (id : ℕ) : Node × Option (List String) :=
  let r := s.deleteRelayHeld id
  ({ r.1 with
      held :=
        if r.2 then s.held.map fun e => (e.1, e.2.filter fun h => h.eventID ≠ id) else s.held
      hist := .cancelled id r.2 (s.quiet id) :: s.hist },
    if r.2 then some ((s.held.filter fun e => e.2.any fun h => h.eventID = id).map (·.1))
    else none)

/-- What a restart leaves: the store, and the history. -/
def restarted : Node where
  rows := s.rows
  delivered := s.delivered
  emitted := s.emitted
  journal := s.journal
  hist := s.hist

end Node

end Panewire.Relay
