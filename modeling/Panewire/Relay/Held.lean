import Panewire.Data.Table
import Panewire.Harness

/-!
# Relay directives and held rows

A directive of the hub asks a node to type a text into a pane. A node that finds the pane busy
keeps it as a **held row** and types it later, alone or in a batch. This file has the data, and the
decisions that need nothing but data: the delivery policy, the lease of a row, the nonce and the
batch text, and what one inject proved.

Instants and durations are nanoseconds; the store keeps milliseconds.
-/

namespace Panewire.Relay

def second : ℤ := 1000000000
def minute : ℤ := 60 * second
def hour : ℤ := 60 * minute
def millisecond : ℤ := 1000000

def defaultRelayMaxWait : ℤ := 30 * minute
/-- bytes -/
def relayBatchTextLimit : ℕ := 8192
/-- a delivery sentinel, never a pane id -/
def relayCancelledPane : String := "cancelled"
/-- the policy of a worker directive: typed at once unless the pane is blocked -/
def relayDeliverDirective : String := "directive"

/-! ## Delivery policies -/

structure DeliveryPolicy where
  name : String
  maxWait : ℤ := 0
  deriving DecidableEq

def parseRelayDeliveryPolicy (value : String) : Option DeliveryPolicy :=
  let value := Go.trimSpace value
  if value = "" ∨ value = "idle" then some ⟨"idle", defaultRelayMaxWait⟩
  else if value = "now" then some ⟨"now", 0⟩
  else if value = relayDeliverDirective then some ⟨relayDeliverDirective, defaultRelayMaxWait⟩
  else if Go.hasPrefix value "max_wait=" then
    match Go.parseInt (Go.trimPrefix value "max_wait=") with
    | some n => if n < 1 ∨ 86400 < n then none else some ⟨value, n * second⟩
    | none => none
  else none

/-! ## What herdr says about a pane -/

inductive AgentStatus where
  | idle
  | working
  | blocked
  | done
  | unknown
  deriving DecidableEq

/-- The agent instance that occupies a pane. -/
structure Occupant where
  pane : String := ""
  agent : String := ""
  session : String := ""
  name : String := ""
  terminal : String := ""
  workspace : String := ""
  deriving DecidableEq

/-- The lease string; an occupant with nothing to tell it apart has none. -/
def Occupant.key (o : Occupant) : String :=
  if o.session = "" ∧ o.name = "" ∧ o.terminal = "" then ""
  else o.agent ++ "\x00" ++ o.session ++ "\x00" ++ o.name ++ "\x00" ++ o.terminal ++ "\x00" ++
    o.workspace

/-- A reply of `herdr agent get` or `agent wait`, as far as the relay can read it. -/
structure AgentReply where
  /-- the command failed -/
  err : Bool := false
  /-- `parseRelayAgentStatus` -/
  status : Option AgentStatus := none
  /-- `parseRelayAgentOccupant` -/
  occupant : Option Occupant := none
  /-- `parseRelayAgentHarness` -/
  harness : String := ""
  /-- herdr itself says that no agent occupies the pane -/
  notFound : Bool := false
  /-- the documented timeout of a wait -/
  timedOut : Bool := false
  deriving DecidableEq

/-- The pane is working and its harness cannot prove text typed into a working pane. -/
def AgentReply.workingUnprovable (r : AgentReply) : Bool :=
  r.status == some .working && relayHarnessWorkingUnprovable r.harness

/-! ## Directives, rows and records -/

/-- A `relay.inject` that the node's parser accepted: a durable event id comes with a lane. -/
structure Directive where
  pane : String
  lane : String := ""
  /-- the hub's durable row, `0` for a notice without one -/
  eventID : ℕ := 0
  jobID : String := ""
  text : String
  deliverPolicy : String := ""
  durable : eventID ≠ 0 → lane ≠ "" := by decide
  deriving DecidableEq

def Directive.identified (m : Directive) : Bool := 0 < m.eventID && m.lane ≠ ""

/-- A directive that waits on this node. -/
structure Held where
  pane : String
  lane : String := ""
  eventID : ℕ := 0
  jobID : String := ""
  text : String
  deliverPolicy : String := "idle"
  heldSince : ℤ := 0
  maxWait : ℤ := 0
  /-- the node's order of arrival -/
  recvSeq : ℕ := 0
  /-- an operator changed the text -/
  edited : Bool := false
  /-- the receipt instant is precise; never stored -/
  fresh : Bool := false
  /-- failed injects -/
  attempts : ℕ := 0
  /-- the occupant the row waited on, empty when unknown -/
  lease : String := ""
  deriving DecidableEq

/-- The unique constraint of `relay_held`. -/
def Held.key (h : Held) : String × ℕ := (h.lane, h.eventID)

/-- The table `relay_held`. -/
abbrev HeldTable : Type := Data.Table Held.key

/-- What the store keeps of a row: whole milliseconds, and no `fresh` mark. -/
def Held.stored (h : Held) (seq : ℕ) : Held :=
  { h with
    heldSince := h.heldSince / millisecond * millisecond
    maxWait := h.maxWait.tdiv millisecond * millisecond
    recvSeq := seq
    fresh := false }

/-- An operator's change of text, on the rows of an event. -/
def Held.editFor (id : ℕ) (text : String) (h : Held) : Held :=
  if h.eventID = id then { h with text := text, edited := true } else h

/-- A longer wait, on the rows of an event. -/
def Held.extendFor (id : ℕ) (maxWait : ℤ) (h : Held) : Held :=
  if h.eventID = id ∧ h.maxWait < maxWait then { h with maxWait := maxWait } else h

theorem Held.editFor_key (id : ℕ) (text : String) (h : Held) : (h.editFor id text).key = h.key := by
  unfold Held.editFor
  split <;> rfl

theorem Held.extendFor_key (id : ℕ) (maxWait : ℤ) (h : Held) :
    (h.extendFor id maxWait).key = h.key := by
  unfold Held.extendFor
  split <;> rfl

/-- A row of `relay_delivered`: this event reached a pane. -/
structure Delivered where
  lane : String
  eventID : ℕ
  pane : String
  payloadSHA : String
  /-- milliseconds -/
  deliveredAt : ℤ
  deriving DecidableEq

def Delivered.key (d : Delivered) : String × ℕ := (d.lane, d.eventID)

/-- The table `relay_delivered`. -/
abbrev DeliveredTable : Type := Data.Table Delivered.key

/-- Why a held row may no longer be typed, if so. -/
def relayHeldLeaseStale (item : Held) (occupant : Option Occupant) : Option String :=
  match occupant with
  | none => some "pane_occupant_gone"
  | some o =>
    if item.lease = "" then
      if o.name ≠ "" ∧ o.name = item.lane then none else some "lease_unverifiable"
    else if o.key ≠ item.lease then some "pane_occupant_changed"
    else none

/-! ## Nonce and batch text -/

/-- FNV-1a over bytes, with the parameters of a width. -/
def fnv1a (prime modulus : ℕ) : List ℕ → ℕ → ℕ
  | [], h => h
  | b :: bs, h => fnv1a prime modulus bs ((h ^^^ b) * prime % modulus)

def utf8Bytes (s : String) : List ℕ := s.toUTF8.toList.map (·.toNat)

def relayNonceAlphabet : List Char := "0123456789abcdefghijklmnopqrstuvwxyz".toList

/-- The last `width` base-36 digits. -/
def relayNonceBase36 (v width : ℕ) : String :=
  String.ofList <| (List.range width).reverse.map fun i =>
    relayNonceAlphabet.getD (v / 36 ^ i % 36) '0'

def littleEndian64 (n : ℕ) : List ℕ := (List.range 8).map fun i => n / 256 ^ i % 256

def relayNonceCheck (id : ℕ) (text : String) : String :=
  relayNonceBase36
    (fnv1a 16777619 (2 ^ 32) (littleEndian64 id ++ [0] ++ utf8Bytes text) 2166136261) 4

/-- The proof token of a row. -/
def relayNonce (item : Held) : String :=
  if 0 < item.eventID then
    "[r" ++ toString item.eventID ++ relayNonceCheck item.eventID item.text ++ "]"
  else
    "[r0" ++ relayNonceBase36 (fnv1a 1099511628211 (2 ^ 64)
      (utf8Bytes item.lane ++ [0] ++ utf8Bytes item.jobID ++ [0] ++ utf8Bytes item.text)
      14695981039346656037) 6 ++ "]"

/-- The mark of a row whose wait ran out. -/
def expiredMark (item : Held) (now : ℤ) : String :=
  "[대기 만료 " ++ toString ((now - item.heldSince).tdiv minute) ++ "분] "

/-- The numbered members of a batch. -/
def relayBatchMembers (expired : Bool) (now : ℤ) : ℕ → List Held → String
  | _, [] => ""
  | n, item :: items =>
    " " ++ toString n ++ ") " ++ (if expired then expiredMark item now else "") ++
      relayNonce item ++ " " ++ item.text ++ relayBatchMembers expired now (n + 1) items

def relayBatchText (items : List Held) (expired : Bool) (now : ℤ) : String :=
  match items with
  | [item] =>
    (if expired then expiredMark item now else "") ++ relayNonce item ++ " " ++ item.text
  | items => "[batch " ++ toString items.length ++ "건]" ++ relayBatchMembers expired now 1 items

/-- Every row is a worker directive. -/
def relayGroupImmediate (group : List Held) : Bool :=
  (group.all fun i => i.deliverPolicy = relayDeliverDirective && i.eventID ≠ 0 && i.lane ≠ "") &&
    !group.isEmpty

/-- Whether `item` may join the group `last`. -/
def relayJoins (expired : Bool) (now : ℤ) (last : List Held) (item : Held) : Bool :=
  relayGroupImmediate last == relayGroupImmediate [item] &&
    item.text.utf8ByteSize ≤ relayBatchTextLimit &&
    (relayBatchText (last ++ [item]) expired now).utf8ByteSize ≤ relayBatchTextLimit

/-- The groups of a release; `last` is the group being filled. -/
def relayGroupsFrom (expired : Bool) (now : ℤ) : List Held → List Held → List (List Held)
  | last, [] => [last]
  | last, item :: items =>
    if relayJoins expired now last item then relayGroupsFrom expired now (last ++ [item]) items
    else last :: relayGroupsFrom expired now [item] items

def relayBatchGroups (items : List Held) (expired : Bool) (now : ℤ) : List (List Held) :=
  match items with
  | [] => []
  | item :: items => relayGroupsFrom expired now [item] items

/-- The order of arrival. -/
def byRecvSeq (items : List Held) : List Held :=
  items.insertionSort fun a b => a.recvSeq ≤ b.recvSeq

/-! ## What an inject proved -/

inductive InjectOutcome where
  | delivered
  /-- herdr rejected the send: nothing was typed -/
  | retryable
  /-- the text may be in the pane: never inject it again -/
  | maybeInPane
  /-- the harness took it into its own queue -/
  | queued
  deriving DecidableEq

structure InjectResult where
  outcome : InjectOutcome := .delivered
  harness : String := ""
  evidence : String := ""
  /-- the nonces seen on the pane; `none` applies the outcome to the whole group -/
  proven : Option (List String) := none
  deriving DecidableEq

/-- Whether this row's own nonce was seen. -/
def InjectResult.proves (r : InjectResult) (item : Held) : Bool :=
  match r.proven with
  | none => true
  | some nonces => nonces.contains (relayNonce item)

/-- The text was taken, now or into a queue. -/
def InjectResult.taken (r : InjectResult) : Bool :=
  r.outcome == .delivered || r.outcome == .queued

/-- The rows of the group that the inject proved. -/
def InjectResult.landed (r : InjectResult) (group : List Held) : List Held :=
  if r.taken then group.filter r.proves else []

/-- Whether a directive's first send is worth one more. -/
def relayRetriesOnce (r : InjectResult) : Bool :=
  match r.outcome with
  | .retryable => true
  | .maybeInPane =>
    Go.contains r.evidence "unproven:" || r.evidence == "presend:read_failed" ||
      r.evidence == "postsend:read_failed" ||
      (Go.hasPrefix r.evidence "postsend:" && Go.hasSuffix r.evidence ":none")
  | _ => false

/-- One line of at most 240 bytes. -/
def relayAckReason (reason : String) : String :=
  Go.prefixWithin (Go.join " " (Go.fields reason)) 240

end Panewire.Relay
