import Panewire.Hub.Event

/-!
# The lane inbox

The hub keeps every event of a lane that has an inbox as an **item**. An item may wait for its
receiver to read it, for the end of a digest window, or for the end of a hold; items that waited
long enough are folded into a **batch**, one line that is sent to the lane's pane. Nine statements
of the source write to the two tables, and each of them looks at its own columns.

* `Store` — the tables, and where the next item id comes from in either **dialect**.
* `Op` and `Store.perform` — the statements, with the clock, the minted batch ids and the policy of
  the running hub as inputs.
* `Trace` — a run of them, with what it did to the items as a ghost record.
-/

namespace Panewire.Inbox

open Data Hub

/-! ## Rows -/

/-- `UnixMilli` of a time in nanoseconds. -/
def unixMilli (t : ℤ) : ℤ := t / 1000000

/-- `mustAckNotifyTypes` -/
def mustAckNotifyTypes : List NotifyType := [.ready, .decision, .blocked, .findings]

/-- A row of `lane_inbox`. -/
structure Item where
  id : ℕ
  key : String
  lane : String
  kind : RelayKind
  cls : DeliveryClass
  event : HubJobEventPayload
  createdAt : ℤ
  readAt : ℤ
  ackedAt : ℤ
  dueAt : ℤ
  digestAt : ℤ
  digestBatch : String
  escalationBatch : String
  mustAck : Bool
  holdUntil : ℤ
  deliveredAt : ℤ
  supersededAt : ℤ
  supersededBy : ℕ

/-- A row of `lane_inbox_batches`. -/
structure Batch where
  id : String
  lane : String
  text : String
  sent : Bool

/-- A row of `lane_inbox_batch_quarantine`. -/
structure Quarantine where
  batchID : String
  reason : String

namespace Item

variable (i : Item)

/-- Neither acknowledged nor superseded. -/
def live : Bool := i.ackedAt = 0 && i.supersededAt = 0

/-- `laneInboxUnread` -/
def unread : Bool :=
  i.supersededAt = 0 &&
    ((i.mustAck && i.ackedAt = 0) || (!i.mustAck && i.cls = .inbox && i.readAt = 0))

/-- `laneInboxTerminal` -/
def terminal : Bool :=
  i.supersededAt > 0 || i.ackedAt > 0 ||
    (!i.mustAck && (i.deliveredAt > 0 || (i.cls = .inbox && i.readAt > 0)))

/-- The item waits for the end of a digest window or of a hold. -/
def scheduled : Bool :=
  i.live && i.digestBatch = "" && (i.holdUntil > 0 || i.digestAt > 0)

end Item

/-! ## The store -/

inductive Dialect where
  | sqlite
  | postgres
  deriving DecidableEq

structure Store where
  dialect : Dialect
  items : Table Item.id
  batches : Table Batch.id
  quarantine : Table Quarantine.batchID
  /-- `lane_inbox_id_floor`, which only SQLite has -/
  floor : ℕ
  /-- the last number that the identity column of Postgres gave out -/
  sequence : ℕ

/-- The two columns that name a batch. -/
inductive Column where
  | digest
  | escalation
  deriving DecidableEq

def Item.batch (i : Item) : Column → String
  | .digest => i.digestBatch
  | .escalation => i.escalationBatch

def Item.setBatch (i : Item) (id : String) : Column → Item
  | .digest => { i with digestBatch := id }
  | .escalation => { i with escalationBatch := id }

@[simp] theorem Item.id_setBatch (i : Item) (id : String) (c : Column) :
    (i.setBatch id c).id = i.id := by
  cases c <;> rfl

namespace Store

def empty (dialect : Dialect) : Store := ⟨dialect, .empty, .empty, .empty, 0, 0⟩

variable (s : Store)

/-- `COALESCE(max(id),0)` -/
def maxID : ℕ := (s.items.rows.map (·.id)).foldr max 0

/-- The id of the next row. -/
def nextID : ℕ :=
  match s.dialect with
  | .sqlite => max s.maxID s.floor + 1
  | .postgres => s.sequence + 1

/-- An insert takes a number even when it inserts nothing. -/
def takeID : Store :=
  match s.dialect with
  | .sqlite => s
  | .postgres => { s with sequence := s.sequence + 1 }

/-- `UPDATE lane_inbox SET … WHERE p` -/
def updateItems (p : Item → Bool) (f : Item → Item) (hf : ∀ i, (f i).id = i.id) (s : Store) :
    Store :=
  { s with items := s.items.updateWhere p f hf }

end Store

/-! ## Putting items -/

/-- The arguments of `putFrom`; durations are in nanoseconds, and no hold is one of zero. -/
structure Put where
  key : String
  lane : String
  kind : RelayKind
  cls : DeliveryClass
  event : HubJobEventPayload
  deadline : ℤ
  window : ℤ
  hold : ℤ := 0

def Put.mustAck (p : Put) : Bool := p.event.notifyType.any (· ∈ mustAckNotifyTypes)

/-- The row that `putFrom` inserts. -/
def Put.item (p : Put) (now : ℤ) (id : ℕ) : Item where
  id := id
  key := p.key
  lane := p.lane
  kind := p.kind
  cls := p.cls
  event := p.event
  createdAt := unixMilli now
  readAt := if p.cls = .interrupt && !p.mustAck then unixMilli now else 0
  ackedAt := 0
  dueAt :=
    if p.hold > 0 then 0 else if p.deadline > 0 then unixMilli (now + p.deadline) else 0
  digestAt :=
    if p.hold > 0 then 0
    else if p.cls = .interrupt && p.window > 0 && !p.mustAck then unixMilli (now + p.window)
    else 0
  digestBatch := ""
  escalationBatch := ""
  mustAck := p.mustAck
  holdUntil := if p.hold > 0 then unixMilli (now + p.hold) else 0
  deliveredAt := 0
  supersededAt := 0
  supersededBy := 0

/-- `supersedePRType` -/
def supersedePRType (t : Option NotifyType) : Bool :=
  t.any (· ∈ [NotifyType.ready, .blocked, .findings])

/-- `supersedeRules`: whether the later item replaces the earlier one of the same cause. -/
def supersedes (next old : Item) : Bool :=
  (next.event.cause.startsWith "pr:" &&
    (next.event.notifyType = some .merged || next.event.notifyType = some .closed)) ||
  (next.event.cause.startsWith "pr:" &&
    (next.event.head ≠ "" && supersedePRType next.event.notifyType) &&
    (supersedePRType old.event.notifyType && old.event.head ≠ next.event.head)) ||
  (next.event.cause.startsWith "job:" &&
    (next.kind = .jobCompleted || next.kind = .jobLost || next.kind = .jobRevoked ||
      (next.kind = .laneEvent && next.event.notifyType = some .merged)) &&
    (old.event.notifyType = some .progress || old.event.notifyType = some .idleWake ||
      old.event.notifyType = some .decision))

namespace Store

/-- `supersede` -/
def supersede (next : Item) (now : ℤ) (s : Store) : Store :=
  s.updateItems
    (fun i => i.lane = next.lane && i.event.cause = next.event.cause && i.id < next.id && i.live &&
      supersedes next i)
    (fun i => { i with supersededAt := unixMilli now, supersededBy := next.id }) fun _ => rfl

/-- `putFrom`: the item under the key, and whether it is new; `none` when the insert failed. The
first writer of a key wins. -/
def putFrom (p : Put) (now : ℤ) (s : Store) : Option (Item × Bool) × Store :=
  match s.items.rows.find? (·.key = p.key) with
  | some item => (some (item, false), s.takeID)
  | none =>
    let item := p.item now s.nextID
    match s.takeID.items.insertNew item with
    | (_, false) => (none, s.takeID)
    | (items, true) =>
      let s := { s.takeID with items := items }
      (some (item, true), if p.event.cause ≠ "" then s.supersede item now else s)

/-- `read` -/
def read (id : ℕ) (lane : String) (now : ℤ) (s : Store) : Store :=
  s.updateItems (fun i => i.id = id && (lane = "" || i.lane = lane))
    (fun i => { i with readAt := if i.readAt = 0 then unixMilli now else i.readAt }) fun _ => rfl

/-- `ack` -/
def ack (id : ℕ) (lane : String) (all : Bool) (now : ℤ) (s : Store) : Store :=
  s.updateItems (fun i => i.live && ((all && (lane = "" || i.lane = lane)) ||
      (!all && i.id = id && (lane = "" || i.lane = lane))))
    (fun i => { i with
      ackedAt := unixMilli now
      readAt := if i.readAt = 0 then unixMilli now else i.readAt }) fun _ => rfl

/-- `recordDelivery` -/
def recordDelivery (key : String) (now : ℤ) (s : Store) : Store :=
  s.updateItems (fun i => i.key = key)
    (fun i => { i with deliveredAt := if i.deliveredAt = 0 then unixMilli now else i.deliveredAt })
    fun _ => rfl

end Store

/-! ## Batches -/

/-- The digest of interrupts that arrived in one window. -/
def digestText (count : ℕ) (lane : String) : String :=
  toString count ++ " interrupt events | lane " ++ lane ++ " | panewire inbox list --lane " ++ lane

/-- The reminder of items that nobody read in time. -/
def escalationText (count : ℕ) (lane : String) : String :=
  toString count ++ " unread inbox items | lane " ++ lane ++
    " | panewire inbox list --lane " ++ lane

/-- `heldBatchText`; `body` is the tally by kind and the items in full. -/
def heldBatchText (body : List Item → String) (items : List Item) : String :=
  "[batch " ++ toString items.length ++ ": " ++ body items

/-- Items in the order of their ids. -/
def byID (items : List Item) : List Item := items.insertionSort fun a b => a.id ≤ b.id

/-- The lanes of some items, each once. -/
def lanesOf (items : List Item) : List String :=
  (items.map (·.lane)).dedup.insertionSort fun a b => a ≤ b

variable (now : ℤ)

/-- A late flush does not widen the window of the first item. -/
def digestWindow : List Item → List Item
  | [] => []
  | first :: rest =>
    if first.digestAt > unixMilli now then []
    else first :: rest.takeWhile (·.createdAt ≤ first.digestAt)

theorem digestWindow_sublist (items : List Item) : (digestWindow now items).Sublist items := by
  cases items with
  | nil => exact .slnil
  | cons first rest =>
    rw [digestWindow]
    split
    · exact List.nil_sublist _
    · exact (List.takeWhile_sublist _).cons_cons first

def Item.digestible (i : Item) : Bool :=
  i.cls = .interrupt && i.live && i.digestAt > 0 && i.digestBatch = "" && i.holdUntil = 0

def Item.escalates (i : Item) : Bool :=
  i.cls = .inbox && i.readAt = 0 && i.live && i.dueAt > 0 && i.dueAt ≤ unixMilli now &&
    i.escalationBatch = ""

def Item.held (i : Item) : Bool := i.holdUntil > 0 && i.digestBatch = "" && i.live

/-- What one pass over the lanes folds together: the items that a query found, which of a lane's
items go into its batch, the id and the text of that batch. -/
structure Pass where
  column : Column
  query : Item → Bool
  pick : String → List Item → List Item
  mint : String → String
  text : String → List Item → String
  /-- a batch claims items of the query only, each once -/
  pick_sublist : ∀ lane items, (pick lane items).Sublist items
  /-- an item that was found has no batch in the column -/
  free : ∀ i, query i = true → i.batch column = ""
  mint_ne : ∀ lane, mint lane ≠ ""

namespace Store

/-- The items of one lane that a pass folds together. -/
def group (pass : Pass) (s : Store) (lane : String) : List Item :=
  pass.pick lane ((byID (s.items.rows.filter pass.query)).filter (·.lane = lane))

/-- A new batch, and the items that it claims; `none` when its id is taken. -/
def claim (pass : Pass) (lane : String) (items : List Item) (s : Store) : Option Store :=
  match s.batches.insertNew ⟨pass.mint lane, lane, pass.text lane items, false⟩ with
  | (_, false) => none
  | (batches, true) =>
    some { s with
      batches := batches
      items := s.items.updateWhere (fun i => i.id ∈ items.map (·.id))
        (fun i => i.setBatch (pass.mint lane) pass.column) (by simp) }

/-- The loop over the lanes. The items were read before it; a lane with nothing to fold is
skipped. -/
def runPass (pass : Pass) (s : Store) : Option Store :=
  (lanesOf (s.items.rows.filter pass.query)).foldlM (fun t lane =>
    if s.group pass lane = [] then some t else t.claim pass lane (s.group pass lane)) s

end Store

theorem append_ne_empty {a : String} (h : a ≠ "") (b : String) : a ++ b ≠ "" := by
  simp [h]

/-- The first pass of `makeBatches`. -/
def digestPass (mint : String → String) : Pass where
  column := .digest
  query := Item.digestible
  pick _ := digestWindow now
  mint lane := "quiet-digest-" ++ mint lane
  text lane items := digestText items.length lane
  pick_sublist _ := digestWindow_sublist now
  free i h := by
    simp only [Item.digestible, Bool.and_eq_true, decide_eq_true_eq] at h
    exact h.1.2
  mint_ne lane := append_ne_empty (by decide) _

/-- The second pass of `makeBatches`. -/
def escalationPass (mint : String → String) : Pass where
  column := .escalation
  query := Item.escalates now
  pick _ items := items
  mint lane := "quiet-digest-" ++ mint lane
  text lane items := escalationText items.length lane
  pick_sublist _ items := .refl items
  free i h := by
    simp only [Item.escalates, Bool.and_eq_true, decide_eq_true_eq] at h
    exact h.2
  mint_ne lane := append_ne_empty (by decide) _

/-- The pass of `makeHeldBatches`: a lane whose receiver works waits for the first item's hold. -/
def heldPass (now : String → ℤ) (working : String → Bool) (mint : String → String)
    (body : List Item → String) : Pass where
  column := .digest
  query := Item.held
  pick lane items :=
    if working lane && items.head?.any (fun first => unixMilli (now lane) < first.holdUntil) then []
    else items
  mint lane := "held-" ++ mint lane
  text _ items := heldBatchText body items
  pick_sublist lane items := by
    split
    · exact List.nil_sublist items
    · exact .refl items
  free i h := by
    simp only [Item.held, Bool.and_eq_true, decide_eq_true_eq] at h
    exact h.1.2
  mint_ne lane := append_ne_empty (by decide) _

namespace Store

/-- `makeBatches`, which is rolled back when one of its inserts fails. -/
def makeBatches (mint mint' : String → String) (s : Store) : Store :=
  (((s.runPass (digestPass now mint)).bind (·.runPass (escalationPass now mint'))).getD s)

/-- `makeHeldBatches` -/
def makeHeldBatches (now : String → ℤ) (working : String → Bool) (mint : String → String)
    (body : List Item → String) (s : Store) : Store :=
  (s.runPass (heldPass now working mint body)).getD s

/-- `releaseBatchClaims` -/
def releaseBatchClaims (id : String) (s : Store) : Store :=
  (s.updateItems (fun i => i.digestBatch = id && i.live) (·.setBatch "" .digest)
    (by simp)).updateItems (fun i => i.escalationBatch = id && i.readAt = 0 && i.live)
    (·.setBatch "" .escalation) (by simp)

/-- `markBatchSent` -/
def markBatchSent (id : String) (s : Store) : Store :=
  { s with
    batches := s.batches.updateWhere (·.id = id) (fun b => { b with sent := true }) fun _ => rfl }

/-- The last statement of `prepareHeldBatch`. -/
def setBatchText (id text : String) (s : Store) : Store :=
  { s with
    batches := s.batches.updateWhere (·.id = id) (fun b => { b with text := text }) fun _ => rfl }

/-! ## Preparation -/

/-- The statement that `prepareInbox` runs for a lane: for the inbox class only, or for all. -/
def quiet (lane : String) (inboxOnly : Bool) (s : Store) : Store :=
  s.updateItems (fun i => i.lane = lane && (!inboxOnly || i.cls = .inbox))
    (fun i => { i with dueAt := 0, digestAt := 0 }) fun _ => rfl

/-- `quarantineBatch` -/
def quarantineBatch (id reason : String) (s : Store) : Store :=
  { s with quarantine := (s.quarantine.insertNew ⟨id, reason⟩).1 }

/-- A batch that was quarantined before it was sent, and not for an external scheduler. -/
def stuck (s : Store) (id : String) : Bool :=
  s.quarantine.rows.any (fun q =>
      q.batchID = id && q.reason ≠ "external scheduler owns lane digest") &&
    s.batches.rows.any fun b => b.id = id && !b.sent

/-- `unclaimedUnread` -/
def unclaimedUnread (s : Store) : List Item :=
  s.items.rows.filter fun i => i.cls = .inbox && i.readAt = 0 && i.live &&
    (i.escalationBatch = "" || s.stuck i.escalationBatch)

/-- `recoverMustAct`: the items that the policy picks become due. The updates are chunked and not in
one transaction, so a fault may leave the rest of the items alone. -/
def recoverMustAct (mustAct : Item → Bool) (chunk : ℕ) (s : Store) : Store :=
  let ids := ((s.unclaimedUnread.filter mustAct).map (·.id)).take chunk
  s.updateItems (fun i => i.id ∈ ids)
    (fun i => { i with
      dueAt := 1
      escalationBatch := if s.stuck i.escalationBatch then "" else i.escalationBatch })
    fun _ => rfl

/-! ## Retention -/

/-- `ROW_NUMBER()` of an item in its lane, newest first. -/
def position (s : Store) (i : Item) : ℕ :=
  1 + (s.items.rows.filter fun j => j.lane = i.lane &&
    (j.createdAt > i.createdAt || (j.createdAt = i.createdAt && j.id > i.id))).length

/-- `relayReplayMaxAge`, a day -/
def relayReplayMaxAge : ℤ := 24 * 3600 * 1000000000

/-- The condition of the `DELETE` in `prune`. -/
def prunable (days : ℤ) (perLane : ℕ) (s : Store) (i : Item) : Bool :=
  let recent := unixMilli (now - relayReplayMaxAge)
  (i.createdAt < unixMilli (now - days * relayReplayMaxAge) || s.position i > perLane) &&
    i.terminal && !i.unread &&
    (i.createdAt < recent && i.readAt < recent && i.ackedAt < recent && i.deliveredAt < recent &&
      i.supersededAt < recent) &&
    !(i.live && ((i.holdUntil > 0 && i.digestBatch = "") ||
      (i.digestAt > 0 && i.digestBatch = ""))) &&
    !s.batches.rows.any fun b => !b.sent && (b.id = i.digestBatch || b.id = i.escalationBatch)

/-- `prune` -/
def prune (days : ℤ) (perLane : ℕ) (s : Store) : Store :=
  let floor :=
    match s.dialect with
    | .sqlite => max s.floor s.maxID
    | .postgres => s.floor
  { s with floor := floor, items := s.items.deleteWhere (s.prunable now days perLane) }

end Store

/-! ## Statements and runs -/

/-- A write to the inbox. -/
inductive Op where
  | put (p : Put) (now : ℤ)
  /-- an insert that was rolled back -/
  | aborted
  | read (id : ℕ) (lane : String) (now : ℤ)
  | ack (id : ℕ) (lane : String) (all : Bool) (now : ℤ)
  | deliver (key : String) (now : ℤ)
  | batches (now : ℤ) (mint mint' : String → String)
  | heldBatches (now : String → ℤ) (working : String → Bool) (mint : String → String)
      (body : List Item → String)
  | release (id : String)
  | sent (id : String)
  | setText (id text : String)
  | quiet (lane : String) (inboxOnly : Bool)
  | quarantine (id reason : String)
  | recover (mustAct : Item → Bool) (chunk : ℕ)
  | prune (now days : ℤ) (perLane : ℕ)

def Store.perform (s : Store) : Op → Store
  | .put p now => (s.putFrom p now).2
  | .aborted => s.takeID
  | .read id lane now => s.read id lane now
  | .ack id lane all now => s.ack id lane all now
  | .deliver key now => s.recordDelivery key now
  | .batches now mint mint' => s.makeBatches now mint mint'
  | .heldBatches now working mint body => s.makeHeldBatches now working mint body
  | .release id => s.releaseBatchClaims id
  | .sent id => s.markBatchSent id
  | .setText id text => s.setBatchText id text
  | .quiet lane inboxOnly => s.quiet lane inboxOnly
  | .quarantine id reason => s.quarantineBatch id reason
  | .recover mustAct chunk => s.recoverMustAct mustAct chunk
  | .prune now days perLane => s.prune now days perLane

/-- An interrupt that was stored with a digest time or a hold time: nothing else delivers it. -/
def Item.handled (i : Item) : Bool := i.cls = .interrupt && (i.digestAt > 0 || i.holdUntil > 0)

/-- The rows that a statement added. -/
def newItems (s t : Store) : List Item :=
  t.items.rows.filter fun i => (s.items.find i.id).isNone

/-- A store, and what its statements did so far. -/
structure Trace where
  store : Store
  /-- the ids of all rows that were ever added, oldest first -/
  issued : List ℕ := []
  /-- those of them that were `handled` when they were added -/
  handled : List ℕ := []
  /-- those that were acknowledged or superseded at some time -/
  settled : List ℕ := []

def Trace.after (t : Trace) (op : Op) : Trace where
  store := t.store.perform op
  issued := t.issued ++ (newItems t.store (t.store.perform op)).map (·.id)
  handled := t.handled ++
    ((newItems t.store (t.store.perform op)).filter (·.handled)).map (·.id)
  settled := t.settled ++
    ((t.store.perform op).items.rows.filter fun i => !i.live).map (·.id)

/-- The runs from an empty store whose statements all meet a condition. -/
inductive Runs (ok : Store → Op → Prop) (dialect : Dialect) : Trace → Prop where
  | empty : Runs ok dialect { store := .empty dialect }
  | step {t : Trace} (op : Op) : Runs ok dialect t → ok t.store op → Runs ok dialect (t.after op)

/-- Every sequence of statements. -/
abbrev Reachable : Dialect → Trace → Prop := Runs fun _ _ => True

end Panewire.Inbox
