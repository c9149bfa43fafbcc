import Panewire.Relay.Node

/-!
# The busy manager

The procedures of the node's relay: a directive arrives (`offer`), is typed at once (`deliver`) or
held (`hold`); a goroutine per pane waits for the pane to be free (`waitForPane`) and releases what
is held (`release`, `releaseWorking`); an operator may edit or cancel a held row; and after a
restart the held rows are remembered and armed again (`restore`, `resume`).

A failed inject holds its row again, and a hold whose insert fails delivers at once, so `deliver`
and `hold` call each other. Every round through the two costs an attempt of the row, which has
`relayMaxInjectAttempts` of them; `deliver` is given that many rounds.
-/

namespace Panewire.Relay

open Data Conc

/-- A command of the manager. -/
abbrev Act (α : Type) : Type := Cmd Node Answer Label Proc α

/-- A section under the manager's lock. -/
def underLock {α : Type} (l : Label) (f : Node → Answer → Node × α) : Act α :=
  Cmd.actWhen l (fun s _ => !s.locked) f

/-- A store call; `none` when it fails, and then nothing changed. -/
def storeCall {α : Type} (l : Label) (f : Node → Answer → Node × α) : Act (Option α) :=
  Cmd.act l fun s e => if e.storeErr then (s, none) else ((f s e).1, some (f s e).2)

/-- A question to herdr, the clock or the file system. -/
def ask {α : Type} (f : Answer → α) : Act α := Cmd.act .other fun s e => (s, f e)

def emit (x : Emit) : Act Unit :=
  Cmd.act .other fun s _ => ({ s with emitted := s.emitted ++ [x] }, ())

def deleteHeld (id : ℕ) : Act Unit := do
  let _ ← storeCall .store fun s _ => s.deleteRelayHeld id
  return ()

/-- `journalDedupe`; a journal that fails is visibility lost, nothing else. -/
def journalDedupe (action lane : String) (id : ℕ) (pane : String) : Act Unit := do
  let _ ← storeCall .store fun s _ =>
    ({ s with journal := s.journal ++ [⟨action, lane, id, pane⟩] }, ())
  return ()

/-- The report of a held row. -/
def Held.report (reason : String) (item : Held) : Emit :=
  .held item.eventID item.jobID item.pane item.lane reason (Go.prefixWithin item.text 240)
    item.heldSince item.deliverPolicy

def reportHeld (item : Held) (reason : String) : Act Unit := emit (item.report reason)

def arm (detached : Bool) (pane : String) : Act Unit := do
  match ← underLock .other fun s e => s.arm e.now pane with
  | none => return ()
  | some (wait, waitFor, directiveHeld) =>
    Cmd.go (.waitForPane wait detached pane waitFor directiveHeld)

/-- `laneRerouted`: the row's lane was since seen on another pane. -/
def laneRerouted (item : Held) : Act Bool :=
  underLock .other fun s _ => (s, match Assoc.get s.lanePane item.lane with
    | some pane => pane ≠ item.pane
    | none => false)

/-- End a stale lease: delete the row and say why. -/
def expireHeldLease (item : Held) (reason harness : String) : Act Unit := do
  deleteHeld item.eventID
  emit (.dropped item.eventID item.jobID item.pane item.lane reason harness)

/-! ## Hold, retry and deliver -/

section Deliver

-- what a hold does when its insert fails: deliver the row at once
variable (fallback : Held → Act Unit)

/-- The first half of `hold`: insert the row and keep the lock. -/
def beginHold (item : Held) : Act (Option Bool) :=
  Cmd.actWhen .store (fun s _ => !s.locked) fun s e =>
    if e.storeErr then (s, none)
    else
      let r := s.insertRelayHeld item
      ({ r.1 with locked := true }, some r.2)

/-- The second half: read the pane's rows and release the lock; whether the read worked. -/
def endHold (item : Held) (inserted : Bool) : Act Bool :=
  Cmd.act .store fun s e =>
    if e.storeErr then ({ s with locked := false }, false)
    else ({ s.rememberHeld item inserted with locked := false }, true)

/-- `hold` -/
def holdWith (detached : Bool) (item : Held) (reason : String) : Act Unit :=
  if item.pane = relayCancelledPane then pure ()
  else do
    match ← beginHold item with
    | none => fallback item
    | some inserted =>
      let read ← endHold item inserted
      if !inserted then
        Cmd.when read (arm detached item.pane)
        reportHeld item reason
      else if !read then return ()
      else
        reportHeld item reason
        arm detached item.pane

/-- `retryOrDropWithin`: hold the row again, or drop it when its attempts are used up. -/
def retryOrDropWithin (item : Held) (maxAttempts : ℕ) (harness : String) : Act Unit :=
  if item.eventID = 0 ∨ item.lane = "" then pure ()
  else do
    deleteHeld item.eventID
    if maxAttempts ≤ item.attempts + 1 then
      emit (.dropped item.eventID item.jobID item.pane item.lane "inject_failed_max_attempts"
        harness)
    else
      let now ← ask (·.now)
      holdWith fallback true
        { item with attempts := item.attempts + 1, heldSince := now } "retry"

/-- `stopWithoutRetry`: the text may be in the pane, so the row goes. -/
def stopWithoutRetry (item : Held) (harness : String) : Act Unit :=
  if item.eventID = 0 ∨ item.lane = "" then pure ()
  else do
    deleteHeld item.eventID
    emit (.dropped item.eventID item.jobID item.pane item.lane "maybe_in_pane" harness)

/-- Type a text into the group's pane. -/
def inject (group : List Held) (text : String) : Act InjectResult :=
  Cmd.act .inject fun s e =>
    ({ s with hist := .injected ((group.map (·.pane)).headD "") group text e.verdict :: s.hist },
      e.verdict)

/-- An inject, and for worker directives one more when the first showed nothing. -/
def injectGroup (group : List Held) (text : String) : Act InjectResult := do
  let result ← inject group text
  if relayGroupImmediate group && relayRetriesOnce result then inject group text
  else return result

/-- The attempts a group may use up. -/
def maxAttemptsFor (group : List Held) (harness : String) : ℕ :=
  if relayGroupImmediate group then 1
  else match relayAdapterFor harness with
    | some adapter => adapter.injectAttempts
    | none => relayMaxInjectAttempts

/-- Record, delete and acknowledge one row that landed. -/
def recordLanded (fingerprint : String → String) (now : ℤ) (reason : String) (item : Held) :
    Act Unit := do
  Cmd.when (item.eventID ≠ 0) do
    let d : Delivered :=
      ⟨item.lane, item.eventID, item.pane, fingerprint item.text, now / millisecond⟩
    Cmd.when (item.lane ≠ "") do
      let _ ← storeCall (.recordDelivered d) fun s _ => (s.recordRelayDelivered d, ())
      return ()
    deleteHeld item.eventID
  emit (.released item.eventID item.jobID item.pane item.lane item.text item.edited)
  emit (.delivered item.eventID item.jobID item.pane (relayAckReason reason) item.text item.edited)

/-- What follows an inject, by its outcome. -/
def settle (fingerprint : String → String) (now : ℤ) (group : List Held) (result : InjectResult) :
    Act Unit :=
  match result.outcome with
  | .retryable =>
    Cmd.forEach group fun item => do
      emit (.unconfirmed item.eventID item.jobID item.pane (relayAckReason result.evidence))
      retryOrDropWithin fallback item (maxAttemptsFor group result.harness) result.harness
  | .maybeInPane =>
    Cmd.forEach group fun item => do
      emit (.unconfirmed item.eventID item.jobID item.pane
        (relayAckReason ("maybe_in_pane " ++ result.evidence)))
      stopWithoutRetry item result.harness
  | _ => do
    let reason := if result.outcome = .queued then "queued " ++ result.evidence
      else result.evidence
    Cmd.forEach (group.filter fun item => !result.proves item) fun item => do
      emit (.unconfirmed item.eventID item.jobID item.pane
        (relayAckReason ("maybe_in_pane nonce_missing " ++ result.evidence)))
      stopWithoutRetry item result.harness
    let landed := group.filter result.proves
    Cmd.when (1 < landed.length) <|
      emit (.batched ((landed.map (·.pane)).headD "") ((landed.map (·.lane)).headD "")
        (landed.map (·.eventID)))
    Cmd.forEach landed (recordLanded fingerprint now reason)

/-- The members of a group whose lane is still on the pane; the others are expired. -/
def dropRerouted (group : List Held) : Act (List Held) :=
  Cmd.foldEach group [] fun live item => do
    if ← laneRerouted item then
      expireHeldLease item "lane_rerouted" ""
      return live
    else return live ++ [item]

def deliverGroup (fingerprint : String → String) (expired : Bool) (now : ℤ) (group : List Held) :
    Act Unit := do
  let live ← dropRerouted group
  Cmd.when (!live.isEmpty) do
    let result ← injectGroup live (relayBatchText live expired now)
    settle fallback fingerprint now live result

/-- `deliver` -/
def deliverWith (fingerprint : String → String) (items : List Held) (expired : Bool) : Act Unit :=
  Cmd.when (!items.isEmpty && (items.map (·.pane)).headD "" ≠ relayCancelledPane) do
    let now ← ask (·.now)
    Cmd.forEach (relayBatchGroups (byRecvSeq items) expired now)
      (deliverGroup fallback fingerprint expired now)

end Deliver

section Manager

variable (cfg : Config)

/-- `deliver` with a number of rounds through a failing hold. -/
def deliverRounds : ℕ → List Held → Bool → Act Unit
  | 0, _, _ => pure ()
  | n + 1, items, expired =>
    deliverWith (fun item => deliverRounds n [item] false) cfg.fingerprint items expired

def deliver (items : List Held) (expired : Bool) : Act Unit :=
  deliverRounds cfg (relayMaxInjectAttempts + 1) items expired

def hold (detached : Bool) (item : Held) (reason : String) : Act Unit :=
  holdWith (fun item => deliver cfg [item] false) detached item reason

/-- `retryOrDrop` -/
def retryOrDrop (item : Held) (harness : String) : Act Unit :=
  retryOrDropWithin (fun item => deliver cfg [item] false) item relayMaxInjectAttempts harness

/-! ## Releases -/

/-- `keepWorkingCmdHold`: move the deadline of a row whose pane is still working, up to the
ceiling; `false` when the ceiling has passed. -/
def keepWorkingCmdHold (item : Held) : Act Bool := do
  let now ← ask (·.now)
  let ceiling := item.heldSince + cfg.cmdHoldMax
  if ceiling ≤ now then return false
  else
    let next := min (now + defaultRelayMaxWait) ceiling
    underLock .other fun s _ =>
      let until_ := max ((Assoc.get s.cmdHoldUntil item.eventID).getD next) next
      ({ s with cmdHoldUntil :=
          (Assoc.put s.cmdHoldUntil item.eventID until_).filter fun e => now ≤ e.2 }, ())
    Cmd.when (item.heldSince + item.maxWait < next) do
      let _ ← storeCall .store fun s _ =>
        (s.extendRelayHeldMaxWait item.eventID (next - item.heldSince), ())
      return ()
    return true

/-- What the read of a pane tells a release. -/
structure PaneProbe where
  /-- nothing can be said about the pane -/
  unverifiable : Bool
  /-- the agent on the pane, `none` when herdr says there is none -/
  occupant : Option Occupant
  harness : String
  workingUnprovable : Bool

/-- Read a reply about `pane`; one that answers for another pane is no evidence. -/
def probe (pane : String) (r : AgentReply) : PaneProbe :=
  if r.err then ⟨!r.notFound, none, "", false⟩
  else match r.occupant with
    | some o =>
      if o.pane = "" ∨ o.pane = pane then ⟨false, some o, r.harness, r.workingUnprovable⟩
      else ⟨true, none, "", false⟩
    | none => ⟨true, none, "", false⟩

/-- Ask whether the job of a row on a pane that cannot be typed into while working has ended. -/
def relayLaneJobEnded (harness : String) : Act Bool :=
  if relayHarnessWorkingUnprovable harness then ask (·.jobEnded) else pure false

/-- The disposition of one row of a release: kept for delivery (`true`) or dealt with. -/
def judgeHeld (p : PaneProbe) (expired : Bool) (item : Held) : Act Bool := do
  if p.unverifiable then
    retryOrDrop cfg item p.harness
    return false
  else match relayHeldLeaseStale item p.occupant with
    | some reason =>
      expireHeldLease item reason p.harness
      return false
    | none =>
      if ← relayLaneJobEnded p.harness then
        expireHeldLease item "job_ended" p.harness
        return false
      else if p.workingUnprovable then
        if !expired then return false
        else if ← keepWorkingCmdHold cfg item then return false
        else
          emit (.unconfirmed item.eventID item.jobID item.pane "working_wait_expired")
          expireHeldLease item "working_wait_expired" p.harness
          return false
      else return true

/-- `filterDeliverableHeld`: the rows to type, and the harness of their pane. -/
def filterDeliverableHeld (items : List Held) (expired : Bool) : Act (List Held × String) := do
  let survivors ← dropRerouted items
  match survivors with
  | [] => return ([], "")
  | first :: _ =>
    let reply ← ask (·.reply)
    let p := probe first.pane reply
    let keep ← Cmd.foldEach survivors [] fun keep item => do
      if ← judgeHeld cfg p expired item then return keep ++ [item] else return keep
    return (keep, p.harness)

/-- `paneIdleOrDone` -/
def paneIdleOrDone : Act Bool :=
  ask fun e => !e.reply.err && (e.reply.status == some .idle || e.reply.status == some .done)

/-- One row per inject, as long as the pane is free before each. -/
def deliverOneByOne (expired : Bool) : List Held → Act Unit
  | [] => pure ()
  | item :: items => do
    deliver cfg [item] expired
    match items with
    | [] => return ()
    | next :: rest =>
      let free ← paneIdleOrDone
      Cmd.when free (deliverOneByOne expired (next :: rest))

def deliverReleased (items : List Held) (expired : Bool) : Act Unit := do
  let (keep, harness) ← filterDeliverableHeld cfg items expired
  if !harnessPaneTransport harness || keep.length < 2 then deliver cfg keep expired
  else deliverOneByOne cfg expired (byRecvSeq keep)

def finishInflight (items : List Held) : Act Unit :=
  underLock .other fun s _ => (s.finishInflight items, ())

def reconcileHeld (pane : String) : Act Unit :=
  underLock .store fun s e => (if e.storeErr then s else s.reconcileHeld pane, ())

/-- `release` -/
def release (pane : String) (expired : Bool) : Act Unit := do
  let items ← underLock .store fun s e =>
    if e.storeErr || (s.heldSnapshot pane).isEmpty then (s, [])
    else (s.takeInflight pane (s.heldSnapshot pane) none, s.heldSnapshot pane)
  Cmd.when (!items.isEmpty) do
    deliverReleased cfg items expired
    finishInflight items
    reconcileHeld pane
    let rearm ← underLock .other fun s _ => (s, !(s.heldOf pane).isEmpty)
    Cmd.when rearm (arm true pane)

/-- What a wake on a working pane decides. -/
inductive WorkingWake where
  /-- the store could not be read: wait again shortly -/
  | retry
  /-- nothing is held -/
  | nothing
  /-- no directive is held: wait again -/
  | wait
  /-- deliver these rows -/
  | deliver (items : List Held) (expired : Bool)

/-- The locked part of `releaseWorking`. -/
def Node.wakeWorking (s : Node) (pane : String) (expired : Bool) : Node × WorkingWake :=
  let items := s.heldSnapshot pane
  let directives := items.filter fun h => h.deliverPolicy = relayDeliverDirective
  if items.isEmpty then (s, .nothing)
  else if directives.length = items.length || expired then
    (s.takeInflight pane items none, .deliver items expired)
  else if directives.isEmpty then (s, .wait)
  else
    (s.takeInflight pane directives
      (some ((s.heldOf pane).filter fun h => h.eventID ∉ directives.map (·.eventID))),
      .deliver directives false)

/-- `releaseWorking` -/
def releaseWorking (pane : String) (expired : Bool) : Act Unit := do
  match ← underLock .store fun s e =>
      if e.storeErr then (s, .retry) else s.wakeWorking pane expired with
  | .retry => Cmd.go (.rearm pane)
  | .nothing => return ()
  | .wait => arm true pane
  | .deliver items expired =>
    deliverReleased cfg items expired
    finishInflight items
    reconcileHeld pane
    arm true pane

/-- Ask whether a wait may also end on a working pane. -/
def waitUntilWorking (directiveHeld : Bool) : Act Bool :=
  if directiveHeld then
    ask fun e => !(e.reply.err || relayHarnessWorkingUnprovable e.reply.harness)
  else pure false

def waitForPane (wait : ℕ) (detached : Bool) (pane : String) (directiveHeld : Bool) :
    Act Unit := do
  -- the answer only shapes the arguments of the wait
  let _ ← waitUntilWorking directiveHeld
  let (reply, cancelled) ← Cmd.act .other fun s e =>
    (s, (e.reply, (!detached && e.connDone) || wait ∈ s.ended))
  Cmd.when (!cancelled) <|
    if reply.status = some .working then releaseWorking cfg pane (reply.err && reply.timedOut)
    else release cfg pane (reply.err && reply.timedOut)

/-! ## Offers -/

variable (m : Directive)

/-- The row a directive becomes. -/
def Directive.held (seq : ℕ) (policy : DeliveryPolicy) (now : ℤ) : Held where
  pane := m.pane
  lane := m.lane
  eventID := m.eventID
  jobID := m.jobID
  text := m.text
  heldSince := now
  deliverPolicy := policy.name
  recvSeq := seq

/-- `relayDeliveredIdentity`: whether the offer must stop, being a repeat of a delivery. -/
def relayDeliveredIdentity : Act Bool := do
  match ← storeCall .store fun s _ => (s, s.delivered.find (m.lane, m.eventID)) with
  | some (some previous) =>
    if previous.pane ≠ m.pane ∨ previous.payloadSHA ≠ cfg.fingerprint m.text then
      journalDedupe "mismatch" m.lane m.eventID m.pane
      return false
    else if cfg.mode ≠ .apply then
      journalDedupe "would_suppress" m.lane m.eventID m.pane
      return false
    else
      journalDedupe "suppressed" m.lane m.eventID m.pane
      emit (.delivered m.eventID m.jobID m.pane "dedupe_suppressed" "" false)
      deleteHeld m.eventID
      return true
  | _ => return false

/-- `recoverExisting`: the queued row is the same delivery; report and arm it. -/
def recoverExisting (item : Held) : Act Unit :=
  if item.pane = relayCancelledPane then pure ()
  else do
    match ← storeCall .store fun s _ => (s, s.relayHeldForPane item.pane) with
    | none => return ()
    | some rows =>
      underLock .other fun s _ => ({ s with held := Assoc.put s.held item.pane rows }, ())
      reportHeld item "restored"
      arm false item.pane

/-- The pane may be typed into now: it is free, unreadable, or takes this directive at work. -/
def deliverableNow (policy : DeliveryPolicy) (r : AgentReply) : Bool :=
  r.err || match r.status with
    | none => true
    | some .unknown => true
    | some .idle => true
    | some .done => true
    | some status =>
      policy.name == relayDeliverDirective && status != .blocked && !r.workingUnprovable

def AgentStatus.text : AgentStatus → String
  | .idle => "idle"
  | .working => "working"
  | .blocked => "blocked"
  | .done => "done"
  | .unknown => "unknown"

/-- Deliver the directive, or hold it until its pane is free. -/
def dispatch (seq : ℕ) : Act Unit := do
  let policy := (parseRelayDeliveryPolicy m.deliverPolicy).getD ⟨"idle", defaultRelayMaxWait⟩
  if policy.name = "now" ∨ m.eventID = 0 ∨ m.lane = "" then
    let now ← ask (·.now)
    deliver cfg [m.held seq policy now] false
  else
    let (reply, now) ← ask fun e => (e.reply, e.now)
    if deliverableNow policy reply then deliver cfg [m.held seq policy now] false
    else
      let maxWait := if reply.workingUnprovable then min policy.maxWait cfg.cmdHoldMax
        else policy.maxWait
      let lease := match reply.occupant with
        | some o => if o.pane = m.pane then o.key else ""
        | none => ""
      hold cfg false
        { m.held seq policy now with maxWait := maxWait, fresh := true, lease := lease }
        ((reply.status.map AgentStatus.text).getD "")

/-- An identified directive past the delivered record: fold it into its queued row, retire a row
that is queued for another pane, or dispatch it. -/
def offerIdentified (seq : ℕ) : Act Unit := do
  match ← storeCall (.readHeld m.lane m.eventID) fun s _ =>
      (s, s.rows.find (m.lane, m.eventID)) with
  | some (some existing) =>
    if cfg.mode ≠ .off ∧ m.pane ≠ "" ∧ existing.pane ≠ relayCancelledPane ∧
        existing.pane ≠ m.pane then
      journalDedupe "mismatch" m.lane m.eventID m.pane
      expireHeldLease existing "lane_rerouted" ""
      underLock .other fun s _ => (s.pruneHeld existing.pane existing.eventID, ())
      arm false existing.pane
      dispatch cfg m seq
    else
      -- the queued row's text wins
      Cmd.when (cfg.mode ≠ .off && existing.text ≠ m.text)
        (journalDedupe "mismatch" m.lane m.eventID m.pane)
      recoverExisting existing
  | _ => dispatch cfg m seq

/-- Wait for the claim of the event, or for the end of the connection. -/
def claimDedupeInFlight : Act Bool :=
  Cmd.actWhen .other
    (fun s e => !s.locked && ((m.lane, m.eventID) ∉ s.claims || e.connDone))
    fun s _ =>
      if (m.lane, m.eventID) ∈ s.claims then (s, false)
      else ({ s with claims := (m.lane, m.eventID) :: s.claims }, true)

def releaseDedupeInFlight : Act Unit :=
  underLock .other fun s _ =>
    ({ s with claims := s.claims.filter fun k => k ≠ (m.lane, m.eventID) }, ())

def noteLaneRoute (lane pane : String) : Act Unit :=
  underLock .other fun s _ => ({ s with lanePane := Assoc.put s.lanePane lane pane }, ())

/-- `offer`, with its arrival number. -/
def offerFrom (seq : ℕ) : Act Unit :=
  if m.pane = relayCancelledPane then pure ()
  else do
    Cmd.when (m.lane ≠ "") (noteLaneRoute m.lane m.pane)
    if cfg.mode = .off then
      if m.identified then offerIdentified cfg m seq else dispatch cfg m seq
    else if !m.identified then
      journalDedupe "unknown" m.lane m.eventID m.pane
      dispatch cfg m seq
    else
      let owned ← claimDedupeInFlight m
      Cmd.when owned do
        let stop ← relayDeliveredIdentity cfg m
        Cmd.when (!stop) (offerIdentified cfg m seq)
        releaseDedupeInFlight m

/-- A directive arrives and is handled on a goroutine of its own. -/
def offer : Act Unit := do
  let seq ← Cmd.act (.offer m) fun s _ =>
    ({ s with
        recvSeq := s.recvSeq + 1
        offering := m.eventID :: s.offering
        hist := .offered m :: s.hist }, s.recvSeq + 1)
  offerFrom cfg m seq
  Cmd.act .other fun s _ => ({ s with offering := s.offering.erase m.eventID }, ())

/-! ## Operator control and restarts -/

def edit (id : ℕ) (text : String) : Act Unit :=
  Cmd.when (text ≠ "" && 1 ≤ id) <|
    underLock (.edit id) fun s e => (if e.storeErr then s else (s.edit id text).1, ())

def cancel (id : ℕ) : Act Unit :=
  Cmd.when (1 ≤ id) do
    match ← underLock (.cancel id) fun s e =>
        if e.storeErr then (s, none) else s.cancel id with
    | none => return ()
    | some panes =>
      Cmd.forEach panes (arm false)
      emit (.cancelled id)

/-- Group rows by pane. -/
def groupByPane (items : List Held) : List (String × List Held) :=
  items.foldl (fun m h => Assoc.put m h.pane ((Assoc.get m h.pane).getD [] ++ [h])) []

def restore : Act Unit := do
  match ← storeCall .store fun s _ => (s, s.relayHeldAll) with
  | none => return ()
  | some items =>
    Cmd.forEach (items.filter fun h => h.pane = relayCancelledPane) fun h => deleteHeld h.eventID
    let rows := items.filter fun h => h.pane ≠ relayCancelledPane
    Cmd.act .other fun s _ =>
      ({ s with recvSeq := max s.recvSeq ((rows.map (·.recvSeq)).foldl max 0) }, ())
    underLock .other fun s _ =>
      ({ s with held := groupByPane rows, dedupeRestorePending := true }, ())

/-- One row of `reconcileDeliveredHeld`: whether it was retired as delivered. -/
def retireDelivered (item : Held) : Act Bool :=
  if item.lane = "" ∨ item.eventID = 0 then pure false
  else do
    match ← storeCall .store fun s _ => (s, s.delivered.find item.key) with
    | some (some previous) =>
      if previous.pane ≠ item.pane ∨ previous.payloadSHA ≠ cfg.fingerprint item.text then
        journalDedupe "mismatch" item.lane item.eventID item.pane
        return false
      else if cfg.mode ≠ .apply then
        journalDedupe "would_suppress_restore" item.lane item.eventID item.pane
        return false
      else
        journalDedupe "suppressed_restore" item.lane item.eventID item.pane
        deleteHeld item.eventID
        emit (.released item.eventID item.jobID item.pane item.lane item.text item.edited)
        emit (.delivered item.eventID item.jobID item.pane "dedupe_suppressed" "" false)
        return true
    | _ => return false

/-- `reconcileDeliveredHeld`: once after a restore, retire restored rows that were delivered. -/
def reconcileDeliveredHeld : Act Unit := do
  let items ← underLock .other fun s _ =>
    if s.dedupeRestorePending then
      ({ s with dedupeRestorePending := false }, (s.held.map (·.2)).flatten)
    else (s, [])
  Cmd.when (cfg.mode ≠ .off && !items.isEmpty) do
    let doomed ← Cmd.foldEach items [] fun doomed item => do
      if ← retireDelivered cfg item then return item.eventID :: doomed else return doomed
    Cmd.when (!doomed.isEmpty) <|
      underLock .other fun s _ =>
        ({ s with held := s.held.map fun e => (e.1, e.2.filter fun h => h.eventID ∉ doomed) }, ())

/-- `resume` reports the remembered rows under the lock, then arms their panes. -/
def resume : Act Unit := do
  reconcileDeliveredHeld cfg
  let panes ← underLock .other fun s _ =>
    ({ s with emitted := s.emitted ++ (s.held.map (·.2)).flatten.map (Held.report "restored") },
      s.held.map (·.1))
  Cmd.forEach panes (arm false)

/-- The programs of the node's procedures. -/
def body : Proc → Prog Node Answer Label Proc
  | .offer m => (offer cfg m).prog
  | .edit id text => (edit id text).prog
  | .cancel id => (cancel id).prog
  | .restore => restore.prog
  | .resume => (resume cfg).prog
  | .waitForPane wait detached pane _ directiveHeld =>
    (waitForPane cfg wait detached pane directiveHeld).prog
  | .rearm pane => (arm true pane).prog

end Manager

end Panewire.Relay
