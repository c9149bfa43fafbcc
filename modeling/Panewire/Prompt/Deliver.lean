import Panewire.Conc.Prog
import Panewire.Harness
import Panewire.Prompt.File

/-!
# The prompt command

`prompt` types the text of a file into a pane at most once per **delivery id**, the digest of
sender, target, path, text and uptake mode. It reads the delivery table, deletes an earlier
preflight failure, checks the recipient, inserts its own record and only then types. Every store
call and every herdr call is one step; other calls of the same daemon and of other processes run
between them.

* `World` — the delivery table, and the log of texts handed to herdr;
* `Answer` — what the outside returns to a step: the clock, herdr's replies, faults;
* `prompt`, `recordUnavailablePrompt` — the two procedures the daemon runs for a request.
-/

namespace Panewire.Prompt

open Conc

structure Request where
  sender : String
  target : String
  path : String
  uptake : String := ""
  storePromptBody : Bool := false
  /-- a message the worker needs: a working target is neither refused nor waited for -/
  directive : Bool := false
  deriving DecidableEq

/-- The herdr capabilities a prompt uses. -/
structure Caps where
  prompt : Bool := true
  agentRead : Bool := true
  events : Bool := true
  deriving DecidableEq

/-- A row of `deliveries`. -/
structure Delivery where
  deliveryID : String
  sender : String := ""
  targetInput : String := ""
  resolvedPaneID : String := ""
  resolvedWorkspaceID : String := ""
  sourcePath : String := ""
  promptSHA256 : String := ""
  bodyStored : Bool := false
  /-- milliseconds -/
  requestedAtMS : ℤ := 0
  /-- `0` while the call is still running -/
  completedAtMS : ℤ := 0
  preflightRevision : ℤ := 0
  sendRevision : ℤ := 0
  preflightReadSHA256 : String := ""
  preflightResult : String := ""
  /-- empty until the text was handed to herdr -/
  herdrAcceptance : String := ""
  submissionResult : String := ""
  submissionEvidence : String := ""
  uptakeMode : String := ""
  uptakeResult : String := ""
  evidenceRevision : ℤ := 0
  errorCode : String := ""
  errorDetail : String := ""
  deriving DecidableEq

structure PromptResult where
  deliveryID : String := ""
  preflightResult : String := ""
  submissionResult : String := ""
  uptakeResult : String := ""
  preflightRevision : ℤ := 0
  sendRevision : ℤ := 0
  evidenceRevision : ℤ := 0
  cached : Bool := false
  deriving DecidableEq

/-- What a call returns: its result and, when it failed, the error. -/
abbrev Reply : Type := PromptResult × Option CodedError

/-- A text handed to herdr. -/
structure Sent where
  deliveryID : String
  method : String
  target : String
  text : String
  deriving DecidableEq

/-- The shared state. -/
structure World where
  /-- the table `deliveries`, by its primary key -/
  deliveries : String → Option Delivery
  /-- the table `delivery_bodies`, by its primary key -/
  bodies : String → Option String
  /-- every text handed to herdr, oldest first -/
  sent : List Sent
  /-- what every finished call returned -/
  replies : List Reply

/-- One read of a pane. -/
structure ReadEvidence where
  text : String := ""
  revision : ℤ := 0
  source : String := ""
  rule : String := ""
  deriving DecidableEq

/-- How waiting for a working status ended. -/
inductive StatusWait where
  /-- the stream closed -/
  | closed
  /-- the pane was reported working -/
  | working (revision : ℤ)
  /-- the call's time was up -/
  | done
  deriving DecidableEq

/-- The answer of the outside to one step. -/
structure Answer where
  /-- `time.Now().UnixMilli()` -/
  now : ℤ := 1
  /-- the call's context is done -/
  ctxErr : Bool := false
  /-- the store call fails -/
  storeErr : Option String := none
  /-- the prompt file -/
  file : Except String String := .ok ""
  /-- `agent.list`: the call failed, the reply is not readable, or the agents -/
  agents : Except String (Option (List PaneIdentity)) := .ok (some [])
  /-- `tab.list`, tab id and label; a failed call lists nothing -/
  tabs : List (String × String) := []
  /-- one read of a pane -/
  read : Except String ReadEvidence := .ok {}
  /-- a failed subscription or send -/
  callErr : Option String := none
  /-- the last read of the submission poll, its verdict and its error -/
  poll : ReadEvidence × String × Option String := ({}, "unproven", none)
  status : StatusWait := .done

/-- What a step does; a store step names the row it is about. -/
inductive Label where
  | readFile
  | getDelivery (id : String)
  | deleteDelivery (id : String)
  | insertDelivery (id : String)
  | updateDelivery (id : String)
  | herdr
  | send (id : String)
  | reply
  deriving DecidableEq

/-- The procedures of the daemon. -/
inductive Proc where
  | prompt (req : Request) (caps : Caps)
  | unavailable (req : Request) (code : ℕ) (msg : String)

/-- A command of the prompt path. -/
abbrev Call (α : Type) : Type := Cmd World Answer Label Proc α

/-! ## The delivery table -/

namespace World

/-- `Store.InsertDelivery`: one transaction; an id that exists violates the primary key. -/
def insertDelivery (w : World) (d : Delivery) (body : String) : World × Except String Bool :=
  match w.deliveries d.deliveryID with
  | some _ => (w, .error "UNIQUE constraint failed: deliveries.delivery_id")
  | none =>
    ({ w with
        deliveries := Function.update w.deliveries d.deliveryID (some d)
        bodies := if d.bodyStored then Function.update w.bodies d.deliveryID (some body)
          else w.bodies }, .ok true)

/-- The columns `UPDATE deliveries` sets; the others keep their values. -/
def updated (old d : Delivery) : Delivery :=
  { d with
    deliveryID := old.deliveryID, requestedAtMS := old.requestedAtMS, sender := old.sender
    targetInput := old.targetInput, sourcePath := old.sourcePath
    promptSHA256 := old.promptSHA256, bodyStored := old.bodyStored }

/-- `Store.UpdateDelivery`; a missing row is not an error. -/
def updateDelivery (w : World) (d : Delivery) : World :=
  { w with
    deliveries := Function.update w.deliveries d.deliveryID
      ((w.deliveries d.deliveryID).map fun old => updated old d) }

/-- `Store.DeleteDelivery`, with the bodies row that the foreign key takes along. -/
def deleteDelivery (w : World) (id : String) : World :=
  { w with
    deliveries := Function.update w.deliveries id none
    bodies := Function.update w.bodies id none }

end World

/-- A store call that may fail; a failed one changes nothing. -/
def storeCall {α : Type} (l : Label) (f : World → Answer → World × Except String α) :
    Call (Except String α) :=
  Cmd.act l fun w e => match e.storeErr with
    | some msg => (w, .error msg)
    | none => f w e

def getDelivery (id : String) : Call (Except String (Option Delivery)) :=
  storeCall (.getDelivery id) fun w _ => (w, .ok (w.deliveries id))

def deleteDelivery (id : String) : Call (Except String Unit) :=
  storeCall (.deleteDelivery id) fun w _ => (w.deleteDelivery id, .ok ())

/-- Insert the record `d` builds from the clock, and return it. -/
def insertDelivery (id : String) (d : ℤ → Delivery) (body : String) :
    Call (Except String Delivery) :=
  storeCall (.insertDelivery id) fun w e =>
    let r := w.insertDelivery { d e.now with deliveryID := id } body
    (r.1, r.2.map fun _ => { d e.now with deliveryID := id })

/-- Update the record, stamped with the clock. -/
def updateDelivery (d : Delivery) : Call (Except String Delivery) :=
  storeCall (.updateDelivery d.deliveryID) fun w e =>
    (w.updateDelivery { d with completedAtMS := e.now }, .ok { d with completedAtMS := e.now })

/-- A call to herdr, or a read of the file system: it changes nothing here. -/
def ask {α : Type} (l : Label) (f : Answer → α) : Call α := Cmd.act l fun w e => (w, f e)

/-! ## Records and replies -/

def errorCodeFor (code : ℕ) : String :=
  if code = ExitConditionInvalid then "condition_invalid"
  else if code = ExitDaemonUnavailable then "daemon_unavailable"
  else if code = ExitDeliveryFailure then "delivery_failure"
  else if code = ExitTimeout then "timeout"
  else "internal"

def deliveryResult (d : Delivery) : PromptResult where
  deliveryID := d.deliveryID
  preflightResult := d.preflightResult
  submissionResult := d.submissionResult
  uptakeResult := d.uptakeResult
  preflightRevision := d.preflightRevision
  sendRevision := d.sendRevision
  evidenceRevision := d.evidenceRevision

def cachedDeliveryResult (d : Delivery) : PromptResult :=
  { deliveryResult d with cached := true }

def deliveryError (d : Delivery) : Option CodedError :=
  if d.completedAtMS = 0 then
    some ⟨ExitDeliveryFailure, "delivery " ++ d.deliveryID ++ " is still in progress"⟩
  else if d.errorCode = "" ∨ d.uptakeResult = "confirmed" ∨
      d.submissionResult = "marker_observed" ∨
      (d.submissionResult = "queued" ∧ d.uptakeMode = "") then none
  else
    let code :=
      if d.errorCode = "condition_invalid" then ExitConditionInvalid
      else if d.errorCode = "daemon_unavailable" then ExitDaemonUnavailable
      else if d.errorCode = "timeout" then ExitTimeout
      else ExitDeliveryFailure
    some ⟨code, "delivery " ++ d.deliveryID ++ ": " ++ d.errorCode⟩

/-- An early return with an error and no result. -/
def refuse (code : ℕ) (msg : String) : Reply := ({}, some ⟨code, msg⟩)

def uptakeFor (req : Request) (pane : PaneIdentity) : String :=
  if req.directive ∧ pane.status = "working" then "" else req.uptake

def submissionEvidence (post : ReadEvidence) : String :=
  if post.source = "" then "" else post.source ++ ":" ++ post.rule

/-- The first 24 characters of the text. -/
def markerFor (body : String) : String :=
  String.ofList ((Go.trimSpace body).toList.take 24)

/-- The pattern `•\s*Ran\b` matches at the start of the characters. -/
def codexToolHere (cs : List Char) : Bool :=
  match cs with
  | '•' :: rest =>
    match rest.dropWhile (fun c => c ∈ ['\t', '\n', '\x0c', '\r', ' ']) with
    | 'R' :: 'a' :: 'n' :: c :: _ => !(c.isAlphanum || c = '_')
    | ['R', 'a', 'n'] => true
    | _ => false
  | _ => false

def toolReceipt (harness screen marker : String) (evidenceRevision sendRevision : ℤ) : Bool :=
  if evidenceRevision ≤ sendRevision ∨ marker = "" ∨ !Go.contains screen marker then false
  else if Go.toLower harness = "codex" then screen.toList.tails.any codexToolHere
  else if Go.toLower harness = "claude" then
    Go.contains screen "⏺" || Go.contains (Go.toLower screen) "tool"
  else false

/-! ## The procedures -/

section Procedures

-- `digest` is SHA-256 in hexadecimal; nothing below depends on which function it is
variable (digest : String → String)

def correlationID (sender target path hash uptake : String) : String :=
  digest (sender ++ "\x00" ++ target ++ "\x00" ++ path ++ "\x00" ++ hash ++ "\x00" ++ uptake)

/-- What a call knows once its file is read. -/
structure Job where
  id : String
  req : Request
  hash : String
  body : String
  expect : ExpectFields
  caps : Caps

variable (j : Job)

/-- Insert a record of a call that ends before herdr is handed anything. -/
def recordFailureForRequestWithPaneDetail (p : PaneIdentity) (revision : ℤ)
    (readHash result detail : String) (err : CodedError) : Call Reply := do
  match ← insertDelivery j.id (fun now =>
    { deliveryID := j.id, sender := j.req.sender, targetInput := j.req.target
      resolvedPaneID := p.paneID, resolvedWorkspaceID := p.workspaceID
      sourcePath := j.req.path, promptSHA256 := j.hash, bodyStored := j.req.storePromptBody
      requestedAtMS := now, completedAtMS := now, preflightRevision := revision
      preflightReadSHA256 := readHash, preflightResult := result, uptakeMode := j.req.uptake
      uptakeResult := "not_requested", errorCode := errorCodeFor err.code
      errorDetail := detail }) j.body with
  | .error msg => return refuse ExitInternal msg
  | .ok d => return (deliveryResult d, some err)

def recordFailureForRequestWithPane (p : PaneIdentity) (revision : ℤ) (readHash result : String)
    (err : CodedError) : Call Reply :=
  recordFailureForRequestWithPaneDetail j p revision readHash result "" err

def recordFailureForRequest (result : String) (err : CodedError) : Call Reply :=
  recordFailureForRequestWithPaneDetail j {} 0 "" result "" err

/-- `recordNewFailure`, as `prompt` uses it when herdr lacks a capability. -/
def recordNewFailure (code : ℕ) (msg : String) : Call Reply := do
  match ← insertDelivery j.id (fun now =>
    { deliveryID := j.id, sender := j.req.sender, targetInput := j.req.target
      sourcePath := j.req.path, promptSHA256 := j.hash, bodyStored := j.req.storePromptBody
      requestedAtMS := now, completedAtMS := now, preflightResult := "ambiguous"
      errorCode := errorCodeFor code }) j.body with
  | .error msg => return refuse ExitInternal msg
  | .ok d => return (deliveryResult d, some ⟨code, msg⟩)

/-- Complete the call's own record. -/
def finishPrompt (d : Delivery) (err : Option CodedError) : Call Reply := do
  let d := match err with
    | some e => if d.errorCode = "" then { d with errorCode := errorCodeFor e.code } else d
    | none => d
  match ← updateDelivery d with
  | .error msg => return refuse ExitInternal msg
  | .ok d => return (deliveryResult d, err)

/-- `resolveTarget`; a context that is done turns any failure into a timeout. -/
def resolveTarget (target : String) : Call (Except CodedError PaneIdentity) := do
  let timeout (ctxErr : Bool) (err : CodedError) : CodedError :=
    if ctxErr then ⟨ExitTimeout, "timeout resolving target"⟩ else err
  match ← ask .herdr (fun e => (e.agents, e.ctxErr)) with
  | (.error msg, ctxErr) => return .error (timeout ctxErr ⟨ExitDaemonUnavailable, msg⟩)
  | (.ok none, ctxErr) =>
    return .error (timeout ctxErr ⟨ExitConditionInvalid, "invalid herdr agent list"⟩)
  | (.ok (some agents), _) =>
    let (tabs, ctxErr) ← ask .herdr (fun e => (e.tabs, e.ctxErr))
    return (resolveIn agents tabs target).mapError (timeout ctxErr)

/-- `readPane`: the agent-level read, and the pane-level one when it fails. -/
def readPane (source : String) : Call (Except CodedError ReadEvidence) := do
  let stamped (r : ReadEvidence) : ReadEvidence := { r with source := source, rule := "" }
  match ← ask .herdr (·.read) with
  | .ok r => return .ok (stamped r)
  | .error _ =>
    match ← ask .herdr (fun e => (e.read, e.ctxErr)) with
    | (.ok r, _) => return .ok (stamped r)
    | (.error msg, ctxErr) =>
      return .error (if ctxErr then ⟨ExitTimeout, "timeout reading target"⟩
        else ⟨ExitDaemonUnavailable, msg⟩)

/-- The preflight read, retried on the visible screen when the recent one is empty. -/
def preflightRead : Call (Except CodedError ReadEvidence) := do
  match ← readPane "recent_unwrapped" with
  | .error err => return .error err
  | .ok pre => if pre.text = "" then readPane "visible" else return .ok pre

/-- Subscribe to status events when the uptake mode needs them; a failure says why. -/
def subscribeStatus (uptake : String) : Call (Option String) :=
  if uptake = "status-transition" then
    if j.caps.events then ask .herdr (·.callErr)
    else pure (some "events capability unavailable")
  else pure none

/-- Hand the text to herdr; a failure says why, and whether the call's time was up. -/
def promptSend (pane : PaneIdentity) : Call (Option (String × Bool)) :=
  let target := if pane.paneID = "" then pane.agent else pane.paneID
  let method := if harnessPaneTransport pane.harness then "pane.send_text" else "agent.prompt"
  Cmd.act (.send j.id) fun w e =>
    ({ w with sent := w.sent ++ [⟨j.id, method, target, j.body⟩] },
      e.callErr.map fun msg => (msg, e.ctxErr))

/-- Judge the submission and the uptake of a text that herdr accepted. -/
def judge (d : Delivery) (pane sendPane : PaneIdentity) (uptake : String) : Call Reply := do
  let ((post, submission, postErr), ctxErr) ← ask .herdr (fun e => (e.poll, e.ctxErr))
  match postErr with
  | some msg =>
    finishPrompt { d with submissionResult := "unproven" }
      (some ⟨if ctxErr then ExitTimeout else ExitDeliveryFailure, msg⟩)
  | none =>
    let d := { d with
      submissionResult := submission
      submissionEvidence := submissionEvidence post
      evidenceRevision := if post.revision = 0 then sendPane.revision else post.revision }
    if submission = "composer_residue" then
      finishPrompt d (some ⟨ExitDeliveryFailure, "prompt remains in composer"⟩)
    else if submission = "unproven" then
      finishPrompt d (some ⟨ExitDeliveryFailure, "submission evidence unproven"⟩)
    else if uptake = "status-transition" then
      match ← ask .herdr (·.status) with
      | .closed =>
        finishPrompt { d with uptakeResult := "unproven" }
          (some ⟨ExitDeliveryFailure, "uptake_unproven: status stream closed"⟩)
      | .working revision =>
        finishPrompt { d with uptakeResult := "confirmed", evidenceRevision := revision } none
      | .done =>
        finishPrompt { d with uptakeResult := "unproven" }
          (some ⟨ExitTimeout, "uptake_unproven: status transition not observed"⟩)
    else if uptake = "tool" then
      if toolReceipt pane.harness post.text (markerFor j.body) post.revision
          sendPane.revision then
        finishPrompt { d with uptakeResult := "confirmed" } none
      else
        finishPrompt { d with uptakeResult := "unproven" }
          (some ⟨ExitDeliveryFailure, "tool uptake evidence unproven"⟩)
    else finishPrompt d none

/-- From the committed record on: type the text, then judge it. -/
def sendAndJudge (d : Delivery) (pane sendPane : PaneIdentity) (uptake : String) : Call Reply := do
  match ← subscribeStatus j uptake with
  | some msg => finishPrompt d (some ⟨ExitDaemonUnavailable, msg⟩)
  | none =>
  match ← promptSend j pane with
  | some (msg, ctxErr) =>
    finishPrompt { d with herdrAcceptance := "rejected" }
      (some ⟨if ctxErr then ExitTimeout else ExitDeliveryFailure,
        "herdr prompt rejected: " ++ msg⟩)
  | none => judge j { d with herdrAcceptance := "accepted" } pane sendPane uptake

/-- The preflight checks, the commit of the record, and the send. -/
def attempt : Call Reply := do
  if !j.caps.prompt || !j.caps.agentRead then
    recordNewFailure j ExitDaemonUnavailable "prompt capability unavailable"
  else
  match ← resolveTarget j.req.target with
  | .error err => recordFailureForRequest j "ambiguous" err
  | .ok pane =>
  match ← preflightRead with
  | .error err => recordFailureForRequest j "ambiguous" err
  | .ok pre =>
  let readHash := digest pre.text
  if !matchesExpect j.expect pane pre.text then
    recordFailureForRequestWithPaneDetail j pane pre.revision readHash "mismatch"
      ("expect_failed=" ++ Go.join "," (expectFailures j.expect pane pre.text))
      ⟨ExitConditionInvalid, "recipient identity does not match expect"⟩
  else if uptakeFor j.req pane ≠ "" ∧ pane.status = "working" then
    recordFailureForRequestWithPane j pane pre.revision readHash "passed"
      ⟨ExitDeliveryFailure, "uptake_unproven: target is already working"⟩
  else
  match ← resolveTarget j.req.target with
  | .error err =>
    recordFailureForRequestWithPane j pane pre.revision readHash "identity_changed" err
  | .ok sendPane =>
  if identityChanged pane sendPane then
    recordFailureForRequestWithPane j pane pre.revision readHash "identity_changed"
      ⟨ExitConditionInvalid, "target identity changed during preflight"⟩
  else
  let uptake := uptakeFor j.req sendPane
  let sendPane :=
    if sendPane.revision = 0 then { sendPane with revision := pre.revision } else sendPane
  let preRevision := if pre.revision = 0 then pane.revision else pre.revision
  match ← insertDelivery j.id (fun now =>
    { deliveryID := j.id, sender := j.req.sender, targetInput := j.req.target
      resolvedPaneID := pane.paneID, resolvedWorkspaceID := pane.workspaceID
      sourcePath := j.req.path, promptSHA256 := j.hash, bodyStored := j.req.storePromptBody
      requestedAtMS := now, preflightRevision := preRevision
      sendRevision := sendPane.revision, preflightReadSHA256 := readHash
      preflightResult := "passed", uptakeMode := j.req.uptake
      uptakeResult := if uptake ≠ j.req.uptake then "submission_only_working"
        else "not_requested" }) j.body with
  -- an id that exists violates the primary key, so `inserted` is never false without an error
  | .error msg => return refuse ExitInternal ("persist preflight: " ++ msg)
  | .ok d => sendAndJudge j d pane sendPane uptake

/-- `Prompt` -/
def prompt (req : Request) (caps : Caps) : Call Reply := do
  if Go.trimSpace req.sender = "" ∨ Go.trimSpace req.target = "" ∨ req.path = "" then
    return refuse ExitConditionInvalid "sender, target, and file are required"
  else if req.uptake ≠ "" ∧ req.uptake ≠ "tool" ∧ req.uptake ≠ "status-transition" then
    return refuse ExitConditionInvalid "invalid uptake mode"
  else
  match ← ask .readFile (·.file) with
  | .error msg => return refuse ExitConditionInvalid ("read prompt file: " ++ msg)
  | .ok raw =>
  match parsePromptFile raw with
  | .error msg => return refuse ExitConditionInvalid msg
  | .ok (expect, body) =>
  let hash := digest body
  let id := correlationID digest req.sender req.target req.path hash req.uptake
  let j : Job :=
    { id := id, req := req, hash := hash, body := body, expect := expect, caps := caps }
  match ← getDelivery id with
  | .error msg => return refuse ExitInternal msg
  | .ok none => attempt digest j
  | .ok (some old) =>
    if old.completedAtMS = 0 then return (cachedDeliveryResult old, deliveryError old)
    -- a preflight rejection never reached herdr, so it may be retried
    else if old.herdrAcceptance = "" then
      match ← deleteDelivery id with
      | .error msg => return refuse ExitInternal msg
      | .ok () => attempt digest j
    else return (cachedDeliveryResult old, deliveryError old)

def recordUnavailablePrompt (req : Request) (code : ℕ) (msg : String) : Call Reply := do
  let file ← ask .readFile (·.file)
  let raw := match file with
    | .ok raw => raw
    | .error _ => ""
  let body := match parsePromptFile raw with
    | .ok (_, body) => body
    | .error _ => raw
  let code := match file with
    | .ok _ => code
    | .error _ => ExitConditionInvalid
  let hash := digest body
  match ← insertDelivery (correlationID digest req.sender req.target req.path hash req.uptake)
    (fun now =>
      { deliveryID := "", sender := req.sender, targetInput := req.target
        sourcePath := req.path, promptSHA256 := hash, bodyStored := req.storePromptBody
        requestedAtMS := now, completedAtMS := now, preflightResult := "ambiguous"
        uptakeMode := req.uptake, uptakeResult := "not_requested"
        errorCode := errorCodeFor code }) body with
  | .error msg => return refuse ExitInternal msg
  | .ok d =>
    return (deliveryResult d, some ⟨code, match file with
      | .ok _ => msg
      | .error readErr => readErr⟩)

/-- The whole of a procedure: run it and note what it returned. -/
def body : Proc → Prog World Answer Label Proc
  | .prompt req caps => Cmd.prog do
    let r ← prompt digest req caps
    Cmd.act .reply fun w _ => ({ w with replies := w.replies ++ [r] }, ())
  | .unavailable req code msg => Cmd.prog do
    let r ← recordUnavailablePrompt digest req code msg
    Cmd.act .reply fun w _ => ({ w with replies := w.replies ++ [r] }, ())

end Procedures

end Panewire.Prompt
