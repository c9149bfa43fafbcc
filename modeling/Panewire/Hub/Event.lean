import Panewire.Names
import Panewire.Data.Json
import Panewire.Relay.Held

/-!
# Events the hub accepts

A node reports what happened to a job, or addresses a lane, with an **event**: a kind and a JSON
payload. An operator can do the same over HTTP. The hub decodes the payload field by field and
drops the message when a field is not what it expects.

* `accept` — the event that a submission becomes, if the hub takes it.
* `HubJobEventPayload.Sound` — what every decoder guarantees of the event it returns: valid ids,
  one-line texts, bounded lengths.
-/

namespace Panewire.Hub

open Go Data List Option

variable {o : Object} {s : String}

/-! ## Vocabularies -/

/-- The kinds of event that are relayed to a lane. -/
inductive RelayKind where
  | jobCompleted
  | jobEscalate
  | jobJoined
  | jobLost
  | jobRevoked
  | laneEvent
  deriving DecidableEq

def RelayKind.wire : RelayKind → String
  | .jobCompleted => "job.completed"
  | .jobEscalate => "job.escalate"
  | .jobJoined => "job.joined"
  | .jobLost => "job.lost"
  | .jobRevoked => "job.revoked"
  | .laneEvent => "lane.event"

def RelayKind.all : List RelayKind :=
  [.jobCompleted, .jobEscalate, .jobJoined, .jobLost, .jobRevoked, .laneEvent]

def RelayKind.parse (s : String) : Option RelayKind := RelayKind.all.find? (·.wire = s)

@[simp] theorem RelayKind.parse_wire (k : RelayKind) : RelayKind.parse k.wire = some k := by
  cases k <;> decide

@[simp] theorem RelayKind.wire_ne_empty (k : RelayKind) : k.wire ≠ "" := by
  cases k <;> decide

inductive DeliveryClass where
  | interrupt
  | inbox
  deriving DecidableEq

/-- `validDeliveryClass`: the empty text declares none. -/
def DeliveryClass.parse (s : String) : Option (Option DeliveryClass) :=
  if s = "" then some none
  else if s = "interrupt" then some (some .interrupt)
  else if s = "inbox" then some (some .inbox)
  else none

/-- The closed vocabulary of `panewire emit --type`. -/
inductive NotifyType where
  | decision | order | merged | closed | idleWake | progress | deployApproval | watchHold
  | culpritHold | automationFailed | ready | blocked | findings | report | ack | info
  deriving DecidableEq

def NotifyType.wire : NotifyType → String
  | .decision => "decision"
  | .order => "order"
  | .merged => "merged"
  | .closed => "closed"
  | .idleWake => "idle-wake"
  | .progress => "progress"
  | .deployApproval => "deploy-approval"
  | .watchHold => "watch-hold"
  | .culpritHold => "culprit-hold"
  | .automationFailed => "automation-failed"
  | .ready => "ready"
  | .blocked => "blocked"
  | .findings => "findings"
  | .report => "report"
  | .ack => "ack"
  | .info => "info"

def hubNotifyTypes : List NotifyType :=
  [.decision, .order, .merged, .closed, .idleWake, .progress, .deployApproval, .watchHold,
    .culpritHold, .automationFailed, .ready, .blocked, .findings, .report, .ack, .info]

/-- `validNotifyType`: the empty text declares none. -/
def NotifyType.parse (s : String) : Option (Option NotifyType) :=
  if s = "" then some none else (hubNotifyTypes.find? (·.wire = s)).map some

def validRelayDeliver (value : String) : Bool := (Relay.parseRelayDeliveryPolicy value).isSome

/-! ## Causes -/

private def causeName (cs : List Char) : Bool :=
  !cs.isEmpty && cs.all fun c => c.isAlphanum || c == '_' || c == '.' || c == '-'

private def causeNumber : List Char → Bool
  | [] => false
  | c :: cs => c.isDigit && c != '0' && cs.all Char.isDigit

/-- `pr:owner/repo#n`, `job:name` or `task:name`; the empty cause is valid. -/
def validInboxCause (cause : String) : Bool :=
  cause = "" || (cause.utf8ByteSize ≤ 256 &&
    match cutChars ':' cause.toList with
    | (['p', 'r'], some ref) =>
      match cutChars '/' ref with
      | (owner, some rest) =>
        match cutChars '#' rest with
        | (repo, some number) => causeName owner && causeName repo && causeNumber number
        | _ => false
      | _ => false
    | (['j', 'o', 'b'], some name) => causeName name
    | (['t', 'a', 's', 'k'], some name) => causeName name
    | _ => false)

/-! ## The payload -/

structure HubJobEventPayload where
  jobID : String := ""
  epoch : ℕ := 0
  agentLabel : String := ""
  ownerLane : String := ""
  label : String := ""
  host : String := ""
  reportPath : String := ""
  reportLastLine : String := ""
  reason : String := ""
  question : String := ""
  pr : String := ""
  head : String := ""
  paneID : String := ""
  /-- the producer's identity of the event -/
  eventID : String := ""
  text : String := ""
  cause : String := ""
  truncated : Bool := false
  /-- the node had sent the record before it restarted -/
  replay : Bool := false
  late : Bool := false
  deliveryClass : Option DeliveryClass := none
  notifyType : Option NotifyType := none
  deliverPolicy : String := ""
  deriving DecidableEq

/-- A text on one line of at most 240 characters. -/
structure Short (s : String) : Prop where
  clean : Clean s
  length_le : s.length ≤ hubRelayPayloadTextLimit

theorem short_empty : Short "" := ⟨by decide, by decide⟩

theorem Short.utf8ByteSize_le (h : Short s) : s.utf8ByteSize ≤ 960 := by
  have h₁ := Go.utf8ByteSize_le s
  have h₂ : s.length ≤ 240 := h.length_le
  omega

theorem short_of_hubAgentLabel (h : hubAgentLabelPattern.accepts s = true) : Short s := by
  have hl : s.length ≤ 128 := Pattern.length_le_of_accepts h
  exact ⟨clean_of_hubAgentLabel h, by unfold hubRelayPayloadTextLimit; omega⟩

/-- **What a decoder guarantees** of an event it returns. -/
structure HubJobEventPayload.Sound (kind : RelayKind) (e : HubJobEventPayload) : Prop where
  jobID : hubJobIDPattern.accepts e.jobID = true
  short : ∀ s ∈ [e.ownerLane, e.label, e.host, e.reportPath, e.reportLastLine, e.reason,
    e.question], Short s
  pr : Clean e.pr
  head : Clean e.head
  text : Clean e.text
  lane : kind = .laneEvent →
    hubAgentLabelPattern.accepts e.ownerLane = true ∧ validLaneEventText e.text = true
  policy : e.deliverPolicy = "" ∨ validRelayDeliver e.deliverPolicy = true

/-! ## Reading fields -/

def decodeDeliveryClass (o : Object) : Option (Option DeliveryClass) :=
  o.optional "delivery_class" (fun v => v.string.bind DeliveryClass.parse) none

def decodeNotifyType (o : Object) : Option (Option NotifyType) :=
  o.optional "notify_type" (fun v => v.string.bind NotifyType.parse) none

/-- A display field of a job event: no NUL, and no line break unless it is the question. -/
def decodeText (o : Object) (key : String) : Option String :=
  o.optional key (fun v => v.string.bind fun s =>
    if containsAny s "\x00" || (key ≠ "question" && containsAny s "\r\n") then none
    else some (truncateHubRelayPayloadText s (key = "question"))) ""

def decodeAgentLabel (o : Object) : Option String :=
  o.optional "agent_label" (fun v => v.string.bind fun s =>
    if hubAgentLabelPattern.accepts s then some s else none) ""

/-- A reference of a lane event. -/
def decodeRef (o : Object) (key : String) : Option String :=
  o.optional key (fun v => v.string.bind fun s =>
    if validLaneEventRef s then some s else none) ""

theorem truncateHubRelayPayloadText_length_le (s : String) (b : Bool) :
    (truncateHubRelayPayloadText s b).length ≤ hubRelayPayloadTextLimit :=
  length_runePrefix_le _ _

variable {key : String}

/-- A display field that was accepted is short. -/
theorem short_of_decodeText (h : decodeText o key = some s) : Short s := by
  unfold decodeText Object.optional at h
  split at h
  · cases h; exact short_empty
  next v _ =>
  obtain ⟨raw, -, h⟩ := bind_eq_some_iff.mp h
  split at h
  · cases h
  next hok =>
  cases h
  simp only [Bool.or_eq_true, Bool.and_eq_true, not_or, Bool.not_eq_true,
    containsAny_eq_false, decide_eq_true_eq, not_and] at hok
  obtain ⟨hn, hl⟩ := hok
  refine ⟨?_, truncateHubRelayPayloadText_length_le _ _⟩
  refine All.runePrefix ?_ _
  by_cases hq : key = "question"
  · simp only [hq, decide_true, if_true]
    refine all_replaceLines (by decide) (hn.mono fun c hc => ?_)
    have hc : c ≠ '\x00' := by simpa using hc
    tauto
  · simp only [hq, decide_false, if_false, Bool.false_eq_true]
    intro c hc
    have h₁ := hn c hc
    have h₂ := hl hq c hc
    refine ⟨?_, ?_, ?_⟩ <;> rintro rfl <;> simp_all

theorem clean_of_decodeRef (h : decodeRef o key = some s) : Clean s := by
  unfold decodeRef Object.optional at h
  split at h
  · cases h; decide
  · obtain ⟨raw, -, h⟩ := bind_eq_some_iff.mp h
    split at h
    · next hok =>
      cases h
      rw [validLaneEventRef, Bool.and_eq_true, Bool.not_eq_true'] at hok
      exact clean_iff.mpr hok.2
    · cases h

/-! ## Job events -/

def completionFieldNames : List String :=
  ["job_id", "epoch", "agent_label", "owner_lane", "label", "host", "report_path",
    "report_last_line", "question", "pr", "head", "pane_id", "event_id", "replay",
    "delivery_class", "notify_type", "late", "cause"]

/-- The loop over the display fields. -/
def decodeTexts (o : Object) (e : HubJobEventPayload) : Option HubJobEventPayload := do
  let ownerLane ← decodeText o "owner_lane"
  let label ← decodeText o "label"
  let host ← decodeText o "host"
  let reportPath ← decodeText o "report_path"
  let reportLastLine ← decodeText o "report_last_line"
  let question ← decodeText o "question"
  let pr ← decodeText o "pr"
  let head ← decodeText o "head"
  let paneID ← decodeText o "pane_id"
  let eventID ← decodeText o "event_id"
  return { e with ownerLane, label, host, reportPath, reportLastLine, question, pr, head, paneID,
                  eventID }

def decodeHubJobCompletionPayload (o : Object) : Option HubJobEventPayload := do
  guard (2 ≤ o.size ∧ o.size ≤ 18 ∧ ∀ name ∈ o.names, name ∈ completionFieldNames)
  let deliveryClass ← decodeDeliveryClass o
  let notifyType ← decodeNotifyType o
  let jobID ← o.require "job_id" Json.string
  let epoch ← o.require "epoch" Json.uint64
  guard (hubJobIDPattern.accepts jobID ∧ epoch ≠ 0)
  let late ← o.optional "late" Json.boolean false
  let agentLabel ← decodeAgentLabel o
  let replay ← o.optional "replay" Json.boolean false
  let event ← decodeTexts o { jobID, epoch, late, agentLabel, replay, deliveryClass, notifyType }
  let cause ← o.optional "cause" Json.string ""
  guard (validInboxCause cause)
  return { event with cause }

/-- The display fields of a job event, by name. -/
def textFields : List (String × (HubJobEventPayload → String)) :=
  [("owner_lane", (·.ownerLane)), ("label", (·.label)), ("host", (·.host)),
    ("report_path", (·.reportPath)), ("report_last_line", (·.reportLastLine)),
    ("question", (·.question)), ("pr", (·.pr)), ("head", (·.head)), ("pane_id", (·.paneID)),
    ("event_id", (·.eventID))]

/-- The display fields of `e`, as a list. -/
def HubJobEventPayload.texts (e : HubJobEventPayload) : List String :=
  textFields.map fun f => f.2 e

variable {e : HubJobEventPayload}

theorem textFields_congr {f : String × (HubJobEventPayload → String)} {e' : HubJobEventPayload}
    (hf : f ∈ textFields) (h : e.texts = e'.texts) : f.2 e = f.2 e' :=
  map_inj_left.mp h f hf

/-- How the fields of a decoded job event come from the object. -/
structure Decoded (o : Object) (e : HubJobEventPayload) : Prop where
  jobID : o.require "job_id" Json.string = some e.jobID
  epoch : o.require "epoch" Json.uint64 = some e.epoch
  valid : hubJobIDPattern.accepts e.jobID = true
  texts : ∀ f ∈ textFields, decodeText o f.1 = some (f.2 e)
  plain : e.deliverPolicy = "" ∧ e.text = ""

theorem decodeTexts_spec {e' : HubJobEventPayload} (h : decodeTexts o e = some e') :
    (∀ f ∈ textFields, decodeText o f.1 = some (f.2 e')) ∧ e'.jobID = e.jobID ∧
      e'.epoch = e.epoch ∧ e'.reason = e.reason ∧ e'.deliverPolicy = e.deliverPolicy ∧
      e'.text = e.text := by
  simp only [decodeTexts, bind_eq_bind, bind_eq_some_iff] at h
  obtain ⟨ownerLane, h₁, label, h₂, host, h₃, reportPath, h₄, reportLastLine, h₅, question, h₆, pr,
    h₇, head, h₈, paneID, h₉, eventID, h₁₀, h⟩ := h
  cases h
  simp [textFields, h₁, h₂, h₃, h₄, h₅, h₆, h₇, h₈, h₉, h₁₀]

theorem decodeHubJobCompletionPayload_spec
    (h : decodeHubJobCompletionPayload o = some e) : Decoded o e ∧ e.reason = "" := by
  simp only [decodeHubJobCompletionPayload, bind_eq_bind, bind_eq_some_iff] at h
  obtain ⟨-, -, deliveryClass, -, notifyType, -, jobID, hjob, epoch, hep, _, hv, late, -,
    agentLabel, -, replay, -, event, ht, cause, -, -, -, h⟩ := h
  cases h
  obtain ⟨ht, hj, he, hr, hp⟩ := decodeTexts_spec ht
  have hv : hubJobIDPattern.accepts jobID = true ∧ epoch ≠ 0 := by simpa using hv
  refine ⟨⟨?_, ?_, ?_, fun f hf => ?_, hp⟩, hr⟩
  · rw [hjob]; exact congrArg some hj.symm
  · rw [hep]; exact congrArg some he.symm
  · rw [hj]; exact hv.1
  · rw [ht f hf]
    exact congrArg some (textFields_congr hf rfl)

/-- The reason of an escalation, a join or a terminal signal. -/
def decodeReason (o : Object) : Option String :=
  o.require "reason" fun v => v.string.bind fun s =>
    if s = "" ∨ containsAny s "\r\n\x00" then none
    else some (truncateHubRelayPayloadText s false)

/-- A job event that has to say why. -/
def decodeHubJobEscalationPayload (o : Object) : Option HubJobEventPayload := do
  guard (3 ≤ o.size ∧ o.size ≤ 19 ∧ "reason" ∈ o.names)
  let event ← decodeHubJobCompletionPayload (o.del "reason")
  let reason ← decodeReason o
  return { event with reason }

theorem short_of_decodeReason (h : decodeReason o = some s) : Short s := by
  obtain ⟨v, -, h⟩ := bind_eq_some_iff.mp h
  obtain ⟨raw, -, h⟩ := bind_eq_some_iff.mp h
  split at h
  · cases h
  · next hok =>
    cases h
    rw [not_or, Bool.not_eq_true] at hok
    exact ⟨(clean_iff.mpr hok.2).runePrefix _, truncateHubRelayPayloadText_length_le _ _⟩

theorem decodeText_del (h : key ≠ "reason") :
    decodeText (o.del "reason") key = decodeText o key := by
  unfold decodeText Object.optional
  rw [Object.get_del_ne h]

theorem decodeHubJobEscalationPayload_spec (h : decodeHubJobEscalationPayload o = some e) :
    Decoded o e ∧ decodeReason o = some e.reason := by
  obtain ⟨-, -, h⟩ := bind_eq_some_iff.mp h
  obtain ⟨base, hb, h⟩ := bind_eq_some_iff.mp h
  obtain ⟨reason, hw, h⟩ := bind_eq_some_iff.mp h
  cases h
  obtain ⟨hdec, -⟩ := decodeHubJobCompletionPayload_spec hb
  refine ⟨⟨?_, ?_, hdec.valid, fun f hf => ?_, hdec.plain⟩, hw⟩
  · rw [← hdec.jobID, Object.require, Object.require, Object.get_del_ne (by decide)]
  · rw [← hdec.epoch, Object.require, Object.require, Object.get_del_ne (by decide)]
  · have hne : ∀ f ∈ textFields, f.1 ≠ "reason" := by simp [textFields]
    rw [← decodeText_del (hne f hf), hdec.texts f hf]
    exact congrArg some (textFields_congr hf rfl)

/-- A decoded job event with a short reason is sound. -/
theorem Decoded.sound {kind : RelayKind}
    (h : Decoded o e) (hw : Short e.reason) (hkind : kind ≠ .laneEvent) : e.Sound kind := by
  have short : ∀ f ∈ textFields, Short (f.2 e) := fun f hf => short_of_decodeText (h.texts f hf)
  simp only [textFields, forall_mem_cons] at short
  obtain ⟨s₁, s₂, s₃, s₄, s₅, s₆, s₇, s₈, -, -, -⟩ := short
  exact ⟨h.valid, by simp [*], s₇.clean, s₈.clean, h.plain.2 ▸ short_empty.clean,
    fun hl => absurd hl hkind, .inl h.plain.1⟩

/-! ## Lane events -/

section LaneEvents

/-- SHA-256, of which nothing but the length of a sum matters here. -/
abbrev Sha : Type := String → Fin 32 → Fin 256

/-- The hash whose bytes are all zero. -/
def Sha.zero : Sha := fun _ _ => 0

def hexDigit (n : ℕ) : Char := Nat.digitChar n

/-- `%x` of bytes -/
def hexBytes (bytes : List (Fin 256)) : String :=
  String.ofList (bytes.flatMap fun b => [hexDigit (b.val / 16), hexDigit (b.val % 16)])

variable (sha : Sha)

/-- The job id under which a lane event travels. -/
def laneEventTransportID (lane eventID : String) : String :=
  "lane-event-" ++ hexBytes ((List.ofFn (sha (lane ++ "\x00" ++ eventID))).take 16)

theorem hexDigit_isAlphanum {n : ℕ} (h : n < 16) : (hexDigit n).isAlphanum = true := by
  have : ∀ m : Fin 16, (hexDigit m.val).isAlphanum = true := by decide
  exact this ⟨n, h⟩

theorem all_hexBytes (bytes : List (Fin 256)) :
    All (fun c => c.isAlphanum = true) (hexBytes bytes) := by
  rw [hexBytes, all_ofList]
  intro c hc
  obtain ⟨b, -, hc⟩ := mem_flatMap.mp hc
  rcases mem_cons.mp hc with rfl | hc
  · exact hexDigit_isAlphanum (by omega)
  · rw [mem_singleton.mp hc]
    exact hexDigit_isAlphanum (by omega)

theorem length_hexBytes (bytes : List (Fin 256)) :
    (hexBytes bytes).toList.length = 2 * bytes.length := by
  simp [hexBytes, length_flatMap, Nat.mul_comm]

/-- A transport id is a valid job id, whatever the hash. -/
theorem hubJobID_laneEventTransportID (lane eventID : String) :
    hubJobIDPattern.accepts (laneEventTransportID sha lane eventID) = true := by
  set bytes := (List.ofFn (sha (lane ++ "\x00" ++ eventID))).take 16 with hb
  have hl : bytes.length = 16 := by simp [hb]
  have hlit : "lane-event-".toList = 'l' :: "ane-event-".toList := by decide
  rw [Pattern.accepts_iff]
  refine ⟨'l', "ane-event-".toList ++ (hexBytes bytes).toList, ?_, by decide, ?_, ?_⟩
  · rw [laneEventTransportID, String.toList_append, hlit, cons_append]
  · intro c hc
    rcases mem_append.mp hc with hc | hc
    · have : All (fun c => hubJobIDPattern.rest c = true) "ane-event-" := by decide
      exact this c hc
    · simp [hubJobIDPattern, all_hexBytes bytes c hc]
  · rw [length_append, length_hexBytes, hl]
    decide

def laneEventFieldNames : List String :=
  ["owner_lane", "event_id", "text", "epoch", "truncated", "replay", "delivery_class",
    "notify_type", "cause", "head", "pr", "pane_id"]

/-- The epoch of a lane event may be absent but not zero. -/
def decodeLaneEpoch (o : Object) : Option ℕ :=
  o.optional "epoch" (fun v => v.uint64.bind fun n => if n = 0 then none else some n) 1

theorem decodeLaneEpoch_lt {n : ℕ} (h : decodeLaneEpoch o = some n) : n < 2 ^ 64 := by
  unfold decodeLaneEpoch Object.optional at h
  split at h
  · cases h; decide
  · obtain ⟨m, hm, h⟩ := bind_eq_some_iff.mp h
    split at h
    · cases h
    · cases h; exact Json.lt_of_uint64 hm

/-- A pane that the hub cannot use is no pane, not a refusal. -/
def decodeLanePane (o : Object) : String :=
  match (o.get "pane_id").bind Json.string with
  | none => ""
  | some pane => boundLaneEventPaneID pane

def decodeHubLaneEventPayload (o : Object) : Option HubJobEventPayload := do
  guard (3 ≤ o.size ∧ o.size ≤ 12 ∧ ∀ name ∈ o.names, name ∈ laneEventFieldNames)
  let deliveryClass ← decodeDeliveryClass o
  let notifyType ← decodeNotifyType o
  let ownerLane ← o.require "owner_lane" Json.string
  let eventID ← o.require "event_id" Json.string
  let text ← o.require "text" Json.string
  guard (hubAgentLabelPattern.accepts ownerLane ∧ validLaneEventID eventID ∧
    validLaneEventText text ∧ text.utf8ByteSize ≤ laneEventTextLimitSink)
  let epoch ← decodeLaneEpoch o
  let cause ← decodeRef o "cause"
  let head ← decodeRef o "head"
  let pr ← decodeRef o "pr"
  guard (validInboxCause cause)
  let truncated ← o.optional "truncated" Json.boolean false
  let replay ← o.optional "replay" Json.boolean false
  return { jobID := laneEventTransportID sha ownerLane eventID, epoch, ownerLane, eventID, text,
           cause, head, pr, truncated, replay, paneID := decodeLanePane o, deliveryClass,
           notifyType }

/-- How a decoded lane event comes from the object. -/
theorem decodeHubLaneEventPayload_spec (h : decodeHubLaneEventPayload sha o = some e) :
    o.require "owner_lane" Json.string = some e.ownerLane ∧
      o.require "event_id" Json.string = some e.eventID ∧
      e.jobID = laneEventTransportID sha e.ownerLane e.eventID ∧
      validLaneEventID e.eventID = true ∧ e.epoch < 2 ^ 64 ∧ e.Sound .laneEvent := by
  simp only [decodeHubLaneEventPayload, bind_eq_bind, bind_eq_some_iff] at h
  obtain ⟨-, -, deliveryClass, -, notifyType, -, ownerLane, hl, eventID, hid, text, -, _, hv,
    epoch, hep, cause, -, head, hh, pr, hpr, -, -, truncated, -, replay, -, h⟩ := h
  cases h
  have hv : hubAgentLabelPattern.accepts ownerLane = true ∧ validLaneEventID eventID = true ∧
      validLaneEventText text = true ∧ text.utf8ByteSize ≤ laneEventTextLimitSink := by
    simpa using hv
  obtain ⟨hn, hvid, ht, -⟩ := hv
  exact ⟨hl, hid, rfl, hvid, decodeLaneEpoch_lt hep, hubJobID_laneEventTransportID sha _ _,
    by simp [short_of_hubAgentLabel hn, short_empty], clean_of_decodeRef hpr,
    clean_of_decodeRef hh, clean_of_laneEventText ht, fun _ => ⟨hn, ht⟩, .inl rfl⟩

/-! ## Events over HTTP -/

structure HubRelayIngressRequest where
  deliveryClass : String := ""
  notifyType : String := ""
  kind : String
  lane : String
  eventID : String
  text : String
  label : String
  host : String := ""
  deliver : String := ""

/-- The checks of `decodeHubRelayIngressRequest` and the event that `handleRelayIngress` makes of a
request that passes them. -/
def decodeHubRelayIngressRequest (body : HubRelayIngressRequest) : Option HubJobEventPayload := do
  guard (body.kind = "lane.event" ∧ hubAgentLabelPattern.accepts body.lane ∧
    validLaneEventID body.eventID ∧ validLaneEventText body.text ∧
    hubAgentLabelPattern.accepts body.label)
  let host := if body.host = "" then "hub" else body.host
  guard (machineIDPattern.accepts host)
  let deliveryClass ← DeliveryClass.parse body.deliveryClass
  let notifyType ← NotifyType.parse body.notifyType
  guard (body.deliver = "" ∨ validRelayDeliver body.deliver)
  return { jobID := laneEventTransportID sha body.lane body.eventID, epoch := 1,
           ownerLane := body.lane, eventID := body.eventID, text := body.text,
           label := body.label, host, reason := "http_ingress:" ++ body.label,
           deliverPolicy := body.deliver, deliveryClass, notifyType }

theorem decodeHubRelayIngressRequest_sound {body : HubRelayIngressRequest}
    (h : decodeHubRelayIngressRequest sha body = some e) : e.Sound .laneEvent := by
  simp only [decodeHubRelayIngressRequest, bind_eq_bind, bind_eq_some_iff] at h
  obtain ⟨_, hv, _, hh, deliveryClass, -, notifyType, -, _, hdlv, h⟩ := h
  cases h
  have hv : body.kind = "lane.event" ∧ hubAgentLabelPattern.accepts body.lane = true ∧
      validLaneEventID body.eventID = true ∧ validLaneEventText body.text = true ∧
      hubAgentLabelPattern.accepts body.label = true := by simpa using hv
  have hh : machineIDPattern.accepts (if body.host = "" then "hub" else body.host) = true := by
    simpa using hh
  have hdlv : body.deliver = "" ∨ validRelayDeliver body.deliver = true := by
    simpa using hdlv
  obtain ⟨-, hn, -, ht, hl⟩ := hv
  have hw : Short ("http_ingress:" ++ body.label) := by
    have hlen : body.label.length ≤ 128 := Pattern.length_le_of_accepts hl
    have h13 : "http_ingress:".length = 13 := by decide
    refine ⟨all_append.mpr ⟨by decide, clean_of_hubAgentLabel hl⟩, ?_⟩
    rw [String.length_append]
    unfold hubRelayPayloadTextLimit
    omega
  have hh : Short (if body.host = "" then "hub" else body.host) := by
    have hlen := Pattern.length_le_of_accepts hh
    refine ⟨clean_of_machineID hh, hlen.trans ?_⟩
    decide
  have hs := short_of_hubAgentLabel hn
  have hl := short_of_hubAgentLabel hl
  exact ⟨hubJobID_laneEventTransportID sha _ _, by simp [short_empty, *], short_empty.clean,
    short_empty.clean, clean_of_laneEventText ht, fun _ => ⟨hn, ht⟩, hdlv⟩

/-! ## Acceptance -/

/-- What reaches the hub. -/
inductive Submission where
  /-- an event message of a node -/
  | node (kind : RelayKind) (payload : Object)
  /-- an operator's request -/
  | ingress (body : HubRelayIngressRequest)

/-- **The event a submission becomes**, when the hub takes it. -/
def accept : Submission → Option (RelayKind × HubJobEventPayload)
  | .node .jobCompleted o => (decodeHubJobCompletionPayload o).map (.jobCompleted, ·)
  | .node .laneEvent o => (decodeHubLaneEventPayload sha o).map (.laneEvent, ·)
  | .node kind o => (decodeHubJobEscalationPayload o).map (kind, ·)
  | .ingress body => (decodeHubRelayIngressRequest sha body).map (.laneEvent, ·)

/-- **Every accepted event is sound.** -/
theorem accept_sound {s : Submission} {kind : RelayKind}
    (h : accept sha s = some (kind, e)) : e.Sound kind := by
  cases s with
  | ingress body =>
    obtain ⟨e', he', ⟨⟩⟩ := map_eq_some_iff.mp h
    exact decodeHubRelayIngressRequest_sound sha he'
  | node k o =>
    cases k with
    | jobCompleted =>
      obtain ⟨e', he', ⟨⟩⟩ := map_eq_some_iff.mp h
      obtain ⟨hdec, hw⟩ := decodeHubJobCompletionPayload_spec he'
      exact hdec.sound (hw ▸ short_empty) (by decide)
    | laneEvent =>
      obtain ⟨e', he', ⟨⟩⟩ := map_eq_some_iff.mp h
      obtain ⟨-, -, -, -, -, hs⟩ := decodeHubLaneEventPayload_spec sha he'
      exact hs
    | jobEscalate | jobJoined | jobLost | jobRevoked =>
      obtain ⟨e', he', ⟨⟩⟩ := map_eq_some_iff.mp h
      obtain ⟨hdec, hw⟩ := decodeHubJobEscalationPayload_spec he'
      exact hdec.sound (short_of_decodeReason hw) (by decide)

end LaneEvents

end Panewire.Hub
