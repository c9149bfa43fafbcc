import Panewire.Events.Records
import Panewire.Events.RelayScan
import Panewire.Text.Contains

/-!
# Stops at a quota

A job whose pane shows that its quota is used up is announced as lost. The announcement is read
three times: the node's scan makes an event of it and writes the pool and the reset **into the
reason**; the hub reads them from there and does not place new work on that pool until the reset;
and the hub starts a replacement of the job, if the reason says `quota_stop`.

* `CoolingHub.receiveJobLost` — what the hub does with the event;
* `quota_stop_cools` — the pool cools until the announced reset;
* `quota_stop_not_replaced` — no announced stop is ever replaced: the reason is compared with the
  text that the scan has extended.
-/

namespace Panewire.Quota

open Go Data Hub Wire Events HubInboxEvent List

variable {pool s : String} {t : ℤ}

/-! ## The announcement -/

/-- What the screen of a pane says. -/
structure Stop where
  pool : String
  reset : Option ℤ
  deriving DecidableEq

variable (times : TimeText)

def quotaStopPayload (pane : String) (stop : Stop) : Object :=
  Object.ofOptional
    [("pane_id", some (.str pane)), ("reason", some (.str "quota_stop")),
      ("pool", some (.str stop.pool)),
      ("reset_at", stop.reset.map fun reset => .str (times.format reset))] (by simp)

/-- The file holds the announcement of a stop, as the ledger records it. -/
def Announces (stop : Stop) (f : EventFile) : Prop :=
  ∃ jobID pane seq createdAt, f.doc =
    some (Record.ledger jobID seq "job.lost" (quotaStopPayload times pane stop) createdAt).document

/-! ## The hub -/

def fleetStateTokenPattern : Pattern where
  first := Char.isAlphanum
  rest c := c.isAlphanum || c == '.' || c == '_' || c == ':' || c == '/' || c == '+' || c == '-'
  max := 63

structure CoolingHub where
  /-- until when a pool cools -/
  cooling : List (String × ℤ) := []
  /-- the hub keeps an inbox -/
  inbox : Bool
  closed : Bool
  /-- the replacements that were started: the machine and the job -/
  started : List (String × String) := []
  deriving DecidableEq

namespace CoolingHub

/-- The pool and the instant that a reason names; without a reset a pool cools for five minutes. -/
def coolingOf (reason : String) (now : ℤ) : Option (String × ℤ) :=
  match fields reason with
  | "quota_stop" :: second :: rest =>
    if !hasPrefix second "pool=" then none
    else
      let pool := trimPrefix second "pool="
      if !fleetStateTokenPattern.accepts pool then none
      else
        let default := now + 5 * 60 * 1000000000
        match rest with
        | third :: _ =>
          if hasPrefix third "reset_at=" then
            some (pool, (times.parse (trimPrefix third "reset_at=")).getD default)
          else some (pool, default)
        | [] => some (pool, default)
  | _ => none

/-- A pool cools until the latest reset that was announced for it. -/
def observePoolCooling (h : CoolingHub) (reason : String) (now : ℤ) : CoolingHub :=
  match coolingOf times reason now with
  | none => h
  | some (pool, reset) =>
    if reset ≤ now then h
    else if (Assoc.get h.cooling pool).all fun old => old < reset then
      { h with cooling := Assoc.put h.cooling pool reset }
    else h

def startQuotaReplacement (h : CoolingHub) (machine : String) (event : HubJobEventPayload) :
    CoolingHub :=
  if !h.inbox || event.reason ≠ "quota_stop" || h.closed then h
  else { h with started := (machine, event.jobID) :: h.started }

/-- A `job.lost` of a node. -/
def receiveJobLost (h : CoolingHub) (machine : String) (payload : Object) (received : ℤ) :
    CoolingHub :=
  match decodeHubJobEscalationPayload payload with
  | none => h
  | some event =>
    let cooled := h.observePoolCooling times event.reason received
    if event.replay then cooled else cooled.startQuotaReplacement machine event

end CoolingHub

/-! ## What becomes of the reason -/

/-- A text on one line, as a check that can be run. -/
def oneLine (s : String) : Bool := s.toList.all fun c => c != '\r' && c != '\n'

theorem oneLine_iff : oneLine s = true ↔ ∀ c ∈ s.toList, c ≠ '\r' ∧ c ≠ '\n' := by
  simp only [oneLine, all_eq_true, Bool.and_eq_true, bne_iff_ne]

theorem oneLine_append (s t : String) : oneLine (s ++ t) = (oneLine s && oneLine t) := by
  rw [oneLine, String.toList_append, List.all_append]
  rfl

/-- A bounded text still starts as it did. -/
theorem truncateHubRelayPayloadText_starts {start : String} (b : Bool)
    (hc : oneLine start = true) (hl : start.toList.length ≤ hubRelayPayloadTextLimit)
    (h : start.toList <+: s.toList) :
    start.toList <+: (truncateHubRelayPayloadText s b).toList := by
  obtain ⟨rest, hre⟩ := h
  have hcs : ∃ rest', (if b then replaceLines s else s).toList = start.toList ++ rest' := by
    cases b with
    | false => exact ⟨rest, hre.symm⟩
    | true =>
      refine ⟨spaceLines rest, ?_⟩
      rw [if_pos rfl, replaceLines, String.toList_ofList, ← hre,
        spaceLines_append (oneLine_iff.mp hc)]
  obtain ⟨rest', hre'⟩ := hcs
  rw [truncateHubRelayPayloadText, runePrefix, hre', String.toList_ofList, take_append,
    take_of_length_le hl]
  exact prefix_append _ _

section Announcement

variable (times : TimeText) (stop : Stop) (jobID pane : String) (seq : ℤ) (createdAt : String)

/-- What the scan reads of an announcement. -/
def announced : HubInboxEvent :=
  .ofDocument
    (Record.ledger jobID seq "job.lost" (quotaStopPayload times pane stop) createdAt).document

theorem announced_reads : ∀ ev, ev = announced times stop jobID pane seq createdAt →
    ev.eventKind = "job.lost" ∧ ev.anyReason = "quota_stop" ∧ ev.payload.pool = stop.pool ∧
      ev.payload.resetAt = (stop.reset.map times.format).getD "" := by
  cases hrst : stop.reset <;>
  simp [announced, eventKind, anyReason, firstHubValue, ofDocument, HubInboxPayload.ofObject,
    Payload.fields, quotaStopPayload, Record.document, str, Object.optional, envelopeObject,
    Object.get_ofOptional, List.lookup_cons, hrst]

end Announcement

/-- The event that the scan builds from an announcement. -/
theorem offered_of_announced {s : RelayScan} {jobID label : String} {files : List EventFile}
    {f : EventFile} {e : HubScannedRelayEvent} {stop : Stop} (hf : Announces s.times stop f)
    (hp : stop.pool ≠ "") (he : (visitJobFile s jobID files label f).2 = some e) :
    e.kind = .jobLost ∧ e.jobID = jobID ∧ ∃ reset,
      e.reason = "quota_stop" ++ (" pool=" ++ stop.pool ++ " reset_at=" ++ reset) ∧
      ∀ t, stop.reset = some t → s.times.format t ≠ "" → reset = s.times.format t := by
  obtain ⟨job, pane, seq, createdAt, hdoc⟩ := hf
  obtain ⟨ev, ⟨-, -, hre, -⟩, -, kind, hkind, -, -, rfl⟩ := visitJobFile_eq_some.mp he
  obtain ⟨-, d, hd, -, hev⟩ := EventFile.read_eq_some hre
  have ha : ev = announced s.times stop job pane seq createdAt := by
    rw [hdoc] at hd
    rw [hev, ← Option.some.inj hd]
    rfl
  obtain ⟨hk, hwhy, hpo, hrst⟩ := announced_reads s.times stop job pane seq createdAt ev ha
  have hl : kind = .jobLost := by
    rw [hk] at hkind
    exact (Option.some.inj hkind).symm
  have hs : isQuotaStop kind ev = true := by
    simp [isQuotaStop, hl, hwhy, hpo, hp]
  refine ⟨hl, rfl, resetText s ev f, ?_, fun t ht hne => ?_⟩
  · change relayReason s kind ev f = _
    rw [relayReason, if_pos hs, hwhy, hpo]
  · rw [ht] at hrst
    rw [resetText, if_neg (hrst ▸ hne), hrst]
    rfl

/-! ## What the hub makes of it -/

/-- **The hub handles the stop**: the pool cools until the announced reset, and a replacement of the
job is started. -/
structure Handles (times : TimeText) (h : CoolingHub) (machine jobID : String) (stop : Stop)
    (received : ℤ) (h' : CoolingHub) : Prop where
  cooled : ∀ reset, stop.reset.bind (fun t => times.parse (times.format t)) = some reset →
    received < reset → ∃ cooling, Assoc.get h'.cooling stop.pool = some cooling ∧ reset ≤ cooling
  started : h'.started = (machine, jobID) :: h.started

theorem CoolingHub.observePoolCooling_started (h : CoolingHub) (reason : String) (now : ℤ) :
    (h.observePoolCooling times reason now).started = h.started := by
  unfold observePoolCooling
  split
  · rfl
  · split
    · rfl
    · split <;> rfl

theorem CoolingHub.startQuotaReplacement_cooling (h : CoolingHub) (machine : String)
    (event : HubJobEventPayload) : (h.startQuotaReplacement machine event).cooling = h.cooling := by
  unfold startQuotaReplacement
  split <;> rfl

/-- A reason that goes on after `quota_stop` starts nothing. -/
theorem CoolingHub.receiveJobLost_started {times : TimeText} {h : CoolingHub} {machine : String}
    {payload : Object} {received : ℤ}
    (hw : ∀ event, decodeHubJobEscalationPayload payload = some event →
      event.reason ≠ "quota_stop") :
    (h.receiveJobLost times machine payload received).started = h.started := by
  unfold receiveJobLost
  split
  · rfl
  · rename_i event hev
    split
    · exact observePoolCooling_started ..
    · rw [startQuotaReplacement, if_pos (by simp [hw event hev])]
      exact observePoolCooling_started ..

/-- The reason that the hub reads: the one of the scan, bounded by the node and by the hub. -/
theorem decoded_reason {job : HubScannedRelayEvent} (hkind : job.kind = .jobLost)
    {outstanding : Option { n : ℕ // n < 2 ^ 64 }} {replay acceptsPane : Bool}
    {event : HubJobEventPayload}
    (hev : decodeHubJobEscalationPayload
      (relayEventForSend job outstanding replay acceptsPane).2 = some event) :
    event.reason =
      truncateHubRelayPayloadText (truncateHubRelayPayloadText job.reason true) false := by
  have hs : (sentForm job outstanding).reason = truncateHubRelayPayloadText job.reason true := by
    unfold sentForm relayEventWireForm
    split <;> rw [if_neg (by simp [hkind])] <;> rfl
  have hl : (sentForm job outstanding).kind ≠ .jobCompleted := by
    rw [sentForm_kind, hkind]
    decide
  have hp : (relayEventForSend job outstanding replay acceptsPane).2 =
      jobEventPayload (sentForm job outstanding) replay := if_neg (by simp [hkind])
  rw [hp] at hev
  obtain ⟨v, hv, hdec⟩ :=
    Option.bind_eq_some_iff.mp (decodeHubJobEscalationPayload_spec hev).2
  rw [jobEventPayload_reason hl] at hv
  cases hv
  obtain ⟨raw, hraw, hdec⟩ := Option.bind_eq_some_iff.mp hdec
  cases hraw
  rw [← hs]
  exact (Option.some.inj (Option.ite_none_left_eq_some.mp hdec).2).symm

/-! ## The cooling -/

/-- A bounded text without line breaks is left as it is. -/
theorem truncateHubRelayPayloadText_of_le (b : Bool)
    (hc : oneLine s = true) (hl : s.length ≤ hubRelayPayloadTextLimit) :
    truncateHubRelayPayloadText s b = s := by
  have hlin : (if b then replaceLines s else s) = s := by
    cases b with
    | false => rfl
    | true =>
      have ha := spaceLines_append (oneLine_iff.mp hc) []
      rw [spaceLines, append_nil] at ha
      rw [if_pos rfl, replaceLines, ha, String.ofList_toList]
  rw [truncateHubRelayPayloadText, hlin, runePrefix_of_le hl]

theorem hasPrefix_append (start rest : String) : hasPrefix (start ++ rest) start = true := by
  rw [hasPrefix, isPrefixOf_iff_prefix, String.toList_append]
  exact prefix_append _ _

theorem trimPrefix_append (start rest : String) : trimPrefix (start ++ rest) start = rest := by
  rw [trimPrefix, if_pos (hasPrefix_append start rest), String.toList_append, drop_left,
    String.ofList_toList]

/-- A text without blanks, as an instant is written. -/
structure Word (text : String) : Prop where
  ne_empty : text ≠ ""
  noSpace : ∀ c ∈ text.toList, isSpace c = false
  short : text.length ≤ 64

theorem isSpace_eq_false_of_token {c : Char} (h : fleetStateTokenPattern.rest c = true) :
    isSpace c = false := by
  have hgra : 33 ≤ c.toNat ∧ c.toNat ≤ 127 := by
    simp only [fleetStateTokenPattern, Char.isAlphanum] at h
    delta Char.isAlpha at h
    delta Char.isUpper Char.isLower at h
    simp only [Char.isDigit, Bool.or_eq_true, Bool.and_eq_true, decide_eq_true_eq, ge_iff_le,
      beq_iff_eq, UInt32.le_iff_toNat_le] at h
    rcases h with (((((((⟨h₁, h₂⟩ | ⟨h₁, h₂⟩) | ⟨h₁, h₂⟩) | rfl) | rfl) | rfl) | rfl) | rfl) | rfl
    all_goals first
      | decide
      | exact ⟨le_trans (by decide) h₁, le_trans h₂ (by decide)⟩
  unfold isSpace
  simp only [Bool.or_eq_false_iff, Bool.and_eq_false_iff, decide_eq_false_iff_not,
    beq_eq_false_iff_ne]
  omega

theorem Word.of_token (h : fleetStateTokenPattern.accepts pool = true) : Word pool where
  ne_empty := Pattern.ne_empty_of_accepts h
  noSpace := Pattern.all_of_accepts h
    (fun c hc => isSpace_eq_false_of_token <| by
      have ha : c.isAlphanum = true := hc
      simp [fleetStateTokenPattern, ha])
    fun _ hc => isSpace_eq_false_of_token hc
  short := Pattern.length_le_of_accepts h

theorem Word.oneLine {text : String} (h : Word text) : oneLine text = true := by
  refine oneLine_iff.mpr fun c hc => ?_
  constructor <;> rintro rfl <;> exact absurd (h.noSpace _ hc) (by decide)

theorem noSpace_of_all (h : (s.toList.all fun c => !isSpace c) = true) :
    ∀ c ∈ s.toList, isSpace c = false := by
  intro c hc
  simpa using all_eq_true.mp h c hc

theorem Word.labelled {text : String} (h : Word text) (label : String)
    (hl : label ≠ "") (hs : (label.toList.all fun c => !isSpace c) = true) :
    label ++ text ≠ "" ∧ ∀ c ∈ (label ++ text).toList, isSpace c = false := by
  refine ⟨fun hn => hl (String.append_eq_empty_iff.mp hn).1, fun c hc => ?_⟩
  rw [String.toList_append, mem_append] at hc
  exact hc.elim (noSpace_of_all hs c) (h.noSpace c)

/-- The hub reads the pool and the reset of a reason as the scan has written them. -/
theorem CoolingHub.coolingOf_written {times : TimeText} {reset : String} {now : ℤ}
    (hpo : fleetStateTokenPattern.accepts pool = true) (hrst : Word reset)
    (hp : times.parse reset = some t) :
    coolingOf times ("quota_stop" ++ (" pool=" ++ pool ++ " reset_at=" ++ reset)) now =
      some (pool, t) := by
  have hwor : "quota_stop" ++ (" pool=" ++ pool ++ " reset_at=" ++ reset) =
      join " " ["quota_stop", "pool=" ++ pool, "reset_at=" ++ reset] := by
    apply String.toList_injective
    simp [join]
  have hfie : fields (join " " ["quota_stop", "pool=" ++ pool, "reset_at=" ++ reset]) =
      ["quota_stop", "pool=" ++ pool, "reset_at=" ++ reset] := by
    refine fields_join fun w hw => ?_
    simp only [mem_cons, not_mem_nil, or_false] at hw
    rcases hw with rfl | rfl | rfl
    · exact ⟨by decide, noSpace_of_all (by decide)⟩
    · exact (Word.of_token hpo).labelled "pool=" (by decide) (by decide)
    · exact hrst.labelled "reset_at=" (by decide) (by decide)
  rw [hwor, coolingOf, hfie]
  simp [hasPrefix_append, trimPrefix_append, hpo, hp]

/-- An announced pool cools at least until the reset. -/
theorem CoolingHub.observePoolCooling_get {times : TimeText} {h : CoolingHub} {reason : String}
    {now : ℤ} (hof : coolingOf times reason now = some (pool, t)) (ha : now < t) :
    ∃ cooling, Assoc.get (h.observePoolCooling times reason now).cooling pool = some cooling ∧
      t ≤ cooling := by
  rw [observePoolCooling, hof]
  dsimp only
  rw [if_neg (not_le.mpr ha)]
  split
  · exact ⟨t, by rw [Assoc.get_put, if_pos rfl], le_rfl⟩
  · rename_i hold
    cases hget : Assoc.get h.cooling pool with
    | none => simp [hget] at hold
    | some old => exact ⟨old, rfl, by simpa [hget] using hold⟩

/-- **The pool of an announced stop cools until the announced reset**, if that is still ahead and
the hub accepts the event. -/
theorem quota_stop_cools {s : RelayScan} {jobID label machine : String} {files : List EventFile}
    {f : EventFile} {e : HubScannedRelayEvent} {stop : Stop}
    (hf : Announces s.times stop f) (hpo : fleetStateTokenPattern.accepts stop.pool = true)
    (ht : stop.reset = some t) (hw : Word (s.times.format t))
    (hpar : s.times.parse (s.times.format t) = some t)
    (he : (visitJobFile s jobID files label f).2 = some e) (h : CoolingHub)
    {outstanding : Option { n : ℕ // n < 2 ^ 64 }} {replay acceptsPane : Bool} {received : ℤ}
    {event : HubJobEventPayload}
    (hev : decodeHubJobEscalationPayload
      (relayEventForSend e outstanding replay acceptsPane).2 = some event) (ha : received < t) :
    ∃ cooling, Assoc.get (h.receiveJobLost s.times machine
      (relayEventForSend e outstanding replay acceptsPane).2 received).cooling stop.pool =
        some cooling ∧ t ≤ cooling := by
  obtain ⟨hkind, -, reset, hwhy, hrst⟩ :=
    offered_of_announced hf (Pattern.ne_empty_of_accepts hpo) he
  rw [hrst t ht hw.ne_empty] at hwhy
  -- the whole reason is short and on one line, so neither bound changes it
  have hsh : e.reason.length ≤ hubRelayPayloadTextLimit := by
    have hp := (Word.of_token hpo).short
    have hr := hw.short
    rw [hwhy]
    simp only [String.length_append, hubRelayPayloadTextLimit]
    have h₁ : "quota_stop".length = 10 := by decide
    have h₂ : " pool=".length = 6 := by decide
    have h₃ : " reset_at=".length = 10 := by decide
    omega
  have hc : oneLine e.reason = true := by
    simp only [hwhy, oneLine_append, (Word.of_token hpo).oneLine, hw.oneLine, Bool.and_true]
    decide
  have hre : event.reason = e.reason := by
    rw [decoded_reason hkind hev, truncateHubRelayPayloadText_of_le true hc hsh,
      truncateHubRelayPayloadText_of_le false hc hsh]
  have hof : CoolingHub.coolingOf s.times event.reason received = some (stop.pool, t) := by
    rw [hre, hwhy]
    exact CoolingHub.coolingOf_written hpo hw hpar
  have hcoo := CoolingHub.observePoolCooling_get (h := h) hof ha
  rw [CoolingHub.receiveJobLost, hev]
  dsimp only
  split
  · exact hcoo
  · rw [CoolingHub.startQuotaReplacement_cooling]
    exact hcoo

/-! ## The replacement -/

/-- **No announced stop is replaced**: whatever the node's scan builds from the announcement, and
whenever the hub receives it. -/
theorem quota_stop_not_replaced (s : RelayScan) (jobID label machine : String)
    (files : List EventFile) (f : EventFile) (e : HubScannedRelayEvent) (stop : Stop)
    (hf : Announces s.times stop f) (hpool : fleetStateTokenPattern.accepts stop.pool = true)
    (he : (visitJobFile s jobID files label f).2 = some e) (h : CoolingHub)
    (outstanding : Option { n : ℕ // n < 2 ^ 64 }) (replay acceptsPane : Bool) (received : ℤ) :
    ¬ Handles s.times h machine jobID stop received
      (h.receiveJobLost s.times machine
        (relayEventForSend e outstanding replay acceptsPane).2 received) := by
  obtain ⟨hkind, -, reset, hw, -⟩ :=
    offered_of_announced hf (Pattern.ne_empty_of_accepts hpool) he
  intro hh
  have hsts : "quota_stop pool=".toList <+: e.reason.toList := by
    rw [hw]
    refine ⟨(stop.pool ++ " reset_at=" ++ reset).toList, ?_⟩
    simp
  have hsame : (h.receiveJobLost s.times machine
      (relayEventForSend e outstanding replay acceptsPane).2 received).started = h.started := by
    refine CoolingHub.receiveJobLost_started fun event hev hqt => ?_
    -- the scan's text survives both bounds as far as the pool, and is longer than the reason alone
    have hl : "quota_stop pool=".toList <+: event.reason.toList := by
      rw [decoded_reason hkind hev]
      refine truncateHubRelayPayloadText_starts false (by decide) (by decide) ?_
      exact truncateHubRelayPayloadText_starts true (by decide) (by decide) hsts
    rw [hqt] at hl
    exact absurd hl.length_le (by decide)
  have hs := hh.started
  rw [hsame] at hs
  exact ne_cons_self hs

/-! ### One stop -/

/-- A scan whose clock stands still; the one instant that it can write is ten minutes ahead. -/
def oneScan : RelayScan where
  times := ⟨fun _ => "1970-01-01T00:10:00Z", fun text =>
    if text = "1970-01-01T00:10:00Z" then some 600000000000 else none⟩
  nanoText _ := "1970-01-01T00:10:00Z"
  now := 0
  root := ""
  cutoff := none
  activeMaxAge := 1

def oneStop : Stop := ⟨"claude-main", some 600000000000⟩

def oneFile : EventFile where
  name := "00001-job.lost.json"
  size := 200
  doc := some (Record.ledger "job-1" 1 "job.lost"
    (quotaStopPayload oneScan.times "w1:p1" oneStop) "").document
  mtime := 0

def oneHub : CoolingHub := { inbox := true, closed := false }

/-- **The pool cools and nothing is started.** -/
theorem stop_cools_without_replacement :
    ((visitJobFile oneScan "job-1" [oneFile] "" oneFile).2.map fun e =>
      let h := oneHub.receiveJobLost oneScan.times "mac-work"
        (relayEventForSend e none false true).2 0
      (e.reason, h.cooling, h.started)) =
    some ("quota_stop pool=claude-main reset_at=1970-01-01T00:10:00Z",
      [("claude-main", 600000000000)], []) := by
  decide +kernel

theorem quota_stop_not_replaced_once :
    ∃ e, (visitJobFile oneScan "job-1" [oneFile] "" oneFile).2 = some e ∧
      ¬ Handles oneScan.times oneHub "mac-work" "job-1" oneStop 0
        (oneHub.receiveJobLost oneScan.times "mac-work"
          (relayEventForSend e none false true).2 0) := by
  have hs : (visitJobFile oneScan "job-1" [oneFile] "" oneFile).2.isSome = true := by
    decide +kernel
  obtain ⟨e, he⟩ := Option.isSome_iff_exists.mp hs
  exact ⟨e, he, quota_stop_not_replaced oneScan "job-1" "" "mac-work" [oneFile] oneFile e oneStop
    ⟨"job-1", "w1:p1", 1, "", rfl⟩ (by decide) he oneHub none false true 0⟩

theorem quota_stop_cools_once : ∃ e cooling, Assoc.get (oneHub.receiveJobLost oneScan.times
    "mac-work" (relayEventForSend e none false true).2 0).cooling "claude-main" = some cooling ∧
      600000000000 ≤ cooling := by
  obtain ⟨e, he, hd⟩ := (Option.any_eq_true ..).mp (show ((visitJobFile oneScan "job-1" [oneFile]
    "" oneFile).2.any fun e => (decodeHubJobEscalationPayload
      (relayEventForSend e none false true).2).isSome) = true by decide +kernel)
  obtain ⟨_, hev⟩ := Option.isSome_iff_exists.mp hd
  have hf : Announces oneScan.times oneStop oneFile := ⟨"job-1", "w1:p1", 1, "", rfl⟩
  exact ⟨e, quota_stop_cools hf (by decide) rfl (.of_token (by decide)) rfl he oneHub hev
    (by decide)⟩

end Panewire.Quota
