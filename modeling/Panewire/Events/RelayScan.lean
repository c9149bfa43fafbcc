import Panewire.Events.ActiveScan
import Panewire.Wire.Outbox

/-!
# The events that a node offers to its hub

The node scans its inbox for events that the hub has to hear of. Job events lie in a directory per
job. What is **offered** is made of one file each, and the file's name is the identity of the event.

The order of the result, which is sorted by job and kind, and the directory of lane events are left
out.
-/

namespace Panewire.Events

open Go Data Hub Wire

/-! ## Parameters -/

/-- What a scan of the inbox depends on besides the files. -/
structure RelayScan where
  times : TimeText
  /-- an instant with its fraction of a second -/
  nanoText : ℤ → String
  now : ℤ
  root : String
  /-- a file that was written before this is too old -/
  cutoff : Option ℤ
  /-- `hubJobActiveMaxAge` -/
  activeMaxAge : ℤ

namespace RelayScan

variable (s : RelayScan)

def jobsPath (jobID : String) : String := s.root ++ "/jobs/" ++ jobID ++ "/events"

/-- The path of an event file. -/
def eventPath (jobID name : String) : String := s.jobsPath jobID ++ "/" ++ name

/-- The file is recent enough. -/
def recent (f : EventFile) : Bool := s.cutoff.all fun cutoff => cutoff ≤ f.mtime

end RelayScan

/-! ## Kinds -/

/-- A kind that is relayed, also under its old name. -/
def relayKindOf (kind : String) : Option RelayKind :=
  RelayKind.parse (if kind = "job.completion" then "job.completed" else kind)

/-- `relayTerminalSignalKinds` -/
def terminalSignal : RelayKind → Bool
  | .jobLost => true
  | .jobRevoked => true
  | _ => false

/-- `relayEventPathFallbackKinds`: the event file stands in for a report. -/
def pathFallback : RelayKind → Bool
  | .jobEscalate => true
  | .jobJoined => true
  | .jobLost => true
  | .jobRevoked => true
  | _ => false

/-- A lost job without a report has the empty file for one. -/
def relaySignalReportPath (kind : RelayKind) (path : String) : String :=
  if terminalSignal kind && path = "/dev/null" then "" else path

/-! ## One event -/

/-- A missing epoch is the first. -/
def epochOf (e : HubInboxEvent) : Uint64 := if e.epoch.val = 0 then ⟨1, by decide⟩ else e.epoch

/-- A type of notification that is not known is dropped. -/
def notifyTypeOf (e : HubInboxEvent) : String :=
  if (NotifyType.parse e.notifyType).isSome then e.notifyType else ""

/-- The record that the lifecycle commands write before they run `panewire emit`. -/
def HubInboxEvent.isLifecycleEnvelope (e : HubInboxEvent) : Bool :=
  e.ownerLane = "" && e.payload.report ≠ ""

/-- The lane that the lifecycle commands hand to `emit`. -/
def HubInboxEvent.lifecycleRouteLane (e : HubInboxEvent) (jobID : String) : String :=
  let owner := e.anyOwnerLane
  let parent := e.payload.parentLane
  if parent = "" then owner
  else if e.anyRole = "builder" ∨ e.anyRole = "captain" then parent
  else if e.anyRole = "" ∧ owner = jobID then parent
  else owner

/-- Some file holds a flat completion of this epoch, however old it is. -/
def jobHasFlatCompletion (files : List EventFile) (epoch : Uint64) : Bool :=
  files.any fun f => f.isJson && f.read.any fun e =>
    e.ownerLane ≠ "" && (e.eventKind = "job.completed" || e.eventKind = "job.completion") &&
      epochOf e = epoch

/-- A stop at a quota names its pool. -/
def isQuotaStop (kind : RelayKind) (e : HubInboxEvent) : Bool :=
  kind = .jobLost && e.anyReason = "quota_stop" && e.payload.pool ≠ ""

variable (s : RelayScan)

/-- When the quota is reset; a stop that does not say is taken to be over in five minutes. -/
def resetText (e : HubInboxEvent) (f : EventFile) : String :=
  if e.payload.resetAt = "" then s.nanoText (e.eventTime s.times f + 5 * 60 * 1000000000)
  else e.payload.resetAt

/-- The reason that is sent: that of a quota stop is extended by the pool and the reset. -/
def relayReason (kind : RelayKind) (e : HubInboxEvent) (f : EventFile) : String :=
  if isQuotaStop kind e then
    e.anyReason ++ (" pool=" ++ e.payload.pool ++ " reset_at=" ++ resetText s e f)
  else e.anyReason

def lifecycleEnvelopeSettle : ℤ := 60 * 1000000000

/-- The event has what the hub asks of its kind. -/
def relayable (kind : RelayKind) (e : HubInboxEvent) : Bool :=
  kind ≠ .laneEvent && (kind = .jobCompleted || e.anyReason ≠ "") &&
    (!terminalSignal kind || validReportRelayLaneName e.anyOwnerLane || isQuotaStop kind e)

/-- The envelope of a completion is not offered: its flat record is, or may still come. -/
def envelopeWaits (files : List EventFile) (f : EventFile) (e : HubInboxEvent) : Bool :=
  jobHasFlatCompletion files (epochOf e) ||
    s.now - e.eventTime s.times f < lifecycleEnvelopeSettle

/-- The kind is a completion and the record an envelope. -/
def isEnvelope (kind : RelayKind) (e : HubInboxEvent) : Bool :=
  kind = .jobCompleted && e.isLifecycleEnvelope

/-- The path of the report, before the event file stands in for it. -/
def reportOf (kind : RelayKind) (e : HubInboxEvent) : String :=
  if isEnvelope kind e then e.payload.report else relaySignalReportPath kind e.anyReportPath

/-- The event for a file of a job; `claimLabel` is the label of the claim. -/
def relayRecord (jobID claimLabel : String) (f : EventFile) (e : HubInboxEvent) (kind : RelayKind) :
    HubScannedRelayEvent where
  kind := kind
  jobID := jobID
  epoch := (epochOf e).val
  epoch_lt := (epochOf e).2
  agentLabel := if hubAgentLabelPattern.accepts e.anyAgentLabel then e.anyAgentLabel else claimLabel
  ownerLane := if isEnvelope kind e then e.lifecycleRouteLane jobID else e.anyOwnerLane
  label := e.anyLabel
  host := e.anyHost
  reportPath :=
    if pathFallback kind && reportOf kind e = "" then s.eventPath jobID f.name else reportOf kind e
  reportLastLine := e.anyReportLastLine
  reason := relayReason s kind e f
  question := e.anyQuestion
  pr := e.anyPR
  head := e.anyHead
  paneID := e.anyPaneID
  eventID := f.name
  cause := e.cause
  deliveryClass := e.deliveryClass
  notifyType := notifyTypeOf e
  late := e.late || e.payload.late

/-- The event that is offered for a file of a job. -/
def relayEventOf (jobID : String) (files : List EventFile) (claimLabel : String) (f : EventFile)
    (e : HubInboxEvent) : Option HubScannedRelayEvent :=
  match relayKindOf e.eventKind with
  | none => none
  | some kind =>
    if !relayable kind e || isEnvelope kind e && envelopeWaits s files f e then none
    else some (relayRecord s jobID claimLabel f e kind)

theorem relayEventOf_eq_some {s : RelayScan} {jobID label : String} {files : List EventFile}
    {f : EventFile} {e : HubInboxEvent} {job : HubScannedRelayEvent} :
    relayEventOf s jobID files label f e = some job ↔ ∃ kind,
      relayKindOf e.eventKind = some kind ∧ relayable kind e = true ∧
      (isEnvelope kind e && envelopeWaits s files f e) = false ∧
      job = relayRecord s jobID label f e kind := by
  unfold relayEventOf
  cases hkind : relayKindOf e.eventKind with
  | none => exact iff_of_false nofun fun ⟨_, h, _⟩ => nomatch h
  | some kind =>
    dsimp only
    cases hrel : relayable kind e with
    | false =>
      refine iff_of_false nofun ?_
      rintro ⟨kind', hkind', hrel', -⟩
      rw [← Option.some.inj hkind', hrel] at hrel'
      cases hrel'
    | true =>
      cases hw : isEnvelope kind e && envelopeWaits s files f e with
      | true =>
        refine iff_of_false nofun ?_
        rintro ⟨kind', hkind', -, hw', -⟩
        rw [← Option.some.inj hkind', hw] at hw'
        cases hw'
      | false =>
        constructor
        · intro h
          exact ⟨kind, rfl, hrel, hw, (Option.some.inj h).symm⟩
        · rintro ⟨kind', hkind', -, -, rfl⟩
          rw [← Option.some.inj hkind']
          rfl

/-! ## The scan -/

/-- One file of a job's directory; the label of its claim is carried along. -/
def visitJobFile (jobID : String) (files : List EventFile) (claimLabel : String) (f : EventFile) :
    String × Option HubScannedRelayEvent :=
  if !f.isJson || !s.recent f then (claimLabel, none)
  else
    match f.read with
    | none => (claimLabel, none)
    | some e =>
      if e.eventTime s.times f < s.now - s.activeMaxAge then (claimLabel, none)
      else if isClaimKind e.eventKind then
        (if hubAgentLabelPattern.accepts e.anyAgentLabel then e.anyAgentLabel else claimLabel, none)
      else (claimLabel, relayEventOf s jobID files claimLabel f e)

theorem EventFile.read_eq_some {f : EventFile} {e : HubInboxEvent} (h : f.read = some e) :
    f.size ≤ eventFileLimit ∧ ∃ d, f.doc = some d ∧ HubInboxEvent.unmarshal d = some e ∧
      e = .ofDocument d := by
  unfold EventFile.read at h
  split at h
  · cases h
  · next hs =>
    obtain ⟨d, hdoc, hd⟩ := Option.bind_eq_some_iff.mp h
    refine ⟨not_lt.mp hs, d, hdoc, hd, ?_⟩
    exact (Option.some.inj (Option.ite_none_right_eq_some.mp hd).2).symm

/-- The scan reads the file: it is recent, and what happened is. -/
def reads (f : EventFile) (e : HubInboxEvent) : Prop :=
  f.isJson = true ∧ s.recent f = true ∧ f.read = some e ∧
    ¬ e.eventTime s.times f < s.now - s.activeMaxAge

/-- **What a file is offered as.** -/
theorem visitJobFile_eq_some {s : RelayScan} {jobID label : String} {files : List EventFile}
    {f : EventFile} {job : HubScannedRelayEvent} :
    (visitJobFile s jobID files label f).2 = some job ↔
      ∃ e, reads s f e ∧ isClaimKind e.eventKind = false ∧ ∃ kind,
        relayKindOf e.eventKind = some kind ∧ relayable kind e = true ∧
        (isEnvelope kind e && envelopeWaits s files f e) = false ∧
        job = relayRecord s jobID label f e kind := by
  simp only [← relayEventOf_eq_some]
  unfold visitJobFile reads
  by_cases hfi : f.isJson = true ∧ s.recent f = true
  · rw [if_neg (by simp [hfi.1, hfi.2])]
    cases hrea : f.read with
    | none => simp
    | some e =>
      dsimp only
      by_cases hold : e.eventTime s.times f < s.now - s.activeMaxAge
      · rw [if_pos hold]
        refine iff_of_false (fun h => nomatch h) ?_
        rintro ⟨e', ⟨-, -, he', hre⟩, -⟩
        cases he'
        exact hre hold
      · rw [if_neg hold]
        cases hcl : isClaimKind e.eventKind with
        | true => simp [hcl]
        | false =>
          constructor
          · intro h
            exact ⟨e, ⟨hfi.1, hfi.2, rfl, hold⟩, hcl, h⟩
          · rintro ⟨_, ⟨-, -, he, -⟩, -, h⟩
            cases he
            exact h
  · rw [if_pos (by simpa [Decidable.imp_iff_not_or] using hfi)]
    refine iff_of_false nofun ?_
    rintro ⟨e, ⟨hj, hre, -⟩, -⟩
    exact hfi ⟨hj, hre⟩

end Panewire.Events
