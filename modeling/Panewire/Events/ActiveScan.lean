import Panewire.Events.Document
import Panewire.Data.Newest
import Panewire.Data.Assoc

/-!
# The active jobs of a node

A heartbeat lists the jobs that a node is working on. The node finds them in its inbox: the events
of each job are folded in the order of their file names, a claim starts a run and an end event
closes it. What is left is then cut down: claims that are too old, jobs without a pane that have
been silent too long, jobs whose pane is gone, all but the 32 newest, and jobs whose pane has been
idle for half an hour.

* `scanHubJobEventDetails` — the fold over the events of one job; `scanHubJobEventDetails_eq_some`
  says what it finds through the **last** claim, end and spawn.
* `Builds` — the lists that a heartbeat may carry.
-/

namespace Panewire.Events

open Go Data List

/-! ## One job -/

/-- The instant that was never set. -/
def zeroTime : ℤ := -62135596800000000000

/-- The clock, and the ages the node was configured with, in nanoseconds. -/
structure ScanClock where
  times : TimeText
  now : ℤ
  /-- `hubJobActiveMaxAge` -/
  activeMaxAge : ℤ
  /-- `hubJobStaleAge` -/
  staleAge : ℤ

/-- An event that was read, with its file. -/
structure ReadEvent where
  file : EventFile
  event : HubInboxEvent

/-- The events of a directory that can be read, in the order of the file names; `unreadable` tells
the files whose reading fails. -/
def EventsDir.read (dir : EventsDir) (unreadable : String → Bool) : List ReadEvent :=
  (dir.listing.filter fun f => f.isJson && !unreadable f.name).filterMap fun f =>
    f.read.map fun e => ⟨f, e⟩

variable (x : ReadEvent)

def ReadEvent.kind : String := x.event.eventKind

variable (times : TimeText)

def ReadEvent.time : ℤ := x.event.eventTime times x.file

def hubJobEndKind (kind : String) : Bool :=
  kind = "job.completed" || kind = "job.completion" || kind = "job.revoked" ||
    kind = "quota_pool.release" || kind = "quota_pool.release.force" || kind = "job.lost" ||
    kind = "job.reaped"

def isClaimKind (kind : String) : Bool := kind = "job.claimed" || kind = "job.claim"

structure HubScannedJob where
  job : HubActiveJob
  lastEvent : ℤ
  paneID : String
  deriving DecidableEq

/-- The variables of the fold. -/
structure JobScan where
  /-- the claim that is open, with its time -/
  active : Option (HubActiveJob × ℤ) := none
  lastEvent : ℤ := zeroTime
  lastEventKind : String := ""
  paneID : String := ""

variable (jobID : String)

/-- What the node makes of a claim. -/
def ReadEvent.candidate : HubActiveJob :=
  normalizeHubActiveJobMetadata times
    { jobID
      agentLabel := x.event.anyAgentLabel
      lastEventSeq := (hubEventSequence x.file.name).getD 0
      epoch := if x.event.epoch.val = 0 then 1 else x.event.epoch.val
      ownerLane := x.event.anyOwnerLane
      tier := x.event.anyTLevel
      role := x.event.anyRole
      startedAt := if x.time times = zeroTime then "" else times.format (x.time times) }

/-- A claim that the node takes: numbered, and with a valid label. -/
def ReadEvent.claims : Bool :=
  isClaimKind x.kind && (hubEventSequence x.file.name).isSome &&
    validHubActiveJob (x.candidate times jobID)

def ReadEvent.ends : Bool := hubJobEndKind x.kind

def ReadEvent.spawns : Bool := x.kind = "job.spawned"

/-- Every event counts for the time of the last one. -/
def JobScan.note (s : JobScan) (x : ReadEvent) : JobScan :=
  if x.time times < s.lastEvent then s
  else { s with lastEvent := x.time times, lastEventKind := x.kind }

/-- One event of the fold. -/
def JobScan.visit (s : JobScan) (x : ReadEvent) : JobScan :=
  let s := s.note times x
  if isClaimKind x.kind then
    if x.claims times jobID then { s with active := some (x.candidate times jobID, x.time times) }
    else s
  -- the spawn record is the only place where the pane is named
  else if x.spawns then { s with paneID := x.event.anyPaneID }
  else if x.ends then { s with active := none, paneID := "" }
  else s

/-- The variables of the fold, after all events. -/
def jobScan (events : List ReadEvent) : JobScan :=
  events.foldl (JobScan.visit times jobID) {}

def scanHubJobEventDetails (clock : ScanClock) (jobID : String) (events : List ReadEvent) :
    Option HubScannedJob :=
  let s := jobScan clock.times jobID events
  match s.active with
  | none => none
  | some (active, claimTime) =>
    if claimTime < clock.now - clock.activeMaxAge then none
    else if s.paneID = "" ∧ s.lastEvent ≠ zeroTime ∧ s.lastEvent < clock.now - clock.staleAge then
      none
    else
      let job := normalizeHubActiveJobMetadata clock.times
        { active with
          pane := s.paneID
          lastEventKind := s.lastEventKind
          lastEventAt := if s.lastEvent = zeroTime then "" else clock.times.format s.lastEvent }
      some ⟨job, s.lastEvent, s.paneID⟩

/-! ### What a directory holds -/

/-- The event in a file, however large the file is. -/
def EventFile.event (f : EventFile) : Option HubInboxEvent :=
  if f.isJson then f.doc.bind HubInboxEvent.unmarshal else none

/-- A claim of the job, first or repeated. -/
def EventFile.starts (f : EventFile) : Bool :=
  f.event.any fun e => isClaimKind e.eventKind || e.eventKind = "job.reclaim"

/-- An end of the job's run. -/
def EventFile.finishes (f : EventFile) : Bool := f.event.any fun e => hubJobEndKind e.eventKind

/-! ### What the fold finds -/

/-- The claim that is open: the last claim or end event is a claim. -/
def openClaim (events : List ReadEvent) : Option ReadEvent :=
  (lastOf (fun x => x.claims times jobID || x.ends) events).filter (·.claims times jobID)

/-- The pane of the run: that of the last spawn, if no end event follows it. -/
def paneOf (events : List ReadEvent) : String :=
  ((lastOf (fun x => x.spawns || x.ends) events).filter (·.spawns)).elim "" (·.event.anyPaneID)

/-- The time of the newest event. -/
def latest (events : List ReadEvent) : ℤ :=
  (events.map (·.time times)).foldl max zeroTime

section Visit

variable {times : TimeText} {jobID : String} (s : JobScan) (x : ReadEvent)

theorem ReadEvent.not_ends_of_claim (h : isClaimKind x.kind = true) :
    x.ends = false ∧ x.spawns = false := by
  simp only [isClaimKind, Bool.or_eq_true, decide_eq_true_eq] at h
  unfold ReadEvent.ends ReadEvent.spawns
  rcases h with h | h <;> rw [h] <;> decide

theorem ReadEvent.not_ends_of_spawns (h : x.spawns = true) : x.ends = false := by
  unfold ReadEvent.ends
  rw [of_decide_eq_true h]
  decide

theorem JobScan.note_active : (s.note times x).active = s.active := by
  unfold JobScan.note
  split <;> rfl

theorem JobScan.note_paneID : (s.note times x).paneID = s.paneID := by
  unfold JobScan.note
  split <;> rfl

theorem JobScan.note_lastEvent : (s.note times x).lastEvent = max s.lastEvent (x.time times) := by
  unfold JobScan.note
  split
  · next h => exact (max_eq_left h.le).symm
  · next h => exact (max_eq_right (not_lt.mp h)).symm

theorem JobScan.visit_lastEvent :
    (s.visit times jobID x).lastEvent = max s.lastEvent (x.time times) := by
  rw [← s.note_lastEvent x]
  unfold JobScan.visit
  split
  · split <;> rfl
  · split
    · rfl
    · split <;> rfl

theorem JobScan.visit_active :
    (s.visit times jobID x).active =
      if x.claims times jobID then some (x.candidate times jobID, x.time times)
      else if x.ends then none else s.active := by
  unfold JobScan.visit
  by_cases hcl : isClaimKind x.kind = true
  · rw [if_pos hcl, (x.not_ends_of_claim hcl).1, ← s.note_active x]
    split <;> rfl
  · rw [if_neg hcl]
    have hno : x.claims times jobID = false := by simp [ReadEvent.claims, hcl]
    rw [hno, ← s.note_active x]
    split
    · next hsp => rw [x.not_ends_of_spawns hsp]; rfl
    · split <;> rfl

theorem JobScan.visit_paneID :
    (s.visit times jobID x).paneID =
      if x.spawns then x.event.anyPaneID else if x.ends then "" else s.paneID := by
  unfold JobScan.visit
  by_cases hcl : isClaimKind x.kind = true
  · rw [if_pos hcl, (x.not_ends_of_claim hcl).1, (x.not_ends_of_claim hcl).2,
      ← s.note_paneID x]
    split <;> rfl
  · rw [if_neg hcl, ← s.note_paneID x]
    split
    · rfl
    · split <;> rfl

end Visit

variable (events : List ReadEvent)

theorem jobScan_concat :
    jobScan times jobID (events ++ [x]) = (jobScan times jobID events).visit times jobID x := by
  rw [jobScan, foldl_append]
  rfl

theorem jobScan_active :
    (jobScan times jobID events).active =
      (openClaim times jobID events).map fun x => (x.candidate times jobID, x.time times) := by
  induction events using List.reverseRecOn with
  | nil => rfl
  | append_singleton events x ih =>
    rw [jobScan_concat, JobScan.visit_active, ih]
    simp only [openClaim, lastOf_concat]
    by_cases hcl : x.claims times jobID = true
    · simp [hcl]
    · by_cases he : x.ends = true <;> simp [hcl, he]

theorem jobScan_paneID : (jobScan times jobID events).paneID = paneOf events := by
  induction events using List.reverseRecOn with
  | nil => rfl
  | append_singleton events x ih =>
    rw [jobScan_concat, JobScan.visit_paneID, ih]
    simp only [paneOf, lastOf_concat]
    by_cases hsp : x.spawns = true
    · simp [hsp, Option.filter]
    · by_cases he : x.ends = true <;> simp [hsp, he, Option.filter]

theorem jobScan_lastEvent : (jobScan times jobID events).lastEvent = latest times events := by
  induction events using List.reverseRecOn with
  | nil => rfl
  | append_singleton events x ih =>
    rw [jobScan_concat, JobScan.visit_lastEvent, ih]
    simp [latest]

/-- The ages are within bounds: the claim is young enough, and so is the newest event of a job that
has no pane to vouch for it. -/
def vouched (clock : ScanClock) (jobID : String) (events : List ReadEvent) : Bool :=
  (openClaim clock.times jobID events).any (fun c =>
      clock.now - clock.activeMaxAge ≤ c.time clock.times) &&
    decide (paneOf events = "" → latest clock.times events ≠ zeroTime →
      clock.now - clock.staleAge ≤ latest clock.times events)

/-- **The scan of one job** finds it active exactly when it is vouched for, with the metadata of the
open claim. -/
theorem scanHubJobEventDetails_isSome (clock : ScanClock) (jobID : String) :
    (scanHubJobEventDetails clock jobID events).isSome = vouched clock jobID events := by
  unfold scanHubJobEventDetails vouched
  simp only [jobScan_active, jobScan_paneID, jobScan_lastEvent]
  cases openClaim clock.times jobID events with
  | none => rfl
  | some c =>
    simp only [Option.map_some, Option.any_some]
    by_cases ha : c.time clock.times < clock.now - clock.activeMaxAge
    · rw [if_pos ha, decide_eq_false (not_le.mpr ha), Bool.false_and]
      rfl
    rw [if_neg ha, decide_eq_true (not_lt.mp ha)]
    split
    · next hs =>
      refine (decide_eq_false fun hl => ?_).symm
      exact absurd (hl hs.1 hs.2.1) (not_le.mpr hs.2.2)
    · next hfr =>
      refine (decide_eq_true fun hp hz => ?_).symm
      exact not_lt.mp fun hlt => hfr ⟨hp, hz, hlt⟩

variable {j : HubScannedJob}

theorem scanHubJobEventDetails_eq_some {clock : ScanClock} {jobID : String}
    {events : List ReadEvent} (h : scanHubJobEventDetails clock jobID events = some j) :
    j.lastEvent = latest clock.times events ∧ j.paneID = paneOf events ∧ j.job.jobID = jobID ∧
      j.job.pane = (if (paneOf events).utf8ByteSize > 128 then "" else paneOf events) ∧
      ∃ c, openClaim clock.times jobID events = some c ∧
        j.job.ownerLane = (c.candidate clock.times jobID).ownerLane := by
  unfold scanHubJobEventDetails at h
  simp only [jobScan_active, jobScan_paneID, jobScan_lastEvent] at h
  cases hcl : openClaim clock.times jobID events with
  | none => rw [hcl] at h; cases h
  | some c =>
    rw [hcl] at h
    simp only [Option.map_some] at h
    split at h
    · cases h
    split at h
    · cases h
    · cases h
      refine ⟨rfl, rfl, rfl, ?_, c, rfl, ?_⟩
      · by_cases hn : paneOf events = "" <;> simp [normalizeHubActiveJobMetadata, hn]
      · -- the lane was normalised before
        simp only [normalizeHubActiveJobMetadata, ReadEvent.candidate]
        by_cases hl : hubAgentLabelPattern.accepts c.event.anyOwnerLane = true <;> simp [hl]

/-! ## The inbox -/

/-- The directory of a job; the events may be missing. -/
structure JobDir where
  name : String
  events : Option EventsDir

/-- An inbox: no two jobs share a name. -/
abbrev Inbox : Type := Data.Table JobDir.name

/-- What the pane manager says of its sessions. -/
inductive Snapshot where
  /-- there is none -/
  | absent
  | unavailable
  /-- the panes with their status -/
  | ok (states : List (String × String))

/-- What the node goes by when it builds a heartbeat, besides its inbox. -/
structure NodeView where
  clock : ScanClock
  /-- the directory of all jobs can be listed -/
  jobsReadable : Bool := true
  /-- the files, by job and name, that could not be read -/
  unreadable : List (String × String) := []
  /-- the panes that host an agent, if that is known -/
  alive : Option (List String) := none
  snapshot : Snapshot := .absent
  /-- the epochs that the hub has assigned to this node -/
  assignedJobs : List (String × ℕ) := []
  /-- since when the pane of a job has been idle -/
  paneIdleSince : List ((String × String) × ℤ) := []
  /-- the clock when idle jobs are dropped -/
  idleNow : ℤ := 0

variable (view : NodeView)

/-- The events of a job that the node reads. -/
def NodeView.readEvents (d : JobDir) : List ReadEvent :=
  match d.events with
  | none => []
  | some dir => dir.read fun name => (d.name, name) ∈ view.unreadable

/-- An unknown pane, or one of which nothing is known, counts as alive. -/
def NodeView.paneAlive (pane : String) : Bool :=
  match view.alive with
  | none => true
  | some alive => pane = "" ∨ pane ∈ alive

/-- What the scan makes of a job directory, after the check of its pane. -/
def NodeView.survivor (d : JobDir) : Option HubScannedJob :=
  if view.jobsReadable ∧ hubJobIDPattern.accepts d.name then
    (scanHubJobEventDetails view.clock d.name (view.readEvents d)).filter fun j =>
      view.paneAlive j.paneID
  else none

/-- `filterActiveJobsByPane`, over the whole inbox -/
def NodeView.survivors (inbox : Inbox) : List HubScannedJob :=
  inbox.rows.filterMap view.survivor

def hubActiveJobLimit : ℕ := 32

/-! ### Idle panes -/

def hubJobIdleAfter : ℤ := 30 * 60 * 1000000000

def jobIdleKey (job : HubActiveJob) : String × String := (job.jobID, job.pane)

/-- The status of a pane: a later entry for the same pane counts. -/
def paneStatus (states : List (String × String)) (pane : String) : Option String :=
  ((states.filter fun s => s.1 ≠ "" ∧ s.1 = pane).getLast?).map (·.2)

def paneIdle (states : List (String × String)) (pane : String) : Bool :=
  pane ≠ "" ∧ (paneStatus states pane = some "idle" ∨ paneStatus states pane = some "done")

def trackJobIdleSince (previous : List ((String × String) × ℤ)) (active : List HubActiveJob)
    (states : List (String × String)) (now : ℤ) : List ((String × String) × ℤ) :=
  (active.filter fun job => paneIdle states job.pane).map fun job =>
    (jobIdleKey job, (Assoc.get previous (jobIdleKey job)).getD now)

def filterLongIdleJobs (active : List HubActiveJob) (idleSince : List ((String × String) × ℤ))
    (now : ℤ) : List HubActiveJob :=
  active.filter fun job => ¬ (job.pane ≠ "" ∧
    (Assoc.get idleSince (jobIdleKey job)).any fun since => hubJobIdleAfter ≤ now - since)

/-- The clocks of idle panes, and the jobs that stay in the list. -/
def dropLongIdleJobs (previous : List ((String × String) × ℤ)) (active : List HubActiveJob)
    (states : List (String × String)) (now : ℤ) :
    List ((String × String) × ℤ) × List HubActiveJob :=
  let idleSince := trackJobIdleSince previous active states now
  (idleSince, filterLongIdleJobs active idleSince now)

/-! ### The heartbeat -/

/-- The epoch that the hub assigned counts, if it is higher. -/
def NodeView.assign (job : HubActiveJob) : HubActiveJob :=
  { job with epoch := max job.epoch ((Assoc.get view.assignedJobs job.jobID).getD 0) }

/-- The active jobs of the heartbeat, from the jobs that were scanned. -/
def NodeView.heartbeatJobs (scanned : List HubScannedJob) : List HubActiveJob :=
  let active := (scanned.map (·.job)).map view.assign
  match view.snapshot with
  | .ok states => (dropLongIdleJobs view.paneIdleSince active states view.idleNow).2
  | _ => active

/-- **A heartbeat may carry** the newest survivors of the scan; between jobs whose last events are
equally old the sort decides. The order of the list is left open. -/
def Builds (inbox : Inbox) (active : List HubActiveJob) : Prop :=
  ∃ sorted, Arranged HubScannedJob.lastEvent (view.survivors inbox) sorted ∧
    active.Perm (view.heartbeatJobs (sorted.take hubActiveJobLimit))

/-! ## Who is in every heartbeat -/

/-- The job counts as active before the list is cut to its length. -/
def NodeView.kept (d : JobDir) : Bool :=
  view.jobsReadable && hubJobIDPattern.accepts d.name &&
    vouched view.clock d.name (view.readEvents d) && view.paneAlive (paneOf (view.readEvents d))

/-- The time of the newest event of a job. -/
def NodeView.latest (d : JobDir) : ℤ :=
  Events.latest view.clock.times (view.readEvents d)

/-- The pane of a job as the heartbeat has it: one with a very long name is left out. -/
def NodeView.pane (d : JobDir) : String :=
  if (paneOf (view.readEvents d)).utf8ByteSize > 128 then "" else paneOf (view.readEvents d)

/-- The pane of the job has been idle for too long. -/
def NodeView.longIdle (view : NodeView) (jobID pane : String) : Bool :=
  match view.snapshot with
  | .ok states => paneIdle states pane &&
      (Assoc.get view.paneIdleSince (jobID, pane)).any fun since =>
        hubJobIdleAfter ≤ view.idleNow - since
  | _ => false

/-- **Every heartbeat lists the job**: it is kept, fewer than 32 other jobs that are kept have an
event as new, and its pane has not been idle for too long. -/
def NodeView.Lists (inbox : Inbox) (jobID : String) : Prop :=
  ∃ d ∈ inbox.rows, d.name = jobID ∧ view.kept d = true ∧
    inbox.rows.countP (fun d' => d'.name ≠ jobID ∧ view.kept d' ∧ view.latest d ≤ view.latest d') <
      hubActiveJobLimit ∧
    view.longIdle jobID (view.pane d) = false

section Lists

variable {view : NodeView} {inbox : Inbox}

theorem NodeView.survivor_isSome (d : JobDir) : (view.survivor d).isSome = view.kept d := by
  unfold NodeView.survivor NodeView.kept
  by_cases hv : view.jobsReadable = true ∧ hubJobIDPattern.accepts d.name = true
  · rw [if_pos hv, hv.1, hv.2, ← scanHubJobEventDetails_isSome]
    cases hs : scanHubJobEventDetails view.clock d.name (view.readEvents d) with
    | none => rfl
    | some j =>
      rw [← (scanHubJobEventDetails_eq_some hs).2.1]
      cases hp : view.paneAlive j.paneID <;> simp [Option.filter, hp]
  · rw [if_neg hv]
    simp [hv]

theorem NodeView.survivor_eq_some {d : JobDir} (h : view.survivor d = some j) :
    j.lastEvent = view.latest d ∧ j.job.jobID = d.name ∧ j.job.pane = view.pane d := by
  unfold NodeView.survivor at h
  split at h
  · obtain ⟨hs, -⟩ := Option.filter_eq_some_iff.mp h
    obtain ⟨hl, -, hid, hp, -⟩ := scanHubJobEventDetails_eq_some hs
    exact ⟨hl, hid, hp⟩
  · cases h

/-- Two survivors with the same id are the same. -/
theorem NodeView.survivors_inj {j' : HubScannedJob} (hj : j ∈ view.survivors inbox)
    (hj' : j' ∈ view.survivors inbox) (hid : j.job.jobID = j'.job.jobID) : j = j' := by
  obtain ⟨d, hd, hs⟩ := mem_filterMap.mp hj
  obtain ⟨d', hd', hs'⟩ := mem_filterMap.mp hj'
  have hn : d.name = d'.name := by
    rw [← (NodeView.survivor_eq_some hs).2.1, ← (NodeView.survivor_eq_some hs').2.1, hid]
  rw [inbox.eq_of_key hd hd' hn, hs'] at hs
  exact (Option.some.inj hs).symm

theorem NodeView.nodup_survivors : (view.survivors inbox).Nodup := by
  refine (pairwise_map.mp inbox.nodup).filterMap _ fun d d' hne j hj j' hj' hjj' => hne ?_
  rw [← (NodeView.survivor_eq_some hj).2.1, ← (NodeView.survivor_eq_some hj').2.1, hjj']

/-- The clock of a job in the list runs exactly while its pane is idle. -/
theorem get_trackJobIdleSince {previous : List ((String × String) × ℤ)}
    {active : List HubActiveJob} {states : List (String × String)} {now : ℤ} {job : HubActiveJob}
    (hjob : job ∈ active) :
    Assoc.get (trackJobIdleSince previous active states now) (jobIdleKey job) =
      if paneIdle states job.pane then some ((Assoc.get previous (jobIdleKey job)).getD now)
      else none := by
  split
  · next hi =>
    exact Assoc.get_map_key jobIdleKey (fun k => (Assoc.get previous k).getD now)
      (mem_filter.mpr ⟨hjob, hi⟩)
  next hb =>
  cases hget : Assoc.get _ (jobIdleKey job) with
  | none => rfl
  | some since =>
    -- an entry with this key is of a job on the same pane
    obtain ⟨job', hjob', heq⟩ := mem_map.mp (Assoc.mem_of_get hget)
    have hp : job'.pane = job.pane := congrArg Prod.snd (congrArg Prod.fst heq)
    exact absurd (hp ▸ (mem_filter.mp hjob').2) hb

/-- A job of the list is dropped for its pane alone. -/
theorem mem_filterLongIdleJobs {previous : List ((String × String) × ℤ)}
    {active : List HubActiveJob} {states : List (String × String)} {now : ℤ} {job : HubActiveJob} :
    job ∈ (dropLongIdleJobs previous active states now).2 ↔
      job ∈ active ∧ (paneIdle states job.pane &&
        (Assoc.get previous (jobIdleKey job)).any fun since =>
          hubJobIdleAfter ≤ now - since) = false := by
  unfold dropLongIdleJobs filterLongIdleJobs
  rw [mem_filter]
  refine and_congr_right fun hjob => ?_
  rw [get_trackJobIdleSince hjob]
  by_cases hi : paneIdle states job.pane = true
  · have hp : job.pane ≠ "" := by
      have := of_decide_eq_true hi
      exact this.1
    cases hpr : Assoc.get previous (jobIdleKey job) with
    | none => simp [hi, hubJobIdleAfter]
    | some since => simp [hi, hp]
  · simp [hi]

theorem NodeView.mem_heartbeatJobs {scanned : List HubScannedJob} {jobID : String} :
    jobID ∈ (view.heartbeatJobs scanned).map (·.jobID) ↔
      ∃ j ∈ scanned, j.job.jobID = jobID ∧ view.longIdle jobID j.job.pane = false := by
  have ha : ∀ job, job ∈ (scanned.map (·.job)).map view.assign ↔
      ∃ j ∈ scanned, view.assign j.job = job := by
    simp [mem_map]
  unfold NodeView.heartbeatJobs NodeView.longIdle
  cases view.snapshot with
  | ok states =>
    simp only [mem_map, mem_filterLongIdleJobs]
    constructor
    · rintro ⟨job, ⟨hjob, hb⟩, rfl⟩
      obtain ⟨j, hj, rfl⟩ := (ha job).mp (by simpa using hjob)
      exact ⟨j, hj, rfl, hb⟩
    · rintro ⟨j, hj, rfl, hb⟩
      exact ⟨view.assign j.job, ⟨by simpa using (ha _).mpr ⟨j, hj, rfl⟩, hb⟩, rfl⟩
  | absent | unavailable => simp [NodeView.assign]

/-- The others that are as new, counted in the inbox. -/
theorem NodeView.length_asNew {d : JobDir} (hd : d ∈ inbox.rows) (hj : view.survivor d = some j) :
    (asNew HubScannedJob.lastEvent (view.survivors inbox) j).length =
      inbox.rows.countP fun d' =>
        d'.name ≠ d.name ∧ view.kept d' ∧ view.latest d ≤ view.latest d' := by
  have hmem : j ∈ view.survivors inbox := mem_filterMap.mpr ⟨d, hd, hj⟩
  rw [asNew, (NodeView.nodup_survivors).erase_eq_filter, filter_filter,
    ← countP_eq_length_filter, NodeView.survivors, countP_filterMap]
  refine countP_congr fun d' hd' => ?_
  rw [← NodeView.survivor_isSome]
  cases hj' : view.survivor d' with
  | none => simp
  | some j' =>
    have hne : j' ≠ j ↔ d'.name ≠ d.name := by
      rw [not_iff_not, ← (NodeView.survivor_eq_some hj).2.1, ← (NodeView.survivor_eq_some hj').2.1]
      refine ⟨fun h => h ▸ rfl, fun h => ?_⟩
      exact NodeView.survivors_inj (mem_filterMap.mpr ⟨d', hd', hj'⟩) hmem h
    simp [(NodeView.survivor_eq_some hj).1, (NodeView.survivor_eq_some hj').1, ← hne, and_comm]

/-- **Every heartbeat lists the job** exactly when `Lists` says so. -/
theorem NodeView.lists_iff {jobID : String} :
    (∀ active, Builds view inbox active → jobID ∈ active.map (·.jobID)) ↔
      view.Lists inbox jobID := by
  have hbui : (∀ active, Builds view inbox active → jobID ∈ active.map (·.jobID)) ↔
      ∀ sorted, Arranged HubScannedJob.lastEvent (view.survivors inbox) sorted →
        ∃ j ∈ sorted.take hubActiveJobLimit, j.job.jobID = jobID ∧
          view.longIdle jobID j.job.pane = false := by
    constructor
    · intro ha sorted hs
      exact NodeView.mem_heartbeatJobs.mp (ha _ ⟨sorted, hs, .refl _⟩)
    · rintro ha active ⟨sorted, hs, hpe⟩
      rw [(hpe.map _).mem_iff]
      exact NodeView.mem_heartbeatJobs.mpr (ha sorted hs)
  rw [hbui]
  constructor
  · intro ha
    have hs := arranged_newestFirst HubScannedJob.lastEvent (view.survivors inbox)
    obtain ⟨j, hj, hid, hb⟩ := ha _ hs
    have hmem : j ∈ view.survivors inbox := hs.perm.mem_iff.mp (mem_of_mem_take hj)
    obtain ⟨d, hd, hso⟩ := mem_filterMap.mp hmem
    obtain ⟨-, hn, hp⟩ := NodeView.survivor_eq_some hso
    obtain rfl : d.name = jobID := hn.symm.trans hid
    refine ⟨d, hd, rfl, ?_, ?_, hp ▸ hb⟩
    · rw [← NodeView.survivor_isSome, hso]
      rfl
    · rw [← NodeView.length_asNew hd hso]
      refine (mem_take_iff NodeView.nodup_survivors hmem _).mp fun sorted hs' => ?_
      -- the job that is listed there has the same id
      obtain ⟨j', hj', hid', -⟩ := ha sorted hs'
      have hmem' := hs'.perm.mem_iff.mp (mem_of_mem_take hj')
      rwa [NodeView.survivors_inj hmem hmem' (hid.trans hid'.symm)]
  · rintro ⟨d, hd, rfl, hk, hfew, hb⟩ sorted hs
    rw [← NodeView.survivor_isSome] at hk
    obtain ⟨j, hj⟩ := Option.isSome_iff_exists.mp hk
    obtain ⟨-, hn, hp⟩ := NodeView.survivor_eq_some hj
    have hmem : j ∈ view.survivors inbox := mem_filterMap.mpr ⟨d, hd, hj⟩
    rw [← NodeView.length_asNew hd hj] at hfew
    exact ⟨j, (mem_take_iff NodeView.nodup_survivors hmem _).mpr hfew sorted hs, hn,
      hp ▸ hb⟩

end Lists

end Panewire.Events
