import Panewire.HubJobs.Fencing
import Panewire.Events.ActiveScan

/-!
# A job that the heartbeat does not list

The hub reads the absence of an orphaned job from a heartbeat of its owner as a terminal record on
that node, and completes the job. The node leaves a job out for more reasons than that.

* `endedAfterClaim` — what the absence is read as: the inbox holds an end event of the job that is
  later than its newest claim;
* `absence_means_ended_iff` — it is that exactly when every other orphaned job of the node is one
  that all its heartbeats list;
* `dead_pane_completes` — a job whose pane died has no end event, and is completed.
-/

namespace Panewire.HubJobs

open Data Events

/-! ## What absence is read as -/

/-- `f` was written after `g`: its number is higher. Files without one go by their names. -/
def writtenAfter (f g : EventFile) : Bool :=
  match hubEventSequence g.name, hubEventSequence f.name with
  | some m, some n => m < n
  | _, _ => g.name < f.name

/-- **The run is over**: some end event of the job is later than all its claims. -/
def endedAfterClaim (inbox : Inbox) (jobID : String) : Bool :=
  inbox.rows.any fun d => d.name = jobID && d.events.any fun dir =>
    dir.rows.any fun f => f.finishes && dir.rows.all fun g => !g.starts || writtenAfter f g

/-- The hub completes a job because a heartbeat of its owner does not list it. -/
def CompletedByAbsence (h : HubServer) (machineID : String) (active : List HubActiveJob)
    (received : ℤ) (jobID : String) : Prop :=
  jobID ∉ active.map (·.jobID) ∧
    ∃ job, h.job jobID = some job ∧ job.node = machineID ∧ job.orphaned = true ∧
      job.completed = false ∧
      ∃ job', (observeActiveJobs h machineID active received).job jobID = some job' ∧
        job'.completed = true

/-- An orphaned job that waits for its owner to come back. -/
def Awaited (h : HubServer) (machineID jobID : String) : Prop :=
  (h.node machineID).isSome = true ∧
    ∃ job, h.job jobID = some job ∧ job.node = machineID ∧ job.orphaned = true ∧
      job.completed = false

/-- A job that the list does not name is not touched by the list. -/
theorem foldl_observeActiveJob_get {machineID jobID : String} {received : ℤ}
    {active : List HubActiveJob} (habs : jobID ∉ active.map (·.jobID))
    (t : List (String × HubJobRecord)) :
    Assoc.get (active.foldl (observeActiveJob machineID received) t) jobID = Assoc.get t jobID := by
  refine List.foldlRecOn active _ (motive := fun t' => Assoc.get t' jobID = Assoc.get t jobID) rfl
    ?_
  intro t' ht' a ha
  have hid : a.jobID ≠ jobID := fun h => habs (h ▸ List.mem_map_of_mem ha)
  rw [← ht']
  unfold observeActiveJob
  split
  · split
    · rw [Assoc.get_put, if_neg hid]
    · rfl
  · split
    · rfl
    · rw [Assoc.get_put, if_neg hid]

/-- **Absence completes** every job that waits for the node. -/
theorem completedByAbsence_iff {h : HubServer} {machineID : String} {active : List HubActiveJob}
    {received : ℤ} {jobID : String} :
    CompletedByAbsence h machineID active received jobID ↔
      jobID ∉ active.map (·.jobID) ∧ Awaited h machineID jobID := by
  refine and_congr_right fun ha => ?_
  unfold Awaited observeActiveJobs
  cases hn : h.node machineID with
  | none =>
    -- the hub does not know the node: nothing changes
    simp only [Option.isSome_none, Bool.false_eq_true, false_and, iff_false]
    rintro ⟨job, hjob, -, -, ho, job', hjob', hdo⟩
    obtain rfl := Option.some.inj (hjob.symm.trans hjob')
    rw [ho] at hdo
    cases hdo
  | some record =>
    simp only [Option.isSome_some, true_and]
    refine exists_congr fun job => and_congr_right fun hjob => and_congr_right fun hmi =>
      and_congr_right fun horp => ?_
    refine ⟨fun h => h.1, fun ho => ⟨ho, ?_⟩⟩
    have hget : Assoc.get (active.foldl (observeActiveJob machineID received) h.jobs) jobID =
        Assoc.get h.jobs jobID := foldl_observeActiveJob_get ha h.jobs
    refine ⟨observeAbsentJob machineID (active.map (·.jobID)) jobID job, ?_, ?_⟩
    · rw [HubServer.job, Assoc.get_mapValues, hget]
      exact congrArg _ hjob
    · rw [observeAbsentJob, if_pos ⟨ha, hmi, horp⟩]

/-- **Absence is the end of the run** in every heartbeat that the node builds from its inbox,
exactly when each orphaned job that waits for the node, and whose run is not over in the inbox, is
one that every heartbeat lists. -/
theorem absence_means_ended_iff (h : HubServer) (machineID : String) (view : NodeView)
    (inbox : Inbox) :
    (∀ active, Builds view inbox active → ∀ received jobID,
        CompletedByAbsence h machineID active received jobID →
        endedAfterClaim inbox jobID = true) ↔
      ∀ jobID, Awaited h machineID jobID → endedAfterClaim inbox jobID = false →
        view.Lists inbox jobID := by
  constructor
  · intro hall jobID hawa hrun
    refine NodeView.lists_iff.mp fun active hb => ?_
    by_contra ha
    have he := hall active hb 0 jobID (completedByAbsence_iff.mpr ⟨ha, hawa⟩)
    rw [hrun] at he
    cases he
  · intro hl active hb received jobID hc
    obtain ⟨ha, hawa⟩ := completedByAbsence_iff.mp hc
    by_contra hrun
    have hlst := hl jobID hawa (Bool.eq_false_iff.mpr hrun)
    exact ha (NodeView.lists_iff.mpr hlst active hb)

/-! ## A dead pane -/

/-- The events of `job-1`: it was claimed, and its worker runs in pane `p1`. -/
def claimedAndSpawned : EventsDir where
  rows :=
    [⟨"00001-job.claim.json", 90,
        some ⟨⟨[("kind", .str "job.claim"), ("agent_label", .str "worker")], by decide⟩, .absent⟩,
        100⟩,
      ⟨"00002-job.spawned.json", 80,
        some ⟨⟨[("kind", .str "job.spawned"), ("pane_id", .str "p1")], by decide⟩, .absent⟩, 110⟩]
  nodup := by decide

def sampleInbox : Inbox where
  rows := [⟨"job-1", some claimedAndSpawned⟩]
  nodup := by decide

/-- The node is back after a restart of its pane manager: no pane is alive. -/
def samplePanesGone : NodeView where
  clock :=
    { times := ⟨fun _ => "", fun _ => none⟩, now := 600, activeMaxAge := 1000, staleAge := 1000 }
  alive := some []

/-- `node-a` was lost with `job-1`, and has connected again. -/
def sampleReturned : HubServer :=
  HubServer.run [.connect "node-a" 1 100,
    .heartbeat "node-a" [{ jobID := "job-1", agentLabel := "worker" }] 110,
    .disconnect "node-a" 1 200, .sweep 60 300, .connect "node-a" 2 500]

/-- **A dead pane completes its job**: the node leaves the job out, and the hub takes that for an
end event that nobody wrote. -/
theorem dead_pane_completes :
    Builds samplePanesGone sampleInbox [] ∧
      CompletedByAbsence sampleReturned "node-a" [] 600 "job-1" ∧
      endedAfterClaim sampleInbox "job-1" = false := by
  have hn : samplePanesGone.survivors sampleInbox = [] := by decide +kernel
  have ha : sampleReturned.job "job-1" = some
      { active := { jobID := "job-1", agentLabel := "worker" }, node := "node-a", lastSeen := 110,
        orphaned := true } := by
    decide +kernel
  refine ⟨⟨[], hn ▸ ⟨.nil, .nil⟩, .nil⟩, completedByAbsence_iff.mpr ?_, by decide +kernel⟩
  exact ⟨by decide, by decide +kernel, _, ha, rfl, rfl, rfl⟩

end Panewire.HubJobs
