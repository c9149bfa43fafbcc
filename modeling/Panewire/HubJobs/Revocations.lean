import Panewire.HubJobs.Fencing
import Panewire.Conc.Machine

/-!
# The way of a revocation to its node

A revocation that is pending for a node is copied under the hub's lock, sent to the channel of the
node's connection after the lock is released, and written by the connection's own goroutine. Nothing
takes it back on the way. A job may go back to a node that lost it; its pending revocation is then
deleted, but one that is already **on its way** is not.

* `Pipeline` — the hub with the local state of the calls and the writers;
* `revocation_not_to_owner` — no revocation is written to the owner of its job, in every run in
  which no job is handed to a node while a revocation of it for that node is on its way;
* `revocation_reaches_new_owner` — otherwise the new owner is told to stop.
-/

namespace Panewire.HubJobs

open Data Hub Conc List

structure HubJobRevokedEvent where
  jobID : String
  epoch : ℕ
  deriving DecidableEq

/-- A connection: the node and the number of the connection. -/
abbrev Agent : Type := String × ℕ

/-- A call of `tryPendingRevocations` after it has released the lock, with the events that it has
not sent yet. -/
structure Batch where
  agent : Agent
  events : List HubJobRevokedEvent
  deriving DecidableEq

/-- A revocation that was written, and the owner of its job at that moment. -/
structure Delivery where
  machine : String
  event : HubJobRevokedEvent
  owner : Option String
  deriving DecidableEq

structure Pipeline where
  hub : HubServer := {}
  /-- the nodes for which `tryPendingRevocations` has been called and has not copied yet -/
  calls : List String := []
  batches : List Batch := []
  channels : List (Agent × List HubJobRevokedEvent) := []
  /-- what the writer of a connection has received from the channel and not written yet -/
  taken : List (Agent × HubJobRevokedEvent) := []
  /-- the connections whose writer has returned -/
  stopped : List Agent := []
  written : List Delivery := []
  deriving DecidableEq

/-- The capacity of the channel of a connection. -/
def revocationsCapacity : ℕ := 64

variable (p : Pipeline)

def Pipeline.channel (agent : Agent) : List HubJobRevokedEvent :=
  (Assoc.get p.channels agent).getD []

def Pipeline.owner (jobID : String) : Option String :=
  (p.hub.job jobID).map (·.node)

/-! ## Steps -/

/-- The node whose pending revocations the operation tries after its critical section. -/
def callAfter (h : HubServer) : Op → Option String
  | .heartbeat machine _ _ => (h.node machine).map fun _ => machine
  | .connect machine _ _ => some machine
  | .reassign tokens jobID target _ => (h.reassignable tokens jobID target).map (·.node)
  | _ => none

/-- The revocations that are pending for a node. -/
def pendingEvents (h : HubServer) (machineID : String) : List HubJobRevokedEvent :=
  ((Assoc.entries h.pendingRevocations).filter fun e => e.1.1 = machineID).map
    fun e => ⟨e.1.2, e.2⟩

/-- `tryPendingRevocations` under the lock: copy what is pending and find the connection. -/
def Pipeline.copy (machineID : String) : Option Pipeline :=
  if machineID ∈ p.calls then
    match (p.hub.node machineID).bind (·.agent) with
    | none => some { p with calls := p.calls.erase machineID }
    | some agent =>
      some { p with
        calls := p.calls.erase machineID
        batches := ⟨(machineID, agent), pendingEvents p.hub machineID⟩ :: p.batches }
  else none

/-- What `queueRevocation` leaves in the channel: a full one drops the event. -/
def Pipeline.send (agent : Agent) (event : HubJobRevokedEvent) :
    List (Agent × List HubJobRevokedEvent) :=
  if (p.channel agent).length < revocationsCapacity then
    Assoc.put p.channels agent (p.channel agent ++ [event])
  else p.channels

/-- `queueRevocation`, for one more event of a call. The events of a map come in any order. -/
def Pipeline.queueRevocation (batch : Batch) (event : HubJobRevokedEvent) : Option Pipeline :=
  if batch ∈ p.batches ∧ event ∈ batch.events then
    some { p with
      batches := { batch with events := batch.events.erase event } :: p.batches.erase batch
      channels := p.send batch.agent event }
  else none

/-- `writeRevocations` receives the next event. -/
def Pipeline.take (agent : Agent) : Option Pipeline :=
  match p.channel agent, Assoc.get p.taken agent with
  | event :: rest, none =>
    if p.stopped.contains agent then none
    else some { p with
      channels := Assoc.put p.channels agent rest
      taken := Assoc.put p.taken agent event }
  | _, _ => none

/-- `writeRevocations` writes the event that it received; an error ends the writer. -/
def Pipeline.write (agent : Agent) (failed : Bool) : Option Pipeline :=
  match Assoc.get p.taken agent, failed with
  | none, _ => none
  | some _, true =>
    some { p with taken := Assoc.del p.taken agent, stopped := agent :: p.stopped }
  | some event, false =>
    some { p with
      taken := Assoc.del p.taken agent
      written := ⟨agent.1, event, p.owner event.jobID⟩ :: p.written }

inductive Act where
  | op (op : Op)
  | copy (machineID : String)
  | queueRevocation (batch : Batch) (event : HubJobRevokedEvent)
  | take (agent : Agent)
  | write (agent : Agent) (failed : Bool)

def Pipeline.step : Act → Option Pipeline
  | .op op => some { p with hub := p.hub.apply op, calls := (callAfter p.hub op).toList ++ p.calls }
  | .copy machineID => p.copy machineID
  | .queueRevocation batch event => p.queueRevocation batch event
  | .take agent => p.take agent
  | .write agent failed => p.write agent failed

/-! ## On the way -/

/-- The revocations that were copied and neither written nor dropped, with their nodes. -/
def Pipeline.onWay : List (String × HubJobRevokedEvent) :=
  p.batches.flatMap (fun b => b.events.map fun e => (b.agent.1, e)) ++
    p.channels.flatMap (fun c => c.2.map fun e => (c.1.1, e)) ++
    p.taken.map fun t => (t.1.1, t.2)

variable {event : HubJobRevokedEvent}

theorem Pipeline.mem_onWay {p : Pipeline} {machine : String} :
    (machine, event) ∈ p.onWay ↔
      (∃ b ∈ p.batches, b.agent.1 = machine ∧ event ∈ b.events) ∨
      (∃ c ∈ p.channels, c.1.1 = machine ∧ event ∈ c.2) ∨
      ∃ t ∈ p.taken, t.1.1 = machine ∧ t.2 = event := by
  simp only [Pipeline.onWay, mem_append, mem_flatMap, mem_map, Prod.mk.injEq, or_assoc]
  grind

/-- No job is handed to a node while a revocation of it for that node is on its way. -/
def clearWay : Act → Bool
  | .op (.reassign tokens jobID target _) =>
    (p.hub.reassignable tokens jobID target).isNone ||
      p.onWay.all fun w => ¬ (w.1 = target ∧ w.2.jobID = jobID)
  | _ => true

def anyAct (_ : Pipeline) (_ : Act) : Bool := true

/-- The job of the event is known, and belongs to another node. -/
def Lost (h : HubServer) (machine : String) (event : HubJobRevokedEvent) : Prop :=
  ∃ job, h.job event.jobID = some job ∧ job.node ≠ machine

/-- **The way is clear**: whatever is on its way goes to a node that has lost the job. -/
structure Pipeline.Clear (p : Pipeline) : Prop where
  sound : Sound p.hub
  onWay : ∀ machine event, (machine, event) ∈ p.onWay → Lost p.hub machine event
  written : ∀ d ∈ p.written, d.owner ≠ some d.machine

variable {agent : Agent}

/-- What a channel holds is on its way. -/
theorem Pipeline.onWay_of_channel {p : Pipeline}
    (h : event ∈ p.channel agent) : (agent.1, event) ∈ p.onWay := by
  unfold Pipeline.channel at h
  cases hget : Assoc.get p.channels agent with
  | none => rw [hget] at h; cases h
  | some events =>
    rw [hget] at h
    exact Pipeline.mem_onWay.mpr (.inr (.inl ⟨_, Assoc.mem_of_get hget, rfl, h⟩))

/-- What the channels hold after a send was there before, or is the event. -/
theorem Pipeline.mem_send {p : Pipeline} {e : HubJobRevokedEvent}
    {c : Agent × List HubJobRevokedEvent} (hc : c ∈ p.send agent event) (he : e ∈ c.2) :
    c ∈ p.channels ∨ ((e ∈ p.channel agent ∨ e = event) ∧ c.1 = agent) := by
  unfold Pipeline.send at hc
  split at hc
  · obtain rfl | hold := mem_cons.mp hc
    · exact .inr ⟨by simpa using he, rfl⟩
    · exact .inl (mem_of_mem_filter hold)
  · exact .inl hc

namespace Pipeline.Clear

variable {p p' : Pipeline}

/-- A step that puts nothing new on its way. -/
theorem of_less (hp : p.Clear) (hh : p'.hub = p.hub)
    (hway : ∀ machine event, (machine, event) ∈ p'.onWay → (machine, event) ∈ p.onWay)
    (hwri : p'.written = p.written) : p'.Clear where
  sound := hh ▸ hp.sound
  onWay := fun machine event hw => hh ▸ hp.onWay machine event (hway machine event hw)
  written := hwri ▸ hp.written

theorem op (hp : p.Clear) {op : Op} (hc : clearWay p (.op op) = true) (calls : List String) :
    Pipeline.Clear { p with hub := p.hub.apply op, calls } := by
  refine ⟨hp.sound.apply op, fun machine event hw => ?_, hp.written⟩
  obtain ⟨job, hjob, hne⟩ := hp.onWay machine event hw
  obtain hq | ⟨tokens, jobID, target, now, moved, rfl, hmv, hap⟩ := p.hub.apply_cases op
  · obtain ⟨job', hjob', he⟩ := hq.jobs.old _ job hjob
    exact ⟨job', hjob', he.node ▸ hne⟩
  simp only [Lost, hap, HubServer.job_handOver]
  by_cases hid : jobID = event.jobID
  · -- the job goes to `target`, for which nothing of this job is on its way
    refine ⟨_, if_pos hid, ?_⟩
    intro htg
    obtain rfl : target = machine := htg
    simp only [clearWay, hmv, Option.isNone_some, Bool.false_or, all_eq_true] at hc
    have := hc (target, event) hw
    simp [hid] at this
  · exact ⟨job, by rw [if_neg hid, hjob], hne⟩

theorem copy (hp : p.Clear) {machineID : String} (h : p.copy machineID = some p') : p'.Clear := by
  unfold Pipeline.copy at h
  split at h
  · split at h
    · cases h
      exact hp.of_less rfl (fun _ _ hw => hw) rfl
    next agent _ =>
    cases h
    refine ⟨hp.sound, fun machine event hw => ?_, hp.written⟩
    obtain ⟨b, hb, hag, hev⟩ | hre := Pipeline.mem_onWay.mp hw
    · obtain rfl | hold := mem_cons.mp hb
      · -- what was copied just now is pending
        obtain ⟨e, he, rfl⟩ := mem_map.mp hev
        obtain ⟨hent, hmc⟩ := mem_filter.mp he
        obtain ⟨job, hjob, hne⟩ :=
          hp.sound.pending e.1.1 e.1.2 e.2 (Assoc.get_of_mem_entries hent)
        have hm : e.1.1 = machine := (of_decide_eq_true hmc).trans hag
        exact ⟨job, hjob, hm ▸ hne⟩
      · exact hp.onWay machine event (Pipeline.mem_onWay.mpr (.inl ⟨b, hold, hag, hev⟩))
    · exact hp.onWay machine event (Pipeline.mem_onWay.mpr (.inr hre))
  · cases h

theorem queueRevocation (hp : p.Clear) {batch : Batch}
    (h : p.queueRevocation batch event = some p') : p'.Clear := by
  unfold Pipeline.queueRevocation at h
  split at h
  · next hmem =>
    cases h
    refine hp.of_less rfl (fun machine e hw => ?_) rfl
    obtain ⟨b, hb, hag, he⟩ | ⟨c, hc, hag, he⟩ | htk := Pipeline.mem_onWay.mp hw
    · refine Pipeline.mem_onWay.mpr (.inl ?_)
      obtain rfl | hold := mem_cons.mp hb
      · exact ⟨batch, hmem.1, hag, mem_of_mem_erase he⟩
      · exact ⟨b, mem_of_mem_erase hold, hag, he⟩
    · obtain hold | ⟨hc', hto⟩ := Pipeline.mem_send hc he
      · exact Pipeline.mem_onWay.mpr (.inr (.inl ⟨c, hold, hag, he⟩))
      · rw [hto] at hag
        obtain hin | rfl := hc'
        · exact hag ▸ Pipeline.onWay_of_channel hin
        · exact Pipeline.mem_onWay.mpr (.inl ⟨batch, hmem.1, hag, hmem.2⟩)
    · exact Pipeline.mem_onWay.mpr (.inr (.inr htk))
  · cases h

theorem take (hp : p.Clear) (h : p.take agent = some p') : p'.Clear := by
  unfold Pipeline.take at h
  split at h
  · next event rest hcha _ =>
    have hin : ∀ e ∈ event :: rest, (agent.1, e) ∈ p.onWay := fun e he =>
      Pipeline.onWay_of_channel (hcha ▸ he)
    split at h
    · cases h
    cases h
    refine hp.of_less rfl (fun machine e hw => ?_) rfl
    obtain hb | ⟨c, hc, hag, he⟩ | ⟨t, ht, hag, he⟩ := Pipeline.mem_onWay.mp hw
    · exact Pipeline.mem_onWay.mpr (.inl hb)
    · obtain rfl | hold := mem_cons.mp hc
      · exact hag ▸ hin e (mem_cons_of_mem _ he)
      · refine Pipeline.mem_onWay.mpr (.inr (.inl ⟨c, ?_, hag, he⟩))
        exact mem_of_mem_filter hold
    · obtain rfl | hold := mem_cons.mp ht
      · exact hag ▸ he ▸ hin event mem_cons_self
      · refine Pipeline.mem_onWay.mpr (.inr (.inr ⟨t, ?_, hag, he⟩))
        exact mem_of_mem_filter hold
  · cases h

theorem write (hp : p.Clear) {failed : Bool} (h : p.write agent failed = some p') : p'.Clear := by
  have hl : ∀ machine event written stopped, (machine, event) ∈
      Pipeline.onWay { p with taken := Assoc.del p.taken agent, written, stopped } →
      (machine, event) ∈ p.onWay := by
    intro machine event written stopped hw
    obtain hb | hc | ⟨t, ht, hag, he⟩ := Pipeline.mem_onWay.mp hw
    · exact Pipeline.mem_onWay.mpr (.inl hb)
    · exact Pipeline.mem_onWay.mpr (.inr (.inl hc))
    · exact Pipeline.mem_onWay.mpr (.inr (.inr ⟨t, mem_of_mem_filter ht, hag, he⟩))
  unfold Pipeline.write at h
  split at h
  · cases h
  · cases h
    exact hp.of_less rfl (fun machine e hw => hl machine e p.written _ hw) rfl
  next event htk =>
  cases h
  refine ⟨hp.sound, fun machine e hw => ?_, fun d hd => ?_⟩
  · exact hp.onWay machine e (hl machine e _ p.stopped hw)
  · obtain rfl | hold := mem_cons.mp hd
    · -- the event was on its way, so the job is another node's
      have hway : (agent.1, event) ∈ p.onWay :=
        Pipeline.mem_onWay.mpr (.inr (.inr ⟨_, Assoc.mem_of_get htk, rfl, rfl⟩))
      obtain ⟨job, hjob, hne⟩ := hp.onWay _ _ hway
      simpa [Pipeline.owner, hjob] using hne
    · exact hp.written d hold

theorem step (hp : p.Clear) {a : Act} (hc : clearWay p a = true) (h : p.step a = some p') :
    p'.Clear := by
  cases a with
  | op op => cases h; exact hp.op hc _
  | copy machineID => exact hp.copy h
  | queueRevocation batch event => exact hp.queueRevocation h
  | take agent => exact hp.take h
  | write agent failed => exact hp.write h

end Pipeline.Clear

/-- **No revocation is written to the owner of its job**, in every run in which no job is handed to
a node while a revocation of it for that node is on its way. -/
theorem revocation_not_to_owner {p : Pipeline} (hrun : Reach Pipeline.step clearWay {} p) :
    ∀ d ∈ p.written, d.owner ≠ some d.machine := by
  have hi : Pipeline.Clear {} :=
    ⟨Sound.run [], fun _ _ h => absurd h not_mem_nil, fun _ h => absurd h not_mem_nil⟩
  have hc : p.Clear := hrun.keeps hi fun _ _ _ hp hok hs => hp.step hok hs
  exact hc.written

/-! ## There and back -/

/-- `node-a` has `job-1`, is lost, and the job goes to `node-b`. -/
def toNodeB : List Act :=
  [.op (.connect "node-a" 1 100), .copy "node-a",
    .op (.heartbeat "node-a" [{ jobID := "job-1", agentLabel := "worker" }] 110), .copy "node-a",
    .op (.stale "node-a" 200), .op (.sweep 60 300),
    .op (.reassign ["node-a", "node-b"] "job-1" "node-b" 310)]

/-- `node-b` reports the job, is lost, and the job goes back to `node-a`. -/
def backToNodeA : List Act :=
  [.op (.connect "node-b" 2 320), .copy "node-b",
    .op (.heartbeat "node-b" [{ jobID := "job-1", agentLabel := "worker", epoch := 2 }] 330),
    .copy "node-b", .op (.stale "node-b" 400), .op (.sweep 60 500),
    .op (.reassign ["node-a", "node-b"] "job-1" "node-a" 510)]

/-- The revocation that the first reassignment left for `node-a`. -/
def firstRevocation : HubJobRevokedEvent := ⟨"job-1", 2⟩

def nodeAConnection : Agent := ("node-a", 1)

/-- The first reassignment queues its revocation; the writer gets to it only after the second. -/
def lateWrite : List Act :=
  toNodeB ++
    [.copy "node-a", .queueRevocation ⟨nodeAConnection, [firstRevocation]⟩ firstRevocation] ++
    backToNodeA ++ [.take nodeAConnection, .write nodeAConnection false]

/-- **The new owner is told to stop**: a revocation in the channel of `node-a` is written after the
job went back to it. -/
theorem revocation_reaches_new_owner : ∃ p, Reach Pipeline.step anyAct {} p ∧
    p.written = [⟨"node-a", firstRevocation, some "node-a"⟩] := by
  exact Reach.exists_of_replay lateWrite (by decide +kernel)

/-- The revocation is written before the job goes back. -/
def earlyWrite : List Act :=
  toNodeB ++
    [.copy "node-a", .queueRevocation ⟨nodeAConnection, [firstRevocation]⟩ firstRevocation,
      .take nodeAConnection, .write nodeAConnection false] ++ backToNodeA

theorem revocation_not_to_owner_early : ∃ p, Reach Pipeline.step clearWay {} p ∧
    p.written = [⟨"node-a", firstRevocation, some "node-b"⟩] ∧
    ∀ d ∈ p.written, d.owner ≠ some d.machine := by
  exact Reach.exists_of_replay_and earlyWrite (by decide +kernel) fun _ hrun _ =>
    revocation_not_to_owner hrun

end Panewire.HubJobs
