import Panewire.HubJobs.State

/-!
# Ownership and fencing of jobs

Everything but a reassignment leaves the owner, the epoch and the fenced nodes of every job alone:
such operations only **grow** the table (`Grows`). A reassignment raises one epoch by one and fences
exactly the past owners. From these two facts, what holds of the table after every sequence of
operations.

* `HubServer.apply_cases` — an operation is quiet, or hands one orphaned job to another node.
* `Sound` — the invariant of the table.
* `job_table_sound` — epochs, ownership, completion, fences and pending revocations in every run.
-/

namespace Panewire.HubJobs

open Data Hub HubServer HubJobRecord List Assoc

variable {t : List (String × HubJobRecord)} {jobID machineID target : String} {job : HubJobRecord}
  {h : HubServer} {id : String} {received : ℤ} {a b : HubJobRecord} {op : Op}

/-! ## Quiet changes -/

/-- What an operation other than a reassignment may do to a record. -/
structure HubJobRecord.Evolves (a b : HubJobRecord) : Prop where
  node : b.node = a.node
  epoch : b.epoch = a.epoch
  fenced : b.fencedNodes = a.fencedNodes
  reassignments : b.reassignments = a.reassignments
  completed : a.completed → b.completed
  orphaned : (a.completed → a.orphaned = false) → b.completed → b.orphaned = false

theorem HubJobRecord.Evolves.refl (a : HubJobRecord) : a.Evolves a :=
  ⟨rfl, rfl, rfl, rfl, fun h => h, fun h => h⟩

theorem HubJobRecord.Evolves.trans {c : HubJobRecord} (hab : a.Evolves b) (hbc : b.Evolves c) :
    a.Evolves c where
  node := hbc.node.trans hab.node
  epoch := hbc.epoch.trans hab.epoch
  fenced := hbc.fenced.trans hab.fenced
  reassignments := hbc.reassignments.trans hab.reassignments
  completed := fun h => hbc.completed (hab.completed h)
  orphaned := fun h => hbc.orphaned (hab.orphaned h)

/-- A record that was just registered. -/
structure HubJobRecord.Fresh (a : HubJobRecord) : Prop where
  epoch : a.epoch = 1
  fenced : a.fencedNodes = []
  reassignments : a.reassignments = []
  orphaned : a.completed → a.orphaned = false

theorem HubJobRecord.Fresh.evolves (ha : a.Fresh) (hab : a.Evolves b) : b.Fresh where
  epoch := hab.epoch.trans ha.epoch
  fenced := hab.fenced.trans ha.fenced
  reassignments := hab.reassignments.trans ha.reassignments
  orphaned := hab.orphaned ha.orphaned

/-- No record is lost, the records that were there evolve, and new ones are fresh. -/
structure Grows (t t' : List (String × HubJobRecord)) : Prop where
  old : ∀ id a, Assoc.get t id = some a → ∃ b, Assoc.get t' id = some b ∧ a.Evolves b
  new : ∀ id b, Assoc.get t id = none → Assoc.get t' id = some b → b.Fresh

theorem Grows.refl (t : List (String × HubJobRecord)) : Grows t t where
  old := fun _ a h => ⟨a, h, .refl a⟩
  new := fun _ _ hn hs => by rw [hn] at hs; cases hs

theorem Grows.trans {t' t'' : List (String × HubJobRecord)} (h : Grows t t')
    (h' : Grows t' t'') : Grows t t'' where
  old := by
    intro id a ha
    obtain ⟨b, hb, hab⟩ := h.old id a ha
    obtain ⟨c, hc, hbc⟩ := h'.old id b hb
    exact ⟨c, hc, hab.trans hbc⟩
  new := by
    intro id c hn hc
    cases hb : Assoc.get t' id with
    | none => exact h'.new id c hb hc
    | some b =>
      obtain ⟨c', hc', hbc⟩ := h'.old id b hb
      obtain rfl := Option.some.inj (hc'.symm.trans hc)
      exact (h.new id b hn hb).evolves hbc

/-- A loop whose every turn grows the table grows it. -/
theorem Grows.foldl {α : Type} {f : List (String × HubJobRecord) → α → List (String × HubJobRecord)}
    (hf : ∀ t a, Grows t (f t a)) (l : List α) (t : List (String × HubJobRecord)) :
    Grows t (l.foldl f t) :=
  List.foldlRecOn l f (motive := Grows t) (.refl t) fun b hb a _ => hb.trans (hf b a)

theorem Grows.put_old
    (ha : Assoc.get t id = some a) (hab : a.Evolves b) : Grows t (Assoc.put t id b) where
  old := by
    intro id' a' ha'
    rw [get_put]
    by_cases hid : id = id'
    · subst hid
      obtain rfl := Option.some.inj (ha.symm.trans ha')
      exact ⟨b, if_pos rfl, hab⟩
    · exact ⟨a', by rw [if_neg hid, ha'], .refl a'⟩
  new := by
    intro id' b' hn hb'
    have hid : id ≠ id' := by rintro rfl; rw [ha] at hn; cases hn
    rw [get_put, if_neg hid, hn] at hb'
    cases hb'

theorem Grows.put_new (hn : Assoc.get t id = none) (hb : b.Fresh) : Grows t (Assoc.put t id b) where
  old := by
    intro id' a' ha'
    have hid : id ≠ id' := by rintro rfl; rw [hn] at ha'; cases ha'
    exact ⟨a', by rw [get_put, if_neg hid, ha'], .refl a'⟩
  new := by
    intro id' b' hn' hb'
    rw [get_put] at hb'
    split at hb'
    · cases hb'
      exact hb
    · rw [hn'] at hb'
      cases hb'

theorem Grows.mapValues {f : String → HubJobRecord → HubJobRecord}
    (hf : ∀ id (a : HubJobRecord), a.Evolves (f id a)) (t : List (String × HubJobRecord)) :
    Grows t (Assoc.mapValues f t) where
  old := fun id a ha => ⟨f id a, by rw [get_mapValues, ha]; rfl, hf id a⟩
  new := fun id b hn hb => by rw [get_mapValues, hn] at hb; cases hb

/-! ## The handlers -/

/-- What an operation other than a reassignment does to the hub. -/
structure Quiet (h h' : HubServer) : Prop where
  jobs : Grows h.jobs h'.jobs
  pending : ∀ key epoch, Assoc.get h'.pendingRevocations key = some epoch →
    Assoc.get h.pendingRevocations key = some epoch

theorem Quiet.refl (h : HubServer) : Quiet h h := ⟨.refl _, fun _ _ hget => hget⟩

theorem Quiet.of_pending_eq {h' : HubServer} (hj : Grows h.jobs h'.jobs)
    (hpd : h'.pendingRevocations = h.pendingRevocations) : Quiet h h' :=
  ⟨hj, fun key epoch hget => by rwa [hpd] at hget⟩

theorem observeActiveJob_grows (machineID : String) (received : ℤ)
    (t : List (String × HubJobRecord)) (job : HubActiveJob) :
    Grows t (observeActiveJob machineID received t job) := by
  unfold observeActiveJob
  split
  · next hn =>
    split
    · next hone => exact .put_new hn ⟨hone, rfl, rfl, fun h => nomatch h⟩
    · exact .refl t
  · next current hc =>
    split
    · exact .refl t
    · next hmi =>
      -- the owner at the hub's epoch: the epoch that is stored is the one that was there
      push Not at hmi
      exact .put_old hc ⟨rfl, hmi.2.2.symm, rfl, rfl, fun h => h, fun _ _ => rfl⟩

theorem observeAbsentJob_evolves (machineID : String) (seen : List String) (id : String)
    (a : HubJobRecord) : a.Evolves (observeAbsentJob machineID seen id a) := by
  unfold observeAbsentJob
  split
  · exact ⟨rfl, rfl, rfl, rfl, fun _ => rfl, fun _ _ => rfl⟩
  · exact .refl a

theorem observeActiveJobs_quiet (h : HubServer) (machineID : String) (active : List HubActiveJob)
    (received : ℤ) : Quiet h (observeActiveJobs h machineID active received) := by
  unfold observeActiveJobs
  split
  · exact .refl h
  · have hl := Grows.foldl (observeActiveJob_grows machineID received) active h.jobs
    exact .of_pending_eq (hl.trans (.mapValues (observeAbsentJob_evolves machineID _) _)) rfl

theorem HubServer.current_eq_some {event : HubJobEventPayload}
    (hc : h.current machineID event = some job) :
    h.job event.jobID = some job ∧ job.epoch = event.epoch ∧ job.node = machineID := by
  obtain ⟨hjob, hp⟩ := Option.filter_eq_some_iff.mp hc
  exact ⟨hjob, by simpa using hp⟩

theorem observeJobEnd_quiet (h : HubServer) (machineID : String) (event : HubJobEventPayload)
    (received : ℤ) : Quiet h (observeJobEnd h machineID event received) := by
  unfold observeJobEnd
  split
  · exact .refl h
  · next job hc =>
    have ho : job.Evolves (job.finish received) :=
      ⟨rfl, rfl, rfl, rfl, fun _ => rfl, fun _ _ => rfl⟩
    exact .of_pending_eq (.put_old (current_eq_some hc).1 ho) rfl

theorem lateRegisterJobCompletion_quiet (h : HubServer) (machineID : String)
    (completion : HubJobEventPayload) (received : ℤ) :
    Quiet h (lateRegisterJobCompletion h machineID completion received) := by
  unfold lateRegisterJobCompletion
  split
  · exact .refl h
  · split
    · exact .refl h
    · next hn => exact .of_pending_eq (.put_new hn ⟨rfl, rfl, rfl, fun _ => rfl⟩) rfl

theorem orphanJob_grows (machineID : String) (t : List (String × HubJobRecord))
    (listed : String × HubActiveJob) : Grows t (orphanJob machineID t listed) := by
  unfold orphanJob
  split
  · exact .refl t
  · next job hjob =>
    split
    · exact .refl t
    · next hl =>
      push Not at hl
      exact .put_old hjob ⟨rfl, rfl, rfl, rfl, fun h => h, fun _ h => absurd h hl.1⟩

theorem sweepNode_grows (orphanGrace now : ℤ) (t : List (String × HubJobRecord))
    (node : String × HubNodeRecord) : Grows t (sweepNode orphanGrace now t node) := by
  unfold sweepNode
  split
  · exact .refl t
  · exact .foldl (orphanJob_grows node.1) _ t

theorem Quiet.mapNode (h : HubServer) (machineID : String) (f : HubNodeRecord → HubNodeRecord) :
    Quiet h (h.mapNode machineID f) := by
  unfold HubServer.mapNode
  split
  · exact .refl h
  · exact .of_pending_eq (.refl _) rfl

/-! ## One step -/

theorem acknowledgeRevocation_quiet (h : HubServer) (machineID : String)
    (ack : HubJobEventPayload) : Quiet h (acknowledgeRevocation h machineID ack) := by
  unfold acknowledgeRevocation
  split
  · refine ⟨.refl _, ?_⟩
    intro key epoch hget
    rw [get_del] at hget
    split at hget
    · cases hget
    · exact hget
  · exact .refl h

theorem HubServer.reassignable_eq_some {tokens : List String}
    (hjob : h.reassignable tokens jobID target = some job) :
    h.job jobID = some job ∧ job.orphaned = true ∧ job.completed = false ∧ job.node ≠ target := by
  unfold reassignable at hjob
  split at hjob
  · cases hjob
  · obtain ⟨hget, hp⟩ := Option.filter_eq_some_iff.mp hjob
    exact ⟨hget, by simpa using hp⟩

/-- The hub after `job`, one that may be handed over, went to `target`. -/
def HubServer.handOver (h : HubServer) (jobID target : String) (job : HubJobRecord) (now : ℤ) :
    HubServer :=
  { h with
    jobs := Assoc.put h.jobs jobID (job.reassign target now)
    pendingRevocations := (job.reassign target now).fencedNodes.foldl (enqueueRevocation jobID)
      (Assoc.del h.pendingRevocations (target, jobID)) }

/-- **An operation is quiet, or hands one job over.** -/
theorem HubServer.apply_cases (h : HubServer) (op : Op) :
    Quiet h (h.apply op) ∨
      ∃ tokens jobID target now job, op = .reassign tokens jobID target now ∧
        h.reassignable tokens jobID target = some job ∧
        h.apply op = h.handOver jobID target job now := by
  cases op with
  | heartbeat machine active received =>
    exact .inl (observeActiveJobs_quiet h machine active received)
  | completed machine event received | revoked machine event received =>
    exact .inl (observeJobEnd_quiet h machine event received)
  | lateRegister machine event received =>
    exact .inl (lateRegisterJobCompletion_quiet h machine event received)
  | acknowledge machine ack => exact .inl (acknowledgeRevocation_quiet h machine ack)
  | sweep orphanGrace now =>
    exact .inl (.of_pending_eq (.foldl (sweepNode_grows orphanGrace now) h.nodes h.jobs) rfl)
  | reassign tokens jobID target now =>
    change Quiet h (reassignJob h tokens jobID target now) ∨ _
    cases hjob : h.reassignable tokens jobID target with
    | none => exact .inl (by rw [reassignJob, hjob]; exact .refl h)
    | some job =>
      have hmv : reassignJob h tokens jobID target now = h.handOver jobID target job now := by
        rw [reassignJob, hjob]; rfl
      exact .inr ⟨tokens, jobID, target, now, job, rfl, hjob, hmv⟩
  | connect machine agent now => exact .inl (.of_pending_eq (.refl _) rfl)
  | touch machine | stale machine | disconnect machine => exact .inl (.mapNode h machine _)

/-! ## Fences -/

/-- The fenced nodes are the past owners other than the current one, at the current epoch. -/
def HubJobRecord.FencesPast (job : HubJobRecord) : Prop :=
  ∀ node epoch, Assoc.get job.fencedNodes node = some epoch ↔
    (node ∈ job.pastOwners ∧ node ≠ job.node) ∧ epoch = job.epoch

theorem HubJobRecord.Fresh.fencesPast (h : job.Fresh) : job.FencesPast := by
  intro node epoch
  simp [pastOwners, h.fenced, h.reassignments, Assoc.get]

theorem HubJobRecord.FencesPast.evolves (ha : a.FencesPast) (hab : a.Evolves b) : b.FencesPast := by
  intro node epoch
  rw [hab.fenced, hab.node, hab.epoch, pastOwners, hab.reassignments]
  exact ha node epoch

theorem HubJobRecord.pastOwners_reassign (job : HubJobRecord) (target : String) (now : ℤ) :
    (job.reassign target now).pastOwners = job.pastOwners ++ [job.node] := by
  simp [pastOwners, HubJobRecord.reassign]

theorem HubJobRecord.FencesPast.reassign
    (hjob : job.FencesPast) (htg : job.node ≠ target) (now : ℤ) :
    (job.reassign target now).FencesPast := by
  intro node epoch
  have hget : Assoc.get (job.reassign target now).fencedNodes node =
      if job.node = node then some (job.epoch + 1)
      else (if target = node then none else Assoc.get job.fencedNodes node).map
        fun _ => job.epoch + 1 := by
    rw [HubJobRecord.reassign, get_put, get_mapValues, get_del]
  have hep : (job.reassign target now).epoch = job.epoch + 1 := rfl
  have hn : (job.reassign target now).node = target := rfl
  rw [hget, job.pastOwners_reassign, hep, hn, mem_append]
  by_cases hfr : job.node = node
  · subst hfr
    simp [htg, eq_comm]
  rw [if_neg hfr]
  by_cases hto : target = node
  · simp [hto]
  rw [if_neg hto]
  -- a node that was fenced before stays so, at the new epoch
  have hold : (∃ e, Assoc.get job.fencedNodes node = some e) ↔ node ∈ job.pastOwners := by
    constructor
    · rintro ⟨e, he⟩
      exact ((hjob node e).mp he).1.1
    · intro hp
      exact ⟨job.epoch, (hjob node job.epoch).mpr ⟨⟨hp, Ne.symm hfr⟩, rfl⟩⟩
  rw [Option.map_eq_some_iff, exists_and_right, hold]
  simp [Ne.symm hfr, Ne.symm hto, eq_comm]

/-! ## Pending revocations -/

theorem enqueueRevocation_get {pending : List ((String × String) × ℕ)}
    {fenced : String × ℕ} {key : String × String} {epoch : ℕ}
    (h : Assoc.get (enqueueRevocation jobID pending fenced) key = some epoch) :
    (∃ old, Assoc.get pending key = some old) ∨ key = (fenced.1, jobID) := by
  have hp : ∀ {e}, Assoc.get (Assoc.put pending (fenced.1, jobID) fenced.2) key = some e →
      (∃ old, Assoc.get pending key = some old) ∨ key = (fenced.1, jobID) := by
    intro e he
    rw [get_put] at he
    split at he
    · next hk => exact .inr hk.symm
    · exact .inl ⟨e, he⟩
  unfold enqueueRevocation at h
  split at h
  · exact hp h
  · split at h
    · exact hp h
    · exact .inl ⟨epoch, h⟩

/-- Only fenced nodes of the job get a new revocation. -/
theorem enqueueRevocations_get {key : String × String} :
    ∀ {fenced : List (String × ℕ)} {pending : List ((String × String) × ℕ)} {epoch : ℕ},
      Assoc.get (fenced.foldl (enqueueRevocation jobID) pending) key = some epoch →
      (∃ old, Assoc.get pending key = some old) ∨ ∃ e ∈ fenced, key = (e.1, jobID) := by
  intro fenced
  induction fenced with
  | nil => intro pending epoch h; exact .inl ⟨epoch, h⟩
  | cons e rest ih =>
    intro pending epoch h
    obtain ⟨old, hold⟩ | ⟨e', he', hk⟩ := ih h
    · obtain hmem | hk := enqueueRevocation_get hold
      · exact .inl hmem
      · exact .inr ⟨e, mem_cons_self, hk⟩
    · exact .inr ⟨e', mem_cons_of_mem _ he', hk⟩

theorem HubJobRecord.reassign_fenced_ne {now : ℤ} {e : String × ℕ} (htg : job.node ≠ target)
    (he : e ∈ (job.reassign target now).fencedNodes) : e.1 ≠ target := by
  obtain rfl | hre := mem_cons.mp he
  · exact htg
  · obtain ⟨e', he', rfl⟩ := mem_map.mp (mem_of_mem_filter hre)
    simpa using (mem_filter.mp he').2

/-! ## The invariant -/

/-- What holds of the table after every sequence of operations. -/
structure Sound (h : HubServer) : Prop where
  orphaned : ∀ id job, h.job id = some job → job.completed → job.orphaned = false
  fenced : ∀ id job, h.job id = some job → job.FencesPast
  pending : ∀ machine id epoch, Assoc.get h.pendingRevocations (machine, id) = some epoch →
    ∃ job, h.job id = some job ∧ job.node ≠ machine

theorem Sound.quiet {h' : HubServer} (hs : Sound h) (hq : Quiet h h') : Sound h' := by
  have hrc : ∀ id b, h'.job id = some b →
      b.Fresh ∨ ∃ a, h.job id = some a ∧ a.Evolves b := by
    intro id b hb
    cases ha : h.job id with
    | none => exact .inl (hq.jobs.new id b ha hb)
    | some a =>
      obtain ⟨b', hb', hab⟩ := hq.jobs.old id a ha
      obtain rfl := Option.some.inj (hb'.symm.trans hb)
      exact .inr ⟨a, rfl, hab⟩
  refine ⟨?_, ?_, ?_⟩
  · intro id b hb
    obtain hfr | ⟨a, ha, hab⟩ := hrc id b hb
    · exact hfr.orphaned
    · exact hab.orphaned (hs.orphaned id a ha)
  · intro id b hb
    obtain hfr | ⟨a, ha, hab⟩ := hrc id b hb
    · exact hfr.fencesPast
    · exact (hs.fenced id a ha).evolves hab
  · intro machine id epoch hget
    obtain ⟨a, ha, hne⟩ := hs.pending machine id epoch (hq.pending _ _ hget)
    obtain ⟨b, hb, hab⟩ := hq.jobs.old id a ha
    exact ⟨b, hb, hab.node ▸ hne⟩

theorem HubServer.job_handOver (h : HubServer) (jobID target : String) (job : HubJobRecord)
    (now : ℤ) (id : String) :
    (h.handOver jobID target job now).job id =
      if jobID = id then some (job.reassign target now) else h.job id :=
  get_put _ _ _ _

theorem Sound.handOver {tokens : List String} (hs : Sound h)
    (hjob : h.reassignable tokens jobID target = some job)
    (now : ℤ) : Sound (h.handOver jobID target job now) := by
  obtain ⟨hget, -, -, htg⟩ := reassignable_eq_some hjob
  refine ⟨?_, ?_, ?_⟩
  · intro id b hb
    rw [job_handOver] at hb
    split at hb
    · cases hb
      exact fun _ => rfl
    · exact hs.orphaned id b hb
  · intro id b hb
    rw [job_handOver] at hb
    split at hb
    · cases hb
      exact (hs.fenced jobID job hget).reassign htg now
    · exact hs.fenced id b hb
  · intro machine id epoch hpd
    rw [job_handOver]
    obtain ⟨old, hold⟩ | ⟨e, he, hk⟩ := enqueueRevocations_get hpd
    · -- a revocation that was pending before, and not one of the new owner
      rw [get_del] at hold
      split at hold
      · cases hold
      next hk =>
      obtain ⟨a, ha, hne⟩ := hs.pending machine id old hold
      split
      · next hid =>
        subst hid
        refine ⟨_, rfl, fun ht => hk ?_⟩
        rw [← ht]; rfl
      · exact ⟨a, ha, hne⟩
    · obtain ⟨rfl, rfl⟩ := Prod.mk.inj hk
      refine ⟨_, if_pos rfl, fun ht => ?_⟩
      exact reassign_fenced_ne htg he ht.symm

theorem Sound.apply (hs : Sound h) (op : Op) : Sound (h.apply op) := by
  obtain hq | ⟨tokens, jobID, target, now, job, -, hjob, hap⟩ := h.apply_cases op
  · exact hs.quiet hq
  · rw [hap]
    exact hs.handOver hjob now

theorem Sound.run (ops : List Op) : Sound (run ops) := by
  refine List.foldlRecOn ops HubServer.apply (motive := Sound) ?_ fun h hs op _ => hs.apply op
  exact ⟨fun _ _ h => (nomatch h), fun _ _ h => (nomatch h), fun _ _ _ h => (nomatch h)⟩

/-! ## Messages of others -/

/-- A message that does not speak for the owner of a job at the job's epoch. A heartbeat carries
an epoch for each job that it lists. -/
def Op.Foreign (id : String) (job : HubJobRecord) : Op → Prop
  | .heartbeat machine active _ =>
    machine ≠ job.node ∨
      (id ∈ active.map (·.jobID) ∧ ∀ a ∈ active, a.jobID = id → a.epoch ≠ job.epoch)
  | .completed machine event _ => machine ≠ job.node ∨ event.epoch ≠ job.epoch
  | .revoked machine event _ => machine ≠ job.node ∨ event.epoch ≠ job.epoch
  | .lateRegister machine event _ => machine ≠ job.node ∨ event.epoch ≠ job.epoch
  | .acknowledge machine ack => machine ≠ job.node ∨ ack.epoch ≠ job.epoch
  | _ => False

theorem observeActiveJob_foreign {a : HubActiveJob} (hjob : Assoc.get t id = some job)
    (ha : a.jobID = id → machineID ≠ job.node ∨ a.epoch ≠ job.epoch) :
    Assoc.get (observeActiveJob machineID received t a) id = some job := by
  unfold observeActiveJob
  by_cases hid : a.jobID = id
  · rw [hid, hjob]
    have hs : job.completed ∨ job.node ≠ machineID ∨ job.epoch ≠ a.epoch := by
      obtain hne | hne := ha hid
      · exact .inr (.inl (Ne.symm hne))
      · exact .inr (.inr (Ne.symm hne))
    simp only [if_pos hs, hjob]
  · have hp : ∀ r, Assoc.get (Assoc.put t a.jobID r) id = some job := by
      intro r
      rw [get_put, if_neg hid, hjob]
    split
    · split
      · exact hp _
      · exact hjob
    · split
      · exact hjob
      · exact hp _

theorem observeActiveJobs_foreign {active : List HubActiveJob} (hjob : h.job id = some job)
    (hfor : (Op.heartbeat machineID active received).Foreign id job) :
    (observeActiveJobs h machineID active received).job id = some job := by
  unfold observeActiveJobs
  split
  · exact hjob
  -- no entry of the list touches the record
  have hl : Assoc.get (active.foldl (observeActiveJob machineID received) h.jobs) id =
      some job := by
    refine List.foldlRecOn active _ (motive := fun t => Assoc.get t id = some job) hjob ?_
    intro t ht a ha
    refine observeActiveJob_foreign ht fun hid => ?_
    exact hfor.imp (fun hne => hne) fun hall => hall.2 a ha hid
  have hp : observeAbsentJob machineID (active.map (·.jobID)) id job = job := by
    refine if_neg fun habs => ?_
    obtain hne | hall := hfor
    · exact hne habs.2.1.symm
    · exact habs.1 hall.1
  rw [HubServer.job, get_mapValues, hl, Option.map_some, hp]

theorem observeJobEnd_foreign {event : HubJobEventPayload}
    (hjob : h.job id = some job) (hfor : machineID ≠ job.node ∨ event.epoch ≠ job.epoch) :
    (observeJobEnd h machineID event received).job id = some job := by
  unfold observeJobEnd
  split
  · exact hjob
  next current hc =>
  obtain ⟨hget, hep, hn⟩ := current_eq_some hc
  have hid : event.jobID ≠ id := by
    intro hid
    obtain rfl := Option.some.inj (hget.symm.trans (hid ▸ hjob))
    obtain hne | hne := hfor
    · exact hne hn.symm
    · exact hne hep.symm
  rw [HubServer.job, get_put, if_neg hid]
  exact hjob

theorem lateRegisterJobCompletion_keeps {completion : HubJobEventPayload}
    (hjob : h.job id = some job) :
    (lateRegisterJobCompletion h machineID completion received).job id = some job := by
  unfold lateRegisterJobCompletion
  split
  · exact hjob
  split
  · exact hjob
  · next hn =>
    have hid : completion.jobID ≠ id := by
      rintro rfl
      rw [hjob] at hn
      cases hn
    rw [HubServer.job, get_put, if_neg hid]
    exact hjob

theorem HubServer.apply_foreign (hjob : h.job id = some job) (hfor : op.Foreign id job) :
    (h.apply op).job id = some job := by
  cases op with
  | heartbeat machine active received => exact observeActiveJobs_foreign hjob hfor
  | completed | revoked => exact observeJobEnd_foreign hjob hfor
  | lateRegister machine event received => exact lateRegisterJobCompletion_keeps hjob
  | acknowledge machine ack =>
    change (acknowledgeRevocation h machine ack).job id = some job
    unfold acknowledgeRevocation
    split <;> exact hjob
  | _ => exact hfor.elim

/-! ## Every run -/

/-- What one operation may do to the record of a job: nothing to its ownership, or hand it over,
which happens to orphaned jobs only. -/
structure Step (op : Op) (id : String) (job job' : HubJobRecord) : Prop where
  owner : (job'.epoch = job.epoch ∧ job'.node = job.node ∧ job'.pastOwners = job.pastOwners) ∨
    ∃ tokens target now, op = .reassign tokens id target now ∧ job.completed = false ∧
      job'.epoch = job.epoch + 1 ∧ job'.node = target ∧
      job'.pastOwners = job.pastOwners ++ [job.node]
  foreign : op.Foreign id job → job' = job
  completed : job.completed → job'.completed

theorem HubServer.apply_step (op : Op)
    (hjob : h.job id = some job) :
    ∃ job', (h.apply op).job id = some job' ∧ Step op id job job' := by
  obtain hq | ⟨tokens, jobID, target, now, moved, rfl, hmv, hap⟩ := h.apply_cases op
  · obtain ⟨job', hjob', he⟩ := hq.jobs.old id job hjob
    refine ⟨job', hjob', .inl ⟨he.epoch, he.node, ?_⟩, fun hfor => ?_, he.completed⟩
    · rw [pastOwners, he.reassignments, pastOwners]
    · exact Option.some.inj (hjob'.symm.trans (apply_foreign hjob hfor))
  rw [hap, job_handOver]
  obtain ⟨hget, -, hl, -⟩ := reassignable_eq_some hmv
  by_cases hid : jobID = id
  · subst hid
    obtain rfl := Option.some.inj (hget.symm.trans hjob)
    refine ⟨_, if_pos rfl, .inr ⟨tokens, target, now, rfl, hl, rfl, rfl, ?_⟩,
      fun hfor => hfor.elim, fun hdo => hdo⟩
    exact moved.pastOwners_reassign target now
  · exact ⟨job, by rw [if_neg hid, hjob],
      .inl ⟨rfl, rfl, rfl⟩, fun hfor => hfor.elim, fun hdo => hdo⟩

/-- A record through any number of operations: its epoch only rises, and once the job is completed
neither its owner nor its epoch changes any more. -/
structure Later (job job' : HubJobRecord) : Prop where
  epoch : job.epoch ≤ job'.epoch
  completed : job.completed → job'.completed ∧ job'.epoch = job.epoch ∧ job'.node = job.node ∧
    job'.pastOwners = job.pastOwners

theorem Step.later {c : HubJobRecord} (hab : Later a b) (hbc : Step op id b c) : Later a c := by
  obtain ⟨hep, hn, hp⟩ | ⟨_, _, _, _, hl, hep, _⟩ := hbc.owner
  · refine ⟨hep ▸ hab.epoch, fun hdo => ?_⟩
    obtain ⟨hdo', hep', hn', hp'⟩ := hab.completed hdo
    exact ⟨hbc.completed hdo', hep.trans hep', hn.trans hn', hp.trans hp'⟩
  · refine ⟨by have := hab.epoch; omega, fun hdo => ?_⟩
    rw [(hab.completed hdo).1] at hl
    cases hl

theorem HubServer.later (ops : List Op) (hjob : h.job id = some job) :
    ∃ job', (ops.foldl HubServer.apply h).job id = some job' ∧ Later job job' := by
  refine List.foldlRecOn ops HubServer.apply
    (motive := fun h' => ∃ job', h'.job id = some job' ∧ Later job job') ?_ ?_
  · exact ⟨job, hjob, le_rfl, fun hdo => ⟨hdo, rfl, rfl, rfl⟩⟩
  · rintro h' ⟨b, hb, hl⟩ op -
    obtain ⟨c, hc, hs⟩ := apply_step op hb
    exact ⟨c, hc, hs.later hl⟩

theorem HubServer.apply_new (hn : h.job id = none) (hjob : (h.apply op).job id = some job) :
    job.epoch = 1 ∧ job.pastOwners = [] := by
  obtain hq | ⟨tokens, jobID, target, now, moved, rfl, hmv, hap⟩ := h.apply_cases op
  · have hfr := hq.jobs.new id job hn hjob
    exact ⟨hfr.epoch, by rw [pastOwners, hfr.reassignments]; rfl⟩
  · have hid : jobID ≠ id := by
      rintro rfl
      rw [(reassignable_eq_some hmv).1] at hn
      cases hn
    rw [hap, job_handOver, if_neg hid, hn] at hjob
    cases hjob

/-- **The job table.** After any sequence of operations: the next one changes the owner and the
epoch of a job only by a reassignment, which raises the epoch by one, and a foreign message changes
nothing; epochs never fall and a completed job stays completed with its owner; a new job starts at
epoch 1; no completed job is orphaned; the fences are the past owners other than the current one at
the current epoch; and no pending revocation is for the owner of its job. -/
theorem job_table_sound (ops : List Op) :
    let h := run ops
    (∀ op id job, h.job id = some job →
      ∃ job', (h.apply op).job id = some job' ∧ Step op id job job') ∧
    (∀ later id job, h.job id = some job →
      ∃ job', (run (ops ++ later)).job id = some job' ∧ Later job job') ∧
    (∀ op id job, h.job id = none → (h.apply op).job id = some job →
      job.epoch = 1 ∧ job.pastOwners = []) ∧
    (∀ id job, h.job id = some job → (job.completed → job.orphaned = false) ∧ job.FencesPast) ∧
    (∀ machine id epoch job, Assoc.get h.pendingRevocations (machine, id) = some epoch →
      h.job id = some job → job.node ≠ machine) := by
  intro h
  have hs : Sound h := Sound.run ops
  refine ⟨?_, ?_, ?_, ?_, ?_⟩
  · intro op id job hjob
    exact apply_step op hjob
  · intro later id job hjob
    rw [run, foldl_append]
    exact HubServer.later later hjob
  · intro op id job hn hjob
    exact apply_new hn hjob
  · intro id job hjob
    exact ⟨hs.orphaned id job hjob, hs.fenced id job hjob⟩
  · intro machine id epoch job hpd hjob
    obtain ⟨job', hjob', hne⟩ := hs.pending machine id epoch hpd
    obtain rfl := Option.some.inj (hjob'.symm.trans hjob)
    exact hne

end Panewire.HubJobs
