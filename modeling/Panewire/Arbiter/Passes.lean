import Panewire.Arbiter.Orphans
import Panewire.Arbiter.Histories

/-!
# Passes in any interleaving

A pass reads its snapshots, then the agent list, and then writes; anything may happen between.

* `pass_frees_only_gone` — whatever a pass frees belongs to a job whose snapshot still holds, whose
  label no listed agent carries and whose claims and spawns are old at the time of the write;
* `late_records_kept` — what these guards do not show: a record that was written after the agent
  list was read.

A pass takes the length of the log as its number, so no two passes have the same one.
-/

namespace Panewire.Arbiter

open Data Conc List Option

variable {s t : Sys Shared Answer Label Proc} {w : Ledger} {i : ℕ} {e : Answer} {pass : ℕ}
  {r : Request} {job : String}

/-! ## What a pass remembers is what it saw -/

/-- The reads of a pass that a snapshot rests on, in their order. -/
def snapshotReads (pass : ℕ) (x : String × Snapshot) : List Entry :=
  [.sawState pass x.1 (some x.2.state), .sawClaim pass x.1 x.2.claim]

/-- What a pass remembers stands in the log, in the order in which it read it. -/
def Role.Justified (log : List Entry) : Role → Prop
  | .reading pass snaps => ∀ x ∈ snaps, (snapshotReads pass x).Sublist log
  | .half pass snaps job state => (∀ x ∈ snaps, (snapshotReads pass x).Sublist log) ∧
      [Entry.sawState pass job (some state)].Sublist log
  | .ready pass snaps agents => ∀ x ∈ snaps,
      (snapshotReads pass x ++ [Entry.sawAgents pass (some agents)]).Sublist log
  | _ => True

theorem Role.Justified.mono {log more : List Entry} {g : Role} (h : g.Justified log) :
    g.Justified (log ++ more) := by
  have hmo : ∀ {l : List Entry}, l.Sublist log → l.Sublist (log ++ more) := fun hl =>
    hl.trans (sublist_append_left _ _)
  cases g with
  | reading | ready => exact fun x hx => hmo (h x hx)
  | half pass snaps job state => exact ⟨fun x hx => hmo (h.1 x hx), hmo h.2⟩
  | _ => trivial

/-- A step only adds to the log. -/
theorem Rule.log_grows {l : Label} {s s' : Shared} {g g' : Role} (h : Rule l s e g s' g') :
    ∃ entry, s'.log = s.log ++ [entry] := by
  cases h with
  | ask | write | _ => exact ⟨_, rfl⟩

/-- A step leaves its own pass with a justified memory. -/
theorem Rule.justified {l : Label} {s s' : Shared} {g g' : Role} (h : Rule l s e g s' g')
    (hg : g.Justified s.log) : g'.Justified s'.log := by
  cases h with
  | ask | noAgents | write | other => trivial
  | start => exact fun x hx => by cases hx
  | list | absent => exact hg.mono
  | state =>
    exact ⟨fun x hx => (hg x hx).trans (sublist_append_left _ _), sublist_append_right _ _⟩
  | @claim s e pass snaps job state =>
    intro x hx
    rcases mem_append.mp hx with hx | hx
    · exact (hg.1 x hx).trans (sublist_append_left _ _)
    · obtain rfl := mem_singleton.mp hx
      exact hg.2.append (List.Sublist.refl _)
  | agents => exact fun x hx => (hg x hx).append (List.Sublist.refl _)

theorem justified_keeps :
    protocol.Keeps program limits fun s gs => ∀ g ∈ gs, g.Justified s.log where
  follows r _ := program_follows r
  enter s gs r _ h := by
    intro g hg
    rcases mem_append.mp hg with hg | hg
    · exact h g hg
    · obtain rfl := mem_singleton.mp hg
      cases r with
      | _ => trivial
  rule l s e s' gs i g g' hi _ hru h := by
    intro g₁ hg₁
    rcases mem_or_eq_of_mem_set hg₁ with hold | rfl
    · obtain ⟨entry, hl⟩ := hru.log_grows
      rw [hl]
      exact (h g₁ hold).mono
    · exact hru.justified (h g (mem_of_getElem? hi))
  restart _ _ _ hs := by cases hs

/-- **The write of a pass** uses snapshots and an agent list that the pass read in this order. -/
theorem pass_move (h : Reachable w s) (hm : s.move program limits (.sched i e) = some t)
    (hl : s.label (.sched i e) = some (.call (some pass) r)) :
    ∃ snaps agents, (r = .gc snaps agents ∨ ∃ job, r = .releaseOrphan job snaps agents) ∧
      t.shared = s.shared.perform (some pass) r e ∧
      ∀ x ∈ snaps,
        (snapshotReads pass x ++ [Entry.sawAgents pass (some agents)]).Sublist s.shared.log := by
  obtain ⟨now, hrun⟩ := h
  have hstr : protocol.Holds (fun s gs => ∀ g ∈ gs, g.Justified s.log) (Shared.start w now) :=
    ⟨[], .nil, fun _ hg => by cases hg⟩
  obtain ⟨gs, _, _, g, g', hj, hg, hmo, hru⟩ :=
    (justified_keeps.run hrun hstr).rule_of_move hm hl
  cases hmo
  have hrd : g.Justified s.shared.log := hj g (mem_of_getElem? hg)
  generalize hs' : t.shared = s' at hru
  cases hru with
  | @write _ _ _ snaps agents _ hr => exact ⟨snaps, agents, hr, rfl, hrd⟩

/-! ## The changes of a pass -/

section Changes

variable {cal : Calendar} {now : ℤ} {core core' : Core} {ch : Change} {chs : List Change}
  {q : QuotaRow}

theorem Step.stateOf_of_byPass (h : Step cal now core ch core') (hp : ch.ByPass)
    (hne : ch ≠ .orphaned job) : core'.stateOf job = core.stateOf job := by
  cases h with
  | expire | sweep => rfl
  | @orphan job' moment eligible =>
    have hjob : job' ≠ job := fun heq => hne (by rw [heq])
    rw [Core.stateOf_update, Core.stateOf]
    cases hfi : core.jobs.find job with
    | none => rfl
    | some row =>
      have hrow : row.job ≠ job' := by
        rw [(Table.mem_of_find hfi).2]
        exact hjob.symm
      simp [hrow]
  | _ => exact hp.elim

theorem Step.quota_of_byPass (h : Step cal now core ch core') (hp : ch.ByPass)
    (hq : q ∈ core.quotas) (hne : ∀ q', ch = .swept q' → q'.key ≠ q.key) : q ∈ core'.quotas := by
  cases h with
  | expire | orphan => exact hq
  | @sweep row => exact Table.mem_deleteWhere.mpr ⟨hq, by simpa using (hne row rfl).symm⟩
  | _ => exact hp.elim

/-- A pass that moves a job to released has released it as an orphan. -/
theorem Steps.orphaned_of_released (h : Steps cal now core chs core')
    (hp : ∀ ch ∈ chs, ch.ByPass) (hb : core.stateOf job ≠ some .released)
    (ha : core'.stateOf job = some .released) : .orphaned job ∈ chs := by
  by_contra hn
  refine h.keeps (P := fun core => core.stateOf job ≠ some .released) ?_ hb ha
  intro core ch core' hch hst hne
  rwa [hst.stateOf_of_byPass (hp ch hch) fun heq => hn (heq ▸ hch)]

/-- A pass that deletes a record has swept it. -/
theorem Steps.swept_of_deleted (h : Steps cal now core chs core') (hp : ∀ ch ∈ chs, ch.ByPass)
    (hq : q ∈ core.quotas) (hgo : q ∉ core'.quotas) : ∃ q', .swept q' ∈ chs ∧ q'.key = q.key := by
  by_contra hn
  refine hgo (h.keeps (P := fun core => q ∈ core.quotas) ?_ hq)
  intro core ch core' hch hst hmem
  exact hst.quota_of_byPass (hp ch hch) hmem fun q' heq hk => hn ⟨q', heq ▸ hch, hk⟩

end Changes

/-! ## What a pass frees -/

/-- Something of the job was freed: it became released, or a record of it was deleted. -/
def Db.Freed (db db' : Db) (job : String) : Prop :=
  (db.jobState job ≠ some .released ∧ db'.jobState job = some .released) ∨
    ∃ q ∈ db.core.quotas, q.job = job ∧ q ∉ db'.core.quotas

/-- What a write of a pass frees belongs to a job whose agent is gone. -/
theorem Ledger.gone_of_freed {w' : Ledger} {c : Call} {reply : Reply} {snaps : Snapshots}
    {agents : List Agent} (hr : r = .gc snaps agents ∨ ∃ job, r = .releaseOrphan job snaps agents)
    (h : w.perform r c = (.ok reply, w')) (hfre : w.db.Freed w'.db job) :
    w.db.Gone c.calendar (Assoc.get snaps job) agents (truncate (c.clock 0)) job := by
  obtain ⟨-, o, hrun, rfl⟩ := write_ok h
  rcases hr with rfl | ⟨job', rfl⟩
  · obtain ⟨res, hres, -⟩ := return_ok hrun
    obtain ⟨chs, hst, hc⟩ := gcWrite_frees 0 hres
    have hp : ∀ ch ∈ chs, ch.ByPass := by
      intro ch hch
      rcases hc ch hch with ⟨r, rfl⟩ | ⟨q, -, rfl, -⟩ | ⟨job, rfl, -⟩ <;> trivial
    rcases hfre with ⟨hb, ha⟩ | ⟨q, hq, rfl, hdel⟩
    · have hmem := hst.orphaned_of_released hp hb ha
      rcases hc _ hmem with ⟨r, heq⟩ | ⟨q, -, heq, -⟩ | ⟨job', heq, hgo⟩
      · cases heq
      · cases heq
      · cases heq
        exact hgo
    · obtain ⟨q', hmem, hk⟩ := hst.swept_of_deleted hp hq hdel
      rcases hc _ hmem with ⟨r, heq⟩ | ⟨q'', hq'', heq, hgo⟩ | ⟨job', heq, -⟩
      · cases heq
      · cases heq
        obtain rfl : q' = q := Table.eq_of_key hq'' hq hk
        exact hgo
      · cases heq
  · obtain ⟨orphan, ho, -⟩ := return_ok hrun
    have hst := Steps.single (releaseOrphanWrite_effect 0 ho).1
    have hp : ∀ ch ∈ [Change.orphaned job'], ch.ByPass := by
      intro ch hch
      obtain rfl := mem_singleton.mp hch
      trivial
    rcases hfre with ⟨hb, ha⟩ | ⟨q, hq, -, hgo⟩
    · have hmem := hst.orphaned_of_released hp hb ha
      cases mem_singleton.mp hmem
      exact releaseOrphanWrite_frees ho
    · obtain ⟨q', hmem, -⟩ := hst.swept_of_deleted hp hq hgo
      cases mem_singleton.mp hmem

/-- **A pass frees only jobs whose agents are gone.** When the write of a pass moves a job to
released or deletes a quota-pool record of it, the job has a label that no agent of the list carries
that this pass read; the job's state and latest claim are the ones that the pass saw before it read
that list; and the job has a claim, and all its claims and spawns are ten minutes old. -/
theorem pass_frees_only_gone (h : Reachable w s) (hm : s.move program limits (.sched i e) = some t)
    (hlabel : s.label (.sched i e) = some (.call (some pass) r))
    (hfreed : s.shared.ledger.db.Freed t.shared.ledger.db job) :
    ∃ label agents state claim,
      claimAgentLabel s.shared.ledger.db job = .ok label ∧ label ≠ "" ∧
      (∀ a ∈ agents, a.carries job label = false) ∧
      [Entry.sawState pass job (some state), .sawClaim pass job claim,
        .sawAgents pass (some agents)].Sublist s.shared.log ∧
      s.shared.ledger.db.jobState job = some state ∧
      s.shared.ledger.db.latestClaim job = claim ∧
      (∃ ev ∈ s.shared.ledger.db.events, ev.job = job ∧ isClaimKind ev.kind = true) ∧
      ∀ ev ∈ s.shared.ledger.db.events, ev.job = job →
        isClaimKind ev.kind = true ∨ ev.kind = "job.spawned" →
        ∃ time, parseISO e.call.calendar ev.created = some time ∧
          time + orphanStartupGrace ≤ t.shared.now := by
  obtain ⟨snaps, agents, hr, hsha, hj⟩ := pass_move h hm hlabel
  rw [hsha] at hfreed ⊢
  obtain ⟨hnow, ⟨err, -, hdb, -⟩ | ⟨reply, chs, hok, -⟩⟩ := s.shared.perform_cases (some pass) r e
  · -- a failed write frees nothing
    rw [hdb] at hfreed
    rcases hfreed with ⟨hb, ha⟩ | ⟨q, hq, -, hgo⟩
    · exact absurd ha hb
    · exact absurd hq hgo
  have hp : s.shared.ledger.perform r (s.shared.callOf e) =
    (.ok reply, (s.shared.perform (some pass) r e).ledger) := Prod.ext hok rfl
  obtain ⟨⟨label, hlabel, hne, hn⟩, hsame, hcd, -, hold⟩ :=
    Ledger.gone_of_freed hr hp hfreed
  rw [sameSnapshot, Bool.and_eq_true, decide_eq_true_eq] at hsame
  obtain ⟨snap, hsn⟩ := isSome_iff_exists.mp hsame.1
  have hc : jobSnapshot s.shared.ledger.db job = some snap := hsame.2.symm.trans hsn
  obtain ⟨state, hst, rfl⟩ := map_eq_some_iff.mp hc
  refine ⟨label, agents, state, _, hlabel, hne, hn, hj _ (Assoc.mem_of_get hsn), hst, rfl,
    hcd, fun ev hev hjob hkind => ?_⟩
  have he : isEvidence ev.kind = true := by
    rcases hkind with hcl | hsp
    · exact isEvidence_of_claim hcl
    · exact isEvidence_of_spawn (by simpa using hsp)
  obtain ⟨time, ht, hle⟩ := hold ev hev hjob he
  have hmom := (s.shared.callOf_upTo e).truncate_le 0
  exact ⟨time, ht, by omega⟩

/-- A leased job, and a pass up to its write: the job's claim is old and no agent is listed. -/
def passOverLeased : List (Move Proc Answer) :=
  submit 0 (.claim (workerClaim "j" false)) 0 ++
  submit 1 (.recordQuotaPool ⟨"j", "p", "", "pool", []⟩) 1 ++
  [.start .gc, .sched 2 (.ofSecond 700 []), .sched 2 (.ofSecond 700 []),
    .sched 2 (.ofSecond 700 []), .sched 2 (.ofSecond 700 []), .sched 2 (.ofSecond 700 [])]

/-- The write of this pass. -/
def passWrite : Request := .gc [("j", ⟨.leased, some 1⟩)] []

/-- The pass releases the job, which it saw leased under its first claim. -/
theorem pass_frees_only_gone_leased : ∃ s t, Reachable .empty s ∧
    s.move program limits (.sched 2 (.ofSecond 702 [])) = some t ∧
    t.shared.ledger.db.jobState "j" = some .released ∧
    ∃ agents state claim, [Entry.sawState 2 "j" (some state), .sawClaim 2 "j" claim,
      .sawAgents 2 (some agents)].Sublist s.shared.log := by
  obtain ⟨s, t, hrea, ht, hl, hb, ha⟩ := exists_move (w := .empty) (p := fun s t =>
      s.label (.sched 2 (.ofSecond 702 [])) = some (.call (some 2) passWrite) ∧
      s.shared.ledger.db.jobState "j" ≠ some .released ∧
      t.shared.ledger.db.jobState "j" = some .released)
    passOverLeased (.sched 2 (.ofSecond 702 [])) (by decide +kernel)
  obtain ⟨_, agents, state, claim, -, -, -, hre, -⟩ :=
    pass_frees_only_gone hrea ht hl (.inl ⟨hb, ha⟩)
  exact ⟨s, t, hrea, ht, ha, agents, state, claim, hre⟩

/-! ## Records written after the agent list was read -/

/-- The record was written after the pass read the agent list. -/
def WrittenAfterList (log : List Entry) (pass : ℕ) (q : QuotaRow) : Prop :=
  ∃ agents caller run result, result.row = q ∧
    [Entry.sawAgents pass agents,
      .call caller (.recordQuotaPool run) (.ok (.recorded result))].Sublist log

/-- The records written after the agent list was read whose jobs the guards of the write find
without an agent. -/
def Shared.Missed (s : Shared) (e : Answer) (pass : ℕ) (snaps : Snapshots) (agents : List Agent)
    (q : QuotaRow) : Prop :=
  WrittenAfterList s.log pass q ∧
    s.ledger.db.Gone e.call.calendar (Assoc.get snaps q.job) agents
      (truncate (min (e.call.clock 0) (s.after e))) q.job

/-- **Records written after the agent list was read** are all kept by the pass if the guards of its
write miss none of them, that is, if each of their jobs has another state or latest claim than in
the snapshot, a listed agent, or a claim or spawn that is not ten minutes old. A write that succeeds
keeps them all only then. -/
theorem late_records_kept {snaps : Snapshots} {agents : List Agent} (h : Reachable w s)
    (hm : s.move program limits (.sched i e) = some t)
    (hlabel : s.label (.sched i e) = some (.call (some pass) (.gc snaps agents))) :
    ((∀ q ∈ s.shared.ledger.db.core.quotas, ¬ s.shared.Missed e pass snaps agents q) →
      ∀ q ∈ s.shared.ledger.db.core.quotas, WrittenAfterList s.shared.log pass q →
        q ∈ t.shared.ledger.db.core.quotas) ∧
    ((s.shared.ledger.perform (.gc snaps agents) (s.shared.callOf e)).1.isOk = true →
      (∀ q ∈ s.shared.ledger.db.core.quotas, WrittenAfterList s.shared.log pass q →
        q ∈ t.shared.ledger.db.core.quotas) →
      ∀ q ∈ s.shared.ledger.db.core.quotas, ¬ s.shared.Missed e pass snaps agents q) := by
  obtain ⟨_, _, -, hsha, -⟩ := pass_move h hm hlabel
  rw [hsha]
  rcases hrun : s.shared.ledger.perform (.gc snaps agents) (s.shared.callOf e) with ⟨_ | reply, w'⟩
  · have hdb : (s.shared.perform (some pass) (.gc snaps agents) e).ledger.db =
        s.shared.ledger.db := by
      rw [Shared.perform, hrun]
      exact (write_error hrun).1
    refine ⟨fun _ q hq _ => by rwa [hdb], ?_⟩
    rintro ⟨⟩
  · have hled : (s.shared.perform (some pass) (.gc snaps agents) e).ledger = w' := by
      rw [Shared.perform, hrun]
    rw [hled]
    refine ⟨fun hn q hq hl => ?_, fun _ hk q hq hmis => ?_⟩
    · by_contra hdel
      refine hn q hq ⟨hl, ?_⟩
      exact Ledger.gone_of_freed (.inl rfl) hrun (.inr ⟨q, hq, rfl, hdel⟩)
    · obtain ⟨-, o, hb, rfl⟩ := write_ok hrun
      obtain ⟨res, hres, -⟩ := return_ok hb
      exact gcWrite_sweeps hres hq hmis.2 (hk q hq hmis.1)

/-- A job is claimed and recorded after a pass read the agent list. -/
def claimAfterList : List (Move Proc Answer) :=
  [.start .gc, .sched 0 (.ofSecond 700 []), .sched 0 (.ofSecond 700 []),
    .sched 0 (.ofSecond 700 [])] ++
  submit 1 (.claim (workerClaim "j" false)) 700 ++
  submit 2 (.recordQuotaPool ⟨"j", "p", "", "late", []⟩) 701

/-- The pass keeps the record of the new job, and its guards have not missed it. -/
theorem late_records_kept_claim : ∃ s t q, Reachable .empty s ∧
    s.move program limits (.sched 0 (.ofSecond 702 [])) = some t ∧
    q ∈ s.shared.ledger.db.core.quotas ∧ q ∈ t.shared.ledger.db.core.quotas ∧
    ¬ s.shared.Missed (.ofSecond 702 []) 0 [] [] q := by
  obtain ⟨s, t, hrea, ht, hl, hok, hne, hk⟩ := exists_move (w := .empty) (p := fun s t =>
      s.label (.sched 0 (.ofSecond 702 [])) = some (.call (some 0) (.gc [] [])) ∧
      (s.shared.ledger.perform (.gc [] []) (s.shared.callOf (.ofSecond 702 []))).1.isOk = true ∧
      s.shared.ledger.db.core.quotas.rows ≠ [] ∧
      ∀ q ∈ s.shared.ledger.db.core.quotas.rows, q ∈ t.shared.ledger.db.core.quotas)
    claimAfterList (.sched 0 (.ofSecond 702 [])) (by decide +kernel)
  obtain ⟨q, hq⟩ := exists_mem_of_ne_nil _ hne
  exact ⟨s, t, q, hrea, ht, hq, hk q hq,
    (late_records_kept hrea ht hl).2 hok (fun q hq _ => hk q hq) q hq⟩

/-- The record of a second pool of a leased job. -/
def lateRecord : QuotaRow := ⟨"j", "late", "p", iso (701 * second)⟩

/-- A second record is written for the job between the agent list and the write. -/
def recordAfterList : List (Move Proc Answer) :=
  passOverLeased ++ submit 3 (.recordQuotaPool ⟨"j", "p", "", "late", []⟩) 701

/-- The pass deletes the record that was written after it read the agent list. -/
theorem late_record_deleted : ∃ s t, Reachable .empty s ∧
    s.move program limits (.sched 2 (.ofSecond 702 [])) = some t ∧
    s.label (.sched 2 (.ofSecond 702 [])) = some (.call (some 2) passWrite) ∧
    WrittenAfterList s.shared.log 2 lateRecord ∧
    lateRecord ∈ s.shared.ledger.db.core.quotas ∧ lateRecord ∉ t.shared.ledger.db.core.quotas := by
  obtain ⟨s, t, hrea, ht, hlab, hl, hlive⟩ := exists_move (w := .empty) (p := fun s t =>
      s.label (.sched 2 (.ofSecond 702 [])) = some (.call (some 2) passWrite) ∧
      [Entry.sawAgents 2 (some []), .call none (.recordQuotaPool ⟨"j", "p", "", "late", []⟩)
        (.ok (.recorded ⟨lateRecord, 3⟩))].Sublist s.shared.log ∧
      lateRecord ∈ s.shared.ledger.db.core.quotas ∧ lateRecord ∉ t.shared.ledger.db.core.quotas)
    recordAfterList (.sched 2 (.ofSecond 702 [])) (by decide +kernel)
  exact ⟨s, t, hrea, ht, hlab, ⟨_, _, _, _, rfl, hl⟩, hlive⟩

end Panewire.Arbiter
