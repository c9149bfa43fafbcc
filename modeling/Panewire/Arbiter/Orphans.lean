import Panewire.Arbiter.Effects
import Panewire.Data.Results
import Mathlib.Data.List.Dedup

/-!
# What a pass must have found out before it frees a job

`Db.Gone` is what the guards of a pass amount to, in terms of the rows: the job has a label that no
listed agent carries, its state and latest claim are those of its snapshot, and everything that
shows it to be starting is ten minutes old. `judge_stale_iff` says that a pass retires a job in
exactly this case.
-/

namespace Panewire.Arbiter

open Data List

variable {cal : Calendar} {db db' : Db} {snaps : Snapshots} {agents : List Agent} {moment : ℤ}
  {job : String}

/-! ## The guards read the evidence only -/

theorem Db.evidence_filter (db : Db) (job : String) (kinds : String → Bool)
    (hks : ∀ k, kinds k = true → isEvidence k = true) :
    (db.events.rows.filter fun e => e.job = job && kinds e.kind) =
      db.evidence.filter fun e => e.job = job && kinds e.kind := by
  rw [Db.evidence, filter_filter]
  refine filter_congr fun e _ => ?_
  cases hk : kinds e.kind with
  | false => simp
  | true => simp [hks _ hk]

theorem isEvidence_of_claim {kind : String} (h : isClaimKind kind = true) :
    isEvidence kind = true := by
  rw [isEvidence, h, Bool.true_or]

theorem isEvidence_of_spawn {kind : String} (h : decide (kind = "job.spawned") = true) :
    isEvidence kind = true := by
  rw [isEvidence, h, Bool.or_true]

theorem Db.latestClaim_congr (h : db'.evidence = db.evidence) (job : String) :
    db'.latestClaim job = db.latestClaim job := by
  rw [latestClaim, latestClaim, db'.evidence_filter job _ fun _ => isEvidence_of_claim,
    db.evidence_filter job _ fun _ => isEvidence_of_claim, h]

theorem claimAgentLabel_congr (h : db'.evidence = db.evidence) (job : String) :
    claimAgentLabel db' job = claimAgentLabel db job := by
  have he : db'.claimEvents job = db.claimEvents job := by
    rw [Db.claimEvents, Db.claimEvents, db'.evidence_filter job _ fun _ => isEvidence_of_claim,
      db.evidence_filter job _ fun _ => isEvidence_of_claim, h]
  rw [claimAgentLabel, claimAgentLabel, he]

/-! ## The startup grace -/

/-- `latest` is the largest of the times and the zero time. -/
theorem latest_le_iff {ts : List ℤ} {bound : ℤ} :
    latest ts ≤ bound ↔ zeroTime ≤ bound ∧ ∀ t ∈ ts, t ≤ bound := by
  have hfo : ∀ (ts : List ℤ) (m : ℤ),
      ts.foldl (fun m t => if m < t then t else m) m ≤ bound ↔ m ≤ bound ∧ ∀ t ∈ ts, t ≤ bound := by
    intro ts
    induction ts with
    | nil => simp
    | cons t ts ih =>
      intro m
      rw [foldl_cons, ih, forall_mem_cons]
      split
      · next hlt => exact ⟨fun h => ⟨by omega, h⟩, fun h => h.2⟩
      · next hlt => exact ⟨fun h => ⟨h.1, by omega, h.2⟩, fun h => ⟨h.1, h.2.2⟩⟩
  exact hfo ts zeroTime

/-- The times that `eventTimes` returns are those of the events, if all of them can be read. -/
theorem Db.eventTimes_ok {kinds : String → Bool} {ts : List ℤ}
    (h : db.eventTimes cal job kinds = .ok ts) :
    (∀ e ∈ db.events, e.job = job → kinds e.kind = true →
      ∃ t ∈ ts, parseISO cal e.created = some t) ∧
    ∀ t ∈ ts, ∃ e ∈ db.events, e.job = job ∧ kinds e.kind = true ∧
      parseISO cal e.created = some t := by
  refine ⟨fun e he hjob hkind => ?_, fun t ht => ?_⟩
  · obtain ⟨t, ht, he⟩ := exists_of_mapM_ok h (a := e) (mem_filter.mpr ⟨he, by simp [hjob, hkind]⟩)
    split at he
    · next ht' => exact ⟨t, ht, by rw [ht', Except.ok.inj he]⟩
    · cases he
  · obtain ⟨e, he, hte⟩ := exists_of_mem_mapM h ht
    obtain ⟨hmem, hc⟩ := mem_filter.mp he
    rw [Bool.and_eq_true, decide_eq_true_eq] at hc
    split at hte
    · next ht' => exact ⟨e, hmem, hc.1, hc.2, by rw [ht', Except.ok.inj hte]⟩
    · cases hte

theorem Db.exists_eventTimes {kinds : String → Bool}
    (h : ∀ e ∈ db.events, e.job = job → kinds e.kind = true →
      ∃ t, parseISO cal e.created = some t) : ∃ ts, db.eventTimes cal job kinds = .ok ts := by
  refine mapM_ok_of_forall fun e he => ?_
  obtain ⟨hmem, hc⟩ := mem_filter.mp he
  rw [Bool.and_eq_true, decide_eq_true_eq] at hc
  obtain ⟨t, ht⟩ := h e hmem hc.1 hc.2
  exact ⟨t, by rw [ht]⟩

/-- What `startupBlocker` decides once it has read the times. -/
theorem startupBlocker_ok_iff {all claims spawns : List ℤ}
    (ha : db.eventTimes cal job (fun k => isClaimKind k || k = "job.spawned") = .ok all)
    (hc : db.eventTimes cal job isClaimKind = .ok claims)
    (hs : db.eventTimes cal job (fun k => k = "job.spawned") = .ok spawns) :
    startupBlocker cal db job moment = .ok none ↔
      claims ≠ [] ∧ latest claims ≤ moment - orphanStartupGrace ∧
        (spawns ≠ [] → latest spawns ≤ moment - orphanStartupGrace) := by
  rw [startupBlocker, ha, hc, hs]
  change (if claims = [] then _ else _) = _ ↔ _
  by_cases hn : claims = []
  · simp [hn]
  by_cases hcl : moment - latest claims < orphanStartupGrace
  · have hl : ¬ latest claims ≤ moment - orphanStartupGrace := by omega
    simp [hn, hcl, hl]
  have he : latest claims ≤ moment - orphanStartupGrace := by omega
  by_cases hsp : spawns ≠ [] ∧ moment - latest spawns < orphanStartupGrace
  · have hl : ¬ latest spawns ≤ moment - orphanStartupGrace := by omega
    simp [hn, hcl, hsp, hl]
  · have hold : spawns ≠ [] → latest spawns ≤ moment - orphanStartupGrace := by
      intro hne
      rw [not_and] at hsp
      have := hsp hne
      omega
    rw [if_neg hn, if_neg hcl, if_neg hsp]
    exact iff_of_true rfl ⟨hn, he, hold⟩

/-- **The startup grace is over** exactly when the job has a claim and all its claims and spawns
are ten minutes old. Go's zero time counts as a time of each, so that the clock must have passed
it too. -/
theorem startupBlocker_none_iff :
    startupBlocker cal db job moment = .ok none ↔
      (∃ e ∈ db.events, e.job = job ∧ isClaimKind e.kind = true) ∧
      zeroTime + orphanStartupGrace ≤ moment ∧
      ∀ e ∈ db.events, e.job = job → isEvidence e.kind = true →
        ∃ t, parseISO cal e.created = some t ∧ t + orphanStartupGrace ≤ moment := by
  constructor
  · intro h
    obtain ⟨all, ha, h'⟩ := except_bind_ok.mp h
    obtain ⟨claims, hc, h'⟩ := except_bind_ok.mp h'
    obtain ⟨spawns, hs, -⟩ := except_bind_ok.mp h'
    obtain ⟨hne, hcl, hsp⟩ := (startupBlocker_ok_iff ha hc hs).mp h
    obtain ⟨hz, hcl⟩ := latest_le_iff.mp hcl
    refine ⟨?_, by omega, fun e he hjob hkind => ?_⟩
    · obtain ⟨t, ht⟩ := exists_mem_of_ne_nil _ hne
      obtain ⟨e, he, hjob, hkind, -⟩ := (Db.eventTimes_ok hc).2 t ht
      exact ⟨e, he, hjob, hkind⟩
    · rcases (Bool.or_eq_true _ _).mp hkind with hk | hk
      · obtain ⟨t, ht, hp⟩ := (Db.eventTimes_ok hc).1 e he hjob hk
        have := hcl t ht
        exact ⟨t, hp, by omega⟩
      · obtain ⟨t, ht, hp⟩ := (Db.eventTimes_ok hs).1 e he hjob hk
        have := (latest_le_iff.mp (hsp (ne_nil_of_mem ht))).2 t ht
        exact ⟨t, hp, by omega⟩
  · rintro ⟨⟨e, he, hjob, hkind⟩, hz, hold⟩
    have hre : ∀ kinds : String → Bool, (∀ k, kinds k = true → isEvidence k = true) →
        ∃ ts, db.eventTimes cal job kinds = .ok ts ∧ ∀ t ∈ ts, t ≤ moment - orphanStartupGrace := by
      intro kinds hks
      have hp : ∀ e ∈ db.events, e.job = job → kinds e.kind = true →
          ∃ t, parseISO cal e.created = some t ∧ t + orphanStartupGrace ≤ moment :=
        fun e he hjob hk => hold e he hjob (hks _ hk)
      obtain ⟨ts, hts⟩ := Db.exists_eventTimes fun e he hjob hk =>
        (hp e he hjob hk).imp fun _ h => h.1
      refine ⟨ts, hts, fun t ht => ?_⟩
      obtain ⟨e, he, hjob, hk, hti⟩ := (Db.eventTimes_ok hts).2 t ht
      obtain ⟨t', ht', hle⟩ := hp e he hjob hk
      rw [hti] at ht'
      cases ht'
      omega
    obtain ⟨all, ha, -⟩ := hre (fun k => isClaimKind k || k = "job.spawned") fun _ hk => hk
    obtain ⟨claims, hc, hcl⟩ := hre isClaimKind fun _ => isEvidence_of_claim
    obtain ⟨spawns, hs, hsp⟩ := hre (fun k => k = "job.spawned") fun _ =>
      isEvidence_of_spawn
    have hbd : zeroTime ≤ moment - orphanStartupGrace := by omega
    refine (startupBlocker_ok_iff ha hc hs).mpr
      ⟨?_, latest_le_iff.mpr ⟨hbd, hcl⟩, fun _ => latest_le_iff.mpr ⟨hbd, hsp⟩⟩
    obtain ⟨t, ht, -⟩ := (Db.eventTimes_ok hc).1 e he hjob hkind
    exact ne_nil_of_mem ht

/-! ## The verdict of a pass -/

/-- **The agent of a job is gone**, as far as a pass can know that has this snapshot of the job and
this agent list. -/
structure Db.Gone (db : Db) (cal : Calendar) (snap : Option Snapshot) (agents : List Agent)
    (moment : ℤ) (job : String) : Prop where
  /-- the job's label is known, and no listed agent carries it -/
  label : ∃ label, claimAgentLabel db job = .ok label ∧ label ≠ "" ∧
    ∀ a ∈ agents, a.carries job label = false
  /-- the job's state and latest claim are those of the snapshot -/
  snapshot : sameSnapshot snap (jobSnapshot db job) = true
  claimed : ∃ e ∈ db.events, e.job = job ∧ isClaimKind e.kind = true
  /-- the clock is past Go's zero time and the grace -/
  era : zeroTime + orphanStartupGrace ≤ moment
  /-- every claim and spawn is old -/
  old : ∀ e ∈ db.events, e.job = job → isEvidence e.kind = true →
    ∃ t, parseISO cal e.created = some t ∧ t + orphanStartupGrace ≤ moment

theorem matchedStatuses_eq_nil_iff {label : String} :
    (matchedStatuses agents job label).1 = [] ↔ ∀ a ∈ agents, a.carries job label = false := by
  rw [matchedStatuses, ← length_eq_zero_iff, length_insertionSort, length_eq_zero_iff,
    dedup_eq_nil, map_eq_nil_iff, List.filter_eq_nil_iff]
  simp

theorem matchedStatuses_carried_iff {label : String} :
    (matchedStatuses agents job label).2 = false ↔ ∀ a ∈ agents, a.carries job label = false := by
  rw [matchedStatuses, Bool.not_eq_false', List.isEmpty_iff]
  simp

/-- **A pass retires a job** exactly when its agent is gone. -/
theorem judge_stale_iff :
    (∃ label statuses carried, judge cal db snaps agents moment job =
      .ok (.stale label statuses carried)) ↔
    db.Gone cal (Assoc.get snaps job) agents moment job := by
  constructor
  · rintro ⟨label, statuses, carried, h⟩
    obtain ⟨label', hl, h⟩ := except_bind_ok.mp h
    split at h
    · cases h
    next hnil =>
    split at h
    next statuses' carried' hmt =>
    split at h
    · cases h
    split at h
    · cases h
    next ho =>
    split at h
    · cases h
    next hsame =>
    obtain ⟨b, hs, hb⟩ := except_bind_ok.mp h
    cases b with
    | some reason => cases hb
    | none =>
      obtain ⟨hcd, he, hold⟩ := startupBlocker_none_iff.mp hs
      have hn : (matchedStatuses agents job label').1 = [] := by rw [hmt, not_not.mp ho]
      exact ⟨⟨label', hl, hnil, matchedStatuses_eq_nil_iff.mp hn⟩, by simpa using hsame,
        hcd, he, hold⟩
  · rintro ⟨⟨label, hl, hnil, hn⟩, hsame, hcd, he, hold⟩
    obtain ⟨carried, hmt⟩ : ∃ carried, matchedStatuses agents job label = ([], carried) :=
      ⟨_, Prod.ext (matchedStatuses_eq_nil_iff.mpr hn) rfl⟩
    have hs := startupBlocker_none_iff.mpr ⟨hcd, he, hold⟩
    simp [judge, hl, hnil, hmt, hsame, hs, bind, Except.bind, pure, Except.pure]

theorem Db.mem_evidence {e : EventRow} :
    e ∈ db.evidence ↔ e ∈ db.events ∧ isEvidence e.kind = true := mem_filter

theorem jobSnapshot_congr (hev : db'.evidence = db.evidence)
    (hj : db'.core.jobs = db.core.jobs) (job : String) :
    jobSnapshot db' job = jobSnapshot db job := by
  rw [jobSnapshot, jobSnapshot, Db.jobState, Db.jobState, hj, Db.latestClaim_congr hev]

/-- The expiry of leases does not change the verdict about a job. -/
theorem Db.Gone.congr {snap : Option Snapshot} (h : db'.Gone cal snap agents moment job)
    (hev : db'.evidence = db.evidence) (hj : db'.core.jobs = db.core.jobs) :
    db.Gone cal snap agents moment job := by
  have hmem : ∀ e, isEvidence e.kind = true → (e ∈ db'.events ↔ e ∈ db.events) := by
    intro e he
    have hi : e ∈ db'.evidence ↔ e ∈ db.evidence := by rw [hev]
    simpa [Db.mem_evidence, he] using hi
  obtain ⟨hl, hsame, ⟨e, he, hjob, hkind⟩, hera, hold⟩ := h
  rw [claimAgentLabel_congr hev] at hl
  rw [jobSnapshot_congr hev hj] at hsame
  refine ⟨hl, hsame, ⟨e, (hmem e (isEvidence_of_claim hkind)).mp he, hjob, hkind⟩, hera, ?_⟩
  intro e he hjob hkind
  exact hold e ((hmem e hkind).mpr he) hjob hkind

/-! ## What a pass frees -/

variable {c : Call} {o o' : Open}

/-- A decision is about a job whose agent is gone, and about a record of that job if about one. -/
theorem of_mem_decisions {judged : List (Check × Verdict)} {d : Decision}
    (h : judgeAll cal db snaps agents moment = .ok judged) (hd : d ∈ decisions judged) :
    db.Gone cal (Assoc.get snaps d.job) agents moment d.job ∧
      ∀ q, d.quota = some q → q ∈ db.core.quotas ∧ q.job = d.job := by
  obtain ⟨⟨ck, verdict⟩, hmem, hs⟩ := mem_filterMap.mp hd
  cases verdict with
  | stale label statuses carried =>
    cases hs
    obtain ⟨ck', hck', hj⟩ := exists_of_mem_mapM h hmem
    obtain ⟨verdict, hv, heq⟩ := except_bind_ok.mp hj
    cases heq
    refine ⟨judge_stale_iff.mp ⟨label, statuses, carried, hv⟩, fun q hq => ?_⟩
    rcases mem_append.mp hck' with hqt | hrow
    · obtain ⟨q', hq', rfl⟩ := mem_map.mp hqt
      cases hq
      exact ⟨(perm_insertionSort _ _).mem_iff.mp hq', rfl⟩
    · obtain ⟨job, -, rfl⟩ := mem_map.mp hrow
      cases hq
  | _ => cases hs

/-- What a pass frees belongs to jobs whose agents are gone. -/
theorem gcWrite_frees (now : ℤ) {res : GCResult}
    (h : (gcWrite snaps agents).run c o = (.ok res, o')) :
    ∃ chs, Steps c.calendar now o.db.core chs o'.db.core ∧
      ∀ ch ∈ chs, (∃ r, ch = .expired r) ∨
        (∃ q ∈ o.db.core.quotas, ch = .swept q ∧ o.db.Gone c.calendar (Assoc.get snaps q.job) agents
          (truncate (c.clock o.readings)) q.job) ∨
        ∃ job, ch = .orphaned job ∧ o.db.Gone c.calendar (Assoc.get snaps job) agents
          (truncate (c.clock o.readings)) job := by
  obtain ⟨chs, db, judged, hst, ⟨history, hc⟩, hev, hjd, hchs⟩ := gcWrite_effect now h
  have hj : db.core.jobs = o.db.core.jobs := by rw [hc]
  refine ⟨chs, hst, fun ch hch => ?_⟩
  rcases hchs ch hch with he | ⟨d, hd, q, hq, rfl⟩ | ⟨d, hd, rfl⟩
  · exact .inl he
  · obtain ⟨hgo, hqt⟩ := of_mem_decisions hjd hd
    obtain ⟨hmem, hjob⟩ := hqt q hq
    refine .inr (.inl ⟨q, ?_, rfl, ?_⟩)
    · rwa [hc] at hmem
    · rw [hjob]
      exact hgo.congr hev hj
  · exact .inr (.inr ⟨d.job, rfl, (of_mem_decisions hjd hd).1.congr hev hj⟩)

/-- The sweep deletes the record of every decision about one. -/
theorem cleanQuotas_deletes {ds : List Decision} {res : List StaleQuota}
    (h : (cleanQuotas ds).run c o = (.ok res, o')) :
    (∀ q ∈ o'.db.core.quotas, q ∈ o.db.core.quotas) ∧
      ∀ d ∈ ds, ∀ q, d.quota = some q → q ∉ o'.db.core.quotas := by
  induction ds generalizing o res with
  | nil =>
    cases h
    exact ⟨fun q hq => hq, fun d hd => by cases hd⟩
  | cons d ds ih =>
    unfold cleanQuotas at h
    split at h
    · next hn =>
      obtain ⟨hs, hdel⟩ := ih h
      refine ⟨hs, fun d' hd' q hq => ?_⟩
      rcases mem_cons.mp hd' with rfl | hd'
      · rw [hn] at hq
        cases hq
      · exact hdel d' hd' q hq
    · next q' hq' =>
      obtain ⟨rest, u', hre, hret⟩ := Tx.bind_ok.mp (of_recordEvent h)
      cases hret
      obtain ⟨hs, hdel⟩ := ih hre
      refine ⟨fun q hq => (Table.mem_deleteWhere.mp (hs q hq)).1, fun d₁ hd₁ q hq hmem => ?_⟩
      rcases mem_cons.mp hd₁ with rfl | hd₁
      · rw [hq'] at hq
        cases hq
        simpa using (Table.mem_deleteWhere.mp (hs q' hmem)).2
      · exact hdel d₁ hd₁ q hq hmem

/-- **A pass that succeeds** deletes every record of a job whose agent is gone. -/
theorem gcWrite_sweeps {res : GCResult} {q : QuotaRow}
    (h : (gcWrite snaps agents).run c o = (.ok res, o')) (hq : q ∈ o.db.core.quotas)
    (hgo : o.db.Gone c.calendar (Assoc.get snaps q.job) agents (truncate (c.clock o.readings))
      q.job) : q ∉ o'.db.core.quotas := by
  obtain ⟨_, u, judged, _, u₂, _, he, hjd, hcln, hrel⟩ := gcWrite_ok h
  obtain ⟨-, ⟨history, hc⟩, hev⟩ := expireLeases_effect 0 he fun r hr =>
    mem_of_mem_filter hr
  -- the pass has a decision about the record
  have hgo' : u.db.Gone c.calendar (Assoc.get snaps q.job) agents
      (truncate (c.clock o.readings)) q.job := hgo.congr hev.symm (by rw [hc])
  have hcheck : (⟨q.job, some q⟩ : Check) ∈ u.db.core.checks := by
    refine mem_append_left _ (mem_map.mpr ⟨q, ?_, rfl⟩)
    refine (perm_insertionSort _ _).mem_iff.mpr ?_
    rw [hc]
    exact hq
  obtain ⟨⟨ck, verdict⟩, hmem, hj⟩ := exists_of_mapM_ok hjd hcheck
  obtain ⟨verdict', hv, heq⟩ := except_bind_ok.mp hj
  obtain ⟨label, statuses, carried, hstl⟩ := judge_stale_iff.mpr hgo'
  rw [hstl] at hv
  cases hv
  cases heq
  have hdec : (⟨q.job, label, statuses, carried, some q⟩ : Decision) ∈ decisions judged :=
    mem_filterMap.mpr ⟨_, hmem, rfl⟩
  have hswe : q ∉ u₂.db.core.quotas := (cleanQuotas_deletes hcln).2 _ hdec q rfl
  -- releasing jobs adds no record
  obtain ⟨chs, hst, hchs⟩ := releaseOrphans_effect 0 hrel
  refine hst.keeps (P := fun core => q ∉ core.quotas) ?_ hswe
  intro core ch core' hch hs hne
  obtain ⟨d, -, rfl⟩ := hchs ch hch
  cases hs
  exact hne

/-- The release of an orphan is about a job whose agent is gone. -/
theorem releaseOrphanWrite_frees {orphan : Orphan}
    (h : (releaseOrphanWrite job snaps agents).run c o = (.ok orphan, o')) :
    o.db.Gone c.calendar (Assoc.get snaps job) agents (truncate (c.clock o.readings)) job := by
  obtain ⟨-, hsame, label, hl, hne, hc, hs⟩ := releaseOrphanWrite_effect 0 h
  obtain ⟨hcd, he, hold⟩ := startupBlocker_none_iff.mp hs
  exact ⟨⟨label, hl, hne, matchedStatuses_carried_iff.mp hc⟩, hsame, hcd, he, hold⟩

end Panewire.Arbiter
