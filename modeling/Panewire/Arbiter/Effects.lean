import Panewire.Arbiter.Machine

/-!
# What a successful request does to the tables

One lemma for each operation: when it succeeds, the tables have made a certain change, under the
condition of that change. `performs` puts them together for every request; the lemmas about the
passes go through their loops.
-/

namespace Panewire.Arbiter

open Data Tx List

variable {moment : ℤ} {agents : List Agent} {ds : List Decision} {snaps : Snapshots} {w w' : Ledger}
  {n : ℤ} {c : Call} {now : ℤ} {o o' : Open} {job : String}

/-! ## Operations with one event -/

theorem appendEvent_effect {kind : String} {body : Object} {seq : Option ℤ}
    (h : (appendEvent job kind body seq).run c o = (.ok n, o')) : o'.db.core = o.db.core := by
  simp only [appendEvent, refuseIf_ok] at h
  obtain ⟨-, -, hrec⟩ := h
  obtain ⟨-, -, rfl⟩ := recordEvent_ok hrec
  rfl

theorem claim_effect (now : ℤ) {cl : Claim} {res : ClaimResult}
    (h : (claim cl).run c o = (.ok res, o')) :
    ∃ ch, Step c.calendar now o.db.core ch o'.db.core ∧
      (ch = .claimed cl.job ∨ ch = .reclaimed cl.job) := by
  simp only [claim, refuseIf_ok, now_bind, query_bind] at h
  obtain ⟨-, -, -, -, -, h⟩ := h
  cases hfi : o.db.core.jobs.find cl.job with
  | none =>
    simp only [hfi, exec_bind] at h
    cases of_recordEvent h
    exact ⟨_, .claim hfi rfl, .inl rfl⟩
  | some row =>
    simp only [hfi, refuseIf_ok, exec_bind] at h
    obtain ⟨href, h⟩ := h
    cases of_recordEvent h
    rw [not_or, not_not] at href
    exact ⟨_, .reclaim _ hfi href.2 fun _ => rfl, .inr rfl⟩

theorem releaseClaim_effect (hc : c.UpTo now) (h : (releaseClaim job).run c o = (.ok n, o')) :
    Step c.calendar now o.db.core (.aborted job) o'.db.core := by
  simp only [releaseClaim, query_bind] at h
  cases hfi : o.db.core.jobs.find job with
  | none => simp only [hfi, run_fail] at h; cases h
  | some row =>
    simp only [hfi, refuseIf_ok, now_bind, query_bind, exec_bind] at h
    obtain ⟨hst, -, hrec⟩ := h
    obtain ⟨-, -, rfl⟩ := recordEvent_ok hrec
    exact .abort (hc.truncate_le _) hfi (not_not.mp hst)

/-- What `Acquire` does before it mints the token. -/
theorem supersede_effect {key : String × LeaseKind} {held : Option LeaseRow}
    {x : Unit} (h : (supersede held moment).run c o = (.ok x, o'))
    (hfi : o.db.core.leases.find key = held) :
    (∀ row, held = some row → ∃ t, parseISO c.calendar row.expires = some t ∧ t ≤ moment) ∧
    o' = { o with db := { o.db with core := o.db.core.superseding key moment } } := by
  unfold Core.superseding
  rw [hfi]
  cases held with
  | none =>
    cases h
    exact ⟨fun _ h => (by cases h), rfl⟩
  | some row =>
    simp only [supersede, query_bind] at h
    cases hp : parseISO c.calendar row.expires with
    | none => simp only [hp, run_fail] at h; cases h
    | some t =>
      simp only [hp, refuseIf_ok] at h
      obtain ⟨hl, h⟩ := h
      cases h
      refine ⟨?_, rfl⟩
      rintro _ ⟨⟩
      exact ⟨t, hp, not_lt.mp hl⟩

@[simp] theorem Core.superseding_tokenSeq (core : Core) (key : String × LeaseKind) (moment : ℤ) :
    (core.superseding key moment).tokenSeq = core.tokenSeq := by
  unfold Core.superseding
  split
  · rfl
  · rfl

theorem acquire_effect {req : LeaseReq} {lease : Lease} (hc : c.UpTo now)
    (h : (acquire req).run c o = (.ok lease, o')) :
    Step c.calendar now o.db.core (.granted lease.row) o'.db.core ∧
      lease.row.job = req.job ∧ lease.row.key = (req.resource, req.kind) := by
  simp only [acquire, requireJob, refuseIf_ok, now_bind, query_bind, bind_assoc] at h
  obtain ⟨-, -, hjob, h⟩ := h
  obtain ⟨job, hfi⟩ := Option.ne_none_iff_exists'.mp hjob
  obtain ⟨x, u, hs, h⟩ := bind_ok.mp h
  obtain ⟨ho, rfl⟩ := supersede_effect hs rfl
  simp only [nextToken, bind_assoc, exec_bind, read_bind, Core.superseding_tokenSeq] at h
  cases of_recordEvent h
  exact ⟨.grant (hc.truncate_le _) hfi rfl ⟨_, rfl⟩ ho, rfl, rfl⟩

theorem release_effect {resource token : String} {kind : LeaseKind} {force : Bool}
    (hc : truncate (c.clock o.readings) ≤ now)
    (h : (release job resource kind token force).run c o = (.ok n, o')) :
    ∃ row, Step c.calendar now o.db.core (.released row force) o'.db.core ∧
      o.db.core.leases.find (resource, kind) = some row ∧
      (force = false → row.job = job ∧ row.token.text = token) := by
  simp only [release, refuseIf_ok, now_bind, query_bind] at h
  obtain ⟨-, -, h⟩ := h
  cases hfi : o.db.core.getLease resource kind with
  | none => simp only [hfi, run_fail] at h; cases h
  | some row =>
    simp only [hfi, refuseIf_ok, exec_bind] at h
    obtain ⟨ho, hrec⟩ := h
    obtain ⟨-, -, rfl⟩ := recordEvent_ok hrec
    have hk : row.key = (resource, kind) := (Table.mem_of_find hfi).2
    refine ⟨row, .release hc (hk ▸ hfi), hfi, fun hfor => ?_⟩
    simpa [hfor] using ho

theorem recordQuotaPool_effect {q : QuotaRun} {res : QuotaResult} (hc : c.UpTo now)
    (h : (recordQuotaPool q).run c o = (.ok res, o')) :
    Step c.calendar now o.db.core (.recorded res.row) o'.db.core ∧
      res.row.key = (q.job, q.pool) := by
  simp only [recordQuotaPool, requireJob, refuseIf_ok, now_bind, query_bind, exec_bind,
    bind_assoc] at h
  obtain ⟨-, hjob, hfr, h⟩ := h
  obtain ⟨job, hfi⟩ := Option.ne_none_iff_exists'.mp hjob
  cases of_recordEvent h
  exact ⟨.record (hc.truncate_le _) hfi (by simpa using hfr), rfl⟩

theorem releaseQuotaPool_effect {pool : String} {force : Bool} (hc : c.UpTo now)
    (h : (releaseQuotaPool job pool force).run c o = (.ok n, o')) :
    ∃ row, Step c.calendar now o.db.core (.dropped row) o'.db.core ∧ row.key = (job, pool) := by
  simp only [releaseQuotaPool, now_bind, query_bind] at h
  cases hfi : o.db.core.quotas.find (job, pool) with
  | none => simp only [hfi, run_fail] at h; cases h
  | some row =>
    simp only [hfi, exec_bind] at h
    obtain ⟨-, -, rfl⟩ := recordEvent_ok h
    have hk : row.key = (job, pool) := (Table.mem_of_find hfi).2
    obtain ⟨rfl, rfl⟩ : row.job = job ∧ row.pool = pool := by simpa [QuotaRow.key] using hk
    exact ⟨row, .drop (hc.truncate_le _) hfi, rfl⟩

/-! ## Passes -/

/-- The kinds of events that the guards of a pass read. -/
def isEvidence (kind : String) : Bool := isClaimKind kind || kind = "job.spawned"

/-- The events that the guards of a pass read. -/
def Db.evidence (db : Db) : List EventRow := db.events.rows.filter fun e => isEvidence e.kind

/-- An event of another kind leaves the evidence as it is. -/
theorem Open.record_evidence {row : EventRow} (h : isEvidence row.kind = false)
    (hfree : o.Free row) : (o.record row).db.evidence = o.db.evidence := by
  have hro : (o.record row).db.events.rows = o.db.events.rows ++ [row] :=
    Table.insertNew_rows hfree.1
  rw [Db.evidence, hro, filter_append, filter_singleton, h]
  exact append_nil _

theorem expireLease_effect {r : LeaseRow} {b : Bool}
    (h : (expireLease r moment).run c o = (.ok b, o')) :
    o'.db.core = (o.db.core.archive r .expired moment).1 ∧ o'.db.evidence = o.db.evidence := by
  simp only [expireLease, query_bind, exec_bind] at h
  split at h
  · obtain ⟨seq, u, hrec, hret⟩ := bind_ok.mp h
    obtain ⟨-, hfree, rfl⟩ := recordEvent_ok hrec
    cases hret
    have hkind : isEvidence "lease.expire" = false := by decide
    exact ⟨rfl, Open.record_evidence hkind hfree⟩
  · cases h
    exact ⟨rfl, rfl⟩

section Covers

variable {α β : Type} {P : α → β → Prop} {x : α} {y : β} {xs : List α} {ys : List β}

/-- What a loop does has a reason in its list. -/
theorem covers_tail (h : ∀ y ∈ ys, ∃ x ∈ xs, P x y) : ∀ y ∈ ys, ∃ x' ∈ x :: xs, P x' y :=
  fun y hy => (h y hy).imp fun _ hx => ⟨mem_cons_of_mem _ hx.1, hx.2⟩

theorem covers_cons (hd : P x y) (h : ∀ y ∈ ys, ∃ x ∈ xs, P x y) :
    ∀ y' ∈ y :: ys, ∃ x' ∈ x :: xs, P x' y' :=
  forall_mem_cons.mpr ⟨⟨x, mem_cons_self, hd⟩, covers_tail h⟩

end Covers

/-- The leases that a pass expires stay where they are; only the history grows. -/
theorem expireLeases_effect (now : ℤ) {rs : List LeaseRow} {res : ℕ × List Transition}
    (h : (expireLeases moment rs).run c o = (.ok res, o')) (hrs : ∀ r ∈ rs, r ∈ o.db.core.leases) :
    (∃ chs, Steps c.calendar now o.db.core chs o'.db.core ∧
      ∀ ch ∈ chs, ∃ r ∈ rs, ch = .expired r) ∧
    (∃ history, o'.db.core = { o.db.core with history := history }) ∧
    o'.db.evidence = o.db.evidence := by
  induction rs generalizing o res with
  | nil =>
    cases h
    exact ⟨⟨[], .nil, by simp⟩, ⟨_, rfl⟩, rfl⟩
  | cons r rs ih =>
    simp only [expireLeases, query_bind] at h
    have ht : ∀ r ∈ rs, r ∈ o.db.core.leases := fun r hr => hrs r (mem_cons_of_mem _ hr)
    cases hp : parseISO c.calendar r.expires with
    | none => simp only [hp, run_fail] at h; cases h
    | some expires =>
      simp only [hp] at h
      split at h
      · obtain ⟨⟨chs, hst, hchs⟩, hh, hev⟩ := ih h ht
        exact ⟨⟨chs, hst, covers_tail hchs⟩, hh, hev⟩
      obtain ⟨fresh, u, hone, h⟩ := bind_ok.mp h
      obtain ⟨res', u', hre, hret⟩ := bind_ok.mp h
      obtain ⟨hc, hev⟩ := expireLease_effect hone
      cases hret
      have hu : ∀ r ∈ rs, r ∈ u.db.core.leases := by rw [hc]; exact ht
      obtain ⟨⟨chs, hst, hchs⟩, ⟨history, hh⟩, hev'⟩ := ih hre hu
      rw [hc] at hst hh
      refine ⟨⟨.expired r :: chs, .cons (.expire (hrs r mem_cons_self)) hst, ?_⟩,
        ⟨history, hh⟩, hev'.trans hev⟩
      exact covers_cons rfl hchs

theorem cleanQuotas_effect (now : ℤ) {res : List StaleQuota}
    (h : (cleanQuotas ds).run c o = (.ok res, o')) :
    ∃ chs, Steps c.calendar now o.db.core chs o'.db.core ∧
      ∀ ch ∈ chs, ∃ d ∈ ds, ∃ q, d.quota = some q ∧ ch = .swept q := by
  induction ds generalizing o res with
  | nil =>
    cases h
    exact ⟨[], .nil, by simp⟩
  | cons d ds ih =>
    unfold cleanQuotas at h
    split at h
    · obtain ⟨chs, hst, hc⟩ := ih h
      exact ⟨chs, hst, covers_tail hc⟩
    next q hq =>
    obtain ⟨rest, u', hre, hret⟩ := bind_ok.mp (of_recordEvent h)
    cases hret
    obtain ⟨chs, hst, hc⟩ := ih hre
    refine ⟨.swept q :: chs, .cons .sweep hst, ?_⟩
    exact covers_cons ⟨q, hq, rfl⟩ hc

theorem releaseJob_effect {d : Decision} {forced : Bool} {orphan : Orphan}
    (hel : o.db.core.eligible d.job = true)
    (h : (releaseJob d moment forced).run c o = (.ok orphan, o')) :
    Step c.calendar now o.db.core (.orphaned d.job) o'.db.core := by
  cases of_recordEvent h
  exact .orphan hel

theorem releaseOrphans_effect (now : ℤ) {res : List Orphan}
    (h : (releaseOrphans moment ds).run c o = (.ok res, o')) :
    ∃ chs, Steps c.calendar now o.db.core chs o'.db.core ∧
      ∀ ch ∈ chs, ∃ d ∈ ds, ch = .orphaned d.job := by
  induction ds generalizing o res with
  | nil =>
    cases h
    exact ⟨[], .nil, by simp⟩
  | cons d ds ih =>
    simp only [releaseOrphans, query_bind] at h
    split at h
    · next hel =>
      obtain ⟨orphan, u, hone, h⟩ := bind_ok.mp h
      obtain ⟨rest, u', hre, hret⟩ := bind_ok.mp h
      cases hret
      obtain ⟨chs, hst, hc⟩ := ih hre
      refine ⟨.orphaned d.job :: chs, .cons (releaseJob_effect hel hone) hst, ?_⟩
      exact covers_cons rfl hc
    · obtain ⟨chs, hst, hc⟩ := ih h
      exact ⟨chs, hst, covers_tail hc⟩

/-- A candidate is one of the decisions. -/
theorem mem_of_mem_candidates {d : Decision} (h : d ∈ candidates ds) : d ∈ ds := by
  have hfo : ∀ (ds : List Decision) (m : List (String × Decision)),
      ∀ e ∈ ds.foldl (fun m d => Assoc.put m d.job d) m, e ∈ m ∨ e.2 ∈ ds := by
    intro ds
    induction ds with
    | nil => exact fun m e he => .inl he
    | cons d ds ih =>
      intro m e he
      rcases ih _ e he with hp | ht
      · rcases mem_cons.mp hp with rfl | hdel
        · exact .inr mem_cons_self
        · exact .inl (mem_of_mem_filter hdel)
      · exact .inr (mem_cons_of_mem _ ht)
  obtain ⟨e, he, rfl⟩ := mem_map.mp ((perm_insertionSort _ _).mem_iff.mp h)
  rcases hfo ds [] e he with hn | hds
  · cases hn
  · exact hds

/-- What a pass found out about the jobs it checked. -/
def judgeAll (cal : Calendar) (db : Db) (snaps : Snapshots) (agents : List Agent) (moment : ℤ) :
    Except Error (List (Check × Verdict)) :=
  db.core.checks.mapM fun ck => return (ck, ← judge cal db snaps agents moment ck.job)

/-- The parts of a pass that succeeds. -/
theorem gcWrite_ok {res : GCResult} (h : (gcWrite snaps agents).run c o = (.ok res, o')) :
    ∃ expired u judged stale u₂ orphans, (expireLeases (truncate (c.clock o.readings))
        (o.db.core.leases.rows.filter fun l => l.kind.exclusive)).run c
          { o with readings := o.readings + 1 } = (.ok expired, u) ∧
      judgeAll c.calendar u.db snaps agents (truncate (c.clock o.readings)) = .ok judged ∧
      (cleanQuotas (decisions judged)).run c u = (.ok stale, u₂) ∧
      (releaseOrphans (truncate (c.clock o.readings)) (candidates (decisions judged))).run c u₂ =
        (.ok orphans, o') := by
  simp only [gcWrite, now_bind, query_bind] at h
  obtain ⟨expired, u, he, h⟩ := bind_ok.mp h
  simp only [query_bind] at h
  obtain ⟨judged, u₁, hjd, h⟩ := bind_ok.mp h
  rw [Prod.mk.injEq] at hjd
  obtain ⟨hjd, rfl⟩ := hjd
  simp only [refuseIf_ok] at h
  obtain ⟨-, h⟩ := h
  obtain ⟨stale, u₂, hc, h⟩ := bind_ok.mp h
  obtain ⟨orphans, u₃, hrel, hret⟩ := bind_ok.mp h
  cases hret
  exact ⟨expired, u, judged, stale, u₂, orphans, he, hjd, hc, hrel⟩

/-- **What a pass does**: it expires leases, then judges the jobs and, if no identity is in doubt,
sweeps the records and releases the jobs that it decided about. -/
theorem gcWrite_effect (now : ℤ) {res : GCResult}
    (h : (gcWrite snaps agents).run c o = (.ok res, o')) :
    ∃ chs db judged, Steps c.calendar now o.db.core chs o'.db.core ∧
      (∃ history, db.core = { o.db.core with history := history }) ∧
      db.evidence = o.db.evidence ∧
      judgeAll c.calendar db snaps agents (truncate (c.clock o.readings)) = .ok judged ∧
      ∀ ch ∈ chs, (∃ r, ch = .expired r) ∨
        (∃ d ∈ decisions judged, ∃ q, d.quota = some q ∧ ch = .swept q) ∨
        ∃ d ∈ decisions judged, ch = .orphaned d.job := by
  obtain ⟨_, u, judged, _, _, _, he, hjd, hc, hrel⟩ := gcWrite_ok h
  have hh : ∀ r ∈ o.db.core.leases.rows.filter fun l => l.kind.exclusive,
      r ∈ o.db.core.leases := fun r hr => mem_of_mem_filter hr
  obtain ⟨⟨chs₁, hsteps₁, hchs₁⟩, hhi, hev⟩ := expireLeases_effect now he hh
  obtain ⟨chs₂, hsteps₂, hchs₂⟩ := cleanQuotas_effect now hc
  obtain ⟨chs₃, hsteps₃, hchs₃⟩ := releaseOrphans_effect now hrel
  refine ⟨chs₁ ++ (chs₂ ++ chs₃), u.db, judged, hsteps₁.append (hsteps₂.append hsteps₃), hhi, hev,
    hjd, fun ch hch => ?_⟩
  rcases mem_append.mp hch with hch | hch
  · obtain ⟨r, -, rfl⟩ := hchs₁ ch hch
    exact .inl ⟨r, rfl⟩
  rcases mem_append.mp hch with hch | hch
  · exact .inr (.inl (hchs₂ ch hch))
  · obtain ⟨d, hd, rfl⟩ := hchs₃ ch hch
    exact .inr (.inr ⟨d, mem_of_mem_candidates hd, rfl⟩)

/-- With nothing in the way, the job is leased and no agent carries its identity. -/
theorem of_orphanBlockers_eq_nil {core : Core} {label : String} {state : JobState}
    {statuses : List AgentStatus} {carried : Bool}
    (h : orphanBlockers core job label state statuses carried = []) :
    state = .leased ∧ carried = false := by
  simp only [orphanBlockers, append_eq_nil_iff] at h
  obtain ⟨⟨⟨hst, hag⟩, -⟩, -⟩ := h
  refine ⟨by_contra fun hne => by simp [hne] at hst, ?_⟩
  cases carried with
  | false => rfl
  | true =>
    split at hag
    · cases hag
    · simp at hag

/-- **What the release of an orphan does**, and what it has checked. -/
theorem releaseOrphanWrite_effect (now : ℤ) {orphan : Orphan}
    (h : (releaseOrphanWrite job snaps agents).run c o = (.ok orphan, o')) :
    Step c.calendar now o.db.core (.orphaned job) o'.db.core ∧
      sameSnapshot (Assoc.get snaps job) (jobSnapshot o.db job) = true ∧
      ∃ label, claimAgentLabel o.db job = .ok label ∧ label ≠ "" ∧
        (matchedStatuses agents job label).2 = false ∧
        startupBlocker c.calendar o.db job (truncate (c.clock o.readings)) = .ok none := by
  simp only [releaseOrphanWrite, query_bind, refuseIf_ok] at h
  obtain ⟨hsame, h⟩ := h
  cases hst : o.db.jobState job with
  | none => simp only [hst, run_fail] at h; cases h
  | some state =>
    simp only [hst, now_bind] at h
    obtain ⟨label, u, hl, h⟩ := bind_ok.mp h
    rw [run_lift, Prod.mk.injEq] at hl
    obtain ⟨hl, rfl⟩ := hl
    simp only [refuseIf_ok, query_bind] at h
    obtain ⟨hne, h⟩ := h
    obtain ⟨blockers, u, hb, h⟩ := bind_ok.mp h
    rw [run_lift, Prod.mk.injEq] at hb
    obtain ⟨hb, rfl⟩ := hb
    simp only [refuseIf_ok, query_bind] at h
    obtain ⟨hn, hel, h⟩ := h
    rw [not_not] at hn
    subst hn
    by_cases hnil : orphanBlockers o.db.core job label state (matchedStatuses agents job label).1
        (matchedStatuses agents job label).2 = []
    swap
    · rw [if_neg hnil] at hb
      exact absurd (Except.ok.inj hb) hnil
    rw [if_pos hnil] at hb
    obtain ⟨-, hc⟩ := of_orphanBlockers_eq_nil hnil
    refine ⟨releaseJob_effect (by simpa using hel) h, ?_, label, hl, hne, hc, ?_⟩
    · have hcur : jobSnapshot o.db job ≠ none := by simp [jobSnapshot, hst]
      by_contra hdi
      exact hsame ⟨.inr hcur, by simpa using hdi⟩
    · cases hs : startupBlocker c.calendar o.db job (truncate (c.clock o.readings)) with
      | error e => simp only [hs] at hb; cases hb
      | ok b =>
        simp only [hs] at hb
        cases b with
        | none => rfl
        | some reason => cases hb

/-! ## Requests -/

/-- A change that only a pass over the whole ledger makes. -/
def Change.ByPass : Change → Prop
  | .expired _ | .swept _ | .orphaned _ => True
  | _ => False

/-- The changes that a successful request makes to the tables `core`. -/
def Request.Makes (core : Core) : Request → Reply → List Change → Prop
  | .appendEvent _ _ _ _, _, chs => chs = []
  | .claim cl, _, chs => chs = [.claimed cl.job] ∨ chs = [.reclaimed cl.job]
  | .releaseClaim job, _, chs => chs = [.aborted job]
  | .acquire req, reply, chs => ∃ lease, reply = .granted lease ∧ chs = [.granted lease.row] ∧
      lease.row.job = req.job ∧ lease.row.key = (req.resource, req.kind)
  | .release job resource kind token force, _, chs => ∃ row, chs = [.released row force] ∧
      core.leases.find (resource, kind) = some row ∧
      (force = false → row.job = job ∧ row.token.text = token)
  | .recordQuotaPool q, reply, chs => ∃ res, reply = .recorded res ∧
      chs = [.recorded res.row] ∧ res.row.key = (q.job, q.pool)
  | .releaseQuotaPool job pool _, _, chs => ∃ row, chs = [.dropped row] ∧ row.key = (job, pool)
  | .gc _ _, _, chs => ∀ ch ∈ chs, ch.ByPass
  | .releaseOrphan job _ _, _, chs => chs = [.orphaned job]

theorem write_ok {α : Type} {body : Tx α} {a : α} (h : w.write body c = (.ok a, w')) :
    c.fault = none ∧ ∃ o, body.run c w.begin = (.ok a, o) ∧ w' = ⟨o.db, o.files⟩ := by
  unfold Ledger.write at h
  split at h
  · next b o hrun =>
    by_cases hflt : c.fault = none
    · rw [if_pos hflt] at h
      cases h
      exact ⟨hflt, o, hrun, rfl⟩
    · rw [if_neg hflt] at h
      cases h
  · cases h

theorem write_error {α : Type} {body : Tx α} {e : Error} (h : w.write body c = (.error e, w')) :
    w'.db = w.db ∧ w'.files = (body.run c w.begin).2.files := by
  unfold Ledger.write at h
  split at h
  · next b o hrun =>
    by_cases hflt : c.fault = none
    · rw [if_pos hflt] at h
      cases h
    · rw [if_neg hflt] at h
      cases h
      exact ⟨rfl, by rw [hrun]⟩
  · next e o hrun =>
    cases h
    exact ⟨rfl, by rw [hrun]⟩

/-- The body of a request runs one operation and wraps its result. -/
theorem return_ok {α β : Type} {x : Tx α} {f : α → β} {b : β}
    (h : (do return f (← x) : Tx β).run c o = (.ok b, o')) :
    ∃ a, x.run c o = (.ok a, o') ∧ b = f a := by
  obtain ⟨a, u, hx, hret⟩ := bind_ok.mp h
  cases hret
  exact ⟨a, hx, rfl⟩

/-- **Refinement**: a successful request makes the changes of its kind; a failed one leaves the
database as it was. -/
theorem performs {r : Request} {reply : Reply} (hc : c.UpTo now)
    (h : w.perform r c = (.ok reply, w')) :
    ∃ chs, Steps c.calendar now w.db.core chs w'.db.core ∧ r.Makes w.db.core reply chs := by
  obtain ⟨-, o, hrun, rfl⟩ := write_ok h
  cases r with
  | appendEvent job kind body seq =>
    obtain ⟨n, hn, rfl⟩ := return_ok hrun
    have hco : o.db.core = w.db.core := appendEvent_effect hn
    exact ⟨[], hco ▸ .nil, rfl⟩
  | claim cl =>
    obtain ⟨res, hres, rfl⟩ := return_ok hrun
    obtain ⟨ch, hs, hch⟩ := claim_effect now hres
    exact ⟨[ch], .single hs, by simpa [Request.Makes] using hch⟩
  | releaseClaim job =>
    obtain ⟨n, hn, rfl⟩ := return_ok hrun
    exact ⟨_, .single (releaseClaim_effect hc hn), rfl⟩
  | acquire req =>
    obtain ⟨lease, hls, rfl⟩ := return_ok hrun
    obtain ⟨hs, hjob, hk⟩ := acquire_effect hc hls
    exact ⟨_, .single hs, lease, rfl, rfl, hjob, hk⟩
  | release job resource kind token force =>
    obtain ⟨n, hn, rfl⟩ := return_ok hrun
    obtain ⟨row, hs, hfi, hown⟩ := release_effect (hc.truncate_le _) hn
    exact ⟨_, .single hs, row, rfl, hfi, hown⟩
  | recordQuotaPool q =>
    obtain ⟨res, hres, rfl⟩ := return_ok hrun
    obtain ⟨hs, hk⟩ := recordQuotaPool_effect hc hres
    exact ⟨_, .single hs, res, rfl, rfl, hk⟩
  | releaseQuotaPool job pool force =>
    obtain ⟨n, hn, rfl⟩ := return_ok hrun
    obtain ⟨row, hs, hk⟩ := releaseQuotaPool_effect hc hn
    exact ⟨_, .single hs, row, rfl, hk⟩
  | gc snaps agents =>
    obtain ⟨res, hres, rfl⟩ := return_ok hrun
    obtain ⟨chs, db, judged, hst, -, -, -, hchs⟩ := gcWrite_effect now hres
    refine ⟨chs, hst, fun ch hch => ?_⟩
    rcases hchs ch hch with ⟨r, rfl⟩ | ⟨d, -, q, -, rfl⟩ | ⟨d, -, rfl⟩
    · exact trivial
    · exact trivial
    · exact trivial
  | releaseOrphan job snaps agents =>
    obtain ⟨orphan, ho, rfl⟩ := return_ok hrun
    exact ⟨_, .single (releaseOrphanWrite_effect now ho).1, rfl⟩

end Panewire.Arbiter
