import Panewire.Arbiter.System

/-!
# Artifacts that a failed operation leaves behind

A transaction body that fails is rolled back, but an artifact that it has published stays in the
events directory. `Request.Announces` says of each request, by the tables and files it starts from,
whether it gets as far as its **first artifact**; a request that fails leaves the ledger as it was
exactly when it does not (`failed_unchanged_iff`).
-/

namespace Panewire.Arbiter

open Data Conc Ledger Tx

variable {p : Prop} {r : LeaseRow} {α β : Type} {c : Call} {o : Open} {w : Ledger}

/-! ## Bodies and the files they publish -/

/-- The storage does not fail before the first artifact is in its place. -/
def Call.reaches (c : Call) : Prop := c.fault ≠ some ⟨0, false⟩

@[simp] theorem emits_now_bind (k : ℤ → Tx α) : Emits Open.files (now >>= k) c o ↔
    Emits Open.files (k (truncate (c.clock o.readings))) c { o with readings := o.readings + 1 } :=
  Iff.rfl

@[simp] theorem emits_exec_bind (f : Calendar → Core → Core) (k : Unit → Tx α) :
    Emits Open.files (exec f >>= k) c o ↔
      Emits Open.files (k ()) c { o with db := { o.db with core := f c.calendar o.db.core } } :=
  Iff.rfl

@[simp] theorem emits_query_bind (f : Calendar → Db → α) (k : α → Tx β) :
    Emits Open.files (query f >>= k) c o ↔ Emits Open.files (k (f c.calendar o.db)) c o := Iff.rfl

theorem appends_exec (f : Calendar → Core → Core) : Appends Open.files (exec f) :=
  Data.Tx.appends_modify fun _ _ => List.prefix_refl _

theorem appends_query (f : Calendar → Db → α) : Appends Open.files (query f) :=
  Data.Tx.appends_read _

/-- Recording an event publishes a file, complete or torn, or fails and leaves the files alone. -/
theorem recordEvent_files (c : Call) (o : Open) (job kind : String) (payload : Calendar → Object)
    (seq : Option ℤ) :
    (∃ e o', (recordEvent job kind payload seq).run c o = (.error e, o') ∧ o'.files = o.files ∧
      ¬ (Ledger.Admits ⟨o.db, o.files⟩ job kind seq ∧ c.fault ≠ some ⟨o.published, false⟩)) ∨
    (∃ file, ((recordEvent job kind payload seq).run c o).2.files = o.files ++ [file]) ∧
      Ledger.Admits ⟨o.db, o.files⟩ job kind seq ∧ c.fault ≠ some ⟨o.published, false⟩ := by
  rw [← o.free_iff c job kind payload seq]
  rcases recordEvent_cases c o job kind payload seq with
    ⟨hbr, hrun⟩ | ⟨-, hfree, e, o', hrun, hfs, -⟩ | ⟨ht, hfree, hrun⟩ |
      ⟨hbr, -, hfree, hrun⟩
  · exact .inl ⟨_, _, hrun, rfl, fun h => h.2 hbr⟩
  · exact .inl ⟨_, _, hrun, hfs, fun h => hfree h.1⟩
  · exact .inr ⟨⟨_, by rw [hrun]; rfl⟩, hfree, by rw [ht]; simp⟩
  · exact .inr ⟨⟨_, by rw [hrun]; rfl⟩, hfree, hbr⟩

variable (job : String)

theorem appends_recordEvent (kind : String) (payload : Calendar → Object) (seq : Option ℤ) :
    Appends Open.files (recordEvent job kind payload seq) := by
  intro c o
  rcases recordEvent_files c o job kind payload seq with ⟨e, o', hrun, hsame, -⟩ | ⟨⟨file, hmo⟩, -⟩
  · rw [hrun]
    exact hsame ▸ List.prefix_refl _
  · rw [hmo]
    exact List.prefix_append _ _

/-- **The first event** decides whether a body publishes anything. -/
@[simp] theorem emits_recordEvent {db : Db} {files : List File} {readings : ℕ}
    {job kind : String} {payload : Calendar → Object} {seq : Option ℤ} :
    Emits Open.files (recordEvent job kind payload seq) c ⟨db, files, readings, 0⟩ ↔
      Ledger.Admits ⟨db, files⟩ job kind seq ∧ c.reaches := by
  rcases recordEvent_files c ⟨db, files, readings, 0⟩ job kind payload seq with
    ⟨e, o', hrun, hsame, hn⟩ | ⟨⟨file, hmo⟩, hy⟩
  · refine iff_of_false ?_ hn
    rw [Emits, hrun]
    exact fun hne => hne hsame
  · refine iff_of_true ?_ hy
    rw [Emits, hmo]
    simp

/-- What follows an event does not change whether it was published. -/
theorem emits_recordEvent_bind {job kind : String} {payload : Calendar → Object} {seq : Option ℤ}
    {k : ℤ → Tx α} (hk : ∀ n, Appends Open.files (k n)) :
    Emits Open.files (recordEvent job kind payload seq >>= k) c o ↔
      Emits Open.files (recordEvent job kind payload seq) c o := by
  rcases recordEvent_files c o job kind payload seq with ⟨e, o', hrun, -, -⟩ | ⟨⟨file, hmo⟩, -⟩
  · rw [emits_bind_of_error hrun]
  · have he : Emits Open.files (recordEvent job kind payload seq) c o := by
      rw [Emits, hmo]
      simp
    exact iff_of_true (he.bind (appends_recordEvent job kind payload seq) hk) he

/-! ## The first artifact of a request -/

/-- The checks that a claim passes before it reads the ledger. -/
def Claim.valid (cl : Claim) : Prop :=
  validJobID cl.job = true ∧ (claimRole cl.role = "worker" ∨ claimRole cl.role = "builder") ∧
  (claimRole cl.role = "builder" ↔ cl.parentLane ≠ "") ∧ cl.lane ≠ "" ∧ cl.t ∈ tLevels

/-- A lease where the first loop of a pass stops being silent: its expiry cannot be read, or it is
over and was not found expired before. -/
def Core.stops (core : Core) (cal : Calendar) (moment : ℤ) (l : LeaseRow) : Bool :=
  match parseISO cal l.expires with
  | none => true
  | some t => t ≤ moment && (core.history.find (l.key, l.token, .expired)).isNone

/-- A pass gets as far as its first artifact: it comes to a lease that it finds expired, or passes
all leases in silence, doubts no identity, and has a record to sweep or a job to release. -/
def Ledger.PassAnnounces (w : Ledger) (c : Call) (snaps : Snapshots) (agents : List Agent)
    (moment : ℤ) : Prop :=
  match (w.db.core.leases.rows.filter fun l => l.kind.exclusive).find?
      (w.db.core.stops c.calendar moment) with
  | some l => parseISO c.calendar l.expires ≠ none ∧ w.Admits l.job "lease.expire" none
  | none =>
    ∃ judged, judgeAll c.calendar w.db snaps agents moment = .ok judged ∧
      (∀ jv ∈ judged, jv.2 ≠ .unmapped ∧ jv.2 ≠ .unknown) ∧
      match (decisions judged).find? (·.quota.isSome) with
      | some d => w.Admits d.job "quota_pool.stale_cleanup" none
      | none =>
        ∃ d, (candidates (decisions judged)).find? (fun d => w.db.core.eligible d.job) = some d ∧
          w.Admits d.job "job.orphan_release" none

/-- The release of an orphan gets as far as its artifact. -/
def Ledger.OrphanAnnounces (w : Ledger) (c : Call) (job : String) (snaps : Snapshots)
    (agents : List Agent) (moment : ℤ) : Prop :=
  ∃ state label, w.db.jobState job = some state ∧
    sameSnapshot (Assoc.get snaps job) (jobSnapshot w.db job) = true ∧
    claimAgentLabel w.db job = .ok label ∧ label ≠ "" ∧
    orphanBlockers w.db.core job label state (matchedStatuses agents job label).1
      (matchedStatuses agents job label).2 = [] ∧
    startupBlocker c.calendar w.db job moment = .ok none ∧
    w.db.core.eligible job = true ∧ w.Admits job "job.orphan_release" none

/-- **The request gets as far as its first artifact**, as far as the ledger and its inputs decide:
no check before it refuses, and its event is admitted. -/
def Request.Announces (c : Call) (w : Ledger) : Request → Prop
  | .appendEvent job kind _ seq =>
    validJobID job = true ∧ kind ∉ ["job.claim", "job.claimed", "job.reclaim"] ∧
      Go.hasSuffix (safeKind kind) "claim" = false ∧ w.Admits job kind seq
  | .claim cl =>
    cl.valid ∧
      ((w.db.core.jobs.find cl.job = none ∧ w.Admits cl.job "job.claim" none) ∨
        ∃ row, w.db.core.jobs.find cl.job = some row ∧ cl.reclaimReleased = true ∧
          row.state = .released ∧ w.Admits cl.job "job.reclaim" none)
  | .releaseClaim job =>
    ∃ row, w.db.core.jobs.find job = some row ∧ row.state = .claimed ∧
      w.db.core.held c.calendar job (truncate (c.clock 0)) = 0 ∧
      w.Admits job "job.spawn_aborted" none
  | .acquire req =>
    req.kind.exclusive = true ∧ req.resource ≠ "" ∧ 0 ≤ req.ttl ∧
      w.db.core.jobs.find req.job ≠ none ∧
      (∀ held, w.db.core.leases.find (req.resource, req.kind) = some held →
        ∃ t, parseISO c.calendar held.expires = some t ∧ t ≤ truncate (c.clock 0)) ∧
      w.Admits req.job "lease.acquire" none
  | .release job resource kind token force =>
    ∃ row, kind.exclusive = true ∧ w.db.core.leases.find (resource, kind) = some row ∧
      (force = true ∨ (token ≠ "" ∧ row.job = job ∧ row.token.text = token)) ∧
      w.Admits row.job (if force then "lease.release.force" else "lease.release") none
  | .recordQuotaPool q =>
    q.pool ≠ "" ∧ q.profile ≠ "" ∧ w.db.core.jobs.find q.job ≠ none ∧
      w.db.core.quotas.find (q.job, q.pool) = none ∧ w.Admits q.job "quota_pool.record" none
  | .releaseQuotaPool job pool force =>
    w.db.core.quotas.find (job, pool) ≠ none ∧
      w.Admits job (if force then "quota_pool.release.force" else "quota_pool.release") none
  | .gc snaps agents => w.PassAnnounces c snaps agents (truncate (c.clock 0))
  | .releaseOrphan job snaps agents => w.OrphanAnnounces c job snaps agents (truncate (c.clock 0))

/-! ## Operations with one event -/

theorem appendEvent_emits (kind : String) (body : Object) (seq : Option ℤ) :
    Emits Open.files (appendEvent job kind body seq) c w.begin ↔
      (Request.appendEvent job kind body seq).Announces c w ∧ c.reaches := by
  simp only [appendEvent, emits_refuseIf_bind, begin, emits_recordEvent,
    Request.Announces, and_assoc, not_or, Bool.not_eq_false, Bool.not_eq_true,
    List.contains_eq_mem, decide_eq_false_iff_not]

theorem claim_valid_iff (cl : Claim) :
    (¬ validJobID cl.job = false ∧
      ¬ (claimRole cl.role ≠ "worker" ∧ claimRole cl.role ≠ "builder") ∧
      ¬ (claimRole cl.role = "builder" ∧ cl.parentLane = "") ∧
      ¬ (claimRole cl.role ≠ "builder" ∧ cl.parentLane ≠ "") ∧
      ¬ (cl.lane = "" ∨ cl.t ∉ tLevels)) ↔ cl.valid := by
  rw [Claim.valid, Bool.not_eq_false]
  tauto

theorem claim_emits (cl : Claim) :
    Emits Open.files (claim cl) c w.begin ↔ (Request.claim cl).Announces c w ∧ c.reaches := by
  simp only [claim, emits_refuseIf_bind, begin, emits_now_bind, emits_query_bind,
    Request.Announces, ← claim_valid_iff]
  cases hfi : w.db.core.jobs.find cl.job with
  | none | some => simp [and_assoc]

theorem releaseClaim_emits :
    Emits Open.files (releaseClaim job) c w.begin ↔
      (Request.releaseClaim job).Announces c w ∧ c.reaches := by
  simp only [releaseClaim, begin, emits_query_bind, Request.Announces]
  cases hfi : w.db.core.jobs.find job with
  | none => simp
  | some row => simp [and_assoc]

/-- Replacing a lease publishes nothing; it needs the lease to be over. -/
theorem emits_supersede_bind {db : Db} {files : List File} {readings : ℕ} {held : Option LeaseRow}
    {moment : ℤ} {k : Unit → Tx α}
    (hk : ∀ core, Emits Open.files (k ()) c ⟨⟨core, db.events⟩, files, readings, 0⟩ ↔ p) :
    Emits Open.files (supersede held moment >>= k) c ⟨db, files, readings, 0⟩ ↔
      (∀ row, held = some row → ∃ t, parseISO c.calendar row.expires = some t ∧ t ≤ moment) ∧
      p := by
  cases held with
  | none =>
    have hn : Emits Open.files (supersede none moment >>= k) c ⟨db, files, readings, 0⟩ ↔ p :=
      hk db.core
    simpa using hn
  | some row =>
    simp only [supersede, emits_bind_assoc, emits_query_bind]
    cases hp : parseISO c.calendar row.expires with
    | none => simp [hp]
    | some t => simp [emits_bind_assoc, hk, hp]

theorem acquire_emits (req : LeaseReq) :
    Emits Open.files (acquire req) c w.begin ↔ (Request.acquire req).Announces c w ∧ c.reaches := by
  simp only [acquire, begin, emits_refuseIf_bind, emits_now_bind, emits_query_bind,
    Request.Announces, requireJob, emits_bind_assoc]
  rw [emits_supersede_bind (p := w.Admits req.job "lease.acquire" none ∧ c.reaches) ?_]
  · simp [and_assoc, Core.getLease]
  · simp [nextToken, emits_bind_assoc]

theorem release_emits (resource : String) (kind : LeaseKind) (token : String) (force : Bool) :
    Emits Open.files (release job resource kind token force) c w.begin ↔
      (Request.release job resource kind token force).Announces c w ∧ c.reaches := by
  simp only [release, begin, emits_refuseIf_bind, emits_now_bind, emits_query_bind,
    Request.Announces, Core.getLease]
  cases hfi : w.db.core.leases.find (resource, kind) with
  | none => simp
  | some row =>
    cases force with
    | true | false => simp [and_assoc]

theorem recordQuotaPool_emits (q : QuotaRun) :
    Emits Open.files (recordQuotaPool q) c w.begin ↔
      (Request.recordQuotaPool q).Announces c w ∧ c.reaches := by
  simp only [recordQuotaPool, begin, emits_refuseIf_bind, emits_now_bind,
    emits_query_bind, Request.Announces, requireJob, emits_bind_assoc]
  simp [and_assoc, QuotaRow.key]

theorem releaseQuotaPool_emits (pool : String) (force : Bool) :
    Emits Open.files (releaseQuotaPool job pool force) c w.begin ↔
      (Request.releaseQuotaPool job pool force).Announces c w ∧ c.reaches := by
  simp only [releaseQuotaPool, begin, emits_now_bind, emits_query_bind, Request.Announces]
  cases hfi : w.db.core.quotas.find (job, pool) with
  | none | some => simp

/-! ## Passes -/

theorem appends_expireLease (r : LeaseRow) (moment : ℤ) :
    Appends Open.files (expireLease r moment) := by
  refine (appends_query _).bind fun fresh => (appends_exec _).bind fun _ => ?_
  split
  · exact (appends_recordEvent _ _ _ _).bind fun _ => appends_pure _
  · exact appends_pure _

theorem appends_expireLeases (moment : ℤ) (rs : List LeaseRow) :
    Appends Open.files (expireLeases moment rs) := by
  induction rs with
  | nil => exact appends_pure _
  | cons r rs ih =>
    refine (appends_query _).bind fun expires => ?_
    cases expires with
    | none => exact appends_fail _
    | some expires =>
      show Appends Open.files (if moment < expires then _ else _)
      split
      · exact ih
      · exact (appends_expireLease r moment).bind fun _ => ih.bind fun _ => appends_pure _

theorem appends_cleanQuotas (ds : List Decision) : Appends Open.files (cleanQuotas ds) := by
  induction ds with
  | nil => exact appends_pure _
  | cons d ds ih =>
    unfold cleanQuotas
    split
    · exact ih
    · exact (appends_exec _).bind fun _ => (appends_recordEvent _ _ _ _).bind fun _ =>
        ih.bind fun _ => appends_pure _

theorem appends_releaseJob (d : Decision) (moment : ℤ) (forced : Bool) :
    Appends Open.files (releaseJob d moment forced) :=
  (appends_exec _).bind fun _ => (appends_recordEvent _ _ _ _).bind fun _ => appends_pure _

theorem appends_releaseOrphans (moment : ℤ) (ds : List Decision) :
    Appends Open.files (releaseOrphans moment ds) := by
  induction ds with
  | nil => exact appends_pure _
  | cons d ds ih =>
    refine (appends_query _).bind fun eligible => ?_
    split
    · exact (appends_releaseJob d moment false).bind fun _ => ih.bind fun _ => appends_pure _
    · exact ih

variable {db : Db} {files : List File} {readings : ℕ} {moment : ℤ}

/-- Archiving a lease that was found expired before changes nothing. -/
theorem Core.archive_expired_of_found {core : Core}
    (h : (core.history.find (r.key, r.token, .expired)).isNone = false) :
    core.archive r .expired moment = (core, false) := by
  rcases core.history.insertNew_cases ⟨r, .expired, iso moment⟩ with ⟨heq, -⟩ | ⟨-, hnew, -⟩
  · rw [archive, heq]
  · have hn : core.history.find (r.key, r.token, .expired) = none := Table.find_eq_none.mpr hnew
    rw [hn] at h
    cases h

theorem expireLease_of_found
    (h : (o.db.core.history.find (r.key, r.token, .expired)).isNone = false) :
    (expireLease r moment).run c o = (.ok false, o) := by
  simp only [expireLease, query_bind, exec_bind, Core.archive_expired_of_found h]
  rfl

/-- A lease that is found expired for the first time is announced. -/
theorem emits_expireLease_bind {k : Bool → Tx α}
    (hnew : (db.core.history.find (r.key, r.token, .expired)).isNone = true)
    (hk : ∀ fresh, Appends Open.files (k fresh)) :
    Emits Open.files (expireLease r moment >>= k) c ⟨db, files, readings, 0⟩ ↔
      Ledger.Admits ⟨db, files⟩ r.job "lease.expire" none ∧ c.reaches := by
  have hfr : (db.core.archive r .expired moment).2 = true := by
    rcases db.core.history.insertNew_cases ⟨r, .expired, iso moment⟩ with ⟨-, b, hb, hkey⟩ | ⟨h, -⟩
    · have hn : db.core.history.find (r.key, r.token, .expired) = none := by simpa using hnew
      exact absurd hkey (Table.find_eq_none.mp hn b hb)
    · exact h
  simp only [expireLease, emits_bind_assoc, emits_query_bind, emits_exec_bind, hfr, if_true]
  rw [emits_recordEvent_bind fun n => (appends_pure _).bind hk]
  exact emits_recordEvent

/-- The first loop of a pass: it stops in silence, publishes, or leaves everything to the rest. -/
theorem emits_expireLeases_bind {rs : List LeaseRow} {k : ℕ × List Transition → Tx α}
    (hk : ∀ res, Appends Open.files (k res))
    (hp : ∀ res, Emits Open.files (k res) c ⟨db, files, readings, 0⟩ ↔ p) :
    Emits Open.files (expireLeases moment rs >>= k) c ⟨db, files, readings, 0⟩ ↔
      match rs.find? (db.core.stops c.calendar moment) with
      | some l => parseISO c.calendar l.expires ≠ none ∧
          Ledger.Admits ⟨db, files⟩ l.job "lease.expire" none ∧ c.reaches
      | none => p := by
  induction rs generalizing k with
  | nil => exact hp (0, [])
  | cons r rs ih =>
    simp only [expireLeases, emits_bind_assoc, emits_query_bind]
    cases hpar : parseISO c.calendar r.expires with
    | none =>
      have hs : db.core.stops c.calendar moment r = true := by rw [Core.stops, hpar]
      rw [List.find?_cons_of_pos hs]
      simp [hpar]
    | some expires =>
      by_cases hdue : moment < expires
      · have hgo : ¬ db.core.stops c.calendar moment r = true := by simp [Core.stops, hpar, hdue]
        rw [List.find?_cons_of_neg hgo]
        simp only [if_pos hdue]
        exact ih hk hp
      simp only [if_neg hdue, emits_bind_assoc]
      by_cases hfd : (db.core.history.find (r.key, r.token, .expired)).isNone = false
      · have hgo : ¬ db.core.stops c.calendar moment r = true := by
          simp [Core.stops, hpar, hfd]
        rw [List.find?_cons_of_neg hgo, emits_bind_of_ok (expireLease_of_found hfd) rfl]
        simp only [emits_bind_assoc]
        exact ih (fun res => (appends_pure _).bind hk) fun res => hp _
      · rw [Bool.not_eq_false] at hfd
        have hs : db.core.stops c.calendar moment r = true := by
          simp [Core.stops, hpar, not_lt.mp hdue, hfd]
        rw [List.find?_cons_of_pos hs, emits_expireLease_bind hfd]
        · simp [hpar]
        · intro fresh
          exact ((appends_expireLeases moment rs).bind fun _ => appends_pure _).bind hk

/-- The sweep of a pass. -/
theorem emits_cleanQuotas_bind {ds : List Decision} {k : List StaleQuota → Tx α}
    (hk : ∀ res, Appends Open.files (k res))
    (hp : ∀ res, Emits Open.files (k res) c ⟨db, files, readings, 0⟩ ↔ p) :
    Emits Open.files (cleanQuotas ds >>= k) c ⟨db, files, readings, 0⟩ ↔
      match ds.find? (·.quota.isSome) with
      | some d => Ledger.Admits ⟨db, files⟩ d.job "quota_pool.stale_cleanup" none ∧ c.reaches
      | none => p := by
  induction ds with
  | nil => exact hp []
  | cons d ds ih =>
    unfold cleanQuotas
    cases hqt : d.quota with
    | none =>
      rw [List.find?_cons_of_neg (by simp [hqt])]
      exact ih
    | some q =>
      rw [List.find?_cons_of_pos (by simp [hqt])]
      simp only [emits_bind_assoc, emits_exec_bind]
      rw [emits_recordEvent_bind]
      · exact emits_recordEvent
      · exact fun _ => ((appends_cleanQuotas ds).bind fun _ => appends_pure _).bind hk

/-- The releases of a pass. -/
theorem emits_releaseOrphans_bind {ds : List Decision} {k : List Orphan → Tx α}
    (hk : ∀ res, Appends Open.files (k res))
    (hp : ∀ res, ¬ Emits Open.files (k res) c ⟨db, files, readings, 0⟩) :
    Emits Open.files (releaseOrphans moment ds >>= k) c ⟨db, files, readings, 0⟩ ↔
      (∃ d, ds.find? (fun d => db.core.eligible d.job) = some d ∧
        Ledger.Admits ⟨db, files⟩ d.job "job.orphan_release" none) ∧ c.reaches := by
  induction ds with
  | nil =>
    refine iff_of_false (hp []) ?_
    rintro ⟨⟨d, hd, -⟩, -⟩
    cases hd
  | cons d ds ih =>
    simp only [releaseOrphans, emits_bind_assoc, emits_query_bind]
    by_cases hel : db.core.eligible d.job = true
    · have hfi : (d :: ds).find? (fun d => db.core.eligible d.job) = some d :=
        List.find?_cons_of_pos hel
      rw [hfi, if_pos hel]
      simp only [releaseJob, emits_bind_assoc, emits_exec_bind]
      rw [emits_recordEvent_bind]
      · rw [emits_recordEvent]
        simp only [Option.some.injEq, exists_eq_left']
        rfl
      · exact fun _ => (appends_pure _).bind fun _ =>
          ((appends_releaseOrphans moment ds).bind fun _ => appends_pure _).bind hk
    · have hfi : (d :: ds).find? (fun d => db.core.eligible d.job) =
        ds.find? fun d => db.core.eligible d.job := List.find?_cons_of_neg hel
      rw [hfi, if_neg hel]
      exact ih

/-- No identity is in doubt. -/
theorem no_doubt_iff (judged : List (Check × Verdict)) :
    (¬ ((judged.filter fun jv => jv.2 = .unmapped).map (·.1.job) ≠ [] ∨
      (judged.filter fun jv => jv.2 = .unknown).map (·.1.job) ≠ [])) ↔
    ∀ jv ∈ judged, jv.2 ≠ .unmapped ∧ jv.2 ≠ .unknown := by
  simp only [ne_eq, List.map_eq_nil_iff, List.filter_eq_nil_iff, decide_eq_true_eq, not_or, not_not]
  exact forall₂_and.symm

theorem gcWrite_emits (snaps : Snapshots) (agents : List Agent) :
    Emits Open.files (gcWrite snaps agents) c w.begin ↔
      (Request.gc snaps agents).Announces c w ∧ c.reaches := by
  simp only [gcWrite, begin, emits_now_bind, emits_query_bind, Request.Announces,
    Ledger.PassAnnounces]
  rw [emits_expireLeases_bind (p := (∃ judged,
      judgeAll c.calendar w.db snaps agents (truncate (c.clock 0)) = .ok judged ∧
      (∀ jv ∈ judged, jv.2 ≠ .unmapped ∧ jv.2 ≠ .unknown) ∧
      match (decisions judged).find? (·.quota.isSome) with
      | some d => w.Admits d.job "quota_pool.stale_cleanup" none
      | none =>
        ∃ d, (candidates (decisions judged)).find? (fun d => w.db.core.eligible d.job) = some d ∧
          w.Admits d.job "job.orphan_release" none) ∧ c.reaches)]
  · cases List.find? (w.db.core.stops c.calendar (truncate (c.clock 0)))
        (w.db.core.leases.rows.filter fun l => l.kind.exclusive) with
    | none => rfl
    | some l => simp only [and_assoc]
  · rintro ⟨n, ts⟩
    refine (appends_query _).bind fun checks => (appends_lift _).bind fun judged =>
      (appends_refuseIf _ _).bind fun _ => (appends_cleanQuotas _).bind fun _ =>
      (appends_releaseOrphans _ _).bind fun _ => appends_pure _
  · rintro ⟨n, ts⟩
    simp only [emits_query_bind, emits_lift_bind, emits_refuseIf_bind]
    rw [← exists_and_right]
    refine exists_congr fun judged => ?_
    rw [and_assoc, and_assoc]
    refine and_congr Iff.rfl (and_congr (no_doubt_iff judged) ?_)
    rw [emits_cleanQuotas_bind (p := (∃ d, (candidates (decisions judged)).find?
        (fun d => w.db.core.eligible d.job) = some d ∧
        w.Admits d.job "job.orphan_release" none) ∧ c.reaches)]
    · cases (decisions judged).find? (·.quota.isSome) with
      | none | some => rfl
    · exact fun _ => (appends_releaseOrphans _ _).bind fun _ => appends_pure _
    · exact fun _ => emits_releaseOrphans_bind (fun _ => appends_pure _) fun _ =>
        emits_pure _

/-- The last check of the release of an orphan. -/
theorem startup_blockers_iff {blockers : List String} {start : Except Error (Option String)} :
    (∃ a, (if blockers = [] then (do return (← start).toList) else return blockers) = .ok a ∧
      ¬ a ≠ [] ∧ p) ↔ blockers = [] ∧ start = .ok none ∧ p := by
  by_cases hn : blockers = []
  · rcases start with e | _ | reason
    · simp [hn, bind, Except.bind]
    · simp [hn, bind, Except.bind, pure, Except.pure]
    · simp [hn, bind, Except.bind, pure, Except.pure]
  · simp [hn, pure, Except.pure]

theorem releaseOrphanWrite_emits (snaps : Snapshots) (agents : List Agent) :
    Emits Open.files (releaseOrphanWrite job snaps agents) c w.begin ↔
      (Request.releaseOrphan job snaps agents).Announces c w ∧ c.reaches := by
  simp only [releaseOrphanWrite, begin, emits_query_bind, Request.Announces,
    Ledger.OrphanAnnounces, emits_refuseIf_bind]
  cases hst : w.db.jobState job with
  | none => simp
  | some state =>
    have hc : jobSnapshot w.db job ≠ none := by simp [jobSnapshot, hst]
    simp only [emits_now_bind, emits_lift_bind, emits_refuseIf_bind, emits_query_bind,
      releaseJob, emits_exec_bind, emits_bind_pure, emits_recordEvent, startup_blockers_iff,
      admits_core, Bool.not_eq_false]
    simp [hc, ← exists_and_right, and_assoc]

/-! ## Failed requests -/

/-- A request publishes a file exactly when it gets as far as its first artifact. -/
theorem body_emits_iff (r : Request) (c : Call) (w : Ledger) :
    Emits Open.files r.body c w.begin ↔ r.Announces c w ∧ c.reaches := by
  cases r with
  | appendEvent job kind body seq =>
    exact (emits_bind_pure _).trans (appendEvent_emits job kind body seq)
  | claim cl => exact (emits_bind_pure _).trans (claim_emits cl)
  | releaseClaim job => exact (emits_bind_pure _).trans (releaseClaim_emits job)
  | acquire req => exact (emits_bind_pure _).trans (acquire_emits req)
  | release job resource kind token force =>
    exact (emits_bind_pure _).trans (release_emits job resource kind token force)
  | recordQuotaPool q => exact (emits_bind_pure _).trans (recordQuotaPool_emits q)
  | releaseQuotaPool job pool force =>
    exact (emits_bind_pure _).trans (releaseQuotaPool_emits job pool force)
  | gc snaps agents => exact (emits_bind_pure _).trans (gcWrite_emits snaps agents)
  | releaseOrphan job snaps agents =>
    exact (emits_bind_pure _).trans (releaseOrphanWrite_emits job snaps agents)

/-- **What a failed request leaves.** A request that returns an error leaves the database and the
files as they were exactly when it does not get as far as its first artifact. -/
theorem failed_unchanged_iff (w : Ledger) (r : Request) (c : Call) (e : Error)
    (h : (w.perform r c).1 = .error e) :
    (w.perform r c).2 = w ↔ ¬ (r.Announces c w ∧ c.reaches) := by
  rcases hrun : w.perform r c with ⟨_ | reply, w'⟩
  swap
  · rw [hrun] at h
    cases h
  obtain ⟨hdb, hfs⟩ := write_error hrun
  rw [← body_emits_iff, Emits, not_not, ← hfs]
  constructor
  · rintro rfl
    rfl
  · intro hsame
    cases w'
    cases hdb
    cases hsame
    rfl

/-- A lease of one job is over, and another job holds a quota-pool record. -/
def dueAndRecorded : List (Move Proc Answer) :=
  submit 0 (.claim (workerClaim "j" false)) 0 ++
  submit 1 (.acquire ⟨"j", "r", .path, 10 * second, true⟩) 1 ++
  submit 2 (.claim (workerClaim "k" false)) 2 ++
  submit 3 (.recordQuotaPool ⟨"k", "p", "", "pool", []⟩) 3

/-- A release of the lease by the other job. -/
def foreignRelease : Request := .release "k" "r" .path "1-5a" false

/-- The release of a lease that another job holds fails and leaves nothing. -/
theorem failed_unchanged_iff_held : ∃ s, Reachable .empty s ∧
    (s.shared.ledger.db.core.leases.find ("r", .path)).map (·.job) = some "j" ∧
    ∃ c, (s.shared.ledger.perform foreignRelease c).2 = s.shared.ledger := by
  obtain ⟨s, hrea, ⟨hheld, hfail⟩, -⟩ := exists_reachable (w := .empty) (p := fun s =>
      (s.shared.ledger.db.core.leases.find ("r", .path)).map (·.job) = some "j" ∧
      (s.shared.ledger.perform foreignRelease (Answer.ofSecond 4 []).call).1.isOk = false)
    dueAndRecorded (by decide +kernel) fun _ _ _ => trivial
  cases hr : (s.shared.ledger.perform foreignRelease (Answer.ofSecond 4 []).call).1 with
  | ok reply =>
    rw [hr] at hfail
    cases hfail
  | error e =>
    refine ⟨s, hrea, hheld, _, (failed_unchanged_iff _ _ _ e hr).mpr ?_⟩
    rintro ⟨⟨row, -, hfind, hown | ⟨-, hjob, -⟩, -⟩, -⟩
    · cases hown
    · rw [hfind, Option.map_some, hjob] at hheld
      exact absurd hheld (by decide)

/-- The agent of the second job is in status unknown. -/
def doubtfulPass : Request := .gc [] [⟨.unknown, "", "k", ""⟩]

/-- A pass that refuses on an unknown agent status leaves the artifact of a lease that it found
expired before. -/
theorem refused_pass_leaves_artifact : ∃ s, Reachable .empty s ∧ ∃ c,
    (s.shared.ledger.perform doubtfulPass c).1 = .error (.identityRefused [] ["k"]) ∧
    (s.shared.ledger.perform doubtfulPass c).2.files.map (·.name) =
      s.shared.ledger.files.map (·.name) ++ ["00003-lease.expire.json"] ∧
    (s.shared.ledger.perform doubtfulPass c).2 ≠ s.shared.ledger := by
  obtain ⟨s, hrea, ⟨herr, hn⟩, -⟩ := exists_reachable (w := .empty) (p := fun s =>
      (match (s.shared.ledger.perform doubtfulPass (Answer.ofSecond 20 []).call).1 with
        | .error e => some e
        | .ok _ => none) = some (.identityRefused [] ["k"]) ∧
      (s.shared.ledger.perform doubtfulPass (Answer.ofSecond 20 []).call).2.files.map (·.name) =
        s.shared.ledger.files.map (·.name) ++ ["00003-lease.expire.json"])
    dueAndRecorded (by decide +kernel) fun _ _ _ => trivial
  refine ⟨s, hrea, _, ?_, hn, fun hsame => ?_⟩
  · split at herr
    · next e he => rw [he, Option.some.inj herr]
    · cases herr
  · rw [hsame] at hn
    simp at hn

end Panewire.Arbiter
