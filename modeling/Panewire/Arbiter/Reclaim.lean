import Panewire.Arbiter.Histories

/-!
# Leaving the state claimed

A lease row belongs to a job id, not to a generation of the job: it outlives the release and the
re-claim of the job once it is over. The release of such a row settles the job, and a claimed job
holds nothing, so the settling marks it released while the new attempt is still launching.
`leaves_claimed_iff` says exactly when that happens.
-/

namespace Panewire.Arbiter

open Data Conc Arbiter.Core Option

variable {cal : Calendar} {now : ℤ} {core core' : Core} {ch : Change} {job : String}
  {s t : Sys Shared Answer Label Proc} {m : Move Proc Answer}

/-! ## Changes and a claimed job -/

/-- An update of the rows of some jobs leaves a job alone whose row it does not pick. -/
theorem Core.stateOf_update_of_not {p : JobRow → Bool} {f : JobRow → JobRow}
    {hf : ∀ r, (f r).job = r.job} {state : JobState} (hjob : core.stateOf job = some state)
    (hp : ∀ r, r.job = job → r.state = state → p r = false) :
    ({ core with jobs := core.jobs.updateWhere p f hf } : Core).stateOf job = some state := by
  obtain ⟨r, hr, hst⟩ := map_eq_some_iff.mp hjob
  rw [stateOf_update, hr, map_some, hp r (Table.mem_of_find hr).2 hst]
  simp [hst]

/-- A claimed job is not settled by a change to another job. -/
theorem Core.stateOf_settle_of_ne {moment : ℤ} {j : String} (h : job ≠ j) :
    (core.settle cal j moment).stateOf job = core.stateOf job := by
  rw [stateOf_settle, if_neg fun hj => h hj.1]

theorem Core.stateOf_mark_leased {moment : ℤ} {j : String}
    (hjob : core.stateOf job = some .claimed) :
    (core.mark j .leased moment).stateOf job = some .claimed ∨
      (core.mark j .leased moment).stateOf job = some .leased := by
  rw [stateOf_mark, hjob]
  split
  · exact .inr rfl
  · exact .inl rfl

/-- **What a change does to a claimed job**: nothing, it becomes leased, its claim is given back, or
one of its leases is released. -/
theorem Step.claimed_cases (h : Step cal now core ch core') (hs : core.Sound now)
    (hjob : core.stateOf job = some .claimed) :
    core'.stateOf job = some .claimed ∨ (core'.stateOf job = some .leased ∧ ¬ ch.ByPass) ∨
      ch = .aborted job ∨ ∃ row force, ch = .released row force ∧ row.job = job := by
  cases h with
  | @claim row fresh state =>
    refine .inl ?_
    rw [stateOf_insertNew fresh, if_neg, hjob]
    rintro rfl
    rw [stateOf, fresh] at hjob
    cases hjob
  | @reclaim job' row f hf found state state' =>
    refine .inl (stateOf_update_of_not hjob fun r hr _ => ?_)
    rw [decide_eq_false_iff_not, hr]
    rintro rfl
    rw [stateOf_of_find found, state] at hjob
    cases hjob
  | @abort job' row moment hm found state =>
    by_cases hj : job = job'
    · exact .inr (.inr (.inl (by rw [hj])))
    · exact .inl (by rwa [Core.stateOf_settle_of_ne hj])
  | @grant row moment jobRow hm found token times expired =>
    have hcd : stateOf { core.superseding row.key moment with
        leases := ((core.superseding row.key moment).leases.insertNew row).1 } job =
        some .claimed := by
      rwa [stateOf, superseding_jobs]
    rcases stateOf_mark_leased hcd with hk | hl
    · exact .inl hk
    · exact .inr (.inl ⟨hl, id⟩)
  | @release row force moment hm found =>
    by_cases hj : job = row.job
    · exact .inr (.inr (.inr ⟨row, force, rfl, hj.symm⟩))
    · exact .inl (by rwa [Core.stateOf_settle_of_ne hj])
  | @record row jobRow moment hm found fresh =>
    have hcd : stateOf { core with quotas := (core.quotas.insertNew row).1 } job =
      some .claimed := hjob
    rcases stateOf_mark_leased hcd with hk | hl
    · exact .inl hk
    · exact .inr (.inl ⟨hl, id⟩)
  | @drop row moment hm found =>
    -- a claimed job has no record to drop
    have hj : job ≠ row.job := fun hj =>
      (hs.idle job _ hjob (by decide)).quotas row (Table.mem_of_find found).1 hj.symm
    exact .inl (by rwa [Core.stateOf_settle_of_ne hj])
  | expire | sweep => exact .inl hjob
  | orphan =>
    refine .inl (stateOf_update_of_not hjob fun r _ hr => ?_)
    simp [hr]

theorem Steps.single_iff : Steps cal now core [ch] core' ↔ Step cal now core ch core' := by
  refine ⟨fun h => ?_, .single⟩
  obtain _ | ⟨hs, hn⟩ := h
  cases hn
  exact hs

/-- A pass leaves a claimed job alone. -/
theorem Steps.claimed_of_byPass {chs : List Change} (h : Steps cal now core chs core')
    (hs : core.Sound now) (hp : ∀ ch ∈ chs, ch.ByPass)
    (hjob : core.stateOf job = some .claimed) : core'.stateOf job = some .claimed := by
  have hkee : core'.Sound now ∧ core'.stateOf job = some .claimed := by
    refine h.keeps (P := fun core => core.Sound now ∧ core.stateOf job = some .claimed) ?_
      ⟨hs, hjob⟩
    rintro core ch core' hmem hst ⟨hs, hjob⟩
    refine ⟨hst.sound hs, ?_⟩
    have hch : ch.ByPass := hp ch hmem
    rcases hst.claimed_cases hs hjob with hk | ⟨-, hne⟩ | rfl | ⟨row, force, rfl, -⟩
    · exact hk
    · exact absurd hch hne
    · exact hch.elim
    · exact hch.elim
  exact hkee.2

/-! ## The release of a lease, exactly -/

variable {w w' : Ledger} {c : Call} {owner resource token : String} {kind : LeaseKind}
  {force : Bool} {row : LeaseRow} {reply : Reply}

/-- The release of the lease `row` is **accepted**: the row is there, the caller may release it,
and the event can be stored. -/
structure Ledger.Releases (w : Ledger) (c : Call) (owner resource : String) (kind : LeaseKind)
    (token : String) (force : Bool) (row : LeaseRow) : Prop where
  exclusive : kind.exclusive = true
  found : w.db.core.leases.find (resource, kind) = some row
  owner : force = true ∨ (token ≠ "" ∧ row.job = owner ∧ row.token.text = token)
  stored : c.fault = none
  admitted : w.Admits row.job (if force then "lease.release.force" else "lease.release") none

/-- The tables after the release of a lease. -/
def Core.release (core : Core) (row : LeaseRow) (force : Bool) (cal : Calendar) (moment : ℤ) :
    Core :=
  ((core.archive row (if force then .forceReleased else .released) moment).1.deleteLease
    row.key).settle cal row.job moment

/-- A release that succeeds was accepted. -/
theorem releases_of_ok
    (h : w.perform (.release owner resource kind token force) c = (.ok reply, w')) :
    ∃ row, w.Releases c owner resource kind token force row ∧
      w'.db.core = w.db.core.release row force c.calendar (truncate (c.clock 0)) := by
  obtain ⟨hflt, o, hrun, rfl⟩ := write_ok h
  obtain ⟨n, hn, -⟩ := return_ok hrun
  simp only [release, Tx.refuseIf_ok, now_bind, query_bind] at hn
  obtain ⟨hkind, ht, hn⟩ := hn
  cases hfi : w.db.core.getLease resource kind with
  | none =>
    simp only [Ledger.begin, hfi, Tx.run_fail] at hn
    cases hn
  | some row =>
    simp only [Ledger.begin, hfi, Tx.refuseIf_ok, exec_bind] at hn
    obtain ⟨ho, hrec⟩ := hn
    obtain ⟨-, hfree, rfl⟩ := recordEvent_ok hrec
    have ha := (Open.free_iff _ _ _ _ _ _).mp hfree
    refine ⟨row, ⟨by simpa using hkind, hfi, ?_, hflt, ha⟩, rfl⟩
    cases force with
    | true => exact .inl rfl
    | false =>
      simp only [true_and, not_or, not_not] at ht ho
      exact .inr ⟨ht, ho⟩

/-- A release that is accepted succeeds. -/
theorem Ledger.Releases.perform (h : w.Releases c owner resource kind token force row) :
    ∃ reply w', w.perform (.release owner resource kind token force) c = (.ok reply, w') ∧
      w'.db.core = w.db.core.release row force c.calendar (truncate (c.clock 0)) := by
  have hfi : w.begin.db.core.getLease resource kind = some row := h.found
  have htok : ¬ (force = false ∧ token = "") := by
    rintro ⟨rfl, rfl⟩
    simpa using h.owner
  have ho : ¬ (force = false ∧ (row.job ≠ owner ∨ row.token.text ≠ token)) := by
    rintro ⟨rfl, hne⟩
    rcases h.owner with hfor | ⟨-, hjob, ht⟩
    · cases hfor
    · simp [hjob, ht] at hne
  have hrun : ∃ n o, (Arbiter.release owner resource kind token force).run c w.begin = (.ok n, o) ∧
      o.db.core = w.db.core.release row force c.calendar (truncate (c.clock 0)) := by
    simp only [Arbiter.release, Tx.refuseIf_ok, now_bind, query_bind, hfi, exec_bind, h.exclusive]
    refine ⟨_, _, ⟨by simp, htok, ho, recordEvent_of_admits h.stored ?_⟩, rfl⟩
    exact h.admitted
  obtain ⟨n, o, hrun, hc⟩ := hrun
  refine ⟨.event n, ⟨o.db, o.files⟩, ?_, hc⟩
  have hb : (Request.release owner resource kind token force).body.run c w.begin =
    (.ok (.event n), o) := Tx.run_bind_of_ok hrun
  rw [Ledger.perform, Ledger.write, hb]
  exact if_pos h.stored

/-! ## When a claimed job is released under its launch -/

/-- The request releases a lease of the job, and no other lease of the job outlasts the moment that
the call reads. -/
def Ledger.EndsLaunch (w : Ledger) (c : Call) (job : String) : Request → Prop
  | .release owner resource kind token force =>
    ∃ row, w.Releases c owner resource kind token force row ∧ row.job = job ∧
      ∀ l ∈ w.db.core.leases, l.job = job → l.key ≠ row.key →
        l.expires.after c.calendar (truncate (c.clock 0)) = false
  | _ => False

/-- What an idle job still holds once one of its leases is gone. -/
theorem Core.held_eq_zero_iff {moment : ℤ} (hi : core.Idle now job) (state : HistoryState) :
    ((core.archive row state moment).1.deleteLease row.key).held cal job moment = 0 ↔
      ∀ l ∈ core.leases, l.job = job → l.key ≠ row.key → l.expires.after cal moment = false := by
  rw [held, Nat.add_eq_zero_iff, List.countP_eq_zero, List.countP_eq_zero]
  refine ⟨fun ⟨_, h⟩ l hl hjob hk => ?_, fun h => ⟨fun q hq => ?_, fun l hl => ?_⟩⟩
  · simpa [hjob] using h l (Table.mem_deleteWhere.mpr ⟨hl, by simpa using hk⟩)
  · simpa using hi.quotas q hq
  · obtain ⟨hl, hk⟩ := Table.mem_deleteWhere.mp hl
    by_cases hjob : l.job = job
    · simpa [hjob] using h l hl hjob (by simpa using hk)
    · simp [hjob]

/-- The release of a lease moves its claimed job to released exactly when no other lease outlasts
the moment of the release. -/
theorem Core.stateOf_release {moment : ℤ} (hs : core.Sound now)
    (hjob : core.stateOf row.job = some .claimed) :
    (core.release row force cal moment).stateOf row.job =
      if ∀ l ∈ core.leases, l.job = row.job → l.key ≠ row.key → l.expires.after cal moment = false
      then some .released else some .claimed := by
  have hi : core.Idle now row.job := hs.idle _ _ hjob (by decide)
  have hk : ∀ state, ((core.archive row state moment).1.deleteLease row.key).stateOf row.job =
    some .claimed := fun _ => hjob
  rw [release, stateOf_settle, hk]
  simp only [true_and, held_eq_zero_iff hi, map_some]

/-- A request that releases no lease leaves a claimed job claimed, makes it leased, or gives its
claim back. -/
theorem Request.Makes.claimed {r : Request} {chs : List Change} (h : r.Makes core reply chs)
    (hst : Steps cal now core chs core') (hs : core.Sound now)
    (hjob : core.stateOf job = some .claimed)
    (hr : ∀ owner resource kind token force, r ≠ .release owner resource kind token force) :
    core'.stateOf job = some .claimed ∨ core'.stateOf job = some .leased ∨
      r = .releaseClaim job := by
  have hone : ∀ ch, chs = [ch] → (∀ row force, ch ≠ .released row force) →
      core'.stateOf job = some .claimed ∨ core'.stateOf job = some .leased ∨
        ch = .aborted job := by
    rintro ch rfl hrel
    rcases (Steps.single_iff.mp hst).claimed_cases hs hjob with
      hk | ⟨hl, -⟩ | ha | ⟨row, force, rfl, -⟩
    · exact .inl hk
    · exact .inr (.inl hl)
    · exact .inr (.inr ha)
    · exact absurd rfl (hrel row force)
  have ho : ∀ ch, chs = [ch] → (∀ row force, ch ≠ .released row force) → ch ≠ .aborted job →
      core'.stateOf job = some .claimed ∨ core'.stateOf job = some .leased ∨
        r = .releaseClaim job := by
    intro ch hch hrel ha
    rcases hone ch hch hrel with hk | hl | heq
    · exact .inl hk
    · exact .inr (.inl hl)
    · exact absurd heq ha
  cases r with
  | appendEvent =>
    obtain rfl := h
    cases hst
    exact .inl hjob
  | claim =>
    obtain heq | heq := h
    · exact ho _ heq nofun nofun
    · exact ho _ heq nofun nofun
  | releaseClaim j =>
    rcases hone _ h nofun with hk | hl | ha
    · exact .inl hk
    · exact .inr (.inl hl)
    · cases ha
      exact .inr (.inr rfl)
  | acquire =>
    obtain ⟨lease, -, heq, -, -⟩ := h
    exact ho _ heq nofun nofun
  | release => exact absurd rfl (hr _ _ _ _ _)
  | recordQuotaPool =>
    obtain ⟨res, -, heq, -⟩ := h
    exact ho _ heq nofun nofun
  | releaseQuotaPool =>
    obtain ⟨row, heq, -⟩ := h
    exact ho _ heq nofun nofun
  | gc => exact .inl (hst.claimed_of_byPass hs h hjob)
  | releaseOrphan => exact ho _ h nofun nofun

/-- A release that is accepted and a claimed job. -/
theorem Ledger.Releases.claimed_iff {db : Db} (h : w.Releases c owner resource kind token force row)
    (hc : db.core = w.db.core.release row force c.calendar (truncate (c.clock 0)))
    (hs : w.db.core.Sound now) (hjob : w.db.jobState job = some .claimed) :
    (db.jobState job = some .claimed ∨ db.jobState job = some .leased ∨
      Request.release owner resource kind token force = .releaseClaim job) ↔
    ¬ w.EndsLaunch c job (.release owner resource kind token force) := by
  have hst : db.jobState job =
    (w.db.core.release row force c.calendar (truncate (c.clock 0))).stateOf job := by
    rw [← hc]
    rfl
  have he : w.EndsLaunch c job (.release owner resource kind token force) ↔ row.job = job ∧
      ∀ l ∈ w.db.core.leases, l.job = job → l.key ≠ row.key →
        l.expires.after c.calendar (truncate (c.clock 0)) = false := by
    refine ⟨?_, fun hl => ⟨row, h, hl⟩⟩
    rintro ⟨row', h', hl⟩
    obtain rfl : row = row' := Option.some.inj (h.found.symm.trans h'.found)
    exact hl
  rw [hst, he]
  by_cases hrow : row.job = job
  · subst hrow
    rw [stateOf_release hs hjob]
    split
    · next hl => exact iff_of_false (by simp) fun hn => hn ⟨rfl, hl⟩
    · next hl => exact iff_of_true (.inl rfl) fun he => hl he.2
  · refine iff_of_true (.inl ?_) fun he => hrow he.1
    rw [Core.release, Core.stateOf_settle_of_ne (Ne.symm hrow)]
    exact hjob

/-- A request and a claimed job. -/
theorem Shared.Inv.claimed_iff {s : Shared} {e : Answer} {pass : Option ℕ} {r : Request} (h : s.Inv)
    (hjob : s.ledger.db.jobState job = some .claimed) :
    ((s.perform pass r e).ledger.db.jobState job = some .claimed ∨
      (s.perform pass r e).ledger.db.jobState job = some .leased ∨ r = .releaseClaim job) ↔
    ¬ s.ledger.EndsLaunch (s.callOf e) job r := by
  have hs : s.ledger.db.core.Sound (s.after e) := h.sound.mono (s.now_le_after e)
  obtain ⟨-, ⟨err, herr, hdb, -⟩ | ⟨reply, chs, hok, hst, hmak, -⟩⟩ := s.perform_cases pass r e
  · refine iff_of_true (.inl (by rwa [hdb])) fun he => ?_
    cases r with
    | release =>
      obtain ⟨row, hrel, -⟩ := he
      obtain ⟨reply, w', hok, -⟩ := hrel.perform
      rw [hok] at herr
      cases herr
    | _ => exact he
  · cases r with
    | release owner resource kind token force =>
      have hp : s.ledger.perform (.release owner resource kind token force) (s.callOf e) =
        (.ok reply, (s.perform pass (.release owner resource kind token force) e).ledger) :=
        Prod.ext hok rfl
      obtain ⟨row, hrel, hc⟩ := releases_of_ok hp
      exact hrel.claimed_iff hc hs hjob
    | _ => exact iff_of_true (hmak.claimed hst hs hjob nofun) id

/-- **When a claimed job is lost.** In every history, a step leaves a claimed job claimed, makes it
leased, or is the `ReleaseClaim` of that job, exactly when it is not an accepted release of a lease
row of that job while no other lease of it outlasts the moment that the release reads. -/
theorem leaves_claimed_iff (h : Reachable .empty s) (hm : s.move program limits m = some t)
    (hjob : s.shared.ledger.db.jobState job = some .claimed) :
    (t.shared.ledger.db.jobState job = some .claimed ∨
      t.shared.ledger.db.jobState job = some .leased ∨
      ∃ pass, s.label m = some (.call pass (.releaseClaim job))) ↔
    ¬ ∃ i e pass r, m = .sched i e ∧ s.label m = some (.call pass r) ∧
      s.shared.ledger.EndsLaunch (s.shared.callOf e) job r := by
  rcases move_cases h hm with ⟨i, e, pass, r, rfl, hl, heq⟩ | ⟨hdb, hne⟩
  · have hrel : (∃ pass', s.label (.sched i e) = some (.call pass' (.releaseClaim job))) ↔
        r = .releaseClaim job := by
      rw [hl]
      refine ⟨?_, fun hr => ⟨pass, by rw [hr]⟩⟩
      rintro ⟨pass', ⟨⟩⟩
      rfl
    rw [hrel, heq, (reachable_inv h).claimed_iff hjob, not_iff_not]
    refine ⟨fun he => ⟨i, e, pass, r, rfl, hl, he⟩, ?_⟩
    rintro ⟨i', e', pass', r', ⟨⟩, hl', he⟩
    cases hl.symm.trans hl'
    exact he
  · -- no request: the database is as it was
    refine iff_of_true (.inl (by rwa [hdb])) ?_
    rintro ⟨i, e, pass, r, -, hl, -⟩
    exact hne pass r hl

/-- A claimed job acquires a lease. -/
theorem leaves_claimed_iff_leased : ∃ s t m, Reachable .empty s ∧
    s.move program limits m = some t ∧ s.shared.ledger.db.jobState "j" = some .claimed ∧
    t.shared.ledger.db.jobState "j" = some .leased ∧
    ¬ ∃ i e pass r, m = .sched i e ∧ s.label m = some (.call pass r) ∧
      s.shared.ledger.EndsLaunch (s.shared.callOf e) "j" r := by
  obtain ⟨s, t, hrea, ht, hcd, hl⟩ := exists_move (w := .empty) (p := fun s t =>
      s.shared.ledger.db.jobState "j" = some .claimed ∧
      t.shared.ledger.db.jobState "j" = some .leased)
    (releasedEarly.take 3) (.sched 1 (.ofSecond 1 [])) (by decide +kernel)
  exact ⟨s, t, _, hrea, ht, hcd, hl,
    (leaves_claimed_iff hrea ht hcd).mp (.inr (.inl hl))⟩

/-- A job that was released and re-claimed while a lease of its first generation is in the table. -/
def reclaimedEarly : List (Move Proc Answer) :=
  releasedEarly ++ submit 4 (.claim (workerClaim "j" true)) 21

/-- The release that follows. -/
def lateRelease : Request := .release "j" "r" .path "1-5a" false

/-- The first generation's lease of a re-claimed job is released, with its own token, and the job
goes from claimed to released; a second re-claim then succeeds. -/
theorem leaves_claimed_late : ∃ s t m, Reachable .empty s ∧ s.move program limits m = some t ∧
    s.label m = some (.call none lateRelease) ∧
    s.shared.ledger.db.jobState "j" = some .claimed ∧
    t.shared.ledger.db.jobState "j" = some .released ∧
    (t.shared.ledger.perform (.claim (workerClaim "j" true)) (Answer.ofSecond 23 []).call).1.isOk =
      true := by
  obtain ⟨s, t, h⟩ := exists_move (w := .empty) (p := fun s t =>
      s.label (.sched 5 (.ofSecond 22 [])) = some (.call none lateRelease) ∧
      s.shared.ledger.db.jobState "j" = some .claimed ∧
      t.shared.ledger.db.jobState "j" = some .released ∧
      (t.shared.ledger.perform (.claim (workerClaim "j" true))
        (Answer.ofSecond 23 []).call).1.isOk = true)
    (reclaimedEarly ++ [.start (.request lateRelease)]) (.sched 5 (.ofSecond 22 []))
    (by decide +kernel)
  exact ⟨s, t, _, h⟩

end Panewire.Arbiter
