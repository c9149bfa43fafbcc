import Panewire.Arbiter.Effects

/-!
# A job that is not leased holds nothing

The invariant of the tables: records and leases belong to registered jobs, and a job whose state is
not `leased` has no quota-pool record and only leases that are over. It is kept by every change, as
long as no clock reading is later than the present: a **stale** reading counts a lease as held for
longer, which errs on the safe side.
-/

namespace Panewire.Arbiter

open Data Arbiter.Core Table

variable {cal : Calendar} {now : ℤ} {core core' : Core} {ch : Change} {job : String} {moment : ℤ}

/-! ## The state of a job after an update -/

/-- The state of a job, if it is registered. -/
def Core.stateOf (core : Core) (job : String) : Option JobState :=
  (core.jobs.find job).map (·.state)

theorem Core.stateOf_of_find {row : JobRow} (h : core.jobs.find job = some row) :
    core.stateOf job = some row.state := by
  rw [stateOf, h, Option.map_some]

theorem Core.stateOf_update (core : Core) (p : JobRow → Bool) (f : JobRow → JobRow)
    (hf : ∀ r, (f r).job = r.job) (j : String) :
    ({ core with jobs := core.jobs.updateWhere p f hf } : Core).stateOf j =
      (core.jobs.find j).map fun r => if p r then (f r).state else r.state := by
  rw [stateOf, find_updateWhere, Option.map_map]
  congr 1
  funext r
  simp only [Function.comp_apply]
  split
  · rfl
  · rfl

theorem Core.stateOf_mark (core : Core) (job : String) (state : JobState) (moment : ℤ)
    (j : String) : (core.mark job state moment).stateOf j =
      if j = job then (core.stateOf j).map fun _ => state else core.stateOf j := by
  rw [mark, stateOf_update, stateOf]
  cases hfi : core.jobs.find j with
  | none => simp
  | some row =>
    have hrow : row.job = j := (mem_of_find hfi).2
    by_cases hj : j = job
    · simp [hrow, hj]
    · simp [hrow, hj]

@[simp] theorem Core.stateOf_touch (core : Core) (job : String) (moment : ℤ) (j : String) :
    (core.touch job moment).stateOf j = core.stateOf j := by
  rw [touch, stateOf_update]
  congr 1
  funext r
  split
  · rfl
  · rfl

theorem Core.stateOf_settle (core : Core) (cal : Calendar) (job : String) (moment : ℤ)
    (j : String) : (core.settle cal job moment).stateOf j =
      if j = job ∧ core.held cal job moment = 0 then (core.stateOf j).map fun _ => .released
      else core.stateOf j := by
  unfold settle
  split
  · rw [stateOf_touch, if_neg]
    omega
  · rw [stateOf_mark]
    have hz : core.held cal job moment = 0 := by omega
    simp [hz]

@[simp] theorem Core.settle_quotas : (core.settle cal job moment).quotas = core.quotas := by
  unfold settle
  split <;> rfl

@[simp] theorem Core.settle_leases : (core.settle cal job moment).leases = core.leases := by
  unfold settle
  split <;> rfl

/-! ## Holding nothing -/

/-- At time `now` the job has no quota-pool record, and all its leases are over. -/
structure Core.Idle (core : Core) (now : ℤ) (job : String) : Prop where
  quotas : ∀ q ∈ core.quotas, q.job ≠ job
  leases : ∀ l ∈ core.leases, l.job = job → ∃ t, l.expires = .iso t ∧ t ≤ now

/-- Fewer rows hold no more. -/
theorem Core.Idle.of_subset (h : core.Idle now job) (hq : ∀ q ∈ core'.quotas, q ∈ core.quotas)
    (hl : ∀ l ∈ core'.leases, l ∈ core.leases) : core'.Idle now job where
  quotas q hq' := h.quotas q (hq q hq')
  leases l hl' := h.leases l (hl l hl')

/-- A count of nothing held, taken with a clock reading that may be stale. -/
theorem Core.idle_of_held_eq_zero (htim : ∀ l ∈ core.leases, ∃ t, l.expires = .iso t)
    (hm : moment ≤ now) (h : core.held cal job moment = 0) : core.Idle now job := by
  unfold held at h
  rw [Nat.add_eq_zero_iff, List.countP_eq_zero, List.countP_eq_zero] at h
  obtain ⟨hq, hl⟩ := h
  refine ⟨fun q hq' hjob => hq q hq' (by simpa using hjob), fun l hl' hjob => ?_⟩
  obtain ⟨t, ht⟩ := htim l hl'
  have ho := hl l hl'
  rw [ht] at ho
  have hle : t ≤ truncate moment := by simpa [hjob, Stamp.after] using ho
  exact ⟨t, ht, hle.trans ((truncate_le moment).trans hm)⟩

/-! ## The invariant -/

/-- The tables are sound at time `now`. -/
structure Core.Sound (core : Core) (now : ℤ) : Prop where
  /-- a quota-pool record belongs to a registered job -/
  quotaJob : ∀ q ∈ core.quotas, core.stateOf q.job ≠ none
  /-- a lease belongs to a registered job -/
  leaseJob : ∀ l ∈ core.leases, core.stateOf l.job ≠ none
  /-- a lease expires at a time the program wrote -/
  times : ∀ l ∈ core.leases, ∃ t, l.expires = .iso t
  /-- a job that is not leased holds nothing -/
  idle : ∀ job s, core.stateOf job = some s → s ≠ .leased → core.Idle now job

theorem Core.sound_empty : Db.empty.core.Sound now where
  quotaJob q hq := absurd hq not_mem_empty
  leaseJob l hl := absurd hl not_mem_empty
  times l hl := absurd hl not_mem_empty
  idle job s hs := by cases hs

/-- Time only makes leases expire. -/
theorem Core.Sound.mono {now' : ℤ} (h : core.Sound now) (hle : now ≤ now') : core.Sound now' where
  quotaJob := h.quotaJob
  leaseJob := h.leaseJob
  times := h.times
  idle job s hs hne := by
    obtain ⟨hq, hl⟩ := h.idle job s hs hne
    refine ⟨hq, fun l hl' hjob => ?_⟩
    obtain ⟨t, ht, hn⟩ := hl l hl' hjob
    exact ⟨t, ht, hn.trans hle⟩

/-- **Shrinking**: no new records or leases, the same jobs, and no job less leased than it was
unless it holds nothing. -/
theorem Core.Sound.shrink (h : core.Sound now) (hq : ∀ q ∈ core'.quotas, q ∈ core.quotas)
    (hl : ∀ l ∈ core'.leases, l ∈ core.leases)
    (hj : ∀ j, core.stateOf j ≠ none → core'.stateOf j ≠ none)
    (hi : ∀ j s, core'.stateOf j = some s → s ≠ .leased →
      core.stateOf j = some s ∨ core'.Idle now j) : core'.Sound now where
  quotaJob q hq' := hj _ (h.quotaJob q (hq q hq'))
  leaseJob l hl' := hj _ (h.leaseJob l (hl l hl'))
  times l hl' := h.times l (hl l hl')
  idle j s hs hne := by
    rcases hi j s hs hne with hold | hi
    · exact (h.idle j s hold hne).of_subset hq hl
    · exact hi

/-- Settling a job keeps the tables sound, if they are with the job as it is. -/
theorem Core.Sound.settle (h : core.Sound now) (cal : Calendar) (job : String)
    (hm : moment ≤ now) : (core.settle cal job moment).Sound now := by
  refine h.shrink (by simp) (by simp) (fun j hj => ?_) (fun j s hs hne => ?_)
  · rw [stateOf_settle]
    split
    · simpa using hj
    · exact hj
  · rw [stateOf_settle] at hs
    split at hs
    · next hz =>
      obtain ⟨rfl, hz⟩ := hz
      exact .inr ((idle_of_held_eq_zero h.times hm hz).of_subset (by simp) (by simp))
    · exact .inl hs

/-- **Growing**: one job gets a record or a lease and is marked leased. -/
theorem Core.Sound.grow (h : core.Sound now) (job : String) (hjob : core.stateOf job ≠ none)
    (hq : ∀ q ∈ core'.quotas, q ∈ core.quotas ∨ q.job = job)
    (hl : ∀ l ∈ core'.leases, l ∈ core.leases ∨ (l.job = job ∧ ∃ t, l.expires = .iso t))
    (hst : ∀ j, core'.stateOf j =
      if j = job then (core.stateOf j).map fun _ => .leased else core.stateOf j) :
    core'.Sound now := by
  have hreg : ∀ j, core.stateOf j ≠ none → core'.stateOf j ≠ none := by
    intro j hj
    rw [hst]
    split
    · simpa using hj
    · exact hj
  refine ⟨fun q hq' => ?_, fun l hl' => ?_, fun l hl' => ?_, fun j s hs hne => ?_⟩
  · rcases hq q hq' with hold | rfl
    · exact hreg _ (h.quotaJob q hold)
    · exact hreg _ hjob
  · rcases hl l hl' with hold | ⟨rfl, -⟩
    · exact hreg _ (h.leaseJob l hold)
    · exact hreg _ hjob
  · rcases hl l hl' with hold | ⟨-, ht⟩
    · exact h.times l hold
    · exact ht
  · rw [hst] at hs
    have hj : j ≠ job := by
      rintro rfl
      rw [if_pos rfl] at hs
      obtain ⟨_, _, rfl⟩ := Option.map_eq_some_iff.mp hs
      exact hne rfl
    rw [if_neg hj] at hs
    obtain ⟨hqt, hls⟩ := h.idle j s hs hne
    refine ⟨fun q hq' hqj => ?_, fun l hl' hlj => ?_⟩
    · rcases hq q hq' with hold | hn
      · exact hqt q hold hqj
      · exact hj (hqj.symm.trans hn)
    · rcases hl l hl' with hold | ⟨hn, -⟩
      · exact hls l hold hlj
      · exact absurd (hlj.symm.trans hn) hj

/-! ## Every change keeps it -/

@[simp] theorem Core.superseding_quotas (core : Core) (key : String × LeaseKind) (moment : ℤ) :
    (core.superseding key moment).quotas = core.quotas := by
  unfold superseding
  split <;> rfl

@[simp] theorem Core.superseding_jobs (core : Core) (key : String × LeaseKind) (moment : ℤ) :
    (core.superseding key moment).jobs = core.jobs := by
  unfold superseding
  split <;> rfl

theorem Core.mem_superseding_leases {key : String × LeaseKind} {l : LeaseRow} :
    l ∈ (core.superseding key moment).leases ↔ l ∈ core.leases ∧ l.key ≠ key := by
  unfold superseding
  split
  · next hfi => exact ⟨fun hl => ⟨hl, find_eq_none.mp hfi l hl⟩, And.left⟩
  · next held hfi =>
    have hk : held.key = key := (mem_of_find hfi).2
    show l ∈ core.leases.deleteWhere _ ↔ _
    simp [hk]

/-- Deleting rows keeps the tables sound. -/
theorem Core.Sound.of_deleted (h : core.Sound now) (hjo : core'.jobs = core.jobs)
    (hq : ∀ q ∈ core'.quotas, q ∈ core.quotas) (hl : ∀ l ∈ core'.leases, l ∈ core.leases) :
    core'.Sound now := by
  have hst : ∀ j, core'.stateOf j = core.stateOf j := fun j => by rw [stateOf, hjo, stateOf]
  exact h.shrink hq hl (fun j hj => by rwa [hst]) fun j s hs _ => .inl (by rwa [← hst])

theorem Core.Sound.deleteLease (h : core.Sound now) (key : String × LeaseKind) :
    (core.deleteLease key).Sound now :=
  h.of_deleted rfl (fun _ hq => hq) fun _ hl => (mem_deleteWhere.mp hl).1

theorem Core.Sound.deleteQuota (h : core.Sound now) (key : String × String) :
    (core.deleteQuota key).Sound now :=
  h.of_deleted rfl (fun _ hq => (mem_deleteWhere.mp hq).1) fun _ hl => hl

theorem Core.Sound.archive (h : core.Sound now) (row : LeaseRow) (state : HistoryState)
    (moment : ℤ) : (core.archive row state moment).1.Sound now :=
  h.of_deleted rfl (fun _ hq => hq) fun _ hl => hl

/-- The rows of a job without a live lease or record may change. -/
theorem Core.Sound.updateJob (hs : core.Sound now) (hold : core.Idle now job)
    {p : JobRow → Bool} {f : JobRow → JobRow} (hf : ∀ r, (f r).job = r.job)
    (hp : ∀ r, p r = true → r.job = job) :
    ({ core with jobs := core.jobs.updateWhere p f hf } : Core).Sound now := by
  refine hs.shrink (fun _ hq => hq) (fun _ hl => hl) (fun j hj => ?_) (fun j s hj hne => ?_)
  · rw [Core.stateOf_update]
    simpa [stateOf] using hj
  by_cases hjob : j = job
  · subst hjob
    exact .inr (hold.of_subset (fun _ hq => hq) fun _ hl => hl)
  · rw [Core.stateOf_update] at hj
    obtain ⟨r, hr, rfl⟩ := Option.map_eq_some_iff.mp hj
    rw [stateOf_of_find hr, if_neg fun h => hjob ((mem_of_find hr).2.symm.trans (hp r h))]
    exact .inl rfl

theorem Core.stateOf_insertNew {row : JobRow} (h : core.jobs.find row.job = none) (j : String) :
    ({ core with jobs := (core.jobs.insertNew row).1 } : Core).stateOf j =
      if row.job = j then some row.state else core.stateOf j := by
  rw [stateOf, find_insertNew h]
  split
  · rfl
  · rfl

/-- **Every change keeps the tables sound.** -/
theorem Step.sound (h : Step cal now core ch core') (hs : core.Sound now) : core'.Sound now := by
  cases h with
  | @claim row fresh state =>
    have hn : core.stateOf row.job = none := by rw [stateOf, fresh]; rfl
    refine hs.shrink (fun _ hq => hq) (fun _ hl => hl) (fun j hj => ?_) (fun j s hj hne => ?_)
    · rw [stateOf_insertNew fresh]
      split
      · simp
      · exact hj
    · rw [stateOf_insertNew fresh] at hj
      split at hj
      · next heq =>
        subst heq
        refine .inr ⟨fun q hq hjob => ?_, fun l hl hjob => ?_⟩
        · exact hs.quotaJob q hq (hjob ▸ hn)
        · exact absurd (hjob ▸ hn) (hs.leaseJob l hl)
      · exact .inl hj
  | @reclaim job row f hf found state state' =>
    have hold : core.Idle now job :=
      hs.idle job _ (stateOf_of_find found) (by rw [state]; decide)
    exact hs.updateJob hold hf fun r hr => of_decide_eq_true hr
  | abort hm _ _ => exact hs.settle cal _ hm
  | @grant row moment job hm found token times expired =>
    refine hs.grow row.job ?_ (fun q hq => .inl ?_) (fun l hl => ?_) fun j => ?_
    · rw [stateOf_of_find found]
      simp
    · simpa [mark] using hq
    · rcases mem_insertNew hl with hold | rfl
      · exact .inl (mem_superseding_leases.mp hold).1
      · exact .inr ⟨rfl, times⟩
    · rw [stateOf_mark]
      simp [stateOf]
  | @release row force moment hm found =>
    exact ((hs.archive row _ moment).deleteLease row.key).settle cal row.job hm
  | @record row job moment hm found fresh =>
    refine hs.grow row.job ?_ (fun q hq => ?_) (fun l hl => .inl hl) fun j => ?_
    · rw [stateOf_of_find found]
      simp
    · rcases mem_insertNew hq with hold | rfl
      · exact .inl hold
      · exact .inr rfl
    · rw [stateOf_mark]
      rfl
  | @drop row moment hm found =>
    exact (hs.deleteQuota row.key).settle cal row.job hm
  | expire _ => exact hs.archive _ _ _
  | sweep => exact hs.deleteQuota _
  | @orphan job moment eligible =>
    simp only [Core.eligible, Bool.and_eq_true, decide_eq_true_eq, Bool.not_eq_true',
      List.any_eq_false] at eligible
    obtain ⟨⟨-, hlss⟩, hquo⟩ := eligible
    exact hs.updateJob ⟨fun q hq heq => hquo q hq (by simpa using heq),
      fun l hl heq => absurd (by simpa using heq) (hlss l hl)⟩ _ fun r hr => by simp_all

end Panewire.Arbiter
