import Panewire.Events.ActiveScan
import Panewire.Text.Digits

/-!
# Claims that the scan does not read

A job that was released can be claimed again; the ledger then writes a `job.reclaim`. The node's
scan knows only the first claim of a job, `job.claim`. A job that was claimed again is therefore not
active for it.

* `Runs` — what the directory says: a claim, first or repeated, is later than every end event;
* `scans_right_iff` — the scan agrees with the directory exactly when the newest claim or end event
  that it reads agrees with the newest that there is;
* `reclaimed_job_not_active` — after a re-claim it does not.
-/

namespace Panewire.Events

open Go Data EventFile List Option Table

variable {dir : EventsDir} {f : EventFile}

/-! ## Sequence numbers -/

/-- The number of a file, with five digits. -/
def fiveDigits (name : String) : Bool :=
  match cutChars '-' name.toList with
  | (digits, some _) => digits.length = 5 && digits.all Char.isDigit
  | _ => false

def EventFile.seq (f : EventFile) : ℕ := (hubEventSequence f.name).getD 0

/-- A directory as a history leaves it: every event has a number of its own, of at most five
digits. -/
structure Numbered (dir : EventsDir) : Prop where
  five : ∀ f ∈ dir, fiveDigits f.name = true
  distinct : ∀ f ∈ dir, ∀ g ∈ dir, f.seq = g.seq → f = g

theorem exists_digitsValue : ∀ {ds : List Char} (acc : ℕ), ds.all Char.isDigit = true →
    ∃ v, digitsValue ds acc = some v
  | [], acc, _ => ⟨acc, rfl⟩
  | c :: cs, acc, h => by
    rw [all_cons, Bool.and_eq_true] at h
    obtain ⟨v, hv⟩ := exists_digitsValue (acc * 10 + (c.toNat - 48)) h.2
    exact ⟨v, by rw [digitsValue, if_pos h.1, hv]⟩

/-- What a name with five digits is made of. -/
theorem fiveDigits_spec {name : String} (h : fiveDigits name = true) :
    ∃ digits rest v, name.toList = digits ++ '-' :: rest ∧ digits.length = 5 ∧
      digitsValue digits 0 = some v ∧ hubEventSequence name = some v := by
  unfold fiveDigits at h
  split at h
  · next digits rest hc =>
    rw [Bool.and_eq_true, decide_eq_true_eq] at h
    obtain ⟨v, hv⟩ := exists_digitsValue 0 h.2
    refine ⟨digits, rest, v, (cutChars_eq hc).1, h.1, hv, ?_⟩
    have hlt : v < 2 ^ 64 := by
      have := (digitsValue_bounds hv).2
      rw [h.1] at this
      omega
    unfold hubEventSequence
    rw [hc]
    simpa [h.1, hv] using hlt
  · cases h

/-- **Names sort by number.** -/
theorem name_lt_of_seq_lt {g : EventFile} (hf : fiveDigits f.name = true)
    (hg : fiveDigits g.name = true) (hlt : f.seq < g.seq) : f.name < g.name := by
  obtain ⟨ds, r, v, hn, hl, hv, hs⟩ := fiveDigits_spec hf
  obtain ⟨es, r', w, hn', hl', hw, hs'⟩ := fiveDigits_spec hg
  rw [seq, seq, hs, hs'] at hlt
  rw [String.lt_iff_toList_lt, hn, hn']
  exact append_lt_of_digitsValue hv hw (hl.trans hl'.symm) hlt _ _

/-- The listing is in the order of the numbers. -/
theorem Numbered.pairwise_listing (hdir : Numbered dir) :
    dir.listing.Pairwise fun f g => f.seq < g.seq := by
  have hn := pairwise_sorted dir
  have hnd : dir.listing.Pairwise fun f g => f.name ≠ g.name :=
    pairwise_map.mp (nodup_sorted dir)
  refine (hn.and hnd).imp_of_mem fun {f g} hf hg h => ?_
  have hf := mem_sorted.mp hf
  have hg := mem_sorted.mp hg
  rcases lt_trichotomy f.seq g.seq with hlt | heq | hgt
  · exact hlt
  · exact absurd (congrArg name (hdir.distinct f hf g hg heq)) h.2
  · exact absurd h.1 (not_le.mpr (name_lt_of_seq_lt (hdir.five g hg) (hdir.five f hf) hgt))

/-! ## The claim that counts -/

/-- **The job runs**: some claim is later than every end event. -/
def Runs (dir : EventsDir) : Prop :=
  ∃ c ∈ dir, c.starts = true ∧ ∀ e ∈ dir, e.finishes = true → e.seq < c.seq

/-- The newest claim, first or repeated. -/
def NewestClaim (dir : EventsDir) (c : EventFile) : Prop :=
  c ∈ dir ∧ c.starts = true ∧ ∀ c' ∈ dir, c'.starts = true → c'.seq ≤ c.seq

/-- The owner lane that a claim names, if the hub can use it. -/
def EventFile.lane (f : EventFile) : String :=
  f.event.elim "" fun e =>
    if hubAgentLabelPattern.accepts e.anyOwnerLane then e.anyOwnerLane else ""

/-- The newest claim or end event that there is. -/
def newestMark (dir : EventsDir) : Option EventFile :=
  lastOf (fun f => f.starts || f.finishes) dir.listing

theorem EventFile.not_finishes_of_starts (h : f.starts = true) : f.finishes = false := by
  unfold starts at h
  unfold finishes
  cases hev : f.event with
  | none => rfl
  | some e =>
    rw [hev, any_some] at h
    simp only [isClaimKind, Bool.or_eq_true, decide_eq_true_eq] at h
    rcases h with (h | h) | h <;> rw [any_some, h] <;> decide

/-- The newest claim or end event, by number. -/
theorem Numbered.newestMark_spec (hdir : Numbered dir) (h : newestMark dir = some f) :
    f ∈ dir ∧ (f.starts || f.finishes) = true ∧
      ∀ g ∈ dir, (g.starts || g.finishes) = true → g = f ∨ g.seq < f.seq := by
  obtain ⟨hma, before, after, hl, ha⟩ := lastOf_eq_some.mp h
  have hs := hdir.pairwise_listing
  rw [hl, pairwise_append] at hs
  have hf : f ∈ dir.listing := by
    rw [hl]
    exact mem_append_right _ mem_cons_self
  refine ⟨mem_sorted.mp hf, hma, fun g hg hgma => ?_⟩
  have hg : g ∈ dir.listing := mem_sorted.mpr hg
  rw [hl, mem_append, mem_cons] at hg
  rcases hg with hg | rfl | hg
  · exact .inr (hs.2.2 g hg f mem_cons_self)
  · exact .inl rfl
  · rw [ha g hg] at hgma
    cases hgma

theorem newestMark_eq_none (h : newestMark dir = none)
    (hf : f ∈ dir) : (f.starts || f.finishes) = false := by
  rw [newestMark, lastOf, List.getLast?_eq_none_iff, filter_eq_nil_iff] at h
  simpa using h f (mem_sorted.mpr hf)

/-- **The job runs exactly when the newest mark is a claim**, which is then the newest claim. -/
theorem Numbered.runs_iff (hdir : Numbered dir) :
    Runs dir ↔ (newestMark dir).any starts = true := by
  cases hma : newestMark dir with
  | none =>
    simp only [any_none, Bool.false_eq_true, iff_false]
    rintro ⟨c, hc, hs, -⟩
    have := newestMark_eq_none hma hc
    rw [hs] at this
    cases this
  | some f =>
    obtain ⟨hf, hfma, hn⟩ := hdir.newestMark_spec hma
    rw [any_some]
    constructor
    · rintro ⟨c, hc, hs, hl⟩
      by_contra hno
      have hfin : f.finishes = true := by simpa [hno] using hfma
      have hlt := hl f hf hfin
      rcases hn c hc (by rw [hs]; rfl) with rfl | hgt
      · exact lt_irrefl _ hlt
      · exact lt_asymm hlt hgt
    · intro hs
      refine ⟨f, hf, hs, fun e he hfin => ?_⟩
      rcases hn e he (by rw [hfin, Bool.or_true]) with rfl | hlt
      · rw [not_finishes_of_starts hs] at hfin
        cases hfin
      · exact hlt

theorem Numbered.newestClaim_iff (hdir : Numbered dir) {c : EventFile}
    (hma : newestMark dir = some f) (hs : f.starts = true) : NewestClaim dir c ↔ c = f := by
  obtain ⟨hf, -, hn⟩ := hdir.newestMark_spec hma
  constructor
  · rintro ⟨hc, hcs, hmax⟩
    rcases hn c hc (by rw [hcs]; rfl) with rfl | hlt
    · rfl
    · exact absurd (hmax f hf hs) (not_le.mpr hlt)
  · rintro rfl
    refine ⟨hf, hs, fun c' hc' hcs => ?_⟩
    rcases hn c' hc' (by rw [hcs]; rfl) with rfl | hlt
    · exact le_rfl
    · exact hlt.le

/-! ## The scan -/

/-- The events of the directory that the scan reads. -/
abbrev EventsDir.readable (dir : EventsDir) : List ReadEvent := dir.read fun _ => false

/-- The newest claim or end event that the scan reads. -/
def newestRead (times : TimeText) (jobID : String) (dir : EventsDir) : Option ReadEvent :=
  lastOf (fun x => x.claims times jobID || x.ends) dir.readable

/-- No age limit applies. -/
def Young (clock : ScanClock) (events : List ReadEvent) : Prop :=
  ∀ x ∈ events, clock.now - clock.activeMaxAge ≤ x.time clock.times ∧
    clock.now - clock.staleAge ≤ x.time clock.times

theorem le_latest {times : TimeText} {events : List ReadEvent} {x : ReadEvent} (hx : x ∈ events) :
    x.time times ≤ latest times events := by
  induction events using List.reverseRecOn with
  | nil => cases hx
  | append_singleton events y ih =>
    have hl : latest times (events ++ [y]) = max (latest times events) (y.time times) := by
      simp [latest]
    rw [hl]
    rcases mem_append.mp hx with hx | hx
    · exact (ih hx).trans (le_max_left _ _)
    · rw [mem_singleton.mp hx]
      exact le_max_right _ _

/-- Without age limits a job is active when the newest mark that the scan reads is a claim. -/
theorem isSome_scan_of_young {clock : ScanClock} {jobID : String} (hy : Young clock dir.readable) :
    (scanHubJobEventDetails clock jobID dir.readable).isSome =
      (newestRead clock.times jobID dir).any (·.claims clock.times jobID) := by
  rw [scanHubJobEventDetails_isSome, vouched, openClaim]
  change _ = Option.any _ (lastOf _ _)
  cases hl : lastOf (fun x => x.claims clock.times jobID || x.ends) dir.readable with
  | none => rfl
  | some x =>
    obtain ⟨-, before, after, hli, -⟩ := lastOf_eq_some.mp hl
    have hx : x ∈ dir.readable := hli ▸ by simp
    obtain ⟨ha, hs⟩ := hy x hx
    have hfr := hs.trans (le_latest hx)
    by_cases hc : x.claims clock.times jobID = true
    · simpa [Option.filter, hc, hfr] using ha
    · simp [Option.filter, hc]

/-- **The scan is right about a job**: active exactly when it runs, with the lane of its newest
claim. -/
def ScansRight (clock : ScanClock) (jobID : String) (dir : EventsDir) : Prop :=
  ((scanHubJobEventDetails clock jobID dir.readable).isSome = true ↔ Runs dir) ∧
    ∀ j, scanHubJobEventDetails clock jobID dir.readable = some j →
      ∀ c, NewestClaim dir c → j.job.ownerLane = c.lane

/-- The newest mark that the scan reads stands for the newest that there is: both are claims, with
the same lane, or neither is. -/
def ReadsNewest (times : TimeText) (jobID : String) (dir : EventsDir) : Prop :=
  (newestMark dir).any EventFile.starts = (newestRead times jobID dir).any (·.claims times jobID) ∧
    ∀ f x, newestMark dir = some f → f.starts = true → newestRead times jobID dir = some x →
      x.claims times jobID = true → (x.candidate times jobID).ownerLane = f.lane

/-- **The scan is right exactly when it reads the newest claim or end event**, or one that stands
for it, in every directory that a history leaves and no age limit applies to. -/
theorem scans_right_iff {clock : ScanClock} {jobID : String} {dir : EventsDir}
    (hdir : Numbered dir) (hyoung : Young clock dir.readable) :
    ScansRight clock jobID dir ↔ ReadsNewest clock.times jobID dir := by
  unfold ScansRight ReadsNewest
  rw [isSome_scan_of_young hyoung, hdir.runs_iff, ← Bool.eq_iff_iff, eq_comm]
  refine and_congr_right fun ha => ?_
  constructor
  · intro hl f x hma hsts hre hcls
    obtain ⟨j, hj⟩ : ∃ j, scanHubJobEventDetails clock jobID dir.readable = some j := by
      rw [← isSome_iff_exists, isSome_scan_of_young hyoung, hre]
      exact hcls
    obtain ⟨-, -, -, -, c, ho, hlan⟩ := scanHubJobEventDetails_eq_some hj
    have hcx : c = x := by
      rw [newestRead] at hre
      rw [openClaim, hre] at ho
      exact (Option.some.inj (filter_eq_some_iff.mp ho).1).symm
    rw [← hcx, ← hlan]
    exact hl j hj f ((hdir.newestClaim_iff hma hsts).mpr rfl)
  · intro hl j hj c hc
    obtain ⟨-, -, -, -, x, ho, hlan⟩ := scanHubJobEventDetails_eq_some hj
    obtain ⟨hre, hcls⟩ := filter_eq_some_iff.mp ho
    -- the scan finds a claim, so the newest mark is one too
    have hs : (newestMark dir).any starts = true := by
      rw [ha, newestRead, hre]
      exact hcls
    cases hma : newestMark dir with
    | none => rw [hma] at hs; cases hs
    | some f =>
      rw [hma] at hs
      rw [hlan, (hdir.newestClaim_iff hma hs).mp hc]
      exact hl f x hma hs hre hcls

/-! ## A job that was claimed again -/

/-- An event of the ledger, as the file in its job's directory. -/
def sampleFile (number : ℕ) (kind lane : String) : EventFile where
  name := eventFileName number kind
  size := 200
  doc := some
    { fields := ⟨[("kind", .str kind)], List.nodup_singleton _⟩
      payload := .object (Object.ofOptional
        [("agent_label", some (.str "worker")), ("owner_lane", some (.str lane))] (by simp)) }
  mtime := 100

def sampleClock : ScanClock where
  times := ⟨fun _ => "", fun _ => none⟩
  now := 600
  activeMaxAge := 1000
  staleAge := 1000

/-- Claimed, released and claimed again. -/
def reclaimed : EventsDir where
  rows := [sampleFile 1 "job.claim" "lead", sampleFile 2 "quota_pool.release" "",
    sampleFile 3 "job.reclaim" "lead"]
  nodup := by decide +kernel

/-- **A job that was claimed again is not active**: the scan ends with the release. -/
theorem reclaimed_job_not_active : ¬ ScansRight sampleClock "job-1" reclaimed := by
  rintro ⟨ha, -⟩
  have hs : (scanHubJobEventDetails sampleClock "job-1" reclaimed.readable).isSome = false := by
    decide +kernel
  have hru : Runs reclaimed :=
    ⟨sampleFile 3 "job.reclaim" "lead", .tail _ (.tail _ (.head _)), by decide +kernel,
      by decide +kernel⟩
  rw [ha.mpr hru] at hs
  cases hs

/-- Claimed and started; the completion is a record of `panewire emit`. -/
def claimedAndEnded : EventsDir where
  rows := [sampleFile 1 "job.claim" "lead", sampleFile 2 "job.spawned" "",
    { name := eventFileName 3 "job.completed"
      size := 90
      doc := some ⟨⟨[("type", .str "job.completed"), ("kind", .str "job.completed")], by decide⟩,
        .absent⟩
      mtime := 200 }]
  nodup := by decide +kernel

theorem scans_right_iff_claimed : ScansRight sampleClock "job-1" claimedAndEnded ∧
    ReadsNewest sampleClock.times "job-1" claimedAndEnded := by
  have hdir : Numbered claimedAndEnded :=
    ⟨by decide +kernel, by decide +kernel⟩
  have hy : Young sampleClock claimedAndEnded.readable := by
    unfold Young
    decide +kernel
  have hend : (newestMark claimedAndEnded).any starts = false := by decide +kernel
  have hr : ReadsNewest sampleClock.times "job-1" claimedAndEnded := by
    refine ⟨by decide +kernel, fun f x hf hs => ?_⟩
    rw [hf, any_some, hs] at hend
    cases hend
  exact ⟨(scans_right_iff hdir hy).mpr hr, hr⟩

end Panewire.Events
