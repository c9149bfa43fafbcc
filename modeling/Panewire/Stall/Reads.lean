import Mathlib.Data.Int.Notation
import Panewire.Data.Assoc

/-!
# Reading the panes of stalled jobs

A scan reads the panes of the tracked jobs in the order of the jobs: those that were **woken** and
those that are **due**, and no more than a limit.

* `Detector.readPanes` — the reads of one cycle;
* `reads_fair` — no woken pane is passed over and none waits while another one is read twice, in
  every run in which the limit is not met;
* `woken_pane_waits` — a pane that is woken and never read.
-/

namespace Panewire.Stall

open Data List

structure ReadConfig where
  pollInterval : ℤ
  maxReadsPerCycle : ℕ
  suspendAfterFailures : ℕ

structure Detector where
  /-- `stall_panes`: when the pane was read, or zero -/
  lastRead : List (String × ℤ)
  readFailures : ℕ

/-- What a cycle finds. -/
structure Cycle where
  now : ℤ
  /-- the panes of the tracked jobs -/
  jobs : List String
  /-- the live panes whose row can be looked up -/
  live : List String
  woken : List String
  /-- the listings that failed since the last cycle -/
  failures : ℕ
  readable : String → Bool
  /-- the row of the pane can be written -/
  saves : String → Bool

namespace Detector

variable (cfg : ReadConfig) (c : Cycle) (d : Detector)

def due (pane : String) : Bool :=
  let at' := (Assoc.get d.lastRead pane).getD 0
  pane ∈ c.woken || at' = 0 || at' + cfg.pollInterval ≤ c.now

/-- `readOnePane`, as far as it decides what is read next. -/
def readOnePane (pane : String) : Detector :=
  let found := (Assoc.get d.lastRead pane).isSome
  ⟨if c.saves pane && (c.readable pane || found) then Assoc.put d.lastRead pane c.now
    else d.lastRead, if c.readable pane then 0 else d.readFailures + 1⟩

/-- The state after the reads, and the panes that were read. Failures in a row end the cycle. -/
def readPanes : List String → ℕ → Detector → Detector × List String
  | [], _, d => (d, [])
  | pane :: jobs, reads, d =>
    if pane = "" || pane ∉ c.live || !d.due cfg c pane || cfg.maxReadsPerCycle ≤ reads then
      readPanes jobs reads d
    else
      let d := d.readOnePane c pane
      if cfg.suspendAfterFailures ≤ d.readFailures then (d, [pane])
      else
        let rest := readPanes jobs (reads + 1) d
        (rest.1, pane :: rest.2)

/-- A pane of a tracked job that waits to be read. -/
def waits (pane : String) : Bool := pane ≠ "" && pane ∈ c.live && d.due cfg c pane

/-- There is no more to read than the cycle may, and not so much fails that it ends early. -/
def calm : Bool :=
  c.jobs.countP (d.waits cfg c) ≤ cfg.maxReadsPerCycle &&
    d.readFailures + c.jobs.countP (!c.readable ·) < cfg.suspendAfterFailures

/-- The panes that the cycle reads. -/
def read : List String := (readPanes cfg c c.jobs 0 d).2

/-- The states in which successive cycles begin. A scan ends without failures, and only a listing
can fail between two of them. -/
def starts : List Cycle → Detector → List (Detector × Cycle)
  | [], _ => []
  | c :: cs, d =>
    let d := { d with readFailures := c.failures }
    (d, c) :: starts cs (readPanes cfg c c.jobs 0 d).1

variable {cfg c d} {d' : Detector}

theorem due_readOnePane {pane other : String} (hne : pane ≠ other) :
    (d.readOnePane c pane).due cfg c other = d.due cfg c other := by
  unfold due readOnePane
  dsimp only
  split
  · rw [Assoc.get_put, if_neg hne]
  · rfl

/-- **What waits is read**, as long as there is room for all that waited at first. -/
theorem mem_readPanes {jobs : List String} {n : ℕ} (hd : ∀ p, d'.due cfg c p = true → d.due cfg c p)
    (hn : n + jobs.countP (d.waits cfg c) ≤ cfg.maxReadsPerCycle)
    (hf : d'.readFailures + jobs.countP (!c.readable ·) < cfg.suspendAfterFailures)
    {pane : String} (hp : pane ∈ jobs) (hw : d'.waits cfg c pane = true) :
    pane ∈ (readPanes cfg c jobs n d').2 := by
  induction jobs generalizing n d' with
  | nil => cases hp
  | cons q jobs ih =>
    rw [countP_cons] at hn hf
    have hdw : ∀ p, d'.waits cfg c p = true → d.waits cfg c p = true := fun p hw => by
      simp_all [waits]
    unfold readPanes
    split
    · rcases mem_cons.mp hp with rfl | hp
      · -- the pane waits, and there is room for it
        simp_all [waits]
        omega
      · exact ih hd (by omega) (by omega) hp hw
    · have hqw : d'.waits cfg c q = true := by simp_all [waits]
      rw [if_pos (hdw q hqw)] at hn
      have hf' : (d'.readOnePane c q).readFailures + jobs.countP (!c.readable ·) <
          cfg.suspendAfterFailures := by
        unfold readOnePane
        split <;> simp_all <;> omega
      rw [if_neg (by omega)]
      by_cases hqp : q = pane
      · exact hqp ▸ mem_cons_self
      refine mem_cons_of_mem _ (ih (fun p hp => ?_) (by omega) hf'
        ((mem_cons.mp hp).resolve_left (Ne.symm hqp)) ?_)
      · by_cases hqp : q = p
        · exact hqp ▸ hd q (Bool.and_eq_true_iff.mp hqw).2
        · exact hd p ((due_readOnePane hqp).symm.trans hp)
      · rwa [waits, due_readOnePane hqp]

/-- **Fair reads**: in every run of calm cycles no woken pane of a live tracked job is left unread
while one that was not woken is read, and no pane is read twice while another one waits all the time
and is not read. -/
theorem reads_fair {cs : List Cycle} (h : ∀ s ∈ starts cfg cs d, s.1.calm cfg s.2 = true) :
    (∀ s ∈ starts cfg cs d, ∀ p ∈ s.1.read cfg s.2, p ∉ s.2.woken →
      ∀ w ∈ s.2.woken, w ∈ s.2.jobs → w ∈ s.2.live → w ≠ "" → w ∈ s.1.read cfg s.2) ∧
    ∀ p q, 2 ≤ ((starts cfg cs d).flatMap fun s => s.1.read cfg s.2).count p →
      (∀ s ∈ starts cfg cs d, q ∈ s.2.jobs ∧ s.1.waits cfg s.2 q = true) →
      ∃ s ∈ starts cfg cs d, q ∈ s.1.read cfg s.2 := by
  have hr : ∀ s ∈ starts cfg cs d, ∀ q ∈ s.2.jobs, s.1.waits cfg s.2 q = true →
      q ∈ s.1.read cfg s.2 := by
    intro s hs q hq hw
    have hc := h s hs
    simp only [calm, Bool.and_eq_true, decide_eq_true_eq] at hc
    exact mem_readPanes (fun _ h => h) (by omega) hc.2 hq hw
  refine ⟨fun s hs _ _ _ w hw hj hl hne => hr s hs w hj ?_, fun p q hp hq => ?_⟩
  · simp [waits, due, hne, hl, hw]
  · obtain ⟨s, hs, -⟩ := mem_flatMap.mp (count_pos_iff.mp (Nat.lt_of_lt_of_le Nat.zero_lt_two hp))
    exact ⟨s, hs, hr s hs q (hq s hs).1 (hq s hs).2⟩

/-! ## A pane that waits -/

/-- Two panes that were read at 1; the second one is woken. -/
def sampleStarts (limit : ℕ) : List (Detector × Cycle) :=
  starts ⟨5, limit, 3⟩ ([(10, ["b"]), (20, [])].map fun (now, woken) =>
    ⟨now, ["a", "b"], ["a", "b"], woken, 0, fun _ => true, fun _ => true⟩) ⟨[("a", 1), ("b", 1)], 0⟩

/-- **A woken pane is left unread** for one that was not woken, which is read again. -/
theorem woken_pane_waits : (sampleStarts 1).map (fun s => s.1.read ⟨5, 1, 3⟩ s.2) = [["a"], ["a"]] ∧
    ∀ s ∈ sampleStarts 1, s.1.waits ⟨5, 1, 3⟩ s.2 "b" = true := by
  decide +kernel

theorem reads_fair_both : ∃ s ∈ sampleStarts 2, "b" ∈ s.1.read ⟨5, 2, 3⟩ s.2 :=
  (reads_fair (by decide +kernel)).2 "a" "b" (by decide +kernel) (by decide +kernel)

end Detector

end Panewire.Stall
