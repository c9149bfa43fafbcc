import Panewire.Spawn.Sound

/-!
# The life of an operation

Five statements move the status of an operation, each under its own guard, and a result may arrive
late, twice or for an attempt that is over. What they agree on is an order: `Progress` compares the
**attempt** first and then the **phase** inside the attempt, and no statement ever steps back in it.

* the first phase is all that leads to an answer: accepted, dispatching, reconciling;
* the second is `deadline_exceeded`, which still waits for its node;
* the third is over, for good or until the next attempt.
-/

namespace Panewire.Spawn

open Data Relation Store Option Bool

variable {row : OperationRow} {s : Store} {h h' : History} {cfg : Config}

/-! ## One call -/

/-- Operations are never deleted, and each has only gone on. -/
def Store.Advances (s t : Store) : Prop :=
  ∀ id row, s.row id = some row → ∃ row', t.row id = some row' ∧ Progress row row'

theorem Store.Advances.refl (s : Store) : s.Advances s := fun _ row h => ⟨row, h, .refl row⟩

theorem Store.Advances.trans {t u : Store} (hst : s.Advances t) (htu : t.Advances u) :
    s.Advances u := by
  intro id row hrow
  obtain ⟨row', hrow', hp⟩ := hst id row hrow
  obtain ⟨row'', hrow'', hp'⟩ := htu id row' hrow'
  exact ⟨row'', hrow'', hp.trans hp'⟩

/-- **Every call advances the operations.** -/
theorem Store.advances_perform (cfg : Config) (s : Store) (op : Op) :
    s.Advances (s.perform cfg op) := by
  intro id row hrow
  obtain ⟨row', hrow', hgo⟩ := (s.perform_change cfg op).goesOn hrow
  exact ⟨row', hrow', hgo.toProgress⟩

/-- A result for an attempt that is over finds nothing to change. -/
theorem Store.completeSpawn_of_older {task : Task}
    (hrow : s.row task.request.requestID = some row) (hold : task.attempt < row.attempt)
    (o : Outcome) (now : ℤ) : s.completeSpawn task o now = (false, s) := by
  refine if_neg fun ha => ?_
  obtain ⟨found, hfd, htk⟩ := affects_iff.mp ha
  rw [hrow, Option.some.injEq] at hfd
  simp only [OperationRow.takes, and_eq_true, decide_eq_true_eq] at htk
  exact hold.ne (hfd ▸ htk.1.1.1.1).symm

/-! ## Runs -/

/-- The second state comes later in a run than the first. -/
def Later (cfg : Config) : History → History → Prop :=
  ReflTransGen fun h h' => ∃ e, h.after cfg e = some h'

theorem Later.advances (hrun : Later cfg h h') : h.store.Advances h'.store := by
  induction hrun with
  | refl => exact .refl _
  | tail _ hs ih =>
    obtain ⟨e, he⟩ := hs
    obtain ⟨op, -, rfl⟩ | ⟨id, row, -, rfl⟩ := History.after_cases he
    · exact ih.trans (advances_perform cfg _ op)
    · exact ih

/-- **The life of an operation.** Whatever comes later in a run, an operation that succeeded or
failed stays so, the attempt number has not gone down, and an operation that missed its deadline is
not reconciling again in the same attempt. A result for an earlier attempt changes nothing at all.
-/
theorem operation_never_steps_back {cfg : Config} {h h' : History} (hrun : Later cfg h h')
    {id : String} {row : OperationRow} (hrow : h.store.row id = some row) :
    (∃ row', h'.store.row id = some row' ∧
      (row.status = .succeeded → row'.status = .succeeded) ∧
      (row.status = .failed → row'.status = .failed) ∧
      row.attempt ≤ row'.attempt ∧
      (row.status = .deadlineExceeded → row'.attempt = row.attempt →
        row'.status ≠ .reconciling)) ∧
    ∀ task o now, task.request.requestID = id → task.attempt < row.attempt →
      h.store.completeSpawn task o now = (false, h.store) := by
  refine ⟨?_, ?_⟩
  · obtain ⟨row', hrow', hp⟩ := hrun.advances id row hrow
    refine ⟨row', hrow', fun hs => ?_, fun hs => ?_, hp.attempt, fun hs hsame hb => ?_⟩
    · exact (hp.final (.inl hs)).trans hs
    · exact (hp.final (.inr hs)).trans hs
    · have hpha := hp.phase hsame
      rw [hs, hb] at hpha
      exact absurd hpha (by decide)
  · rintro task o now rfl hold
    exact completeSpawn_of_older hrow hold o now

theorem Later.foldlM {es : List Event} (heq : es.foldlM (History.after cfg) h = some h') :
    Later cfg h h' := by
  induction es generalizing h with
  | nil =>
    cases heq
    exact .refl
  | cons e es ih =>
    obtain ⟨next, hn, hre⟩ := bind_eq_some_iff.mp heq
    exact .head ⟨e, hn⟩ (ih hre)

/-- The snapshot of a request right after it was accepted. -/
def sampleTask : Task := ⟨sampleRequest "a", "job", "lane", .accepted, 0, 60000, 1, none, {}⟩

/-- A node is bound and misses the deadline. -/
def missedDeadline : List Event :=
  [.call (.claim (sampleRequest "a") "job" "lane" 0), .read "a",
    .call (.bind "a" 1 ⟨"n", "host", [], 60000⟩),
    .call (.complete sampleTask { rc := 75, reason := "timeout" } 5)]

def cleanedUp : Outcome := { rc := 78, reason := "e", retryable := true, nodeResult := true }

/-- Its late answer says that it cleaned up, and the next attempt loses its node. -/
def nextAttempt : List Event :=
  [.call (.complete sampleTask cleanedUp 6), .call (.resumeCleaned sampleTask 7), .read "a",
    .call (.complete { sampleTask with attempt := 2, deadline := 60007, outcome := cleanedUp }
      { rc := 75, reason := "disconnected" } 8)]

/-- Two points of a run, and the status and the attempt of an operation at each. -/
theorem exists_later (es es' : List Event) (id : String) (a b : Status × ℕ)
    (h : (replay sampleConfig es).bind (fun h => (es'.foldlM (History.after sampleConfig) h).bind
      fun h' => if (h.store.row id).map (fun row => (row.status, row.attempt)) = some a ∧
        (h'.store.row id).map (fun row => (row.status, row.attempt)) = some b
      then some () else none) = some ()) :
    ∃ h h' row row', Reachable sampleConfig h ∧ Later sampleConfig h h' ∧
      h.store.row id = some row ∧ (row.status, row.attempt) = a ∧
      h'.store.row id = some row' ∧ (row'.status, row'.attempt) = b := by
  obtain ⟨h, hfst, h2⟩ := bind_eq_some_iff.mp h
  obtain ⟨h', hs, h3⟩ := bind_eq_some_iff.mp h2
  obtain ⟨ha, hb⟩ := (ite_none_right_eq_some.mp h3).1
  obtain ⟨row, hrow, hst⟩ := map_eq_some_iff.mp ha
  obtain ⟨row', hrow', hst'⟩ := map_eq_some_iff.mp hb
  exact ⟨h, h', row, row', Reachable.empty.foldlM hfst, .foldlM hs, hrow, hst, hrow',
    hst'⟩

/-- **The next attempt may lose its node**: the operation is reconciling again. -/
theorem missed_deadline_reconciles_later :
    ∃ h h' row row', Reachable sampleConfig h ∧ Later sampleConfig h h' ∧
      h.store.row "a" = some row ∧ (row.status, row.attempt) = (.deadlineExceeded, 1) ∧
      h'.store.row "a" = some row' ∧ (row'.status, row'.attempt) = (.reconciling, 2) :=
  exists_later missedDeadline nextAttempt "a" _ _ (by decide +kernel)

theorem operation_never_steps_back_cleaned : ∃ h h' row row',
    Later sampleConfig h h' ∧ h.store.row "a" = some row ∧
    (row.status, row.attempt) = (.deadlineExceeded, 1) ∧
    h'.store.row "a" = some row' ∧ row'.status = .retryable ∧ row'.attempt = row.attempt ∧
    row'.status ≠ .reconciling := by
  obtain ⟨h, h', row, row', -, hrun, hrow, hst, hrow', hst'⟩ :=
    exists_later missedDeadline [.call (.complete sampleTask cleanedUp 6)] "a"
      (.deadlineExceeded, 1) (.retryable, 1) (by decide +kernel)
  rw [Prod.mk.injEq] at hst hst'
  obtain ⟨⟨found, hfd, -, -, -, hb⟩, -⟩ := operation_never_steps_back hrun hrow
  rw [hrow', Option.some.injEq] at hfd
  have hsame : row'.attempt = row.attempt := hst'.2.trans hst.2.symm
  exact ⟨h, h', row, row', hrun, hrow, Prod.ext hst.1 hst.2, hrow', hst'.1, hsame,
    hfd ▸ hb hst.1 (hfd ▸ hsame)⟩

end Panewire.Spawn
