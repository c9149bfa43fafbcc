import Panewire.Spawn.Lifecycle
import Panewire.Spawn.Protocol

/-!
# Who may free a bound attempt

Once a node is bound, the attempt is the node's: only the result of this node should make the
operation retryable and give its reservation back. The store itself checks this for timeouts only.
For every other refusal it relies on the **snapshot** of the completing worker, which may have been
listed before the node was bound.

`freed_only_by_its_node_iff` says exactly when a move of the hub respects the binding, and
`stale_listing_frees_bound` is a run in which it does not.
-/

namespace Panewire.Spawn

open Conc Data Option

variable {node : NodeRequest} {id : String}

/-! ## Refusals that free -/

/-- A refusal that the store takes as retryable even when a node is bound. -/
def Outcome.Replayable (o : Outcome) : Prop :=
  o.rc ≠ 0 ∧ o.retryable = true ∧ spawnRefusalReplayable o.reason = true ∧
    o.reason ≠ "disconnected" ∧ o.reason ≠ "unknown" ∧ (o.reason = "timeout" → o.nodeResult = true)

theorem Outcome.status_eq_retryable_iff (o : Outcome) : o.status = .retryable ↔
    o.rc ≠ 0 ∧ o.retryable = true ∧ spawnRefusalReplayable o.reason = true ∧
      o.reason ≠ "disconnected" ∧ o.reason ≠ "unknown" := by
  by_cases hrc : o.rc = 0
  · simp [Outcome.status, Outcome.judged, spawnOutcomeStatus, hrc]
  by_cases hto : o.reason = "timeout"
  · simp [Outcome.status, Outcome.judged, spawnOutcomeStatus, hrc, hto]
  by_cases hdis : o.reason = "disconnected"
  · simp [Outcome.status, Outcome.judged, spawnOutcomeStatus, hrc, hdis]
  by_cases hu : o.reason = "unknown"
  · simp [Outcome.status, Outcome.judged, spawnOutcomeStatus, hrc, hu]
  simp [Outcome.status, Outcome.judged, spawnOutcomeStatus, hrc, hto, hdis, hu]

/-- **What makes a bound attempt retryable**: a replayable refusal, for this attempt, while it is
pending. -/
theorem takes_retryable_iff {row : OperationRow} (hn : row.node = some node)
    (task : Task) (o : Outcome) :
    (row.takes task o = true ∧ o.status = .retryable) ↔
      row.attempt = task.attempt ∧ row.status.pending = true ∧ o.Replayable := by
  constructor
  · rintro ⟨htk, hst⟩
    simp only [OperationRow.takes, hn, hst, Bool.and_eq_true, decide_eq_true_eq] at htk
    obtain ⟨⟨⟨⟨hat, hpd⟩, -⟩, -⟩, hgua⟩ := htk
    obtain ⟨hrc, hry, hrp, hdis, hu⟩ := o.status_eq_retryable_iff.mp hst
    refine ⟨hat, hpd, hrc, hry, hrp, hdis, hu, fun hto => ?_⟩
    simpa [hto] using hgua
  · rintro ⟨hat, hpd, hrc, hry, hrp, hdis, hu, hto⟩
    have hst : o.status = .retryable :=
      o.status_eq_retryable_iff.mpr ⟨hrc, hry, hrp, hdis, hu⟩
    have hl : row.status ≠ .retryable := by
      intro heq
      rw [heq] at hpd
      cases hpd
    refine ⟨?_, hst⟩
    simp only [OperationRow.takes, hn, hst, Bool.and_eq_true, decide_eq_true_eq]
    refine ⟨⟨⟨⟨hat, hpd⟩, hl⟩, by simp⟩, ?_⟩
    by_cases hw : o.reason = "timeout"
    · simp [hto hw]
    · simp [hw]

/-- The attempt that `node` is bound to becomes retryable, or loses its reservation. -/
def Store.Frees (s t : Store) (id : String) (node : NodeRequest) : Prop :=
  ∃ row, s.row id = some row ∧ row.node = some node ∧ row.status ≠ .retryable ∧
    ((∃ row', t.row id = some row' ∧ row'.status = .retryable) ∨
      ((∃ r ∈ s.reservations, r.requestID = id) ∧ ∀ r ∈ t.reservations, r.requestID ≠ id))

/-- **Only a completion frees** a bound attempt. -/
theorem Change.frees {op : Op} {s t : Store} (h : Change op s t) (hf : s.Frees t id node) :
    ∃ task o now row, op = .complete task o now ∧ task.request.requestID = id ∧
      s.row id = some row ∧ row.node = some node ∧ row.takes task o = true ∧
      o.status = .retryable := by
  obtain ⟨row, hrow, hno, hl, hfre⟩ := hf
  -- neither happens when the row and the reservations of this request stay
  have kept : t.row id = some row → (∀ r ∈ s.reservations, r.requestID = id → r ∈ t.reservations) →
      False := by
    intro hsame hres
    rcases hfre with ⟨row', hrow', hry⟩ | ⟨⟨r, hr, hid⟩, hn⟩
    · rw [hsame, Option.some.injEq] at hrow'
      exact hl (hrow' ▸ hry)
    · exact hn r (hres r hr hid) hid
  cases h with
  | steady g hg rows reservations =>
    rcases hfre with ⟨row', hrow', hry⟩ | ⟨⟨r, hr, hid⟩, hn⟩
    · rw [rows, hrow, map_some, Option.some.injEq] at hrow'
      exact absurd ((hg row).retryable.mp (hrow' ▸ hry)) hl
    · exact absurd hid (hn r (reservations ▸ hr))
  | claimed new r hnew _ _ _ _ rows reservations =>
    have hne : id ≠ new.requestID := by
      rintro rfl
      rw [hrow] at hnew
      cases hnew
    refine (kept ?_ fun q hq _ => (reservations q).mpr (.inl hq)).elim
    rw [rows, if_neg hne, hrow]
  | resumed task now old new r _ before retryable _ _ _ _ rows reservations =>
    have hne : id ≠ task.request.requestID := by
      rintro rfl
      rw [hrow, Option.some.injEq] at before
      exact hl (before ▸ retryable)
    refine (kept ?_ fun q hq _ => (reservations q).mpr (.inl hq)).elim
    rw [rows, if_neg hne, hrow]
  | freed task o now old new call before taken status _ _ rows reservations =>
    by_cases hid : id = task.request.requestID
    · rw [hid, before, Option.some.injEq] at hrow
      exact ⟨task, o, now, old, call, hid.symm, hid ▸ before, hrow ▸ hno, taken, status⟩
    · refine (kept ?_ fun q hq hqid => (reservations q).mpr ⟨hq, fun h => ?_⟩).elim
      · rw [rows, if_neg hid, hrow]
      · exact hid (hqid.symm.trans h.2)
  | cleared other p _ operations reservations =>
    rcases hfre with ⟨row', hrow', hry⟩ | ⟨⟨r, hr, hid⟩, hn⟩
    · rw [Store.row, operations] at hrow'
      rw [Store.row, hrow', Option.some.injEq] at hrow
      exact absurd (hrow ▸ hry) hl
    · rw [reservations] at hn
      refine absurd ?_ (hn _ (Reservations.mem_clearRoleWhere.mpr ⟨r, hr, rfl⟩))
      split <;> exact hid

theorem Store.not_frees_self {s : Store} : ¬s.Frees s id node := by
  rintro ⟨row, hrow, -, hl, ⟨row', hrow', hry⟩ | ⟨⟨r, hr, hid⟩, hn⟩⟩
  · rw [hrow, Option.some.injEq] at hrow'
    exact hl (hrow' ▸ hry)
  · exact hn r hr hid

/-- A completion that the store takes as retryable frees the attempt. -/
theorem completeSpawn_frees {s : Store} {task : Task} {o : Outcome} {row : OperationRow} (now : ℤ)
    (hrow : s.row task.request.requestID = some row)
    (hn : row.node = some node) (htk : row.takes task o = true) (hst : o.status = .retryable) :
    s.Frees (s.completeSpawn task o now).2 task.request.requestID node := by
  have hpd := OperationRow.pending_of_takes htk
  have hl : row.status ≠ .retryable := by
    intro heq
    rw [heq] at hpd
    cases hpd
  have ha : s.affects task.request.requestID (·.takes task o) = true :=
    Store.affects_iff.mpr ⟨row, hrow, htk⟩
  refine ⟨row, hrow, hn, hl, .inl ⟨{ row with status := o.status, result := o.stored }, ?_,
    hst⟩⟩
  rw [Store.completeSpawn, if_pos ha]
  dsimp only
  rw [if_pos hst, Store.row_notify, Store.row_unreserve,
    Store.row_change_of_affected hrow htk, if_pos rfl]

/-! ## Moves of the hub -/

section Moves

variable {cfg : Config} {s t : Sys Hub Answer Label Proc} {m : Move Proc Answer}

/-- **A move of the hub** is a fair write, or leaves the store alone. -/
theorem Running.move_cases (h : Running cfg s) (hm : s.move (program cfg) limits m = some t) :
    (∃ i e known source op, m = .sched i e ∧ s.label m = some (.call source op) ∧
      Fair known source op ∧ t.shared.store = s.shared.write cfg op e.fault) ∨
    (t.shared.store = s.shared.store ∧ ∀ source op, s.label m ≠ some (.call source op)) := by
  cases hl : s.label m with
  | none =>
    refine .inr ⟨?_, fun _ _ h => by cases h⟩
    rcases Sys.shared_of_label_none hm hl with heq | heq
    · rw [heq]
    · rw [← Option.some.inj heq]
  | some l =>
    obtain ⟨gs, i, e, g, g', -, -, rfl, hru⟩ := h.holds.rule_of_move hm hl
    generalize hs' : t.shared = s' at hru
    cases hru with
    | @call _ _ _ source op fair => exact .inl ⟨i, e, g, source, op, rfl, rfl, fair, rfl⟩
    | other store => exact .inr ⟨store, fun _ _ h => by cases h⟩

/-- The move completes an operation with a result of this node. -/
def Reported (s : Sys Hub Answer Label Proc) (m : Move Proc Answer) (node : NodeRequest) : Prop :=
  ∃ task o now, s.label m = some (.call (some node.requestID) (.complete task o now))

/-- The move writes a replayable refusal for an attempt that is pending and bound to `node`, from a
snapshot that does not show this node. -/
def StaleRefusal (s : Sys Hub Answer Label Proc) (m : Move Proc Answer) (node : NodeRequest) :
    Prop :=
  ∃ i e source task o now row, m = .sched i e ∧ e.fault ≠ .refused ∧
    s.label m = some (.call source (.complete task o now)) ∧
    s.shared.store.row task.request.requestID = some row ∧ row.node = some node ∧
    row.attempt = task.attempt ∧ row.status.pending = true ∧ o.Replayable ∧
    task.node.map (·.requestID) ≠ some node.requestID

/-- **When a binding is respected.** In every interleaving, a move frees a bound attempt only with
a result of its node, exactly when it does not write a replayable refusal from a snapshot that shows
no node, or another one. -/
theorem freed_only_by_its_node_iff (h : Running cfg s)
    (hm : s.move (program cfg) limits m = some t) :
    (∀ id node, s.shared.store.Frees t.shared.store id node → Reported s m node) ↔
      ∀ node, ¬StaleRefusal s m node := by
  constructor
  · rintro ha node ⟨i, e, source, task, o, now, row, rfl, hflt, hl, hrow, hn, hat,
      hpd, hrp, hstl⟩
    obtain ⟨htk, hst⟩ := (takes_retryable_iff hn task o).mpr ⟨hat, hpd, hrp⟩
    obtain ⟨i', e', known, source', op, hm', hl', fair, hstore⟩ | ⟨-, hno⟩ := h.move_cases hm
    · cases hm'
      rw [hl] at hl'
      cases hl'
      rw [Hub.write, if_neg hflt] at hstore
      have hfre : s.shared.store.Frees t.shared.store task.request.requestID node :=
        hstore ▸ completeSpawn_frees now hrow hn htk hst
      obtain ⟨task', o', now', hl''⟩ := ha _ node hfre
      rw [hl] at hl''
      cases hl''
      -- an honest result of this node comes with a snapshot that shows it
      obtain ⟨shown, hs, hid⟩ := (fair.honest task o now rfl).ofNode _ rfl
      exact hstl (by rw [hs, map_some, hid])
    · exact hno _ _ hl
  · intro hnon id node hf
    obtain ⟨i, e, known, source, op, rfl, hl, fair, hstore⟩ | ⟨hstore, -⟩ := h.move_cases hm
    · rw [hstore, Hub.write] at hf
      split at hf
      · exact absurd hf Store.not_frees_self
      next hflt =>
      obtain ⟨task, o, now, row, rfl, rfl, hrow, hn, htk, hst⟩ :=
        (s.shared.store.perform_change cfg op).frees hf
      obtain ⟨hat, hpd, hrp⟩ := (takes_retryable_iff hn task o).mp
        ⟨htk, hst⟩
      -- the snapshot shows the node, so an outcome of the hub would not be retryable
      have hs : task.node.map (·.requestID) = some node.requestID := by
        by_contra hstl
        exact hnon node ⟨i, e, source, task, o, now, row, rfl, hflt, hl, hrow, hn, hat,
          hpd, hrp, hstl⟩
      obtain ⟨shown, ht, hid⟩ := map_eq_some_iff.mp hs
      have honest := fair.honest task o now rfl
      obtain ⟨-, hry, -, -, -, hto⟩ := hrp
      cases source with
      | none =>
        rcases honest.ofHub rfl (by rw [ht]; exact some_ne_none shown) with
          ⟨hw, hres⟩ | ⟨hfin, -⟩
        · rw [hto hw] at hres
          cases hres
        · rw [hry] at hfin
          cases hfin
      | some n =>
        obtain ⟨shown', ht', hid'⟩ := honest.ofNode n rfl
        rw [ht, Option.some.injEq] at ht'
        exact ⟨task, o, now, by rw [hl, ← hid', ← ht', hid]⟩
    · rw [hstore] at hf
      exact absurd hf Store.not_frees_self

/-- **The operations of a hub** along a run, restarts and lost writes included: each has only gone
on, and exactly those that are not retryable have their reservation. -/
theorem hub_operations_sound (h : Running cfg s) (hrun : Run (program cfg) limits s t) :
    s.shared.store.Advances t.shared.store ∧ t.shared.store.Sound := by
  constructor
  · induction hrun with
    | refl => exact .refl _
    | tail hrun hm ih =>
      refine ih.trans ?_
      obtain ⟨i, e, known, source, op, -, -, -, hstore⟩ | ⟨hstore, -⟩ :=
        Running.move_cases (Run.trans h hrun) hm
      · rw [hstore, Hub.write]
        split
        · exact .refl _
        · exact Store.advances_perform cfg _ op
      · exact hstore ▸ .refl _
  · obtain ⟨hist, hr, hstore⟩ := Running.reachable (Run.trans h hrun)
    exact hstore ▸ hr.sound.store

end Moves

/-! ## Two runs -/

def steps (i n : ℕ) : List (Move Proc Answer) := List.replicate n (.sched i {})

def sampleNode : NodeRequest := ⟨"n", "host", [], 60000⟩

/-- The coordinator starts, a request is submitted and listed, and a worker is about to bind it. -/
def placing : List (Move Proc Answer) :=
  .start .boot :: steps 0 6 ++ (.start (.submit (sampleRequest "a")) :: steps 6 4) ++ steps 1 4 ++
    steps 2 6 ++ [.sched 2 { rounds := 1 }, .sched 2 { node := sampleNode }] ++ steps 2 1

/-- The node refuses the request and has cleaned up. -/
def refusedByNode : List (Move Proc Answer) :=
  placing ++ steps 2 2 ++
    [.sched 2 { reach := .answered ⟨true, 1, "spawn_failed", "launch", true, "", "", none⟩ }] ++
    steps 2 3

/-- The next pass lists the request before the worker binds it. The node is not connected, and the
worker leaves the request `reconciling`. A second worker gets the request as it was listed, and
finds the configuration unreadable. -/
def listedBeforeBind : List (Move Proc Answer) :=
  placing ++ steps 7 1 ++ steps 2 5 ++ [.sched 2 { ended := some (1, "refused") }] ++ steps 2 1 ++
    steps 7 2 ++ steps 3 4 ++ [.sched 3 { yes := false }] ++ steps 3 1

/-- Where a write comes from. -/
def Label.source : Label → Option (Option String)
  | .call source _ => some source
  | .other => none

/-- A check of `Store.Frees` by evaluation. -/
def Store.frees (s t : Store) (id : String) (node : NodeRequest) : Bool :=
  (s.row id).any (fun row => row.node = some node && row.status ≠ .retryable) &&
    (t.row id).any fun row => row.status = .retryable

theorem Store.frees_of_check {s t : Store} (h : s.frees t id node = true) : s.Frees t id node := by
  rw [Store.frees, Bool.and_eq_true, any_eq_true, any_eq_true] at h
  obtain ⟨⟨row, hrow, hbd⟩, row', hrow', hry⟩ := h
  rw [Bool.and_eq_true, decide_eq_true_eq, decide_eq_true_eq] at hbd
  exact ⟨row, hrow, hbd.1, hbd.2, .inl ⟨row', hrow', of_decide_eq_true hry⟩⟩

theorem freed_only_by_its_node_iff_refused : ∃ s t, Running sampleConfig s ∧
    s.move (program sampleConfig) limits (.sched 2 {}) = some t ∧
    s.shared.store.Frees t.shared.store "a" sampleNode ∧
    ((∀ id node, s.shared.store.Frees t.shared.store id node → Reported s (.sched 2 {}) node) ↔
      ∀ node, ¬StaleRefusal s (.sched 2 {}) node) := by
  obtain ⟨s, t, hs, ht, hfre⟩ : ∃ s t, Running sampleConfig s ∧
      s.move (program sampleConfig) limits (.sched 2 {}) = some t ∧
      s.shared.store.frees t.shared.store "a" sampleNode = true :=
    Run.exists_move refusedByNode _ (by decide +kernel)
  exact ⟨s, t, hs, ht, Store.frees_of_check hfre, freed_only_by_its_node_iff hs ht⟩

theorem hub_operations_sound_refused : ∃ s t, Running sampleConfig s ∧
    Run (program sampleConfig) limits s t ∧
    (s.shared.store.operations.rows.map (·.status) = [.dispatching] ∧
      t.shared.store.operations.rows.map (·.status) = [.retryable]) ∧
    s.shared.store.Advances t.shared.store ∧ t.shared.store.Sound := by
  obtain ⟨s, t, hs, ht, hst⟩ : ∃ s t, Running sampleConfig s ∧
      s.move (program sampleConfig) limits (.sched 2 {}) = some t ∧
      s.shared.store.operations.rows.map (·.status) = [.dispatching] ∧
      t.shared.store.operations.rows.map (·.status) = [.retryable] :=
    Run.exists_move refusedByNode _ (by decide +kernel)
  have hrun := Run.tail .refl ht
  exact ⟨s, t, hs, hrun, hst, hub_operations_sound hs hrun⟩

/-- **A stale listing frees a bound attempt**: the outcome is the hub's own. -/
theorem stale_listing_frees_bound : ∃ s t, Running sampleConfig s ∧
    s.move (program sampleConfig) limits (.sched 3 {}) = some t ∧
    s.shared.store.Frees t.shared.store "a" sampleNode ∧
    ¬Reported s (.sched 3 {}) sampleNode := by
  obtain ⟨s, t, hs, ht, hrun⟩ : ∃ s t, Running sampleConfig s ∧
      s.move (program sampleConfig) limits (.sched 3 {}) = some t ∧
      s.shared.store.frees t.shared.store "a" sampleNode = true ∧
      (s.label (.sched 3 {})).bind Label.source = some none :=
    Run.exists_move listedBeforeBind _ (by decide +kernel)
  refine ⟨s, t, hs, ht, Store.frees_of_check hrun.1, ?_⟩
  rintro ⟨task, o, now, hl⟩
  rw [hl] at hrun
  cases hrun.2

end Panewire.Spawn
