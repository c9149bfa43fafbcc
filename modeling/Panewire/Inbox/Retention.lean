import Mathlib.Data.List.MinMax
import Mathlib.Order.Nat
import Panewire.Inbox.Effects

/-!
# Retention

`prune` deletes old items, among them the newest of all, and an id that a receiver saw must never
name another item afterwards. SQLite would reuse the ids above the highest row that is left, so the
**floor** remembers how far they went; Postgres has its sequence. Either way the next id is one
above a `ceiling` that no statement lowers.
-/

namespace Panewire.Inbox

open Data Hub Store List Bool

variable {op : Op} {s t : Store} {i j : Item}

/-! ## The ceiling of the ids -/

/-- No id above this one was given out. -/
def Store.ceiling (s : Store) : ℕ :=
  match s.dialect with
  | .sqlite => max s.maxID s.floor
  | .postgres => s.sequence

theorem Store.nextID_eq (s : Store) : s.nextID = s.ceiling + 1 := by
  unfold nextID ceiling
  cases s.dialect <;> rfl

theorem Store.le_maxID (hi : i ∈ s.items) : i.id ≤ s.maxID :=
  le_max_of_le' 0 (mem_map_of_mem hi) le_rfl

theorem Store.maxID_le {n : ℕ} (h : ∀ i ∈ s.items, i.id ≤ n) : s.maxID ≤ n := by
  refine max_le_of_forall_le _ n fun id hid => ?_
  obtain ⟨i, hi, rfl⟩ := mem_map.mp hid
  exact h i hi

/-- The counters, which most statements leave alone. -/
structure Counters (s t : Store) : Prop where
  dialect : t.dialect = s.dialect
  floor : s.floor ≤ t.floor
  sequence : s.sequence ≤ t.sequence

theorem Counters.refl (s : Store) : Counters s s := ⟨rfl, le_rfl, le_rfl⟩

theorem counters_takeID (s : Store) : Counters s s.takeID := by
  unfold takeID
  split
  · exact .refl s
  · exact ⟨rfl, le_rfl, Nat.le_succ _⟩

/-- A put touches the items and the counters only. -/
theorem putFrom_eq (p : Put) (now : ℤ) :
    (s.putFrom p now).2 = { s.takeID with items := (s.putFrom p now).2.items } := by
  unfold putFrom
  split
  · rfl
  · dsimp only
    split
    · rfl
    · split <;> rfl

theorem counters_putFrom (p : Put) (now : ℤ) : Counters s (s.putFrom p now).2 := by
  obtain ⟨hd, hf, hs⟩ := counters_takeID s
  rw [putFrom_eq]
  exact ⟨hd, hf, hs⟩

theorem counters_runPass {pass : Pass} (h : s.runPass pass = some t) : Counters s t := by
  have hw := runPass_spec h
  exact ⟨hw.dialect, hw.floor.ge, hw.sequence.ge⟩

theorem counters_makeBatches (now : ℤ) (mint mint' : String → String) :
    Counters s (s.makeBatches now mint mint') := by
  rcases makeBatches_cases s now mint mint' with h | ⟨t, hfst, hs⟩
  · rw [h]
    exact .refl s
  · have hst := counters_runPass hfst
    have htu := counters_runPass hs
    exact ⟨htu.dialect.trans hst.dialect, hst.floor.trans htu.floor,
      hst.sequence.trans htu.sequence⟩

theorem counters_makeHeldBatches (now : String → ℤ) (working : String → Bool)
    (mint : String → String) (body : List Item → String) :
    Counters s (s.makeHeldBatches now working mint body) := by
  rcases makeHeldBatches_cases s now working mint body with h | h
  · rw [h]
    exact .refl s
  · exact counters_runPass h

theorem counters_prune (now days : ℤ) (perLane : ℕ) : Counters s (s.prune now days perLane) := by
  refine ⟨rfl, ?_, le_rfl⟩
  unfold prune
  split
  · exact le_max_left ..
  · exact le_rfl

theorem counters_perform (s : Store) (op : Op) : Counters s (s.perform op) := by
  cases op with
  | put p now => exact counters_putFrom p now
  | aborted => exact counters_takeID s
  | batches now mint mint' => exact counters_makeBatches now mint mint'
  | heldBatches now working mint body => exact counters_makeHeldBatches now working mint body
  | prune now days perLane => exact counters_prune now days perLane
  | read | ack | deliver | release | sent | setText | quiet | quarantine | recover =>
    exact ⟨rfl, le_rfl, le_rfl⟩

/-- `prune` raises the floor to the ids that it may delete. -/
theorem maxID_le_floor_prune (now days : ℤ) (perLane : ℕ) (h : s.dialect = .sqlite) :
    s.maxID ≤ (s.prune now days perLane).floor := by
  unfold prune
  rw [h]
  exact le_max_right ..

/-- **No statement lowers the ceiling.** -/
theorem ceiling_le_perform (s : Store) (op : Op) : s.ceiling ≤ (s.perform op).ceiling := by
  have hct := counters_perform s op
  unfold ceiling
  rw [hct.dialect]
  cases hd : s.dialect with
  | postgres => exact hct.sequence
  | sqlite =>
    refine max_le ?_ (hct.floor.trans (le_max_right ..))
    refine maxID_le fun i hi => ?_
    rcases (perform_effect s op).kept i hi with ⟨j, hj, hmv⟩ | ⟨now, days, perLane, rfl, -⟩
    · exact hmv.same.id ▸ (le_maxID hj).trans (le_max_left ..)
    · exact (le_maxID hi).trans ((maxID_le_floor_prune now days perLane hd).trans (le_max_right ..))

/-! ## Ids over a run -/

/-- A row that a statement added has the next id. -/
theorem id_of_mem_newItems (hj : j ∈ newItems s (s.perform op)) :
    j ∈ (s.perform op).items ∧ j.id = s.ceiling + 1 ∧ ∃ p now, op = .put p now ∧
      j = p.item now s.nextID := by
  obtain ⟨hmem, hn⟩ := mem_filter.mp hj
  rw [Option.isNone_iff_eq_none, Table.find_eq_none] at hn
  rcases (perform_effect s op).origin j hmem with ⟨i, hi, hmv⟩ | ⟨p, now, rfl, hit⟩
  · exact absurd hmv.same.id.symm (hn i hi)
  · exact ⟨hmem, by rw [hit, ← nextID_eq]; rfl, p, now, rfl, hit⟩

/-- A put that adds a row has taken its number. -/
theorem sequence_putFrom {p : Put} {now : ℤ} (hd : s.dialect = .postgres) :
    (s.putFrom p now).2.sequence = s.sequence + 1 := by
  rw [putFrom_eq, takeID, hd]

/-- **The ids of a run**: every item has one that was given out, none above the ceiling, and none
twice. -/
structure Numbered (t : Trace) : Prop where
  known : ∀ i ∈ t.store.items, i.id ∈ t.issued
  bounded : ∀ n ∈ t.issued, n ≤ t.store.ceiling
  nodup : t.issued.Nodup

theorem Numbered.after {t : Trace} (h : Numbered t) (op : Op) : Numbered (t.after op) := by
  have hc := ceiling_le_perform t.store op
  refine ⟨fun j hj => ?_, fun n hn => ?_, ?_⟩
  · rw [Trace.after, mem_append]
    by_cases hold : ∃ i ∈ t.store.items, i.id = j.id
    · obtain ⟨i, hi, hid⟩ := hold
      exact .inl (hid ▸ h.known i hi)
    · refine .inr (mem_map_of_mem (mem_filter.mpr ⟨hj, ?_⟩))
      rw [Option.isNone_iff_eq_none, Table.find_eq_none]
      exact fun i hi hid => hold ⟨i, hi, hid⟩
  · rw [Trace.after, mem_append] at hn
    rcases hn with hn | hn
    · exact (h.bounded n hn).trans hc
    obtain ⟨j, hj, rfl⟩ := mem_map.mp hn
    obtain ⟨hmem, hid, p, now, rfl, -⟩ := id_of_mem_newItems hj
    show j.id ≤ (t.store.perform (.put p now)).ceiling
    have hdia := (counters_perform t.store (.put p now)).dialect
    unfold ceiling at hid ⊢
    rw [hdia]
    cases hd : t.store.dialect with
    | sqlite => exact (le_maxID hmem).trans (le_max_left ..)
    | postgres =>
      rw [hd] at hid
      exact (hid.trans (sequence_putFrom hd).symm).le
  · refine h.nodup.append ?_ fun n hn hn' => ?_
    · exact (t.store.perform op).items.nodup.sublist (filter_sublist.map _)
    · obtain ⟨j, hj, rfl⟩ := mem_map.mp hn'
      have hle := h.bounded _ hn
      rw [(id_of_mem_newItems hj).2.1] at hle
      omega

theorem Runs.numbered {ok : Store → Op → Prop} {dialect : Dialect} {t : Trace}
    (h : Runs ok dialect t) : Numbered t := by
  induction h with
  | empty => exact ⟨fun _ hi => absurd hi Table.not_mem_empty, nofun, nodup_nil⟩
  | step op _ _ ih => exact ih.after op

/-! ## What a prune keeps -/

/-- The item waits for the deadline of its receiver. -/
def Item.awaitsDeadline (i : Item) : Bool :=
  i.cls = .inbox && i.readAt = 0 && i.live && i.dueAt > 0 && i.escalationBatch = ""

/-- An item that waits for its deadline is unread. -/
theorem Item.unread_of_awaitsDeadline (h : i.awaitsDeadline = true) : i.unread = true := by
  simp only [Item.awaitsDeadline, Item.live, and_eq_true, decide_eq_true_eq] at h
  obtain ⟨⟨⟨⟨hc, hre⟩, ha, hs⟩, -⟩, -⟩ := h
  cases hm : i.mustAck <;> simp [Item.unread, hm, hc, hre, ha, hs]

/-- **What the condition of the `DELETE` excludes.** -/
theorem not_live_of_prunable {now days : ℤ} {perLane : ℕ}
    (h : s.prunable now days perLane i = true) :
    i.unread = false ∧ i.scheduled = false ∧
    (∀ b ∈ s.batches, b.sent = false → ∀ c, i.batch c ≠ b.id) ∧
    i.createdAt < unixMilli (now - relayReplayMaxAge) := by
  simp only [prunable, and_eq_true, not_eq_true', decide_eq_true_eq] at h
  obtain ⟨⟨⟨⟨-, hu⟩, ⟨⟨⟨⟨hcre, -⟩, -⟩, -⟩, -⟩⟩, hsc⟩, hbs⟩ := h
  refine ⟨hu, ?_, fun b hb hs c hc => ?_, hcre⟩
  · rwa [Item.scheduled, Bool.and_assoc, Bool.and_comm (decide _), Bool.and_or_distrib_right]
  · rw [any_eq_false] at hbs
    have hb := hbs b hb
    cases c with
    | digest => simp [hs, show i.digestBatch = b.id from hc] at hb
    | escalation => simp [hs, show i.escalationBatch = b.id from hc] at hb

/-- **Retention.** After any sequence of statements, an item that a prune deletes is read, waits for
nothing, is in no batch that is still to be sent and is older than the replay window; and no id was
ever given to two items. -/
theorem prune_keeps_live_items {dialect : Dialect} {t : Trace} (h : Reachable dialect t) :
    (∀ now days perLane, ∀ i ∈ t.store.items,
      (∀ j ∈ (t.store.prune now days perLane).items, j.id ≠ i.id) →
      i.unread = false ∧ i.scheduled = false ∧ i.awaitsDeadline = false ∧
      (∀ b ∈ t.store.batches, b.sent = false → ∀ c, i.batch c ≠ b.id) ∧
      i.createdAt < unixMilli (now - Store.relayReplayMaxAge)) ∧
    (∀ i ∈ t.store.items, i.id ∈ t.issued) ∧ t.issued.Nodup := by
  have hids := h.numbered
  refine ⟨fun now days perLane i hi hgo => ?_, hids.known, hids.nodup⟩
  have hp : t.store.prunable now days perLane i = true := by
    by_contra hp
    exact hgo i (Table.mem_deleteWhere.mpr ⟨hi, by simpa using hp⟩) rfl
  obtain ⟨hu, hsc, hbs, hold⟩ := not_live_of_prunable hp
  refine ⟨hu, hsc, ?_, hbs, hold⟩
  by_contra hw
  rw [not_eq_false] at hw
  rw [Item.unread_of_awaitsDeadline hw] at hu
  cases hu

/-- A run from an empty store. -/
def replay (dialect : Dialect) (ops : List Op) : Trace :=
  ops.foldl Trace.after { store := .empty dialect }

theorem Reachable.replay (dialect : Dialect) (ops : List Op) :
    Reachable dialect (replay dialect ops) := by
  have hfo : ∀ t, Reachable dialect t → Reachable dialect (ops.foldl Trace.after t) := by
    induction ops with
    | nil => exact fun _ h => h
    | cons op ops ih => exact fun t h => ih _ (h.step op trivial)
  exact hfo _ .empty

/-- An event of a lane that goes to its inbox. -/
def samplePut (key : String) (cls : DeliveryClass) (window : ℤ) : Put :=
  ⟨key, "lane", .laneEvent, cls, {}, 0, window, 0⟩

/-- Of two items one is acknowledged; it is pruned two days later, and the next one has a new id. -/
def prunedThenPut : List Op :=
  [.put (samplePut "a" .inbox 0) 1000000, .put (samplePut "b" .inbox 0) 1000000,
    .ack 1 "" false 2000000, .prune (3 * Store.relayReplayMaxAge) 2 10,
    .put (samplePut "c" .inbox 0) (3 * Store.relayReplayMaxAge)]

theorem prune_keeps_live_items_sample :
    (∀ i ∈ (replay .sqlite (prunedThenPut.take 3)).store.items, i.id = 1 →
      i.unread = false ∧ i.scheduled = false ∧ i.awaitsDeadline = false) ∧
    (replay .sqlite prunedThenPut).store.items.rows.map (·.id) = [2, 3] ∧
    (replay .sqlite prunedThenPut).issued = [1, 2, 3] ∧
    (replay .sqlite prunedThenPut).issued.Nodup := by
  refine ⟨fun i hi hid => ?_, by decide +kernel, by decide +kernel,
    (prune_keeps_live_items (Reachable.replay .sqlite prunedThenPut)).2.2⟩
  have hgone : ∀ j ∈ ((replay .sqlite (prunedThenPut.take 3)).store.prune
      (3 * Store.relayReplayMaxAge) 2 10).items, j.id ≠ 1 := by
    decide +kernel
  obtain ⟨hu, hsc, hd, -⟩ := (prune_keeps_live_items (Reachable.replay .sqlite _)).1
    (3 * Store.relayReplayMaxAge) 2 10 i hi (hid ▸ hgone)
  exact ⟨hu, hsc, hd⟩

end Panewire.Inbox
