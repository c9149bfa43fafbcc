import Mathlib.Data.List.Dedup
import Panewire.Inbox.Store

/-!
# One pass over the lanes

A pass reads the items once and then walks the lanes, with one insert and one update each. What the
walk does to the items is a single map: an item gets the batch of its lane exactly when it is in the
group of its lane. `runPass_spec` says so, and lists the batches that the walk adds.
-/

namespace Panewire.Inbox

open Data Hub Store List

variable {done : List String} {i : Item}

section Pass

variable {pass : Pass} {s t u : Store} {lane : String}

/-! ## Groups -/

/-- The ids that a pass folds together for a lane. -/
abbrev Store.groupIDs (pass : Pass) (s : Store) (lane : String) : List ℕ :=
  (s.group pass lane).map (·.id)

/-- **What is in a group**: items of the lane that the query found. -/
theorem mem_group (h : i ∈ s.group pass lane) :
    i ∈ s.items ∧ pass.query i = true ∧ i.lane = lane := by
  have hs := (pass.pick_sublist lane _).subset h
  rw [mem_filter, byID, mem_insertionSort, mem_filter, decide_eq_true_eq] at hs
  exact ⟨hs.1.1, hs.1.2, hs.2⟩

/-- Ids are unique, so an id tells whether the item itself is in a group. -/
theorem mem_groupIDs (hi : i ∈ s.items) : i.id ∈ s.groupIDs pass lane ↔ i ∈ s.group pass lane := by
  constructor
  · intro h
    obtain ⟨j, hj, hid⟩ := mem_map.mp h
    have heq : j = i := Table.eq_of_key (mem_group hj).1 hi hid
    exact heq ▸ hj
  · exact fun h => mem_map.mpr ⟨i, h, rfl⟩

theorem groupIDs_nodup : (s.groupIDs pass lane).Nodup := by
  have hfd : ((s.items.rows.filter pass.query).map (·.id)).Nodup :=
    s.items.nodup.sublist (filter_sublist.map _)
  have hs : ((byID (s.items.rows.filter pass.query)).map (·.id)).Nodup :=
    ((perm_insertionSort _ _).map _).nodup_iff.mpr hfd
  exact hs.sublist (((pass.pick_sublist lane _).trans filter_sublist).map _)

theorem lane_mem_lanesOf (h : i ∈ s.group pass lane) :
    lane ∈ lanesOf (s.items.rows.filter pass.query) := by
  obtain ⟨hi, hque, rfl⟩ := mem_group h
  rw [lanesOf, mem_insertionSort, mem_dedup]
  exact mem_map.mpr ⟨i, mem_filter.mpr ⟨hi, hque⟩, rfl⟩

theorem lanesOf_nodup (items : List Item) : (lanesOf items).Nodup :=
  (perm_insertionSort _ _).nodup_iff.mpr (nodup_dedup _)

/-! ## The walk -/

/-- An item once the lanes in `done` were walked. -/
def Store.marked (pass : Pass) (s : Store) (done : List String) (i : Item) : Item :=
  if i.lane ∈ done ∧ i.id ∈ s.groupIDs pass i.lane then
    i.setBatch (pass.mint i.lane) pass.column
  else i

/-- The batches of the lanes in `done`. -/
def Store.added (pass : Pass) (s : Store) (done : List String) : List Batch :=
  (done.filter fun lane => s.group pass lane ≠ []).map fun lane =>
    ⟨pass.mint lane, lane, pass.text lane (s.group pass lane), false⟩

/-- The store once the lanes in `done` were walked. -/
structure Walked (pass : Pass) (s : Store) (done : List String) (t : Store) : Prop where
  items : t.items.rows = s.items.rows.map (s.marked pass done)
  batches : t.batches.rows = s.batches.rows ++ s.added pass done
  dialect : t.dialect = s.dialect
  quarantine : t.quarantine = s.quarantine
  floor : t.floor = s.floor
  sequence : t.sequence = s.sequence

theorem Walked.start : Walked pass s [] s where
  items := by
    have hsame : ∀ i, s.marked pass [] i = i := fun i => if_neg fun h => nomatch h.1
    rw [map_congr_left fun i _ => hsame i, map_id']
  batches := (append_nil _).symm
  dialect := rfl
  quarantine := rfl
  floor := rfl
  sequence := rfl

/-- One lane more: an item outside the lane is as it was. -/
theorem marked_snoc (hi : i ∈ s.items) (hn : lane ∉ done) :
    s.marked pass (done ++ [lane]) i =
      if i.id ∈ s.groupIDs pass lane then i.setBatch (pass.mint lane) pass.column
      else s.marked pass done i := by
  by_cases hid : i.id ∈ s.groupIDs pass lane
  · obtain ⟨-, -, rfl⟩ := mem_group ((mem_groupIDs hi).mp hid)
    rw [if_pos hid, marked, if_pos ⟨by simp, hid⟩]
  · rw [if_neg hid, marked, marked]
    by_cases hl : i.lane = lane
    · have hid' : i.id ∉ s.groupIDs pass i.lane := hl ▸ hid
      rw [if_neg fun h => hid' h.2, if_neg fun h => hid' h.2]
    · simp [hl]

theorem marked_id (done : List String) (i : Item) : (s.marked pass done i).id = i.id := by
  unfold marked
  split
  · simp
  · rfl

/-- An item of the lane was not marked before. -/
theorem marked_of_not_mem (h : i.lane ∉ done) : s.marked pass done i = i :=
  if_neg fun hma => h hma.1

/-- **One step of the walk.** -/
theorem Walked.claim (ht : Walked pass s done t) (hn : lane ∉ done)
    (hgrp : s.group pass lane ≠ []) (hu : t.claim pass lane (s.group pass lane) = some u) :
    Walked pass s (done ++ [lane]) u := by
  unfold Store.claim at hu
  split at hu
  · cases hu
  next batches hins =>
  cases hu
  have hro : batches.rows = t.batches.rows ++
      [⟨pass.mint lane, lane, pass.text lane (s.group pass lane), false⟩] := by
    have hfree := Table.find_none_of_insertNew hins
    have h := Table.insertNew_rows hfree
    rwa [hins] at h
  refine ⟨?_, ?_, ht.dialect, ht.quarantine, ht.floor, ht.sequence⟩
  · show t.items.rows.map _ = _
    rw [ht.items, map_map]
    refine map_congr_left fun i hi => ?_
    rw [marked_snoc hi hn]
    by_cases hid : i.id ∈ s.groupIDs pass lane
    · have hl : i.lane = lane := (mem_group ((mem_groupIDs hi).mp hid)).2.2
      rw [if_pos hid, Function.comp, marked_of_not_mem (hl ▸ hn)]
      exact if_pos (decide_eq_true hid)
    · rw [if_neg hid]
      refine if_neg fun h => hid ?_
      simpa [marked_id] using h
  · rw [hro, ht.batches, added, added, filter_append, map_append, append_assoc]
    simp [hgrp]

/-- A lane with nothing to fold. -/
theorem Walked.skip (ht : Walked pass s done t)
    (hgrp : s.group pass lane = []) : Walked pass s (done ++ [lane]) t := by
  refine ⟨?_, ?_, ht.dialect, ht.quarantine, ht.floor, ht.sequence⟩
  · rw [ht.items]
    refine map_congr_left fun i hi => ?_
    unfold marked
    by_cases hl : i.lane = lane
    · have hid : i.id ∉ s.groupIDs pass i.lane := by simp [groupIDs, hl, hgrp]
      rw [if_neg fun h => hid h.2, if_neg fun h => hid h.2]
    · simp [hl]
  · rw [ht.batches, added, added, filter_append]
    simp [hgrp]

theorem Walked.foldlM {lanes : List String} (ht : Walked pass s done t)
    (hnd : (done ++ lanes).Nodup)
    (hu : lanes.foldlM (fun t lane => if s.group pass lane = [] then some t
      else t.claim pass lane (s.group pass lane)) t = some u) :
    Walked pass s (done ++ lanes) u := by
  induction lanes generalizing done t with
  | nil =>
    cases hu
    rwa [append_nil]
  | cons lane lanes ih =>
    rw [foldlM_cons] at hu
    obtain ⟨next, hn, hre⟩ := Option.bind_eq_some_iff.mp hu
    have hnew : lane ∉ done := fun hmem =>
      (disjoint_of_nodup_append hnd) hmem mem_cons_self
    rw [append_cons] at hnd ⊢
    refine ih ?_ hnd hre
    split at hn
    · next hgrp =>
      cases hn
      exact ht.skip hgrp
    · next hgrp => exact ht.claim hnew hgrp hn

/-- **What a pass does**: one map over the items, and one batch for each lane with a group. -/
theorem runPass_spec (h : s.runPass pass = some u) :
    Walked pass s (lanesOf (s.items.rows.filter pass.query)) u := by
  have hnd : ([] ++ lanesOf (s.items.rows.filter pass.query)).Nodup := lanesOf_nodup _
  exact Walked.foldlM Walked.start hnd h

end Pass

end Panewire.Inbox
