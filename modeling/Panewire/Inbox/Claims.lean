import Panewire.Inbox.Retention

/-!
# Claims of batches

A batch has no list of its items: an item names the batch that claims it, in one of two columns. So
an item is in at most one batch of a kind at a time; what has to be shown is that it **never changes
batches** without being released first, and that the number which a batch states is the number of
items that name it once it is there.
-/

namespace Panewire.Inbox

open Data Hub Relation Store List Table

variable {b : Batch} {pass : Pass} {op : Op} {s t u : Store} {i j : Item}

/-! ## Claims name batches that exist -/

/-- An item is only claimed by a batch of the table. -/
def Store.Backed (s : Store) : Prop :=
  ∀ i ∈ s.items, ∀ c, i.batch c ≠ "" → ∃ b ∈ s.batches, b.id = i.batch c

theorem Store.Backed.of_effect (h : s.Backed) (he : Effect op s t) : t.Backed := by
  intro j hj c hne
  rcases he.origin j hj with ⟨i, hi, hmv⟩ | ⟨p, now, rfl, rfl⟩
  · cases hmv.batch c with
    | kept hsame =>
      obtain ⟨b, hb, hbid⟩ := h i hi c (hsame ▸ hne)
      obtain ⟨b', hb', hbid'⟩ := he.batches b hb
      exact ⟨b', hb', hbid'.trans (hbid.trans hsame.symm)⟩
    | claimed _ _ hb => exact hb
    | released hn _ => exact absurd hn hne
  · cases c <;> exact absurd rfl hne

theorem Runs.backed {ok : Store → Op → Prop} {dialect : Dialect} {t : Trace}
    (h : Runs ok dialect t) : t.store.Backed := by
  induction h with
  | empty => exact fun _ hi => absurd hi not_mem_empty
  | step op _ _ ih => exact ih.of_effect (perform_effect _ op)

/-! ## The number of claims -/

/-- The items that a batch claims, as `pendingBatches` counts them. -/
def Store.claimants (s : Store) (id : String) : List Item :=
  s.items.rows.filter fun i => i.digestBatch = id || i.escalationBatch = id

/-- The number that a batch states. -/
def Batch.States (b : Batch) (n : ℕ) : Prop :=
  b.text = digestText n b.lane ∨ b.text = escalationText n b.lane ∨
    ∃ body, b.text = "[batch " ++ toString n ++ ": " ++ body

theorem claimed_iff {id : String} :
    (i.digestBatch = id || i.escalationBatch = id) = true ↔ ∃ c, i.batch c = id := by
  rw [Bool.or_eq_true, decide_eq_true_eq, decide_eq_true_eq]
  constructor
  · rintro (h | h)
    · exact ⟨.digest, h⟩
    · exact ⟨.escalation, h⟩
  · rintro ⟨c, h⟩
    cases c
    · exact .inl h
    · exact .inr h

/-- Items that were not claimed under an id before, and not by a pass either. -/
theorem batch_marked {done : List String} {c : Column} {id : String}
    (h : (s.marked pass done i).batch c = id) :
    i.batch c = id ∨ (c = pass.column ∧ pass.mint i.lane = id ∧ i.lane ∈ done ∧
      i.id ∈ s.groupIDs pass i.lane) := by
  unfold marked at h
  split at h
  · next hma =>
    by_cases hc : c = pass.column
    · subst hc
      rw [Item.setBatch_batch] at h
      exact .inr ⟨rfl, h, hma.1, hma.2⟩
    · rw [Item.setBatch_batch_ne _ _ hc] at h
      exact .inl h
  · exact .inl h

/-- The items with some ids are as many as the ids. -/
theorem length_filter_ids (s : Store) {ids : List ℕ} (hnd : ids.Nodup)
    (hids : ∀ n ∈ ids, ∃ i ∈ s.items, i.id = n) :
    (s.items.rows.filter fun i => i.id ∈ ids).length = ids.length := by
  have hp : ((s.items.rows.filter fun i => i.id ∈ ids).map (·.id)).Perm ids := by
    rw [perm_ext_iff_of_nodup (s.items.nodup.sublist (filter_sublist.map _)) hnd]
    intro n
    constructor
    · intro hn
      obtain ⟨i, hi, rfl⟩ := mem_map.mp hn
      simpa using (mem_filter.mp hi).2
    · intro hn
      obtain ⟨i, hi, rfl⟩ := hids n hn
      exact mem_map_of_mem (mem_filter.mpr ⟨hi, by simpa using hn⟩)
  simpa using hp.length_eq

theorem nodup_batches (h : s.runPass pass = some u) : (s.batches.rows.map (·.id) ++
    (s.added pass (lanesOf (s.items.rows.filter pass.query))).map (·.id)).Nodup := by
  rw [← map_append, ← (runPass_spec h).batches]
  exact u.batches.nodup

/-- **A batch that a pass adds** states the number of its claimants. -/
theorem length_claimants_of_added (hs : s.Backed) (h : s.runPass pass = some u)
    (hb : b ∈ s.added pass (lanesOf (s.items.rows.filter pass.query))) :
    (u.claimants b.id).length = (s.group pass b.lane).length ∧ b.id = pass.mint b.lane ∧
      b.text = pass.text b.lane (s.group pass b.lane) := by
  have hw := runPass_spec h
  obtain ⟨lane, hl, rfl⟩ := mem_map.mp hb
  refine ⟨?_, rfl, rfl⟩
  have hnd := nodup_batches h
  -- no item named the batch before
  have hfr : ∀ i ∈ s.items, ∀ c, i.batch c ≠ pass.mint lane := by
    intro i hi c hc
    obtain ⟨b, hb', hbid⟩ := hs i hi c (hc ▸ pass.mint_ne lane)
    refine (disjoint_of_nodup_append hnd) (mem_map_of_mem hb') ?_
    rw [hbid, hc]
    exact mem_map_of_mem hb
  have hmi : ∀ lane', lane' ∈ lanesOf (s.items.rows.filter pass.query) →
      s.group pass lane' ≠ [] → pass.mint lane' = pass.mint lane → lane' = lane := by
    intro lane' hmem hgrp heq
    have hinj := (nodup_append.mp hnd).2.1
    rw [added, List.map_map] at hinj
    exact inj_on_of_nodup_map hinj (mem_filter.mpr ⟨hmem, by simpa using hgrp⟩) hl heq
  have hcl : ∀ i ∈ s.items,
      ((s.marked pass (lanesOf (s.items.rows.filter pass.query)) i).digestBatch = pass.mint lane ||
        (s.marked pass (lanesOf (s.items.rows.filter pass.query)) i).escalationBatch =
          pass.mint lane) = true ↔ i.id ∈ s.groupIDs pass lane := by
    intro i hi
    rw [claimed_iff]
    constructor
    · rintro ⟨c, hc⟩
      rcases batch_marked hc with hold | ⟨-, heq, hdo, hid⟩
      · exact absurd hold (hfr i hi c)
      · have hgrp := ne_nil_of_mem ((mem_groupIDs hi).mp hid)
        exact hmi i.lane hdo hgrp heq ▸ hid
    · intro hid
      have hgrp := (mem_groupIDs hi).mp hid
      obtain ⟨-, -, rfl⟩ := mem_group hgrp
      refine ⟨pass.column, ?_⟩
      rw [marked, if_pos ⟨lane_mem_lanesOf hgrp, hid⟩, Item.setBatch_batch]
  have hlen : (s.groupIDs pass lane).length = (s.group pass lane).length := length_map _
  rw [claimants, hw.items, filter_map, length_map, ← hlen,
    ← length_filter_ids s groupIDs_nodup fun n hn => ?_]
  · congr 1
    refine filter_congr fun i hi => ?_
    rw [Bool.eq_iff_iff, decide_eq_true_eq]
    exact hcl i hi
  · obtain ⟨i, hi, rfl⟩ := mem_map.mp hn
    exact ⟨i, (mem_group hi).1, rfl⟩

/-- A pass leaves the claims of earlier batches alone. -/
theorem length_claimants_of_old (h : s.runPass pass = some u)
    (hb : b ∈ s.batches) (hne : b.id ≠ "") :
    (u.claimants b.id).length = (s.claimants b.id).length := by
  have hw := runPass_spec h
  have hnd := nodup_batches h
  rw [claimants, hw.items, filter_map, length_map]
  congr 1
  refine filter_congr fun i hi => ?_
  rw [Bool.eq_iff_iff, claimed_iff]
  refine Iff.trans claimed_iff (exists_congr fun c => ?_)
  constructor
  · intro hc
    rcases batch_marked hc with hold | ⟨-, heq, hdo, hid⟩
    · exact hold
    · -- the batch of the pass would have the id of an earlier one
      have hgrp := ne_nil_of_mem ((mem_groupIDs hi).mp hid)
      refine ((disjoint_of_nodup_append hnd) (mem_map_of_mem hb) ?_).elim
      rw [← heq, added, List.map_map]
      exact mem_map_of_mem (mem_filter.mpr ⟨hdo, by simpa using hgrp⟩)
  · intro hc
    unfold marked
    split
    · next hma =>
      have hcol : c ≠ pass.column := by
        rintro rfl
        exact hne (hc.symm.trans (pass.free i (mem_group ((mem_groupIDs hi).mp hma.2)).2.1))
      rw [Item.setBatch_batch_ne _ _ hcol]
      exact hc
    · exact hc

/-- A batch that is there after a pass was there before, or was added by it. -/
theorem batches_runPass (h : s.runPass pass = some u) (hb : b ∈ u.batches) :
    b ∈ s.batches ∨ b ∈ s.added pass (lanesOf (s.items.rows.filter pass.query)) := by
  rw [← mem_rows, (runPass_spec h).batches] at hb
  exact mem_append.mp hb

/-- The batches that a statement added. -/
def NewBatch (s t : Store) (b : Batch) : Prop := b ∈ t.batches ∧ ∀ b' ∈ s.batches, b'.id ≠ b.id

theorem states_of_makeBatches (hs : s.Backed) (now : ℤ) (mint mint' : String → String)
    (hb : NewBatch s (s.makeBatches now mint mint') b) :
    b.States ((s.makeBatches now mint mint').claimants b.id).length := by
  obtain ⟨hb, hn⟩ := hb
  rcases makeBatches_cases s now mint mint' with h | ⟨t, hfst, hsnd⟩
  · rw [h] at hb
    exact absurd rfl (hn b hb)
  have hmov : s.MovesIn .digest (.batches now mint mint') t := movesIn_runPass hfst
  have ht : t.Backed := hs.of_effect hmov.moves.effect
  rcases batches_runPass hsnd hb with hb' | ha
  · rcases batches_runPass hfst hb' with hold | ha
    · exact absurd rfl (hn b hold)
    · obtain ⟨hct, hid, hte⟩ := length_claimants_of_added hs hfst ha
      have hne : b.id ≠ "" := hid ▸ (digestPass now mint).mint_ne b.lane
      rw [length_claimants_of_old hsnd hb' hne, hct]
      exact .inl hte
  · obtain ⟨hct, -, hte⟩ := length_claimants_of_added ht hsnd ha
    rw [hct]
    exact .inr (.inl hte)

theorem states_of_makeHeldBatches (hs : s.Backed) (now : String → ℤ) (working : String → Bool)
    (mint : String → String) (body : List Item → String)
    (hb : NewBatch s (s.makeHeldBatches now working mint body) b) :
    b.States ((s.makeHeldBatches now working mint body).claimants b.id).length := by
  obtain ⟨hb, hn⟩ := hb
  rcases makeHeldBatches_cases s now working mint body with h | h
  · rw [h] at hb
    exact absurd rfl (hn b hb)
  rcases batches_runPass h hb with hold | ha
  · exact absurd rfl (hn b hold)
  · obtain ⟨hct, -, ht⟩ := length_claimants_of_added hs h ha
    rw [hct]
    exact .inr (.inr ⟨_, ht⟩)

/-- An update adds no batch. -/
theorem not_newBatch_of_update {f : Batch → Batch} {p : Batch → Bool} {hf : ∀ b, (f b).id = b.id} :
    ¬NewBatch s { s with batches := s.batches.updateWhere p f hf } b := by
  rintro ⟨hb, hn⟩
  rw [mem_updateWhere] at hb
  rcases hb with ⟨b', hb', -, rfl⟩ | ⟨hb, -⟩
  · exact hn b' hb' (hf b').symm
  · exact hn b hb rfl

theorem not_newBatch_of_same (h : t.batches = s.batches) : ¬NewBatch s t b :=
  fun ⟨hb, hn⟩ => hn b (h ▸ hb) rfl

theorem batches_putFrom (p : Put) (now : ℤ) : (s.putFrom p now).2.batches = s.batches := by
  rw [putFrom_eq]
  exact s.takeID_batches

/-- **The number that a new batch states** is the number of items that claim it. -/
theorem states_of_perform (hs : s.Backed) (op : Op)
    (hb : NewBatch s (s.perform op) b) : b.States ((s.perform op).claimants b.id).length := by
  cases op with
  | batches now mint mint' => exact states_of_makeBatches hs now mint mint' hb
  | heldBatches now working mint body => exact states_of_makeHeldBatches hs now working mint body hb
  | put p now => exact absurd hb (not_newBatch_of_same (batches_putFrom p now))
  | aborted => exact absurd hb (not_newBatch_of_same s.takeID_batches)
  | sent | setText => exact absurd hb not_newBatch_of_update
  | read | ack | deliver | release | quiet | quarantine | recover | prune =>
    exact absurd hb (not_newBatch_of_same rfl)

/-! ## Claims over a run -/

/-- The second state comes later in a run than the first. -/
def Later : Trace → Trace → Prop := ReflTransGen fun t u => ∃ op, u = t.after op

/-- An id that was given out and is gone does not come back. -/
theorem absent_later {t u : Trace} (h : Later t u) (hids : Numbered t) {n : ℕ} (hn : n ∈ t.issued)
    (hgo : ∀ i ∈ t.store.items, i.id ≠ n) :
    Numbered u ∧ n ∈ u.issued ∧ ∀ i ∈ u.store.items, i.id ≠ n := by
  induction h with
  | refl => exact ⟨hids, hn, hgo⟩
  | tail _ hs ih =>
    obtain ⟨op, rfl⟩ := hs
    obtain ⟨hids, hn, hgo⟩ := ih
    refine ⟨hids.after op, mem_append_left _ hn, fun j hj hid => ?_⟩
    rcases (perform_effect _ op).origin j hj with ⟨i, hi, hmv⟩ | ⟨p, now, -, rfl⟩
    · exact hgo i hi (hmv.same.id.symm.trans hid)
    · have hle := hids.bounded n hn
      have hne : nextID _ = n := hid
      rw [nextID_eq] at hne
      omega

/-- A statement that gives the item back to its pool came between. -/
def ReleasedBetween (t u : Trace) (n : ℕ) (c : Column) (id : String) : Prop :=
  ∃ v op, Later t v ∧ Later (v.after op) u ∧
    ∃ k ∈ v.store.items, k.id = n ∧ k.batch c = id ∧ Releases v.store k op c

/-- **An item leaves a batch only when it is released.** -/
theorem released_of_batch_ne {t u : Trace} (h : Later t u) (hids : Numbered t)
    (hi : i ∈ t.store.items) (hj : j ∈ u.store.items) (hid : j.id = i.id) {c : Column}
    (hcd : i.batch c ≠ "") (hne : j.batch c ≠ i.batch c) :
    ReleasedBetween t u i.id c (i.batch c) := by
  induction h using ReflTransGen.head_induction_on generalizing i with
  | refl =>
    obtain rfl : j = i := eq_of_key hj hi hid
    exact absurd rfl hne
  | head hs hre ih =>
    next t t' =>
    obtain ⟨op, rfl⟩ := hs
    have he := perform_effect t.store op
    rcases he.kept i hi with ⟨k, hk, hmv⟩ | ⟨now, days, perLane, rfl, hp⟩
    · cases hmv.batch c with
      | kept hsame =>
        obtain ⟨v, op', htv, hvu, hrel⟩ := ih (hids.after op) hk (hid.trans hmv.same.id.symm)
          (hsame ▸ hcd) (hsame ▸ hne)
        rw [hmv.same.id, hsame] at hrel
        exact ⟨v, op', .head ⟨op, rfl⟩ htv, hvu, hrel⟩
      | claimed hfree _ _ => exact absurd hfree hcd
      | released _ hrel => exact ⟨t, op, .refl, hre, i, hi, rfl, rfl, hrel⟩
    · -- the item was deleted, and its id cannot come back
      have hgo : ∀ k ∈ (t.after (.prune now days perLane)).store.items, k.id ≠ i.id := by
        intro k hk hkid
        obtain ⟨hk, hke⟩ := mem_deleteWhere.mp hk
        obtain rfl : k = i := eq_of_key hk hi hkid
        rw [hp] at hke
        cases hke
      have hiss : i.id ∈ (t.after (.prune now days perLane)).issued :=
        mem_append_left _ (hids.known i hi)
      exact absurd hid ((absent_later hre (hids.after _) hiss hgo).2.2 j hj)

/-- **Claims of batches.** In every state that a sequence of statements leads to, two batches that
claim an item in one column are one batch. Later in the run the item is in another batch of that
kind only if a release came between. And the number that a new batch states is the number of items
that claim it. -/
theorem batches_claim_once {dialect : Dialect} {t : Trace} (h : Reachable dialect t) :
    (∀ i ∈ t.store.items, ∀ c, ∀ b ∈ t.store.batches, ∀ b' ∈ t.store.batches,
      i.batch c = b.id → i.batch c = b'.id → b = b') ∧
    (∀ u, Later t u → ∀ i ∈ t.store.items, ∀ j ∈ u.store.items, j.id = i.id → ∀ c,
      i.batch c ≠ "" → j.batch c ≠ i.batch c → ReleasedBetween t u i.id c (i.batch c)) ∧
    (∀ op b, NewBatch t.store (t.after op).store b →
      b.States ((t.after op).store.claimants b.id).length) := by
  refine ⟨fun i _ c b hb b' hb' hid hid' => ?_, fun u hu i hi j hj hid c => ?_, fun op b hb => ?_⟩
  · exact eq_of_key hb hb' (hid.symm.trans hid')
  · exact released_of_batch_ne hu h.numbered hi hj hid
  · exact states_of_perform h.backed op hb

/-- Two interrupts of one window, and one of a later window. -/
def threeInterrupts : List Op :=
  [.put (samplePut "a" .interrupt 5000000) 1000000, .put (samplePut "b" .interrupt 5000000) 4000000,
    .put (samplePut "c" .interrupt 5000000) 9000000]

theorem batches_claim_once_window :
    (replay .sqlite
      (threeInterrupts ++ [.batches 9000000 (fun _ => "x") fun _ => "y"])).store.batches.rows.map
      (fun b => (b.id, b.text)) =
      [("quiet-digest-x", "2 interrupt events | lane lane | panewire inbox list --lane lane")] ∧
    (∀ b, NewBatch (replay .sqlite threeInterrupts).store
        ((replay .sqlite threeInterrupts).after
          (.batches 9000000 (fun _ => "x") fun _ => "y")).store b →
      b.States (((replay .sqlite threeInterrupts).after
        (.batches 9000000 (fun _ => "x") fun _ => "y")).store.claimants b.id).length) :=
  ⟨by decide +kernel, (batches_claim_once (Reachable.replay .sqlite threeInterrupts)).2.2 _⟩

end Panewire.Inbox
