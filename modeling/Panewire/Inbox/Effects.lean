import Panewire.Inbox.Passes

/-!
# What a statement does to an item

`Moved` says everything that a statement can do to an item it keeps, column by column, with the
guard that it was done under; `perform_moved` proves it of all of them. Only `prune` keeps less than
all items, only `put` adds one, and batches are never deleted.
-/

namespace Panewire.Inbox

open Data Hub Store List Bool Table

/-! ## Columns -/

/-- The columns that no statement writes. -/
structure Same (i j : Item) : Prop where
  id : j.id = i.id
  lane : j.lane = i.lane
  cls : j.cls = i.cls
  createdAt : j.createdAt = i.createdAt
  mustAck : j.mustAck = i.mustAck
  holdUntil : j.holdUntil = i.holdUntil

/-- A statement that takes the item out of its batch. -/
inductive Releases (s : Store) (i : Item) : Op → Column → Prop where
  | release {id : String} {c : Column} : i.batch c = id → i.live = true →
      Releases s i (.release id) c
  | recover (mustAct : Item → Bool) (chunk : ℕ) : s.stuck i.escalationBatch = true →
      Releases s i (.recover mustAct chunk) .escalation

/-- What happens to a claim. -/
inductive Rebatched (op : Op) (s t : Store) (i j : Item) (c : Column) : Prop where
  | kept : j.batch c = i.batch c → Rebatched op s t i j c
  | claimed : i.batch c = "" → j.batch c ≠ "" → (∃ b ∈ t.batches, b.id = j.batch c) →
      Rebatched op s t i j c
  | released : j.batch c = "" → Releases s i op c → Rebatched op s t i j c

/-- A lane is made quiet, for this class of item. -/
def Op.Quiets (op : Op) (i : Item) : Prop :=
  ∃ inboxOnly, op = .quiet i.lane inboxOnly ∧ (inboxOnly = true → i.cls = .inbox)

/-- **What a statement does** to an item that it keeps. -/
structure Moved (op : Op) (s t : Store) (i j : Item) : Prop where
  same : Same i j
  live : j.live = true → i.live = true
  digestAt : j.digestAt = i.digestAt ∨ op.Quiets i
  deliveredAt : j.deliveredAt = i.deliveredAt ∨ ∃ key now, op = .deliver key now
  batch : ∀ c, Rebatched op s t i j c

variable {op : Op} {s t : Store} {i j : Item}

theorem Same.refl (i : Item) : Same i i := ⟨rfl, rfl, rfl, rfl, rfl, rfl⟩

theorem Moved.refl (i : Item) : Moved op s t i i :=
  ⟨.refl i, id, .inl rfl, .inl rfl, fun _ => .kept rfl⟩

/-! ## Updates -/

/-- All items are kept, and each of them moved. -/
def Store.Moves (op : Op) (s t : Store) : Prop :=
  (∀ i ∈ s.items, ∃ j ∈ t.items, Moved op s t i j) ∧
  (∀ j ∈ t.items, ∃ i ∈ s.items, i.id = j.id) ∧
  (∀ b ∈ s.batches, ∃ b' ∈ t.batches, b'.id = b.id)

/-- The tables of items and of batches did not change. -/
theorem Store.Moves.of_same (hite : t.items = s.items)
    (hbs : ∀ b ∈ s.batches, ∃ b' ∈ t.batches, b'.id = b.id) : s.Moves op t :=
  ⟨fun i hi => ⟨i, hite ▸ hi, .refl i⟩, fun j hj => ⟨j, hite ▸ hj, rfl⟩, hbs⟩

theorem Store.mem_updateItems {p : Item → Bool} {f : Item → Item} {hf : ∀ i, (f i).id = i.id} :
    j ∈ (s.updateItems p f hf).items ↔ ∃ i ∈ s.items, (if p i then f i else i) = j := by
  rw [updateItems, Table.updateWhere, mem_update]

/-- One `UPDATE lane_inbox`. -/
theorem Store.Moves.of_update {p : Item → Bool} {f : Item → Item} {hf : ∀ i, (f i).id = i.id}
    (h : ∀ i, p i = true → Moved op s (s.updateItems p f hf) i (f i)) :
    s.Moves op (s.updateItems p f hf) := by
  refine ⟨fun i hi => ?_, fun j hj => ?_, fun b hb => ⟨b, hb, rfl⟩⟩
  · refine ⟨_, mem_updateItems.mpr ⟨i, hi, rfl⟩, ?_⟩
    split
    · next hp => exact h i hp
    · exact .refl i
  · obtain ⟨i, hi, rfl⟩ := mem_updateItems.mp hj
    refine ⟨i, hi, ?_⟩
    split
    · exact (hf i).symm
    · rfl

/-- An update of times only, which brings nothing back to life. -/
theorem Moved.of_times (same : Same i j) (live : j.live = true → i.live = true)
    (digestAt : j.digestAt = i.digestAt) (deliveredAt : j.deliveredAt = i.deliveredAt)
    (batch : ∀ c, j.batch c = i.batch c) : Moved op s t i j :=
  ⟨same, live, .inl digestAt, .inl deliveredAt, fun c => .kept (batch c)⟩

theorem Item.batch_congr (hd : j.digestBatch = i.digestBatch)
    (he : j.escalationBatch = i.escalationBatch) (c : Column) : j.batch c = i.batch c := by
  cases c
  · exact hd
  · exact he

theorem moves_read (id : ℕ) (lane : String) (now : ℤ) : s.Moves op (s.read id lane now) :=
  .of_update fun _ _ => .of_times ⟨rfl, rfl, rfl, rfl, rfl, rfl⟩ (fun h => h) rfl rfl
    (Item.batch_congr rfl rfl)

theorem moves_recordDelivery (key : String) (now : ℤ) :
    s.Moves (.deliver key now) (s.recordDelivery key now) :=
  .of_update fun _ _ => ⟨⟨rfl, rfl, rfl, rfl, rfl, rfl⟩, fun h => h, .inl rfl,
    .inr ⟨key, now, rfl⟩, fun c => .kept (Item.batch_congr rfl rfl c)⟩

theorem moves_ack (id : ℕ) (lane : String) (all : Bool) (now : ℤ) :
    s.Moves op (s.ack id lane all now) := by
  refine .of_update fun i hp => ?_
  rw [and_eq_true] at hp
  exact .of_times ⟨rfl, rfl, rfl, rfl, rfl, rfl⟩ (fun _ => hp.1) rfl rfl (Item.batch_congr rfl rfl)

theorem moves_supersede (next : Item) (now : ℤ) : s.Moves op (s.supersede next now) := by
  refine .of_update fun i hp => ?_
  simp only [and_eq_true] at hp
  exact .of_times ⟨rfl, rfl, rfl, rfl, rfl, rfl⟩ (fun _ => hp.1.2) rfl rfl
    (Item.batch_congr rfl rfl)

theorem moves_quiet (lane : String) (inboxOnly : Bool) :
    s.Moves (.quiet lane inboxOnly) (s.quiet lane inboxOnly) := by
  refine .of_update fun i hp => ⟨⟨rfl, rfl, rfl, rfl, rfl, rfl⟩, fun h => h, .inr ?_, .inl rfl,
    fun c => .kept (Item.batch_congr rfl rfl c)⟩
  simp only [and_eq_true, or_eq_true, decide_eq_true_eq, not_eq_true'] at hp
  refine ⟨inboxOnly, by rw [hp.1], fun ho => ?_⟩
  rcases hp.2 with h | h
  · rw [ho] at h
    cases h
  · exact h

theorem moves_recoverMustAct (mustAct : Item → Bool) (chunk : ℕ) :
    s.Moves (.recover mustAct chunk) (s.recoverMustAct mustAct chunk) := by
  refine .of_update fun i _ => ⟨⟨rfl, rfl, rfl, rfl, rfl, rfl⟩, fun h => h, .inl rfl, .inl rfl,
    fun c => ?_⟩
  cases c with
  | digest => exact .kept rfl
  | escalation =>
    by_cases hs : s.stuck i.escalationBatch = true
    · exact .released (if_pos hs) (.recover mustAct chunk hs)
    · exact .kept (if_neg hs)

/-- All items are kept, and only one column of claims was written. -/
def Store.MovesIn (column : Column) (op : Op) (s t : Store) : Prop :=
  (∀ i ∈ s.items, ∃ j ∈ t.items, Moved op s t i j ∧ ∀ c ≠ column, j.batch c = i.batch c) ∧
  (∀ j ∈ t.items, ∃ i ∈ s.items, i.id = j.id) ∧
  (∀ b ∈ s.batches, ∃ b' ∈ t.batches, b'.id = b.id)

variable {column : Column}

theorem Store.MovesIn.moves (h : s.MovesIn column op t) : s.Moves op t := by
  refine ⟨fun i hi => ?_, h.2⟩
  obtain ⟨j, hj, hmv, -⟩ := h.1 i hi
  exact ⟨j, hj, hmv⟩

theorem Same.trans {k : Item} (hik : Same i k) (hkj : Same k j) : Same i j := by
  obtain ⟨h₁, h₂, h₃, h₄, h₅, h₆⟩ := hik
  obtain ⟨k₁, k₂, k₃, k₄, k₅, k₆⟩ := hkj
  exact ⟨k₁.trans h₁, k₂.trans h₂, k₃.trans h₃, k₄.trans h₄, k₅.trans h₅, k₆.trans h₆⟩

/-- Two statements, the first on digests and the second on escalations. -/
theorem Moved.trans {u : Store} {k : Item} (hik : Moved op s t i k) (hkj : Moved op t u k j)
    (hbs : ∀ b ∈ t.batches, ∃ b' ∈ u.batches, b'.id = b.id)
    (hd : j.batch .digest = k.batch .digest) (he : k.batch .escalation = i.batch .escalation)
    (hop : Releases t k op .escalation → Releases s i op .escalation) : Moved op s u i j where
  same := hik.same.trans hkj.same
  live h := hik.live (hkj.live h)
  digestAt := by
    rcases hkj.digestAt with hkj' | ⟨only, hqui, hc⟩
    · exact hik.digestAt.imp hkj'.trans id
    · rw [hik.same.lane] at hqui
      rw [hik.same.cls] at hc
      exact .inr ⟨only, hqui, hc⟩
  deliveredAt := by
    rcases hkj.deliveredAt with h | h
    · exact hik.deliveredAt.imp h.trans id
    · exact .inr h
  batch
    | .digest => by
      cases hik.batch .digest with
      | kept h => exact .kept (hd.trans h)
      | claimed hfree hnm hb =>
        obtain ⟨b, hb, hid⟩ := hb
        obtain ⟨b', hb', hid'⟩ := hbs b hb
        exact .claimed hfree (hd ▸ hnm) ⟨b', hb', hid'.trans (hid.trans hd.symm)⟩
      | released h hrel => exact .released (hd.trans h) hrel
    | .escalation => by
      cases hkj.batch .escalation with
      | kept h => exact .kept (h.trans he)
      | claimed hfree hnm hb => exact .claimed (he ▸ hfree) hnm hb
      | released h hrel => exact .released h (hop hrel)

theorem Store.MovesIn.trans {u : Store} (hst : s.MovesIn .digest op t)
    (htu : t.MovesIn .escalation op u)
    (hop : ∀ i k, (k.live = true → i.live = true) → k.batch .escalation = i.batch .escalation →
      Releases t k op .escalation → Releases s i op .escalation) : s.Moves op u := by
  refine ⟨fun i hi => ?_, fun j hj => ?_, fun b hb => ?_⟩
  · obtain ⟨k, hk, hik, hsame⟩ := hst.1 i hi
    obtain ⟨j, hj, hkj, hsame'⟩ := htu.1 k hk
    have he := hsame .escalation nofun
    exact ⟨j, hj, hik.trans hkj htu.2.2 (hsame' .digest nofun) he (hop i k hik.live he)⟩
  · obtain ⟨k, hk, hkj⟩ := htu.2.1 j hj
    obtain ⟨i, hi, hik⟩ := hst.2.1 k hk
    exact ⟨i, hi, hik.trans hkj⟩
  · obtain ⟨k, hk, hbk⟩ := hst.2.2 b hb
    obtain ⟨b', hb', hkb⟩ := htu.2.2 k hk
    exact ⟨b', hb', hkb.trans hbk⟩

variable (id : String) (c : Column)

theorem Item.setBatch_batch (i : Item) : (i.setBatch id c).batch c = id := by
  cases c <;> rfl

theorem Item.setBatch_batch_ne (i : Item) {c : Column} (h : c ≠ column) :
    (i.setBatch id column).batch c = i.batch c := by
  cases c <;> cases column <;> first | rfl | exact absurd rfl h

theorem Item.setBatch_same (i : Item) : Same i (i.setBatch id c) := by
  cases c <;> exact ⟨rfl, rfl, rfl, rfl, rfl, rfl⟩

@[simp] theorem Item.setBatch_live (i : Item) : (i.setBatch id c).live = i.live := by
  cases c <;> rfl

@[simp] theorem Item.setBatch_digestAt (i : Item) : (i.setBatch id c).digestAt = i.digestAt := by
  cases c <;> rfl

/-- An item that gets another batch in one column. -/
theorem Moved.of_setBatch {id : String}
    (h : Rebatched op s t i (i.setBatch id column) column) :
    Moved op s t i (i.setBatch id column) where
  same := i.setBatch_same id column
  live := by simp
  digestAt := .inl (by simp)
  deliveredAt := .inl (by cases column <;> rfl)
  batch c := by
    by_cases hc : c = column
    · exact hc ▸ h
    · exact .kept (i.setBatch_batch_ne id hc)

/-- One `UPDATE` that releases the items of a batch. -/
theorem movesIn_release (column : Column) {p : Item → Bool}
    (hp : ∀ i, p i = true → i.batch column = id ∧ i.live = true) :
    s.MovesIn column (.release id) (s.updateItems p (·.setBatch "" column) (by simp)) := by
  have hmov : ∀ {t i}, p i = true → Moved (.release id) s t i (i.setBatch "" column) := by
    intro t i h
    obtain ⟨hid, hl⟩ := hp i h
    exact .of_setBatch (.released (i.setBatch_batch "" column) (.release hid hl))
  refine ⟨fun i hi => ?_, (Moves.of_update fun _ => hmov).2⟩
  refine ⟨_, mem_updateItems.mpr ⟨i, hi, rfl⟩, ?_⟩
  split
  · next h => exact ⟨hmov h, fun c hc => i.setBatch_batch_ne "" hc⟩
  · exact ⟨.refl i, fun _ _ => rfl⟩

theorem moves_releaseBatchClaims : s.Moves (.release id) (s.releaseBatchClaims id) := by
  refine (movesIn_release id .digest fun i hp => ?_).trans
    (movesIn_release id .escalation fun i hp => ?_) fun i k hl he hrel => ?_
  · rwa [and_eq_true, decide_eq_true_eq] at hp
  · rw [and_eq_true, and_eq_true, decide_eq_true_eq] at hp
    exact ⟨hp.1.1, hp.2⟩
  · cases hrel with
    | release hid h => exact .release (he.symm.trans hid) (hl h)

/-! ## Passes -/

/-- **One pass** claims free items, and nothing else. -/
theorem movesIn_runPass {pass : Pass} (h : s.runPass pass = some t) :
    s.MovesIn pass.column op t := by
  have hw := runPass_spec h
  have hit : ∀ i ∈ s.items, Moved op s t i (s.marked pass
      (lanesOf (s.items.rows.filter pass.query)) i) ∧ ∀ c ≠ pass.column,
      (s.marked pass (lanesOf (s.items.rows.filter pass.query)) i).batch c = i.batch c := by
    intro i hi
    unfold marked
    split
    · next hma =>
      have hgrp := (mem_groupIDs hi).mp hma.2
      refine ⟨.of_setBatch (.claimed (pass.free i (mem_group hgrp).2.1) ?_ ?_), fun c hc =>
        i.setBatch_batch_ne _ hc⟩
      · rw [Item.setBatch_batch]
        exact pass.mint_ne i.lane
      · refine ⟨⟨pass.mint i.lane, i.lane, pass.text i.lane (s.group pass i.lane), false⟩, ?_,
          (Item.setBatch_batch ..).symm⟩
        rw [← mem_rows, hw.batches]
        refine mem_append_right _ (mem_map.mpr ⟨i.lane, ?_, rfl⟩)
        exact mem_filter.mpr ⟨hma.1, by simpa using ne_nil_of_mem hgrp⟩
    · exact ⟨.refl i, fun _ _ => rfl⟩
  refine ⟨fun i hi => ⟨_, ?_, hit i hi⟩, fun j hj => ?_, fun b hb => ⟨b, ?_, rfl⟩⟩
  · rw [← mem_rows, hw.items]
    exact mem_map_of_mem hi
  · rw [← mem_rows, hw.items] at hj
    obtain ⟨i, hi, rfl⟩ := mem_map.mp hj
    exact ⟨i, hi, (marked_id _ i).symm⟩
  · rw [← mem_rows, hw.batches]
    exact mem_append_left _ hb

theorem Store.Moves.refl (s : Store) : s.Moves op s :=
  .of_same rfl fun b hb => ⟨b, hb, rfl⟩

/-- Both passes of `makeBatches` go through, or nothing happens. -/
theorem makeBatches_cases (s : Store) (now : ℤ) (mint mint' : String → String) :
    s.makeBatches now mint mint' = s ∨ ∃ t, s.runPass (digestPass now mint) = some t ∧
      t.runPass (escalationPass now mint') = some (s.makeBatches now mint mint') := by
  unfold makeBatches
  cases s.runPass (digestPass now mint) with
  | none => exact .inl rfl
  | some t =>
    rw [Option.bind_some]
    cases hs : t.runPass (escalationPass now mint') with
    | none => exact .inl rfl
    | some u => exact .inr ⟨t, rfl, hs⟩

theorem makeHeldBatches_cases (s : Store) (now : String → ℤ) (working : String → Bool)
    (mint : String → String) (body : List Item → String) :
    s.makeHeldBatches now working mint body = s ∨ s.runPass (heldPass now working mint body) =
      some (s.makeHeldBatches now working mint body) := by
  unfold makeHeldBatches
  cases s.runPass (heldPass now working mint body) with
  | none => exact .inl rfl
  | some t => exact .inr rfl

theorem moves_makeBatches (now : ℤ) (mint mint' : String → String) :
    s.Moves (.batches now mint mint') (s.makeBatches now mint mint') := by
  rcases makeBatches_cases s now mint mint' with h | ⟨t, hfst, hs⟩
  · rw [h]
    exact .refl s
  · exact (movesIn_runPass hfst).trans (movesIn_runPass hs) fun _ _ _ _ hrel => nomatch hrel

theorem moves_makeHeldBatches (now : String → ℤ) (working : String → Bool)
    (mint : String → String) (body : List Item → String) :
    s.Moves op (s.makeHeldBatches now working mint body) := by
  rcases makeHeldBatches_cases s now working mint body with h | h
  · rw [h]
    exact .refl s
  · exact (movesIn_runPass h).moves

/-! ## All statements -/

/-- **What a statement does** to the tables: the items it keeps moved, and where those it leaves
behind came from. -/
structure Effect (op : Op) (s t : Store) : Prop where
  kept : ∀ i ∈ s.items, (∃ j ∈ t.items, Moved op s t i j) ∨
    ∃ now days perLane, op = .prune now days perLane ∧ s.prunable now days perLane i = true
  origin : ∀ j ∈ t.items, (∃ i ∈ s.items, Moved op s t i j) ∨
    ∃ p now, op = .put p now ∧ j = p.item now s.nextID
  batches : ∀ b ∈ s.batches, ∃ b' ∈ t.batches, b'.id = b.id

/-- An item has one id before and after, so it is the one that it moved to. -/
theorem moved_of_id (h : ∃ j ∈ t.items, Moved op s t i j) (hj : j ∈ t.items) (hid : i.id = j.id) :
    Moved op s t i j := by
  obtain ⟨k, hk, hmv⟩ := h
  obtain rfl : k = j := eq_of_key hk hj (hmv.same.id.trans hid)
  exact hmv

theorem Store.Moves.effect (h : s.Moves op t) : Effect op s t := by
  refine ⟨fun i hi => .inl (h.1 i hi), fun j hj => .inl ?_, h.2.2⟩
  obtain ⟨i, hi, hid⟩ := h.2.1 j hj
  exact ⟨i, hi, moved_of_id (h.1 i hi) hj hid⟩

@[simp] theorem Store.takeID_items (s : Store) : s.takeID.items = s.items := by
  unfold takeID
  split <;> rfl

@[simp] theorem Store.takeID_batches (s : Store) : s.takeID.batches = s.batches := by
  unfold takeID
  split <;> rfl

theorem moves_takeID : s.Moves op s.takeID :=
  .of_same s.takeID_items fun b hb => ⟨b, by simpa using hb, rfl⟩

/-- A put releases nothing, so it does not matter which store it is compared with. -/
theorem Moved.of_put {p : Put} {now : ℤ} {s' : Store} (h : Moved (.put p now) s' t i j) :
    Moved (.put p now) s t i j := by
  refine ⟨h.same, h.live, h.digestAt, h.deliveredAt, fun c => ?_⟩
  cases h.batch c with
  | kept h => exact .kept h
  | claimed hfree hnm hb => exact .claimed hfree hnm hb
  | released _ hrel => exact nomatch hrel

section Put

variable {p : Put} {now : ℤ} {r : Store}

/-- The new item is there. -/
theorem effect_insert (hmem : ∀ j, j ∈ r.items ↔ j ∈ s.items ∨ j = p.item now s.nextID)
    (hbs : r.batches = s.batches) : Effect (.put p now) s r := by
  refine ⟨fun i hi => .inl ⟨i, (hmem i).mpr (.inl hi), .refl i⟩, fun j hj => ?_,
    fun b hb => ⟨b, hbs ▸ hb, rfl⟩⟩
  rcases (hmem j).mp hj with hold | hn
  · exact .inl ⟨j, hold, .refl j⟩
  · exact .inr ⟨p, now, rfl, hn⟩

/-- The new item supersedes earlier ones, and not itself. -/
theorem effect_supersede (hmem : ∀ j, j ∈ r.items ↔ j ∈ s.items ∨ j = p.item now s.nextID)
    (hbs : r.batches = s.batches) :
    Effect (.put p now) s (r.supersede (p.item now s.nextID) now) := by
  have hmov : r.Moves (.put p now) (r.supersede (p.item now s.nextID) now) :=
    moves_supersede _ now
  have hke : ∀ i ∈ s.items, ∃ j ∈ (r.supersede (p.item now s.nextID) now).items,
      Moved (.put p now) s (r.supersede (p.item now s.nextID) now) i j := by
    intro i hi
    obtain ⟨j, hj, hij⟩ := hmov.1 i ((hmem i).mpr (.inl hi))
    exact ⟨j, hj, hij.of_put⟩
  refine ⟨fun i hi => .inl (hke i hi), fun j hj => ?_, fun b hb => hmov.2.2 b (hbs ▸ hb)⟩
  obtain ⟨k, hk, rfl⟩ := mem_updateItems.mp hj
  rcases (hmem k).mp hk with hk | rfl
  · refine .inl ⟨k, hk, moved_of_id (hke k hk) hj ?_⟩
    split <;> rfl
  · exact .inr ⟨p, now, rfl, by simp⟩

theorem effect_putFrom (p : Put) (now : ℤ) : Effect (.put p now) s (s.putFrom p now).2 := by
  unfold putFrom
  split
  · exact moves_takeID.effect
  dsimp only
  split
  · exact moves_takeID.effect
  next items hi =>
  have hmem : ∀ j, j ∈ items ↔ j ∈ s.items ∨ j = p.item now s.nextID := by
    intro j
    rcases s.takeID.items.insertNew_cases (p.item now s.nextID) with ⟨heq, -⟩ | ⟨-, -, h⟩
    · rw [heq] at hi
      cases hi
    · rw [hi] at h
      simpa using h j
  split
  · exact effect_supersede hmem s.takeID_batches
  · exact effect_insert hmem s.takeID_batches

end Put

theorem effect_prune (now days : ℤ) (perLane : ℕ) :
    Effect (.prune now days perLane) s (s.prune now days perLane) := by
  refine ⟨fun i hi => ?_, fun j hj => .inl ?_, fun b hb => ⟨b, hb, rfl⟩⟩
  · cases hp : s.prunable now days perLane i with
    | true => exact .inr ⟨now, days, perLane, rfl, hp⟩
    | false => exact .inl ⟨i, mem_deleteWhere.mpr ⟨hi, hp⟩, .refl i⟩
  · exact ⟨j, (mem_deleteWhere.mp hj).1, .refl j⟩

theorem moves_updateBatches {f : Batch → Batch} {p : Batch → Bool} {hf : ∀ b, (f b).id = b.id} :
    s.Moves op { s with batches := s.batches.updateWhere p f hf } := by
  refine .of_same rfl fun b hb => ?_
  by_cases hp : p b = true
  · refine ⟨f b, ?_, hf b⟩
    rw [mem_updateWhere]
    exact .inl ⟨b, hb, hp, rfl⟩
  · refine ⟨b, ?_, rfl⟩
    rw [mem_updateWhere]
    exact .inr ⟨hb, by simpa using hp⟩

/-- **Every statement** has its effect. -/
theorem perform_effect (s : Store) (op : Op) : Effect op s (s.perform op) := by
  cases op with
  | put p now => exact effect_putFrom p now
  | aborted => exact moves_takeID.effect
  | read id lane now => exact (moves_read id lane now).effect
  | ack id lane all now => exact (moves_ack id lane all now).effect
  | deliver key now => exact (moves_recordDelivery key now).effect
  | batches now mint mint' => exact (moves_makeBatches now mint mint').effect
  | heldBatches now working mint body => exact (moves_makeHeldBatches now working mint body).effect
  | release id => exact (moves_releaseBatchClaims id).effect
  | sent | setText => exact moves_updateBatches.effect
  | quiet lane inboxOnly => exact (moves_quiet lane inboxOnly).effect
  | quarantine id reason =>
    have hmov : s.Moves (.quarantine id reason) (s.quarantineBatch id reason) :=
      .of_same rfl fun b hb => ⟨b, hb, rfl⟩
    exact hmov.effect
  | recover mustAct chunk => exact (moves_recoverMustAct mustAct chunk).effect
  | prune now days perLane => exact effect_prune now days perLane

end Panewire.Inbox
