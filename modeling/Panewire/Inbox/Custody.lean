import Panewire.Inbox.Retention

/-!
# Nothing is dropped

An interrupt that is stored with a digest time or a hold time is **handled**: its source has been
told so, and no pane has seen it. Until it is acknowledged or superseded, one of three things has to
bring it to its lane: it is unread, it waits for its digest or its hold, or a batch claims it.

Startup breaks this: making a design lane quiet clears the digest time of every item of the lane,
also of an interrupt that waits for nothing else. `Keeps` is the condition under which no statement
drops an item, and `handled_items_kept` the invariant of the runs that meet it.
-/

namespace Panewire.Inbox

open Data Hub List

/-! ## The condition -/

/-- An interrupt that only its digest time will bring to its lane. -/
def Item.onlyDigest (i : Item) : Bool :=
  i.cls = .interrupt && i.live && i.digestBatch = "" && i.digestAt > 0 && !(i.holdUntil > 0) &&
    !i.mustAck

/-- An interrupt that would wait for nothing once its batch is gone. -/
def Item.onlyBatch (i : Item) : Bool :=
  i.cls = .interrupt && i.live && !(i.digestAt > 0) && !(i.holdUntil > 0) && !i.mustAck

/-- **When a statement drops nothing.** A confirmation of delivery is not considered: it is a
receipt in its own right. -/
def Keeps (s : Store) : Op → Prop
  | .quiet lane false => ∀ i ∈ s.items, i.lane = lane → i.onlyDigest = false
  | .release id => ∀ i ∈ s.items, i.digestBatch = id → id ≠ "" → i.onlyBatch = false
  | .deliver _ _ => False
  | _ => True

/-- One of the three brings the item to its lane. -/
def Store.HasCustody (s : Store) (i : Item) : Prop :=
  i.unread = true ∨ i.scheduled = true ∨
    (i.digestBatch ≠ "" ∧ ∃ b ∈ s.batches, b.id = i.digestBatch)

/-! ## One statement -/

variable {op : Op} {s t : Store} {i j : Item}

/-- For an interrupt, unread means that it is still to be acknowledged. -/
theorem Item.unread_iff_of_interrupt (hc : i.cls = .interrupt) :
    i.unread = true ↔ i.live = true ∧ i.mustAck = true := by
  unfold Item.unread Item.live
  simp [hc, and_comm, and_assoc]

theorem Item.scheduled_iff : i.scheduled = true ↔
    i.live = true ∧ i.digestBatch = "" ∧ (i.holdUntil > 0 ∨ i.digestAt > 0) := by
  simp [Item.scheduled, and_assoc]

/-- **The item that moved is still brought to its lane.** -/
theorem HasCustody.moved (hmv : Moved op s t i j) (hcls : i.cls = .interrupt) (hi : i ∈ s.items)
    (hl : j.live = true) (hok : Keeps s op)
    (hbs : ∀ b ∈ s.batches, ∃ b' ∈ t.batches, b'.id = b.id) (h : s.HasCustody i) :
    t.HasCustody j := by
  have hc : j.cls = .interrupt := hmv.same.cls.trans hcls
  have hliv := hmv.live hl
  have hbat : Rebatched op s t i j .digest := hmv.batch .digest
  by_cases hmu : i.mustAck = true
  · exact .inl ((Item.unread_iff_of_interrupt hc).mpr ⟨hl, hmv.same.mustAck.trans hmu⟩)
  -- without a claim, the item has to wait for something
  have waits : i.holdUntil > 0 ∨ j.digestAt > 0 → j.digestBatch = "" → t.HasCustody j :=
    fun hw hfree => .inr (.inl (Item.scheduled_iff.mpr
      ⟨hl, hfree, hw.imp_left (hmv.same.holdUntil ▸ ·)⟩))
  have claimed : j.digestBatch ≠ "" → (∃ b ∈ t.batches, b.id = j.digestBatch) → t.HasCustody j :=
    fun hne hb => .inr (.inr ⟨hne, hb⟩)
  rcases h with hu | hsc | ⟨hne, b, hb, hid⟩
  · exact absurd ((Item.unread_iff_of_interrupt hcls).mp hu).2 hmu
  · obtain ⟨-, hfree, hw⟩ := Item.scheduled_iff.mp hsc
    have hs : i.holdUntil > 0 ∨ j.digestAt > 0 := by
      rcases hmv.digestAt with hsame | ⟨only, rfl, ho⟩
      · rwa [hsame]
      -- the lane was made quiet for all classes, and the condition says that this item holds
      have hfal : only = false := by
        cases only with
        | false => rfl
        | true => exact absurd (hcls.symm.trans (ho rfl)) nofun
      subst hfal
      have hnot := hok i hi rfl
      by_contra hn
      rw [not_or] at hn
      have hdig := hw.resolve_left hn.1
      simp [Item.onlyDigest, hcls, hliv, hfree, hdig, hmu] at hnot
      exact hn.1 hnot
    cases hbat with
    | kept hsame => exact waits hs (hsame.trans hfree)
    | claimed _ hnm hb => exact claimed hnm hb
    | released hnil _ => exact waits hs hnil
  · cases hbat with
    | kept hk =>
      have hsame : j.digestBatch = i.digestBatch := hk
      obtain ⟨b', hb', hid'⟩ := hbs b hb
      exact claimed (hsame ▸ hne) ⟨b', hb', hid'.trans (hid.trans hsame.symm)⟩
    | claimed hfree _ _ => exact absurd hfree hne
    | released hnil hrel =>
      cases hrel with
      | release hbid _ =>
        subst hbid
        have hnot := hok i hi rfl hne
        have hsame : j.digestAt = i.digestAt := by
          rcases hmv.digestAt with h | ⟨only, h, -⟩
          · exact h
          · cases h
        refine waits ?_ hnil
        by_contra hn
        rw [not_or, hsame] at hn
        simp [Item.onlyBatch, hcls, hliv, hn.1, hn.2, hmu] at hnot

/-- A prune does not delete an interrupt that is still to be brought to its lane. -/
theorem not_prunable_of_live {now days : ℤ} {perLane : ℕ} (hc : i.cls = .interrupt)
    (hl : i.live = true) (hdel : i.deliveredAt = 0) : s.prunable now days perLane i = false := by
  by_contra hp
  rw [Bool.not_eq_false] at hp
  have ht : i.terminal = true := by
    simp only [Store.prunable, Bool.and_eq_true] at hp
    exact hp.1.1.1.1.2
  simp only [Item.live, Bool.and_eq_true, decide_eq_true_eq] at hl
  simp [Item.terminal, hl.1, hl.2, hdel, hc] at ht

/-- A handled item waits from the start. -/
theorem scheduled_of_handled {p : Put} {now : ℤ} {id : ℕ} (h : (p.item now id).handled = true) :
    (p.item now id).scheduled = true ∧ (p.item now id).cls = .interrupt := by
  simp only [Item.handled, Bool.and_eq_true, Bool.or_eq_true, decide_eq_true_eq] at h
  refine ⟨Item.scheduled_iff.mpr ⟨rfl, rfl, ?_⟩, h.1⟩
  exact h.2.symm

/-! ## Runs -/

/-- Every handled item was settled, or something still brings it to its lane. -/
structure Custody (t : Trace) : Prop where
  undelivered : ∀ i ∈ t.store.items, i.deliveredAt = 0
  kept : ∀ n ∈ t.handled, n ∈ t.settled ∨
    ∃ i ∈ t.store.items, i.id = n ∧ i.cls = .interrupt ∧ i.live = true ∧ t.store.HasCustody i

theorem Custody.after {t : Trace} (h : Custody t) (hok : Keeps t.store op) :
    Custody (t.after op) := by
  have he := perform_effect t.store op
  refine ⟨fun j hj => ?_, fun n hn => ?_⟩
  · rcases he.origin j hj with ⟨i, hi, hmv⟩ | ⟨p, now, rfl, rfl⟩
    · rcases hmv.deliveredAt with hsame | ⟨key, now, rfl⟩
      · exact hsame.trans (h.undelivered i hi)
      · exact hok.elim
    · rfl
  rw [Trace.after] at hn ⊢
  rcases mem_append.mp hn with hn | hn
  · rcases h.kept n hn with hs | ⟨i, hi, rfl, hc, hl, hcus⟩
    · exact .inl (mem_append_left _ hs)
    rcases he.kept i hi with ⟨j, hj, hmv⟩ | ⟨now, days, perLane, rfl, hp⟩
    · cases hliv : j.live with
      | false =>
        refine .inl (mem_append_right _ (mem_map.mpr ⟨j, ?_, hmv.same.id⟩))
        exact mem_filter.mpr ⟨hj, by rw [hliv]; rfl⟩
      | true =>
        exact .inr ⟨j, hj, hmv.same.id, hmv.same.cls.trans hc, hliv,
          HasCustody.moved hmv hc hi hliv hok he.batches hcus⟩
    · rw [not_prunable_of_live hc hl (h.undelivered i hi)] at hp
      cases hp
  · obtain ⟨j, hj, rfl⟩ := mem_map.mp hn
    obtain ⟨hnew, hh⟩ := mem_filter.mp hj
    obtain ⟨hmem, -, p, now, rfl, rfl⟩ := id_of_mem_newItems hnew
    obtain ⟨hsc, hc⟩ := scheduled_of_handled hh
    exact .inr ⟨_, hmem, rfl, hc, (Item.scheduled_iff.mp hsc).1, .inr (.inl hsc)⟩

/-- **Nothing is dropped**, in every run whose statements all meet the condition: an interrupt that
was accepted as handled was acknowledged or superseded, or it is unread, scheduled, or claimed by a
batch that exists. -/
theorem handled_items_kept {dialect : Dialect} {t : Trace} (h : Runs Keeps dialect t) :
    ∀ n ∈ t.handled, n ∈ t.settled ∨ ∃ i ∈ t.store.items, i.id = n ∧ t.store.HasCustody i := by
  have hc : Custody t := by
    induction h with
    | empty => exact ⟨fun _ hi => absurd hi Table.not_mem_empty, nofun⟩
    | step op _ hok ih => exact ih.after hok
  intro n hn
  rcases hc.kept n hn with hs | ⟨i, hi, hid, -, -, hk⟩
  · exact .inl hs
  · exact .inr ⟨i, hi, hid, hk⟩

/-- An interrupt waits for its digest and is folded into a batch. -/
def foldedInterrupt : List Op :=
  [.put (samplePut "a" .interrupt 1000000) 1000000, .batches 2000000 (fun _ => "x") fun _ => "y"]

theorem handled_items_kept_folded :
    Runs Keeps .sqlite (replay .sqlite foldedInterrupt) ∧
    (replay .sqlite foldedInterrupt).handled = [1] ∧
    (replay .sqlite foldedInterrupt).settled = [] ∧
    ∃ i ∈ (replay .sqlite foldedInterrupt).store.items, i.id = 1 ∧
      (replay .sqlite foldedInterrupt).store.HasCustody i := by
  have hrun : Runs Keeps .sqlite (replay .sqlite foldedInterrupt) :=
    .step _ (.step _ .empty trivial) trivial
  have hs : (replay .sqlite foldedInterrupt).settled = [] := by decide +kernel
  have hh : (replay .sqlite foldedInterrupt).handled = [1] := by decide +kernel
  refine ⟨hrun, hh, hs, ?_⟩
  rcases handled_items_kept hrun 1 (by rw [hh]; exact mem_singleton_self 1) with h | h
  · cases h
  · exact h

/-- The lane becomes a design lane while an interrupt waits for its digest. -/
def quietedInterrupt : List Op :=
  [.put (samplePut "a" .interrupt 1000000) 1000000, .quiet "lane" false]

/-- **Making a design lane quiet drops a waiting interrupt.** -/
theorem quiet_drops_waiting_interrupt :
    Reachable .sqlite (replay .sqlite quietedInterrupt) ∧
    ¬∀ n ∈ (replay .sqlite quietedInterrupt).handled,
      n ∈ (replay .sqlite quietedInterrupt).settled ∨
        ∃ i ∈ (replay .sqlite quietedInterrupt).store.items, i.id = n ∧
          (replay .sqlite quietedInterrupt).store.HasCustody i := by
  refine ⟨Reachable.replay .sqlite quietedInterrupt, fun h => ?_⟩
  have hl : ∀ i ∈ (replay .sqlite quietedInterrupt).store.items.rows,
      i.unread = false ∧ i.scheduled = false ∧ i.digestBatch = "" := by decide +kernel
  rcases h 1 (by decide +kernel) with hs | ⟨i, hi, -, hc⟩
  · exact absurd hs (by decide +kernel)
  · obtain ⟨hu, hsc, hfree⟩ := hl i hi
    rcases hc with h | h | ⟨h, -⟩
    · exact absurd (hu.symm.trans h) nofun
    · exact absurd (hsc.symm.trans h) nofun
    · exact h hfree

end Panewire.Inbox
