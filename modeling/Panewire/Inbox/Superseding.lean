import Panewire.Inbox.Retention

/-!
# Superseding

A put under a key that is taken changes no row: **the first writer wins**. A put under a free key
adds a row, and may mark earlier rows of its lane and cause with the id of the new one. Ids only
grow, so the marks lead from any row **upwards**, to a row that has none.
-/

namespace Panewire.Inbox

open Data Hub Store List Relation

variable {s : Store} {i j new : Item} {p : Put} {now : ℤ}

/-! ## One put -/

/-- What the insert of `new` does to a row: nothing, or it marks an earlier one of its lane and
cause. -/
def Marks (new : Item) (now : ℤ) (i j : Item) : Prop :=
  j = i ∨ (i.id < new.id ∧ i.lane = new.lane ∧ i.event.cause = new.event.cause ∧
    j = { i with supersededAt := unixMilli now, supersededBy := new.id })

/-- No mark changes what a row is about. -/
theorem Marks.same (h : Marks new now i j) :
    j.id = i.id ∧ j.key = i.key ∧ j.lane = i.lane ∧ j.event = i.event := by
  rcases h with rfl | ⟨-, -, -, rfl⟩ <;> exact ⟨rfl, rfl, rfl, rfl⟩

/-- A key that is taken: the stored row is the answer, and all rows stay. -/
theorem putFrom_stored (hu : ∀ i ∈ s.items, ∀ j ∈ s.items, i.key = j.key → i = j)
    (hi : i ∈ s.items) (hk : i.key = p.key) : s.putFrom p now = (some (i, false), s.takeID) := by
  have hfi : s.items.rows.find? (·.key = p.key) = some i := by
    cases hfi : s.items.rows.find? (·.key = p.key) with
    | none => simpa [hk] using find?_eq_none.mp hfi i hi
    | some j =>
      rw [hu j (mem_of_find?_eq_some hfi) i hi]
      rw [hk]
      simpa using find?_some hfi
  unfold putFrom
  rw [hfi]

/-- **A free key**: the new row, and the others with its marks. -/
theorem putFrom_new (now : ℤ) (hbd : ∀ i ∈ s.items, i.id < s.nextID)
    (hk : ∀ i ∈ s.items, i.key ≠ p.key) :
    (s.putFrom p now).1 = some (p.item now s.nextID, true) ∧
    ∃ mark : Item → Item, (∀ i, Marks (p.item now s.nextID) now i (mark i)) ∧
      ∀ j, j ∈ (s.putFrom p now).2.items ↔ j = p.item now s.nextID ∨ ∃ i ∈ s.items, mark i = j := by
  have hfi : s.items.rows.find? (·.key = p.key) = none :=
    find?_eq_none.mpr fun i hi => by simpa using hk i hi
  rcases s.takeID.items.insertNew_cases (p.item now s.nextID) with ⟨-, i, hi, hid⟩ | ⟨hn, -, hmem⟩
  · rw [takeID_items] at hi
    exact absurd hid (hbd i hi).ne
  rw [takeID_items] at hmem hn
  unfold putFrom
  rw [hfi]
  dsimp only
  rw [takeID_items, show s.items.insertNew _ = (_, true) from Prod.ext rfl hn]
  refine ⟨rfl, ?_⟩
  dsimp only
  split
  · refine ⟨fun i => if i.lane = p.lane && i.event.cause = p.event.cause && i.id < s.nextID &&
      i.live && supersedes (p.item now s.nextID) i then
        { i with supersededAt := unixMilli now, supersededBy := s.nextID } else i,
      fun i => ?_, fun j => ?_⟩
    · dsimp only
      split
      · next h =>
        simp only [Bool.and_eq_true, decide_eq_true_eq] at h
        exact .inr ⟨h.1.1.2, h.1.1.1.1, h.1.1.1.2, rfl⟩
      · exact .inl rfl
    · refine mem_updateItems.trans ⟨?_, ?_⟩
      · rintro ⟨i, hi, rfl⟩
        rcases (hmem i).mp hi with hi | rfl
        · exact .inr ⟨i, hi, rfl⟩
        -- the new row is not earlier than itself
        · exact .inl (by simp)
      · rintro (rfl | ⟨i, hi, rfl⟩)
        · exact ⟨_, (hmem _).mpr (.inr rfl), by simp⟩
        · exact ⟨i, (hmem i).mpr (.inl hi), rfl⟩
  · refine ⟨id, fun _ => .inl rfl, fun j => (hmem j).trans ?_⟩
    simp [or_comm]

/-! ## Sequences of puts -/

/-- The row carries the id of the other one. -/
def Store.SupersededBy (s : Store) (i j : Item) : Prop :=
  i ∈ s.items ∧ j ∈ s.items ∧ i.supersededBy ≠ 0 ∧ j.id = i.supersededBy

/-- **The marks lead upwards**, within a lane and a cause. -/
structure Upwards (s : Store) : Prop where
  key : ∀ i ∈ s.items, ∀ j ∈ s.items, i.key = j.key → i = j
  unmarked : ∀ i ∈ s.items, i.supersededBy = 0 → i.supersededAt = 0
  marked : ∀ i ∈ s.items, i.supersededBy ≠ 0 → ∃ j ∈ s.items, j.id = i.supersededBy ∧
    i.id < j.id ∧ i.lane = j.lane ∧ i.event.cause = j.event.cause

theorem Upwards.put (h : Upwards s) (hbd : ∀ i ∈ s.items, i.id < s.nextID) (p : Put) (now : ℤ) :
    Upwards (s.putFrom p now).2 ∧
    ∀ key, (key = p.key ∨ ∃ i ∈ s.items, i.key = key) →
      ∃ i ∈ (s.putFrom p now).2.items, i.key = key := by
  by_cases hkey : ∃ i ∈ s.items, i.key = p.key
  · obtain ⟨i, hi, hkey⟩ := hkey
    rw [putFrom_stored h.key hi hkey]
    simp only [takeID_items]
    refine ⟨⟨by simpa using h.key, by simpa using h.unmarked, by simpa using h.marked⟩, ?_⟩
    rintro key (rfl | hs)
    · exact ⟨i, hi, hkey⟩
    · exact hs
  have hkey : ∀ i ∈ s.items, i.key ≠ p.key := fun i hi hk => hkey ⟨i, hi, hk⟩
  obtain ⟨-, mark, hma, hmem⟩ := putFrom_new now hbd hkey
  have hn := (hmem _).mpr (.inl rfl)
  refine ⟨⟨fun a ha b hb hab => ?_, fun j hj hj0 => ?_, fun j hj hj0 => ?_⟩, ?_⟩
  · rcases (hmem a).mp ha with rfl | ⟨i, hi, rfl⟩ <;> rcases (hmem b).mp hb with rfl | ⟨k, hk, rfl⟩
    · rfl
    · exact absurd (hab.trans (hma k).same.2.1).symm (hkey k hk)
    · exact absurd ((hma i).same.2.1.symm.trans hab) (hkey i hi)
    · rw [h.key i hi k hk ((hma i).same.2.1.symm.trans (hab.trans (hma k).same.2.1))]
  · rcases (hmem j).mp hj with rfl | ⟨i, hi, rfl⟩
    · rfl
    rcases hma i with heq | ⟨-, -, -, heq⟩ <;> rw [heq] at hj0 ⊢
    · exact h.unmarked i hi hj0
    · rw [show s.nextID = _ from s.nextID_eq] at hj0
      cases hj0
  · rcases (hmem j).mp hj with rfl | ⟨i, hi, rfl⟩
    · exact absurd rfl hj0
    rcases hma i with heq | ⟨hlt, hl, hc, heq⟩ <;> rw [heq] at hj0 ⊢
    · obtain ⟨k, hk, hid, hlt, hl, hc⟩ := h.marked i hi hj0
      obtain ⟨hid', -, hl', hev'⟩ := (hma k).same
      exact ⟨_, (hmem _).mpr (.inr ⟨k, hk, rfl⟩), hid'.trans hid, hid' ▸ hlt, hl' ▸ hl,
        hev' ▸ hc⟩
    · exact ⟨_, hn, rfl, hlt, hl, hc⟩
  · rintro key (rfl | ⟨i, hi, rfl⟩)
    · exact ⟨_, hn, rfl⟩
    · exact ⟨_, (hmem _).mpr (.inr ⟨i, hi, rfl⟩), (hma i).same.2.1⟩

/-- The store after these puts, each at its time. -/
def afterPuts (dialect : Dialect) (puts : List (Put × ℤ)) : Store :=
  (replay dialect (puts.map fun q => .put q.1 q.2)).store

theorem afterPuts_bound (dialect : Dialect) (puts : List (Put × ℤ)) :
    ∀ i ∈ (afterPuts dialect puts).items, i.id < (afterPuts dialect puts).nextID := by
  intro i hi
  have hids := (Reachable.replay dialect (puts.map fun q => .put q.1 q.2)).numbered
  rw [nextID_eq]
  exact Nat.lt_succ_of_le (hids.bounded _ (hids.known i hi))

theorem upwards_afterPuts (dialect : Dialect) (puts : List (Put × ℤ)) :
    Upwards (afterPuts dialect puts) ∧
    ∀ q ∈ puts, ∃ i ∈ (afterPuts dialect puts).items, i.key = q.1.key := by
  induction puts using reverseRecOn with
  | nil =>
    have hn : ∀ i, i ∉ (afterPuts dialect []).items := fun _ => Table.not_mem_empty
    exact ⟨⟨fun i hi => absurd hi (hn i), fun i hi => absurd hi (hn i),
      fun i hi => absurd hi (hn i)⟩, fun _ hq => absurd hq not_mem_nil⟩
  | append_singleton puts q ih =>
    have hp := ih.1.put (afterPuts_bound dialect puts) q.1 q.2
    rw [afterPuts, replay, map_append, foldl_append]
    refine ⟨hp.1, fun r hr => hp.2 _ ?_⟩
    rcases mem_append.mp hr with hr | hr
    · exact .inr (ih.2 r hr)
    · exact .inl (by rw [mem_singleton.mp hr])

/-! ## Chains of marks -/

theorem Upwards.supersededBy (h : Upwards s) (hij : s.SupersededBy i j) :
    i.id < j.id ∧ i.lane = j.lane ∧ i.event.cause = j.event.cause := by
  obtain ⟨hi, hj, hma, hid⟩ := hij
  obtain ⟨k, hk, hid', hre⟩ := h.marked i hi hma
  rwa [← Table.eq_of_key hk hj (hid'.trans hid.symm)]

/-- No row is reached from itself. -/
theorem Upwards.acyclic (h : Upwards s) (i : Item) : ¬ TransGen s.SupersededBy i i := by
  have hlt : ∀ j, TransGen s.SupersededBy i j → i.id < j.id := by
    intro j hij
    induction hij with
    | single hij => exact (h.supersededBy hij).1
    | tail _ hjk ih => exact ih.trans (h.supersededBy hjk).1
  exact fun hii => (hlt i hii).false

/-- The marks end at a row that has none: each one leaves fewer ids above. -/
theorem Upwards.ends (h : Upwards s) (hbd : ∀ i ∈ s.items, i.id < s.nextID) (hi : i ∈ s.items) :
    ∃ last ∈ s.items, ReflTransGen s.SupersededBy i last ∧ last.supersededBy = 0 ∧
      last.supersededAt = 0 := by
  induction hn : s.nextID - i.id using Nat.strong_induction_on generalizing i with
  | h n ih =>
    by_cases hma : i.supersededBy = 0
    · exact ⟨i, hi, .refl, hma, h.unmarked i hi hma⟩
    obtain ⟨j, hj, hid, hlt, -⟩ := h.marked i hi hma
    have hle : s.nextID - j.id < n := by
      have := hbd j hj
      omega
    obtain ⟨last, hl, hc, he⟩ := ih _ hle hj rfl
    exact ⟨last, hl, .head ⟨hi, hj, hma, hid⟩ hc, he⟩

/-- **The first writer wins, and superseding is well founded.** After any puts, one under a key that
was put before answers with the stored row and changes none; one under a free key adds its own row
and at most marks earlier rows of the same lane and cause; and from every row the marks lead,
without a cycle, to a row that was not superseded. -/
theorem putFrom_afterPuts (dialect : Dialect) (puts : List (Put × ℤ)) (p : Put) (now : ℤ) :
    let s := afterPuts dialect puts
    let r := s.putFrom p now
    (∀ q ∈ puts, ∃ i ∈ s.items, i.key = q.1.key) ∧
    (∀ i ∈ s.items, i.key = p.key → r.1 = some (i, false) ∧ r.2.items = s.items) ∧
    ((∀ i ∈ s.items, i.key ≠ p.key) → ∃ new, new = p.item now s.nextID ∧
      r.1 = some (new, true) ∧ new.key = p.key ∧
      (∀ i ∈ s.items, i.id < new.id ∧ ∃ j ∈ r.2.items, Marks new now i j) ∧
      ∀ j ∈ r.2.items, j = new ∨ ∃ i ∈ s.items, Marks new now i j) ∧
    (∀ i j, s.SupersededBy i j →
      i.id < j.id ∧ i.lane = j.lane ∧ i.event.cause = j.event.cause) ∧
    (∀ i, ¬ TransGen s.SupersededBy i i) ∧
    ∀ i ∈ s.items, ∃ last ∈ s.items, ReflTransGen s.SupersededBy i last ∧ last.supersededBy = 0 ∧
      last.supersededAt = 0 := by
  obtain ⟨hup, hs⟩ := upwards_afterPuts dialect puts
  have hbd := afterPuts_bound dialect puts
  refine ⟨hs, fun i hi hk => ?_, fun hk => ?_, fun i j => hup.supersededBy, hup.acyclic,
    fun i hi => hup.ends hbd hi⟩
  · rw [putFrom_stored hup.key hi hk]
    exact ⟨rfl, takeID_items _⟩
  · obtain ⟨hres, mark, hma, hmem⟩ := putFrom_new now hbd hk
    refine ⟨_, rfl, hres, rfl, fun i hi => ⟨hbd i hi, mark i, (hmem _).mpr (.inr ⟨i, hi, rfl⟩),
      hma i⟩, fun j hj => ?_⟩
    rcases (hmem j).mp hj with rfl | ⟨i, hi, rfl⟩
    · exact .inl rfl
    · exact .inr ⟨i, hi, hma i⟩

/-- A put about a pull request. -/
def pullRequest (key : String) (type : NotifyType) : Put :=
  { samplePut key .inbox 0 with event := { cause := "pr:1", notifyType := some type } }

-- the merge marks the row that said the pull request is ready
example : (afterPuts .sqlite [(pullRequest "a" .ready, 1000000),
    (pullRequest "b" .merged, 2000000)]).items.rows.map
      (fun i => (i.id, i.supersededBy, i.supersededAt)) = [(1, 2, 2), (2, 0, 0)] := by
  decide +kernel

end Panewire.Inbox
