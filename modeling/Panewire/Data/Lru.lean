import Mathlib.Data.Finset.Card
import Mathlib.Data.List.Pairwise
import Mathlib.Data.List.TakeWhile

/-!
# Least recently used

An index of bounded size that forgets the key whose last use is longest ago. Its order is that of
the **recent** keys: the keys in the order of their last use, cut at the bound. So a key is still in
the index exactly when fewer other keys were used since.
-/

namespace Data.Lru

open List

variable {κ : Type} [DecidableEq κ] {n : ℕ} {k : κ} {ks : List κ}

/-- What `touch` returns: whether the key was there, what had to go, and the new order. -/
structure Touched (κ : Type) where
  already : Bool
  evicted : Option κ
  order : List κ

/-- Use a key: move it to the front, or put it there and drop the last key that no longer fits. -/
def touch (order : List κ) (k : κ) (maxEntries : ℕ) : Touched κ :=
  if k ∈ order then ⟨true, none, k :: order.erase k⟩
  else if order.length + 1 ≤ maxEntries then ⟨false, none, k :: order⟩
  else ⟨false, (k :: order).getLast?, (k :: order).dropLast⟩

/-- Drop a key. -/
def forget (order : List κ) (k : κ) : List κ := order.erase k

/-- The keys of a history, latest use first. -/
def recent : List κ → List κ
  | [] => []
  | k :: ks => k :: (recent ks).filter (· ≠ k)

theorem mem_recent : k ∈ recent ks ↔ k ∈ ks := by
  induction ks with
  | nil => rfl
  | cons x ks ih =>
    by_cases hx : k = x
    · simp [recent, hx]
    · simp [recent, ih, hx]

theorem nodup_recent (ks : List κ) : (recent ks).Nodup := by
  induction ks with
  | nil => exact nodup_nil
  | cons x ks ih => exact nodup_cons.mpr ⟨by simp, ih.filter _⟩

/-- There are as many recent keys as different ones. -/
theorem length_recent (ks : List κ) : (recent ks).length = ks.toFinset.card := by
  rw [← toFinset_card_of_nodup (nodup_recent ks)]
  congr 1
  ext k
  rw [mem_toFinset, mem_toFinset, mem_recent]

theorem recent_append (as bs : List κ) :
    recent (as ++ bs) = recent as ++ (recent bs).filter (· ∉ as) := by
  induction as with
  | nil => simp [recent]
  | cons x as ih =>
    have hb : ((recent bs).filter (· ∉ as)).filter (· ≠ x) =
        (recent bs).filter (· ∉ x :: as) := by
      rw [filter_filter]
      simp [not_or]
    rw [cons_append, recent, ih, filter_append, hb]
    rfl

/-- Cutting an order and dropping a key within the cut. -/
theorem filter_take_of_mem {r : List κ} (hr : r.Nodup) (hk : k ∈ r.take (n + 1)) :
    (r.take (n + 1)).filter (· ≠ k) = (r.filter (· ≠ k)).take n := by
  induction r generalizing n with
  | nil => simp at hk
  | cons x r ih =>
    obtain ⟨hx, hr⟩ := nodup_cons.mp hr
    by_cases hxk : x = k
    · subst hxk
      have ha : ∀ y ∈ r, y ≠ x := fun y hy hyx => hx (hyx ▸ hy)
      have hc : (r.take n).filter (· ≠ x) = r.take n :=
        filter_eq_self.mpr fun y hy => by simpa using ha y (mem_of_mem_take hy)
      have hfu : r.filter (· ≠ x) = r :=
        filter_eq_self.mpr fun y hy => by simpa using ha y hy
      rw [take_succ_cons, filter_cons_of_neg (by simp), hc, filter_cons_of_neg (by simp), hfu]
    · rw [take_succ_cons, mem_cons] at hk
      have hk' : k ∈ r.take n := hk.resolve_left fun h => hxk h.symm
      cases n with
      | zero => simp at hk'
      | succ n =>
        rw [take_succ_cons, filter_cons_of_pos (by simpa using hxk), ih hr hk',
          filter_cons_of_pos (by simpa using hxk), take_succ_cons]

/-- Cutting an order before a key. -/
theorem take_filter_of_not_mem {r : List κ} (hk : k ∉ r.take n) :
    (r.filter (· ≠ k)).take n = r.take n := by
  induction r generalizing n with
  | nil => simp
  | cons x r ih =>
    cases n with
    | zero => simp
    | succ n =>
      rw [take_succ_cons, mem_cons, not_or] at hk
      rw [filter_cons_of_pos (by simpa using Ne.symm hk.1), take_succ_cons, ih hk.2, take_succ_cons]

/-- **The order of the index** is that of the recent keys, cut at the bound. -/
theorem touch_order (ks : List κ) (k : κ) :
    (touch ((recent ks).take (n + 1)) k (n + 1)).order = (recent (k :: ks)).take (n + 1) := by
  have hnd := nodup_recent ks
  rw [recent, take_succ_cons]
  by_cases hk : k ∈ (recent ks).take (n + 1)
  · rw [touch, if_pos hk]
    dsimp only
    rw [(hnd.sublist (take_sublist _ _)).erase_eq_filter, ← filter_take_of_mem hnd hk]
    congr 1
    refine filter_congr fun y _ => ?_
    by_cases hy : y = k <;> simp [hy]
  rw [touch, if_neg hk]
  have hc : k ∉ (recent ks).take n := fun h =>
    hk (take_subset_take_left _ (Nat.le_succ n) h)
  rw [take_filter_of_not_mem hc]
  split
  · next hlen =>
    have hsh : (recent ks).length ≤ n := by
      rw [length_take] at hlen
      omega
    rw [take_of_length_le hsh, take_of_length_le (by omega)]
  · next hlen =>
    have hl : n < (recent ks).length := by
      rw [length_take] at hlen
      omega
    have hne : (recent ks).take (n + 1) ≠ [] := by
      intro hn
      rw [← length_eq_zero_iff] at hn
      omega
    have hmin : min (min (n + 1) (recent ks).length - 1) (n + 1) = n := by omega
    rw [dropLast_cons_of_ne_nil hne, dropLast_eq_take, length_take, take_take, hmin]

omit [DecidableEq κ] in
theorem mem_dropLast_iff {x : κ} (hnd : ks.Nodup) (hne : ks ≠ []) :
    x ∈ ks.dropLast ↔ x ∈ ks ∧ x ≠ ks.getLast hne :=
  ⟨fun hx => ⟨mem_of_mem_dropLast hx, hnd.rel_dropLast_getLast hx⟩,
    fun hx => mem_dropLast_of_mem_of_ne_getLast hx.1 hx.2⟩

/-- The index holds the key and everything that was not evicted. -/
theorem mem_touch {order : List κ} {x : κ} (hnd : order.Nodup) (hn : 0 < n) :
    x ∈ (touch order k n).order ↔ x = k ∨ x ∈ order ∧ (touch order k n).evicted ≠ some x := by
  unfold touch
  split
  · by_cases hx : x = k
    · simp [hx]
    · simp [hx, mem_erase_of_ne hx]
  next hk =>
  split
  · simp
  next hlen =>
  have hne : order ≠ [] := by
    rintro rfl
    simp at hlen
    omega
  have hl : (k :: order).getLast? = some (order.getLast hne) := by
    rw [List.getLast?_cons_of_ne_nil hne, List.getLast?_eq_getLast_of_ne_nil hne]
  rw [hl, dropLast_cons_of_ne_nil hne, mem_cons, mem_dropLast_iff hnd hne, ne_comm, ne_eq, ne_eq,
    Option.some.injEq]

/-- **Which keys are left**: those after whose last use fewer than `n` other keys were used. -/
theorem mem_take_recent :
    k ∈ (recent ks).take n ↔ k ∈ ks ∧ (recent (ks.takeWhile (· ≠ k))).length < n := by
  by_cases hk : k ∈ ks
  · have ha : k ∉ recent (ks.takeWhile (· ≠ k)) := by
      rw [mem_recent]
      intro h
      simpa using mem_takeWhile_imp h
    obtain ⟨rest, hre⟩ : ∃ rest, recent ks =
        recent (ks.takeWhile (· ≠ k)) ++ k :: rest := by
      have hdr : ∃ old, ks.dropWhile (· ≠ k) = k :: old := by
        cases hd : ks.dropWhile (· ≠ k) with
        | nil =>
          rw [dropWhile_eq_nil_iff] at hd
          simpa using hd k hk
        | cons x old =>
          have hx := List.head?_dropWhile_not (· ≠ k) ks
          rw [hd] at hx
          exact ⟨old, by simpa using hx⟩
      obtain ⟨old, hold⟩ := hdr
      conv => enter [1, rest, 1, 1]; rw [← takeWhile_append_dropWhile (p := (· ≠ k)) (l := ks)]
      rw [hold, recent_append, recent, filter_cons_of_pos]
      · exact ⟨_, rfl⟩
      · rw [mem_recent] at ha
        simpa using ha
    rw [hre]
    constructor
    · intro h
      refine ⟨hk, ?_⟩
      by_contra hl
      rw [take_append_of_le_length (Nat.le_of_not_lt hl)] at h
      exact ha (mem_of_mem_take h)
    · rintro ⟨-, hl⟩
      rw [take_append]
      obtain ⟨m, hm⟩ : ∃ m, n - (recent (ks.takeWhile (· ≠ k))).length = m + 1 :=
        ⟨_, (Nat.succ_pred_eq_of_pos (Nat.sub_pos_of_lt hl)).symm⟩
      rw [hm]
      exact mem_append_right _ mem_cons_self
  · constructor
    · intro h
      exact absurd (mem_recent.mp (mem_of_mem_take h)) hk
    · exact fun h => absurd h.1 hk

end Data.Lru
