import Mathlib.Data.List.Sort
import Mathlib.Data.List.Induction

/-!
# The last and the newest entries of a list

* `lastOf` — the **last** entry that passes a test, as a loop that overwrites a variable finds it.
* `highest` — the **highest** number among the entries, as a loop that keeps a maximum finds it.
* `Arranged` — a list sorted by a key, newest first, as a sort that is not stable leaves it: entries
  with the same key come in any order.
* `mem_take_iff` — an entry is among the first `n` of every such arrangement exactly when fewer than
  `n` other entries are as new.
-/

namespace Data

open List

variable {α κ : Type}

/-! ## The last entry that passes -/

/-- The last entry that passes a test. -/
def lastOf (p : α → Bool) (l : List α) : Option α := (l.filter p).getLast?

theorem lastOf_concat (p : α → Bool) (l : List α) (a : α) :
    lastOf p (l ++ [a]) = if p a then some a else lastOf p l := by
  unfold lastOf
  by_cases h : p a = true <;> simp [h]

theorem lastOf_eq_some {p : α → Bool} {l : List α} {a : α} :
    lastOf p l = some a ↔
      p a = true ∧ ∃ before after, l = before ++ a :: after ∧ ∀ b ∈ after, p b = false := by
  induction l using List.reverseRecOn with
  | nil => simp [lastOf]
  | append_singleton l c ih =>
    rw [lastOf_concat]
    by_cases hc : p c = true
    · rw [if_pos hc, Option.some.injEq]
      constructor
      · rintro rfl
        exact ⟨hc, l, [], rfl, fun _ h => absurd h not_mem_nil⟩
      rintro ⟨-, before, after, hl, haft⟩
      rcases eq_nil_or_concat after with rfl | ⟨rest, d, rfl⟩
      · exact (append_inj' hl rfl).2 |> head_eq_of_cons_eq
      · have hd : c = d := by
          have : l ++ [c] = (before ++ a :: rest) ++ [d] := by simpa using hl
          exact head_eq_of_cons_eq (append_inj' this rfl).2
        rw [hd, haft d (by simp)] at hc
        cases hc
    · rw [if_neg hc, ih]
      refine and_congr_right fun ha => ?_
      constructor
      · rintro ⟨before, after, rfl, haft⟩
        refine ⟨before, after ++ [c], by simp, fun b hb => ?_⟩
        rcases mem_append.mp hb with hb | hb
        · exact haft b hb
        · rw [mem_singleton.mp hb]
          exact Bool.eq_false_iff.mpr hc
      · rintro ⟨before, after, hl, haft⟩
        rcases eq_nil_or_concat after with rfl | ⟨rest, d, rfl⟩
        · have : c = a := head_eq_of_cons_eq (append_inj' hl rfl).2
          exact absurd (this ▸ ha) hc
        · have hl' : l ++ [c] = (before ++ a :: rest) ++ [d] := by simpa using hl
          exact ⟨before, rest, (append_inj' hl' rfl).1, fun b hb => haft b (by simp [hb])⟩

/-! ## The highest number -/

section Highest

variable {β : Type} [LinearOrder β]

/-- The highest number that `f` reads from the entries, and at least `b`. -/
def highest (f : α → Option β) (b : β) (l : List α) : β :=
  l.foldl (fun high a => match f a with
    | some n => if n > high then n else high
    | none => high) b

/-- It is not below any of the numbers, and one of them unless it is `b`. -/
theorem highest_spec (f : α → Option β) (b : β) (l : List α) :
    b ≤ highest f b l ∧ (∀ a ∈ l, ∀ n, f a = some n → n ≤ highest f b l) ∧
      (highest f b l = b ∨ ∃ a ∈ l, f a = some (highest f b l)) := by
  induction l generalizing b with
  | nil => exact ⟨le_refl b, fun _ h => absurd h not_mem_nil, .inl rfl⟩
  | cons a l ih =>
    obtain ⟨c, hc, hbc, hac, hone'⟩ : ∃ c, highest f b (a :: l) = highest f c l ∧
        b ≤ c ∧ (∀ n, f a = some n → n ≤ c) ∧ (c = b ∨ f a = some c) := by
      unfold highest
      rw [foldl_cons]
      refine ⟨_, rfl, ?_⟩
      cases f a with
      | none => exact ⟨le_refl b, nofun, .inl rfl⟩
      | some n =>
        dsimp only
        split
        · next hlt => exact ⟨le_of_lt hlt, fun m hm => (Option.some.inj hm).ge, .inr rfl⟩
        · next hle => exact ⟨le_refl b, fun m hm => Option.some.inj hm ▸ not_lt.mp hle, .inl rfl⟩
    obtain ⟨hle, ha, hone⟩ := ih c
    rw [hc]
    refine ⟨hbc.trans hle, ?_, ?_⟩
    · rintro x hx n hn
      rcases mem_cons.mp hx with rfl | hx
      · exact (hac n hn).trans hle
      · exact ha x hx n hn
    · rcases hone with hone | ⟨x, hx, hfx⟩
      · rw [hone]
        exact hone'.imp_right fun hfa => ⟨a, mem_cons_self, hfa⟩
      · exact .inr ⟨x, mem_cons_of_mem _ hx, hfx⟩

end Highest

/-! ## Newest first -/

section Arranged

variable [LinearOrder κ] (key : α → κ)

/-- `sorted` is `l`, newest first; what is as new as another may come before or after it. -/
structure Arranged (l sorted : List α) : Prop where
  perm : sorted.Perm l
  newest : sorted.Pairwise fun a b => key b ≤ key a

/-- The entries by age, newest first. -/
def newestFirst (l : List α) : List α := l.insertionSort fun a b => key b ≤ key a

theorem arranged_newestFirst (l : List α) : Arranged key l (newestFirst key l) where
  perm := perm_insertionSort _ _
  newest := by
    exact pairwise_insertionSort _ _

variable [DecidableEq α] {key}

/-- The other entries that are at least as new. -/
def asNew (key : α → κ) (l : List α) (a : α) : List α := (l.erase a).filter fun b => key a ≤ key b

/-- One arrangement has an entry behind all others that are as new. -/
theorem arranged_behind {l : List α} {a : α} (ha : a ∈ l) :
    ∃ older, Arranged key l (newestFirst key (asNew key l a) ++ a :: older) := by
  have hn := arranged_newestFirst key (asNew key l a)
  have ho := arranged_newestFirst key ((l.erase a).filter fun b => !decide (key a ≤ key b))
  refine ⟨_, ?_, pairwise_append.mpr ⟨hn.newest, pairwise_cons.mpr
    ⟨fun b hb => ?_, ho.newest⟩, fun b hb c hc => ?_⟩⟩
  · -- the newer and the older entries together are all others
    refine perm_middle.trans (.trans (.cons a ?_) (perm_cons_erase ha).symm)
    exact (hn.perm.append ho.perm).trans (filter_append_perm _ _)
  · have := (mem_filter.mp (ho.perm.mem_iff.mp hb)).2
    simp only [Bool.not_eq_true', decide_eq_false_iff_not, not_le] at this
    exact this.le
  · have hba : key a ≤ key b := by
      simpa using (mem_filter.mp (hn.perm.mem_iff.mp hb)).2
    rcases mem_cons.mp hc with rfl | hc
    · exact hba
    · have := (mem_filter.mp (ho.perm.mem_iff.mp hc)).2
      simp only [Bool.not_eq_true', decide_eq_false_iff_not, not_le] at this
      exact this.le.trans hba

/-- **Among the first `n`** of every arrangement are the entries with fewer than `n` others as
new. -/
theorem mem_take_iff {l : List α} (hnd : l.Nodup) {a : α} (ha : a ∈ l) (n : ℕ) :
    (∀ sorted, Arranged key l sorted → a ∈ sorted.take n) ↔ (asNew key l a).length < n := by
  constructor
  · intro hall
    by_contra hma
    obtain ⟨older, harr⟩ :
        ∃ older, Arranged key l (newestFirst key (asNew key l a) ++ a :: older) :=
      arranged_behind ha
    have hmem := hall _ harr
    have hn := (arranged_newestFirst key (asNew key l a)).perm
    rw [take_append_of_le_length (by rw [hn.length_eq]; omega)] at hmem
    have he := (mem_filter.mp (hn.mem_iff.mp (mem_of_mem_take hmem))).1
    exact (hnd.mem_erase_iff.mp he).1 rfl
  · intro hfew sorted hs
    obtain ⟨before, after, rfl⟩ := append_of_mem (hs.perm.mem_iff.mpr ha)
    have hbef : before.length ≤ (asNew key l a).length := by
      have hnd' := hs.perm.nodup_iff.mpr hnd
      rw [nodup_append] at hnd'
      refine (subperm_of_subset hnd'.1 fun b hb => ?_).length_le
      have hne : b ≠ a := hnd'.2.2 b hb a mem_cons_self
      have hle : key a ≤ key b :=
        (pairwise_append.mp hs.newest).2.2 b hb a mem_cons_self
      have hl : b ∈ l := hs.perm.mem_iff.mp (mem_append_left _ hb)
      exact mem_filter.mpr ⟨(mem_erase_of_ne hne).mpr hl, by simpa using hle⟩
    have hone : n - before.length = (n - before.length - 1) + 1 := by omega
    rw [take_append, hone]
    exact mem_append_right _ mem_cons_self

end Arranged

end Data
