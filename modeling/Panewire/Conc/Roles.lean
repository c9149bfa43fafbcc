import Mathlib.Data.List.Basic

/-!
# Counting roles

Invariants about the list of all roles mostly say that no thread, or at most one, is in some
kind of role. `AtMostOne` is that notion for a list whose entries change in place.
-/

namespace Conc

open List

variable {G : Type} {p : G → Prop} {gs : List G} {g g' a : G} {i : ℕ} {q : G → Prop}

/-- At most one place of the list satisfies `p`. -/
def AtMostOne (p : G → Prop) (gs : List G) : Prop :=
  ∀ (i j : ℕ) (a b : G), gs[i]? = some a → gs[j]? = some b → p a → p b → i = j

theorem set_eq_self (h : gs[i]? = some g) : gs.set i g = gs := by
  obtain ⟨hlt, rfl⟩ := List.getElem?_eq_some_iff.mp h
  exact set_getElem_self hlt

/-- An entry of an updated list is the new one, at its place, or an old one elsewhere. -/
theorem getElem?_set_cases {j : ℕ} (h : (gs.set i g)[j]? = some a) :
    (j = i ∧ a = g) ∨ (j ≠ i ∧ gs[j]? = some a) := by
  by_cases hij : j = i
  · subst hij
    rw [List.getElem?_set_self'] at h
    obtain ⟨_, _, rfl⟩ := Option.map_eq_some_iff.mp h
    exact .inl ⟨rfl, rfl⟩
  · rw [List.getElem?_set_ne (Ne.symm hij)] at h
    exact .inr ⟨hij, h⟩

/-- An element of an updated list is the new one or an old one. -/
theorem mem_set_cases (h : a ∈ gs.set i g) : a = g ∨ a ∈ gs :=
  (mem_or_eq_of_mem_set h).symm

theorem forall_mem_set (h : ∀ a ∈ gs, q a) (hg : q g) : ∀ a ∈ gs.set i g, q a := by
  intro a ha
  rcases mem_set_cases ha with rfl | ha
  · exact hg
  · exact h a ha

theorem forall_mem_concat (h : ∀ a ∈ gs, q a) (hg : q g) : ∀ a ∈ gs ++ [g], q a :=
  forall_mem_append.mpr ⟨h, forall_mem_singleton.mpr hg⟩

/-- What holds of every entry after an update held of every entry before it, if it did of the
one that was replaced. -/
theorem forall_of_forall_set (hi : gs[i]? = some g) (h : ∀ a ∈ gs.set i g', q a) (hq : q g' → q g) :
    ∀ a ∈ gs, q a := by
  obtain ⟨hlt, _⟩ := List.getElem?_eq_some_iff.mp hi
  intro a ha
  obtain ⟨j, hj⟩ := List.getElem?_of_mem ha
  by_cases hij : j = i
  · rw [hij, hi, Option.some.injEq] at hj
    rw [← hj]
    exact hq (h g' (mem_set hlt g'))
  · refine h a (mem_of_getElem? (i := j) ?_)
    rwa [List.getElem?_set_ne (Ne.symm hij)]

/-- The new entry is in the updated list. -/
theorem mem_set_self (g' : G) (hi : gs[i]? = some g) : g' ∈ gs.set i g' := by
  obtain ⟨hlt, _⟩ := List.getElem?_eq_some_iff.mp hi
  exact mem_set hlt g'

section Count

variable {c : G → Bool} {i : ℕ} {g g' : G}

theorem countP_set_of_eq (h : gs[i]? = some g) (heq : c g' = c g) :
    (gs.set i g').countP c = gs.countP c := by
  obtain ⟨hlt, rfl⟩ := List.getElem?_eq_some_iff.mp h
  have hp : c gs[i] = true → 0 < gs.countP c := fun hc =>
    countP_pos_iff.mpr ⟨_, getElem_mem hlt, hc⟩
  rw [countP_set hlt, heq]
  by_cases hc : c gs[i] = true
  · have := hp hc
    simp only [hc, if_true]
    omega
  · simp [hc]

theorem countP_set_of_drop (h : gs[i]? = some g) (hg : c g = true) (hg' : c g' = false) :
    (gs.set i g').countP c = gs.countP c - 1 := by
  obtain ⟨hlt, rfl⟩ := List.getElem?_eq_some_iff.mp h
  rw [countP_set hlt, hg, hg']
  simp

theorem countP_set_le (h : gs[i]? = some g) (c : G → Bool) (g' : G) :
    (gs.set i g').countP c ≤ gs.countP c + 1 := by
  obtain ⟨hlt, rfl⟩ := List.getElem?_eq_some_iff.mp h
  rw [countP_set hlt]
  split <;> split <;> omega

end Count

namespace AtMostOne

theorem of_only (i : ℕ) (h : ∀ j a, gs[j]? = some a → p a → j = i) : AtMostOne p gs :=
  fun j k a b hj hk ha hb => (h j a hj ha).trans (h k b hk hb).symm

theorem set_of_not (h : AtMostOne p gs) (i : ℕ) (hg : ¬ p g) : AtMostOne p (gs.set i g) := by
  intro j k a b hj hk ha hb
  obtain ⟨_, rfl⟩ | ⟨_, hj⟩ := getElem?_set_cases hj
  · exact absurd ha hg
  · obtain ⟨_, rfl⟩ | ⟨_, hk⟩ := getElem?_set_cases hk
    · exact absurd hb hg
    · exact h j k a b hj hk ha hb

/-- The one place may change within `p`. -/
theorem set_of_mem (h : AtMostOne p gs) (hi : gs[i]? = some g) (hg : p g) :
    AtMostOne p (gs.set i g') := by
  refine of_only i fun j a hj ha => ?_
  obtain ⟨hji, _⟩ | ⟨_, hj⟩ := getElem?_set_cases hj
  · exact hji
  · exact h j i a g hj hi ha hg

/-- The place changes without newly satisfying `p`. -/
theorem set_of_imp (h : AtMostOne p gs) (hi : gs[i]? = some g) (himp : p g' → p g) :
    AtMostOne p (gs.set i g') := by
  by_cases hg : p g
  · exact h.set_of_mem hi hg
  · exact h.set_of_not i fun hg' => hg (himp hg')

/-- When the place satisfied `p`, only its new entry can satisfy it afterwards. -/
theorem eq_of_mem_set (h : AtMostOne p gs) (hi : gs[i]? = some g) (hg : p g)
    (ha : a ∈ gs.set i g') (hp : p a) : a = g' := by
  obtain ⟨j, hj⟩ := List.getElem?_of_mem ha
  obtain ⟨_, rfl⟩ | ⟨hne, hj⟩ := getElem?_set_cases hj
  · rfl
  · exact absurd (h j i a g hj hi hp hg) hne

/-- The first place to satisfy `p`. -/
theorem set_first (h : ∀ g ∈ gs, ¬ p g) (i : ℕ) (g' : G) : AtMostOne p (gs.set i g') := by
  refine of_only i fun j a hj ha => ?_
  obtain ⟨hji, _⟩ | ⟨_, hj⟩ := getElem?_set_cases hj
  · exact hji
  · exact absurd ha (h a (mem_of_getElem? hj))

theorem concat_of_not (h : AtMostOne p gs) (hg : ¬ p g) : AtMostOne p (gs ++ [g]) := by
  have old : ∀ (j : ℕ) (a : G), (gs ++ [g])[j]? = some a → p a → gs[j]? = some a := by
    intro j a hj ha
    rcases Nat.lt_trichotomy j gs.length with hlt | heq | hgt
    · rwa [List.getElem?_append_left hlt] at hj
    · subst heq
      rw [List.getElem?_concat_length, Option.some.injEq] at hj
      exact absurd (hj ▸ ha) hg
    · rw [List.getElem?_eq_none (by simp; omega)] at hj
      cases hj
  intro j k a b hj hk ha hb
  exact h j k a b (old j a hj ha) (old k b hk hb) ha hb

/-- Whoever satisfies `p` sits at the known place. -/
theorem eq_of_mem (h : AtMostOne p gs) (hi : gs[i]? = some g) (hg : p g) (ha : a ∈ gs) (hp : p a) :
    a = g := by
  obtain ⟨j, hj⟩ := List.getElem?_of_mem ha
  have hji := h j i a g hj hi hp hg
  rw [hji, hi, Option.some.injEq] at hj
  exact hj.symm

theorem nil : AtMostOne p [] := by
  intro i j a b hi
  simp at hi

end AtMostOne

end Conc
