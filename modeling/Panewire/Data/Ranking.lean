import Mathlib.Data.Prod.Lex
import Mathlib.Data.List.Sort
import Mathlib.Order.Antisymmetrization

/-!
# Sorting by a comparison that may fail

A comparison answers an `Ordering`, or `none` where the program would crash. It is a **strict weak
order** on a set when it always answers there, is antisymmetric, and both its *less* and its *tie*
are transitive. The sort is stable insertion, which crashes as soon as a comparison does.

* a comparison that agrees with a lawful one is a strict weak order;
* it then sorts every list, and two arrangements of the same elements are sorted to lists that
  **tie position by position**.
-/

namespace Data

open List

variable {α : Type}

/-- What a sort needs of its comparison on the elements of `S`. -/
structure StrictWeak (cmp : α → α → Option Ordering) (S : α → Prop) : Prop where
  answers : ∀ x y, S x → S y → (cmp x y).isSome = true
  irrefl : ∀ x, S x → cmp x x = some .eq
  swap : ∀ x y o, S x → S y → cmp x y = some o → cmp y x = some o.swap
  less_trans : ∀ x y z, S x → S y → S z →
    cmp x y = some .lt → cmp y z = some .lt → cmp x z = some .lt
  tie_trans : ∀ x y z, S x → S y → S z →
    cmp x y = some .eq → cmp y z = some .eq → cmp x z = some .eq

/-- The comparison answers as the lawful `order` does. -/
def Agrees (cmp : α → α → Option Ordering) (order : α → α → Ordering) (S : α → Prop) : Prop :=
  ∀ x y, S x → S y → cmp x y = some (order x y)

theorem Agrees.strictWeak {cmp : α → α → Option Ordering} {order : α → α → Ordering}
    [Std.TransCmp order] {S : α → Prop} (h : Agrees cmp order S) : StrictWeak cmp S where
  answers x y hx hy := by rw [h x y hx hy]; rfl
  irrefl x hx := by
    have hs : order x x = .eq := Std.ReflCmp.compare_self
    rw [h x x hx hx, hs]
  swap x y o hx hy hxy := by
    have hfl : order y x = (order x y).swap := Std.OrientedCmp.eq_swap
    rw [h x y hx hy, Option.some.injEq] at hxy
    rw [h y x hy hx, ← hxy, hfl]
  less_trans x y z hx hy hz hxy hyz := by
    rw [h x y hx hy, Option.some.injEq] at hxy
    rw [h y z hy hz, Option.some.injEq] at hyz
    rw [h x z hx hz, Std.TransCmp.lt_trans hxy hyz]
  tie_trans x y z hx hy hz hxy hyz := by
    rw [h x y hx hy, Option.some.injEq] at hxy
    rw [h y z hy hz, Option.some.injEq] at hyz
    rw [h x z hx hz, Std.TransCmp.eq_trans hxy hyz]

/-- Compares by a key. -/
def onKey {β : Type} (order : β → β → Ordering) (key : α → β) (x y : α) : Ordering :=
  order (key x) (key y)

instance {β : Type} {order : β → β → Ordering} [Std.TransCmp order] {key : α → β} :
    Std.TransCmp (onKey order key) where
  eq_swap {a b} :=
    (Std.OrientedCmp.eq_swap : order (key a) (key b) = (order (key b) (key a)).swap)
  isLE_trans {a b c} hab hbc := by
    have trans : ∀ {a b c : β}, (order a b).isLE = true → (order b c).isLE = true →
        (order a c).isLE = true := Std.TransCmp.isLE_trans
    exact trans hab hbc

/-! ## The sort -/

/-- Moves `x` down from the end of the sorted elements, given last first, past each greater one. -/
def insertLast (cmp : α → α → Option Ordering) (x : α) : List α → Option (List α)
  | [] => some [x]
  | y :: sorted => do
    let o ← cmp x y
    if o = Ordering.lt then return y :: (← insertLast cmp x sorted)
    else return x :: y :: sorted

/-- Inserts the elements one after another. -/
def stableSort (cmp : α → α → Option Ordering) (l : List α) : Option (List α) :=
  (l.foldlM (fun sorted x => insertLast cmp x sorted) []).map List.reverse

variable {cmp : α → α → Option Ordering} {order : α → α → Ordering} {S : α → Prop}

/-- Sorted from the last element to the first. -/
def Descends (order : α → α → Ordering) (l : List α) : Prop :=
  l.Pairwise fun a b => (order b a).isLE = true

theorem insertLast_spec [Std.TransCmp order] (h : Agrees cmp order S) {x : α} (hx : S x) :
    ∀ {sorted : List α}, (∀ y ∈ sorted, S y) → Descends order sorted →
      ∃ out, insertLast cmp x sorted = some out ∧ out.Perm (x :: sorted) ∧ Descends order out := by
  intro sorted
  induction sorted with
  | nil => exact fun _ _ => ⟨[x], rfl, .refl _, pairwise_singleton _ _⟩
  | cons y sorted ih =>
    intro hS hde
    obtain ⟨hy, hs⟩ := forall_mem_cons.mp hS
    obtain ⟨hb, hde'⟩ := pairwise_cons.mp hde
    simp only [insertLast, h x y hx hy, Option.bind_eq_bind, Option.bind_some]
    by_cases hlt : order x y = .lt
    · obtain ⟨out, ho, hp, hdo⟩ := ih hs hde'
      refine ⟨y :: out, by simp [hlt, ho],
        (hp.cons y).trans (.swap x y sorted), pairwise_cons.mpr ⟨?_, hdo⟩⟩
      intro z hz
      rcases mem_cons.mp (hp.mem_iff.mp hz) with rfl | hz
      · rw [hlt]; rfl
      · exact hb z hz
    · have hyx : (order y x).isLE = true := by
        have hfl : order y x = (order x y).swap := Std.OrientedCmp.eq_swap
        rw [hfl]
        cases hxy : order x y with
        | lt => exact absurd hxy hlt
        | eq | gt => rfl
      refine ⟨x :: y :: sorted, by simp [hlt], .refl _, pairwise_cons.mpr ⟨?_, hde⟩⟩
      intro z hz
      rcases mem_cons.mp hz with rfl | hz
      · exact hyx
      · exact Std.TransCmp.isLE_trans (hb z hz) hyx

theorem foldlM_insertLast_spec [Std.TransCmp order] (h : Agrees cmp order S) :
    ∀ {l sorted : List α}, (∀ x ∈ l, S x) → (∀ y ∈ sorted, S y) → Descends order sorted →
      ∃ out, l.foldlM (fun sorted x => insertLast cmp x sorted) sorted = some out ∧
        out.Perm (l ++ sorted) ∧ Descends order out := by
  intro l
  induction l with
  | nil => exact fun _ _ hde => ⟨_, rfl, .refl _, hde⟩
  | cons x l ih =>
    intro sorted hl hs hde
    obtain ⟨hx, hl⟩ := forall_mem_cons.mp hl
    obtain ⟨next, hn, hp, hdo⟩ := insertLast_spec h hx hs hde
    have hnex : ∀ y ∈ next, S y := fun y hy =>
      (mem_cons.mp (hp.mem_iff.mp hy)).elim (fun hyx => hyx ▸ hx) (hs y)
    obtain ⟨out, ho, hp', hdo'⟩ := ih hl hnex hdo
    refine ⟨out, by simpa [foldlM_cons, hn] using ho, ?_, hdo'⟩
    exact (hp'.trans (hp.append_left l)).trans perm_middle

/-- **The sort succeeds** on the elements the comparison answers for. -/
theorem stableSort_spec [Std.TransCmp order] (h : Agrees cmp order S) {l : List α}
    (hl : ∀ x ∈ l, S x) :
    ∃ out, stableSort cmp l = some out ∧ out.Perm l ∧
      out.Pairwise fun a b => (order a b).isLE = true := by
  obtain ⟨out, ho, hp, hdo⟩ := foldlM_insertLast_spec h hl
    (fun _ hy => absurd hy not_mem_nil) (List.Pairwise.nil : Descends order [])
  refine ⟨out.reverse, by rw [stableSort, ho]; rfl, ?_, pairwise_reverse.mpr hdo⟩
  rw [append_nil] at hp
  exact out.reverse_perm.trans hp

/-- Two sorted arrangements of the same elements **tie position by position**. -/
theorem forall₂_tie_of_perm [Std.TransCmp order] {l₁ l₂ : List α} (hp : l₁.Perm l₂)
    (h₁ : l₁.Pairwise fun a b => (order a b).isLE = true)
    (h₂ : l₂.Pairwise fun a b => (order a b).isLE = true) :
    List.Forall₂ (fun a b => order a b = .eq) l₁ l₂ := by
  -- elements that tie are made equal, and there a sorted arrangement is unique
  let _ : Preorder α :=
    { le a b := (order a b).isLE = true
      le_refl a := by
        have hs : order a a = .eq := Std.ReflCmp.compare_self
        rw [hs]; rfl
      le_trans _ _ _ := Std.TransCmp.isLE_trans }
  let up : α → Antisymmetrization α (· ≤ ·) := toAntisymmetrization (· ≤ ·)
  have hsrt : ∀ l : List α, l.Pairwise (fun a b => (order a b).isLE = true) →
      (l.map up).Pairwise (· ≤ ·) := fun l hl =>
    pairwise_map.mpr (hl.imp fun hab => toAntisymmetrization_le_toAntisymmetrization_iff.mpr hab)
  have heq : l₁.map up = l₂.map up :=
    (hp.map up).eq_of_pairwise (fun _ _ _ _ => le_antisymm) (hsrt l₁ h₁) (hsrt l₂ h₂)
  rw [← List.forall₂_eq_eq_eq, List.forall₂_map_left_iff, List.forall₂_map_right_iff] at heq
  refine heq.imp fun a b hab => ?_
  obtain ⟨hle, hge⟩ := (Quotient.exact hab : AntisymmRel (· ≤ ·) a b)
  exact Std.OrientedCmp.isLE_antisymm hle hge

/-- A lawful tie is a tie of the comparison that agrees. -/
theorem Agrees.forall₂_tie (h : Agrees cmp order S) {l₁ l₂ : List α}
    (ht : List.Forall₂ (fun a b => order a b = .eq) l₁ l₂) (h₁ : ∀ a ∈ l₁, S a)
    (h₂ : ∀ b ∈ l₂, S b) : List.Forall₂ (fun a b => cmp a b = some .eq) l₁ l₂ := by
  induction ht with
  | nil => exact .nil
  | cons htie _ ih =>
    obtain ⟨ha, h₁⟩ := forall_mem_cons.mp h₁
    obtain ⟨hb, h₂⟩ := forall_mem_cons.mp h₂
    exact .cons (by rw [h _ _ ha hb, htie]) (ih h₁ h₂)

end Data
