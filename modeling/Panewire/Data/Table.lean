import Mathlib.Data.List.Nodup
import Mathlib.Data.List.Sort

/-!
# Tables with a unique key

A database table as a list of rows whose keys are pairwise different. The constraint is a field,
so every operation that returns a table keeps it, and code that reads several rows at once gets
distinct keys from the table alone.
-/

namespace Data

open List

/-- Rows with pairwise different keys. -/
structure Table {α κ : Type} (key : α → κ) where
  rows : List α
  /-- the unique constraint -/
  nodup : (rows.map key).Nodup

namespace Table

variable {α κ : Type} {key : α → κ} {t : Table key} {a b : α} {f : α → α} {p : α → Bool}

instance : Membership α (Table key) := ⟨fun t a => a ∈ t.rows⟩

instance [DecidableEq α] : Decidable (a ∈ t) := inferInstanceAs (Decidable (a ∈ t.rows))

@[simp] theorem mem_rows : a ∈ t.rows ↔ a ∈ t := Iff.rfl

/-- No rows. -/
def empty : Table key := ⟨[], by simp⟩

@[simp] theorem not_mem_empty : a ∉ (empty : Table key) := not_mem_nil

/-- Two rows with one key are one row. -/
theorem eq_of_key (ha : a ∈ t) (hb : b ∈ t) (h : key a = key b) : a = b :=
  inj_on_of_nodup_map t.nodup ha hb h

/-- Delete the rows that satisfy `p`. -/
def deleteWhere (t : Table key) (p : α → Bool) : Table key :=
  ⟨t.rows.filter fun a => !p a, t.nodup.sublist (List.filter_sublist.map key)⟩

@[simp] theorem mem_deleteWhere : a ∈ t.deleteWhere p ↔ a ∈ t ∧ p a = false := by
  show a ∈ t.rows.filter _ ↔ _
  simp

/-- Change rows without changing their keys. -/
def update (t : Table key) (f : α → α) (hf : ∀ a, key (f a) = key a) : Table key :=
  ⟨t.rows.map f, by
    have : (t.rows.map f).map key = t.rows.map key := by
      rw [List.map_map]; exact List.map_congr_left fun a _ => hf a
    rw [this]; exact t.nodup⟩

@[simp] theorem mem_update {hf : ∀ a, key (f a) = key a} :
    a ∈ t.update f hf ↔ ∃ b ∈ t, f b = a := by
  show a ∈ t.rows.map f ↔ _
  simp

/-- `UPDATE … WHERE p`: change the rows that satisfy `p`, keeping their keys. -/
def updateWhere (t : Table key) (p : α → Bool) (f : α → α) (hf : ∀ a, key (f a) = key a) :
    Table key :=
  t.update (fun a => if p a then f a else a) (by intro a; split <;> simp [hf])

/-- A row after the update is a changed row that satisfied `p` or an old row that did not. -/
theorem mem_updateWhere {hf : ∀ a, key (f a) = key a} :
    a ∈ t.updateWhere p f hf ↔ (∃ b ∈ t, p b = true ∧ f b = a) ∨ (a ∈ t ∧ p a = false) := by
  rw [updateWhere, mem_update]
  constructor
  · rintro ⟨b, hb, rfl⟩
    by_cases hp : p b = true
    · exact .inl ⟨b, hb, hp, by rw [if_pos hp]⟩
    · rw [if_neg hp]
      exact .inr ⟨hb, by simpa using hp⟩
  · rintro (⟨b, hb, hp, rfl⟩ | ⟨ha, hp⟩)
    · exact ⟨b, hb, by rw [if_pos hp]⟩
    · exact ⟨a, ha, by rw [if_neg (by simp [hp])]⟩

section Insert

variable [DecidableEq κ]

/-- The row with a key. -/
def find (t : Table key) (k : κ) : Option α := t.rows.find? fun a => key a = k

theorem mem_of_find {k : κ} (h : t.find k = some a) : a ∈ t ∧ key a = k :=
  ⟨mem_of_find?_eq_some h, by simpa using List.find?_some h⟩

theorem find_eq_none {k : κ} : t.find k = none ↔ ∀ a ∈ t, key a ≠ k := by
  show t.rows.find? _ = none ↔ _
  simp [List.find?_eq_none]

theorem find_of_mem (h : a ∈ t) : t.find (key a) = some a := by
  cases hf : t.find (key a) with
  | none => exact absurd rfl (find_eq_none.mp hf a h)
  | some b =>
    obtain ⟨hb, hk⟩ := mem_of_find hf
    rw [eq_of_key hb h hk]

theorem find_update {hf : ∀ a, key (f a) = key a} (k : κ) :
    (t.update f hf).find k = (t.find k).map f := by
  show (t.rows.map f).find? _ = (t.rows.find? _).map f
  rw [List.find?_map]
  congr 2
  funext a
  simp [hf]

theorem find_updateWhere {hf : ∀ a, key (f a) = key a} (k : κ) :
    (t.updateWhere p f hf).find k = (t.find k).map fun a => if p a then f a else a :=
  find_update k

/-- `INSERT … ON CONFLICT DO NOTHING`: the table and whether a row was added. -/
def insertNew (t : Table key) (a : α) : Table key × Bool :=
  if h : key a ∈ t.rows.map key then (t, false)
  else (⟨t.rows ++ [a], by
    rw [List.map_append, List.map_singleton, ← List.concat_eq_append]
    exact t.nodup.concat h⟩, true)

/-- **What an insert does**: nothing when the key is taken, one more row otherwise. -/
theorem insertNew_cases (t : Table key) (a : α) :
    (t.insertNew a = (t, false) ∧ ∃ b ∈ t, key b = key a) ∨
    ((t.insertNew a).2 = true ∧ (∀ b ∈ t, key b ≠ key a) ∧
      ∀ b, b ∈ (t.insertNew a).1 ↔ b ∈ t ∨ b = a) := by
  unfold insertNew
  split
  · next h =>
    obtain ⟨b, hb, hk⟩ := mem_map.mp h
    exact .inl ⟨rfl, b, hb, hk⟩
  · next h =>
    refine .inr ⟨rfl, fun b hb hk => h (mem_map.mpr ⟨b, hb, hk⟩), fun b => ?_⟩
    show b ∈ t.rows ++ [a] ↔ _
    simp

theorem mem_insertNew (h : b ∈ (t.insertNew a).1) : b ∈ t ∨ b = a := by
  rcases t.insertNew_cases a with ⟨heq, -⟩ | ⟨-, -, hmem⟩
  · rw [heq] at h
    exact .inl h
  · exact (hmem b).mp h

/-- The key of a row that was added was free. -/
theorem find_none_of_insertNew {t' : Table key} (h : t.insertNew a = (t', true)) :
    t.find (key a) = none := by
  rcases t.insertNew_cases a with ⟨heq, -⟩ | ⟨-, hfree, -⟩
  · rw [heq] at h
    cases h
  · exact find_eq_none.mpr hfree

/-- A row with a new key goes to the end. -/
theorem insertNew_rows (h : t.find (key a) = none) : (t.insertNew a).1.rows = t.rows ++ [a] := by
  have hkey : key a ∉ t.rows.map key := by
    intro hmem
    obtain ⟨b, hb, hk⟩ := mem_map.mp hmem
    exact find_eq_none.mp h b hb hk
  rw [insertNew, dif_neg hkey]

theorem find_insertNew (h : t.find (key a) = none) (k : κ) :
    (t.insertNew a).1.find k = if key a = k then some a else t.find k := by
  show (t.insertNew a).1.rows.find? _ = _
  rw [insertNew_rows h, List.find?_append]
  by_cases hk : key a = k
  · have hn : t.rows.find? (fun b => key b = k) = none := hk ▸ h
    rw [hn]
    simp [hk]
  · simp [hk, find]

end Insert

section Sorted

variable [LinearOrder κ]

/-- The rows in key order. -/
def sorted (t : Table key) : List α := t.rows.insertionSort fun a b => key a ≤ key b

@[simp] theorem mem_sorted : a ∈ t.sorted ↔ a ∈ t := (perm_insertionSort _ _).mem_iff

theorem nodup_sorted (t : Table key) : (t.sorted.map key).Nodup :=
  (Perm.nodup_iff ((perm_insertionSort _ _).map key)).mpr t.nodup

theorem pairwise_sorted (t : Table key) : t.sorted.Pairwise fun a b => key a ≤ key b :=
  pairwise_insertionSort _ _

end Sorted

end Table

end Data
