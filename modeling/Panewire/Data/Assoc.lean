import Mathlib.Data.List.Basic

/-!
# Maps as association lists

The few operations of a map that a program uses, on lists of pairs; a later entry for the same key
is never read.
-/

namespace Data.Assoc

variable {κ ν : Type} [DecidableEq κ]

variable (m : List (κ × ν))

/-- The value at a key. -/
def get (k : κ) : Option ν := (m.find? fun e => e.1 = k).map (·.2)

theorem mem_of_get {m : List (κ × ν)} {k : κ} {v : ν} (h : get m k = some v) : (k, v) ∈ m := by
  obtain ⟨e, he, rfl⟩ := Option.map_eq_some_iff.mp h
  have hk : e.1 = k := by simpa using List.find?_some he
  exact hk ▸ List.mem_of_find?_eq_some he

/-- The map without a key. -/
def del (k : κ) : List (κ × ν) := m.filter fun e => e.1 ≠ k

/-- Set the value at a key. -/
def put (k : κ) (v : ν) : List (κ × ν) := (k, v) :: del m k

/-- The entries that can be read. -/
def entries [DecidableEq ν] : List (κ × ν) :=
  m.filter fun e => get m e.1 = some e.2

theorem get_of_mem_entries [DecidableEq ν] {m : List (κ × ν)} {e : κ × ν} (h : e ∈ entries m) :
    get m e.1 = some e.2 := by
  simpa using (List.mem_filter.mp h).2

theorem get_filter (p : κ → Bool) (m : List (κ × ν)) (k : κ) :
    get (m.filter fun e => p e.1) k = if p k then get m k else none := by
  unfold get
  rw [List.find?_filter]
  by_cases hp : p k = true
  · rw [if_pos hp]
    congr 2
    funext e
    by_cases he : e.1 = k
    · simp [he, hp]
    · simp [he]
  · rw [if_neg hp, Option.map_eq_none_iff, List.find?_eq_none]
    intro e _
    by_cases he : e.1 = k
    · simp [he, hp]
    · simp [he]

theorem get_del (k k' : κ) : get (del m k) k' = if k = k' then none else get m k' := by
  have hdel : del m k = m.filter fun e => decide (e.1 ≠ k) := rfl
  rw [hdel, get_filter (fun x => decide (x ≠ k))]
  by_cases hk : k = k'
  · simp [hk]
  · simp [hk, Ne.symm hk]

theorem get_foldl_del (ks : List κ) (k : κ) :
    get (ks.foldl del m) k = if k ∈ ks then none else get m k := by
  induction ks generalizing m with
  | nil => simp
  | cons k' ks ih =>
    rw [List.foldl_cons, ih, get_del]
    by_cases hk : k' = k
    · simp [hk]
    · simp [hk, Ne.symm hk]

theorem get_cons_of_ne {k k' : κ} {v : ν} (hk : k ≠ k') : get ((k, v) :: m) k' = get m k' := by
  unfold get
  rw [List.find?_cons_of_neg (by simpa using hk)]

/-- Every element has the value of its key in a map made of a list. -/
theorem get_map_key {α : Type} (key : α → κ) (f : κ → ν) {l : List α} {a : α} (ha : a ∈ l) :
    get (l.map fun a => (key a, f (key a))) (key a) = some (f (key a)) := by
  induction l with
  | nil => cases ha
  | cons b l ih =>
    rw [List.map_cons]
    by_cases hk : key b = key a
    · simp [get, hk]
    · rw [get_cons_of_ne _ hk]
      exact ih ((List.mem_cons.mp ha).resolve_left fun h => hk (h ▸ rfl))

theorem get_put (k k' : κ) (v : ν) : get (put m k v) k' = if k = k' then some v else get m k' := by
  by_cases hk : k = k'
  · simp [put, get, hk]
  · rw [put, get_cons_of_ne _ hk, get_del, if_neg hk, if_neg hk]

/-- Change every value. -/
def mapValues (f : κ → ν → ν) (m : List (κ × ν)) : List (κ × ν) := m.map fun e => (e.1, f e.1 e.2)

theorem get_mapValues (f : κ → ν → ν) (m : List (κ × ν)) (k : κ) :
    get (mapValues f m) k = (get m k).map (f k) := by
  induction m with
  | nil => rfl
  | cons e m ih =>
    by_cases he : e.1 = k
    · simp [mapValues, get, he]
    · simpa [mapValues, get, he] using ih

end Data.Assoc
