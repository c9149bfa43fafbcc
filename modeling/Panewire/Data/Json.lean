import Mathlib.Data.List.Nodup
import Mathlib.Algebra.Group.Int.Defs
import Mathlib.Algebra.GroupWithZero.Nat

/-!
# JSON objects

A message as a decoder sees it: an object whose field names are pairwise different, each with a
value that is read into a string, a boolean or an integer. `null` is accepted by every reader and
leaves the zero value, as Go's `json.Unmarshal` does.

* `Object.ofOptional` — encoding a record: a field with no value (`omitempty`) is left out.
* `Object.put` — adding or replacing one field of an encoded object.
-/

namespace Data

open List

/-- A JSON value, as far as readers of strings, booleans and integers can tell values apart. -/
inductive Json where
  | null
  | bool (b : Bool)
  | num (n : ℤ)
  | str (s : String)
  /-- a fraction, an array or an object: no such reader takes it -/
  | other
  deriving DecidableEq

namespace Json

def string : Json → Option String
  | .str s => some s
  | .null => some ""
  | _ => none

def boolean : Json → Option Bool
  | .bool b => some b
  | .null => some false
  | _ => none

def uint64 : Json → Option ℕ
  | .num n => if 0 ≤ n ∧ n < 2 ^ 64 then some n.toNat else none
  | .null => some 0
  | _ => none

def int64 : Json → Option ℤ
  | .num n => if -2 ^ 63 ≤ n ∧ n < 2 ^ 63 then some n else none
  | .null => some 0
  | _ => none

@[simp] theorem string_str (s : String) : (str s).string = some s := rfl

theorem lt_of_uint64 {v : Json} {n : ℕ} (h : v.uint64 = some n) : n < 2 ^ 64 := by
  unfold uint64 at h
  split at h
  · split at h
    · next hn => obtain ⟨h₀, h₁⟩ := hn; cases h; omega
    · cases h
  · cases h; decide
  · cases h

theorem int64_num {n : ℤ} (h₀ : 0 ≤ n) (h : n < 2 ^ 63) : (num n).int64 = some n := by
  rw [int64, if_pos ⟨by omega, h⟩]

/-- a string under `omitempty` -/
def ofString (s : String) : Option Json := if s = "" then none else some (.str s)

/-- a boolean under `omitempty` -/
def ofBool (b : Bool) : Option Json := if b then some (.bool true) else none

end Json

/-- An object: no two fields share a name. -/
structure Object where
  fields : List (String × Json)
  nodup : (fields.map Prod.fst).Nodup
  deriving DecidableEq

namespace Object

variable {α : Type} {o : Object} {name name' : String} {v : Json}

def size (o : Object) : ℕ := o.fields.length

def names (o : Object) : List String := o.fields.map Prod.fst

def get (o : Object) (name : String) : Option Json := o.fields.lookup name

/-- Read a field that has to be there. -/
def require (o : Object) (name : String) (read : Json → Option α) : Option α :=
  (o.get name).bind read

/-- Read a field that may be absent. -/
def optional (o : Object) (name : String) (read : Json → Option α) (zero : α) : Option α :=
  match o.get name with
  | none => some zero
  | some v => read v

/-! ## Encoding -/

/-- The object of the fields that have a value. -/
def ofOptional (fs : List (String × Option Json)) (h : (fs.map Prod.fst).Nodup) : Object where
  fields := fs.filterMap fun f => f.2.map (f.1, ·)
  nodup := by
    refine h.sublist ?_
    clear h
    induction fs with
    | nil => exact List.Sublist.slnil
    | cons f fs ih =>
      obtain ⟨name, _ | v⟩ := f
      · exact ih.cons name
      · exact ih.cons_cons name

theorem size_ofOptional (fs : List (String × Option Json)) (h : (fs.map Prod.fst).Nodup) :
    (ofOptional fs h).size = fs.countP fun f => f.2.isSome := by
  show (List.filterMap _ fs).length = _
  clear h
  induction fs with
  | nil => rfl
  | cons f fs ih =>
    obtain ⟨name, _ | v⟩ := f
    · simpa using ih
    · simpa using ih

/-- **A field of an encoded record** is there with its value, or left out. -/
theorem get_ofOptional (fs : List (String × Option Json)) (h : (fs.map Prod.fst).Nodup)
    (name : String) : (ofOptional fs h).get name = (fs.lookup name).join := by
  show List.lookup name (List.filterMap _ fs) = _
  induction fs with
  | nil => rfl
  | cons f fs ih =>
    obtain ⟨other, value⟩ := f
    rw [map_cons, nodup_cons] at h
    have ih := ih h.2
    by_cases heq : name = other
    · subst heq
      cases value with
      | some v => simp
      | none =>
        -- the name occurs once, so the rest does not bring it back
        have hre : fs.lookup name = none := by
          rw [lookup_eq_none_iff]
          intro g hg
          have hne : ¬ name = g.1 := fun hn => h.1 (mem_map.mpr ⟨g, hg, hn.symm⟩)
          simp [hne]
        simpa [hre] using ih
    · have hb : (name == other) = false := by simpa using heq
      cases value with
      | some | none => simpa [lookup_cons, hb] using ih

/-- The object without a field. -/
def del (o : Object) (name : String) : Object where
  fields := o.fields.filter fun f => f.1 ≠ name
  nodup := o.nodup.sublist (List.filter_sublist.map _)

theorem get_del_ne (h : name' ≠ name) : (o.del name).get name' = o.get name' := by
  show (o.fields.filter fun f => f.1 ≠ name).lookup name' = o.fields.lookup name'
  induction o.fields with
  | nil => rfl
  | cons f fs ih =>
    by_cases hf : f.1 = name
    · have : (name' == f.1) = false := by simpa [hf] using h
      rw [filter_cons_of_neg (by simpa using hf), lookup_cons, this]
      exact ih
    · rw [filter_cons_of_pos (by simpa using hf), lookup_cons, lookup_cons, ih]

/-- Set one field. -/
def put (o : Object) (name : String) (v : Json) : Object where
  fields := (name, v) :: (o.del name).fields
  nodup := by
    rw [List.map_cons, List.nodup_cons]
    exact ⟨by simp [del], (o.del name).nodup⟩

theorem get_put : (o.put name v).get name' = if name' = name then some v else o.get name' := by
  show List.lookup name' ((name, v) :: (o.del name).fields) = _
  by_cases h : name' = name
  · simp [h]
  · have hb : (name' == name) = false := by simpa using h
    rw [lookup_cons, hb, if_neg h]
    exact get_del_ne h

end Object

end Data
