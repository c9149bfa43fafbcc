import Mathlib.Data.Prod.Lex
import Mathlib.Algebra.Order.Ring.Unbundled.Rat

/-!
# Floating point numbers, as far as comparisons see them

A number is finite, an infinity, or **not a number**, with which every comparison fails. The **total
order** a sort uses puts NaN below every number. Rounding is not modelled: nothing here computes a
new number.
-/

namespace Data

inductive F64 where
  | nan
  | negInf
  | num (q : ℚ)
  | posInf
  deriving DecidableEq

namespace F64

/-- `a <= b` -/
def le : F64 → F64 → Bool
  | nan, _ => false
  | _, nan => false
  | negInf, _ => true
  | _, posInf => true
  | num a, num b => a ≤ b
  | _, _ => false

/-- `a < b` -/
def lt (a b : F64) : Bool := a ≠ nan && b ≠ nan && !b.le a

/-- The larger of two numbers that are not NaN. -/
def max (a b : F64) : F64 := if a.lt b then b else a

/-- The larger of two numbers as the mathematics library gives it: an infinity wins, then NaN. -/
def mathMax (a b : F64) : F64 :=
  if a = posInf ∨ b = posInf then posInf else if a = nan ∨ b = nan then nan else a.max b

/-- The sign changed, which no rounding touches. -/
def neg : F64 → F64
  | nan => nan
  | negInf => posInf
  | num q => num (-q)
  | posInf => negInf

/-- Where the total order puts each kind of number. -/
def place : F64 → ℕ
  | nan => 0
  | negInf => 1
  | num _ => 2
  | posInf => 3

/-- The value of a finite number. -/
def value : F64 → ℚ
  | num q => q
  | _ => 0

/-- The comparison of sorts: NaN is least and equal to itself. -/
def order : F64 → F64 → Ordering := compareLex (compareOn place) (compareOn value)

instance : Std.TransCmp order :=
  inferInstanceAs (Std.TransCmp (compareLex (compareOn place) (compareOn value)))

theorem le_trans {a b c : F64} (hab : a.le b = true) (hbc : b.le c = true) : a.le c = true := by
  cases a <;> cases b <;> cases c <;> simp_all only [le, Bool.false_eq_true, decide_eq_true_eq]
  exact hab.trans hbc

theorem lt_iff {a b : F64} (ha : a ≠ nan) (hb : b ≠ nan) : a.lt b = true ↔ b.le a = false := by
  simp [lt, ha, hb]

theorem not_lt_nan (a : F64) : a.lt nan = false := by simp [lt]

theorem lt_trans {a b c : F64} (hab : a.lt b = true) (hbc : b.lt c = true) : a.lt c = true := by
  cases a <;> cases b <;> cases c <;> simp_all [lt, le]
  exact hab.trans hbc

/-- Taking the larger of two raises the first. -/
theorem lt_of_max_lt {a b c : F64} (h : (a.max b).lt c = true) : a.lt c = true := by
  unfold max at h
  split at h
  · next hab => exact lt_trans hab h
  · exact h

end F64

end Data
