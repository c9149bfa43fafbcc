import Panewire.Text.Strings
import Mathlib.Data.String.Basic
import Mathlib.Tactic.Ring
import Mathlib.Tactic.Linarith

/-!
# Numbers in front of a name

Names that start with a number of a fixed width sort by that number.
-/

namespace Go

open List

/-- The value of some more digits. -/
theorem digitsValue_bounds : ∀ {ds : List Char} {acc v : ℕ}, digitsValue ds acc = some v →
    acc * 10 ^ ds.length ≤ v ∧ v < (acc + 1) * 10 ^ ds.length
  | [], acc, v, h => by
    cases h
    simp
  | c :: cs, acc, v, h => by
    unfold digitsValue at h
    split at h
    · next hc =>
      obtain ⟨hl, hh⟩ := digitsValue_bounds h
      have hdig : c.toNat - 48 ≤ 9 := by
        simp only [Char.isDigit, Bool.and_eq_true, decide_eq_true_eq] at hc
        have : c.toNat ≤ 57 := hc.2
        omega
      rw [length_cons, pow_succ]
      constructor <;> nlinarith
    · cases h

/-- **The lower number sorts first**, whatever follows. -/
theorem append_lt_of_digitsValue : ∀ {ds es : List Char} {acc v w : ℕ},
    digitsValue ds acc = some v → digitsValue es acc = some w → ds.length = es.length → v < w →
    ∀ r r' : List Char, ds ++ r < es ++ r'
  | [], [], acc, v, w, hv, hw, _, hlt, _, _ => by
    cases hv
    cases hw
    exact absurd hlt (lt_irrefl _)
  | c :: cs, d :: es, acc, v, w, hv, hw, hl, hlt, r, r' => by
    have hl' : cs.length = es.length := by simpa using hl
    unfold digitsValue at hv hw
    split at hv
    · next hc =>
      split at hw
      · next hd =>
        rw [cons_append, cons_append]
        rcases lt_trichotomy c d with hcd | rfl | hdc
        · exact List.Lex.rel hcd
        · exact List.Lex.cons (append_lt_of_digitsValue hv hw hl' hlt r r')
        -- a higher first digit would give the higher number
        have hlow := (digitsValue_bounds hv).1
        have hh := (digitsValue_bounds hw).2
        have hge : acc * 10 + (d.toNat - 48) + 1 ≤ acc * 10 + (c.toNat - 48) := by
          have hval : d.toNat < c.toNat := hdc
          simp only [Char.isDigit, Bool.and_eq_true, decide_eq_true_eq] at hd
          have : 48 ≤ d.toNat := hd.1
          omega
        have := Nat.mul_le_mul_right (10 ^ cs.length) hge
        rw [← hl'] at hh
        omega
      · cases hw
    · cases hv

/-- Digits have a value. -/
theorem digitsValue_eq : ∀ {ds : List Char} (acc : ℕ), (∀ c ∈ ds, c.isDigit = true) →
    digitsValue ds acc = some (Nat.ofDigitChars 10 ds acc)
  | [], _, _ => rfl
  | c :: cs, acc, h => by
    rw [digitsValue, if_pos (h c mem_cons_self),
      digitsValue_eq _ fun d hd => h d (mem_cons_of_mem _ hd), Nat.mul_comm]
    rfl

/-- A number that was printed with leading zeros is read back. -/
theorem digitsValue_padded (k n : ℕ) :
    digitsValue (List.replicate k '0' ++ (toString n).toList) 0 = some n := by
  have hre : (toString n).toList = Nat.toDigits 10 n := Nat.toList_repr
  induction k with
  | zero =>
    rw [replicate_zero, nil_append, hre, digitsValue_eq 0 fun c hc =>
      Nat.isDigit_of_mem_toDigits (by decide) (by decide) hc,
      Nat.ofDigitChars_toDigits (by decide) (by decide)]
  | succ k ih =>
    exact ih

/-- A printed number is made of digits. -/
theorem isDigit_of_mem_padded {k n : ℕ} {c : Char}
    (h : c ∈ List.replicate k '0' ++ (toString n).toList) : c.isDigit = true := by
  have hre : (toString n).toList = Nat.toDigits 10 n := Nat.toList_repr
  rcases mem_append.mp h with h | h
  · rw [eq_of_mem_replicate h]
    decide
  · rw [hre] at h
    exact Nat.isDigit_of_mem_toDigits (by decide) (by decide) h

theorem parseInt_padded (k : ℕ) {n : ℕ} (hn : n < 2 ^ 63) :
    parseInt (String.ofList (List.replicate k '0' ++ (toString n).toList)) = some (n : ℤ) := by
  have hdig : ∀ c ∈ List.replicate k '0' ++ (toString n).toList, c.isDigit = true :=
    fun _ => isDigit_of_mem_padded
  have hv := digitsValue_padded k n
  have hne : List.replicate k '0' ++ (toString n).toList ≠ [] := by simp
  rw [parseInt, String.toList_ofList]
  generalize List.replicate k '0' ++ (toString n).toList = ds at hdig hv hne
  -- neither sign is a digit
  split
  next neg ds' heq =>
  obtain ⟨rfl, rfl⟩ : false = neg ∧ ds = ds' := by
    split at heq
    · exact absurd (hdig '+' mem_cons_self) (by decide)
    · exact absurd (hdig '-' mem_cons_self) (by decide)
    · exact Prod.mk.inj heq
  rw [if_neg (by simpa using hne), hv]
  simp only [Bool.false_eq_true, if_false]
  rw [if_pos hn]

/-- What is cut off at the first separator. -/
theorem cutChars_append {sep : Char} : ∀ {ds : List Char} (rest : List Char), sep ∉ ds →
    cutChars sep (ds ++ sep :: rest) = (ds, some rest)
  | [], rest, _ => by rw [nil_append, cutChars, if_pos rfl]
  | c :: cs, rest, h => by
    rw [mem_cons, not_or] at h
    rw [cons_append, cutChars, if_neg (Ne.symm h.1), cutChars_append rest h.2]

theorem cutChars_eq {sep : Char} : ∀ {cs ds rest : List Char},
    cutChars sep cs = (ds, some rest) → cs = ds ++ sep :: rest ∧ sep ∉ ds
  | [], _, _, h => by cases h
  | c :: cs, ds, rest, h => by
    unfold cutChars at h
    split at h
    · next hc =>
      cases h
      exact ⟨by rw [hc, nil_append], not_mem_nil⟩
    · next hc =>
      obtain ⟨rfl, hsnd⟩ := Prod.mk.inj h
      obtain ⟨hcs, hs⟩ := cutChars_eq (Prod.ext rfl hsnd : cutChars sep cs = (_, some rest))
      exact ⟨by rw [cons_append, ← hcs], by simpa [Ne.symm hc] using hs⟩

end Go
