import Panewire.Text.Strings

/-!
# Joined texts

A text without the separator occurs in a joined text exactly if it occurs in one of the pieces, and
words that are joined with blanks are read back as they were.
-/

namespace Go

open List

theorem containsChars_iff {cs sub : List Char} : containsChars cs sub = true ↔ sub <:+: cs := by
  induction cs with
  | nil => simp [containsChars]
  | cons c cs ih =>
    rw [containsChars, Bool.or_eq_true, ih, isPrefixOf_iff_prefix, infix_cons_iff]

section Separator

variable {α : Type} {x : α} {sub : List α}

private theorem isPrefix_append_cons (hx : x ∉ sub) {a b : List α} (h : sub <+: a ++ x :: b) :
    sub <+: a := by
  rcases prefix_or_prefix_of_prefix h (prefix_append a (x :: b)) with h' | ⟨t, rfl⟩
  · exact h'
  · cases t with
    | nil => simp
    | cons y t =>
      obtain ⟨rfl, -⟩ := cons_prefix_cons.mp ((prefix_append_right_inj a).mp h)
      exact absurd (mem_append_right a mem_cons_self) hx

theorem infix_append_cons_iff (hx : x ∉ sub) (hs : sub ≠ []) {a b : List α} :
    sub <:+: a ++ x :: b ↔ sub <:+: a ∨ sub <:+: b := by
  induction a with
  | nil =>
    rw [nil_append, infix_cons_iff]
    refine or_congr_left ⟨fun h => (isPrefix_append_cons (a := []) hx h).isInfix, fun h => ?_⟩
    exact absurd (infix_nil.mp h) hs
  | cons y a ih =>
    rw [cons_append, infix_cons_iff, ih, infix_cons_iff, ← or_assoc]
    refine or_congr_left (or_congr_left ⟨isPrefix_append_cons (a := y :: a) hx, fun h => ?_⟩)
    exact h.trans (prefix_append (y :: a) (x :: b))

end Separator

/-- **What occurs in a joined text occurs in one of its pieces**, unless it has the separator. -/
theorem contains_join (sub sep : String) {c : Char} (hsep : sep.toList = [c])
    (hc : c ∉ sub.toList) (hs : sub.toList ≠ []) (texts : List String) :
    contains (join sep texts) sub = true ↔ ∃ text ∈ texts, contains text sub = true := by
  simp only [contains, containsChars_iff]
  induction texts with
  | nil => simpa [join] using hs
  | cons s texts ih =>
    cases texts with
    | nil => simp [join]
    | cons t texts =>
      have hj : (join sep (s :: t :: texts)).toList =
          s.toList ++ c :: (join sep (t :: texts)).toList := by
        simp [join, hsep]
      rw [hj, infix_append_cons_iff hc hs, ih]
      simp only [mem_cons, exists_eq_or_imp]

/-! ## Words -/

/-- What precedes a blank is one run; `acc` holds the characters of it that were read. -/
theorem fieldsChars_append {p : Char → Bool} {word : List Char} (hw : ∀ c ∈ word, p c = false)
    (rest acc : List Char) :
    fieldsChars p (word ++ rest) acc = fieldsChars p rest (word.reverse ++ acc) := by
  induction word generalizing acc with
  | nil => rfl
  | cons c word ih =>
    have hc := hw c mem_cons_self
    rw [cons_append, fieldsChars, if_neg (by simp [hc]), ih fun d hd => hw d (mem_cons_of_mem c hd)]
    simp

/-- **Words that are joined with blanks are read back.** -/
theorem fields_join {words : List String}
    (hw : ∀ w ∈ words, w ≠ "" ∧ ∀ c ∈ w.toList, isSpace c = false) :
    fields (join " " words) = words := by
  have hcs : fieldsChars isSpace (join " " words).toList [] = words.map String.toList := by
    induction words with
    | nil => rfl
    | cons w ws ih =>
      obtain ⟨hne, hs⟩ := hw w mem_cons_self
      have hl : w.toList ≠ [] := fun h => hne (String.toList_eq_nil_iff.mp h)
      have ih := ih fun u hu => hw u (mem_cons_of_mem w hu)
      cases ws with
      | nil =>
        have h := fieldsChars_append hs [] []
        simpa [fieldsChars, join, hl] using h
      | cons v ws =>
        have hj : (join " " (w :: v :: ws)).toList =
            w.toList ++ ' ' :: (join " " (v :: ws)).toList := by
          simp [join]
        have hsp : isSpace ' ' = true := by decide
        rw [hj, fieldsChars_append hs, fieldsChars, ih]
        simp [hsp, hl]
  rw [fields, hcs, map_map]
  exact (map_congr_left fun w _ => String.ofList_toList).trans (map_id _)

end Go
