import Mathlib.Data.List.TakeWhile
import Panewire.Prompt.File
import Panewire.Text.Digits

/-!
# The body of a prompt file

The **expect line** is the first line that is not blank, and the text after it is what is to be
sent. `parsePromptFile` looks for the two in different ways: it skips blank lines to find the
expect line, and takes everything after the first newline of the file as the body.

* `AfterExpect` — what follows the expect line.
* `parsePromptFile_body` — the body is that text exactly when the file's first line is the expect
  line and ends with a newline.
-/

namespace Panewire.Prompt

open Go

/-- The text after the expect line, which only blank lines precede. -/
def AfterExpect (s text : List Char) : Prop :=
  ∃ lead line, s = lead ++ (line ++ '\n' :: text) ∧ (∀ c ∈ lead, isSpace c = true) ∧
    (lead = [] ∨ '\n' ∈ lead.getLast?) ∧ '\n' ∉ line ∧
    hasPrefix (trimSpace (String.ofList line)) "expect:" = true

/-- A line that begins with something has a character that is not a space. -/
theorem exists_not_isSpace {line : List Char}
    (h : hasPrefix (trimSpace (String.ofList line)) "expect:" = true) :
    ∃ c ∈ line, isSpace c = false := by
  by_contra ha
  push Not at ha
  have hn : line.dropWhile isSpace = [] :=
    List.dropWhile_eq_nil_iff.mpr fun c hc => by simpa using ha c hc
  rw [trimSpace, String.toList_ofList, trimChars, hn] at h
  exact absurd h (by decide)

/-- The first of the lines is the text before the first newline. -/
theorem splitChars_eq (sep : Char) : ∀ cs : List Char,
    ∃ lines, splitChars sep cs = (cutChars sep cs).1 :: lines
  | [] => ⟨[], rfl⟩
  | c :: cs => by
    obtain ⟨lines, hl⟩ := splitChars_eq sep cs
    unfold splitChars cutChars
    split
    · exact ⟨_, rfl⟩
    · rw [hl]
      exact ⟨lines, rfl⟩

/-- A first line that is not blank is the line that was looked at. -/
theorem firstLine_cons {line : List Char} {lines : List (List Char)}
    (h : hasPrefix (firstLine (line :: lines)) "expect:" = true)
    (hl : trimSpace (String.ofList line) ≠ "") :
    hasPrefix (trimSpace (String.ofList line)) "expect:" = true := by
  unfold firstLine at h
  dsimp only at h
  split at h
  · exact absurd h (by decide)
  · exact h

/-- What an accepted file consists of: nothing after the expect line, or a first line, which is the
expect line unless it is blank, and the rest. -/
theorem parsePromptFile_ok {raw body : String} {e : ExpectFields}
    (h : parsePromptFile raw = .ok (e, body)) :
    (body = "" ∧ (cutChars '\n' (unixLines raw.toList)).2 = none) ∨
    ∃ first rest, unixLines raw.toList = first ++ '\n' :: rest ∧ '\n' ∉ first ∧
      (trimSpace (String.ofList first) ≠ "" →
        hasPrefix (trimSpace (String.ofList first)) "expect:" = true) ∧
      trimSpace body ≠ "" ∧ body.toList = rest.dropWhile (· == '\n') := by
  unfold parsePromptFile at h
  dsimp only at h
  obtain ⟨lines, hl⟩ := splitChars_eq '\n' (unixLines raw.toList)
  rw [hl] at h
  split at h
  · cases h
  next he =>
  generalize List.foldlM expectToken {} _ = r at h
  cases r with
  | error msg => cases h
  | ok fields =>
    change (if _ then _ else _) = _ at h
    split at h
    · cases h
    split at h
    · next hc =>
      cases h
      exact .inl ⟨rfl, hc⟩
    next rest hc =>
    split at h
    · cases h
    next hb =>
    cases h
    obtain ⟨hs, hfst⟩ := cutChars_eq (Prod.ext rfl hc : cutChars '\n' _ = (_, some rest))
    exact .inr ⟨_, rest, hs, hfst, firstLine_cons (by simpa using he), hb,
      String.toList_ofList⟩

/-- A body that starts in front of the expect line is longer than the text after it. -/
theorem length_lt_of_lead {line : List Char} {c : Char} (hc : c ∈ line) (hl : '\n' ∉ line)
    (lead text : List Char) :
    (text.dropWhile (· == '\n')).length <
      ((lead ++ (line ++ '\n' :: text)).dropWhile (· == '\n')).length := by
  have hne : (lead ++ line).dropWhile (· == '\n') ≠ [] := by
    intro hn
    have := List.dropWhile_eq_nil_iff.mp hn c (List.mem_append_right _ hc)
    exact hl (by simpa using (beq_iff_eq.mp this) ▸ hc)
  have hle := (List.dropWhile_sublist (l := text) (p := (· == '\n'))).length_le
  rw [← List.append_assoc, List.dropWhile_append, if_neg (by simpa using hne),
    List.length_append, List.length_cons]
  omega

/-- **The body is the text after the expect line**, and not blank, exactly when the first line of
the file is not blank and ends with a newline. -/
theorem parsePromptFile_body (raw body : String) (e : ExpectFields)
    (h : parsePromptFile raw = .ok (e, body)) :
    (trimSpace body ≠ "" ∧ ∃ text, AfterExpect (unixLines raw.toList) text ∧
      body.toList = text.dropWhile (· == '\n')) ↔
    ∃ first rest, unixLines raw.toList = first ++ '\n' :: rest ∧ '\n' ∉ first ∧
      trimSpace (String.ofList first) ≠ "" := by
  obtain ⟨rfl, hs⟩ | ⟨first, rest, hs, hfst, hexp, hbo, hre⟩ := parsePromptFile_ok h
  · refine iff_of_false (fun hb => hb.1 (by decide)) ?_
    rintro ⟨first, rest, hs', hfst, -⟩
    rw [hs', cutChars_append rest hfst] at hs
    cases hs
  constructor
  · rintro ⟨-, text, ⟨lead, line, hs', hle, he, hl, hl'⟩, ht⟩
    refine ⟨first, rest, hs, hfst, fun hbla => ?_⟩
    have hsame := hs.symm.trans hs'
    rcases he with rfl | he
    · -- the expect line is the first line
      have hcut := (cutChars_append rest hfst).symm.trans
        ((congrArg _ hsame).trans (cutChars_append text hl))
      obtain rfl : first = line := (Prod.mk.inj hcut).1
      rw [hbla] at hl'
      exact absurd hl' (by decide)
    · -- the first newline is in front of the expect line, and so is the start of the body
      have hnl : '\n' ∈ lead := List.mem_of_getLast? he
      obtain ⟨a, rfl, ha⟩ | ⟨a, rfl, -⟩ := List.append_eq_append_iff.mp hsame
      swap
      · exact hfst (List.mem_append_left _ hnl)
      cases a with
      | nil => exact hfst (by simpa using hnl)
      | cons b lead' =>
        obtain ⟨-, rfl⟩ := List.cons.inj ha
        obtain ⟨c, hc, -⟩ := exists_not_isSpace hl'
        exact (length_lt_of_lead hc hl lead' text).ne
          (congrArg List.length (ht.symm.trans hre))
  · rintro ⟨first', rest', hs', hfst', hbla⟩
    have hcut := (cutChars_append rest hfst).symm.trans
      ((congrArg _ (hs.symm.trans hs')).trans (cutChars_append rest' hfst'))
    obtain rfl : first = first' := (Prod.mk.inj hcut).1
    exact ⟨hbo, rest, ⟨[], first, hs, by simp, .inl rfl, hfst, hexp hbla⟩, hre⟩

theorem parsePromptFile_body_greeting :
    trimSpace "hi" ≠ "" ∧ ∃ text,
      AfterExpect (unixLines "expect: name=a\n\nhi".toList) text ∧
        "hi".toList = text.dropWhile (· == '\n') :=
  (parsePromptFile_body "expect: name=a\n\nhi" "hi" { name := "a" } (by decide +kernel)).mpr
    ⟨"expect: name=a".toList, "\nhi".toList, by decide +kernel, by decide +kernel,
      by decide +kernel⟩

/-- A file of one line is accepted without a body, and after a blank line the expect line is a part
of the body. -/
theorem parsePromptFile_blank_line :
    parsePromptFile "expect: name=a" = .ok ({ name := "a" }, "") ∧
    parsePromptFile "\nexpect: name=a\nhi" = .ok ({ name := "a" }, "expect: name=a\nhi") := by
  decide +kernel

end Panewire.Prompt
