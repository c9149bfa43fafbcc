import Panewire.Text.Strings

/-!
# Bounded and clean texts

What a program promises of a text it passes on: which characters it can hold, how many of them, and
how many bytes they take.

* `All p` — every character satisfies `p`; it survives concatenation and every cut.
* `runePrefix`, `prefixWithin` — the two cuts, by characters and by bytes, with their bounds.
* `Pattern` — the anchored regular expressions `^[first][rest]{0,max}$`.
-/

namespace Go

open List String

/-! ## Characters -/

section All

variable {p q : Char → Prop} {s t : String} {cs : List Char}

/-- Every character of the text satisfies `p`. -/
def All (p : Char → Prop) (s : String) : Prop := ∀ c ∈ s.toList, p c

instance [DecidablePred p] : DecidablePred (All p) := fun s => List.decidableBAll p s.toList

@[simp] theorem all_append : All p (s ++ t) ↔ All p s ∧ All p t := by
  simp [All, or_imp, forall_and]

@[simp] theorem all_ofList : All p (String.ofList cs) ↔ ∀ c ∈ cs, p c := by
  simp [All]

theorem All.mono (h : All p s) (hpq : ∀ c, p c → q c) : All q s := fun c hc => hpq c (h c hc)

/-- Dropping characters keeps what holds of all of them. -/
theorem All.ofList_sublist (h : All p s) (hcs : cs.Sublist s.toList) : All p (String.ofList cs) :=
  all_ofList.mpr fun c hc => h c (hcs.subset hc)

/-- `strings.ContainsAny` -/
def containsAny (s chars : String) : Bool := s.toList.any fun c => chars.toList.contains c

theorem containsAny_eq_false {chars : String} :
    containsAny s chars = false ↔ All (· ∉ chars.toList) s := by
  simp [containsAny, All]

theorem All.join {sep : String} (hs : All p sep) :
    ∀ {l : List String}, (∀ s ∈ l, All p s) → All p (Go.join sep l)
  | [], _ => by simp [Go.join, All]
  | [s], h => h s (mem_singleton_self s)
  | s :: t :: l, h => by
    rw [Go.join, all_append, all_append]
    exact ⟨⟨h s mem_cons_self, hs⟩, All.join hs fun u hu => h u (mem_cons_of_mem s hu)⟩

theorem All.trimPrefix (h : All p s) (t : String) : All p (Go.trimPrefix s t) := by
  unfold Go.trimPrefix
  split
  · exact h.ofList_sublist (drop_sublist _ _)
  · exact h

/-- A field is made of characters of the text. -/
theorem All.fields (h : All p s) : ∀ f ∈ Go.fields s, All p f := by
  have key : ∀ (sep : Char → Bool) (cs acc : List Char), (∀ c ∈ cs, p c) → (∀ c ∈ acc, p c) →
      ∀ f ∈ fieldsChars sep cs acc, ∀ c ∈ f, p c := by
    intro sep cs
    induction cs with
    | nil =>
      intro acc _ ha f hf
      unfold fieldsChars at hf
      split at hf
      · cases hf
      · rw [mem_singleton.mp hf]
        exact fun c hc => ha c (mem_reverse.mp hc)
    | cons d cs ih =>
      intro acc hcs ha f hf
      have hd := hcs d mem_cons_self
      have hcs' : ∀ c ∈ cs, p c := fun c hc => hcs c (mem_cons_of_mem d hc)
      unfold fieldsChars at hf
      split at hf
      · split at hf
        · exact ih [] hcs' (by simp) f hf
        · rcases mem_cons.mp hf with rfl | hf
          · exact fun c hc => ha c (mem_reverse.mp hc)
          · exact ih [] hcs' (by simp) f hf
      · exact ih (d :: acc) hcs' (forall_mem_cons.mpr ⟨hd, ha⟩) f hf
  intro f hf
  obtain ⟨cs, hcs, rfl⟩ := mem_map.mp hf
  exact all_ofList.mpr (key isSpace s.toList [] h (by simp) cs hcs)

theorem cutChars_fst_sublist (sep : Char) (cs : List Char) : (cutChars sep cs).1.Sublist cs := by
  induction cs with
  | nil => exact List.Sublist.slnil
  | cons c cs ih =>
    unfold cutChars
    split
    · exact nil_sublist _
    · exact ih.cons_cons c

/-- A printed number is made of digits. -/
theorem all_natRepr (hp : ∀ c, c.isDigit = true → p c) (n : ℕ) : All p (toString n) := by
  intro c hc
  have hre : (toString n).toList = Nat.toDigits 10 n := Nat.toList_repr
  rw [hre] at hc
  exact hp c (Nat.isDigit_of_mem_toDigits (by decide) (by decide) hc)

/-- Different numbers are printed differently. -/
theorem natRepr_injective {m n : ℕ} (h : toString m = toString n) : m = n := by
  have hdig : Nat.toDigits 10 m = Nat.toDigits 10 n := by
    rw [← Nat.toList_repr, ← Nat.toList_repr]
    exact congrArg String.toList h
  rw [← Nat.ofDigitChars_toDigits (b := 10) (n := m) (by decide) (by decide), hdig,
    Nat.ofDigitChars_toDigits (by decide) (by decide)]

end All

variable {s : String} {p : Char → Prop} {n : ℕ}

/-! ## Bytes -/

theorem utf8ByteSize_ofList (cs : List Char) :
    (String.ofList cs).utf8ByteSize = (cs.map Char.utf8Size).sum := by
  induction cs with
  | nil => rfl
  | cons c cs ih =>
    have hc : String.ofList (c :: cs) = String.ofList [c] ++ String.ofList cs := by
      rw [← ofList_append]; rfl
    have hone : (String.ofList [c]).utf8ByteSize = c.utf8Size := by
      rw [← singleton_eq_ofList]; simp
    rw [hc, utf8ByteSize_append, ih, hone, map_cons, sum_cons]

/-- A character takes at most four bytes. -/
theorem utf8ByteSize_le (s : String) : s.utf8ByteSize ≤ 4 * s.length := by
  have h : ∀ cs : List Char, (cs.map Char.utf8Size).sum ≤ 4 * cs.length := by
    intro cs
    induction cs with
    | nil => simp
    | cons c cs ih =>
      have := c.utf8Size_le_four
      simp only [map_cons, sum_cons, length_cons]
      omega
  have := h s.toList
  rwa [← utf8ByteSize_ofList, ofList_toList, length_toList] at this

theorem prefixWithinChars_sublist (n : ℕ) (cs : List Char) :
    (prefixWithinChars n cs).Sublist cs := by
  induction cs generalizing n with
  | nil => exact List.Sublist.slnil
  | cons c cs ih =>
    unfold prefixWithinChars
    split
    · exact (ih _).cons_cons c
    · exact nil_sublist _

/-- A byte cut keeps its bound. -/
theorem prefixWithin_size_le (s : String) (n : ℕ) : (prefixWithin s n).utf8ByteSize ≤ n := by
  have h : ∀ (cs : List Char) (n : ℕ), ((prefixWithinChars n cs).map Char.utf8Size).sum ≤ n := by
    intro cs
    induction cs with
    | nil => simp [prefixWithinChars]
    | cons c cs ih =>
      intro n
      unfold prefixWithinChars
      split
      · have := ih (n - c.utf8Size)
        simp only [map_cons, sum_cons]
        omega
      · simp
  rw [prefixWithin, utf8ByteSize_ofList]
  exact h _ _

/-- A byte cut keeps at least one character. -/
theorem prefixWithin_ne_empty (hs : s ≠ "") (hn : 4 ≤ n) : prefixWithin s n ≠ "" := by
  cases hc : s.toList with
  | nil => exact absurd (toList_eq_nil_iff.mp hc) hs
  | cons c cs => simp [prefixWithin, hc, prefixWithinChars, Nat.le_trans c.utf8Size_le_four hn]

theorem All.prefixWithin (h : All p s) (n : ℕ) : All p (Go.prefixWithin s n) :=
  h.ofList_sublist (prefixWithinChars_sublist n s.toList)

/-! ## Characters counted -/

/-- The first `n` characters. -/
def runePrefix (s : String) (n : ℕ) : String := String.ofList (s.toList.take n)

theorem length_runePrefix_le (s : String) (n : ℕ) : (runePrefix s n).length ≤ n := by
  rw [runePrefix, length_ofList, length_take]
  exact Nat.min_le_left _ _

theorem runePrefix_of_le (h : s.length ≤ n) : runePrefix s n = s := by
  rw [runePrefix, take_of_length_le (by rwa [length_toList]), ofList_toList]

theorem All.runePrefix (h : All p s) (n : ℕ) : All p (Go.runePrefix s n) :=
  h.ofList_sublist (take_sublist n s.toList)

/-- Every line break becomes one space, `\r\n` counted as one. -/
def spaceLines : List Char → List Char
  | [] => []
  | '\r' :: '\n' :: cs => ' ' :: spaceLines cs
  | '\r' :: cs => ' ' :: spaceLines cs
  | '\n' :: cs => ' ' :: spaceLines cs
  | c :: cs => c :: spaceLines cs

/-- `strings.NewReplacer("\r\n", " ", "\r", " ", "\n", " ").Replace` -/
def replaceLines (s : String) : String := String.ofList (spaceLines s.toList)

/-- What is left holds no line break, and otherwise only characters that were there. -/
theorem all_replaceLines (hs : p ' ') (h : All (fun c => c = '\r' ∨ c = '\n' ∨ p c) s) :
    All p (replaceLines s) := by
  have key : ∀ cs : List Char, (∀ c ∈ cs, c = '\r' ∨ c = '\n' ∨ p c) →
      ∀ c ∈ spaceLines cs, p c := by
    intro cs
    fun_induction spaceLines cs with
    | case1 => simp
    | case2 cs ih => intro h; simp_all
    | case3 cs hcs ih => intro h; simp_all
    | case4 cs ih => intro h; simp_all
    | case5 c cs h₁ h₂ h₃ ih => intro h; simp_all
  exact all_ofList.mpr (key _ h)

/-- Text without a line break is left as it is, whatever follows. -/
theorem spaceLines_append {cs : List Char} (h : ∀ c ∈ cs, c ≠ '\r' ∧ c ≠ '\n') (ds : List Char) :
    spaceLines (cs ++ ds) = cs ++ spaceLines ds := by
  induction cs with
  | nil => rfl
  | cons c cs ih =>
    obtain ⟨hr, hn⟩ := h c mem_cons_self
    rw [cons_append, spaceLines, ih fun d hd => h d (mem_cons_of_mem c hd),
      cons_append]
    · exact fun _ hc _ => hr hc
    · exact fun hc => hr hc
    · exact fun hc => hn hc

/-! ## Patterns -/

/-- The regular expression `^[first][rest]{0,max}$`. -/
structure Pattern where
  first : Char → Bool
  rest : Char → Bool
  max : ℕ

namespace Pattern

variable {p : Pattern} {s : String}

def accepts (p : Pattern) (s : String) : Bool :=
  match s.toList with
  | [] => false
  | c :: cs => p.first c && cs.all p.rest && cs.length ≤ p.max

theorem accepts_iff : p.accepts s = true ↔ ∃ c cs, s.toList = c :: cs ∧ p.first c = true ∧
    (∀ d ∈ cs, p.rest d = true) ∧ cs.length ≤ p.max := by
  unfold accepts
  split <;> simp_all [and_assoc]

theorem ne_empty_of_accepts (h : p.accepts s = true) : s ≠ "" := by
  rintro rfl
  simp [accepts] at h

theorem length_le_of_accepts (h : p.accepts s = true) : s.length ≤ p.max + 1 := by
  obtain ⟨c, cs, hs, -, -, hl⟩ := accepts_iff.mp h
  rw [← length_toList, hs, length_cons]
  omega

theorem all_of_accepts {r : Char → Prop} (h : p.accepts s = true)
    (hfst : ∀ c, p.first c = true → r c) (hre : ∀ c, p.rest c = true → r c) : All r s := by
  obtain ⟨c, cs, hs, hc, hcs, -⟩ := accepts_iff.mp h
  intro d hd
  rw [hs, mem_cons] at hd
  rcases hd with rfl | hd
  · exact hfst d hc
  · exact hre d (hcs d hd)

end Pattern

end Go
