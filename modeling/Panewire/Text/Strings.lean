import Mathlib.Data.List.Basic
import Mathlib.Algebra.Group.Int.Defs
import Mathlib.Algebra.GroupWithZero.Nat

/-!
# Go's string operations

The operations of Go's `strings` package on character lists, and on `String` through them.
Everything is structurally recursive on the characters, so a closed term evaluates.
-/

namespace Go

/-- `unicode.IsSpace` -/
def isSpace (c : Char) : Bool :=
  let n := c.toNat
  (9 ≤ n && n ≤ 13) || n == 32 || n == 0x85 || n == 0xA0 || n == 0x1680 ||
    (0x2000 ≤ n && n ≤ 0x200a) || n == 0x2028 || n == 0x2029 || n == 0x202f || n == 0x205f ||
    n == 0x3000

/-- Whether `sub` occurs in the characters. -/
def containsChars : List Char → List Char → Bool
  | [], sub => sub.isEmpty
  | c :: cs, sub => sub.isPrefixOf (c :: cs) || containsChars cs sub

/-- The characters without a leading and trailing run of `p`. -/
def trimChars (p : Char → Bool) (cs : List Char) : List Char :=
  ((cs.dropWhile p).reverse.dropWhile p).reverse

/-- The maximal runs of characters outside `p`, in order; `acc` is the current run, reversed. -/
def fieldsChars (p : Char → Bool) : List Char → List Char → List (List Char)
  | [], acc => if acc.isEmpty then [] else [acc.reverse]
  | c :: cs, acc =>
    if p c then
      if acc.isEmpty then fieldsChars p cs [] else acc.reverse :: fieldsChars p cs []
    else fieldsChars p cs (c :: acc)

/-- Split at the first `sep`: what is before it and, if it occurs, what is after it. -/
def cutChars (sep : Char) : List Char → List Char × Option (List Char)
  | [] => ([], none)
  | c :: cs =>
    if c = sep then ([], some cs)
    else ((c :: (cutChars sep cs).1), (cutChars sep cs).2)

/-- What is before the first occurrence of `sep`. -/
def beforeChars (sep : List Char) : List Char → List Char
  | [] => []
  | c :: cs => if sep.isPrefixOf (c :: cs) then [] else c :: beforeChars sep cs

/-- Split at every `sep`. -/
def splitChars (sep : Char) : List Char → List (List Char)
  | [] => [[]]
  | c :: cs =>
    if c = sep then [] :: splitChars sep cs
    else match splitChars sep cs with
      | [] => [[c]]
      | line :: lines => (c :: line) :: lines

/-- A character as `%q` writes it; those beyond ASCII are taken to be printable. -/
def quoteChar (c : Char) : List Char :=
  let n := c.toNat
  if n = 34 ∨ n = 92 then ['\\', c]
  else if 7 ≤ n ∧ n ≤ 13 then ['\\', "abtnvfr".toList.getD (n - 7) c]
  else if n < 32 ∨ n = 127 then "\\x".toList ++ [Nat.digitChar (n / 16), Nat.digitChar (n % 16)]
  else [c]

variable (s : String)

/-- The verb `%q`. -/
def quote : String := "\"" ++ String.ofList (s.toList.flatMap quoteChar) ++ "\""

/-- `strings.HasPrefix` -/
def hasPrefix (p : String) : Bool := p.toList.isPrefixOf s.toList

/-- `strings.HasSuffix` -/
def hasSuffix (p : String) : Bool := p.toList.isSuffixOf s.toList

/-- What is before the first `sep`: the first result of `strings.Cut`. -/
def cut (sep : Char) : String := String.ofList (cutChars sep s.toList).1

/-- What is before the first `sep`, a text: the first result of `strings.Cut`. -/
def before (sep : String) : String := String.ofList (beforeChars sep.toList s.toList)

/-- `strings.CutPrefix` -/
def cutPrefix (p : String) : Option String :=
  if hasPrefix s p then some (String.ofList (s.toList.drop p.toList.length)) else none

/-- `strings.TrimPrefix` -/
def trimPrefix (p : String) : String :=
  if hasPrefix s p then String.ofList (s.toList.drop p.toList.length) else s

/-- `strings.Contains` -/
def contains (sub : String) : Bool := containsChars s.toList sub.toList

/-- `strings.TrimSpace` -/
def trimSpace : String := String.ofList (trimChars isSpace s.toList)

/-- `strings.Fields` -/
def fields : List String := (fieldsChars isSpace s.toList []).map String.ofList

/-- `strings.Join` -/
def join (sep : String) : List String → String
  | [] => ""
  | [s] => s
  | s :: t :: ss => s ++ sep ++ join sep (t :: ss)

/-- `unicode.ToLower`, as far as its ASCII results go: the Kelvin sign and the dotted capital I
are the two characters outside ASCII that it maps into ASCII. -/
def toLowerChar (c : Char) : Char :=
  if c.toNat = 0x212A then 'k' else if c.toNat = 0x130 then 'i' else c.toLower

/-- `strings.ToLower`, for comparison with ASCII text. -/
def toLower : String := String.ofList (s.toList.map toLowerChar)

/-- `strings.ReplaceAll(s, "\r\n", "\n")` on characters. -/
def unixLines : List Char → List Char
  | [] => []
  | '\r' :: '\n' :: cs => '\n' :: unixLines cs
  | c :: cs => c :: unixLines cs

/-- The longest run of leading characters within `n` bytes. -/
def prefixWithinChars : ℕ → List Char → List Char
  | _, [] => []
  | n, c :: cs =>
    if c.utf8Size ≤ n then c :: prefixWithinChars (n - c.utf8Size) cs else []

/-- The longest prefix of at most `n` bytes that does not cut a character. -/
def prefixWithin (n : ℕ) : String :=
  String.ofList (prefixWithinChars n s.toList)

/-- The digits of a decimal number, most significant first. -/
def digitsValue : List Char → ℕ → Option ℕ
  | [], acc => some acc
  | c :: cs, acc => if c.isDigit then digitsValue cs (acc * 10 + (c.toNat - 48)) else none

/-- `strconv.ParseInt(s, 10, 64)` -/
def parseInt : Option ℤ :=
  let (neg, ds) := match s.toList with
    | '+' :: cs => (false, cs)
    | '-' :: cs => (true, cs)
    | cs => (false, cs)
  if ds.isEmpty then none
  else match digitsValue ds 0 with
    | none => none
    | some n =>
      if neg then if n ≤ 2 ^ 63 then some (-(n : ℤ)) else none
      else if n < 2 ^ 63 then some n else none

end Go
