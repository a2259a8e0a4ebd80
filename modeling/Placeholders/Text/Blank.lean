/-!
# Blanks

Three readings of "white space" that the other modules use, and what is cut off or cut apart at it.

* `isBlank` is the Unicode property `White_Space`.
* `isAsciiBlank` is the blank of markup: space, tab, line feed, form feed and carriage return.
* `trim` cuts Unicode blanks off both ends; `words` cuts a text apart at ASCII blanks.
-/

namespace Placeholders.Text

/-! ## 1. Classes -/

/-- The Unicode property `White_Space`. -/
def isBlank (c : Char) : Bool :=
  let n := c.toNat
  (0x09 ≤ n && n ≤ 0x0D) || n == 0x20 || n == 0x85 || n == 0xA0 || n == 0x1680
    || (0x2000 ≤ n && n ≤ 0x200A) || n == 0x2028 || n == 0x2029 || n == 0x202F || n == 0x205F
    || n == 0x3000

/-- The blanks of markup. The vertical tab is not one of them. -/
def isAsciiBlank (c : Char) : Bool :=
  c == ' ' || c == '\t' || c == '\n' || c == '\x0c' || c == '\x0d'

theorem isBlank_of_isAsciiBlank {c : Char} (h : isAsciiBlank c = true) : isBlank c = true := by
  simp only [isAsciiBlank, Bool.or_eq_true, beq_iff_eq] at h
  rcases h with (((rfl | rfl) | rfl) | rfl) | rfl <;> decide

/-! ## 2. Trimming -/

/-- The text without the blanks at its end. -/
def trimEnd (s : List Char) : List Char :=
  (s.reverse.dropWhile isBlank).reverse

/-- The text without the blanks at both ends. -/
def trim (s : List Char) : List Char :=
  trimEnd (s.dropWhile isBlank)

@[simp] theorem trim_nil : trim [] = [] := rfl

/-- `trim` on strings. -/
def trimmed (s : String) : String :=
  String.ofList (trim s.toList)

/-! ## 3. Words -/

/-- The stretches of a text between ASCII blanks; `word` holds the stretch being read, backwards. -/
def wordsFrom (word : List Char) : List Char → List (List Char)
  | [] => if word.isEmpty then [] else [word.reverse]
  | c :: s =>
    if isAsciiBlank c then
      if word.isEmpty then wordsFrom [] s else word.reverse :: wordsFrom [] s
    else wordsFrom (c :: word) s

/-- The non-empty stretches of a text between ASCII blanks. -/
def words (s : List Char) : List (List Char) :=
  wordsFrom [] s

@[simp] theorem words_nil : words [] = [] := rfl

end Placeholders.Text
