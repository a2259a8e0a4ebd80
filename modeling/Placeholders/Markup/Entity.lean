import Placeholders.Text.Numeral

/-!
# Character references

Writing characters that markup gives a meaning to, and reading them again.

* `escape` is safe at every place of markup, `escapeText` between tags, `escapeAttribute` between
  double quotes.
* `decode` reads references by name or number; the semicolon is required. What is no reference stays
  as it is written.
-/

namespace Placeholders.Markup

open Placeholders.Text

/-! ## 1. Writing -/

/-- A character as it can stand anywhere. -/
def escapeChar (c : Char) : List Char :=
  match c with
  | '&' => ['&', 'a', 'm', 'p', ';']
  | '<' => ['&', 'l', 't', ';']
  | '>' => ['&', 'g', 't', ';']
  | '"' => ['&', 'q', 'u', 'o', 't', ';']
  | '\'' => ['&', '#', '3', '9', ';']
  | _ => [c]

/-- A character as it can stand between tags. -/
def escapeTextChar (c : Char) : List Char :=
  if c == '&' || c == '<' || c == '>' then escapeChar c else [c]

/-- A character as it can stand between double quotes. -/
def escapeAttributeChar (c : Char) : List Char :=
  if c == '&' || c == '"' then escapeChar c else [c]

/-- A text as it can stand anywhere. -/
def escape (s : List Char) : List Char := s.flatMap escapeChar

/-- A text as it can stand between tags. -/
def escapeText (s : List Char) : List Char := s.flatMap escapeTextChar

/-- A text as it can stand between double quotes. -/
def escapeAttribute (s : List Char) : List Char := s.flatMap escapeAttributeChar

/-! ## 2. Reading -/

/-- The characters that have a name. -/
def namedCharacters : List (List Char × Char) :=
  [(['a', 'm', 'p'], '&'), (['l', 't'], '<'), (['g', 't'], '>'), (['q', 'u', 'o', 't'], '"'),
    (['a', 'p', 'o', 's'], '\''), (['n', 'b', 's', 'p'], '\u00a0')]

/-- The character of a number, if it is one. -/
def ofNumber? (n : Nat) : Option Char :=
  if h : n.isValidChar then some (Char.ofNatAux n h) else none

/-- The character that a name or a number stands for. -/
def referenced? (name : List Char) : Option Char :=
  match namedCharacters.lookup name with
  | some c => some c
  | none =>
    match name with
    | '#' :: 'x' :: digits | '#' :: 'X' :: digits =>
      (unsigned? 16 halfWordBound digits).bind ofNumber?
    | '#' :: digits => (unsigned? 10 halfWordBound digits).bind ofNumber?
    | _ => none

/-- The longest name that is looked for. -/
def nameLimit : Nat := 9

/-- The character of the reference that a text after an ampersand starts with, and the length of the
    reference. -/
def reference? (s : List Char) : Option (Char × Nat) :=
  let name := (s.take (nameLimit + 1)).takeWhile (· != ';')
  if name.length ≤ nameLimit ∧ name.length < s.length then
    (referenced? name).map fun c => (c, name.length + 1)
  else none

/-- The text with references read. -/
def decode : List Char → List Char
  | [] => []
  | c :: s =>
    if c == '&' then
      match reference? s with
      | some (d, length) => d :: decode (s.drop length)
      | none => '&' :: decode s
    else c :: decode s
termination_by s => s.length
decreasing_by all_goals simp; try omega

/-- A text without ampersands reads as itself. -/
theorem decode_of_forall_ne {s : List Char} (h : ∀ c ∈ s, c ≠ '&') : decode s = s := by
  induction s with
  | nil => simp [decode]
  | cons c s ih =>
    have hc : c ≠ '&' := h c (List.mem_cons_self ..)
    rw [decode, if_neg (by simpa using hc), ih fun d hd => h d (List.mem_cons_of_mem _ hd)]

/-- What is written for a character is read as that character. -/
theorem decode_escapeChar_append (c : Char) (s : List Char) :
    decode (escapeChar c ++ s) = c :: decode s := by
  unfold escapeChar
  split
  · have hn : referenced? ['a', 'm', 'p'] = some '&' := by decide
    simp [decode, reference?, nameLimit, hn]
  · have hn : referenced? ['l', 't'] = some '<' := by decide
    simp [decode, reference?, nameLimit, hn]
  · have hn : referenced? ['g', 't'] = some '>' := by decide
    simp [decode, reference?, nameLimit, hn]
  · have hn : referenced? ['q', 'u', 'o', 't'] = some '"' := by decide
    simp [decode, reference?, nameLimit, hn]
  · have hn : referenced? ['#', '3', '9'] = some '\'' := by decide
    simp [decode, reference?, nameLimit, hn]
  · rename_i hamp _ _ _ _
    have hne : (c == '&') = false := by simpa using hamp
    simp [decode, hne]

/-- Reading undoes escaping. -/
theorem decode_escape (s : List Char) : decode (escape s) = s := by
  induction s with
  | nil => simp [escape, decode]
  | cons c s ih =>
    rw [escape, List.flatMap_cons, decode_escapeChar_append]
    exact congrArg (c :: ·) ih

end Placeholders.Markup
