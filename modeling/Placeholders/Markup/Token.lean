import Placeholders.Markup.Attributes
import Placeholders.Markup.Entity

/-!
# Tokens of markup

What a text of markup is cut into before it becomes a tree.

* Reading never fails: a tag that has no end is text, and so is a lone `<`.
* Names of tags and attributes are in lower case. Of several attributes with one name the first counts.
* A raw element takes everything up to its closing tag as it is, except for the closing tag itself.
* Every step uses up at least one character, which `length_next_le` says.
-/

namespace Placeholders.Markup

open Placeholders.Text

/-! ## 1. Tokens -/

/-- The tags of elements that hold nothing and are not closed. -/
def voidTags : List String :=
  ["area", "base", "br", "col", "embed", "hr", "img", "input", "link", "meta", "source", "track",
    "wbr"]

/-- Whether elements of a tag hold nothing and are not closed. -/
def isVoid (tag : String) : Bool := voidTags.contains tag

/-- Whether the content of elements of a tag is no markup. -/
def isRaw (tag : String) : Bool := tag == "script" || tag == "style"

/-- A token of markup. -/
inductive Token where
  | comment (body : String)
  | doctype (declaration : String)
  | text (content : String)
  /-- A tag that opens an element. -/
  | opening (tag : String) (attributes : Attributes)
  /-- A tag that is a whole element. -/
  | leaf (tag : String) (attributes : Attributes)
  /-- A tag that opens an element, with the content that follows and is no markup. -/
  | raw (tag : String) (attributes : Attributes) (body : String)
  | closing (tag : String)
  deriving DecidableEq, Repr

/-! ## 2. Cutting -/

/-- What is before the first place where a marker stands, and what is after the marker. -/
def cutAt? (marker : List Char) : List Char → Option (List Char × List Char)
  | [] => none
  | c :: s =>
    if marker.isPrefixOf (c :: s) then some ([], s.drop (marker.length - 1))
    else (cutAt? marker s).map fun (front, rest) => (c :: front, rest)

/-- Like `cutAt?`, but without a marker the whole text is before it. -/
def cutAt (marker s : List Char) : List Char × List Char :=
  (cutAt? marker s).getD (s, [])

/-- What is before the first place where a marker stands, in capital or small letters, and the rest. -/
def cutBefore (marker : List Char) : List Char → List Char × List Char
  | [] => ([], [])
  | c :: s =>
    if ((c :: s).take marker.length).map Char.toLower == marker then ([], c :: s)
    else
      let (front, rest) := cutBefore marker s
      (c :: front, rest)

/-- The characters in small letters, as far as they are ASCII. -/
def lower (s : List Char) : List Char := s.map Char.toLower

theorem length_dropWhile_le (p : Char → Bool) (s : List Char) :
    (s.dropWhile p).length ≤ s.length :=
  (List.dropWhile_sublist p).length_le

theorem length_cutAt?_lt {marker s front rest : List Char} (h : cutAt? marker s = some (front, rest)) :
    rest.length < s.length := by
  induction s generalizing front with
  | nil => simp [cutAt?] at h
  | cons c s ih =>
    unfold cutAt? at h
    split at h
    · simp only [Option.some.injEq, Prod.mk.injEq] at h
      rw [← h.2]
      simp only [List.length_drop, List.length_cons]
      omega
    · obtain ⟨⟨a, b⟩, hcut, heq⟩ := Option.map_eq_some_iff.mp h
      simp only [Prod.mk.injEq] at heq
      have := ih (heq.2 ▸ hcut)
      simp only [List.length_cons]
      omega

theorem length_cutAt_le (marker s : List Char) : (cutAt marker s).2.length ≤ s.length := by
  unfold cutAt
  cases h : cutAt? marker s with
  | none => simp
  | some pair => exact Nat.le_of_lt (length_cutAt?_lt h)

theorem length_cutBefore_le (marker s : List Char) : (cutBefore marker s).2.length ≤ s.length := by
  induction s with
  | nil => simp [cutBefore]
  | cons c s ih =>
    unfold cutBefore
    split
    · simp
    · simp only [List.length_cons]
      omega

/-! ## 3. Tags -/

/-- Whether a character can belong to the name of an attribute. -/
def isNameChar (c : Char) : Bool :=
  !isAsciiBlank c && c != '=' && c != '>' && c != '/'

/-- Whether a character can belong to the name of a tag. -/
def isTagChar (c : Char) : Bool :=
  !isAsciiBlank c && c != '>' && c != '/'

/-- Whether a character can belong to a value without quotes. -/
def isBareChar (c : Char) : Bool :=
  !isAsciiBlank c && c != '>'

/-- The value of an attribute, and what follows it. There is none if its quote is not closed. -/
def readValue? (s : List Char) : Option (List Char × List Char) :=
  match s with
  | '"' :: s => cutAt? ['"'] s
  | '\'' :: s => cutAt? ['\''] s
  | _ => some (s.takeWhile isBareChar, s.dropWhile isBareChar)

/-- The attribute that starts with a character, and what follows it. -/
def readAttribute? (c : Char) (s : List Char) : Option ((List Char × List Char) × List Char) :=
  let name := if c == '=' then [] else c :: s.takeWhile isNameChar
  let rest := if c == '=' then c :: s else s.dropWhile isNameChar
  match rest.dropWhile isAsciiBlank with
  | '=' :: rest =>
    (readValue? (rest.dropWhile isAsciiBlank)).map fun (value, rest) => ((name, decode value), rest)
  | rest => some ((name, []), rest)

/-- Adds an attribute, unless it has no name or one that is there already. -/
def addAttribute (attributes : Attributes) (name value : List Char) : Attributes :=
  let name := String.ofList (lower name)
  if name.isEmpty || attributes.any (·.1 == name) then attributes
  else attributes ++ [(name, String.ofList value)]

theorem length_readValue?_le {s value rest : List Char} (h : readValue? s = some (value, rest)) :
    rest.length ≤ s.length := by
  unfold readValue? at h
  split at h
  · have := length_cutAt?_lt h
    simp only [List.length_cons]
    omega
  · have := length_cutAt?_lt h
    simp only [List.length_cons]
    omega
  · simp only [Option.some.injEq, Prod.mk.injEq] at h
    rw [← h.2]
    exact length_dropWhile_le _ _

theorem length_readAttribute?_le {c : Char} {s rest : List Char} {found : List Char × List Char}
    (h : readAttribute? c s = some (found, rest)) : rest.length ≤ s.length := by
  unfold readAttribute? at h
  by_cases hc : c = '='
  · subst hc
    have hdrop : ('=' :: s).dropWhile isAsciiBlank = '=' :: s := by
      rw [List.dropWhile_cons_of_neg (by decide)]
    simp only [beq_self_eq_true, if_true, hdrop] at h
    obtain ⟨⟨a, b⟩, hvalue, heq⟩ := Option.map_eq_some_iff.mp h
    simp only [Prod.mk.injEq] at heq
    have := length_readValue?_le hvalue
    have := length_dropWhile_le isAsciiBlank s
    have : b = rest := heq.2
    subst this
    omega
  · have hne : (c == '=') = false := by simpa using hc
    simp only [hne, Bool.false_eq_true, if_false] at h
    have h₁ := length_dropWhile_le isNameChar s
    have h₂ := length_dropWhile_le isAsciiBlank (s.dropWhile isNameChar)
    split at h
    · rename_i after heq
      obtain ⟨⟨a, b⟩, hvalue, hpair⟩ := Option.map_eq_some_iff.mp h
      simp only [Prod.mk.injEq] at hpair
      have h₃ := length_readValue?_le hvalue
      have h₄ := length_dropWhile_le isAsciiBlank after
      rw [heq] at h₂
      simp only [List.length_cons] at h₂
      have : b = rest := hpair.2
      subst this
      omega
    · simp only [Option.some.injEq, Prod.mk.injEq] at h
      rw [← h.2]
      omega

/-- The rest of a tag after its name: its attributes, whether a slash ends it, and what follows the
    tag. There is nothing if the tag has no end. -/
def tagRest? (attributes : Attributes) (slash : Bool) (s : List Char) :
    Option ((Attributes × Bool) × List Char) :=
  match _hs : s.dropWhile isAsciiBlank with
  | [] => none
  | c :: rest =>
    if c == '>' then some ((attributes, slash), rest)
    else if c == '/' then tagRest? attributes true rest
    else
      match _h : readAttribute? c rest with
      | none => none
      | some ((name, value), after) => tagRest? (addAttribute attributes name value) false after
termination_by s.length
decreasing_by
  all_goals
    have hle := length_dropWhile_le isAsciiBlank s
    rw [_hs] at hle
    simp only [List.length_cons] at hle
  · omega
  · have := length_readAttribute?_le _h
    omega

theorem length_tagRest?_le {attributes : Attributes} {slash : Bool} {s : List Char}
    {found : Attributes × Bool} {rest : List Char}
    (h : tagRest? attributes slash s = some (found, rest)) : rest.length ≤ s.length := by
  fun_induction tagRest? attributes slash s with
  | case1 => simp at h
  | case2 attributes slash s c tail hs hc =>
    have := length_dropWhile_le isAsciiBlank s
    simp only [Option.some.injEq, Prod.mk.injEq] at h
    rw [hs, h.2, List.length_cons] at this
    omega
  | case3 attributes slash s c tail hs _ _ ih =>
    have := length_dropWhile_le isAsciiBlank s
    rw [hs, List.length_cons] at this
    have := ih h
    omega
  | case4 => simp at h
  | case5 attributes slash s c tail hs _ _ name value after hattribute ih =>
    have := length_dropWhile_le isAsciiBlank s
    rw [hs, List.length_cons] at this
    have := length_readAttribute?_le hattribute
    have := ih h
    omega

/-- The token of a tag, and what follows it. -/
def tagToken (tag : String) (attributes : Attributes) (slash : Bool) (rest : List Char) :
    Token × List Char :=
  if slash || isVoid tag then (.leaf tag attributes, rest)
  else if isRaw tag then
    let (body, rest) := cutBefore ('<' :: '/' :: tag.toList) rest
    (.raw tag attributes (String.ofList body), rest)
  else (.opening tag attributes, rest)

/-- The tag that begins with the name at the beginning of a text, if it has an end. -/
def tag? (s : List Char) : Option (Token × List Char) :=
  (tagRest? [] false (s.dropWhile isTagChar)).map fun ((attributes, slash), rest) =>
    tagToken (String.ofList (lower (s.takeWhile isTagChar))) attributes slash rest

/-! ## 4. Declarations -/

/-- The word that a declaration of a document type begins with. -/
def doctypeWord : List Char := ['d', 'o', 'c', 't', 'y', 'p', 'e']

/-- The token of a declaration. What declares no document type is a comment. -/
def declaration (body : List Char) : Token :=
  let inner := trim body
  if lower (inner.take doctypeWord.length) == doctypeWord then
    .doctype (String.ofList (trim (inner.drop doctypeWord.length)))
  else .comment (String.ofList inner)

/-- The token that a `<` begins, if it does not stand for itself, and what follows it. -/
def markup? (s : List Char) : Option (Token × List Char) :=
  match s with
  | '!' :: '-' :: '-' :: s =>
    let (body, rest) := cutAt ['-', '-', '>'] s
    some (.comment (String.ofList body), rest)
  | '!' :: s =>
    let (body, rest) := cutAt ['>'] s
    some (declaration body, rest)
  | '/' :: s =>
    (cutAt? ['>'] s).map fun (name, rest) => (.closing (String.ofList (lower (trim name))), rest)
  | c :: _ => if c.isAlpha then tag? s else none
  | [] => none

/-! ## 5. Texts -/

/-- The text that begins with a character, up to the next `<`, and what follows it. -/
def textToken (c : Char) (s : List Char) : Token × List Char :=
  (.text (String.ofList (decode (c :: s.takeWhile (· != '<')))), s.dropWhile (· != '<'))

/-- The first token of a text that begins with a character, and what follows it. -/
def next (c : Char) (s : List Char) : Token × List Char :=
  if c == '<' then (markup? s).getD (textToken c s) else textToken c s

theorem length_tagToken_le (tag : String) (attributes : Attributes) (slash : Bool)
    (rest : List Char) : (tagToken tag attributes slash rest).2.length ≤ rest.length := by
  unfold tagToken
  split
  · exact Nat.le_refl _
  · split
    · exact length_cutBefore_le _ _
    · exact Nat.le_refl _

theorem length_tag?_le {s rest : List Char} {token : Token} (h : tag? s = some (token, rest)) :
    rest.length ≤ s.length := by
  obtain ⟨⟨⟨attributes, slash⟩, after⟩, hrest, heq⟩ := Option.map_eq_some_iff.mp h
  have h₁ := length_tagRest?_le hrest
  have h₂ := length_dropWhile_le isTagChar s
  have h₃ := length_tagToken_le (String.ofList (lower (s.takeWhile isTagChar))) attributes slash after
  simp only at heq
  rw [heq] at h₃
  exact Nat.le_trans h₃ (Nat.le_trans h₁ h₂)

theorem length_markup?_le {s rest : List Char} {token : Token}
    (h : markup? s = some (token, rest)) : rest.length ≤ s.length := by
  unfold markup? at h
  split at h
  · rename_i s
    simp only [Option.some.injEq, Prod.mk.injEq] at h
    have := length_cutAt_le ['-', '-', '>'] s
    rw [h.2] at this
    simp only [List.length_cons]
    omega
  · rename_i s _
    simp only [Option.some.injEq, Prod.mk.injEq] at h
    have := length_cutAt_le ['>'] s
    rw [h.2] at this
    simp only [List.length_cons]
    omega
  · obtain ⟨⟨name, after⟩, hcut, heq⟩ := Option.map_eq_some_iff.mp h
    have := length_cutAt?_lt hcut
    simp only [Prod.mk.injEq] at heq
    rw [← heq.2]
    simp only [List.length_cons]
    omega
  · split at h
    · exact length_tag?_le h
    · simp at h
  · simp at h

/-- What follows a token is shorter than what the token was read from. -/
theorem length_next_le (c : Char) (s : List Char) : (next c s).2.length ≤ s.length := by
  unfold next
  split
  · cases h : markup? s with
    | none => exact length_dropWhile_le _ _
    | some found => exact length_markup?_le h
  · exact length_dropWhile_le _ _

/-! ## 6. All tokens -/

/-- The tokens of a text. -/
def tokens : List Char → List Token
  | [] => []
  | c :: s => (next c s).1 :: tokens (next c s).2
termination_by s => s.length
decreasing_by
  have := length_next_le c s
  simp only [List.length_cons]
  omega

end Placeholders.Markup
