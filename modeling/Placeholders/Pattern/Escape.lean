import Placeholders.Pattern.Basic
import Placeholders.Text.Blank
import Placeholders.Text.Folding
import Placeholders.Text.PropertyName

/-!
# Flags and escapes

What a pattern's flags change, and what follows a backslash.

* Flags decide how a single sign is understood: whether case counts, what a line is, whether classes
  go beyond ASCII, whether blanks and comments are passed over.
* Case folding is worked into the sets: a set is folded before it is negated.
* With Unicode switched off sets are made of octets, and only what keeps to ASCII is left. So nothing
  can be negated then, for the rest would have octets that are no characters.
-/

namespace Placeholders.Pattern

open Placeholders.Text

/-! ## 1. Flags -/

/-- The flags of a place in a pattern. -/
structure Flags where
  ignoreCase : Bool := false
  multiLine : Bool := false
  dotAll : Bool := false
  carriageReturns : Bool := false
  unicode : Bool := true
  verbose : Bool := false
  /-- Whether repetitions take as little as they can unless marked. -/
  reluctant : Bool := false
  deriving DecidableEq, Repr

/-- Switches the flag of a letter; `none` if there is no such flag. -/
def Flags.switch? (flags : Flags) (letter : Char) (on : Bool) : Option Flags :=
  match letter with
  | 'i' => some { flags with ignoreCase := on }
  | 'm' => some { flags with multiLine := on }
  | 's' => some { flags with dotAll := on }
  | 'R' => some { flags with carriageReturns := on }
  | 'u' => some { flags with unicode := on }
  | 'x' => some { flags with verbose := on }
  | 'U' => some { flags with reluctant := on }
  | _ => none

/-- Closes a set under case folding if case is ignored. -/
def Flags.foldSet (flags : Flags) (set : CharSet) : CharSet :=
  if flags.ignoreCase then (if flags.unicode then set.folded else set.foldedAscii) else set

/-- Takes the complement of a set if asked to, which needs Unicode. -/
def Flags.negate? (flags : Flags) (negated : Bool) (set : CharSet) : Option CharSet :=
  if negated then (if flags.unicode then some set.complement else none) else some set

/-- Folds a set, and takes its complement if asked to. -/
def Flags.foldNegate? (flags : Flags) (negated : Bool) (set : CharSet) : Option CharSet :=
  flags.negate? negated (flags.foldSet set)

/-- What the dot matches. -/
def Flags.dot? (flags : Flags) : Option CharSet :=
  if !flags.unicode then none
  else if flags.dotAll then some .everything
  else if flags.carriageReturns then
    some ((CharSet.single '\n').union (CharSet.single '\x0d')).complement
  else some (CharSet.single '\n').complement

/-- What the circumflex asserts. -/
def Flags.lineStart (flags : Flags) : Look :=
  if flags.multiLine then (if flags.carriageReturns then .anyLineStart else .lineStart)
  else .textStart

/-- What the dollar sign asserts. -/
def Flags.lineEnd (flags : Flags) : Look :=
  if flags.multiLine then (if flags.carriageReturns then .anyLineEnd else .lineEnd) else .textEnd

/-! ## 2. Blanks and comments -/

/-- Skips blanks, and comments from a number sign to the end of its line. -/
def skipVerbose (inComment : Bool) : List Char → List Char
  | [] => []
  | c :: s =>
    if inComment then skipVerbose (c != '\n') s
    else if isBlank c then skipVerbose false s
    else if c == '#' then skipVerbose true s
    else c :: s

/-- Skips what the flag `x` makes meaningless. -/
def Flags.space (flags : Flags) (s : List Char) : List Char :=
  if flags.verbose then skipVerbose false s else s

/-! ## 3. Escapes -/

/-- ASCII digits. -/
def asciiDigit : CharSet := .range 0x30 0x39

/-- ASCII blanks, the vertical tab among them. -/
def asciiBlank : CharSet := ⟨[⟨0x09, 0x0D⟩, ⟨0x20, 0x20⟩]⟩

/-- What an escape stands for. -/
inductive Escape where
  /-- A character; `byte` marks the two-digit form, which names a byte when Unicode is off. -/
  | literal (c : Char) (byte : Bool)
  | set (set : CharSet)
  | look (assertion : Look)
  deriving DecidableEq, Repr

/-- The character of a code point. -/
def character? (n : Nat) : Option Char :=
  if n.isValidChar then some (Char.ofNat n) else none

/-- So many hexadecimal digits, with skipped space between and after them. -/
def readHexDigits (flags : Flags) : (count : Nat) → (value : Nat) → List Char →
    Option (Nat × List Char)
  | 0, value, s => some (value, s)
  | _ + 1, _, [] => none
  | count + 1, value, c :: s =>
    match digitValue? c with
    | some d => readHexDigits flags count (value * 16 + d) (flags.space s)
    | none => none

/-- Characters up to a closing brace; `none` if there is none. Space is skipped if so flagged. -/
def readBraced (flags : Flags) : (fuel : Nat) → (soFar : List Char) → List Char →
    Option (List Char × List Char)
  | 0, _, _ => none
  | fuel + 1, soFar, s =>
    match flags.space s with
    | [] => none
    | c :: s =>
      if c == '\x7d' then some (soFar.reverse, s) else readBraced flags fuel (c :: soFar) s

/-- The rest of a hexadecimal escape with so many digits in its short form. -/
def readHex (flags : Flags) (count : Nat) (byte : Bool) (s : List Char) :
    Option (Escape × List Char) :=
  match flags.space s with
  | '\x7b' :: s =>
    match readBraced flags (s.length + 1) [] s with
    | some (digits, s) =>
      match (digits? 16 digits).bind character? with
      | some c => some (.literal c false, flags.space s)
      | none => none
    | none => none
  | s =>
    match readHexDigits flags count 0 s with
    | some (value, s) => (character? value).map fun c => (.literal c byte, s)
    | none => none

/-- Splits at the first place where a text stands. -/
def splitAt? (separator : List Char) : List Char → Option (List Char × List Char)
  | [] => none
  | c :: s =>
    if separator.isPrefixOf (c :: s) then some ([], (c :: s).drop separator.length)
    else (splitAt? separator s).map fun parts => (c :: parts.1, parts.2)

/-- The set named inside the braces of a property escape, and whether the name negates it. -/
def namedProperty? (name : List Char) : Option (CharSet × Bool) :=
  match splitAt? ['!', '='] name with
  | some (property, value) => (propertyValue? property value).map fun set => (set, true)
  | none =>
    match splitAt? [':'] name <|> splitAt? ['='] name with
    | some (property, value) => (propertyValue? property value).map fun set => (set, false)
    | none => (property? name).map fun set => (set, false)

/-- The rest of a property escape. -/
def readProperty (flags : Flags) (negated : Bool) (s : List Char) : Option (Escape × List Char) := do
  if !flags.unicode then none
  match flags.space s with
  | [] => none
  | '\x7b' :: s =>
    let (name, s) ← readBraced flags (s.length + 1) [] s
    let (set, negatedByName) ← namedProperty? name
    return (.set (← flags.foldNegate? (negated != negatedByName) set), s)
  | c :: s =>
    if c == '\\' then none
    return (.set (← flags.foldNegate? negated (← property? [c])), flags.space s)

/-- The edge named inside the braces after a word boundary. -/
def namedEdge? (name : List Char) : Option WordEdge :=
  match String.ofList name with
  | "start" => some .start
  | "end" => some .finish
  | "start-half" => some .startHalf
  | "end-half" => some .finishHalf
  | _ => none

/-- The rest of a word boundary: a name in braces, unless what follows is a repetition. -/
def readBoundary (flags : Flags) (s : List Char) : Option (Escape × List Char) :=
  let plain := some (Escape.look (.word .boundary (!flags.unicode)), s)
  match s with
  | '\x7b' :: rest =>
    match flags.space rest with
    | [] => none
    | c :: inner =>
      if c.isAlpha || c == '-' then
        match readBraced flags (rest.length + 1) [] (c :: inner) with
        | some (name, s) =>
          (namedEdge? name).map fun edge => (.look (.word edge (!flags.unicode)), s)
        | none => none
      else plain
  | _ => plain

/-- What follows a backslash. -/
def readEscape (flags : Flags) : List Char → Option (Escape × List Char)
  | [] => none
  | c :: s =>
    let shorthand (negated : Bool) (wide narrow : CharSet) : Option (Escape × List Char) :=
      (flags.negate? negated (if flags.unicode then wide else narrow)).map fun set => (.set set, s)
    let edge (edge : WordEdge) : Option (Escape × List Char) :=
      some (.look (.word edge (!flags.unicode)), s)
    match c with
    | 'x' => readHex flags 2 true s
    | 'u' => readHex flags 4 false s
    | 'U' => readHex flags 8 false s
    | 'p' => readProperty flags false s
    | 'P' => readProperty flags true s
    | 'd' => shorthand false Category.decimalNumber asciiDigit
    | 'D' => shorthand true Category.decimalNumber asciiDigit
    | 's' => shorthand false Property.whiteSpace asciiBlank
    | 'S' => shorthand true Property.whiteSpace asciiBlank
    | 'w' => shorthand false Property.word asciiWord
    | 'W' => shorthand true Property.word asciiWord
    | 'a' => some (.literal '\x07' false, s)
    | 'f' => some (.literal '\x0c' false, s)
    | 't' => some (.literal '\t' false, s)
    | 'n' => some (.literal '\n' false, s)
    | 'r' => some (.literal '\x0d' false, s)
    | 'v' => some (.literal '\x0b' false, s)
    | 'A' => some (.look .textStart, s)
    | 'z' => some (.look .textEnd, s)
    | 'b' => readBoundary flags s
    | 'B' => edge .inside
    | '<' => edge .start
    | '>' => edge .finish
    | _ => if c.isAlphanum || c.toNat ≥ 128 then none else some (.literal c false, s)

end Placeholders.Pattern
