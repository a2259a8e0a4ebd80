import Placeholders.Data.Yaml.Place
import Placeholders.Text.Numeral

/-!
# Scalars of YAML

Texts in their five written forms: plain, in single or double quotes, and as literal or folded blocks.

* In all but the literal form a single line end is a space, and of several the first one is dropped.
* `low` is the least column that a further line of a plain scalar, or a line of a block, may begin in.
* What has been read of a text is kept with its last character first.
* `fuel` must be more than the number of characters that are left.
-/

namespace Placeholders.Data.Yaml

open Placeholders.Text

/-- How a scalar is written. -/
inductive Style where
  | plain
  | quoted
  | literal
  | folded
  deriving DecidableEq, Repr

/-! ## 1. Gaps between words -/

/-- Blanks and line ends between two words, each with the last one first. -/
structure Gap where
  /-- The blanks before the first line end. -/
  blanks : List Char := []
  breaks : List Char := []
  /-- A tab stands where a line should be indented further. -/
  badTab : Bool := false

/-- What a gap is in the text, last character first: blanks if there is no line end in it, else folded
    line ends. -/
def Gap.folded (gap : Gap) : List Char :=
  match gap.breaks with
  | [] => gap.blanks
  | ['\n'] => [' ']
  | breaks => if breaks.getLast? == some '\n' then breaks.dropLast else breaks

/-- Reads a gap. -/
def readGap (low : Nat) : (fuel : Nat) → Gap → Place → Gap × Place
  | 0, gap, p => (gap, p)
  | fuel + 1, gap, p =>
    match p.rest with
    | [] => (gap, p)
    | c :: _ =>
      if isBreak c then readGap low fuel { gap with breaks := c :: gap.breaks } p.advance
      else if isBlank c then
        if gap.breaks.isEmpty then readGap low fuel { gap with blanks := c :: gap.blanks } p.advance
        else readGap low fuel { gap with badTab := gap.badTab || (c == '\t' && p.column < low) } p.advance
      else (gap, p)

/-! ## 2. Plain scalars -/

/-- The characters that separate things within brackets. -/
def isBracketSign (c : Char) : Bool :=
  c == ',' || c == '[' || c == ']' || c == '\x7b' || c == '\x7d'

/-- Whether a plain scalar ends before a text. -/
def endsPlain (inside : Bool) : List Char → Bool
  | [] => true
  | c :: rest => (c == ':' && endsWord rest) || (inside && isBracketSign c)

/-- Whether a colon stands where brackets leave its meaning open. -/
def isDoubtful (inside : Bool) : List Char → Bool
  | ':' :: c :: _ => inside && (isBracketSign c || c == '?')
  | _ => false

/-- Characters that no plain scalar begins with. -/
def isIndicator (c : Char) : Bool :=
  ['-', '?', ':', ',', '[', ']', '\x7b', '\x7d', '#', '&', '*', '!', '|', '>', '\'', '"', '%', '@',
    '\x60'].contains c

/-- Whether a plain scalar can begin with a text. A dash needs something after it on its line or the
    end of the line, the marks of keys and values need something right after them. -/
def startsPlain (inside : Bool) : List Char → Bool
  | [] => false
  | c :: rest =>
    if isBlank c || isBreak c then false
    else if c == '-' then !rest.head?.any isBlank
    else if c == '?' || c == ':' then !inside && !endsWord rest
    else !isIndicator c

/-- The rest of a plain scalar: its text, whether a line has ended after it, and the place after
    it and the gap that follows. -/
def readPlain (inside : Bool) (low : Nat) : (fuel : Nat) → (soFar : List Char) → Place →
    Option (List Char × Bool × Place)
  | 0, _, _ => none
  | fuel + 1, soFar, p =>
    match p.rest with
    | [] => some (soFar.reverse, false, p)
    | c :: _ =>
      if isBlank c || isBreak c then
        let (gap, q) := readGap low (fuel + 1) {} p
        if gap.badTab then none
        else if q.isEnd || q.atMarker || q.head? == some '#' || (!inside && q.column < low) then
          some (soFar.reverse, !gap.breaks.isEmpty, q)
        else if isDoubtful inside q.rest then none
        else if endsPlain inside q.rest then some (soFar.reverse, !gap.breaks.isEmpty, q)
        else readPlain inside low fuel (gap.folded ++ soFar) q
      else if isDoubtful inside p.rest then none
      else if endsPlain inside p.rest then some (soFar.reverse, false, p)
      else readPlain inside low fuel (c :: soFar) p.advance

/-- A plain scalar, whether a line has ended after it, and the place that follows. -/
def plain? (inside : Bool) (low fuel : Nat) (p : Place) : Option (List Char × Bool × Place) :=
  readPlain inside low fuel [] p

/-! ## 3. Quoted scalars -/

/-- The character of an escape of one letter. -/
def simpleEscape? (c : Char) : Option Char :=
  [('0', '\x00'), ('a', '\x07'), ('b', '\x08'), ('t', '\t'), ('\t', '\t'), ('n', '\n'), ('v', '\x0b'),
    ('f', '\x0c'), ('r', '\x0d'), ('e', '\x1b'), (' ', ' '), ('"', '"'), ('/', '/'), ('\\', '\\'),
    ('N', '\u0085'), ('_', '\u00a0'), ('L', '\u2028'), ('P', '\u2029')].lookup c

/-- How many digits follow the letter of a numeric escape. -/
def escapeDigits? (c : Char) : Option Nat :=
  [('x', 2), ('u', 4), ('U', 8)].lookup c

/-- The character of an escape, and the number of characters after the backslash. -/
def escape? : List Char → Option (Char × Nat)
  | [] => none
  | c :: rest =>
    match escapeDigits? c with
    | none => (simpleEscape? c).map fun d => (d, 1)
    | some count =>
      let digits := rest.take count
      if digits.length < count then none
      else
        (digits? 16 digits).bind fun n =>
          if n.isValidChar then some (Char.ofNat n, count + 1) else none

/-- The rest of a quoted scalar after its opening quote. A backslash before a line end drops that line
    end and the blanks after it. -/
def readQuoted (quote : Char) : (fuel : Nat) → (soFar : List Char) → Place →
    Option (List Char × Place)
  | 0, _, _ => none
  | fuel + 1, soFar, p =>
    if p.atMarker then none
    else
      match p.rest with
      | [] => none
      | c :: rest =>
        if isBlank c || isBreak c then
          let (gap, q) := readGap 0 (fuel + 1) {} p
          readQuoted quote fuel (gap.folded ++ soFar) q
        else if c == quote then
          if quote == '\'' && rest.head? == some '\'' then
            readQuoted quote fuel ('\'' :: soFar) (p.advanceBy 2)
          else some (soFar.reverse, p.advance)
        else if quote == '"' && c == '\\' then
          if rest.head?.any isBreak then
            let (gap, q) := readGap 0 (fuel + 1) {} (p.advanceBy 2)
            readQuoted quote fuel (gap.breaks ++ soFar) q
          else
            match escape? rest with
            | some (d, count) => readQuoted quote fuel (d :: soFar) (p.advanceBy (count + 1))
            | none => none
        else readQuoted quote fuel (c :: soFar) p.advance

/-- A quoted scalar, from its opening quote on. -/
def quoted? (fuel : Nat) (p : Place) : Option (List Char × Place) :=
  p.head?.bind fun quote => readQuoted quote fuel [] p.advance

/-! ## 4. Blocks -/

/-- What becomes of the line ends at the end of a block. -/
inductive Chomping where
  /-- All are dropped. -/
  | strip
  /-- One is kept. -/
  | clip
  /-- All are kept. -/
  | keep
  deriving DecidableEq, Repr

/-- The sign of a way to end a block. -/
def chompingOf? (c : Char) : Option Chomping :=
  if c == '-' then some .strip else if c == '+' then some .keep else none

/-- A digit that says how far a block is indented. -/
def indentOf? (c : Char) : Option Nat :=
  if '1' ≤ c ∧ c ≤ '9' then some (c.toNat - '0'.toNat) else none

/-- The sign and the digit in the head of a block, in either order; and how many there are. -/
def blockSigns (s : List Char) : Chomping × Option Nat × Nat :=
  match s.head?.bind chompingOf?, s.head?.bind indentOf? with
  | some chomping, _ =>
    match (s.drop 1).head?.bind indentOf? with
    | some n => (chomping, some n, 2)
    | none => (chomping, none, 1)
  | none, some n =>
    match (s.drop 1).head?.bind chompingOf? with
    | some chomping => (chomping, some n, 2)
    | none => (.clip, some n, 1)
  | none, none => (.clip, none, 0)

/-- Blank lines before a line of a block: their line ends, the widest indentation among them, and the
    place after them. Blanks are read up to the column `indent`, or all of them if it is not known
    yet. -/
def readEmptyLines (indent : Option Nat) : (fuel : Nat) → (breaks : List Char) → (widest : Nat) →
    Place → Option (List Char × Nat × Place)
  | 0, _, _, _ => none
  | fuel + 1, breaks, widest, p =>
    let within := indent.all fun n => decide (p.column < n)
    match p.rest with
    | [] => some (breaks, max widest p.column, p)
    | c :: _ =>
      if c == ' ' && within then readEmptyLines indent fuel breaks widest p.advance
      else if c == '\t' && within then none
      else if isBreak c then
        readEmptyLines indent fuel (c :: breaks) (max widest p.column) p.advance
      else some (breaks, max widest p.column, p)

/-- The lines of a block. `ended` is the line end of the line before, `breaks` are those of the blank
    lines after it. Answers the text and the line ends after it. -/
def readLines (folded : Bool) (indent : Nat) : (fuel : Nat) → (soFar ended breaks : List Char) →
    (wasBlank : Bool) → Place → Option ((List Char × List Char × List Char) × Place)
  | 0, _, _, _, _, _ => none
  | fuel + 1, soFar, ended, breaks, wasBlank, p =>
    if p.column != indent || p.isEnd then some ((soFar, ended, breaks), p)
    else
      let isBlankLine := p.head?.any isBlank
      let joint :=
        if folded && ended == ['\n'] && !wasBlank && !isBlankLine then
          if breaks.isEmpty then [' '] else breaks
        else breaks ++ ended
      let (line, q) := p.span fun c => !isBreak c
      let soFar := line.reverse ++ (joint ++ soFar)
      let ended := q.rest.take 1
      match readEmptyLines (some indent) (fuel + 1) [] 0 q.advance with
      | some (breaks, _, next) => readLines folded indent fuel soFar ended breaks isBlankLine next
      | none => none

/-- A block, from its indicator on. -/
def block? (low fuel : Nat) (p : Place) : Option (List Char × Place) :=
  let isFolded := p.head? == some '>'
  let (chomping, digit, count) := blockSigns (p.rest.drop 1)
  let head := (p.advanceBy (count + 1)).skipBlanks
  if !(endsWord head.rest || head.head? == some '#') then none
  else
    let start := head.skipLine.advance
    let known := digit.map fun n => (low - 1) + n
    match readEmptyLines known fuel [] 0 start with
    | none => none
    | some (breaks, widest, first) =>
      let indent := known.getD (max widest (max low 1))
      match readLines isFolded indent fuel [] [] breaks false first with
      | none => none
      | some ((soFar, ended, breaks), last) =>
        let tail := match chomping with
          | .strip => []
          | .clip => ended
          | .keep => breaks ++ ended
        some ((tail ++ soFar).reverse, last)

end Placeholders.Data.Yaml
