/-!
# Places in a YAML document

Indentation means something in YAML, so a reader has to know the line and the column that it is at.

* `Place.skip` passes over blanks, comments and line ends. Tabs may not indent, so they are passed over
  only where a line has begun already, or inside brackets.
* A mark of encoding at the beginning of a line is passed over, but keeps its column.
* `prepare?` brings line ends into one form and refuses control characters.
-/

namespace Placeholders.Data.Yaml

/-! ## 1. Characters -/

/-- A blank within a line. -/
def isBlank (c : Char) : Bool := c == ' ' || c == '\t'

/-- The end of a line, after `prepare?`. The two separators of Unicode are ends of lines, too. -/
def isBreak (c : Char) : Bool := c == '\n' || c == '\u2028' || c == '\u2029'

/-- Whether a word ends here. -/
def endsWord : List Char → Bool
  | [] => true
  | c :: _ => isBlank c || isBreak c

/-- Whether a character may stand in a name. -/
def isNameChar (c : Char) : Bool := c.isAlphanum || c == '_' || c == '-'

/-- Whether a character may stand in a document. -/
def isAllowed (c : Char) : Bool :=
  let n := c.toNat
  n == 0x09 || n == 0x0A || n == 0x0D || (0x20 ≤ n && n ≤ 0x7E) || n == 0x85
    || (0xA0 ≤ n && n ≤ 0xD7FF) || (0xE000 ≤ n && n ≤ 0xFFFD) || 0x10000 ≤ n

/-- The text with every line end as a line feed, after what comes before it in reverse. -/
def joinLineEnds (before : List Char) : List Char → List Char
  | [] => before.reverse
  | '\x0d' :: '\n' :: s => joinLineEnds ('\n' :: before) s
  | c :: s => joinLineEnds ((if c == '\x0d' || c == '\u0085' then '\n' else c) :: before) s

/-- The text of a document with one form of line ends. -/
def prepare? (s : List Char) : Option (List Char) :=
  if s.all isAllowed then some (joinLineEnds [] s) else none

/-! ## 2. Places -/

/-- A place in a document. -/
structure Place where
  line : Nat := 0
  /-- The characters before it on its line. -/
  column : Nat := 0
  /-- The octets of those characters. -/
  octets : Nat := 0
  /-- What has not been read yet. -/
  rest : List Char

namespace Place

/-- The place after the next character. -/
def advance (p : Place) : Place :=
  match p.rest with
  | [] => p
  | c :: rest =>
    if isBreak c then { line := p.line + 1, rest }
    else { p with column := p.column + 1, octets := p.octets + c.utf8Size, rest }

/-- The place after so many characters. -/
def advanceBy (p : Place) : Nat → Place
  | 0 => p
  | n + 1 => p.advance.advanceBy n

/-- The characters of this line that pass a test, up to the first one that does not, and the place
    after them. The test must refuse line ends. -/
def span (p : Place) (test : Char → Bool) : List Char × Place :=
  let found := p.rest.takeWhile test
  (found, {
    line := p.line
    column := p.column + found.length
    octets := found.foldl (fun n c => n + c.utf8Size) p.octets
    rest := p.rest.drop found.length })

/-- The next character. -/
def head? (p : Place) : Option Char := p.rest.head?

/-- Whether the document ends here. -/
def isEnd (p : Place) : Bool := p.rest.isEmpty

/-- Whether three characters stand at the beginning of a line, and nothing right after them. -/
def hasMarker (p : Place) (c : Char) : Bool :=
  p.column == 0 && [c, c, c].isPrefixOf p.rest && endsWord (p.rest.drop 3)

/-- Whether a marker of a document stands here. -/
def atMarker (p : Place) : Bool := p.hasMarker '-' || p.hasMarker '.'

/-- The place after blanks. -/
def skipBlanks (p : Place) : Place := (p.span isBlank).2

/-- The place after the rest of a line, without its end. -/
def skipLine (p : Place) : Place := (p.span fun c => !isBreak c).2

/-- Passes over blanks, comments and line ends, and answers whether a line has ended. Within brackets
    tabs are blanks everywhere, otherwise only up to the first line end. -/
def skipFrom (inside : Bool) : (fuel : Nat) → (tabs ended : Bool) → Place → Place × Bool
  | 0, _, ended, p => (p, ended)
  | fuel + 1, tabs, ended, p =>
    let p := if p.column == 0 && p.head? == some '\ufeff' then p.advance else p
    let p := (p.span fun c => c == ' ' || (tabs && c == '\t')).2
    let p := if p.head? == some '#' then p.skipLine else p
    if p.head?.any isBreak then skipFrom inside fuel inside true p.advance else (p, ended)

/-- Passes over everything up to the next token, and answers whether a line has ended. `tabs` says
    whether tabs are blanks here; `fuel` must be more than the number of characters that are left. -/
def skip (p : Place) (inside tabs : Bool) (fuel : Nat) : Place × Bool :=
  skipFrom inside fuel (inside || tabs) false p

end Place

end Placeholders.Data.Yaml
