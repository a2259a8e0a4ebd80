import Placeholders.Data.Yaml.Scalar
import Placeholders.Data.Yaml.Tag

/-!
# Tokens of YAML

The signs and words of a document, with the beginnings and ends of its blocks made visible.

* A block begins where a line, or an entry before it, is indented further than the block around it,
  and ends before the first token that is not indented as far.
* A key is known as such only at the colon after it. So wherever a key may begin, the place is kept
  until a colon comes, or something that rules it out: another line, or more than 1024 octets.
* `fresh` says that a key or an entry of a block may begin here.
-/

namespace Placeholders.Data.Yaml

/-! ## 1. Tokens -/

/-- A token of a document. -/
inductive Token where
  | directive (d : Directive)
  | documentStart
  | documentEnd
  /-- The beginning of a block sequence. -/
  | sequenceStart
  /-- The beginning of a block mapping. -/
  | mappingStart
  /-- The end of a block of either kind. -/
  | blockEnd
  | bracketOpen
  | bracketClose
  | braceOpen
  | braceClose
  | comma
  | dash
  | key
  | value
  | alias (name : String)
  | anchor (name : String)
  | tag (handle : String) (suffix : List UInt8)
  | scalar (style : Style) (text : String)
  deriving DecidableEq, Repr

/-- A place where a key may have begun. -/
structure PossibleKey where
  line : Nat
  column : Nat
  octets : Nat
  /-- The number of tokens before it. -/
  position : Nat
  /-- There must be a key here, for it stands where the keys of its block stand. -/
  isRequired : Bool
  deriving DecidableEq, Repr

/-- The farthest that a colon may be from the beginning of its key, in octets. -/
def keyLimit : Nat := 1024

/-! ## 2. Scanning -/

/-- A state of scanning. -/
structure Scan where
  place : Place
  /-- The tokens so far, last one first. -/
  tokens : List Token := []
  /-- Their number. -/
  count : Nat := 0
  /-- The least column of what belongs to an entry of the present block. -/
  low : Nat := 0
  /-- The same for the blocks around it, innermost first. -/
  lows : List Nat := []
  /-- A key that may have begun, within the innermost brackets. -/
  key? : Option PossibleKey := none
  /-- The same for what is around each pair of brackets, innermost first. -/
  outerKeys : List (Option PossibleKey) := []
  fresh : Bool := true

namespace Scan

/-- Whether the present place is within brackets. -/
def inside (s : Scan) : Bool := !s.outerKeys.isEmpty

/-- The state with one more token. -/
def push (s : Scan) (t : Token) : Scan := { s with tokens := t :: s.tokens, count := s.count + 1 }

/-- The state with one more token, which takes so many characters. -/
def take (s : Scan) (t : Token) (length : Nat) : Scan :=
  { s.push t with place := s.place.advanceBy length }

/-- The state with one more token after the first ones. -/
def insert (s : Scan) (position : Nat) (t : Token) : Scan :=
  let after := s.count - position
  { s with tokens := s.tokens.take after ++ t :: s.tokens.drop after, count := s.count + 1 }

/-- Ends the blocks whose entries lie beyond a bound: `lows` are the least columns of the present block
    and of those around it. -/
def closeBlocks (s : Scan) (bound : Nat) : (lows : List Nat) → Scan
  | low :: outer :: lows =>
    if bound < low then closeBlocks (s.push .blockEnd) bound (outer :: lows)
    else { s with low, lows := outer :: lows }
  | [low] => { s with low, lows := [] }
  | [] => s

/-- Ends the blocks whose entries lie beyond a bound. Brackets keep all blocks around them open. -/
def closeTo (s : Scan) (bound : Nat) : Scan :=
  if s.inside then s else s.closeBlocks bound (s.low :: s.lows)

/-- Begins a block in a column, if that is further than the present block; `position` is the number of
    tokens before it. -/
def openAt (s : Scan) (column position : Nat) (t : Token) : Scan :=
  if s.inside || column < s.low then s
  else
    { s.insert position t with low := column + 1, lows := s.low :: s.lows }

/-- Begins a block at the present place. -/
def openHere (s : Scan) (t : Token) : Scan := s.openAt s.place.column s.count t

/-- Gives up the key that may have begun. -/
def dropKey? (s : Scan) : Option Scan :=
  match s.key? with
  | some key => if key.isRequired then none else some { s with key? := none }
  | none => some s

/-- Keeps the present place, if a key may begin here. -/
def saveKey? (s : Scan) : Option Scan :=
  if s.fresh then
    s.dropKey?.map fun s =>
      { s with
        key? := some {
          line := s.place.line
          column := s.place.column
          octets := s.place.octets
          position := s.count
          isRequired := !s.inside && s.low == s.place.column + 1 } }
  else some s

/-- Whether the key that may have begun is too far away. -/
def isTooFar (s : Scan) (key : PossibleKey) : Bool :=
  key.line < s.place.line || key.octets + keyLimit < s.place.octets

/-! ## 3. Signs -/

/-- The beginning of a block sequence or an entry of it. -/
def dash? (s : Scan) : Option Scan := do
  if !s.inside && !s.fresh then none
  let s ← (s.openHere .sequenceStart).dropKey?
  return { s.take .dash 1 with fresh := true }

/-- The sign of a key. -/
def mark? (s : Scan) : Option Scan := do
  if !s.inside && !s.fresh then none
  let s ← (s.openHere .mappingStart).dropKey?
  return { s.take .key 1 with fresh := !s.inside }

/-- A colon after a key on the same line. -/
def colonAfter (s : Scan) (key : PossibleKey) : Scan :=
  let s := (s.insert key.position .key).openAt key.column key.position .mappingStart
  { s.take .value 1 with key? := none, fresh := false }

/-- A colon after a key that has a sign of its own, or after none. -/
def colonAlone? (s : Scan) : Option Scan :=
  if !s.inside && !s.fresh then none
  else some { (s.openHere .mappingStart).take .value 1 with fresh := !s.inside }

/-- The sign of a value. -/
def colon? (s : Scan) : Option Scan :=
  match s.key? with
  | none => s.colonAlone?
  | some key =>
    if !s.isTooFar key then some (s.colonAfter key)
    else s.dropKey?.bind colonAlone?

/-- An opening bracket or brace. -/
def opening? (s : Scan) (t : Token) : Option Scan :=
  s.saveKey?.map fun s =>
    { s.take t 1 with fresh := true, key? := none, outerKeys := s.key? :: s.outerKeys }

/-- A closing bracket or brace. -/
def closing? (s : Scan) (t : Token) : Option Scan :=
  s.dropKey?.map fun s =>
    let s := { s.take t 1 with fresh := false }
    match s.outerKeys with
    | [] => s
    | key :: outer => { s with key? := key, outerKeys := outer }

/-- A comma between entries. -/
def comma? (s : Scan) : Option Scan :=
  s.dropKey?.map fun s => { s.take .comma 1 with fresh := true }

/-- What stands alone on a line between documents or before one: it ends all blocks. -/
def apart? (s : Scan) : Option Scan :=
  (s.closeTo 0).dropKey?.map fun s => { s with fresh := false }

/-! ## 4. Words -/

/-- A word that a key may begin with, through the function that reads it. -/
def word? (s : Scan) (read : Place → Option (Token × Place)) : Option Scan := do
  let s ← s.saveKey?
  let (t, q) ← read s.place
  return { s.push t with place := q, fresh := false }

/-- A plain scalar. A key may follow it if a line has ended. -/
def plainWord? (s : Scan) (fuel : Nat) : Option Scan := do
  let s ← s.saveKey?
  let (text, ended, q) ← plain? s.inside s.low fuel s.place
  return { s.push (.scalar .plain (String.ofList text)) with place := q, fresh := ended }

/-- A literal or folded block. -/
def blockWord? (s : Scan) (style : Style) (fuel : Nat) : Option Scan := do
  let s ← s.dropKey?
  let (text, q) ← block? s.low fuel s.place
  return { s.push (.scalar style (String.ofList text)) with place := q, fresh := true }

/-- A quoted scalar as a token. -/
def quotedToken? (fuel : Nat) (p : Place) : Option (Token × Place) :=
  (quoted? fuel p).map fun (text, q) => (.scalar .quoted (String.ofList text), q)

/-- A tag as a token. -/
def tagToken? (inside : Bool) (p : Place) : Option (Token × Place) :=
  (tag? inside p).map fun ((handle, suffix), q) => (.tag handle suffix, q)

/-- A directive. -/
def directiveWord? (s : Scan) : Option Scan := do
  let s ← s.apart?
  let (d, q) ← directive? s.place
  return { s.push (.directive d) with place := q.advance }

/-! ## 5. Documents -/

/-- The state after the next token, which begins at the present place. -/
def next? (s : Scan) (fuel : Nat) : Option Scan :=
  let p := s.place
  let after := p.rest.drop 1
  let isSign := s.inside || endsWord after
  if p.column == 0 && p.head? == some '%' then s.directiveWord?
  else if p.hasMarker '-' then s.apart?.map fun s => s.take .documentStart 3
  else if p.hasMarker '.' then s.apart?.map fun s => s.take .documentEnd 3
  else
    match p.head? with
    | some '[' => s.opening? .bracketOpen
    | some '\x7b' => s.opening? .braceOpen
    | some ']' => s.closing? .bracketClose
    | some '\x7d' => s.closing? .braceClose
    | some ',' => s.comma?
    | some '*' => s.word? fun p => (anchorName? p.advance).map fun (name, q) => (.alias name, q)
    | some '&' => s.word? fun p => (anchorName? p.advance).map fun (name, q) => (.anchor name, q)
    | some '!' => s.word? (tagToken? s.inside)
    | some '\'' => s.word? (quotedToken? fuel)
    | some '"' => s.word? (quotedToken? fuel)
    | c =>
      if c == some '-' && endsWord after then s.dash?
      else if c == some '?' && isSign then s.mark?
      else if c == some ':' && isSign then s.colon?
      else if c == some '|' && !s.inside then s.blockWord? .literal fuel
      else if c == some '>' && !s.inside then s.blockWord? .folded fuel
      else if startsPlain s.inside p.rest then s.plainWord? fuel
      else none

/-- The tokens of a document, once it has been read from the present place on. -/
def run : (fuel : Nat) → Scan → Option (List Token)
  | 0, _ => none
  | fuel + 1, s =>
    let (place, ended) := s.place.skip s.inside (!s.fresh) (fuel + 1)
    let s := { s with place, fresh := s.fresh || (ended && !s.inside) }
    if place.isEnd then s.apart?.map fun s => s.tokens.reverse
    else
      let s := s.closeTo (place.column + 1)
      (s.next? (fuel + 1)).bind (run fuel)

end Scan

/-- The tokens of a document. -/
def Token.ofText? (source : String) : Option (List Token) := do
  let chars ← prepare? source.toList
  Scan.run (chars.length + 2) { place := { rest := chars } }

end Placeholders.Data.Yaml
