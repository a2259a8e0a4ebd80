import Placeholders.Data.Yaml.Place
import Placeholders.Text.Numeral

/-!
# Names, tags and directives of YAML

What may stand before a node, and before a document.

* A tag is a handle and a suffix; a directive may say what a handle stands for. The two standard
  handles stand for an exclamation mark and for the tags of the language itself.
* Escapes in tags name octets, so a tag need not be a text.
-/

namespace Placeholders.Data.Yaml

open Placeholders.Text

/-! ## 1. Tags -/

/-- A tag, by its octets. -/
structure Tag where
  octets : List UInt8
  deriving DecidableEq, Repr

namespace Tag

/-- The tag of a text. -/
def ofText (s : String) : Tag := ⟨s.toUTF8.toList⟩

/-- What the tags of the language begin with. -/
def standard : String := "tag:yaml.org,2002:"

/-- Whether a tag is the one of the language with this name. -/
def isStandard (tag : Tag) (name : String) : Bool := tag == ofText (standard ++ name)

/-- The name of a tag of the document's own: what follows its exclamation mark. -/
def own? (tag : Tag) : Option String :=
  match tag.octets with
  | 0x21 :: name => String.fromUTF8? ⟨name.toArray⟩
  | _ => none

end Tag

/-- What the handles of tags stand for. -/
abbrev Handles := List (String × List UInt8)

/-- The handles that need no directive. -/
def standardHandles : Handles :=
  [("!", (Tag.ofText "!").octets), ("!!", (Tag.ofText Tag.standard).octets)]

/-- A tag by its handle and its suffix. A suffix without a handle is the whole tag. -/
def Handles.tag? (handles : Handles) (handle : String) (suffix : List UInt8) : Option Tag :=
  if handle.isEmpty then some ⟨suffix⟩
  else (handles.lookup handle).map fun front => ⟨front ++ suffix⟩

/-! ## 2. Names -/

/-- The name of an anchor, and what follows it. -/
def anchorName? (p : Place) : Option (String × Place) :=
  let (name, q) := p.span isNameChar
  let ends :=
    endsWord q.rest || q.head?.any ['?', ':', ',', ']', '\x7d', '%', '@', '\x60'].contains
  if name.isEmpty || !ends then none else some (String.ofList name, q)

/-! ## 3. Reading tags -/

/-- Whether a character may stand in a tag. In angle brackets and in directives there are more of
    them. -/
def isTagChar (wide : Bool) (c : Char) : Bool :=
  isNameChar c || [';', '/', '?', ':', '@', '&', '=', '+', '$', '.', '%', '!', '~', '*', '\'', '(',
    ')'].contains c || (wide && (c == ',' || c == '[' || c == ']'))

/-- The octet of an escape, and what follows it. -/
def octet? : List Char → Option (Nat × List Char)
  | '%' :: a :: b :: rest => (digits? 16 [a, b]).map fun n => (n, rest)
  | _ => none

/-- How many octets a character has that begins with this one. -/
def octetCount? (n : Nat) : Option Nat :=
  if n < 0x80 then some 1
  else if 0xC0 ≤ n && n < 0xE0 then some 2
  else if 0xE0 ≤ n && n < 0xF0 then some 3
  else if 0xF0 ≤ n && n < 0xF8 then some 4
  else none

/-- The octets of a tag's characters; `more` of them are still to come for the present character. -/
def tagOctets? : (fuel more : Nat) → (soFar : List UInt8) → List Char → Option (List UInt8)
  | 0, _, _, _ => none
  | _ + 1, 0, soFar, [] => some soFar.reverse
  | _ + 1, _ + 1, _, [] => none
  | fuel + 1, more, soFar, c :: s =>
    if c == '%' then
      match octet? (c :: s) with
      | none => none
      | some (n, rest) =>
        match more with
        | 0 =>
          (octetCount? n).bind fun count => tagOctets? fuel (count - 1) (n.toUInt8 :: soFar) rest
        | more + 1 =>
          if 0x80 ≤ n && n < 0xC0 then tagOctets? fuel more (n.toUInt8 :: soFar) rest else none
    else if more == 0 then tagOctets? fuel 0 (c.toNat.toUInt8 :: soFar) s
    else none

/-- The characters of a tag after `front`, and what follows them. There must be at least one character
    with those of `front`. A zero octet ends the tag. -/
def tagText? (wide : Bool) (front : List Char) (p : Place) : Option (List UInt8 × Place) :=
  let (found, q) := p.span (isTagChar wide)
  let chars := front ++ found
  if chars.isEmpty then none
  else
    (tagOctets? (chars.length + 1) 0 [] chars).map fun octets => (octets.takeWhile (· != 0), q)

/-- A handle: names between two exclamation marks, or what looks like the beginning of one. -/
def tagHandle (p : Place) : List Char × Place :=
  let (name, q) := p.advance.span isNameChar
  if q.head? == some '!' then ('!' :: name ++ ['!'], q.advance) else ('!' :: name, q)

/-- Whether characters are a handle with two exclamation marks. -/
def isNamedHandle (handle : List Char) : Bool :=
  decide (2 ≤ handle.length) && handle.getLast? == some '!'

/-- A tag, from its exclamation mark on: its handle, its suffix, and what follows it. -/
def tag? (inside : Bool) (p : Place) : Option ((String × List UInt8) × Place) := do
  let (tag, q) ←
    if (p.rest.drop 1).head? == some '<' then do
      let (suffix, q) ← tagText? true [] (p.advanceBy 2)
      if q.head? == some '>' then some (("", suffix), q.advance) else none
    else do
      let (handle, q) := tagHandle p
      if isNamedHandle handle then do
        let (suffix, q) ← tagText? false [] q
        some ((String.ofList handle, suffix), q)
      else do
        let (found, q) := q.span (isTagChar false)
        let chars := handle.drop 1 ++ found
        let octets ← tagOctets? (chars.length + 1) 0 [] chars
        let suffix := octets.takeWhile (· != 0)
        some (if suffix.isEmpty then ("", (Tag.ofText "!").octets) else ("!", suffix), q)
  if endsWord q.rest || (inside && q.head? == some ',') then some (tag, q) else none

/-! ## 4. Directives -/

/-- What a directive says. -/
inductive Directive where
  | version (major minor : Nat)
  | handle (name : String) (front : List UInt8)
  deriving DecidableEq, Repr

/-- A number in a version: at most nine digits. -/
def versionNumber? (p : Place) : Option (Nat × Place) :=
  let (found, q) := p.span Char.isDigit
  if 9 < found.length then none else (digits? 10 found).map fun n => (n, q)

/-- The value of a directive that names a version. -/
def version? (p : Place) : Option (Directive × Place) := do
  let (major, q) ← versionNumber? p.skipBlanks
  if q.head? != some '.' then none
  let (minor, q) ← versionNumber? q.advance
  return (.version major minor, q)

/-- The value of a directive that says what a handle stands for. -/
def handle? (p : Place) : Option (Directive × Place) := do
  let p := p.skipBlanks
  if p.head? != some '!' then none
  let (name, q) := tagHandle p
  if !(name == ['!'] || isNamedHandle name) || !q.head?.any isBlank then none
  let (front, q) ← tagText? true [] q.skipBlanks
  if endsWord q.rest then return (.handle (String.ofList name) front, q) else none

/-- A directive, from its percent sign on, and the place of the line end after it. -/
def directive? (p : Place) : Option (Directive × Place) := do
  let (name, q) := p.advance.span isNameChar
  if name.isEmpty || !endsWord q.rest then none
  let (found, q) ←
    if name == "YAML".toList then version? q
    else if name == "TAG".toList then handle? q
    else none
  let q := q.skipBlanks
  let q := if q.head? == some '#' then q.skipLine else q
  if endsWord q.rest then return (found, q) else none

/-- What the directives of a document say about its handles. At most one of them names a version, which
    must be known; none repeats a handle. -/
def directives? (version : Bool) (handles : Handles) : List Directive → Option Handles
  | [] => some (handles ++ standardHandles)
  | .version major minor :: rest =>
    if version || major != 1 || !(minor == 1 || minor == 2) then none
    else directives? true handles rest
  | .handle name front :: rest =>
    if (handles.lookup name).isSome then none else directives? version ((name, front) :: handles) rest

end Placeholders.Data.Yaml
