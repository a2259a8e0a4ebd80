import Placeholders.Data.Asking
import Placeholders.Data.Yaml.Node
import Placeholders.Text.Numeral

/-!
# What the nodes of YAML mean

How a document answers when it is asked for values.

* A plain scalar leaves its type open: it reads as whatever is asked for, if its text allows that.
  `ofPlain?` picks a type where nothing in particular is asked for.
* A scalar in another form is a text, unless its tag says something else.
* An alias is a detour to the node that it stands for.
* A plain scalar without any text stands for an empty list and for an empty record, too.
-/

namespace Placeholders.Data.Yaml

open Placeholders.Text

/-! ## 1. Words -/

/-- The spellings of nothing. -/
def isNullWord (s : String) : Bool :=
  s == "null" || s == "Null" || s == "NULL" || s == "~"

/-- The spellings of the truth values. -/
def boolWord? (s : String) : Option Bool :=
  if s == "true" || s == "True" || s == "TRUE" then some true
  else if s == "false" || s == "False" || s == "FALSE" then some false
  else none

/-- Digits that start with a zero without being zero. They are text, not a number. -/
def isZeroPadded (s : List Char) : Bool :=
  let digits := match s with
    | '+' :: rest | '-' :: rest => rest
    | _ => s
  match digits with
  | '0' :: d :: rest => (d :: rest).all Char.isDigit
  | _ => false

/-- Digits in a base that is named by two leading characters. -/
def basedNumeral? (s : List Char) : Option Nat :=
  match s with
  | '0' :: 'x' :: rest => digits? 16 rest
  | '0' :: 'o' :: rest => digits? 8 rest
  | '0' :: 'b' :: rest => digits? 2 rest
  | _ => none

/-- The whole number that a word spells, of any size. -/
def wholeWord? (s : List Char) : Option Int :=
  if isZeroPadded s then none
  else
    match s with
    | '-' :: rest =>
      ((basedNumeral? rest).orElse fun _ => digits? 10 rest).map fun n => -(n : Int)
    | '+' :: rest => ((basedNumeral? rest).orElse fun _ => digits? 10 rest).map Int.ofNat
    | _ => ((basedNumeral? s).orElse fun _ => digits? 10 s).map Int.ofNat

/-- Numbers of twice as many bits as are allowed are below this. -/
def doubleWordBound : Nat := wordBound * wordBound

/-- What becomes of a whole number: it is kept if it fits sixty-four bits, refused if it fits only twice
    as many, and no whole number at all beyond that. -/
def sizedWhole? (n : Int) : Option (Option Datum) :=
  if -(signedBound : Int) ≤ n ∧ n < (wordBound : Int) then some (some (.whole n))
  else if -((doubleWordBound / 2 : Nat) : Int) ≤ n ∧ n < (doubleWordBound : Int) then some none
  else none

/-- An exponent: an optional sign and digits. -/
def exponent? (s : List Char) : Option Int :=
  match s with
  | '+' :: rest => (digits? 10 rest).map Int.ofNat
  | '-' :: rest => (digits? 10 rest).map fun n => -(n : Int)
  | _ => (digits? 10 s).map Int.ofNat

/-- The digits and the power of ten of a decimal number: digits around at most one point, at least one
    of them, and an exponent. -/
def decimalWord? (s : List Char) : Option (List Char × Int) :=
  let s := match s with
    | '+' :: rest | '-' :: rest => rest
    | _ => s
  let front := s.takeWhile Char.isDigit
  let s := s.dropWhile Char.isDigit
  let (back, s) := match s with
    | '.' :: rest => (rest.takeWhile Char.isDigit, rest.dropWhile Char.isDigit)
    | _ => ([], s)
  let exponent := match s with
    | [] => some 0
    | c :: rest => if c == 'e' || c == 'E' then exponent? rest else none
  if front.isEmpty && back.isEmpty then none
  else exponent.map fun e => (front ++ back, e - back.length)

/-- The least whole number that rounds to no finite double: half a step above the largest one. -/
def doubleBound : Nat := Nat.pow 2 1024 - Nat.pow 2 970

/-- Whether a number with these digits and this power of ten rounds to a finite double. -/
def isFinite (digits : List Char) (power : Int) : Bool :=
  let digits := digits.dropWhile (· == '0')
  if digits.isEmpty then true
  else if digits.length + power < 300 then true
  else if 310 < digits.length + power then false
  else
    let n := (digitsFrom 10 0 digits).getD 0
    if power < 0 then decide (n < doubleBound * Nat.pow 10 power.natAbs)
    else decide (n * Nat.pow 10 power.toNat < doubleBound)

/-- The spellings of infinities and of not a number. -/
def isBeyondNumbers (s : String) : Bool :=
  [".inf", ".Inf", ".INF", "+.inf", "+.Inf", "+.INF", "-.inf", "-.Inf", "-.INF", ".nan", ".NaN",
    ".NAN"].contains s

/-- The number that a word spells, if it is finite; what is beyond numbers is nothing. -/
def floatWord? (s : String) : Option Datum :=
  if isBeyondNumbers s then some .null
  else
    (decimalWord? s.toList).bind fun (digits, power) =>
      if isFinite digits power then some (.decimal s) else none

/-! ## 2. Scalars -/

/-- What a plain scalar is when nothing in particular is asked for. -/
def ofPlain? (s : String) : Option Datum :=
  if s.isEmpty || isNullWord s then some .null
  else
    match boolWord? s with
    | some b => some (.bool b)
    | none =>
      match (wholeWord? s.toList).bind sizedWhole? with
      | some d => d
      | none =>
        if isZeroPadded s.toList then some (.text s)
        else some ((floatWord? s).getD (.text s))

/-- What a scalar is when nothing in particular is asked for. A tag of the language holds whatever the
    style is; the document's own tags have no meaning. -/
def ofScalar? (tag : Option Tag) (style : Style) (s : String) : Option Datum :=
  match tag with
  | none => if style == .plain then ofPlain? s else some (.text s)
  | some tag =>
    if tag.own?.isSome then none
    else if tag.isStandard "bool" then (boolWord? s).map .bool
    else if tag.isStandard "int" then ((wholeWord? s.toList).bind sizedWhole?).join
    else if tag.isStandard "float" then floatWord? s
    else if tag.isStandard "null" then if isNullWord s then some .null else none
    else some (.text s)

/-- Whether a scalar may be read as something that its text spells: in plain style, and in literal style
    under the tag of the language for it. -/
def isOpen (name : String) (tag : Option Tag) (style : Style) : Bool :=
  style == .plain || (style == .literal && tag.any fun tag => tag.isStandard name)

/-- Whether a scalar stands for a list or a record without anything in it. -/
def isVoid (style : Style) (s : String) : Bool := style == .plain && s.isEmpty

/-! ## 3. Values -/

/-- A node in its document. -/
structure Value where
  document : Document
  node : Node

namespace Value

/-- The value that an alias leads to. -/
def target (v : Value) : Asking Value :=
  match v.node with
  | .alias number => do
    detour
    match v.document.node? number with
    | some node => return { v with node }
    | none => failure
  | _ => pure v

/-- The text of a scalar. -/
def text (v : Value) : Asking String := do
  match (← v.target).node with
  | .scalar _ _ s => return s
  | _ => failure

/-- The text of a scalar that may be read as what it spells. -/
def word (name : String) (v : Value) : Asking String := do
  match (← v.target).node with
  | .scalar tag style s => if isOpen name tag style then return s else failure
  | _ => failure

/-- The items of a sequence. -/
def items (v : Value) : Asking (List Value) := do
  match (← v.target).node with
  | .sequence _ items => return items.map fun node => { v with node }
  | .scalar _ style s => if isVoid style s then return [] else failure
  | _ => failure

/-- The pairs of a mapping, with the texts of their keys. -/
def fields (v : Value) : Asking (List (String × Value)) := do
  match (← v.target).node with
  | .mapping _ pairs =>
    pairs.mapM fun (key, node) => do return (← text { v with node := key }, { v with node })
  | .scalar _ style s => if isVoid style s then return [] else failure
  | _ => failure

/-- The value itself, unless it stands for nothing. -/
def given (v : Value) : Asking (Option Value) := do
  let v ← v.target
  match v.node with
  | .scalar tag .plain s =>
    match tag with
    | none => return if s.isEmpty || isNullWord s then none else some v
    | some tag =>
      if !tag.isStandard "null" then return some v
      else if isNullWord s then return none
      else failure
  | _ => return some v

/-- The name of a choice: a text, or a tag of the document's own before nothing. -/
def choice (v : Value) : Asking String := do
  match (← v.target).node with
  | .scalar tag style s =>
    match tag.bind Tag.own? with
    | none => return s
    | some name =>
      if style == .plain && (s.isEmpty || isNullWord s) then return name else failure
  | _ => failure

/-- The value as a data tree that is nested no deeper than `depth`. -/
def settled : (depth : Nat) → Value → Asking Datum
  | depth, v => do
    let v ← v.target
    match v.node, depth with
    | .scalar tag style s, _ => liftM (ofScalar? tag style s)
    | .sequence tag items, depth + 1 =>
      if (tag.bind Tag.own?).isSome then failure
      return .list (← items.mapM fun node => settled depth { v with node })
    | .mapping tag pairs, depth + 1 =>
      if (tag.bind Tag.own?).isSome then failure
      let fields ← pairs.mapM fun (key, node) => do
        let name ← text { v with node := key }
        return (name, ← settled depth { v with node })
      return .record (Datum.lastFields fields)
    | _, _ => failure

end Value

/-- How deep a document may be nested where it is used. -/
def depthLimit : Nat := 128

/-- The detours that a document may take for each of its events. -/
def detoursPerEvent : Nat := 100

instance : Askable Value where
  text v := v.text
  truth v := do liftM (boolWord? (← v.word "bool"))
  whole low high v := do
    liftM ((wholeWord? (← v.word "int").toList).filter fun n => low ≤ n ∧ n < high)
  items v := v.items
  columns strict names v := do liftM (columnsOf? strict names (← v.fields))
  given v := v.given
  choice v := v.choice
  settled around v := v.settled (depthLimit - around)

/-- What a text of one document answers to a question. -/
def ask? {α : Type} (source : String) (question : Value → Asking α) : Option α :=
  (Document.ofText? source).bind fun document =>
    (question ⟨document, document.root⟩).answer? (detoursPerEvent * document.size)

end Placeholders.Data.Yaml
