import Placeholders.Data.Datum
import Placeholders.Text.Numeral

/-!
# JSON

Reading and writing data trees as JSON.

* Reading is strict: one value with blanks around it, no leading zeros, no control characters in
  strings. Surrogate escapes must come in pairs; a string with a lone one is `unreadable`, and so is a
  record that has such a string as a name.
* A number is `whole` if it is written without point and exponent and fits sixty-four bits. Minus
  zero is not whole. A number that is too large for a binary double is `unreadable`.
* What is nested is kept on a stack of frames while it is read, so nesting may be of any depth.
* Writing has a compact form and one with a line for every item, indented by two.
-/

namespace Placeholders.Data.Json

open Placeholders.Text

/-! ## 1. Numbers -/

/-- Digits, at least one. -/
def readDigits? (s : List Char) : Option (List Char × List Char) :=
  let digits := s.takeWhile Char.isDigit
  if digits.isEmpty then none else some (digits, s.dropWhile Char.isDigit)

/-- The fraction of a number, if it has one. -/
def readFraction? (s : List Char) : Option (List Char × List Char) :=
  match s with
  | '.' :: rest => readDigits? rest
  | _ => some ([], s)

/-- The exponent of a number, if it has one. -/
def readExponent? (s : List Char) : Option (Option Int × List Char) :=
  match s with
  | c :: rest =>
    if c == 'e' || c == 'E' then
      let (negative, rest) := match rest with
        | '-' :: rest => (true, rest)
        | '+' :: rest => (false, rest)
        | _ => (false, rest)
      (readDigits? rest).map fun (digits, rest) =>
        let n := (digitsFrom 10 0 digits).getD 0
        (some (if negative then -(n : Int) else n), rest)
    else some (none, s)
  | [] => some (none, s)

/-- The leading digits of a number as long as their value fits sixty-four bits: that value, how many
    they are, and how many are left. -/
def leadingDigits (value taken : Nat) : List Char → Nat × Nat × Nat
  | [] => (value, taken, 0)
  | c :: s =>
    let next := value * 10 + (c.toNat - '0'.toNat)
    if next < wordBound then leadingDigits next (taken + 1) s else (value, taken, s.length + 1)

/-- A number with the fifty-three leading bits of another, rounded to nearest; a half goes to the even
    neighbour. -/
def toDoubleBits (n : Nat) : Nat :=
  let step := Nat.pow 2 (n.log2 - 52)
  let low := n / step * step
  let twice := 2 * (n - low)
  if twice < step || (twice == step && (n / step) % 2 == 0) then low else low + step

/-- The least whole number that rounds to no finite double: half a step above the largest one. -/
def doubleBound : Nat := Nat.pow 2 1024 - Nat.pow 2 970

/-- The largest power of ten that a double can be multiplied by. -/
def powerLimit : Nat := 308

/-- Exponents are below this. -/
def exponentBound : Int := 0x80000000

/-- Whether a number is beyond all doubles. Its value is taken from the leading digits alone, rounded
    before and after it is multiplied by a power of ten. -/
def isTooLarge (front back : List Char) (exponent : Int) : Bool :=
  let (value, _, dropped) := leadingDigits 0 0 front
  let (value, taken, _) := leadingDigits value 0 back
  let power : Int := dropped - taken + exponent
  if value == 0 || exponent ≤ -exponentBound then false
  else if exponentBound ≤ exponent then true
  else if power < 0 then false
  else if (powerLimit : Int) < power then true
  else decide (doubleBound ≤ toDoubleBits value * toDoubleBits (Nat.pow 10 power.toNat))

/-- Whether a character may stand in a number. -/
def isNumberChar (c : Char) : Bool := c.isDigit || ['+', '-', '.', 'e', 'E'].contains c

/-- A number. -/
def readNumber? (s : List Char) : Option (Datum × List Char) := do
  let (negative, rest) := match s with
    | '-' :: rest => (true, rest)
    | _ => (false, s)
  let (front, rest) ← readDigits? rest
  if front.length > 1 && front.head? == some '0' then none
  let (back, rest) ← readFraction? rest
  let (exponent, rest) ← readExponent? rest
  let n := (digitsFrom 10 0 front).getD 0
  let value : Int := if negative then -(n : Int) else n
  let isWhole := back.isEmpty && exponent.isNone && !(negative && n == 0)
    && decide (-(signedBound : Int) ≤ value) && decide (value < (wordBound : Int))
  if isWhole then return (.whole value, rest)
  if isTooLarge front back (exponent.getD 0) then return (.unreadable, rest)
  return (.decimal (String.ofList (s.takeWhile isNumberChar)), rest)

/-! ## 2. Strings -/

/-- Four hexadecimal digits. -/
def readUnit? : List Char → Option (Nat × List Char)
  | a :: b :: c :: d :: rest => (digits? 16 [a, b, c, d]).map fun n => (n, rest)
  | _ => none

/-- The character of two surrogates. -/
def ofSurrogates (high low : Nat) : Char :=
  Char.ofNat (0x10000 + (high - 0xD800) * 0x400 + (low - 0xDC00))

/-- What follows the letter of a Unicode escape: a character, or nothing where a surrogate stands
    alone. -/
def readUnicode? (s : List Char) : Option (Option Char × List Char) := do
  let (unit, rest) ← readUnit? s
  if unit < 0xD800 || 0xE000 ≤ unit then return (some (Char.ofNat unit), rest)
  if 0xDC00 ≤ unit then return (none, rest)
  match rest with
  | '\\' :: 'u' :: after =>
    let (low, after) ← readUnit? after
    if 0xDC00 ≤ low && low < 0xE000 then return (some (ofSurrogates unit low), after)
    else return (none, rest)
  | _ => return (none, rest)

/-- The character of an escape of one letter. -/
def simpleEscape? (c : Char) : Option Char :=
  match c with
  | '"' => some '"'
  | '\\' => some '\\'
  | '/' => some '/'
  | 'b' => some '\x08'
  | 'f' => some '\x0c'
  | 'n' => some '\n'
  | 'r' => some '\x0d'
  | 't' => some '\t'
  | _ => none

/-- The rest of a string after its opening quote; `whole` says that nothing unreadable came before.
    Answers the characters, or nothing if some part cannot be read. -/
def readString? : (fuel : Nat) → (soFar : List Char) → (whole : Bool) → List Char →
    Option (Option (List Char) × List Char)
  | 0, _, _, _ => none
  | _ + 1, _, _, [] => none
  | fuel + 1, soFar, whole, c :: s =>
    if c == '"' then some (if whole then some soFar.reverse else none, s)
    else if c == '\\' then
      match s with
      | 'u' :: s =>
        match readUnicode? s with
        | some (some c, s) => readString? fuel (c :: soFar) whole s
        | some (none, s) => readString? fuel soFar false s
        | none => none
      | c :: s =>
        match simpleEscape? c with
        | some c => readString? fuel (c :: soFar) whole s
        | none => none
      | [] => none
    else if c.toNat < 0x20 then none
    else readString? fuel (c :: soFar) whole s

/-! ## 3. Tokens -/

/-- The blanks of JSON. -/
def isSpace (c : Char) : Bool :=
  c == ' ' || c == '\t' || c == '\n' || c == '\x0d'

/-- The signs of JSON: brackets, braces, the comma and the colon. -/
def isSign (c : Char) : Bool := ['[', ']', '\x7b', '\x7d', ',', ':'].contains c

/-- A token of a document. -/
inductive Token where
  | sign (c : Char)
  /-- A string, unless it cannot be read. -/
  | string (s : Option String)
  /-- Any other value without parts. -/
  | scalar (d : Datum)

/-- A text at the beginning of another. -/
def readWord? (word : String) (d : Datum) (s : List Char) : Option (Token × List Char) :=
  if word.toList.isPrefixOf s then some (.scalar d, s.drop word.length) else none

/-- The next token, from its first character on. `fuel` must be more than the number of characters. -/
def readToken? (fuel : Nat) : List Char → Option (Token × List Char)
  | [] => none
  | c :: s =>
    if isSign c then some (.sign c, s)
    else
      match c with
      | 'n' => readWord? "null" .null (c :: s)
      | 't' => readWord? "true" (.bool true) (c :: s)
      | 'f' => readWord? "false" (.bool false) (c :: s)
      | '"' => (readString? fuel [] true s).map fun (chars, s) => (.string (chars.map String.ofList), s)
      | _ => (readNumber? (c :: s)).map fun (d, s) => (.scalar d, s)

/-- The tokens of a document, after those before in reverse. -/
def readTokens? : (fuel : Nat) → (before : List Token) → List Char → Option (List Token)
  | 0, _, _ => none
  | fuel + 1, before, s =>
    match s.dropWhile isSpace with
    | [] => some before.reverse
    | s =>
      match readToken? (fuel + 1) s with
      | some (t, s) => readTokens? fuel (t :: before) s
      | none => none

/-! ## 4. Values -/

/-- A list or a record that has not ended yet; what it holds has the last part first. -/
inductive Frame where
  | list (items : List Datum)
  /-- `name` is that of the field to come; `isWhole` is false if a name could not be read. -/
  | record (fields : List (String × Datum)) (name : String) (isWhole : Bool)

/-- What may come next. -/
inductive Expect where
  | value
  /-- A value, or the end of an empty list. -/
  | firstItem
  | name
  /-- A name, or the end of an empty record. -/
  | firstName
  | colon
  /-- A comma, or the end of a list, a record or the document. -/
  | afterValue
  deriving DecidableEq

/-- A state of reading. -/
structure Reading where
  frames : List Frame := []
  expect : Expect := .value
  result : Option Datum := none

namespace Reading

/-- The state after a value. -/
def finish (r : Reading) (d : Datum) : Reading :=
  match r.frames with
  | [] => { expect := .afterValue, result := some d }
  | .list items :: frames => { r with frames := .list (d :: items) :: frames, expect := .afterValue }
  | .record fields name isWhole :: frames =>
    { r with frames := .record ((name, d) :: fields) "" isWhole :: frames, expect := .afterValue }

/-- The state after the sign that ends the innermost list or record. -/
def close? (r : Reading) (c : Char) : Option Reading :=
  match r.frames with
  | .list items :: frames =>
    if c == ']' then some ({ r with frames }.finish (.list items.reverse)) else none
  | .record fields _ isWhole :: frames =>
    if c == '\x7d' then
      some ({ r with frames }.finish (if isWhole then .record fields.reverse else .unreadable))
    else none
  | [] => none

/-- The state after a comma. -/
def comma? (r : Reading) : Option Reading :=
  match r.frames with
  | .list _ :: _ => some { r with expect := .value }
  | .record .. :: _ => some { r with expect := .name }
  | [] => none

/-- The state after a name. -/
def named? (r : Reading) (name : Option String) : Option Reading :=
  match r.frames with
  | .record fields _ isWhole :: frames =>
    some { r with
      frames := .record fields (name.getD "") (isWhole && name.isSome) :: frames
      expect := .colon }
  | _ => none

/-- The state after the next token. -/
def step? (r : Reading) (t : Token) : Option Reading :=
  match r.expect, t with
  | .value, .scalar d | .firstItem, .scalar d => some (r.finish d)
  | .value, .string s | .firstItem, .string s => some (r.finish ((s.map .text).getD .unreadable))
  | .name, .string s | .firstName, .string s => r.named? s
  | .colon, .sign ':' => some { r with expect := .value }
  | .afterValue, .sign ',' => r.comma?
  | expect, .sign c =>
    let isValue := expect == .value || expect == .firstItem
    if isValue && c == '[' then
      some { r with frames := .list [] :: r.frames, expect := .firstItem }
    else if isValue && c == '\x7b' then
      some { r with frames := .record [] "" true :: r.frames, expect := .firstName }
    else if expect == .firstItem || expect == .firstName || expect == .afterValue then r.close? c
    else none
  | _, _ => none

end Reading

/-- The tree of a document. -/
def read? (source : String) : Option Datum := do
  let s := source.toList
  let tokens ← readTokens? (s.length + 1) [] s
  (← tokens.foldlM Reading.step? {}).result

/-! ## 5. Writing -/

/-- The digits of a control character's escape. -/
def hexDigit (n : Nat) : Char :=
  if n < 10 then Char.ofNat ('0'.toNat + n) else Char.ofNat ('a'.toNat + (n - 10))

/-- A character as it stands in a string. -/
def escapeChar (c : Char) : List Char :=
  match c with
  | '"' => ['\\', '"']
  | '\\' => ['\\', '\\']
  | '\x08' => ['\\', 'b']
  | '\x0c' => ['\\', 'f']
  | '\n' => ['\\', 'n']
  | '\x0d' => ['\\', 'r']
  | '\t' => ['\\', 't']
  | _ =>
    if c.toNat < 0x20 then ['\\', 'u', '0', '0', hexDigit (c.toNat / 16), hexDigit (c.toNat % 16)]
    else [c]

/-- A string in its quotes. -/
def quote (s : String) : String :=
  String.ofList ('"' :: s.toList.flatMap escapeChar ++ ['"'])

/-- The opening brace, which cannot stand in a text as it is. -/
def openBrace : String := "\x7b"

/-- The closing brace. -/
def closeBrace : String := "\x7d"

mutual

/-- A tree on one line. -/
def compact : Datum → String
  | .null => "null"
  | .bool b => if b then "true" else "false"
  | .whole n => toString n
  | .decimal text => text
  | .text s => quote s
  | .unreadable => "null"
  | .list items => "[" ++ String.intercalate "," (compactItems items) ++ "]"
  | .record fields => openBrace ++ String.intercalate "," (compactFields fields) ++ closeBrace

/-- Every item on its own. -/
def compactItems : List Datum → List String
  | [] => []
  | d :: rest => compact d :: compactItems rest

/-- Every field with its name. -/
def compactFields : List (String × Datum) → List String
  | [] => []
  | (name, d) :: rest => (quote name ++ ":" ++ compact d) :: compactFields rest

end

/-- Lines between two brackets, each indented one step further than the brackets. -/
def bracketed (opening closing indent : String) (lines : List String) : String :=
  if lines.isEmpty then opening ++ closing
  else
    opening ++ "\n" ++ String.intercalate ",\n" (lines.map fun line => indent ++ "  " ++ line)
      ++ "\n" ++ indent ++ closing

mutual

/-- A tree with a line for every item; its first line is not indented. -/
def pretty (indent : String) : Datum → String
  | .list items => bracketed "[" "]" indent (prettyItems (indent ++ "  ") items)
  | .record fields =>
    bracketed openBrace closeBrace indent (prettyFields (indent ++ "  ") fields)
  | d => compact d

/-- Every item on lines of its own. -/
def prettyItems (indent : String) : List Datum → List String
  | [] => []
  | d :: rest => pretty indent d :: prettyItems indent rest

/-- Every field on lines of its own. -/
def prettyFields (indent : String) : List (String × Datum) → List String
  | [] => []
  | (name, d) :: rest => (quote name ++ ": " ++ pretty indent d) :: prettyFields indent rest

end

end Placeholders.Data.Json
