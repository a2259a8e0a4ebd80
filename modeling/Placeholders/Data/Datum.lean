/-!
# Data trees

What a written document says before anyone asks for a certain shape.

* A tree keeps the fields of a record in the order of writing, repetitions included.
* `unreadable` stands where a value is well formed but has no reading, such as a number beyond all
  bounds: it may be passed over, but not used.
* `settled?` checks that a tree can be used as a whole, whatever it holds.
-/

namespace Placeholders.Data

/-! ## 1. Trees -/

/-- A data tree. -/
inductive Datum where
  | null
  | bool (b : Bool)
  | whole (n : Int)
  /-- A number that is not written as a whole one in the range of sixty-four bits. -/
  | decimal (text : String)
  | text (s : String)
  | unreadable
  | list (items : List Datum)
  | record (fields : List (String × Datum))
  deriving Repr, Inhabited

namespace Datum

/-! ## 2. Settling -/

/-- The last of the fields of each name, at the place of the last one. -/
def lastFields : List (String × Datum) → List (String × Datum)
  | [] => []
  | field :: rest =>
    if rest.any (·.1 == field.1) then lastFields rest else field :: lastFields rest

mutual

/-- The tree with only the last of repeated fields kept; `none` if a part of it has no reading, or if
    it is nested deeper than `depth`. -/
def settled? (depth : Nat) : Datum → Option Datum
  | .unreadable => none
  | .list items =>
    match depth with
    | 0 => none
    | depth + 1 => (settledItems? depth items).map .list
  | .record fields =>
    match depth with
    | 0 => none
    | depth + 1 => (settledFields? depth fields).map fun fields => .record (lastFields fields)
  | d => some d

/-- `settled?` on every item. -/
def settledItems? (depth : Nat) : List Datum → Option (List Datum)
  | [] => some []
  | d :: rest =>
    match settled? depth d, settledItems? depth rest with
    | some d, some rest => some (d :: rest)
    | _, _ => none

/-- `settled?` on the value of every field. -/
def settledFields? (depth : Nat) : List (String × Datum) → Option (List (String × Datum))
  | [] => some []
  | (name, d) :: rest =>
    match settled? depth d, settledFields? depth rest with
    | some d, some rest => some ((name, d) :: rest)
    | _, _ => none

end

/-! ## 3. Simple readings -/

/-- A text. -/
def text? : Datum → Option String
  | .text s => some s
  | _ => none

/-- A truth value. -/
def bool? : Datum → Option Bool
  | .bool b => some b
  | _ => none

/-- A whole number from `low` up to but not including `high`. -/
def whole? (low high : Int) : Datum → Option Int
  | .whole n => if low ≤ n ∧ n < high then some n else none
  | _ => none

/-- The items of a list. -/
def items? : Datum → Option (List Datum)
  | .list items => some items
  | _ => none

/-- A value, unless it is nothing. -/
def given? : Datum → Option Datum
  | .null => none
  | d => some d

end Datum

end Placeholders.Data
