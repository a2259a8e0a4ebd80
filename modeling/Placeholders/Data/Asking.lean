import Placeholders.Data.Datum

/-!
# Asking documents for values

How a reader gets what it needs from a document, whatever the document is written in.

* `Asking` is an answer that may fail, and that may take detours: a document may say in one place that
  a value stands in another. So that no document keeps a reader busy forever, the number of detours is
  limited.
* `Askable` says how the values of a notation answer. The same value may be good for several shapes.
* A record is asked for its columns all at once. A column may have several names, but it must not be
  given twice.
-/

namespace Placeholders.Data

/-- An answer. The state is the number of detours that are left. -/
abbrev Asking (α : Type) : Type := StateT Nat Option α

/-- The answer, if at most so many detours lead to it. -/
def Asking.answer? {α : Type} (a : Asking α) (detours : Nat) : Option α :=
  (a.run detours).map Prod.fst

/-- One more detour. -/
def detour : Asking Unit := fun
  | 0 => none
  | left + 1 => some ((), left)

/-! ## 1. Values that can be asked -/

/-- A notation whose values answer questions. -/
class Askable (ν : Type) where
  /-- A text. -/
  text : ν → Asking String
  /-- A truth value. -/
  truth : ν → Asking Bool
  /-- A whole number from a bound up to but not including another. -/
  whole : (low high : Int) → ν → Asking Int
  /-- The items of a list. -/
  items : ν → Asking (List ν)
  /-- The columns of a record, each by its names. Fields of other names are passed over, unless the
      record is `strict`. -/
  columns : (strict : Bool) → (names : List (List String)) → ν → Asking (List (Option ν))
  /-- The value itself, unless it stands for nothing. -/
  given : ν → Asking (Option ν)
  /-- The name of one of several things that a value may be. -/
  choice : ν → Asking String
  /-- The value as a data tree, where so many lists and records are around it. -/
  settled : (around : Nat) → ν → Asking Datum

/-! ## 2. Columns -/

/-- The value of one column: absent, present, or twice there, which is an error. -/
def column? {ν : Type} (fields : List (String × ν)) (names : List String) : Option (Option ν) :=
  match fields.filter fun field => names.contains field.1 with
  | [] => some none
  | [field] => some (some field.2)
  | _ => none

/-- The columns of a record with these fields. -/
def columnsOf? {ν : Type} (strict : Bool) (names : List (List String)) (fields : List (String × ν)) :
    Option (List (Option ν)) :=
  if strict && !fields.all fun field => names.any fun column => column.contains field.1 then none
  else names.mapM (column? fields)

/-- The columns of a record whose values are given without names, from the first one on. -/
def columnsInOrder? {ν : Type} (names : List (List String)) (values : List ν) :
    Option (List (Option ν)) :=
  if values.length ≤ names.length then
    some (values.map some ++ List.replicate (names.length - values.length) none)
  else none

section

variable {ν α : Type} [Askable ν]

/-- Every item of a list through a reader. -/
def listOf (read : ν → Asking α) (v : ν) : Asking (List α) := do
  (← Askable.items v).mapM read

/-- A column that must be there. -/
def required (read : ν → Asking α) (column : Option ν) : Asking α :=
  match column with
  | none => failure
  | some v => read v

/-- A column with a value for when it is absent. -/
def optional (standard : α) (read : ν → Asking α) (column : Option ν) : Asking α :=
  match column with
  | none => pure standard
  | some v => read v

/-- A column that may be absent or hold nothing. -/
def maybe (read : ν → Asking α) (column : Option ν) : Asking (Option α) :=
  match column with
  | none => pure none
  | some v => do
    match ← Askable.given v with
    | none => return none
    | some v => some <$> read v

end

/-! ## 3. Data trees -/

/-- How deep a data tree may be nested. -/
def Datum.depthLimit : Nat := 127

/-- Data trees have no detours. A list of values stands for a record, and a record with one field that
    holds nothing for the name of a choice. -/
instance : Askable Datum where
  text d := liftM d.text?
  truth d := liftM d.bool?
  whole low high d := liftM (d.whole? low high)
  items d := liftM d.items?
  columns strict names
    | .record fields => liftM (columnsOf? strict names fields)
    | .list items => liftM (columnsInOrder? names items)
    | _ => failure
  given d := pure d.given?
  choice
    | .text s => pure s
    | .record [(name, .null)] => pure name
    | _ => failure
  settled around d := liftM (d.settled? (Datum.depthLimit - around))

end Placeholders.Data
