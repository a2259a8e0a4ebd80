import Placeholders.Text.Blank

/-!
# Attributes

The attributes of an element in their order, and the names that its attribute `class` lists.

* Names are compared as they are. Where a name stands twice, the first one counts.
* The names of classes are separated by ASCII blanks. Adding a class keeps what is written there apart
  from blanks around it; removing one writes the others anew.
-/

namespace Placeholders.Markup

open Placeholders.Text

/-- Names and values. -/
abbrev Attributes := List (String × String)

namespace Attributes

/-! ## 1. Values -/

/-- The value under a name. -/
def get? (attributes : Attributes) (name : String) : Option String :=
  match attributes with
  | [] => none
  | entry :: rest => if entry.1 = name then some entry.2 else get? rest name

/-- Sets the value under a name; a new name goes to the end. -/
def set (attributes : Attributes) (name value : String) : Attributes :=
  match attributes with
  | [] => [(name, value)]
  | entry :: rest =>
    if entry.1 = name then (entry.1, value) :: rest else entry :: set rest name value

/-- Takes a name away. -/
def remove (attributes : Attributes) (name : String) : Attributes :=
  attributes.filter fun entry => entry.1 != name

theorem get?_set (attributes : Attributes) (name other value : String) :
    (attributes.set name value).get? other =
      if name = other then some value else attributes.get? other := by
  induction attributes with
  | nil => simp [set, get?]
  | cons entry rest ih =>
    by_cases he : entry.1 = name
    · by_cases h : name = other
      · simp [set, get?, he, h]
      · simp [set, get?, he, h]
    · by_cases ho : entry.1 = other
      · have : ¬ name = other := fun hf => he (ho.trans hf.symm)
        rw [set, if_neg he]
        simp [get?, ho, this]
      · simp [set, get?, he, ho, ih]

theorem get?_remove (attributes : Attributes) (name other : String) :
    (attributes.remove name).get? other =
      if name = other then none else attributes.get? other := by
  induction attributes with
  | nil => simp [remove, get?]
  | cons entry rest ih =>
    simp only [remove] at ih ⊢
    by_cases he : entry.1 = name
    · by_cases h : name = other
      · rw [List.filter_cons_of_neg (by simp [he]), ih]
        simp [h]
      · rw [List.filter_cons_of_neg (by simp [he]), ih]
        simp [get?, he, h]
    · rw [List.filter_cons_of_pos (by simp [he])]
      by_cases ho : entry.1 = other
      · have : ¬ name = other := fun hf => he (ho.trans hf.symm)
        simp [get?, ho, this]
      · simp [get?, ho, ih]

/-! ## 2. Classes -/

/-- The attribute that lists classes. -/
def classAttribute : String := "class"

/-- The classes that are listed. -/
def classes (attributes : Attributes) : List (List Char) :=
  match attributes.get? classAttribute with
  | some value => words value.toList
  | none => []

/-- Whether a class is listed. -/
def hasClass (attributes : Attributes) (name : String) : Bool :=
  (classes attributes).contains name.toList

/-- Lists a class, unless it is listed. -/
def addClass (attributes : Attributes) (name : String) : Attributes :=
  if hasClass attributes name then attributes
  else
    let before := trimmed ((attributes.get? classAttribute).getD "")
    attributes.set classAttribute (if before.isEmpty then name else before ++ " " ++ name)

/-- Lists a class no longer; a list without classes is taken away. -/
def removeClass (attributes : Attributes) (name : String) : Attributes :=
  match attributes.get? classAttribute with
  | none => attributes
  | some value =>
    let others := (words value.toList).filter (· != name.toList)
    if others.isEmpty then attributes.remove classAttribute
    else attributes.set classAttribute (String.ofList ([' '].intercalate others))

end Attributes

end Placeholders.Markup
