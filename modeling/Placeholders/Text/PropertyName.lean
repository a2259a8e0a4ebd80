import Placeholders.Text.Age
import Placeholders.Text.Break

/-!
# Names of properties

Finding the characters of a Unicode property by the name of the property.

* `looseName` is the form in which names are compared: case, blanks, dashes, low lines and a leading
  `is` do not count.
* `property?` finds a property that is named alone: a property that a character has or lacks, a
  general category or a script, in this order.
* `propertyValue?` finds a property that is named together with its value.
-/

namespace Placeholders.Text

/-! ## 1. Comparing names -/

/-- A name in small letters, without blanks, dashes and low lines. -/
def squeezedName (name : List Char) : List Char :=
  (name.filter fun c => c != ' ' && c != '-' && c != '_' && c.toNat < 128).map Char.toLower

/-- The form in which names are compared. A leading `is` does not count, unless what follows on it is
    a lone `c`. -/
def looseName (name : List Char) : String :=
  match name with
  | i :: s :: rest =>
    if i.toLower == 'i' && s.toLower == 's' then
      let kept := squeezedName rest
      if kept == ['c'] then "isc" else String.ofList kept
    else String.ofList (squeezedName name)
  | _ => String.ofList (squeezedName name)

/-- Whether one of several names is meant by a name in loose form. -/
def isNamed (names : List String) (loose : String) : Bool :=
  names.any fun name => String.ofList (squeezedName name.toList) == loose

/-- The set that a list of names has under a name in loose form. -/
def named? (sets : List (List String × CharSet)) (loose : String) : Option CharSet :=
  (sets.find? fun row => isNamed row.1 loose).map (·.2)

/-- The script of a name in loose form. -/
def Script.named? (loose : String) : Option Script :=
  Script.all.find? fun s => isNamed s.names loose

/-! ## 2. Properties -/

/-- The characters of a property that is named without a value. -/
def property? (name : List Char) : Option CharSet :=
  let loose := looseName name
  match named? Property.names loose with
  | some set => some set
  | none =>
    match named? Category.names loose with
    | some set => some set
    | none => (Script.named? loose).map Script.strict

/-- The characters for which a property has a value. -/
def propertyValue? (name value : List Char) : Option CharSet :=
  let loose := looseName name
  let value := looseName value
  if isNamed ["gc", "General_Category"] loose then named? Category.names value
  else if isNamed ["sc", "Script"] loose then (Script.named? value).map Script.strict
  else if isNamed ["scx", "Script_Extensions"] loose then (Script.named? value).map Script.wide
  else if isNamed ["age"] loose then Age.upTo? value
  else if isNamed ["GCB", "Grapheme_Cluster_Break"] loose then named? Break.ofGrapheme value
  else if isNamed ["WB", "Word_Break"] loose then named? Break.ofWord value
  else if isNamed ["SB", "Sentence_Break"] loose then named? Break.ofSentence value
  else none

end Placeholders.Text
