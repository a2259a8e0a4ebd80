import Placeholders.Descriptor.Reader
import Placeholders.Placeholder

/-!
# The registry

All placeholders of a descriptor, in its order and with distinct names.

* `Registry.parse` builds what it can. Each rule-set and each entry that is left out adds one error
  and leaves the others alone.
* A placeholder's `orderIndex` is its position.
* Lookups and changes go by name.
-/

namespace Placeholders

open Placeholders.Data Placeholders.Storage Placeholders.Validation

/-! ## 1. Errors -/

/-- What can be wrong with a descriptor or an entry of it. -/
inductive ParseError where
  /-- An entry that has not the shape of a placeholder. -/
  | invalidPlaceholder (index : Nat)
  | duplicateName (name : String)
  | ambiguousDefault (name : String)
  | unknownDefaultFunction (name function : String)
  | emptyOptions (name : String)
  | defaultIndexOutOfRange (name : String) (index count : Nat)
  | defaultRejected (name value message : String)
  /-- An error in a rule-set, of a placeholder if one is named. -/
  | validator (name : Option String) (source : RuleError)
  deriving DecidableEq, Repr

/-- The wording of an error. -/
def ParseError.message : ParseError → String
  | .invalidPlaceholder index => s!"invalid placeholder descriptor #{index}"
  | .duplicateName name => s!"placeholder '{name}' is defined more than once"
  | .ambiguousDefault name =>
    s!"textbox '{name}' must define exactly one of 'default_value' and 'default_function'"
  | .unknownDefaultFunction name function =>
    s!"textbox '{name}' references unknown default function '{function}'"
  | .emptyOptions name => s!"dropdown '{name}' needs at least one option"
  | .defaultIndexOutOfRange name index count =>
    s!"dropdown '{name}' has default_index {index}, but only {count} options"
  | .defaultRejected name value message =>
    s!"default value '{value}' of '{name}' failed validation:\n{message}"
  | .validator (some name) source => s!"validator error in '{name}': {source.message}"
  | .validator none source => s!"validator error: {source.message}"

/-! ## 2. Building one placeholder -/

/-- The default of a textbox: a fixed one or one of the host, but not both. -/
def textDefault (host : Host) (name : String) (value function : Option String) :
    Except ParseError TextDefault :=
  match value, function with
  | some value, none => .ok (.fixed value)
  | none, some function =>
    match host.producer? function with
    | some made => .ok (.produced function made)
    | none => .error (.unknownDefaultFunction name function)
  | _, _ => .error (.ambiguousDefault name)

/-- A textbox. A fixed default must pass its rule-sets. -/
def Textbox.build (host : Host) (catalog : Catalog) (name : String) (value function : Option String)
    (ids : List String) : Except ParseError Textbox := do
  let default ← textDefault host name value function
  let validators ← (catalog.resolve ids).mapError (.validator (some name))
  match default with
  | .fixed value =>
    if Validation.accepts validators value then return ⟨default, validators⟩
    else .error (.defaultRejected name value (Validation.evaluate validators value).message)
  | .produced _ _ => return ⟨default, validators⟩

/-- A dropdown. It has at least one choice, and its default is one of them. -/
def Dropdown.build (name : String) (choices : List Choice) (defaultIndex : Nat) :
    Except ParseError Dropdown :=
  if choices.isEmpty then .error (.emptyOptions name)
  else if choices.length ≤ defaultIndex then
    .error (.defaultIndexOutOfRange name defaultIndex choices.length)
  else .ok ⟨choices, defaultIndex, defaultIndex⟩

/-- The kind that a specification describes. -/
def KindSpec.build (host : Host) (catalog : Catalog) (name : String) : KindSpec →
    Except ParseError Kind
  | .textbox value function ids => (Textbox.build host catalog name value function ids).map .textbox
  | .checkbox checked unchecked checkedByDefault =>
    .ok (.checkbox ⟨checked, unchecked, checkedByDefault, checkedByDefault⟩)
  | .dropdown choices defaultIndex => (Dropdown.build name choices defaultIndex).map .dropdown

/-- The placeholder that a specification describes. -/
def PlaceholderSpec.build (spec : PlaceholderSpec) (host : Host) (catalog : Catalog)
    (settings : Settings) : Except ParseError Placeholder :=
  match spec.kind.build host catalog spec.name with
  | .error e => .error e
  | .ok kind =>
    .ok { Placeholder.ofKind spec.name kind settings with
      description := spec.description
      readOnly := spec.readOnly
      allowInnerHtml := spec.allowInnerHtml
      allowRecursive := spec.allowRecursive }

/-! ## 3. The registry -/

/-- Placeholders, settings and rule-sets. -/
structure Registry where
  placeholders : List Placeholder
  settings : Settings
  catalog : Catalog

namespace Registry

/-- The number of placeholders. -/
def size (r : Registry) : Nat := r.placeholders.length

/-- The names, in order. -/
def names (r : Registry) : List String := r.placeholders.map (·.name)

/-- The placeholder of a name. -/
def get? (r : Registry) (name : String) : Option Placeholder :=
  r.placeholders.find? fun p => p.name == name

/-- The position of a name. -/
def indexOf? (r : Registry) (name : String) : Option Nat :=
  r.placeholders.findIdx? fun p => p.name == name

/-- Whether there is a placeholder of a name. -/
def contains (r : Registry) (name : String) : Bool := (r.get? name).isSome

/-- Changes every placeholder. -/
def map (r : Registry) (f : Placeholder → Placeholder) : Registry :=
  { r with placeholders := r.placeholders.map f }

/-- Changes the placeholder at a position. -/
def modifyAt (r : Registry) (i : Nat) (f : Placeholder → Placeholder) : Registry :=
  { r with placeholders := r.placeholders.modify i f }

/-- Changes the placeholder of a name. -/
def modify (r : Registry) (name : String) (f : Placeholder → Placeholder) : Registry :=
  match r.indexOf? name with
  | some i => r.modifyAt i f
  | none => r

/-- Adds a placeholder at the end, unless its name is taken. -/
def insert (r : Registry) (p : Placeholder) : Except ParseError Registry :=
  if r.contains p.name then .error (.duplicateName p.name)
  else .ok { r with placeholders := r.placeholders ++ [{ p with orderIndex := r.size }] }

/-- Builds an entry and adds it. -/
def addEntry (r : Registry) (host : Host) (index : Nat) (entry : Datum) :
    Except ParseError Registry :=
  match Descriptor.placeholder? entry with
  | none => .error (.invalidPlaceholder index)
  | some spec =>
    match spec.build host r.catalog r.settings with
    | .error e => .error e
    | .ok p => r.insert p

/-- Adds the entries from an index on, and collects the errors of those that cannot be added. -/
def addEntries (host : Host) (r : Registry) (errors : List ParseError) (index : Nat) :
    List Datum → Registry × List ParseError
  | [] => (r, errors)
  | entry :: entries =>
    match r.addEntry host index entry with
    | .ok r => addEntries host r errors (index + 1) entries
    | .error e => addEntries host r (errors ++ [e]) (index + 1) entries

/-- The registry of a descriptor, and the errors of what was left out of it. -/
def parse (host : Host) (d : Descriptor) : Registry × List ParseError :=
  let (catalog, ruleErrors) := Catalog.compile host d.validators
  addEntries host ⟨[], d.settings, catalog⟩ (ruleErrors.map (.validator none)) 0 d.entries

/-- Every placeholder as the store has it. -/
def loadState (r : Registry) (store : Store) : Registry :=
  r.map fun p => p.loadState store

/-- Every placeholder as it is by default. -/
def resetToDefaults (r : Registry) : Registry :=
  r.map Placeholder.resetToDefault

/-- The settings as the store has them overridden. -/
def applyOverrides (r : Registry) (store : Store) : Registry :=
  { r with settings := r.settings.applyOverrides store }

end Registry

end Placeholders
