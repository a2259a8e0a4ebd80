import Placeholders.Settings
import Placeholders.Descriptor.Basic
import Placeholders.Validation.Verdict

/-!
# Placeholders

A named value that the reader of a page may change.

* The kind holds what is special about a textbox, a checkbox or a dropdown, the current selection
  included. The current value is the raw text; the expanded value has other placeholders in it
  replaced.
* Resetting and loading both set the selection and the current value together, and the expanded value
  to the current one.
* `Dropdown.stepped` moves a selection around the list. The sum is formed in signed words of
  sixty-four bits, which wrap.
-/

namespace Placeholders

open Placeholders.Storage Placeholders.Validation Placeholders.Text

/-! ## 1. Kinds -/

/-- Where the default of a textbox comes from. -/
inductive TextDefault where
  | fixed (value : String)
  /-- A function of the host, and what it makes, if it does not fail. -/
  | produced (name : String) (value : Option String)
  deriving DecidableEq, Repr

/-- The default where the host fails to make one. -/
def evaluationError : String := "EVALUATION_ERROR"

/-- The default value. -/
def TextDefault.value : TextDefault → String
  | .fixed value => value
  | .produced _ value => value.getD evaluationError

/-- A free text. -/
structure Textbox where
  default : TextDefault
  validators : List RuleSet

/-- A choice between two values. -/
structure Checkbox where
  checkedValue : String
  uncheckedValue : String
  checkedByDefault : Bool
  isChecked : Bool
  deriving DecidableEq, Repr

/-- The value of a state. -/
def Checkbox.valueFor (box : Checkbox) (checked : Bool) : String :=
  if checked then box.checkedValue else box.uncheckedValue

/-- The value of the present state. -/
def Checkbox.value (box : Checkbox) : String := box.valueFor box.isChecked

/-- A choice between several values. -/
structure Dropdown where
  choices : List Choice
  defaultIndex : Nat
  index : Nat
  deriving DecidableEq, Repr

namespace Dropdown

/-- The value at an index; there is one at every index below the number of choices. -/
def valueAt (menu : Dropdown) (i : Nat) : String :=
  match menu.choices[i]? with
  | some choice => choice.value
  | none => ""

/-- The value of the present selection. -/
def value (menu : Dropdown) : String := menu.valueAt menu.index

/-- The sum of two signed words, which wraps. -/
def wordSum (a b : Int) : Int := (a + b).bmod wordBound

/-- The index so many steps further on, around the list. -/
def stepped (menu : Dropdown) (delta : Int) : Nat :=
  (wordSum menu.index delta % (menu.choices.length : Int)).toNat

end Dropdown

/-- What is special about a placeholder. -/
inductive Kind where
  | textbox (box : Textbox)
  | checkbox (box : Checkbox)
  | dropdown (menu : Dropdown)

/-- The name of a kind. -/
def Kind.name : Kind → String
  | .textbox _ => "textbox"
  | .checkbox _ => "checkbox"
  | .dropdown _ => "dropdown"

/-! ## 2. Placeholders -/

/-- A named value. -/
structure Placeholder where
  name : String
  description : String
  kind : Kind
  /-- No reader may change the value. -/
  readOnly : Bool
  /-- The value may stand inside markup, too. -/
  allowInnerHtml : Bool
  /-- The value may refer to other placeholders. -/
  allowRecursive : Bool
  /-- The raw value. -/
  currentValue : String
  /-- The value with references replaced. -/
  expandedValue : String
  /-- Occurrences counted on pages so far. -/
  countOnPage : Nat
  /-- Its place in the descriptor. -/
  orderIndex : Nat
  /-- Some occurrence cannot be brought up to date in place. -/
  reloadOnChange : Bool
  tokens : Tokens

namespace Placeholder

/-- The value before anyone changed it. -/
def defaultValue (p : Placeholder) : String :=
  match p.kind with
  | .textbox box => box.default.value
  | .checkbox box => box.valueFor box.checkedByDefault
  | .dropdown menu => menu.valueAt menu.defaultIndex

/-- A placeholder with a raw value that nothing has been replaced in. -/
def withRaw (p : Placeholder) (value : String) : Placeholder :=
  { p with currentValue := value, expandedValue := value }

/-- The selection and value from before anyone changed them. -/
def resetToDefault (p : Placeholder) : Placeholder :=
  let kind := match p.kind with
    | .textbox box => .textbox box
    | .checkbox box => .checkbox { box with isChecked := box.checkedByDefault }
    | .dropdown menu => .dropdown { menu with index := menu.defaultIndex }
  { p with kind }.withRaw p.defaultValue

/-- The selection and value that the store has; what it does not have is as by default. -/
def loadState (p : Placeholder) (store : Store) : Placeholder :=
  match p.kind with
  | .textbox box => p.withRaw ((store.loadText? p.name).getD box.default.value)
  | .checkbox box =>
    let box := { box with isChecked := (store.loadChecked? p.name).getD box.checkedByDefault }
    { p with kind := .checkbox box }.withRaw box.value
  | .dropdown menu =>
    let index := (store.loadIndex? p.name menu.choices.length).getD menu.defaultIndex
    let menu := { menu with index }
    { p with kind := .dropdown menu }.withRaw menu.value

/-- The verdict on a value. Only textboxes have rule-sets. -/
def evaluate (p : Placeholder) (value : String) : Verdict :=
  match p.kind with
  | .textbox box => Validation.evaluate box.validators value
  | _ => ⟨.noValidator, ""⟩

/-- Whether a value is accepted. -/
def accepts (p : Placeholder) (value : String) : Bool :=
  match p.kind with
  | .textbox box => Validation.accepts box.validators value
  | _ => true

/-- Whether it occurs on a page. -/
def isUsed (p : Placeholder) : Bool := decide (0 < p.countOnPage)

/-- A placeholder with its default value, as a specification describes it. -/
def ofKind (name : String) (kind : Kind) (settings : Settings) : Placeholder :=
  { name
    description := ""
    kind
    readOnly := false
    allowInnerHtml := false
    allowRecursive := true
    currentValue := ""
    expandedValue := ""
    countOnPage := 0
    orderIndex := 0
    reloadOnChange := false
    tokens := settings.tokens name : Placeholder }.resetToDefault

end Placeholder

end Placeholders
