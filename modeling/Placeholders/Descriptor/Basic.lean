import Placeholders.Settings
import Placeholders.Validation.Catalog

/-!
# Descriptors

What an author writes: settings, rule-sets and a list of placeholders.

* The entries of the list stay data trees until each of them is built, so that a malformed entry
  does not hide the others.
* `PlaceholderSpec` is an entry that has the right shape; whether it makes sense is another matter.
-/

namespace Placeholders

open Placeholders.Data

/-- One choice of a dropdown. -/
structure Choice where
  displayName : String
  value : String
  deriving DecidableEq, Repr

/-- What an entry says about its kind. -/
inductive KindSpec where
  | textbox (defaultValue defaultFunction : Option String) (validators : List String)
  | checkbox (checked unchecked : String) (checkedByDefault : Bool)
  | dropdown (choices : List Choice) (defaultIndex : Nat)
  deriving DecidableEq, Repr

/-- An entry of the list of placeholders. -/
structure PlaceholderSpec where
  name : String
  description : String
  readOnly : Bool
  allowInnerHtml : Bool
  allowRecursive : Bool
  kind : KindSpec
  deriving DecidableEq, Repr

/-- A whole descriptor. -/
structure Descriptor where
  settings : Settings := {}
  validators : List Validation.RuleSetSpec := []
  entries : List Datum := []

end Placeholders
