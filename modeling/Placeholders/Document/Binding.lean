import Placeholders.Document.Basic
import Placeholders.Keyed
import Placeholders.Placeholder

/-!
# Bound elements

Elements that show the value of a placeholder and can be brought up to date in place.

* A binding is an element of the class `placeholder-value` that names its placeholder in the attribute
  `data-placeholder`.
* `Bindings.scan` finds them on the page, so that a table never disagrees with what is there.
* `Document.showState` makes an active editor show whether its value is accepted, or its box checked.
-/

namespace Placeholders

/-! ## 1. Names -/

namespace Binding

/-- The class of every binding. -/
def valueClass : String := "placeholder-value"

/-- The attribute that names the placeholder. -/
def nameAttribute : String := "data-placeholder"

/-- The class of a binding that asks for an editor. -/
def requestClass : String := "inline-editor-requested"

/-- The class of every active editor. -/
def editorClass : String := "placeholder-value-any"

/-- The class of an active textbox. -/
def textboxClass : String := "placeholder-value-editable"

/-- The class of an active checkbox. -/
def checkboxClass : String := "placeholder-value-checkbox"

/-- The class of an active dropdown. -/
def dropdownClass : String := "placeholder-value-dropdown"

/-- The classes that show the status of a value. -/
def statusClasses : List String :=
  ["validation-ok", "validation-warn", "validation-error", "validation-none"]

/-- The class that shows a status. -/
def statusClass (status : Validation.Status) : String := "validation-" ++ status.styleSuffix

theorem statusClass_mem (status : Validation.Status) : statusClass status ∈ statusClasses := by
  cases status <;> decide

/-- The class of a checked box. -/
def checkedClass : String := "checked"

/-- The class of a box that is not checked. -/
def uncheckedClass : String := "unchecked"

end Binding

/-! ## 2. Bindings on a page -/

namespace Document

/-- Whether a node is a binding. -/
def isBinding (doc : Document) (id : Nat) : Bool :=
  doc.hasClass id Binding.valueClass && (doc.attribute? id Binding.nameAttribute).isSome

/-- The bindings below a node that are in no other binding below it, no deeper than `depth`. -/
def outermostBindingsTo (doc : Document) : (depth id : Nat) → List Nat
  | 0, _ => []
  | depth + 1, id =>
    (doc.children id).flatMap fun child =>
      if doc.isBinding child then [child] else doc.outermostBindingsTo depth child

/-- The bindings below a node that are in no other binding below it. -/
def outermostBindings (doc : Document) (id : Nat) : List Nat :=
  doc.outermostBindingsTo doc.size id

end Document

/-- The numbers of the bindings of every placeholder, in the order of the page. -/
structure Bindings where
  table : Keyed (List Nat)

namespace Bindings

/-- No bindings. -/
def empty : Bindings := ⟨.empty⟩

/-- Adds a binding of a name. -/
def add (b : Bindings) (name : String) (id : Nat) : Bindings :=
  ⟨b.table.update name fun ids => ids.getD [] ++ [id]⟩

/-- Adds a node, if it is a binding. -/
def addNode (doc : Document) (b : Bindings) (id : Nat) : Bindings :=
  match doc.attribute? id Binding.nameAttribute with
  | some name => if doc.isBinding id then b.add name id else b
  | none => b

/-- The bindings below a node. -/
def scan (doc : Document) (root : Nat) : Bindings :=
  (doc.descendants root).foldl (addNode doc) empty

/-- The bindings of a name. -/
def elements (b : Bindings) (name : String) : List Nat := (b.table.get? name).getD []

/-- Whether a name has a binding. -/
def contains (b : Bindings) (name : String) : Bool := b.table.contains name

/-- All bindings, by name and then by place. -/
def all (b : Bindings) : List (String × Nat) :=
  b.table.entries.flatMap fun entry => entry.2.map fun id => (entry.1, id)

/-- The number of bindings. -/
def size (b : Bindings) : Nat := b.all.length

/-- Whether there are none. -/
def isEmpty (b : Bindings) : Bool := b.table.entries.isEmpty

end Bindings

/-! ## 3. Editors -/

namespace Document

/-- Shows a status and what is to be said about it. -/
def showVerdict (doc : Document) (id : Nat) (verdict : Validation.Verdict) : Document :=
  ((Binding.statusClasses.foldl (fun doc name => doc.removeClass id name) doc).addClass id
    (Binding.statusClass verdict.status)).setAttribute id "title" verdict.message

/-- Shows whether a box is checked. -/
def showChecked (doc : Document) (id : Nat) (checked : Bool) : Document :=
  if checked then (doc.addClass id Binding.checkedClass).removeClass id Binding.uncheckedClass
  else (doc.addClass id Binding.uncheckedClass).removeClass id Binding.checkedClass

/-- Shows the state of a placeholder on an active editor; other elements stay as they are. -/
def showState (doc : Document) (id : Nat) (p : Placeholder) : Document :=
  match p.kind with
  | .textbox _ =>
    if doc.hasClass id Binding.textboxClass then doc.showVerdict id (p.evaluate p.currentValue)
    else doc
  | .checkbox box =>
    if doc.hasClass id Binding.checkboxClass then doc.showChecked id box.isChecked else doc
  | .dropdown _ => doc

end Document

end Placeholders
