import Placeholders.Engine.Basic

/-!
# Changes

Every change goes the same way: it is checked, stored, followed through the network, and shown on the
page.

* What is refused, or cannot be stored, changes nothing.
* A change that closes a cycle is made all the same. It ends with `EngineError.cycleRepaired`, which
  holds the outcome.
* `Engine.reset` forgets what is stored for placeholders; settings stay.
-/

namespace Placeholders.Engine

open Placeholders.Storage

/-! ## 1. Following a change -/

/-- Whether some of the placeholders of certain names cannot be brought up to date on the page. -/
def needsReload (r : Registry) (names : List String) : Bool :=
  (names.filterMap r.get?).any (·.reloadOnChange)

/-- Brings the bindings of the attached page up to date. Answers how many there were. -/
def refreshPage (e : Engine) (names : List String) : Except EngineError Nat × Engine :=
  match e.page with
  | none => (.ok 0, e)
  | some page =>
    let (result, document) := page.document.refresh page.bindings e.registry names
    (result.mapError .expand, { e with page := some { page with document } })

/-- Shows a change of certain placeholders on the page. -/
def propagate (e : Engine) (affected : List String) : Except EngineError Outcome × Engine :=
  let (result, e) := e.refreshPage affected
  (result.map fun refreshed => ⟨affected, needsReload e.registry affected, refreshed⟩, e)

/-- The cycle that a change closed, or the error that the change ended with. -/
def repairedCycle (result : Except GraphError Unit) : Except EngineError (Option GraphError) :=
  match result with
  | .ok () => .ok none
  | .error (.cycleDetected name cycle) => .ok (some (.cycleDetected name cycle))
  | .error source => .error (.graph source)

/-- Follows a changed raw value through the network and shows it on the page. -/
def commit (e : Engine) (name : String) : Except EngineError Outcome × Engine :=
  let (result, network) := e.network.valueChanged name
  let e := { e with network }
  match repairedCycle result, e.dependents name with
  | .error err, _ => (.error err, e)
  | .ok _, .error err => (.error err, e)
  | .ok cycle, .ok dependents =>
    match e.propagate (name :: dependents), cycle with
    | (.ok outcome, e), some source => (.error (.cycleRepaired source outcome), e)
    | answer, _ => answer

/-! ## 2. Changing a value -/

/-- A placeholder that readers may change. -/
def changeable (e : Engine) (name : String) : Except EngineError Placeholder :=
  match e.find name with
  | .error err => .error err
  | .ok p => if p.readOnly then .error (.readOnly name) else .ok p

/-- The error of a placeholder that is of another kind. -/
def mismatch (p : Placeholder) (expected : String) : EngineError :=
  .kindMismatch p.name expected p.kind.name

/-- Stores something and, if that is done, changes a placeholder and follows the change. -/
def storeThenCommit (e : Engine) (name : String) (write : Store → Except StorageError Unit × Store)
    (f : Placeholder → Placeholder) : Except EngineError Outcome × Engine :=
  match write e.store with
  | (.error source, store) => (.error (.persistence source), { e with store })
  | (.ok (), store) =>
    { e with store, network := e.network.withRegistry fun r => r.modify name f }.commit name

/-- Sets the text of a textbox. Only errors of its rule-sets keep a text out. -/
def setText (e : Engine) (name value : String) : Except EngineError Outcome × Engine :=
  match e.changeable name with
  | .error err => (.error err, e)
  | .ok p =>
    match p.kind with
    | .textbox _ =>
      if p.accepts value then
        e.storeThenCommit name (·.storeText name value) fun p => { p with currentValue := value }
      else (.error (.rejected name value (p.evaluate value).message), e)
    | _ => (.error (mismatch p "textbox"), e)

/-- Checks or unchecks a checkbox. -/
def setChecked (e : Engine) (name : String) (checked : Bool) :
    Except EngineError Outcome × Engine :=
  match e.changeable name with
  | .error err => (.error err, e)
  | .ok p =>
    match p.kind with
    | .checkbox box =>
      let box := { box with isChecked := checked }
      e.storeThenCommit name (·.storeChecked name checked) fun p =>
        { p with kind := .checkbox box, currentValue := box.value }
    | _ => (.error (mismatch p "checkbox"), e)

/-- Checks a checkbox that is not checked, and the other way round. -/
def toggle (e : Engine) (name : String) : Except EngineError Outcome × Engine :=
  match e.find name with
  | .error err => (.error err, e)
  | .ok p =>
    match p.kind with
    | .checkbox box => e.setChecked name !box.isChecked
    | _ => (.error (mismatch p "checkbox"), e)

/-- Selects a choice of a dropdown. -/
def selectIndex (e : Engine) (name : String) (index : Nat) : Except EngineError Outcome × Engine :=
  match e.changeable name with
  | .error err => (.error err, e)
  | .ok p =>
    match p.kind with
    | .dropdown menu =>
      let menu := { menu with index }
      e.storeThenCommit name (·.storeIndex name index menu.choices.length) fun p =>
        { p with kind := .dropdown menu, currentValue := menu.value }
    | _ => (.error (mismatch p "dropdown"), e)

/-- Moves the selection of a dropdown so many steps on, around the list. -/
def cycleIndex (e : Engine) (name : String) (delta : Int) : Except EngineError Outcome × Engine :=
  match e.find name with
  | .error err => (.error err, e)
  | .ok p =>
    match p.kind with
    | .dropdown menu => e.selectIndex name (menu.stepped delta)
    | _ => (.error (mismatch p "dropdown"), e)

/-- Takes notice of a raw value that has been changed in place. -/
def placeholderChanged (e : Engine) (name : String) : Except EngineError Outcome × Engine :=
  if e.registry.contains name then e.commit name else (.error (.unknownPlaceholder name), e)

/-! ## 3. Settings and resetting -/

/-- Overrides a toggle and stores that. -/
def setToggle (e : Engine) (t : Toggle) (on : Bool) : Except EngineError Unit × Engine :=
  match e.store.storeToggle t.key on with
  | (.error source, store) => (.error (.persistence source), { e with store })
  | (.ok (), store) =>
    (.ok (), { e with
      store
      network := e.network.withRegistry fun r => { r with settings := r.settings.withToggle t on } })

/-- Forgets all stored values and goes back to the defaults. -/
def reset (e : Engine) : Except EngineError Outcome × Engine :=
  match e.store.clearPlaceholders with
  | (.error source, store) => (.error (.persistence source), { e with store })
  | (.ok _, store) =>
    let (network, errors) := Network.build e.registry.resetToDefaults
    { e with store, network, diagnostics := e.diagnostics ++ errors.map EngineError.graph }.propagate
      network.registry.names

end Placeholders.Engine
