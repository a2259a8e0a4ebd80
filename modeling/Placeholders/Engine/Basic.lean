import Placeholders.Expansion
import Placeholders.Network
import Placeholders.Storage.Store

/-!
# The engine

What one view of a page owns: the network of placeholders, the store of their values, and the page.

* `Engine.start` reads a descriptor and what the store has. What is wrong there is collected, and stops
  nothing.
* A page is expanded when it is attached, and may be expanded again. Bindings are those of the last
  pass.
* Every function that may fail answers its result together with the engine after it.
-/

namespace Placeholders

open Placeholders.Storage Placeholders.Validation

/-! ## 1. Outcomes and errors -/

/-- What a change has brought about. -/
structure Outcome where
  /-- The changed placeholder and everything that depends on it. -/
  affected : List String
  /-- Some affected placeholder stands where it cannot be brought up to date. -/
  needsReload : Bool
  /-- How many bindings were brought up to date. -/
  refreshed : Nat
  deriving DecidableEq, Repr

/-- What can be wrong with a use of the engine. -/
inductive EngineError where
  | unknownPlaceholder (name : String)
  | readOnly (name : String)
  | kindMismatch (name expected actual : String)
  | rejected (name value message : String)
  | descriptor (source : ParseError)
  | persistence (source : StorageError)
  | graph (source : GraphError)
  /-- The change closed a cycle. The cycle has been opened and the change has been made. -/
  | cycleRepaired (source : GraphError) (outcome : Outcome)
  | expand (source : ExpandError)
  | noPage
  deriving DecidableEq, Repr

namespace EngineError

/-- The wording of an error. -/
def message : EngineError → String
  | unknownPlaceholder name => s!"unknown placeholder: {name}"
  | readOnly name => s!"placeholder '{name}' is read-only"
  | kindMismatch name expected actual =>
    s!"placeholder '{name}' is a {actual}, expected a {expected}"
  | rejected name value message => s!"value '{value}' rejected for '{name}': {message}"
  | descriptor source => s!"descriptor error: {source.message}"
  | persistence source => s!"state error: {source.message}"
  | graph source => s!"graph error: {source.message}"
  | cycleRepaired source _ => s!"graph error: {source.message}"
  | expand source => s!"expansion error: {source.message}"
  | noPage => "no page attached"

/-- Whether everything has been put in order before the error was reported. -/
def isRepaired : EngineError → Bool
  | graph (.cycleDetected ..) => true
  | cycleRepaired .. => true
  | _ => false

/-- Whether readers should be offered to go back to the defaults. -/
def suggestsReset : EngineError → Bool
  | graph (.cycleDetected ..) => true
  | cycleRepaired (.cycleDetected ..) _ => true
  | _ => false

/-- What the change has brought about in spite of the error. -/
def outcome? : EngineError → Option Outcome
  | cycleRepaired _ outcome => some outcome
  | _ => none

end EngineError

/-! ## 2. Engines -/

/-- An expanded page. -/
structure Page where
  document : Document
  /-- The node below which the page is expanded. -/
  root : Nat := Document.root
  /-- The bindings that the last pass found. -/
  bindings : Bindings := .empty

/-- All that one view of a page owns. -/
structure Engine where
  network : Network
  store : Store
  page : Option Page := none
  /-- What has been wrong so far without stopping anything. -/
  diagnostics : List EngineError := []

namespace Engine

/-- The placeholders. -/
def registry (e : Engine) : Registry := e.network.registry

/-- The settings, with what readers have overridden. -/
def settings (e : Engine) : Settings := e.registry.settings

/-- An engine for a descriptor, with the values that the storage has. -/
def start (host : Host) (d : Descriptor) (backend : Backend) : Engine :=
  let store : Store := { backend, keySpace := d.settings.keySpace }
  let (registry, parseErrors) := Registry.parse host d
  let (network, graphErrors) :=
    Network.build ((registry.applyOverrides store).loadState store)
  { network
    store
    diagnostics := parseErrors.map .descriptor ++ graphErrors.map .graph }

/-! ## 3. Pages -/

/-- Expands a page with the placeholders of the engine. -/
def expandPage (e : Engine) (page : Page) : Except EngineError (List String × Engine) :=
  match page.document.expand page.root e.registry with
  | .error source => .error (.expand source)
  | .ok (document, registry, findings) =>
    .ok (findings.used, { e with
      network := e.network.withRegistry fun _ => registry
      page := some { page with document, bindings := findings.bindings } })

/-- Expands a page and keeps it. Answers the placeholders that are on it. -/
def attach (e : Engine) (page : Page) : Except EngineError (List String) × Engine :=
  match e.expandPage page with
  | .ok (used, e) => (.ok used, e)
  | .error err => (.error err, e)

/-- Expands the attached page once more. -/
def rerun (e : Engine) : Except EngineError (List String) × Engine :=
  match e.page with
  | some page => e.attach page
  | none => (.error .noPage, e)

/-- Gives the page up. -/
def detach (e : Engine) : Option Page × Engine := (e.page, { e with page := none })

/-! ## 4. Questions -/

/-- The placeholder of a name. -/
def find (e : Engine) (name : String) : Except EngineError Placeholder :=
  match e.registry.get? name with
  | some p => .ok p
  | none => .error (.unknownPlaceholder name)

/-- The verdict on a value for a placeholder. -/
def evaluate (e : Engine) (name value : String) : Except EngineError Verdict :=
  (e.find name).map fun p => p.evaluate value

/-- The expanded value of a placeholder. -/
def expandedValue (e : Engine) (name : String) : Except EngineError String :=
  (e.find name).map (·.expandedValue)

/-- All that depends on a placeholder. -/
def dependents (e : Engine) (name : String) : Except EngineError (List String) :=
  (e.network.dependents name).mapError .graph

/-- All that is on the page and all that those depend on. -/
def used (e : Engine) : List String := e.network.used

/-- The errors so far, which are forgotten. -/
def takeDiagnostics (e : Engine) : List EngineError × Engine :=
  (e.diagnostics, { e with diagnostics := [] })

end Engine

end Placeholders
