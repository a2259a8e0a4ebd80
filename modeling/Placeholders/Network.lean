import Placeholders.Digraph.Walk
import Placeholders.Reference
import Placeholders.Registry

/-!
# The network of references

A registry together with a graph on the positions of its placeholders. An edge leads from a
placeholder to one that its value refers to.

* Edges are found by scanning values, they are never declared. They leave only placeholders that may
  refer to others, and never lead back to where they start: a reference to oneself is plain text.
* After every change the graph is without cycles. Where a scan closes one, the scanned placeholder
  loses all its references, its expanded value is its raw one, and `GraphError.cycleDetected` tells.
* Expanded values are brought up to date from the inside out: a placeholder after all it refers to.
-/

namespace Placeholders

/-! ## 1. Errors -/

/-- What can be wrong with references. -/
inductive GraphError where
  | unknownPlaceholder (name : String)
  /-- The value of a placeholder closed a cycle; its references have been dropped. -/
  | cycleDetected (name : String) (cycle : List String)
  deriving DecidableEq, Repr

/-- The wording of an error. -/
def GraphError.message : GraphError → String
  | .unknownPlaceholder name => s!"placeholder '{name}' is not part of the dependency graph"
  | .cycleDetected name cycle =>
    let path := String.intercalate " -> " cycle
    s!"placeholder '{name}' was part of a loop ({path}) and has temporarily been made non-recursive"

/-! ## 2. Networks -/

/-- A registry and the references among its placeholders. -/
structure Network where
  registry : Registry
  graph : Digraph

namespace Network

/-- The registry changed by a function that keeps the positions. -/
def withRegistry (net : Network) (f : Registry → Registry) : Network :=
  { net with registry := f net.registry }

/-- The placeholder at a position. -/
def at? (net : Network) (i : Nat) : Option Placeholder := net.registry.placeholders[i]?

/-- The name at a position. -/
def nameAt (net : Network) (i : Nat) : String := ((net.at? i).map (·.name)).getD ""

/-- The names at positions. -/
def namesAt (net : Network) (positions : List Nat) : List String := positions.map net.nameAt

/-- The position of a name. -/
def position (net : Network) (name : String) : Except GraphError Nat :=
  match net.registry.indexOf? name with
  | some i => .ok i
  | none => .error (.unknownPlaceholder name)

/-- The first cycle of the graph. -/
def cycle? (net : Network) : Option (List Nat) :=
  Digraph.cycle? net.graph.size net.graph.targets

/-- Whether the graph has a cycle. -/
def hasCycle (net : Network) : Bool := net.cycle?.isSome

/-! ## 3. Scanning -/

/-- The positions, other than its own, that the value of a placeholder refers to. -/
def referredBy (net : Network) (i : Nat) (value : String) : List Nat :=
  (List.range net.graph.size).filter fun j =>
    j != i && (net.at? j).any fun other => other.isReferencedIn value

/-- Finds the references at a position anew, if there may be any. -/
def scan (net : Network) (i : Nat) : Network :=
  match net.at? i with
  | none => net
  | some p =>
    if p.allowRecursive then
      { net with graph := (net.graph.clearTargets i).addTargets i (net.referredBy i p.currentValue) }
    else net

/-- Drops the references at a position; the expanded value becomes the raw one. -/
def isolate (net : Network) (i : Nat) : Network :=
  { registry := net.registry.modifyAt i fun p => { p with expandedValue := p.currentValue }
    graph := net.graph.clearTargets i }

/-- The error of a cycle that was closed at a position. -/
def cycleError (net : Network) (i : Nat) (cycle : List Nat) : GraphError :=
  .cycleDetected (net.nameAt i) (net.namesAt cycle)

/-! ## 4. Expanded values -/

/-- Brings the expanded value at a position up to date. -/
def recomputeAt (net : Network) (i : Nat) : Network :=
  let references := (net.graph.targets i).filterMap net.at?
  net.withRegistry fun r => r.modifyAt i fun p =>
    { p with expandedValue := Reference.expand references p.currentValue }

/-- All positions, each after those it refers to. -/
def order (net : Network) : Except GraphError (List Nat) :=
  match Digraph.order? net.graph.size net.graph.targets with
  | .ok positions => .ok positions
  | .error cycle =>
    let first := cycle.headD 0
    .error (net.cycleError first [first])

/-- Brings the expanded values at certain positions up to date, in order. -/
def recomputeWhere (net : Network) (stale : Nat → Bool) : Except GraphError Network :=
  net.order.map fun positions => (positions.filter stale).foldl recomputeAt net

/-- Whether the value at a position depends on that at another one, or is that one. -/
def isAffectedBy (net : Network) (i : Nat) : Nat → Bool :=
  let dependents := Digraph.closure net.graph.size net.graph.sources i
  fun j => j == i || dependents.contains j

/-- Brings the expanded value of a placeholder up to date and, if asked to, those of all that depend on
    it. -/
def recompute (net : Network) (name : String) (recursive : Bool) : Except GraphError Network := do
  let i ← net.position name
  if recursive then net.recomputeWhere (net.isAffectedBy i) else .ok (net.recomputeAt i)

/-! ## 5. Changes -/

/-- Scans a position. Answers the error if that closes a cycle, which is then open again. -/
def rescan (net : Network) (i : Nat) : Option GraphError × Network :=
  let scanned := net.scan i
  match scanned.cycle? with
  | some cycle => (some (scanned.cycleError i cycle), scanned.isolate i)
  | none => (none, scanned)

/-- Takes notice of a changed value: scans it and brings all that depends on it up to date. -/
def valueChanged (net : Network) (name : String) : Except GraphError Unit × Network :=
  match net.position name with
  | .error e => (.error e, net)
  | .ok i =>
    let (broken, net) := net.rescan i
    match net.recomputeWhere (net.isAffectedBy i), broken with
    | .error e, _ => (.error e, net)
    | .ok net, some e => (.error e, net)
    | .ok net, none => (.ok (), net)

/-- Scans several positions in order, and collects the errors. -/
def scanAll (net : Network) : List Nat → Network × List GraphError
  | [] => (net, [])
  | i :: rest =>
    let (broken, net) := net.rescan i
    let (net, errors) := net.scanAll rest
    (net, broken.toList ++ errors)

/-- The network of a registry, and the errors of the cycles that had to be opened. -/
def build (registry : Registry) : Network × List GraphError :=
  let net : Network := ⟨registry, .discrete registry.size⟩
  let (net, errors) := net.scanAll (List.range registry.size)
  match net.recomputeWhere fun _ => true with
  | .ok net => (net, errors)
  | .error e => (net, errors ++ [e])

/-! ## 6. Questions -/

/-- All that depends on a placeholder, in order. -/
def dependents (net : Network) (name : String) : Except GraphError (List String) :=
  (net.position name).map fun i =>
    net.namesAt (Digraph.closure net.graph.size net.graph.sources i)

/-- All that a placeholder depends on, in order. -/
def dependencies (net : Network) (name : String) : Except GraphError (List String) :=
  (net.position name).map fun i =>
    net.namesAt (Digraph.closure net.graph.size net.graph.targets i)

/-- The positions that a position refers to, in ascending order. -/
def referencesAt (net : Network) (i : Nat) : List Nat :=
  (List.range net.graph.size).filter fun j => (net.graph.targets i).contains j

/-- What a placeholder refers to itself, in order. -/
def references (net : Network) (name : String) : Except GraphError (List String) :=
  (net.position name).map fun i => net.namesAt (net.referencesAt i)

/-- All that is on the page and all that those depend on, in order. -/
def used (net : Network) : List String :=
  let size := net.graph.size
  let seeds := (List.range size).filter fun i => (net.at? i).any (·.isUsed)
  let reached := seeds.flatMap fun i => i :: Digraph.closure size net.graph.targets i
  net.namesAt ((List.range size).filter reached.contains)

/-- The line that describes a position. -/
def describeAt (net : Network) (i : Nat) : String :=
  let name := net.nameAt i
  let value := ((net.at? i).map (·.expandedValue)).getD ""
  match net.namesAt (net.referencesAt i) with
  | [] => s!"{name} ({value}) has no dependencies"
  | names => s!"{name} ({value}) depends on " ++ String.intercalate ", " names

/-- A text with a line for every placeholder. -/
def describe (net : Network) : String :=
  String.intercalate "\n"
    ("Dependency graph nodes:" :: (List.range net.graph.size).map net.describeAt)

end Network

end Placeholders
