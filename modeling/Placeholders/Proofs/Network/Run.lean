import Placeholders.Proofs.Network.Regular

/-!
# Runs of a network

Between two changes that a network takes notice of, anything may be written into its records.

* A `Revision` is what may be written into a record: its raw value, whether it may refer to others, and
  its tokens. The references that the graph has may be stale from then on.
* A run is any sequence of revisions and of names, known or not, whose change is followed.
* `acyclic_run` says that the graph never has a cycle when a step of a run has ended.
-/

namespace Placeholders

/-! ## 1. Steps -/

/-- What is written into a record from outside. -/
structure Revision where
  currentValue : String
  allowRecursive : Bool
  tokens : Tokens

/-- The placeholder with a revision written into it. -/
def Placeholder.revised (p : Placeholder) (v : Revision) : Placeholder :=
  { p with
    currentValue := v.currentValue
    allowRecursive := v.allowRecursive
    tokens := v.tokens }

/-- Every record changed by a function of its position. -/
def Registry.mapAt (r : Registry) (f : Nat → Placeholder → Placeholder) : Registry :=
  { r with placeholders := r.placeholders.mapIdx f }

@[simp] theorem Registry.size_mapAt (r : Registry) (f : Nat → Placeholder → Placeholder) :
    (r.mapAt f).size = r.size := by
  simp [Registry.mapAt, Registry.size]

namespace Network

/-- A step of a run. -/
inductive Step where
  /-- Something is written into the records; the graph takes no notice. -/
  | revise (revisions : Nat → Revision)
  /-- The change of a placeholder is followed. -/
  | follow (name : String)

/-- The network after a step, whatever the step answers. -/
def step (net : Network) : Step → Network
  | .revise revisions => net.withRegistry (·.mapAt fun i p => p.revised (revisions i))
  | .follow name => (net.valueChanged name).2

/-- The network after several steps. -/
def run (net : Network) (steps : List Step) : Network := steps.foldl step net

/-! ## 2. Every step keeps a network regular -/

theorem Regular.step {net : Network} (hnet : net.Regular) (s : Step) : (net.step s).Regular := by
  unfold Network.step
  cases s with
  | revise revisions => exact hnet.withRegistry (Registry.size_mapAt _ _)
  | follow name => exact (regular_valueChanged hnet name).1

theorem Regular.run {net : Network} (hnet : net.Regular) (steps : List Step) :
    (net.run steps).Regular := by
  induction steps generalizing net with
  | nil => exact hnet
  | cons s steps ih => exact ih (hnet.step s)

theorem Regular.hasCycle_eq {net : Network} (hnet : net.Regular) : net.hasCycle = false := by
  unfold hasCycle
  rw [cycle?, (Digraph.cycle?_eq_none_iff hnet.leads_lt).mpr hnet.acyclic]
  rfl

/-- **A network has no cycle, and no placeholder that refers to itself, at any point of any run**, no
    matter which of its steps ended in an error; and its own search agrees. -/
theorem acyclic_run (r : Registry) (steps : List Step) :
    let net := (build r).1.run steps
    net.graph.Acyclic ∧ (∀ i, ¬ net.graph.Edge i i) ∧ net.hasCycle = false := by
  have hregular := (regular_build r).1.run steps
  exact ⟨hregular.acyclic, hregular.acyclic.irrefl, hregular.hasCycle_eq⟩

end Network

end Placeholders
