/-!
# Directed graphs on numbered nodes

Nodes are numbered from zero on. Every node keeps one list of links: the edges that leave it and those
that enter it, in the order in which they were added.

* `targets` and `sources` read the two directions off the list, in its order.
* An edge is added once; adding it again changes nothing.
* Removing an edge takes its two links out. The last link of a list moves into the place that has
  become free, so removal can change the order of what stays.
-/

namespace Placeholders

/-! ## 1. Links -/

/-- One end of an edge: the node at the other end, and whether the edge leads there. -/
structure Link where
  node : Nat
  leaving : Bool
  deriving DecidableEq, Repr

/-- Takes the first occurrence of an entry out; the last entry moves into its place. -/
def swapOut {α : Type} [DecidableEq α] (a : α) : List α → List α
  | [] => []
  | b :: rest =>
    if b = a then
      match rest.getLast? with
      | some last => last :: rest.dropLast
      | none => []
    else b :: swapOut a rest

/-- Apart from its order, what is left is the list without one occurrence. -/
theorem swapOut_perm {α : Type} [DecidableEq α] (a : α) (l : List α) :
    (swapOut a l).Perm (l.erase a) := by
  induction l with
  | nil => exact .refl _
  | cons b rest ih =>
    unfold swapOut
    by_cases h : b = a
    · subst h
      simp only [if_true, List.erase_cons_head]
      cases hlast : rest.getLast? with
      | none => simp [List.getLast?_eq_none_iff.mp hlast]
      | some last =>
        obtain ⟨front, rfl⟩ := List.getLast?_eq_some_iff.mp hlast
        simpa using (List.perm_append_singleton last front).symm
    · rw [if_neg h, List.erase_cons_tail (by simpa using h)]
      exact ih.cons b

/-! ## 2. Graphs -/

/-- A directed graph: the links of every node. -/
structure Digraph where
  links : List (List Link)
  deriving DecidableEq, Repr

namespace Digraph

/-- A graph without edges. -/
def discrete (size : Nat) : Digraph := ⟨List.replicate size []⟩

/-- The number of nodes. -/
def size (g : Digraph) : Nat := g.links.length

/-- The links of a node. -/
def linksOf (g : Digraph) (a : Nat) : List Link := g.links[a]?.getD []

/-- The nodes that edges from a node lead to. -/
def targets (g : Digraph) (a : Nat) : List Nat :=
  ((g.linksOf a).filter (·.leaving)).map (·.node)

/-- The nodes that edges to a node come from. -/
def sources (g : Digraph) (a : Nat) : List Nat :=
  ((g.linksOf a).filter fun link => !link.leaving).map (·.node)

/-- Whether there is an edge from one node to another. -/
def hasEdge (g : Digraph) (a b : Nat) : Bool := (g.targets a).contains b

/-- The number of edges. -/
def edgeCount (g : Digraph) : Nat :=
  ((List.range g.size).flatMap g.targets).length

/-! ## 3. Changes -/

/-- Changes the links of a node. -/
def modifyLinks (g : Digraph) (a : Nat) (f : List Link → List Link) : Digraph :=
  ⟨g.links.modify a f⟩

/-- Adds an edge, unless it is there. -/
def addEdge (g : Digraph) (a b : Nat) : Digraph :=
  if g.hasEdge a b then g
  else (g.modifyLinks a (· ++ [⟨b, true⟩])).modifyLinks b (· ++ [⟨a, false⟩])

/-- Removes an edge. -/
def removeEdge (g : Digraph) (a b : Nat) : Digraph :=
  (g.modifyLinks a (swapOut ⟨b, true⟩)).modifyLinks b (swapOut ⟨a, false⟩)

/-- Removes all edges that leave a node, one after the other. -/
def clearTargets (g : Digraph) (a : Nat) : Digraph :=
  (g.targets a).foldl (fun g b => g.removeEdge a b) g

/-- Adds edges from a node to several others. -/
def addTargets (g : Digraph) (a : Nat) (bs : List Nat) : Digraph :=
  bs.foldl (fun g b => g.addEdge a b) g

@[simp] theorem size_modifyLinks (g : Digraph) (a : Nat) (f : List Link → List Link) :
    (g.modifyLinks a f).size = g.size := by
  simp [modifyLinks, size]

@[simp] theorem size_discrete (n : Nat) : (discrete n).size = n := by
  simp [discrete, size]

end Digraph

end Placeholders
