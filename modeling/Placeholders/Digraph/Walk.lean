import Placeholders.Digraph.Basic

/-!
# Walks through a graph

Everything here takes the graph as a function from a node to the nodes next to it, in order.

* `reachable` lists what can be reached from some nodes inside a finite domain. Every step takes the
  node that it visits out of the domain, so the walk ends.
* `visit` goes depth first. It keeps the path to the present node and the nodes it is done with; a
  neighbour on the path closes a cycle.
* `cycle?` answers the first cycle that a walk from every node in turn meets, as a closed path.
* `order?` lists all nodes so that each comes after everything next to it, if there is no cycle.
-/

namespace Placeholders.Digraph

/-! ## 1. Reachable nodes -/

/-- The nodes of `remaining` that can be reached from `pending` through `remaining`, each once. -/
def reachable (next : Nat → List Nat) (remaining pending : List Nat) : List Nat :=
  match _h : pending.find? remaining.contains with
  | none => []
  | some a => a :: reachable next (remaining.erase a) (next a ++ pending)
termination_by remaining.length
decreasing_by
  have hmem : a ∈ remaining := List.contains_iff_mem.mp (List.find?_some _h)
  have hlength := List.length_erase_of_mem hmem
  have hpos := List.length_pos_of_mem hmem
  omega

/-- The nodes other than `a` that a non-empty walk from `a` leads to, in ascending order. -/
def closure (size : Nat) (next : Nat → List Nat) (a : Nat) : List Nat :=
  let reached := reachable next (List.range size) (next a)
  (List.range size).filter fun b => b != a && reached.contains b

/-! ## 2. Cycles -/

/-- The cycle that a step to `a` closes on a path. The path has its last node first. -/
def closed (path : List Nat) (a : Nat) : List Nat :=
  a :: (path.takeWhile (· != a)).reverse ++ [a]

/-- Visits a node and all it leads to, no deeper than `depth`. Answers the nodes it is done with,
    latest first, or the first cycle. -/
def visit (next : Nat → List Nat) : (depth : Nat) → (path done : List Nat) → Nat →
    Except (List Nat) (List Nat)
  | 0, _, done, _ => .ok done
  | depth + 1, path, done, a =>
    let step (done : List Nat) (b : Nat) : Except (List Nat) (List Nat) :=
      if (a :: path).contains b then .error (closed (a :: path) b)
      else if done.contains b then .ok done
      else visit next depth (a :: path) done b
    ((next a).foldlM step done).map (a :: ·)

/-- Visits every node below `size` that an earlier visit did not meet. -/
def visitAll (size : Nat) (next : Nat → List Nat) : Except (List Nat) (List Nat) :=
  (List.range size).foldlM
    (fun done a => if done.contains a then .ok done else visit next size [] done a) []

/-- The first cycle that is met: a node, a path from it, and the node again. -/
def cycle? (size : Nat) (next : Nat → List Nat) : Option (List Nat) :=
  match visitAll size next with
  | .error cycle => some cycle
  | .ok _ => none

/-- All nodes, each after everything that it leads to, or a cycle. -/
def order? (size : Nat) (next : Nat → List Nat) : Except (List Nat) (List Nat) :=
  (visitAll size next).map List.reverse

end Placeholders.Digraph
