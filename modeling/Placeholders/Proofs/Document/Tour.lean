import Mathlib.Data.List.Flatten
import Placeholders.Proofs.Document.Forest
import Placeholders.Proofs.Expansion.Tables

/-!
# Going through what is below a node

`descendants` lists what is below a node by its children and what is below these. The same list comes out
of a loop that keeps a stack: it takes the first node off, and puts the children of this node in its place.

* `Tour` is the state of the loop. It comes to an end in as many steps as there are nodes to list, and it
  lists them in the same order (`Within.go_tour`).
* A node stands before its children, and these stand in their order (`Within.sublist_descendantsTo`).
-/

namespace Placeholders.Document

open Relation

variable {doc : Document}

/-! ## 1. The loop -/

/-- What has been found so far, and what is still to be looked at, the next node first. -/
structure Tour where
  found : List Nat := []
  pending : List Nat
  deriving DecidableEq, Repr

namespace Tour

/-- Lists the next node and puts its children in its place. -/
def next (doc : Document) (t : Tour) : Tour :=
  match t.pending with
  | [] => t
  | id :: rest => ⟨t.found ++ [id], doc.children id ++ rest⟩

/-- So many steps. -/
def go (doc : Document) : Nat → Tour → Tour
  | 0, t => t
  | steps + 1, t => go doc steps (t.next doc)

/-- A tour through what is below a node, before the first step. -/
def start (doc : Document) (id : Nat) : Tour := { pending := doc.children id }

theorem go_add (doc : Document) (m n : Nat) (t : Tour) : go doc (m + n) t = go doc n (go doc m t) := by
  induction m generalizing t with
  | zero => rw [Nat.zero_add]; rfl
  | succ m ih =>
      rw [Nat.succ_add]
      exact ih (t.next doc)

/-- Once it is over a tour does not go on. -/
theorem go_of_pending_eq_nil {t : Tour} (h : t.pending = []) (steps : Nat) : go doc steps t = t := by
  induction steps with
  | zero => rfl
  | succ steps ih =>
      have hnext : t.next doc = t := by
        unfold next
        rw [h]
      rw [go, hnext, ih]

end Tour

/-- **A tour lists what is below a node and then goes on as before.** Below a node it is an induction on the
    depth, and along its children one on their list. -/
theorem Within.go_tour {k id : Nat} (h : doc.Within k id) (found rest : List Nat) :
    Tour.go doc (doc.descendantsTo k id).length ⟨found, doc.children id ++ rest⟩ =
      ⟨found ++ doc.descendantsTo k id, rest⟩ := by
  induction h generalizing found rest with
  | @intro k id _ ih =>
      rw [descendantsTo]
      generalize doc.children id = cs at ih ⊢
      induction cs generalizing found with
      | nil => rw [List.flatMap_nil, List.append_nil]; rfl
      | cons c cs ihcs =>
          obtain ⟨hc, hcs⟩ := List.forall_mem_cons.mp ih
          have hfirst : (⟨found, c :: cs ++ rest⟩ : Tour).next doc =
              ⟨found ++ [c], doc.children c ++ (cs ++ rest)⟩ := rfl
          rw [List.flatMap_cons, List.length_append, Tour.go_add, List.length_cons, Tour.go, hfirst,
            hc, ihcs _ hcs]
          simp

/-! ## 2. The order -/

theorem sublist_flatMap_cons (cs : List Nat) (below : Nat → List Nat) :
    cs.Sublist (cs.flatMap fun c => c :: below c) := by
  induction cs with
  | nil => exact .slnil
  | cons c cs ih =>
      rw [List.flatMap_cons, List.cons_append]
      exact (ih.trans (List.sublist_append_right _ _)).cons_cons c

/-- **A node stands before its children, and these stand in their order.** -/
theorem Within.sublist_descendantsTo {k root p : Nat} (h : doc.Within k root)
    (hp : p ∈ root :: doc.descendantsTo k root) :
    (p :: doc.children p).Sublist (root :: doc.descendantsTo k root) := by
  induction h with
  | @intro k root _ ih =>
      rw [descendantsTo] at hp ⊢
      rcases List.mem_cons.mp hp with rfl | hp
      · exact (sublist_flatMap_cons _ _).cons_cons p
      · obtain ⟨c, hc, hpc⟩ := List.mem_flatMap.mp hp
        refine ((ih c hc hpc).trans ?_).cons root
        exact List.sublist_flatten_of_mem (List.mem_map_of_mem hc)

/-! ## 3. In a forest -/

section Descendants

variable (h : doc.Forest) {id : Nat} (hid : id < doc.size)

include h hid

theorem Forest.within : doc.Within doc.size id := h.linked.within_size (h.grounded id) hid

/-- **There is an end to every tour of a forest, and it lists what is below the node.** -/
theorem Forest.go_start {steps : Nat} (hsteps : (doc.descendants id).length ≤ steps) :
    Tour.go doc steps (.start doc id) = ⟨doc.descendants id, []⟩ := by
  have hgo := (h.within hid).go_tour [] []
  rw [List.append_nil, List.nil_append] at hgo
  obtain ⟨more, rfl⟩ := Nat.exists_eq_add_of_le hsteps
  rw [Tour.go_add, Tour.start, descendants, hgo]
  exact Tour.go_of_pending_eq_nil rfl more

theorem Forest.mem_descendants {c : Nat} : c ∈ doc.descendants id ↔ TransGen doc.Child id c :=
  (h.within hid).mem_descendantsTo

/-- What a node is above is the node itself and what is listed below it. -/
theorem Forest.mem_cons_descendants {c : Nat} :
    c ∈ id :: doc.descendants id ↔ ReflTransGen doc.Child id c := by
  rw [List.mem_cons, h.mem_descendants hid, reflTransGen_iff_eq_or_transGen]

theorem Forest.nodup_descendants : (id :: doc.descendants id).Nodup := by
  refine List.nodup_cons.mpr ⟨fun hmem => ?_, h.linked.nodup_descendantsTo (h.grounded id)⟩
  exact h.acyclic id ((h.mem_descendants hid).mp hmem)

end Descendants

end Placeholders.Document
