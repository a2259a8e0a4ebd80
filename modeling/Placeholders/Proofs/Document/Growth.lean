import Placeholders.Proofs.Document.Below

/-!
# Documents that grow

Everything but moving nodes about by hand adds new nodes below old ones.

* A document is `Ordered` if children have higher numbers than their parents. Then no walk down comes
  back, and everything in it is grounded. Where new nodes are added to any document, this holds of them at
  least (`OrderedFrom`).
* Emptying a node, giving it a text and reading markup into it keep documents linked, and reading markup
  keeps them ordered.
-/

namespace Placeholders.Document

open Placeholders.Markup Relation

variable {doc : Document}

/-! ## 1. Ordered documents -/

/-- Children have higher numbers than their parents. -/
def Ordered (doc : Document) : Prop := ∀ p, ∀ c ∈ doc.children p, p < c

/-- The nodes from a number on have children of higher numbers. -/
def OrderedFrom (doc : Document) (n : Nat) : Prop := ∀ p, n ≤ p → ∀ c ∈ doc.children p, p < c

theorem Ordered.orderedFrom (h : doc.Ordered) (n : Nat) : doc.OrderedFrom n := fun p _ => h p

/-- Nodes that are yet to come have no children. -/
theorem orderedFrom_size (doc : Document) : doc.OrderedFrom doc.size := by
  intro p hp c hc
  rw [children_eq_nil hp] at hc
  cases hc

theorem OrderedFrom.lt_of_walk {n : Nat} (h : doc.OrderedFrom n) {a b : Nat} (ha : n ≤ a)
    (hwalk : TransGen doc.Child a b) : a < b := by
  induction hwalk with
  | single hchild => exact h a ha _ hchild
  | tail _ hchild ih => exact Nat.lt_trans ih (h _ (by omega) _ hchild)

/-- There is an end to what is below an ordered node. -/
theorem OrderedFrom.grounded {n : Nat} (h : doc.OrderedFrom n) {root : Nat} (hroot : n ≤ root) :
    doc.Grounded root := by
  intro id hwalk hback
  have hid : root ≤ id := by
    rcases reflTransGen_iff_eq_or_transGen.mp hwalk with rfl | hdown
    · exact Nat.le_refl _
    · exact Nat.le_of_lt (h.lt_of_walk hroot hdown)
  exact Nat.lt_irrefl id (h.lt_of_walk (Nat.le_trans hroot hid) hback)

/-- **In an ordered document there is an end to what is below a node.** -/
theorem Ordered.grounded (h : doc.Ordered) (root : Nat) : doc.Grounded root :=
  (h.orderedFrom 0).grounded (Nat.zero_le root)

theorem ordered_empty : empty.Ordered := by
  intro p c hc
  rw [linked_empty.mirrored] at hc
  cases c with
  | zero => cases hc
  | succ c => rw [parent?_eq_none (by simp [size, empty])] at hc; cases hc

theorem OrderedFrom.appendNew {n : Nat} (h : doc.OrderedFrom n) {parent : Nat}
    (hparent : parent < doc.size) (payload : Payload) :
    (doc.appendNew parent payload).OrderedFrom n := by
  intro p hp c hc
  rw [children_appendNew hparent] at hc
  split at hc
  · rename_i heq
    rcases List.mem_append.mp hc with hc | hc
    · exact h p hp c hc
    · rw [List.mem_singleton.mp hc, heq]
      exact hparent
  · exact h p hp c hc

/-! ## 2. Emptying a node -/

theorem foldl_modify_spec (doc : Document) (cs : List Nat) (hcs : ∀ c ∈ cs, c < doc.size) :
    let orphans := cs.foldl
      (fun doc child => doc.modify child fun node => { node with parent := none }) doc
    orphans.size = doc.size ∧ (∀ j, orphans.payload? j = doc.payload? j) ∧
      (∀ j, orphans.children j = doc.children j) ∧
      ∀ j, orphans.parent? j = if j ∈ cs then none else doc.parent? j := by
  induction cs generalizing doc with
  | nil => exact ⟨rfl, fun _ => rfl, fun _ => rfl, fun j => by simp⟩
  | cons c cs ih =>
      obtain ⟨hc, hrest⟩ := List.forall_mem_cons.mp hcs
      obtain ⟨hsize, hpayload, hchildren, hparent⟩ :=
        ih (doc.modify c fun node => { node with parent := none }) (by simpa using hrest)
      refine ⟨by simpa using hsize, fun j => ?_, fun j => ?_, fun j => ?_⟩
      · refine (hpayload j).trans ?_
        rw [payload?_modify_of_eq]
        exact fun _ => rfl
      · refine (hchildren j).trans ?_
        rw [children_modify_of_eq]
        exact fun _ => rfl
      · refine (hparent j).trans ?_
        rw [parent?_modify (x := none) _ hc]
        · by_cases hj : j = c <;> simp [hj]
        · exact fun _ => rfl

section ClearChildren

variable (hdoc : doc.Linked) {id : Nat} (hid : id < doc.size)

include hdoc hid

theorem Linked.clearChildren_spec : (doc.clearChildren id).size = doc.size ∧
    (∀ j, (doc.clearChildren id).payload? j = doc.payload? j) ∧
    (∀ j, (doc.clearChildren id).children j = if j = id then [] else doc.children j) ∧
    ∀ j, (doc.clearChildren id).parent? j =
      if j ∈ doc.children id then none else doc.parent? j := by
  obtain ⟨hsize, hpayload, hchildren, hparent⟩ :=
    foldl_modify_spec (doc.modify id fun node => { node with children := [] }) (doc.children id)
      fun c hc => by simpa using hdoc.child_lt hc
  refine ⟨hsize.trans (size_modify doc id _), fun j => ?_, fun j => ?_, fun j => ?_⟩
  · refine (hpayload j).trans ?_
    rw [payload?_modify_of_eq]
    exact fun _ => rfl
  · refine (hchildren j).trans ?_
    rw [children_modify (g := fun _ => []) (fun _ => rfl) hid]
  · refine (hparent j).trans ?_
    rw [parent?_modify_of_eq]
    exact fun _ => rfl

theorem Linked.clearChildren : (doc.clearChildren id).Linked := by
  obtain ⟨_, _, hchildren, hparent⟩ := hdoc.clearChildren_spec hid
  refine ⟨fun p c => ?_, fun p => ?_⟩
  · rw [hchildren, hparent]
    by_cases hp : p = id
    · subst hp
      by_cases hc : c ∈ doc.children p
      · simp [hc]
      · simp [hc, ← hdoc.mirrored]
    · rw [if_neg hp, hdoc.mirrored]
      by_cases hc : c ∈ doc.children id
      · rw [if_pos hc, (hdoc.mirrored id c).mp hc]
        simp [Ne.symm hp]
      · rw [if_neg hc]
  · rw [hchildren]
    split
    · exact List.nodup_nil
    · exact hdoc.distinct p

end ClearChildren

/-! ## 3. Setting texts -/

theorem parent?_setText (doc : Document) (id : Nat) (content : String) (j : Nat) :
    (doc.setText id content).parent? j = doc.parent? j := by
  unfold setText
  rw [parent?_modify_of_eq]
  intro n
  split <;> rfl

theorem children_setText (doc : Document) (id : Nat) (content : String) (j : Nat) :
    (doc.setText id content).children j = doc.children j := by
  unfold setText
  rw [children_modify_of_eq]
  intro n
  split <;> rfl

theorem Linked.setText (hdoc : doc.Linked) (id : Nat) (content : String) :
    (doc.setText id content).Linked := by
  refine ⟨fun p c => ?_, fun p => ?_⟩
  · rw [children_setText, parent?_setText, hdoc.mirrored]
  · rw [children_setText]
    exact hdoc.distinct p

theorem Linked.setTextContent (hdoc : doc.Linked) {id : Nat} (hid : id < doc.size)
    (content : String) : (doc.setTextContent id content).Linked := by
  unfold Document.setTextContent
  split
  · exact hdoc.setText id content
  · have hcleared := hdoc.clearChildren hid
    dsimp only
    split
    · exact hcleared
    · refine hcleared.appendNew ?_ _
      rwa [(hdoc.clearChildren_spec hid).1]

/-! ## 4. Reading markup -/

/-- Linked and ordered where it was, and no smaller than before. -/
structure Grown (doc after : Document) : Prop where
  linked : after.Linked
  orderedFrom : ∀ n, doc.OrderedFrom n → after.OrderedFrom n
  size_le : doc.size ≤ after.size

theorem Grown.ordered {after : Document} (h : doc.Grown after) (hordered : doc.Ordered) :
    after.Ordered :=
  fun p => h.orderedFrom 0 (hordered.orderedFrom 0) p (Nat.zero_le p)

theorem Grown.trans {after last : Document} (h : doc.Grown after) (h' : after.Grown last) :
    doc.Grown last :=
  ⟨h'.linked, fun n hordered => h'.orderedFrom n (h.orderedFrom n hordered),
    Nat.le_trans h.size_le h'.size_le⟩

theorem grown_appendNew (hdoc : doc.Linked) {parent : Nat} (hparent : parent < doc.size)
    (payload : Payload) : doc.Grown (doc.appendNew parent payload) :=
  ⟨hdoc.appendNew hparent payload, fun _ h => h.appendNew hparent payload, by simp⟩

mutual

/-- Appending a tree adds new nodes below old ones. -/
theorem grown_appendTree {doc : Document} (hdoc : doc.Linked) {parent : Nat}
    (hparent : parent < doc.size) : (tree : Tree) → doc.Grown (doc.appendTree parent tree)
  | .doctype _ => grown_appendNew hdoc hparent _
  | .comment _ => grown_appendNew hdoc hparent _
  | .text _ => grown_appendNew hdoc hparent _
  | .element tag attributes children => by
      have hfirst := grown_appendNew hdoc hparent (.element tag attributes)
      rw [appendTree]
      exact hfirst.trans (grown_appendTrees hfirst.linked (by simp) children)
  | .fragment children => by
      rw [appendTree]
      exact grown_appendTrees hdoc hparent children

theorem grown_appendTrees {doc : Document} (hdoc : doc.Linked) {parent : Nat}
    (hparent : parent < doc.size) : (trees : List Tree) → doc.Grown (doc.appendTrees parent trees)
  | [] => ⟨hdoc, fun _ => id, Nat.le_refl _⟩
  | tree :: rest => by
      have hfirst := grown_appendTree hdoc hparent tree
      rw [appendTrees]
      exact hfirst.trans
        (grown_appendTrees hfirst.linked (Nat.lt_of_lt_of_le hparent hfirst.size_le) rest)

end

/-- **A document that is read from markup is linked and ordered.** -/
theorem grown_parse (markup : String) : empty.Grown (parse markup) :=
  grown_appendTrees linked_empty (by simp [root, size, empty]) _

theorem linked_parse (markup : String) : (parse markup).Linked := (grown_parse markup).linked

theorem ordered_parse (markup : String) : (parse markup).Ordered :=
  (grown_parse markup).ordered ordered_empty

theorem root_lt_parse (markup : String) : root < (parse markup).size :=
  Nat.lt_of_lt_of_le (by decide) (grown_parse markup).size_le

theorem Linked.setInnerHtml (hdoc : doc.Linked) {id : Nat} (hid : id < doc.size) (markup : String) :
    (doc.setInnerHtml id markup).Linked := by
  refine (grown_appendTrees (hdoc.clearChildren hid) ?_ _).linked
  rwa [(hdoc.clearChildren_spec hid).1]

end Placeholders.Document
