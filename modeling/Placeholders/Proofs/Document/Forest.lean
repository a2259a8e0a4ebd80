import Placeholders.Proofs.Document.Growth

/-!
# Forests

In a linked document nothing keeps a node from standing below itself. A `Forest` is a linked document in which
none does.

* All changes come down to giving a node without a place one that is not below it (`Forest.place`), and to
  taking nodes out (`Forest.mono`).
* Moving a node keeps a forest if the node is not put below itself. New nodes can be put anywhere, since
  nothing is below them yet.
-/

namespace Placeholders.Document

open Placeholders.Markup Relation

variable {doc after : Document}

/-- The links agree, and no node is below itself. -/
structure Forest (doc : Document) : Prop where
  linked : doc.Linked
  acyclic : ∀ id, ¬ TransGen doc.Child id id

theorem Forest.grounded (h : doc.Forest) (root : Nat) : doc.Grounded root := fun id _ => h.acyclic id

theorem Ordered.forest (h : doc.Ordered) (hdoc : doc.Linked) : doc.Forest :=
  ⟨hdoc, fun id => h.grounded id id .refl⟩

theorem forest_empty : empty.Forest := ordered_empty.forest linked_empty

theorem forest_parse (markup : String) : (parse markup).Forest :=
  (ordered_parse markup).forest (linked_parse markup)

/-! ## 1. Fewer links and one link more -/

/-- Nothing that takes nodes out puts one below itself. -/
theorem Forest.mono (h : doc.Forest) (hafter : after.Linked)
    (hsub : ∀ p, after.children p ⊆ doc.children p) : after.Forest :=
  ⟨hafter, fun id hround => h.acyclic id (TransGen.mono (fun p _ hc => hsub p hc) id id hround)⟩

/-- A walk takes the one new link there is, or it has been there before. It takes it once at the most if
    what the link leads to has nothing above it on the way. -/
theorem transGen_of_link {p c a b : Nat}
    (hnew : ∀ x y, after.Child x y → doc.Child x y ∨ x = p ∧ y = c) (h : TransGen after.Child a b) :
    TransGen doc.Child a b ∨ ReflTransGen doc.Child a p ∧ ReflTransGen doc.Child c b := by
  induction h with
  | single hchild =>
      rcases hnew _ _ hchild with hold | ⟨rfl, rfl⟩
      · exact .inl (.single hold)
      · exact .inr ⟨.refl, .refl⟩
  | tail _ hchild ih =>
      rcases hnew _ _ hchild with hold | ⟨rfl, rfl⟩
      · exact ih.imp (·.tail hold) fun h => ⟨h.1, h.2.tail hold⟩
      · refine .inr ⟨?_, .refl⟩
        exact ih.elim TransGen.to_reflTransGen And.left

section Place

variable {parent child : Nat} {g : List Nat → List Nat}

/-- **A node without a place can be given any one that is not below it.** -/
theorem Forest.place (h : doc.Forest) (hparent : parent < doc.size) (hchild : child < doc.size)
    (hfree : doc.parent? child = none)
    (hg : (g (doc.children parent)).Perm (child :: doc.children parent))
    (hout : ¬ ReflTransGen doc.Child child parent) : (doc.place parent child g).Forest := by
  refine ⟨h.linked.place hparent hchild hfree hg, fun id hround => ?_⟩
  have hnew : ∀ x y, (doc.place parent child g).Child x y →
      doc.Child x y ∨ x = parent ∧ y = child := by
    intro x y hxy
    rw [Child, children_place hparent] at hxy
    split at hxy
    · rename_i hx
      subst hx
      exact (List.mem_cons.mp (hg.subset hxy)).symm.imp_right fun hy => ⟨rfl, hy⟩
    · exact .inl hxy
  rcases transGen_of_link hnew hround with hold | ⟨hup, hdown⟩
  · exact h.acyclic id hold
  · exact hout (hdown.trans hup)

end Place

/-! ## 2. Moving nodes -/

section Moves

variable (h : doc.Forest)

include h

theorem Forest.create (payload : Payload) : (doc.create payload).1.Forest :=
  h.mono (h.linked.create payload) fun p _ hc => children_create doc payload p ▸ hc

theorem Forest.detach (id : Nat) : (doc.detach id).Forest := by
  refine h.mono (h.linked.detach id) fun p c hc => ?_
  rw [h.linked.children_detach] at hc
  exact (List.mem_filter.mp hc).1

/-- What is not below a node is not below it either when the node has been taken out. -/
theorem Forest.outside_detach {id p : Nat} (hout : ¬ ReflTransGen doc.Child id p) :
    ¬ ReflTransGen (doc.detach id).Child id p := by
  refine fun hwalk => hout (ReflTransGen.mono (fun x y hxy => ?_) id p hwalk)
  rw [Child, h.linked.children_detach] at hxy
  exact (List.mem_filter.mp hxy).1

/-- **A node can be moved to the end of any node that is not below it.** -/
theorem Forest.append {parent child : Nat} (hparent : parent < doc.size) (hchild : child < doc.size)
    (hout : ¬ ReflTransGen doc.Child child parent) : (doc.append parent child).Forest := by
  rw [append_eq]
  refine (h.detach child).place (by simpa using hparent) (by simpa using hchild) ?_
    (List.perm_append_singleton child _) (h.outside_detach hout)
  simp [parent?_detach]

/-- **A node can be moved before any node whose parent is not below it.** -/
theorem Forest.insertBefore? {reference child : Nat} (hchild : child < doc.size)
    (hout : ∀ p, doc.parent? reference = some p → ¬ ReflTransGen doc.Child child p)
    (hafter : doc.insertBefore? reference child = some after) : after.Forest := by
  cases hparent : doc.parent? reference with
  | none => simp [Document.insertBefore?, hparent] at hafter
  | some p =>
      rw [insertBefore?_eq hparent] at hafter
      cases hafter
      have hp : p < doc.size := lt_of_mem_children ((h.linked.mirrored p reference).mpr hparent)
      refine (h.detach child).place (by simpa using hp) (by simpa using hchild) ?_
        (perm_insertIdx_idxOf _ _ _) (h.outside_detach (hout p hparent))
      simp [parent?_detach]

theorem Forest.replace? {old replacement : Nat} (hreplacement : replacement < doc.size)
    (hout : ∀ p, doc.parent? old = some p → ¬ ReflTransGen doc.Child replacement p)
    (hafter : doc.replace? old replacement = some after) : after.Forest := by
  obtain ⟨inserted, hinserted, rfl⟩ := Option.map_eq_some_iff.mp hafter
  exact (h.insertBefore? hreplacement hout hinserted).detach old

theorem Forest.clearChildren {id : Nat} (hid : id < doc.size) : (doc.clearChildren id).Forest := by
  refine h.mono (h.linked.clearChildren hid) fun p c hc => ?_
  rw [(h.linked.clearChildren_spec hid).2.2.1] at hc
  split at hc
  · cases hc
  · exact hc

/-! ## 3. New nodes -/

/-- **A new node can be put anywhere.** -/
theorem Forest.appendNew {parent : Nat} (hparent : parent < doc.size) (payload : Payload) :
    (doc.appendNew parent payload).Forest := by
  rw [appendNew_eq]
  refine (h.create payload).place (by simp; omega) (by simp) ?_
    (List.perm_append_singleton doc.size _) fun hwalk => ?_
  · rw [parent?_create, parent?_eq_none (Nat.le_refl _)]
  · rcases ReflTransGen.cases_head hwalk with heq | ⟨c, hchild, _⟩
    · exact absurd hparent (Nat.not_lt.mpr (Nat.le_of_eq heq))
    · rw [Child, children_create, children_eq_nil (Nat.le_refl _)] at hchild
      cases hchild

theorem Forest.setText (id : Nat) (content : String) : (doc.setText id content).Forest :=
  h.mono (h.linked.setText id content) fun p _ hc => children_setText doc id content p ▸ hc

theorem Forest.setTextContent {id : Nat} (hid : id < doc.size) (content : String) :
    (doc.setTextContent id content).Forest := by
  unfold Document.setTextContent
  split
  · exact h.setText id content
  · have hcleared := h.clearChildren hid
    dsimp only
    split
    · exact hcleared
    · refine hcleared.appendNew ?_ _
      rwa [(h.linked.clearChildren_spec hid).1]

end Moves

mutual

/-- Trees of new nodes can be put anywhere. -/
theorem Forest.appendTree {doc : Document} (h : doc.Forest) {parent : Nat}
    (hparent : parent < doc.size) : (tree : Tree) → (doc.appendTree parent tree).Forest
  | .doctype _ => h.appendNew hparent _
  | .comment _ => h.appendNew hparent _
  | .text _ => h.appendNew hparent _
  | .element tag attributes children => by
      rw [Document.appendTree]
      exact (h.appendNew hparent (.element tag attributes)).appendTrees (by simp) children
  | .fragment children => by
      rw [Document.appendTree]
      exact h.appendTrees hparent children

theorem Forest.appendTrees {doc : Document} (h : doc.Forest) {parent : Nat}
    (hparent : parent < doc.size) : (trees : List Tree) → (doc.appendTrees parent trees).Forest
  | [] => h
  | tree :: rest => by
      have hle := (grown_appendTree h.linked hparent tree).size_le
      rw [Document.appendTrees]
      exact (h.appendTree hparent tree).appendTrees (Nat.lt_of_lt_of_le hparent hle) rest

end

theorem Forest.setInnerHtml (h : doc.Forest) {id : Nat} (hid : id < doc.size) (markup : String) :
    (doc.setInnerHtml id markup).Forest := by
  refine (h.clearChildren hid).appendTrees ?_ _
  rwa [(h.linked.clearChildren_spec hid).1]

end Placeholders.Document
