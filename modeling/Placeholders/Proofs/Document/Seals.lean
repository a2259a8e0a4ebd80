import Placeholders.Proofs.Document.Growth
import Placeholders.Proofs.Document.Regroup
import Placeholders.Proofs.Document.Retold

/-!
# Seals on texts

Only expanding seals texts.

* Every other change of a document keeps the seals and loses no node: `SameSeals`.
* A document in which only nodes are sealed stays one (`SealedWithin.of_sameSeals`). A new node then has
  a number that has never been sealed.
-/

namespace Placeholders.Document

open Placeholders.Markup

variable {doc middle after : Document}

/-- The same texts are sealed, and no node is lost. -/
structure SameSeals (doc after : Document) : Prop where
  sealedTexts : after.sealedTexts = doc.sealedTexts
  size_le : doc.size ≤ after.size

/-- Only nodes are sealed. -/
def SealedWithin (doc : Document) : Prop := ∀ x, doc.isSealedText x = true → x < doc.size

theorem SealedWithin.of_sameSeals (h : doc.SealedWithin) (hsame : doc.SameSeals after) :
    after.SealedWithin := by
  intro x hx
  rw [isSealedText, hsame.sealedTexts] at hx
  exact Nat.lt_of_lt_of_le (h x hx) hsame.size_le

theorem sealedWithin_empty : empty.SealedWithin := by
  intro x hx
  simp [isSealedText, empty] at hx

namespace SameSeals

theorem refl (doc : Document) : doc.SameSeals doc := ⟨rfl, Nat.le_refl _⟩

theorem trans (h : doc.SameSeals middle) (h' : middle.SameSeals after) : doc.SameSeals after :=
  ⟨h'.sealedTexts.trans h.sealedTexts, Nat.le_trans h.size_le h'.size_le⟩

end SameSeals

/-! ## 1. Nodes and places -/

theorem sameSeals_create (doc : Document) (payload : Payload) : doc.SameSeals (doc.create payload).1 :=
  ⟨rfl, by simp⟩

theorem sameSeals_modify (doc : Document) (id : Nat) (f : Node → Node) :
    doc.SameSeals (doc.modify id f) :=
  ⟨rfl, Nat.le_of_eq (size_modify doc id f).symm⟩

theorem sameSeals_detach (doc : Document) (id : Nat) : doc.SameSeals (doc.detach id) :=
  ⟨sealedTexts_detach doc id, by simp⟩

theorem sameSeals_append (doc : Document) (parent child : Nat) :
    doc.SameSeals (doc.append parent child) :=
  ((sameSeals_detach doc child).trans (sameSeals_modify _ _ _)).trans (sameSeals_modify _ _ _)

theorem sameSeals_insertBefore? {reference child : Nat}
    (h : doc.insertBefore? reference child = some after) : doc.SameSeals after := by
  obtain ⟨p, _, rfl⟩ := Option.map_eq_some_iff.mp h
  exact ((sameSeals_detach doc child).trans (sameSeals_modify _ _ _)).trans (sameSeals_modify _ _ _)

theorem sameSeals_clearChildren (doc : Document) (id : Nat) : doc.SameSeals (doc.clearChildren id) := by
  have hfold : ∀ (cs : List Nat) (start : Document), start.SameSeals
      (cs.foldl (fun doc child => doc.modify child fun node => { node with parent := none }) start) := by
    intro cs
    induction cs with
    | nil => exact SameSeals.refl
    | cons c cs ih => exact fun start => (sameSeals_modify start c _).trans (ih _)
  exact (sameSeals_modify doc id _).trans (hfold _ _)

/-! ## 2. Contents -/

theorem sameSeals_appendNew (doc : Document) (parent : Nat) (payload : Payload) :
    doc.SameSeals (doc.appendNew parent payload) :=
  (sameSeals_create doc payload).trans (sameSeals_append _ _ _)

theorem sameSeals_setTextContent (doc : Document) (id : Nat) (content : String) :
    doc.SameSeals (doc.setTextContent id content) := by
  unfold setTextContent
  split
  · exact sameSeals_modify doc id _
  · dsimp only
    split
    · exact sameSeals_clearChildren doc id
    · exact (sameSeals_clearChildren doc id).trans (sameSeals_appendNew _ _ _)

mutual

theorem sameSeals_appendTree (doc : Document) (parent : Nat) :
    (tree : Tree) → doc.SameSeals (doc.appendTree parent tree)
  | .doctype _ => sameSeals_appendNew doc parent _
  | .comment _ => sameSeals_appendNew doc parent _
  | .text _ => sameSeals_appendNew doc parent _
  | .element _ _ children => by
      rw [appendTree]
      exact (sameSeals_appendNew doc parent _).trans (sameSeals_appendTrees _ _ children)
  | .fragment children => by
      rw [appendTree]
      exact sameSeals_appendTrees doc parent children

theorem sameSeals_appendTrees (doc : Document) (parent : Nat) :
    (trees : List Tree) → doc.SameSeals (doc.appendTrees parent trees)
  | [] => .refl doc
  | tree :: rest => by
      rw [appendTrees]
      exact (sameSeals_appendTree doc parent tree).trans (sameSeals_appendTrees _ parent rest)

end

theorem sameSeals_parse (markup : String) : empty.SameSeals (parse markup) :=
  sameSeals_appendTrees empty root _

theorem sameSeals_setInnerHtml (doc : Document) (id : Nat) (markup : String) :
    doc.SameSeals (doc.setInnerHtml id markup) :=
  (sameSeals_clearChildren doc id).trans (sameSeals_appendTrees _ id _)

end Placeholders.Document
