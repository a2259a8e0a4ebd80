import Placeholders.Proofs.Document.Forest
import Placeholders.Proofs.Document.Regroup

/-!
# Moving a node among others

What becomes of the children of all nodes when a node is inserted before another one, or put in its place.

* A node is taken out before its new place is looked up. So `childrenBut` comes first, and what stands before
  and after the reference in there stays where it is.
* `sides_of_ne` is about a node that is not the reference. If it is, its own place is gone by the time it is
  looked up: inserted before itself a node comes last, and in its own place it is taken out
  (`sides_of_self`).
* `moves_keep_order` puts these together with what becomes of all other nodes.
-/

namespace Placeholders.Document

open Relation

variable {doc : Document}

/-! ## 1. Lists of children -/

/-- The children of a node without a certain one. -/
def childrenBut (doc : Document) (id c : Nat) : List Nat := (doc.children id).filter (· != c)

theorem filter_eq_self_of_not_mem {c : Nat} {cs : List Nat} (h : c ∉ cs) :
    cs.filter (· != c) = cs := by
  refine List.filter_eq_self.mpr fun x hx => ?_
  rw [bne_iff_ne]
  rintro rfl
  exact h hx

/-- The children of a node after another node has been inserted before one of them. -/
def childrenWith (doc : Document) (id reference c : Nat) : List Nat :=
  (doc.childrenBut id c).insertIdx ((doc.childrenBut id c).idxOf reference) c

section Sides

variable (hdoc : doc.Linked) {r c p : Nat} (hparent : doc.parent? r = some p)

include hdoc hparent

/-- **Another node comes to stand right before the reference, or in its place**, and all others keep their
    order. -/
theorem Linked.sides_of_ne (hne : c ≠ r) : ∃ front back, doc.childrenBut p c = front ++ r :: back ∧
    doc.childrenWith p r c = front ++ c :: r :: back ∧
    (doc.childrenWith p r c).filter (· != r) = front ++ c :: back := by
  have hmem : r ∈ doc.childrenBut p c :=
    List.mem_filter.mpr ⟨(hdoc.mirrored p r).mpr hparent, bne_iff_ne.mpr (Ne.symm hne)⟩
  have hnodup : (doc.childrenBut p c).Nodup := (hdoc.distinct p).filter _
  have hwith : doc.childrenWith p r c = (doc.childrenBut p c).flatMap (inPlaceOf r [c, r]) :=
    insertIdx_idxOf hmem hnodup c
  obtain ⟨front, back, hsides⟩ := List.append_of_mem hmem
  rw [hsides] at hnodup hwith
  obtain ⟨_, hback, hapart⟩ := List.nodup_append.mp hnodup
  have hfront : r ∉ front := fun hr => hapart r hr r List.mem_cons_self rfl
  have hback : r ∉ back := (List.nodup_cons.mp hback).1
  rw [List.flatMap_append, List.flatMap_cons, flatMap_inPlaceOf_of_not_mem hfront, inPlaceOf_self,
    flatMap_inPlaceOf_of_not_mem hback] at hwith
  refine ⟨front, back, hsides, hwith, ?_⟩
  rw [hwith, List.filter_append, filter_eq_self_of_not_mem hfront]
  simp [hne, filter_eq_self_of_not_mem hback]

end Sides

/-- **A node that is inserted before itself comes last, and one that is put in its own place is taken
    out.** -/
theorem sides_of_self (doc : Document) (p r : Nat) :
    doc.childrenWith p r r = doc.childrenBut p r ++ [r] ∧
      (doc.childrenWith p r r).filter (· != r) = doc.childrenBut p r := by
  have hgone : r ∉ doc.childrenBut p r := by simp [childrenBut]
  have hlast : doc.childrenWith p r r = doc.childrenBut p r ++ [r] := by
    rw [childrenWith, List.idxOf_of_notMem hgone, List.insertIdx_length_self]
  refine ⟨hlast, ?_⟩
  rw [hlast, List.filter_append, filter_eq_self_of_not_mem hgone]
  simp

/-! ## 2. The two moves -/

section Moves

variable (hdoc : doc.Linked) {r c p : Nat} (hparent : doc.parent? r = some p) (hc : c < doc.size)

include hdoc hparent hc

theorem Linked.insertBefore?_spec : ∃ after, doc.insertBefore? r c = some after ∧
    (∀ x, after.parent? x = if x = c then some p else doc.parent? x) ∧
    after.children p = doc.childrenWith p r c ∧
    ∀ q, q ≠ p → after.children q = doc.childrenBut q c := by
  have hp : p < (doc.detach c).size := by
    rw [size_detach]
    exact lt_of_mem_children ((hdoc.mirrored p r).mpr hparent)
  have hc' : c < (doc.detach c).size := by rwa [size_detach]
  refine ⟨_, insertBefore?_eq hparent, fun x => ?_, ?_, fun q hq => ?_⟩
  · rw [parent?_place hc', parent?_detach]
    by_cases hx : x = c <;> simp [hx]
  · rw [children_place hp, if_pos rfl, hdoc.children_detach]
    rfl
  · rw [children_place hp, if_neg hq, hdoc.children_detach]
    rfl

theorem Linked.replace?_spec : ∃ after, doc.replace? r c = some after ∧
    (∀ x, after.parent? x = if x = r then none else if x = c then some p else doc.parent? x) ∧
    after.children p = (doc.childrenWith p r c).filter (· != r) ∧
    ∀ q, q ≠ p → after.children q = doc.childrenBut q c := by
  obtain ⟨inserted, hinserted, hparents, hchildren, hothers⟩ := hdoc.insertBefore?_spec hparent hc
  have hlinked := hdoc.insertBefore? hc hinserted
  refine ⟨inserted.detach r, by rw [replace?, hinserted]; rfl, fun x => ?_, ?_, fun q hq => ?_⟩
  · rw [parent?_detach, hparents]
  · rw [hlinked.children_detach, hchildren]
  · rw [hlinked.children_detach, hothers q hq]
    -- the reference is a child of its parent only
    refine filter_eq_self_of_not_mem fun hmem => hq ?_
    exact hdoc.parent_unique (List.mem_filter.mp hmem).1 ((hdoc.mirrored p r).mpr hparent)

end Moves

/-- **Moving a node keeps the order of all other nodes.** A node that is not above the reference can be
    inserted before it and put in its place. It leaves its former parent, and all other children stay as they
    are; only before itself, or in its own place, a node does not stay where it is. -/
theorem moves_keep_order (h : doc.Forest) {r c p : Nat} (hparent : doc.parent? r = some p)
    (hc : c < doc.size) (hout : ¬ TransGen doc.Child c r) :
    ∃ inserted replaced, doc.insertBefore? r c = some inserted ∧ doc.replace? r c = some replaced ∧
      inserted.Forest ∧ replaced.Forest ∧
      (c ≠ r → ∃ front back, doc.childrenBut p c = front ++ r :: back ∧
        inserted.children p = front ++ c :: r :: back ∧ replaced.children p = front ++ c :: back) ∧
      (c = r → inserted.children p = doc.childrenBut p r ++ [r] ∧
        replaced.children p = doc.childrenBut p r) ∧
      (∀ q, q ≠ p → inserted.children q = doc.childrenBut q c ∧
        replaced.children q = doc.childrenBut q c) ∧
      (∀ x, inserted.parent? x = if x = c then some p else doc.parent? x) ∧
      ∀ x, replaced.parent? x = if x = r then none else if x = c then some p else doc.parent? x := by
  obtain ⟨inserted, hinserted, hparents, hchildren, hothers⟩ :=
    h.linked.insertBefore?_spec hparent hc
  obtain ⟨replaced, hreplaced, hparents', hchildren', hothers'⟩ :=
    h.linked.replace?_spec hparent hc
  have hchild : doc.Child p r := (h.linked.mirrored p r).mpr hparent
  have hout' : ∀ q, doc.parent? r = some q → ¬ ReflTransGen doc.Child c q := by
    intro q hq hwalk
    obtain rfl := Option.some.inj (hparent.symm.trans hq)
    exact hout (TransGen.tail' hwalk hchild)
  refine ⟨inserted, replaced, hinserted, hreplaced, h.insertBefore? hc hout' hinserted,
    h.replace? hc hout' hreplaced, fun hne => ?_, ?_, fun q hq => ⟨hothers q hq, hothers' q hq⟩,
    hparents, hparents'⟩
  · rw [hchildren, hchildren']
    exact h.linked.sides_of_ne hparent hne
  · rintro rfl
    rw [hchildren, hchildren']
    exact doc.sides_of_self p c

/-- A paragraph with a text, an element and a text. -/
def mixedParagraph : Document := parse "<p>a<b>c</b>d</p>"

/-- The last one of three children moves to the first one. -/
theorem moves_keep_order_of_mixedParagraph :
    ∃ inserted replaced, mixedParagraph.insertBefore? 2 5 = some inserted ∧
      mixedParagraph.replace? 2 5 = some replaced ∧ inserted.Forest ∧
      inserted.children 1 = [5, 2, 3] ∧ replaced.children 1 = [5, 3] ∧
      replaced.parent? 2 = none ∧ replaced.children 3 = [4] := by
  have hdoc : mixedParagraph.Forest := forest_parse _
  have hparent : mixedParagraph.parent? 2 = some 1 := by decide +kernel
  have hsize : mixedParagraph.size = 6 := by decide +kernel
  have hbut : mixedParagraph.childrenBut 1 5 = [2, 3] ∧ mixedParagraph.childrenBut 3 5 = [4] := by
    decide +kernel
  have hout : ¬ TransGen mixedParagraph.Child 5 2 := fun hwalk => by
    have hlt := ((ordered_parse _).orderedFrom 0).lt_of_walk (Nat.zero_le 5) hwalk
    omega
  obtain ⟨inserted, replaced, hinserted, hreplaced, hforest, _, hsides, _, hothers, _, hparents⟩ :=
    moves_keep_order hdoc hparent (by omega) hout
  obtain ⟨front, back, hfront, hchildren, hchildren'⟩ := hsides (by decide)
  obtain ⟨rfl, rfl⟩ : front = [] ∧ back = [3] := by
    rw [hbut.1] at hfront
    rcases front with _ | ⟨x, _ | ⟨y, front⟩⟩ <;> simp_all
  exact ⟨inserted, replaced, hinserted, hreplaced, hforest, hchildren, hchildren',
    by simpa using hparents 2, (hothers 3 (by decide)).2.trans hbut.2⟩

/-- **Moving a node to itself does not leave the children as they are.** -/
theorem moved_to_itself :
    ¬ ∀ (doc inserted replaced : Document) (r p : Nat), doc.Forest → doc.parent? r = some p →
      doc.insertBefore? r r = some inserted → doc.replace? r r = some replaced →
      inserted.children p = doc.children p ∧ replaced.children p = doc.children p := by
  intro hclaim
  have hinserted : (mixedParagraph.insertBefore? 3 3).map (·.children 1) = some [2, 5, 3] := by
    decide +kernel
  have hreplaced : (mixedParagraph.replace? 3 3).map (·.children 1) = some [2, 5] := by decide +kernel
  obtain ⟨inserted, hinserted, hchildren⟩ := Option.map_eq_some_iff.mp hinserted
  obtain ⟨replaced, hreplaced, hchildren'⟩ := Option.map_eq_some_iff.mp hreplaced
  have hparent : mixedParagraph.parent? 3 = some 1 := by decide +kernel
  have hbefore : mixedParagraph.children 1 = [2, 3, 5] := by decide +kernel
  have hkept := hclaim mixedParagraph inserted replaced 3 1 (forest_parse _) hparent hinserted hreplaced
  rw [hchildren, hchildren', hbefore] at hkept
  exact absurd hkept (by decide)

end Placeholders.Document
