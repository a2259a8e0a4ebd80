import Placeholders.Proofs.Expansion.Pass

/-!
# Rendered pages

What a page looks like between two passes, compared with what it looked like before the first one.

* A page is `Rendered` from another with certain values if the texts of that have given their places to
  the nodes of their parts, and these show the values. A pass leaves a page rendered (`Pass.rendered`).
* How the nodes of the parts are numbered is left open. It does not matter: pages that are rendered from
  the same page, with the same values, have the same markup (`Rendered.innerHtml_eq`).
-/

namespace Placeholders

open Placeholders.Markup Placeholders.Text Relation

/-- The markup of the node of a part. -/
def Part.tree : Part → Tree
  | .plain text => .text (String.ofList text)
  | .value text => .text text
  | .binding t editor =>
    .element "span" (Document.bindingAttributes t.name editor)
      (if t.value = "" then [] else [.text t.value])

namespace Document

variable {base first doc after : Document} {lexicon : Lexicon Target} {root : Nat}
  {group : Nat → List Nat}

/-! ## 1. The markup of parts -/

theorem within_of_leaf {id : Nat} (h : doc.children id = []) : doc.Within 1 id :=
  .intro fun c hc => by
    rw [h] at hc
    cases hc

theorem HoldsText.within {id : Nat} {text : String} (h : doc.HoldsText id text) : doc.Within 2 id :=
  .intro fun _ hc => within_of_leaf (h.child hc).2

theorem Shows.within {id : Nat} {part : Part} (h : doc.Shows id part) : doc.Within 2 id := by
  cases part with
  | plain text => exact (within_of_leaf h.2).mono (by omega)
  | value text => exact (within_of_leaf h.2.1).mono (by omega)
  | binding t editor => exact h.2.within

theorem HoldsText.map_tree (hdoc : doc.Linked) {id : Nat} {text : String} (h : doc.HoldsText id text) :
    (doc.children id).map doc.tree = if text = "" then [] else [.text text] := by
  unfold HoldsText at h
  split at h
  · rename_i hempty
    rw [h, if_pos hempty]
    rfl
  · rename_i hne
    obtain ⟨k, hk, htext, hleaf⟩ := h
    have htree : doc.tree k = .text text := by
      rw [hdoc.tree_eq (within_of_leaf hleaf), htext]
      rfl
    rw [hk, if_neg hne, List.map_singleton, htree]

/-- **The node of a part has the markup of the part.** -/
theorem Shows.tree_eq (hdoc : doc.Linked) {id : Nat} {part : Part} (h : doc.Shows id part) :
    doc.tree id = part.tree := by
  rw [hdoc.tree_eq h.within]
  cases part with
  | plain text => simp only [h.1, treeOver, Part.tree]
  | value text => simp only [h.1, treeOver, Part.tree]
  | binding t editor => simp only [h.1, h.2.map_tree hdoc, treeOver, Part.tree]

theorem map_tree_of_shows (hdoc : doc.Linked) {news : List Nat} {parts : List Part}
    (h : List.Forall₂ doc.Shows news parts) : news.map doc.tree = parts.map Part.tree := by
  induction h with
  | nil => rfl
  | cons hshows _ ih => rw [List.map_cons, List.map_cons, hshows.tree_eq hdoc, ih]

/-! ## 2. Rendered pages -/

/-- The texts of a page have given their places to the nodes of their parts; the nodes that were there
    before have the payloads that they had after the first pass. -/
structure Rendered (base first doc : Document) (lexicon : Lexicon Target) (root : Nat)
    (group : Nat → List Nat) : Prop where
  linked : doc.Linked
  size_le : base.size ≤ doc.size
  payload : ∀ x < base.size, doc.payload? x = first.payload? x
  children : ∀ x < base.size, doc.children x = (base.children x).flatMap group
  others : ∀ c, c ∉ base.unboundTexts root → group c = [c]
  replaces : ∀ c ∈ base.unboundTexts root, base.Replaces doc lexicon c (group c)

theorem HoldsText.attributed {id : Nat} {text : String} (h : doc.HoldsText id text)
    (hafter : doc.Attributed after) : after.HoldsText id text := by
  unfold HoldsText at h ⊢
  split
  · rename_i hempty
    rw [if_pos hempty] at h
    rw [hafter.children, h]
  · rename_i hne
    rw [if_neg hne] at h
    obtain ⟨k, hk, htext, hleaf⟩ := h
    obtain ⟨f, hf⟩ := hafter.payload k
    refine ⟨k, (hafter.children id).trans hk, ?_, (hafter.children k).trans hleaf⟩
    rw [hf, htext]
    rfl

/-- Attribute values are not written into the nodes of parts. -/
theorem Pass.shows {middle : Document} (h : base.Pass middle after lexicon root group)
    (hbase : base.Linked) {id : Nat} (hid : base.size ≤ id) {part : Part}
    (hshows : middle.Shows id part) : after.Shows id part := by
  obtain ⟨f, hf⟩ := h.attributed.payload id
  cases part with
  | plain text =>
      refine ⟨?_, (h.attributed.children id).trans hshows.2⟩
      rw [hf, hshows.1]
      rfl
  | value text =>
      refine ⟨?_, (h.attributed.children id).trans hshows.2.1, ?_⟩
      · rw [hf, hshows.1]
        rfl
      · rw [h.attributed.isSealedText]
        exact hshows.2.2
  | binding t editor =>
      refine ⟨?_, hshows.2.attributed h.attributed⟩
      have hnot : id ∉ base.unbound root := fun hmem =>
        absurd (mem_unbound_lt hbase hmem) (Nat.not_lt.mpr hid)
      have hattributes := h.bound id hnot
      simp only [attributes, hf, hshows.1, Option.map_some, Payload.mapAttributes] at hattributes
      rw [hf, hshows.1, Option.map_some, Payload.mapAttributes, hattributes]

/-- **After a pass a page is rendered.** -/
theorem Pass.rendered {middle : Document} (h : base.Pass middle after lexicon root group)
    (hbase : base.Linked) : Rendered base after after lexicon root group where
  linked := h.attributed.linked h.linked
  size_le := by
    rw [h.attributed.size_eq]
    exact h.regrouped.size_le
  payload _ _ := rfl
  children x hx := by rw [h.attributed.children, h.regrouped.children x hx]
  others := h.others
  replaces c hc := by
    have hreplaces := h.replaces c hc
    refine ⟨hreplaces.untouched, fun hne => ?_, hreplaces.fresh⟩
    refine ((List.forall₂_and_left (group c) _).mpr ⟨hreplaces.fresh hne, hreplaces.shows hne⟩).imp ?_
    rintro n part ⟨hn, hshows⟩
    exact h.shows hbase hn hshows

/-! ## 3. Their markup -/

namespace Rendered

/-- What stands in the place of a node is the node itself, or the node of a part. -/
theorem mem_group (h : Rendered base first doc lexicon root group) {c id : Nat} (hid : id ∈ group c) :
    id = c ∨ (c ∈ base.unboundTexts root ∧ base.size ≤ id ∧
      ∃ part ∈ base.partsAt lexicon c, doc.Shows id part) := by
  by_cases htext : c ∈ base.unboundTexts root
  · rcases (h.replaces c htext).mem_cases hid with ⟨heq, _⟩ | ⟨hnew, hpart⟩
    · exact .inl heq
    · exact .inr ⟨htext, hnew, hpart⟩
  · rw [h.others c htext, List.mem_singleton] at hid
    exact .inl hid

/-- Rendering does not make a page much deeper. -/
theorem within (h : Rendered base first doc lexicon root group) (hbase : base.Linked) {k x : Nat}
    (hx : base.Within k x) (hlt : x < base.size) : doc.Within (k + 2) x := by
  induction hx with
  | @intro k x _ ih =>
      refine .intro fun id hid => ?_
      rw [h.children x hlt] at hid
      obtain ⟨c, hc, hid⟩ := List.mem_flatMap.mp hid
      rcases h.mem_group hid with rfl | ⟨_, _, part, _, hshows⟩
      · exact ih id hc (hbase.child_lt hc)
      · exact hshows.within.mono (by omega)

variable {doc' : Document} {group' : Nat → List Nat}

/-- What stands in the place of a child has the same markup in both pages. -/
theorem map_tree_group (h : Rendered base first doc lexicon root group)
    (h' : Rendered base first doc' lexicon root group') {c : Nat} (hc : doc.tree c = doc'.tree c) :
    (group c).map doc.tree = (group' c).map doc'.tree := by
  by_cases htext : c ∈ base.unboundTexts root
  · by_cases hnone : base.replacedAt lexicon c = []
    · rw [(h.replaces c htext).untouched hnone, (h'.replaces c htext).untouched hnone,
        List.map_singleton, List.map_singleton, hc]
    · rw [map_tree_of_shows h.linked ((h.replaces c htext).shows hnone),
        map_tree_of_shows h'.linked ((h'.replaces c htext).shows hnone)]
  · rw [h.others c htext, h'.others c htext, List.map_singleton, List.map_singleton, hc]

/-- **Two pages that are rendered from the same one with the same values have the same markup**, node
    by node. By induction on the depth of the page that they are rendered from. -/
theorem tree_eq (h : Rendered base first doc lexicon root group)
    (h' : Rendered base first doc' lexicon root group') (hbase : base.Linked) {k x : Nat}
    (hx : base.Within k x) (hlt : x < base.size) :
    (doc.children x).map doc.tree = (doc'.children x).map doc'.tree ∧ doc.tree x = doc'.tree x := by
  have hdeep := h.within hbase hx hlt
  have hdeep' := h'.within hbase hx hlt
  induction hx with
  | @intro k x hchildren ih =>
      have hmap : (doc.children x).map doc.tree = (doc'.children x).map doc'.tree := by
        rw [h.children x hlt, h'.children x hlt, List.map_flatMap, List.map_flatMap]
        refine List.flatMap_congr fun c hc => h.map_tree_group h' ?_
        have hclt := hbase.child_lt hc
        exact (ih c hc hclt (h.within hbase (hchildren c hc) hclt)
          (h'.within hbase (hchildren c hc) hclt)).2
      refine ⟨hmap, ?_⟩
      rw [h.linked.tree_eq hdeep, h'.linked.tree_eq hdeep', h.payload x hlt, h'.payload x hlt, hmap]

theorem innerHtml_eq (h : Rendered base first doc lexicon root group)
    (h' : Rendered base first doc' lexicon root group') (hbase : base.Linked) {x : Nat}
    (hx : base.Grounded x) (hlt : x < base.size) : doc.innerHtml x = doc'.innerHtml x := by
  have hmap := (h.tree_eq h' hbase (hbase.within_size hx hlt) hlt).1
  simp only [innerHtml, tag?, h.payload x hlt, h'.payload x hlt, hmap]

end Rendered

/-! ## 4. Other values -/

/-- Tokens that are looked for in attribute values cannot be brought up to date in place. -/
theorem needsReload_of_isMarkup {t : Target} (h : t.isMarkup = true) :
    t.tokenClass.needsReload = true := by
  unfold Target.isMarkup Target.strategy at h
  cases hclass : t.tokenClass <;> rw [hclass] at h <;> first | rfl | cases h

/-- **A pass with other values renders the page that the first one would have rendered with these**, as
    long as the values have changed only where they can be brought up to date in place. -/
theorem rendered_valuedBy (hbase : base.Linked) (hroot : base.Grounded root)
    (hlexicon : Searchable lexicon) {r : Registry}
    (hvalues : ∀ t ∈ (base.expandBelow lexicon root).2, t.tokenClass.needsReload = true →
      (t.valuedBy r).value = t.value) :
    ∃ group, Rendered base (base.expandBelow lexicon root).1
      (base.expandBelow (lexicon.mapTargets (Target.valuedBy r)) root).1
      (lexicon.mapTargets (Target.valuedBy r)) root group := by
  obtain ⟨_, hfirst⟩ := exists_pass hbase hroot lexicon
  obtain ⟨group, hpass⟩ := exists_pass hbase hroot (lexicon.mapTargets (Target.valuedBy r))
  refine ⟨group, { hpass.rendered hbase with payload := ?_ }⟩
  rw [expandBelow_eq] at hvalues ⊢
  rw [expandBelow_eq, Lexicon.markup_valuedBy]
  dsimp only at hvalues ⊢
  rw [unboundValues_eq hbase hfirst.regrouped] at hvalues ⊢
  rw [unboundValues_eq hbase hpass.regrouped]
  refine (AlikeBelow.expandAttributes ⟨fun x hx => ?_, ?_⟩ fun t ht => ?_).payload
  · rw [hpass.regrouped.payload x hx, hfirst.regrouped.payload x hx]
  · rw [hpass.regrouped.sealedAttributes, hfirst.regrouped.sealedAttributes]
  · obtain ⟨literal, hmem⟩ := mem_of_mem_expandAttributes hlexicon.proper.markup ht
    exact hvalues t (List.mem_append_right _ ht)
      (needsReload_of_isMarkup (List.mem_filter.mp hmem).2)

end Document

end Placeholders
