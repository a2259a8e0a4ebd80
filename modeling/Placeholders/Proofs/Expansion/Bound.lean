import Placeholders.Proofs.Expansion.Rendered

/-!
# The bindings of a rendered page

* `Bindings.scan` finds the bindings below a node, each under its name (`mem_elements_scan`).
* On a page that is rendered from one without bindings these are the nodes of parts that are bindings,
  and no others (`Rendered.mem_elements_scan`).
-/

namespace Placeholders

open Placeholders.Markup Placeholders.Text Relation

theorem Markup.Attributes.get?_ne_none_of_mem {attributes : Attributes} {name value : String}
    (h : (name, value) ∈ attributes) : attributes.get? name ≠ none := by
  induction attributes with
  | nil => cases h
  | cons entry rest ih =>
      rw [get?]
      split
      · exact Option.some_ne_none _
      · rename_i hne
        refine ih ((List.mem_cons.mp h).resolve_left ?_)
        rintro rfl
        exact hne rfl

/-! ## 1. Finding bindings -/

namespace Bindings

theorem elements_add (b : Bindings) (name other : String) (id : Nat) :
    (b.add name id).elements other =
      if name = other then b.elements name ++ [id] else b.elements other := by
  unfold add elements Keyed.update
  rw [Keyed.get?_insert]
  split <;> rfl

theorem mem_elements_addNode {doc : Document} {b : Bindings} {id x : Nat} {name : String} :
    x ∈ (addNode doc b id).elements name ↔ x ∈ b.elements name ∨
      (x = id ∧ doc.isBinding id = true ∧ doc.attribute? id Binding.nameAttribute = some name) := by
  unfold addNode
  split
  · rename_i own hown
    split
    · rename_i hbinding
      rw [elements_add, hown]
      by_cases hname : own = name
      · simp [hname, hbinding]
      · simp [hname]
    · rename_i hbinding
      simp [hbinding]
  · rename_i hnone
    simp [hnone]

theorem mem_elements_foldl {doc : Document} {b : Bindings} {ids : List Nat} {x : Nat} {name : String} :
    x ∈ (ids.foldl (addNode doc) b).elements name ↔ x ∈ b.elements name ∨
      (x ∈ ids ∧ doc.isBinding x = true ∧ doc.attribute? x Binding.nameAttribute = some name) := by
  induction ids generalizing b with
  | nil => simp
  | cons id ids ih =>
      rw [List.foldl_cons, ih, mem_elements_addNode, or_assoc]
      refine or_congr_right ⟨?_, ?_⟩
      · rintro (⟨rfl, h⟩ | ⟨hx, h⟩)
        · exact ⟨List.mem_cons_self, h⟩
        · exact ⟨List.mem_cons_of_mem id hx, h⟩
      · rintro ⟨hx, h⟩
        rcases List.mem_cons.mp hx with rfl | hx
        · exact .inl ⟨rfl, h⟩
        · exact .inr ⟨hx, h⟩

/-- **The bindings of a name are those below the node that have the name.** -/
theorem mem_elements_scan {doc : Document} {root x : Nat} {name : String} :
    x ∈ (scan doc root).elements name ↔ x ∈ doc.descendants root ∧ doc.isBinding x = true ∧
      doc.attribute? x Binding.nameAttribute = some name := by
  rw [scan, mem_elements_foldl]
  exact or_iff_right (List.not_mem_nil)

/-- A table with no empty entries has none when a binding has been added. -/
theorem elements_add_ne_nil {b : Bindings} (h : ∀ name, b.contains name = true → b.elements name ≠ [])
    (own : String) (id : Nat) {name : String} (hname : (b.add own id).contains name = true) :
    (b.add own id).elements name ≠ [] := by
  rw [elements_add]
  split
  · simp
  · rename_i hne
    refine h name ?_
    unfold add contains Keyed.update Keyed.contains at hname
    rw [Keyed.get?_insert, if_neg hne] at hname
    exact hname

theorem elements_foldl_ne_nil {doc : Document} {ids : List Nat} {b : Bindings}
    (hb : ∀ name, b.contains name = true → b.elements name ≠ []) :
    ∀ name, (ids.foldl (addNode doc) b).contains name = true →
      (ids.foldl (addNode doc) b).elements name ≠ [] := by
  induction ids generalizing b with
  | nil => exact hb
  | cons id ids ih =>
      refine ih (b := addNode doc b id) ?_
      unfold addNode
      split
      · split
        · exact fun name hname => elements_add_ne_nil hb _ id hname
        · exact hb
      · exact hb

/-- **Each name of a table that has been found has a binding.** -/
theorem exists_mem_elements_scan {doc : Document} {root : Nat} {name : String}
    (h : (scan doc root).contains name = true) : ∃ id, id ∈ (scan doc root).elements name :=
  List.exists_mem_of_ne_nil _ (elements_foldl_ne_nil (b := empty) (fun _ hname => by cases hname) name h)

end Bindings

/-! ## 2. Bindings of rendered pages -/

namespace Document

variable {base first doc : Document} {lexicon : Lexicon Target} {root : Nat} {group : Nat → List Nat}

/-- An attribute that no element has is not set by a pass. -/
theorem attribute?_expandBelow (hbase : base.Linked) (hroot : base.Grounded root) {name : String}
    (hnone : ∀ x, base.attribute? x name = none) {x : Nat} (hx : x < base.size) :
    (base.expandBelow lexicon root).1.attribute? x name = none := by
  obtain ⟨group, hpass⟩ := exists_pass hbase hroot lexicon
  have hother : ∀ entry ∈ base.unboundValues (base.expandTexts lexicon (base.unboundTexts root)).1 root,
      entry.2.1 ≠ name := by
    rintro ⟨id, other, value⟩ hentry rfl
    rw [unboundValues_eq hbase hpass.regrouped] at hentry
    exact Attributes.get?_ne_none_of_mem (mem_unboundValues.mp hentry).2 (hnone id)
  rw [expandBelow_eq]
  dsimp only
  rw [attribute?_expandAttributes _ hother, attribute?, hpass.regrouped.attributes hx]
  exact hnone x

/-- The node of a part that is a binding of a name. -/
def IsSpan (doc : Document) (name : String) (id : Nat) : Prop :=
  ∃ editor, doc.payload? id = some (.element "span" (bindingAttributes name editor))

theorem IsSpan.text? {name : String} {id : Nat} (h : doc.IsSpan name id) : doc.text? id = none := by
  obtain ⟨editor, h⟩ := h
  simp [Document.text?, h]

theorem IsSpan.attribute? {name : String} {id : Nat} (h : doc.IsSpan name id) :
    doc.attribute? id Binding.nameAttribute = some name := by
  obtain ⟨editor, h⟩ := h
  simp only [Document.attribute?, attributes, h, get?_bindingAttributes]

theorem IsSpan.isBinding {name : String} {id : Nat} (h : doc.IsSpan name id) :
    doc.isBinding id = true :=
  h.elim fun _ h => isBinding_of_payload? h

/-- A new node that stands in the place of a text and is a binding of a name. -/
def HasSpan (base doc : Document) (root : Nat) (group : Nat → List Nat) (name : String) (id : Nat) :
    Prop :=
  ∃ c ∈ base.unboundTexts root, base.size ≤ id ∧ id ∈ group c ∧ doc.IsSpan name id

namespace Rendered

/-- What a walk down from an old node of a rendered page meets: old nodes, nodes of parts, and the texts
    of bindings. -/
theorem walk_cases (h : Rendered base first doc lexicon root group) (hbase : base.Linked) {start id : Nat}
    (hstart : start < base.size) (hwalk : ReflTransGen doc.Child start id) :
    id < base.size ∨
      (∃ c ∈ base.unboundTexts root, base.size ≤ id ∧ id ∈ group c ∧
        ∃ part ∈ base.partsAt lexicon c, doc.Shows id part) ∨
      ((doc.text? id).isSome = true ∧ doc.children id = []) := by
  induction hwalk with
  | refl => exact .inl hstart
  | @tail p id _ hchild ih =>
      rcases ih with hp | ⟨_, _, _, _, part, _, hshows⟩ | ⟨_, hleaf⟩
      · have hid : id ∈ (base.children p).flatMap group := h.children p hp ▸ hchild
        obtain ⟨c, hc, hid⟩ := List.mem_flatMap.mp hid
        rcases h.mem_group hid with rfl | ⟨htext, hnew, hpart⟩
        · exact .inl (hbase.child_lt hc)
        · exact .inr (.inl ⟨c, htext, hnew, hid, hpart⟩)
      · cases part with
        | plain text => exact absurd hchild (by simp [Child, hshows.2])
        | value text => exact absurd hchild (by simp [Child, hshows.2.1])
        | binding t editor =>
            obtain ⟨htext, hleaf⟩ := hshows.2.child hchild
            exact .inr (.inr ⟨by simp [text?, htext], hleaf⟩)
      · exact absurd hchild (by simp [Child, hleaf])

/-- **A binding that a walk down from an old node meets is the node of a part**, if there have been no
    bindings before. -/
theorem exists_binding (h : Rendered base first doc lexicon root group) (hbase : base.Linked)
    (hplain : ∀ x < base.size, first.attribute? x Binding.nameAttribute = none) {start id : Nat}
    (hstart : start < base.size) (hwalk : ReflTransGen doc.Child start id)
    (hbinding : doc.isBinding id = true) :
    ∃ c ∈ base.unboundTexts root, base.size ≤ id ∧ id ∈ group c ∧
      ∃ t editor, .binding t editor ∈ base.partsAt lexicon c ∧ doc.Shows id (.binding t editor) := by
  have hnotext := text?_eq_none_of_isBinding hbinding
  rcases h.walk_cases hbase hstart hwalk with hold | ⟨c, hc, hnew, hid, part, hpart, hshows⟩ | ⟨htext, _⟩
  · have hnone := hplain id hold
    simp only [attribute?, attributes, ← h.payload id hold] at hnone
    simp [isBinding, attribute?, attributes, hnone] at hbinding
  · refine ⟨c, hc, hnew, hid, ?_⟩
    cases part with
    | plain text => simp [text?, hshows.1] at hnotext
    | value text => simp [text?, hshows.1] at hnotext
    | binding t editor => exact ⟨t, editor, hpart, hshows⟩
  · rw [hnotext] at htext
    cases htext

/-- A walk that a pass takes is still there after the pass. -/
theorem walk_of_opens (h : Rendered base first doc lexicon root group) (hbase : base.Linked)
    (hroot : root < base.size) {p : Nat} (hwalk : ReflTransGen base.Opens root p) :
    ReflTransGen doc.Child root p ∧ p < base.size := by
  induction hwalk with
  | refl => exact ⟨.refl, hroot⟩
  | @tail p q _ hopens ih =>
      have halone : group q = [q] := h.others q fun hmem => by
        have htext := (List.mem_filter.mp hmem).2
        rw [hopens.2.1] at htext
        cases htext
      refine ⟨ih.1.tail ?_, hbase.child_lt hopens.1⟩
      rw [Child, h.children p ih.2]
      exact List.mem_flatMap.mpr ⟨q, hopens.1, halone ▸ List.mem_singleton_self q⟩

/-- **The bindings of a rendered page are the nodes of parts that are bindings**, if there have been no
    others before. -/
theorem mem_elements_scan (h : Rendered base first doc lexicon root group) (hbase : base.Linked)
    (hgrounded : base.Grounded root) (hroot : root < base.size)
    (hplain : ∀ x < base.size, first.attribute? x Binding.nameAttribute = none) {name : String}
    {id : Nat} : id ∈ (Bindings.scan doc root).elements name ↔ HasSpan base doc root group name id := by
  have hwithin := h.linked.within_size
    (h.within hbase (hbase.within_size hgrounded hroot) hroot).grounded
    (Nat.lt_of_lt_of_le hroot h.size_le)
  rw [Bindings.mem_elements_scan, descendants, hwithin.mem_descendantsTo]
  constructor
  · rintro ⟨hwalk, hbinding, hname⟩
    obtain ⟨c, hc, hnew, hid, t, editor, _, hshows⟩ :=
      h.exists_binding hbase hplain hroot hwalk.to_reflTransGen hbinding
    have hspan : doc.IsSpan t.name id := ⟨editor, hshows.1⟩
    rw [hspan.attribute?] at hname
    exact ⟨c, hc, hnew, hid, Option.some.inj hname ▸ hspan⟩
  · rintro ⟨c, hc, hnew, hid, hspan⟩
    refine ⟨?_, hspan.isBinding, hspan.attribute?⟩
    obtain ⟨p, hwalk, hchild⟩ := (exposed_of_mem_unboundTo (List.mem_filter.mp hc).1).1
    obtain ⟨hwalk', hp⟩ := h.walk_of_opens hbase hroot hwalk
    refine TransGen.tail' hwalk' ?_
    rw [Child, h.children p hp]
    exact List.mem_flatMap.mpr ⟨c, hchild, hid⟩

end Rendered

end Document

end Placeholders
