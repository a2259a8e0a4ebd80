import Placeholders.Proofs.Expansion.Made
import Placeholders.Proofs.Expansion.Unbound

/-!
# One pass

What an expansion does below a node, all of it together.

* Texts give their places to their parts first, and then attribute values are written: `Pass`.
* A node that is there after the pass has been there before, or it is the node of a part
  (`Pass.mem_group`).
* New bindings are bindings, and bindings stay bindings.
-/

namespace Placeholders

open Placeholders.Markup Placeholders.Text Relation

/-- The tokens that are looked for in attribute values. -/
def Text.Lexicon.markup (lexicon : Lexicon Target) : Lexicon Target :=
  lexicon.filter fun entry => entry.2.isMarkup

/-- Which tokens these are does not depend on what they stand for. -/
theorem Text.Lexicon.markup_valuedBy (r : Registry) (lexicon : Lexicon Target) :
    Lexicon.markup (lexicon.mapTargets (Target.valuedBy r)) =
      (Lexicon.markup lexicon).mapTargets (Target.valuedBy r) := by
  simp [markup, mapTargets, List.filter_map, Function.comp_def]

theorem Text.Lexicon.Proper.markup {lexicon : Lexicon Target} (h : lexicon.Proper) :
    (Lexicon.markup lexicon).Proper :=
  fun e he => h e (List.mem_filter.mp he).1

namespace Document

variable {doc after : Document} {lexicon : Lexicon Target} {root : Nat}

/-! ## 1. What a pass looks at -/

/-- The texts that a pass looks at. -/
def unboundTexts (doc : Document) (root : Nat) : List Nat :=
  (doc.unbound root).filter fun id => (doc.text? id).isSome

/-- The attribute values that a pass looks at, in a document in which texts may have been replaced. -/
def unboundValues (doc after : Document) (root : Nat) : List (Nat × String × String) :=
  after.attributesOf ((doc.unbound root).filter after.isElement)

theorem expandBelow_eq (doc : Document) (lexicon : Lexicon Target) (root : Nat) :
    doc.expandBelow lexicon root =
      let texts := doc.expandTexts lexicon (doc.unboundTexts root)
      let values := texts.1.expandAttributes (Lexicon.markup lexicon) (doc.unboundValues texts.1 root)
      (values.1, texts.2 ++ values.2) :=
  rfl

theorem mem_unboundValues {id : Nat} {name value : String} :
    (id, name, value) ∈ doc.unboundValues after root ↔
      (id ∈ doc.unbound root ∧ after.isElement id = true) ∧ (name, value) ∈ after.attributes id := by
  simp only [unboundValues, attributesOf, List.mem_flatMap, List.mem_filter, List.mem_map]
  constructor
  · rintro ⟨x, hx, entry, hentry, heq⟩
    cases heq
    exact ⟨hx, hentry⟩
  · rintro ⟨hx, hentry⟩
    exact ⟨id, hx, (name, value), hentry, rfl⟩

theorem mem_unbound_lt (hdoc : doc.Linked) {id : Nat} (hid : id ∈ doc.unbound root) :
    id < doc.size := by
  obtain ⟨p, _, hchild⟩ := (exposed_of_mem_unboundTo hid).1
  exact hdoc.child_lt hchild

theorem mem_unboundTexts_lt (hdoc : doc.Linked) {c : Nat} (hc : c ∈ doc.unboundTexts root) :
    c < doc.size :=
  mem_unbound_lt hdoc (List.mem_filter.mp hc).1

/-- Replacing texts adds no attribute values to those that a pass looks at, and takes none away. -/
theorem unboundValues_eq (hdoc : doc.Linked) {g : Nat → List Nat} (h : doc.Regrouped after g)
    (root : Nat) : doc.unboundValues after root = doc.unboundValues doc root := by
  have hfilter : (doc.unbound root).filter after.isElement =
      (doc.unbound root).filter doc.isElement :=
    List.filter_congr fun id hid => by rw [isElement, isElement, h.tag? (mem_unbound_lt hdoc hid)]
  unfold unboundValues attributesOf
  rw [hfilter]
  refine List.flatMap_congr fun id hid => ?_
  rw [h.attributes (mem_unbound_lt hdoc (List.mem_filter.mp hid).1)]

/-! ## 2. New bindings -/

/-- The classes of a new binding. -/
theorem hasClass_bindingAttributes (name : String) (editor : Bool) (c : String) :
    (bindingAttributes name editor).hasClass c =
      (if editor then [Binding.valueClass.toList, Binding.requestClass.toList]
        else [Binding.valueClass.toList]).contains c.toList := by
  have hclasses : ∀ value, Attributes.classes
      [(Attributes.classAttribute, value), (Binding.nameAttribute, name)] = words value.toList :=
    fun value => by simp [Attributes.classes, Attributes.get?]
  have hone : words Binding.valueClass.toList = [Binding.valueClass.toList] := by decide +kernel
  have htwo : words (s!"{Binding.valueClass} {Binding.requestClass}").toList =
      [Binding.valueClass.toList, Binding.requestClass.toList] := by decide +kernel
  unfold Attributes.hasClass bindingAttributes
  rw [hclasses]
  cases editor with
  | false => exact congrArg (·.contains c.toList) hone
  | true => exact congrArg (·.contains c.toList) htwo

theorem get?_bindingAttributes (name : String) (editor : Bool) :
    (bindingAttributes name editor).get? Binding.nameAttribute = some name := by
  simp [bindingAttributes, Attributes.get?, Attributes.classAttribute, Binding.nameAttribute]

/-- A new binding is one. -/
theorem isBinding_of_payload? {id : Nat} {tag name : String} {editor : Bool}
    (h : doc.payload? id = some (.element tag (bindingAttributes name editor))) :
    doc.isBinding id = true := by
  have hattributes : doc.attributes id = bindingAttributes name editor := by
    simp only [attributes, h]
  have hclass : (bindingAttributes name editor).hasClass Binding.valueClass = true := by
    rw [hasClass_bindingAttributes]
    cases editor <;> decide
  simp [isBinding, hasClass, attribute?, hattributes, hclass, get?_bindingAttributes]

/-- Only elements are bindings. -/
theorem text?_eq_none_of_isBinding {id : Nat} (h : doc.isBinding id = true) : doc.text? id = none := by
  unfold text?
  split
  · rename_i hpayload
    simp [isBinding, attribute?, attributes, hpayload, Attributes.get?] at h
  · rfl

theorem isBinding_congr {id : Nat} (h : after.attributes id = doc.attributes id) :
    after.isBinding id = doc.isBinding id := by
  simp only [isBinding, hasClass, attribute?, h]

theorem replacedAt_valuedBy (doc : Document) (r : Registry) (lexicon : Lexicon Target) (id : Nat) :
    doc.replacedAt (lexicon.mapTargets (Target.valuedBy r)) id =
      (doc.replacedAt lexicon id).map (Target.valuedBy r) := by
  unfold replacedAt
  split
  · rfl
  · exact replacedIn_valuedBy r lexicon _ _

/-! ## 3. The pass -/

/-- What a pass below a node does: texts give their places to their parts, and then attribute values are
    written. -/
structure Pass (doc middle after : Document) (lexicon : Lexicon Target) (root : Nat)
    (group : Nat → List Nat) : Prop where
  linked : middle.Linked
  regrouped : doc.Regrouped middle group
  others : ∀ c, c ∉ doc.unboundTexts root → group c = [c]
  replaces : ∀ c ∈ doc.unboundTexts root, doc.Replaces middle lexicon c (group c)
  seals : doc.SealsValues middle
    ((doc.unboundTexts root).flatMap fun c => (group c).zip (doc.newParts lexicon c))
  attributed : middle.Attributed after
  bound : ∀ x, x ∉ doc.unbound root → after.attributes x = middle.attributes x
  values : ∀ x name value, (x, name, value) ∈ doc.unboundValues middle root →
    after.isSealedAttribute x name = true ∨ hits (Lexicon.markup lexicon) value.toList = []

theorem parents_of_unboundTexts (hdoc : doc.Linked) :
    ∀ id ∈ doc.unboundTexts root, ∃ p, doc.parent? id = some p := by
  intro id hid
  obtain ⟨⟨p, _, hchild⟩, _⟩ := exposed_of_mem_unboundTo (List.mem_filter.mp hid).1
  exact ⟨p, (hdoc.mirrored p id).mp hchild⟩

theorem nodup_unboundTexts (hdoc : doc.Linked) (hroot : doc.Grounded root) :
    (doc.unboundTexts root).Nodup :=
  (hdoc.nodup_unbound hroot).filter _

/-- What a pass replaces in texts, each by itself, and then in attribute values. -/
theorem expandBelow_snd (hdoc : doc.Linked) (hroot : doc.Grounded root) (lexicon : Lexicon Target) :
    (doc.expandBelow lexicon root).2 = (doc.unboundTexts root).flatMap (doc.replacedAt lexicon) ++
      ((doc.expandTexts lexicon (doc.unboundTexts root)).1.expandAttributes (Lexicon.markup lexicon)
        (doc.unboundValues (doc.expandTexts lexicon (doc.unboundTexts root)).1 root)).2 := by
  rw [expandBelow_eq]
  dsimp only
  rw [(expandTexts_spec hdoc lexicon (nodup_unboundTexts hdoc hroot)
    (parents_of_unboundTexts hdoc)).1]

/-- What a pass replaces are tokens of the lexicon. -/
theorem exists_literal_of_mem_expandBelow (hdoc : doc.Linked) (hroot : doc.Grounded root)
    (hproper : lexicon.Proper) {t : Target} (ht : t ∈ (doc.expandBelow lexicon root).2) :
    ∃ literal, (literal, t) ∈ lexicon := by
  rw [expandBelow_snd hdoc hroot] at ht
  rcases List.mem_append.mp ht with ht | ht
  · obtain ⟨c, _, ht⟩ := List.mem_flatMap.mp ht
    unfold replacedAt at ht
    split at ht
    · cases ht
    · exact hproper.mem_of_mem_hits (List.mem_filter.mp ht).1
  · obtain ⟨literal, hmem⟩ := mem_of_mem_expandAttributes hproper.markup ht
    exact ⟨literal, (List.mem_filter.mp hmem).1⟩

/-- **This is what a pass does.** -/
theorem exists_pass (hdoc : doc.Linked) (hroot : doc.Grounded root) (lexicon : Lexicon Target) :
    ∃ group, doc.Pass (doc.expandTexts lexicon (doc.unboundTexts root)).1
      (doc.expandBelow lexicon root).1 lexicon root group := by
  obtain ⟨_, hlinked, group, hregrouped, hothers, hreplaces, hseals⟩ :=
    expandTexts_spec hdoc lexicon (nodup_unboundTexts hdoc hroot)
      (parents_of_unboundTexts hdoc)
  refine ⟨group, hlinked, hregrouped, hothers, hreplaces, hseals,
    attributed_expandAttributes _ _ _, fun x hx => ?_, fun x name value h => ?_⟩
  · refine attributes_expandAttributes_of_not_mem _ fun entry hentry => ?_
    rintro rfl
    exact hx (mem_unboundValues.mp hentry).1.1
  · exact sealed_or_hits_eq_nil _ _ h

namespace Pass

variable {middle : Document} {group : Nat → List Nat}

/-- A node in a group has been there before, as it is, or it is the node of a part. -/
theorem mem_group (h : doc.Pass middle after lexicon root group) {c id : Nat} (hid : id ∈ group c) :
    (id = c ∧ (c ∈ doc.unboundTexts root → doc.replacedAt lexicon c = [])) ∨
      (c ∈ doc.unboundTexts root ∧ doc.size ≤ id ∧
        ∃ part ∈ doc.partsAt lexicon c, middle.Shows id part) := by
  by_cases htext : c ∈ doc.unboundTexts root
  · rcases (h.replaces c htext).mem_cases hid with ⟨heq, hnone⟩ | ⟨hnew, hpart⟩
    · exact .inl ⟨heq, fun _ => hnone⟩
    · exact .inr ⟨htext, hnew, hpart⟩
  · rw [h.others c htext, List.mem_singleton] at hid
    exact .inl ⟨hid, fun hmem => absurd hmem htext⟩

/-- What is a binding stays one. -/
theorem isBinding (h : doc.Pass middle after lexicon root group) {c : Nat} (hlt : c < doc.size)
    (hbinding : doc.isBinding c = true) : after.isBinding c = true := by
  have hnot : c ∉ doc.unbound root := fun hmem => by
    have hlooked := (exposed_of_mem_unboundTo hmem).2
    simp [isLookedAt, hbinding, text?_eq_none_of_isBinding hbinding] at hlooked
  rw [isBinding_congr ((h.bound c hnot).trans (h.regrouped.attributes hlt)), hbinding]

/-- The node of a part is no binding only if it is a text. -/
theorem exists_text (h : doc.Pass middle after lexicon root group) (hdoc : doc.Linked) {id : Nat}
    (hid : doc.size ≤ id) {part : Part} (hshows : middle.Shows id part) (hbinding : after.isBinding id = false) :
    (∃ text, part = .plain text ∧ after.text? id = some (String.ofList text)) ∨
      (∃ text, part = .value text ∧ after.isSealedText id = true ∧ after.text? id = some text) := by
  have hnot : id ∉ doc.unbound root := fun hmem =>
    absurd (mem_unbound_lt hdoc hmem) (Nat.not_lt.mpr hid)
  cases part with
  | plain text =>
      refine .inl ⟨text, rfl, ?_⟩
      rw [h.attributed.text?]
      simp only [Document.text?, hshows.1]
  | value text =>
      refine .inr ⟨text, rfl, ?_, ?_⟩
      · rw [h.attributed.isSealedText]
        exact hshows.2.2
      · rw [h.attributed.text?]
        simp only [Document.text?, hshows.1]
  | binding t editor =>
      rw [isBinding_congr (h.bound id hnot), isBinding_of_payload? hshows.1] at hbinding
      cases hbinding

/-- The children of a node after the pass are the groups of those that it had. -/
theorem mem_children (h : doc.Pass middle after lexicon root group) {p id : Nat} (hp : p < doc.size) :
    id ∈ after.children p ↔ ∃ c ∈ doc.children p, id ∈ group c := by
  rw [h.attributed.children, h.regrouped.children p hp, List.mem_flatMap]

end Pass

end Document

end Placeholders
