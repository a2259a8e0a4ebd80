import Placeholders.Proofs.Document.Reading
import Placeholders.Proofs.Expansion.Complete

/-!
# What a pass leaves alone

A pass changes texts and attribute values, and nothing about the nodes that these stand in.

* Nodes keep their parents, except texts in which something is replaced; these have none afterwards
  (`parent?_expandTexts`, `parent?_expandTexts_of_replaced`).
* A pass looks at nothing in a binding and at nothing outside of its root, and what it does not look at is
  `Untouched`.
* `Skeleton` says what stands in the place of each node. The rest follows from it: which siblings survive
  and in which order, what stays on the page, and what comes to it.
* Nothing keeps other changes from putting nodes into a text, which would leave the page with it. Markup
  does not (`Tidy.parse`).
-/

namespace Placeholders

open Placeholders.Markup Placeholders.Text Relation

/-- Where no name stands twice, the value of a name is the one that stands beside it. -/
theorem Markup.Attributes.get?_eq_some_iff {attributes : Attributes}
    (h : (attributes.map (·.1)).Nodup) {name value : String} :
    attributes.get? name = some value ↔ (name, value) ∈ attributes := by
  induction attributes with
  | nil => simp [get?]
  | cons entry rest ih =>
      obtain ⟨hentry, hrest⟩ := List.nodup_cons.mp h
      rw [get?, List.mem_cons]
      split
      · rename_i heq
        have hnot : (name, value) ∉ rest := fun hmem =>
          hentry (List.mem_map.mpr ⟨(name, value), hmem, heq.symm⟩)
        rw [or_iff_left hnot, Option.some_inj, Prod.ext_iff]
        exact ⟨fun hvalue => ⟨heq.symm, hvalue.symm⟩, fun hboth => hboth.2.symm⟩
      · rename_i hne
        rw [ih hrest, or_iff_right]
        rintro rfl
        exact hne rfl

/-- Where something is found a literal of the lexicon occurs. -/
theorem Text.Lexicon.Proper.exists_infix_of_hits_ne_nil {α : Type} {lexicon : Lexicon α}
    (h : lexicon.Proper) {s : List Char} (hfound : hits lexicon s ≠ []) :
    ∃ e ∈ lexicon, e.1 <:+: s := by
  obtain ⟨t, ht⟩ := List.exists_mem_of_ne_nil _ hfound
  obtain ⟨piece, hpiece, htarget⟩ := List.mem_filterMap.mp ht
  cases piece with
  | plain c => cases htarget
  | hit literal found => exact ⟨(literal, found), h.mem_of_hit_mem_cut hpiece⟩

namespace Document

variable {doc middle after : Document} {lexicon : Lexicon Target} {root : Nat} {group : Nat → List Nat}

/-! ## 1. Parents -/

theorem parent?_createPart {j : Nat} (hj : j < doc.size) (part : Part) :
    (doc.createPart part).1.parent? j = doc.parent? j := by
  cases part with
  | plain text => exact parent?_create doc _ j
  | value text => exact parent?_create doc _ j
  | binding t editor =>
      simp only [createPart]
      split
      · exact parent?_create doc _ j
      · rw [parent?_appendNew, if_neg (by simp only [size_create]; omega), parent?_create]

theorem parent?_insertPart {j : Nat} (hj : j < doc.size) (reference : Nat) (part : Part) :
    (doc.insertPart reference part).parent? j = doc.parent? j := by
  have hnew : (doc.createPart part).2 = doc.size := by cases part <;> rfl
  have hmade := parent?_createPart hj part
  unfold Document.insertPart
  dsimp only
  rw [hnew]
  cases hparent : (doc.createPart part).1.parent? reference with
  | none =>
      rw [Document.insertBefore?, hparent]
      exact hmade
  | some p =>
      rw [insertBefore?_eq hparent, Option.getD_some,
        parent?_place (by simpa using size_lt_createPart doc part), if_neg (Nat.ne_of_lt hj),
        parent?_detach, if_neg (Nat.ne_of_lt hj), hmade]

theorem parent?_insertParts {j : Nat} (hj : j < doc.size) (reference : Nat) (parts : List Part) :
    (doc.insertParts reference parts).parent? j = doc.parent? j ∧
      doc.size ≤ (doc.insertParts reference parts).size := by
  induction parts generalizing doc with
  | nil => exact ⟨rfl, Nat.le_refl _⟩
  | cons part parts ih =>
      have hlt := size_lt_insertPart doc reference part
      obtain ⟨hparent, hsize⟩ := ih (Nat.lt_trans hj hlt)
      exact ⟨hparent.trans (parent?_insertPart hj reference part), by
        exact Nat.le_trans (Nat.le_of_lt hlt) hsize⟩

theorem parent?_expandUnsealed {j id : Nat} (hj : j < doc.size) (hne : j ≠ id)
    (lexicon : Lexicon Target) :
    (doc.expandUnsealed lexicon id).1.parent? j = doc.parent? j ∧
      doc.size ≤ (doc.expandUnsealed lexicon id).1.size := by
  unfold Document.expandUnsealed
  split
  · exact ⟨rfl, Nat.le_refl _⟩
  · rw [expandText_eq]
    split
    · exact ⟨rfl, Nat.le_refl _⟩
    · obtain ⟨hparent, hsize⟩ := parent?_insertParts hj id (doc.partsAt lexicon id)
      rw [parent?_detach, if_neg hne, size_detach]
      exact ⟨hparent, hsize⟩

/-- A pass through texts moves none of the nodes but these texts. -/
theorem parent?_expandTexts {j : Nat} (hj : j < doc.size) (lexicon : Lexicon Target) {ids : List Nat}
    (hids : j ∉ ids) : (doc.expandTexts lexicon ids).1.parent? j = doc.parent? j := by
  induction ids generalizing doc with
  | nil => rfl
  | cons id ids ih =>
      obtain ⟨hne, hrest⟩ := not_or.mp (mt List.mem_cons.mpr hids)
      obtain ⟨hparent, hsize⟩ := parent?_expandUnsealed hj hne lexicon
      rw [expandTexts_cons]
      exact (ih (Nat.lt_of_lt_of_le hj hsize) hrest).trans hparent

theorem parent?_expandUnsealed_self {id : Nat} (hne : doc.replacedAt lexicon id ≠ []) :
    (doc.expandUnsealed lexicon id).1.parent? id = none := by
  have hopen : doc.isSealedText id = false := by
    by_contra hsealed
    simp [replacedAt, hsealed] at hne
  rw [replacedAt, hopen, if_neg (by simp)] at hne
  rw [Document.expandUnsealed, hopen, if_neg (by simp), expandText_eq, if_neg hne]
  exact (parent?_detach id id).trans (if_pos rfl)

/-- A text in which something is replaced has no place any more. -/
theorem parent?_expandTexts_of_replaced (hdoc : doc.Linked) {ids : List Nat} (hnodup : ids.Nodup)
    (hids : ∀ id ∈ ids, ∃ p, doc.parent? id = some p) {j : Nat} (hj : j ∈ ids)
    (hne : doc.replacedAt lexicon j ≠ []) : (doc.expandTexts lexicon ids).1.parent? j = none := by
  induction ids generalizing doc with
  | nil => cases hj
  | cons id ids ih =>
      obtain ⟨hid, hrest⟩ := List.nodup_cons.mp hnodup
      obtain ⟨p, hparent⟩ := hids id List.mem_cons_self
      obtain ⟨_, hnext, news, hfirst, _⟩ := expandUnsealed_spec hdoc lexicon hparent
      rw [expandTexts_cons]
      rcases List.mem_cons.mp hj with rfl | hj
      · rw [parent?_expandTexts (Nat.lt_of_lt_of_le (lt_of_parent? hparent) hfirst.size_le) lexicon hid]
        exact parent?_expandUnsealed_self hne
      · have halone : ∀ c ∈ ids, inPlaceOf id news c = [c] := by
          refine fun c hc => inPlaceOf_of_ne ?_ news
          rintro rfl
          exact hid hc
        refine ih hnext hrest (fun c hc => ?_) hj ?_
        · obtain ⟨q, hq⟩ := hids c (List.mem_cons_of_mem id hc)
          exact ⟨q, hfirst.parent? hdoc hnext hq (halone c hc)⟩
        · obtain ⟨q, hq⟩ := hids j (List.mem_cons_of_mem id hj)
          rwa [hfirst.replacedAt hdoc hnext hq (halone j hj)]

/-! ## 2. Nodes that a pass does not look at -/

/-- A binding is in the way of a pass: it goes on neither from the binding nor from anything in it. -/
theorem isBinding_of_opens (hdoc : doc.Linked) (hroot : doc.Grounded root) {b p : Nat}
    (hb : TransGen doc.Child root b) (hwalk : ReflTransGen doc.Opens root p)
    (hp : ReflTransGen doc.Child b p) : doc.isBinding b = false := by
  induction hwalk with
  | refl => exact absurd (TransGen.trans_left hb hp) (hroot root .refl)
  | @tail q p _ hopens ih =>
      rcases ReflTransGen.cases_tail hp with rfl | ⟨q', hbq, hqp⟩
      · exact hopens.2.2
      · exact ih (hdoc.parent_unique hqp hopens.1 ▸ hbq)

/-- **A pass looks at nothing that is in a binding.** -/
theorem not_mem_unbound_of_binding (hdoc : doc.Linked) (hroot : doc.Grounded root) {b x : Nat}
    (hb : TransGen doc.Child root b) (hbinding : doc.isBinding b = true)
    (hx : ReflTransGen doc.Child b x) : x ∉ doc.unbound root := by
  intro hmem
  obtain ⟨⟨p, hwalk, hchild⟩, hlooked⟩ := exposed_of_mem_unboundTo hmem
  rcases ReflTransGen.cases_tail hx with rfl | ⟨q, hbq, hqx⟩
  · simp [isLookedAt, hbinding, text?_eq_none_of_isBinding hbinding] at hlooked
  · have hopen := isBinding_of_opens hdoc hroot hb hwalk (hdoc.parent_unique hqx hchild ▸ hbq)
    rw [hbinding] at hopen
    cases hopen

/-- A pass looks at nothing that is not below its root. -/
theorem not_mem_unbound_of_outside {x : Nat} (hx : ¬ TransGen doc.Child root x) :
    x ∉ doc.unbound root := fun hmem => hx (exposed_of_mem_unboundTo hmem).1.walk

theorem payload?_eq_of_attributes_eq (h : middle.Attributed after) {x : Nat}
    (hattributes : after.attributes x = middle.attributes x) : after.payload? x = middle.payload? x := by
  obtain ⟨f, hf⟩ := h.payload x
  simp only [attributes, hf] at hattributes
  rw [hf]
  cases hpayload : middle.payload? x with
  | none => rfl
  | some payload =>
      cases payload with
      | element tag entries =>
          rw [hpayload] at hattributes
          change f entries = entries at hattributes
          rw [Option.map_some, Payload.mapAttributes, hattributes]
      | root | doctype | comment | text => rfl

/-- The pass through attribute values seals none but those of the elements that it goes through. -/
theorem isSealedAttribute_expandAttributes_of_not_mem {x : Nat} (lexicon : Lexicon Target)
    {entries : List (Nat × String × String)} (h : ∀ entry ∈ entries, entry.1 ≠ x) (name : String) :
    (doc.expandAttributes lexicon entries).1.isSealedAttribute x name = doc.isSealedAttribute x name := by
  induction entries generalizing doc with
  | nil => rfl
  | cons entry rest ih =>
      obtain ⟨hne, hrest⟩ := List.forall_mem_cons.mp h
      rw [expandAttributes_cons, ih hrest]
      rcases expandAttribute_cases doc lexicon entry.1 entry.2.1 entry.2.2 with ⟨_, heq⟩ | ⟨_, _, heq⟩
      · rw [heq]
      · rw [heq, Bool.eq_iff_iff, isSealedAttribute_writeAttribute]
        exact or_iff_right fun hsame => hne hsame.1.symm

/-- Only texts give their places up. -/
theorem Pass.group_eq_of_not_mem (h : doc.Pass middle after lexicon root group) {c : Nat}
    (hc : c ∉ doc.unbound root) : group c = [c] :=
  h.others c fun hmem => hc (List.mem_filter.mp hmem).1

section Below

variable (hdoc : doc.Linked) (h : doc.Pass (doc.expandTexts lexicon (doc.unboundTexts root)).1
  (doc.expandBelow lexicon root).1 lexicon root group)

include hdoc h

/-- A node that stays keeps its parent. -/
theorem parent?_expandBelow {c : Nat} (hlt : c < doc.size) (halone : group c = [c]) :
    (doc.expandBelow lexicon root).1.parent? c = doc.parent? c := by
  rw [h.attributed.parent]
  by_cases hc : c ∈ doc.unboundTexts root
  · obtain ⟨p, hp⟩ := parents_of_unboundTexts hdoc c hc
    rw [h.regrouped.parent? hdoc h.linked hp halone, hp]
  · exact parent?_expandTexts hlt lexicon hc

/-- **What a pass does not look at is as it was**, if it looks at none of its children either. -/
theorem untouched_expandBelow {x : Nat} (hlt : x < doc.size) (hself : x ∉ doc.unbound root)
    (hchildren : ∀ c ∈ doc.children x, c ∉ doc.unbound root) :
    doc.Untouched (doc.expandBelow lexicon root).1 x where
  payload := (payload?_eq_of_attributes_eq h.attributed (h.bound x hself)).trans
    (h.regrouped.payload x hlt)
  parent := parent?_expandBelow hdoc h hlt (h.group_eq_of_not_mem hself)
  children := by
    rw [h.attributed.children, h.regrouped.children x hlt,
      List.flatMap_congr (g := alone) fun c hc => h.group_eq_of_not_mem (hchildren c hc), flatMap_alone]
  sealedText := by rw [h.attributed.isSealedText, h.regrouped.sealedText x hlt]
  sealedAttribute name := by
    rw [expandBelow_eq]
    dsimp only
    rw [isSealedAttribute_expandAttributes_of_not_mem _ fun entry hentry => ?_]
    · simp only [isSealedAttribute, h.regrouped.sealedAttributes]
    · rintro rfl
      exact hself (mem_unboundValues.mp hentry).1.1

end Below

/-! ## 3. Attribute values -/

/-- No element below a node has two attributes of one name. -/
def DistinctNames (doc : Document) (root : Nat) : Prop :=
  ∀ x, TransGen doc.Child root x → ((doc.attributes x).map (·.1)).Nodup

/-- What the pass through attribute values has changed is a value in which a token is found, and that
    has not been sealed. -/
theorem Rewritten.changed {entries values : List (Nat × String × String)}
    (h : doc.Rewritten after lexicon entries values) (hafter : doc.Attributed after)
    (hproper : lexicon.Proper) (hentries : ∀ v ∈ entries, (v.2.1, v.2.2) ∈ doc.attributes v.1)
    (hsealed : ∀ x name, doc.isSealedAttribute x name = true →
      after.attribute? x name = doc.attribute? x name)
    {x : Nat} {name value : String} (hnames : (after.attributes x).map (·.1) = (doc.attributes x).map (·.1))
    (hnodup : ((doc.attributes x).map (·.1)).Nodup) (hvalue : doc.attribute? x name = some value)
    (hchanged : after.attribute? x name ≠ some value) :
    (x, name, value) ∈ entries ∧ doc.isSealedAttribute x name = false ∧ hits lexicon value.toList ≠ [] := by
  have hmem := (Attributes.get?_eq_some_iff hnodup).mp hvalue
  have hwritten : after.isSealedAttribute x name = true := by
    by_contra hopen
    refine hchanged ((Attributes.get?_eq_some_iff (hnames ▸ hnodup)).mpr ?_)
    exact (hafter.unsealed x name (Bool.eq_false_iff.mpr hopen) value).mpr hmem
  rcases (h.seals x name).mp hwritten with hbefore | ⟨value', hv⟩
  · exact absurd ((hsealed x name hbefore).trans hvalue) hchanged
  · have hentry := h.sublist.subset hv
    have hsame : value' = value := by
      have hget := (Attributes.get?_eq_some_iff hnodup).mpr (hentries _ hentry)
      exact Option.some.inj (hget.symm.trans hvalue)
    subst hsame
    obtain ⟨hopen, hnow⟩ := h.written _ hv
    refine ⟨hentry, hopen, fun hnone => hchanged (hnow.trans ?_)⟩
    rw [hproper.replaceAll_eq_self hnone, String.ofList_toList]

/-! ## 4. Pages that have been read -/

/-- No element has two attributes of one name, and nothing is in a text. -/
structure Tidy (doc : Document) : Prop where
  distinct : ∀ x, ((doc.attributes x).map (·.1)).Nodup
  leafTexts : doc.LeafTexts

namespace Tidy

variable {parent : Nat}

theorem empty : Document.empty.Tidy := by
  have hpayload : ∀ x, Document.empty.payload? x = if x = 0 then some .root else none := by
    intro x
    cases x with
    | zero => rfl
    | succ x => exact payload?_eq_none (by simp [size, Document.empty])
  refine ⟨fun x => ?_, fun x htext => ?_⟩
  · simp only [attributes, hpayload]
    by_cases hx : x = 0 <;> simp [hx]
  · simp only [text?, hpayload] at htext
    by_cases hx : x = 0 <;> simp [hx] at htext

theorem appendNew (h : doc.Tidy) (hlt : parent < doc.size) (htext : doc.text? parent = none)
    {payload : Payload} (hpayload : ∀ tag attributes, payload = .element tag attributes →
      (attributes.map (·.1)).Nodup) : (doc.appendNew parent payload).Tidy := by
  refine ⟨fun x => ?_, fun x hx => ?_⟩
  · by_cases heq : x = doc.size
    · simp only [attributes, payload?_appendNew, if_pos heq]
      cases payload with
      | element tag attributes => exact hpayload tag attributes rfl
      | root | doctype | comment | text => exact List.nodup_nil
    · simp only [attributes, payload?_appendNew, if_neg heq]
      exact h.distinct x
  · rw [children_appendNew hlt]
    by_cases heq : x = doc.size
    · rw [heq, if_neg (Nat.ne_of_gt hlt), children_eq_nil (Nat.le_refl _)]
    · simp only [text?, payload?_appendNew, if_neg heq] at hx
      change doc.text? x ≠ none at hx
      rw [if_neg, h.leafTexts x hx]
      rintro rfl
      exact hx htext

/-- A text is not appended to, so that it stays without content. -/
theorem appendTrees {trees : List Tree} (hlegible : ∀ tree ∈ trees, tree.Legible)
    (hstep : ∀ tree ∈ trees, ∀ {doc : Document} {parent : Nat}, doc.Linked → doc.Tidy →
      parent < doc.size → doc.text? parent = none → (doc.appendTree parent tree).Tidy)
    (hdoc : doc.Linked) (h : doc.Tidy) (hlt : parent < doc.size) (htext : doc.text? parent = none) :
    (doc.appendTrees parent trees).Tidy := by
  induction trees generalizing doc with
  | nil => exact h
  | cons tree trees ih =>
      obtain ⟨hfirst, hrest⟩ := List.forall_mem_cons.mp hstep
      obtain ⟨hread, hread'⟩ := List.forall_mem_cons.mp hlegible
      have hgrown := grown_appendTree hdoc hlt tree
      have hkept := (appends_appendTree hread.whole hdoc hlt).payload parent hlt
      rw [Document.appendTrees]
      refine ih hread' hrest hgrown.linked (hfirst hdoc h hlt htext)
        (Nat.lt_of_lt_of_le hlt hgrown.size_le) ?_
      simpa only [text?, hkept] using htext

theorem appendTree {tree : Tree} (hlegible : tree.Legible) (hdoc : doc.Linked) (h : doc.Tidy)
    (hlt : parent < doc.size) (htext : doc.text? parent = none) : (doc.appendTree parent tree).Tidy := by
  induction hlegible generalizing doc parent with
  | doctype | comment | text =>
      rw [Document.appendTree]
      exact h.appendNew hlt htext nofun
  | @element tag attributes children _ areAttributes _ legible ih =>
      rw [Document.appendTree]
      have hfirst : (doc.appendNew parent (.element tag attributes)).Tidy := by
        refine h.appendNew hlt htext fun tag' attributes' heq => ?_
        cases heq
        exact areAttributes.distinct
      refine hfirst.appendTrees legible (fun tree htree => ih tree htree)
        (hdoc.appendNew hlt _) (by simp) ?_
      simp only [text?, payload?_appendNew, if_pos]

/-- **A page that has been read is tidy.** -/
theorem parse (markup : String) : (parse markup).Tidy := by
  have hread := Tree.legible_of_mem_parse markup.toList
  exact empty.appendTrees hread (fun tree htree => appendTree (hread tree htree)) linked_empty
    (by decide) rfl

end Tidy

/-! ## 5. The page -/

/-- Below the root of the page, or the root itself. -/
def Attached (doc : Document) (id : Nat) : Prop := ReflTransGen doc.Child Document.root id

/-- A text with nothing in it. -/
def IsLeafText (doc : Document) (id : Nat) : Prop :=
  (doc.text? id).isSome = true ∧ doc.children id = []

/-- A text below a node has given its place to new nodes: texts, and bindings that hold the value of a
    placeholder. -/
structure SplitInto (doc after : Document) (r : Registry) (root c : Nat) (news : List Nat) : Prop where
  exposed : doc.Exposed root c
  text : (doc.text? c).isSome = true
  unsealed : doc.isSealedText c = false
  displaced : after.parent? c = none
  fresh : ∀ n ∈ news, doc.size ≤ n
  shows : ∀ n ∈ news, after.IsLeafText n ∨
    ∃ p ∈ r.placeholders, after.IsSpan p.name n ∧ after.HoldsText n p.expandedValue

/-- What a pass below a node leaves of a page, and what it puts there. What stands in the place of a node
    is listed by `group`: the node itself, or the nodes that a text has been split into. -/
structure Skeleton (doc after : Document) (r : Registry) (root : Nat) (group : Nat → List Nat) :
    Prop where
  place : ∀ c, group c = [c] ∨ doc.SplitInto after r root c (group c)
  children : ∀ x < doc.size, after.children x = (doc.children x).flatMap group
  parent : ∀ c < doc.size, group c = [c] → after.parent? c = doc.parent? c
  tag : ∀ x < doc.size, after.tag? x = doc.tag? x
  payload : ∀ x < doc.size, doc.tag? x = none → after.payload? x = doc.payload? x
  /-- Nothing changes outside of the node. -/
  outside : ∀ x < doc.size, ¬ ReflTransGen doc.Child root x → doc.Untouched after x
  /-- Nothing changes in a binding. -/
  bound : ∀ b x, TransGen doc.Child root b → doc.isBinding b = true → ReflTransGen doc.Child b x →
    doc.Untouched after x
  names : ∀ x < doc.size, (after.attributes x).map (·.1) = (doc.attributes x).map (·.1)
  /-- A value changes only if it has a token in it that is replaced in markup, and is not sealed. -/
  values : ∀ x name value, doc.attribute? x name = some value → after.attribute? x name ≠ some value →
    doc.Exposed root x ∧ doc.isSealedAttribute x name = false ∧
      ∃ p ∈ r.placeholders, p.allowInnerHtml = true ∧ (p.tokens.get .html).literal ≠ "" ∧
        (p.tokens.get .html).literal.toList <:+: value.toList

namespace Skeleton

variable {r : Registry}

theorem eq_of_mem_group (h : doc.Skeleton after r root group) {c id : Nat} (hid : id ∈ group c)
    (hlt : id < doc.size) : id = c ∧ group c = [c] := by
  rcases h.place c with halone | hsplit
  · rw [halone, List.mem_singleton] at hid
    exact ⟨hid, halone⟩
  · exact absurd (hsplit.fresh id hid) (Nat.not_le.mpr hlt)

/-- **The children that stay are in the order that they were in.** -/
theorem survivors (h : doc.Skeleton after r root group) (hdoc : doc.Linked) {x : Nat} (hlt : x < doc.size) :
    (after.children x).filter (· < doc.size) = (doc.children x).filter fun c => group c = [c] := by
  rw [h.children x hlt]
  have hold : ∀ c ∈ doc.children x, c < doc.size := fun c => hdoc.child_lt
  generalize doc.children x = cs at hold
  induction cs with
  | nil => rfl
  | cons c cs ih =>
      obtain ⟨hc, hrest⟩ := List.forall_mem_cons.mp hold
      rw [List.flatMap_cons, List.filter_append, ih hrest]
      by_cases halone : group c = [c]
      · rw [halone, List.filter_cons_of_pos (by simpa using hc), List.filter_nil,
          List.filter_cons_of_pos (by simpa using halone)]
        rfl
      · have hnone : (group c).filter (· < doc.size) = [] := by
          refine List.filter_eq_nil_iff.mpr fun n hn => ?_
          have hfresh := ((h.place c).resolve_left halone).fresh n hn
          simpa using hfresh
        rw [hnone, List.nil_append, List.filter_cons_of_neg (by simpa using halone)]

/-- **What is on the page stays there**, unless it is below a text that is split. -/
theorem attached (h : doc.Skeleton after r root group) {x : Nat} (hx : doc.Attached x)
    (hfree : ∀ c, group c ≠ [c] → ¬ ReflTransGen doc.Child c x) : after.Attached x := by
  induction hx with
  | refl => exact .refl
  | @tail p c _ hchild ih =>
      have halone : group c = [c] := by
        by_contra hsplit
        exact hfree c hsplit .refl
      have hp := ih fun c' hsplit hwalk => hfree c' hsplit (hwalk.tail hchild)
      refine hp.tail ?_
      rw [Child, h.children p (lt_of_mem_children hchild)]
      exact List.mem_flatMap.mpr ⟨c, hchild, halone ▸ List.mem_singleton_self c⟩

/-- As long as nothing is in a text, all that is no text stays on the page. -/
theorem attached_of_leafTexts (h : doc.Skeleton after r root group) (hleaf : doc.LeafTexts) {x : Nat}
    (hx : doc.Attached x) (htext : doc.text? x = none) : after.Attached x := by
  refine h.attached hx fun c hsplit hwalk => ?_
  have hc := ((h.place c).resolve_left hsplit).text
  rcases ReflTransGen.cases_head hwalk with rfl | ⟨d, hchild, _⟩
  · rw [htext] at hc
    cases hc
  · rw [Child, hleaf c (Option.isSome_iff_ne_none.mp hc)] at hchild
    cases hchild

/-- **What is new on the page stands in the place of a text that has been split**, or it is the text of a
    binding that does. By induction along the walk down to it; new nodes have no old ones in them, since
    these have kept their parents or lost them. -/
theorem newcomer (h : doc.Skeleton after r root group) (hdoc : doc.Linked) (hafter : after.Linked)
    (hlt : Document.root < doc.size) {n : Nat} (hn : after.Attached n) :
    (n < doc.size ∧ doc.Attached n) ∨ (doc.size ≤ n ∧ ∃ c, doc.Attached c ∧ group c ≠ [c] ∧
      (n ∈ group c ∨
        ∃ b ∈ group c, after.isBinding b = true ∧ after.children b = [n] ∧ after.IsLeafText n)) := by
  induction hn with
  | refl => exact .inl ⟨hlt, .refl⟩
  | @tail p n _ hchild ih =>
      rcases ih with ⟨hp, hattached⟩ | ⟨hp, c, hattached, hsplit, hplace⟩
      · rw [Child, h.children p hp] at hchild
        obtain ⟨c, hc, hn⟩ := List.mem_flatMap.mp hchild
        by_cases hold : n < doc.size
        · obtain ⟨rfl, _⟩ := h.eq_of_mem_group hn hold
          exact .inl ⟨hold, hattached.tail hc⟩
        · refine .inr ⟨Nat.not_lt.mp hold, c, hattached.tail hc, fun halone => hold ?_, .inl hn⟩
          rw [halone, List.mem_singleton] at hn
          exact hn ▸ hdoc.child_lt hc
      · have hnew : doc.size ≤ n := by
          by_contra hold
          have hparent := (hafter.mirrored p n).mp hchild
          rcases h.place n with halone | hsplit
          · rw [h.parent n (Nat.not_le.mp hold) halone] at hparent
            exact absurd (lt_of_mem_children ((hdoc.mirrored p n).mpr hparent)) (Nat.not_lt.mpr hp)
          · rw [hsplit.displaced] at hparent
            cases hparent
        refine .inr ⟨hnew, c, hattached, hsplit, ?_⟩
        rcases hplace with hmem | ⟨_, _, _, _, _, hleaf⟩
        · rcases ((h.place c).resolve_left hsplit).shows p hmem with ⟨_, hleaf⟩ | ⟨q, _, hspan, hholds⟩
          · rw [Child, hleaf] at hchild
            cases hchild
          · obtain ⟨hpayload, hleaf⟩ := hholds.child hchild
            have htext : (after.text? n).isSome = true := by simp only [text?, hpayload, Option.isSome_some]
            exact .inr ⟨p, hmem, hspan.isBinding, hholds.children_eq hchild, htext, hleaf⟩
        · rw [Child, hleaf] at hchild
          cases hchild

end Skeleton

/-- A text in which something is replaced is split into the nodes of its parts. -/
theorem splitInto_expandBelow (hdoc : doc.Linked) (hroot : doc.Grounded root) {r : Registry}
    (htargets : r.targets = .ok lexicon)
    (h : doc.Pass (doc.expandTexts lexicon (doc.unboundTexts root)).1 (doc.expandBelow lexicon root).1
      lexicon root group) {c : Nat} (hc : c ∈ doc.unboundTexts root) (hne : doc.replacedAt lexicon c ≠ []) :
    doc.SplitInto (doc.expandBelow lexicon root).1 r root c (group c) where
  exposed := (exposed_of_mem_unboundTo (List.mem_filter.mp hc).1).1
  text := (List.mem_filter.mp hc).2
  unsealed := by
    by_contra hsealed
    simp [replacedAt, hsealed] at hne
  displaced := by
    rw [h.attributed.parent]
    exact parent?_expandTexts_of_replaced hdoc (nodup_unboundTexts hdoc hroot)
      (parents_of_unboundTexts hdoc) hc hne
  fresh := (h.replaces c hc).fresh hne
  shows n hn := by
    rcases ((h.rendered hdoc).replaces c hc).mem_cases hn with ⟨_, hnone⟩ | ⟨_, part, hpart, hshows⟩
    · exact absurd hnone hne
    · cases part with
      | plain text => exact .inl ⟨by simp [text?, hshows.1], hshows.2⟩
      | value text => exact .inl ⟨by simp [text?, hshows.1], hshows.2.1⟩
      | binding t editor =>
          obtain ⟨literal, hmem⟩ :=
            exists_literal_of_mem_partsAt (searchable_targets htargets).proper hpart
          obtain ⟨p, hp, hof⟩ := exists_source htargets hmem
          refine .inr ⟨p, List.mem_of_getElem? hp, ⟨editor, hof.name ▸ hshows.1⟩, hof.value ▸ hshows.2⟩

/-- A token that is found in an attribute value is of the class that is replaced in markup, and of a
    placeholder whose value may stand there. -/
theorem exists_markup_token {r : Registry} (htargets : r.targets = .ok lexicon) {value : String}
    (hfound : hits (Lexicon.markup lexicon) value.toList ≠ []) :
    ∃ p ∈ r.placeholders, p.allowInnerHtml = true ∧ (p.tokens.get .html).literal ≠ "" ∧
      (p.tokens.get .html).literal.toList <:+: value.toList := by
  have hproper := (searchable_targets htargets).proper
  obtain ⟨e, he, hoccurs⟩ := hproper.markup.exists_infix_of_hits_ne_nil hfound
  obtain ⟨hmem, hmarkup⟩ := List.mem_filter.mp he
  obtain ⟨p, hp, hclass, heq⟩ := offers_of_mem_targets htargets e hmem
  have hhtml : e.2.tokenClass = .html := by
    have hstrategy : Strategy.ofClass e.2.tokenClass = .escapedMarkup := beq_iff_eq.mp hmarkup
    cases h : e.2.tokenClass <;> rw [h] at hstrategy <;> first | rfl | cases hstrategy
  have hliteral : e.1 = (p.tokens.get .html).literal.toList := by
    rw [heq, hhtml]
    rfl
  rw [hhtml] at hclass
  refine ⟨p, List.mem_of_getElem? hp, mem_tokenClasses.mp hclass rfl, fun hempty => ?_, hliteral ▸ hoccurs⟩
  refine hproper e hmem ?_
  rw [hliteral, hempty]
  rfl

/-- **A pass changes no attribute value but those in which it finds a token**, of elements that it looks
    at, unless they are sealed. -/
theorem exposed_of_attribute_changed (hnames : doc.DistinctNames root) {r : Registry}
    (htargets : r.targets = .ok lexicon)
    (h : doc.Pass (doc.expandTexts lexicon (doc.unboundTexts root)).1 (doc.expandBelow lexicon root).1
      lexicon root group) {x : Nat} (hlt : x < doc.size)
    (hfst : ((doc.expandBelow lexicon root).1.attributes x).map (·.1) = (doc.attributes x).map (·.1))
    {name value : String} (hvalue : doc.attribute? x name = some value)
    (hchanged : (doc.expandBelow lexicon root).1.attribute? x name ≠ some value) :
    doc.Exposed root x ∧ doc.isSealedAttribute x name = false ∧
      ∃ p ∈ r.placeholders, p.allowInnerHtml = true ∧ (p.tokens.get .html).literal ≠ "" ∧
        (p.tokens.get .html).literal.toList <:+: value.toList := by
  have hsame := h.regrouped.attributes hlt
  by_cases hx : x ∈ doc.unbound root
  · have hexposed := (exposed_of_mem_unboundTo hx).1
    obtain ⟨values, hrewritten, _⟩ := exists_rewritten _ (Lexicon.markup lexicon) _
      fun v hv => (mem_unboundValues.mp hv).1.2
    have hfound := hrewritten.changed h.attributed (searchable_targets htargets).proper.markup
      (fun v hv => (mem_unboundValues.mp hv).2)
      (fun x name hsealed => attribute?_expandAttributes_of_sealed hsealed _ _) (hfst.trans (hsame ▸ rfl))
      (hsame ▸ hnames x hexposed.walk) ((congrArg (Attributes.get? · name) hsame).trans hvalue) hchanged
    refine ⟨hexposed, ?_, exists_markup_token htargets hfound.2.2⟩
    rw [← hfound.2.1, isSealedAttribute, isSealedAttribute, h.regrouped.sealedAttributes]
  · refine absurd ?_ hchanged
    rw [attribute?, h.bound x hx, hsame]
    exact hvalue

/-- What is no element is as it was. -/
theorem Attributed.payload?_of_tag? (h : doc.Attributed after) {x : Nat} (hnone : doc.tag? x = none) :
    after.payload? x = doc.payload? x := by
  obtain ⟨f, hf⟩ := h.payload x
  rw [hf]
  unfold Document.tag? at hnone
  cases hpayload : doc.payload? x with
  | none => rfl
  | some payload =>
      cases payload with
      | element tag attributes =>
          rw [hpayload] at hnone
          cases hnone
      | root | doctype | comment | text => rfl

/-- **A pass leaves the skeleton of a page alone.** -/
theorem exists_skeleton (hdoc : doc.Linked) (hroot : doc.Grounded root) (hlt : root < doc.size)
    (hnames : doc.DistinctNames root) {r : Registry} (htargets : r.targets = .ok lexicon) :
    ∃ group, doc.Skeleton (doc.expandBelow lexicon root).1 r root group := by
  obtain ⟨group, hpass⟩ := exists_pass hdoc hroot lexicon
  have hfst : ∀ x < doc.size,
      ((doc.expandBelow lexicon root).1.attributes x).map (·.1) = (doc.attributes x).map (·.1) := by
    intro x hx
    rw [expandBelow_eq]
    dsimp only
    rw [map_fst_expandAttributes _ fun v hv => List.mem_map_of_mem (mem_unboundValues.mp hv).2,
      hpass.regrouped.attributes hx]
  refine ⟨group, fun c => ?_, fun x hx => ?_, fun c hc halone => ?_, fun x hx => ?_, fun x hx hnone => ?_,
    fun x hx hout => ?_, fun b x hb hbinding hx => ?_, hfst, fun x name value hvalue hchanged => ?_⟩
  · by_cases hc : c ∈ doc.unboundTexts root
    · by_cases hnone : doc.replacedAt lexicon c = []
      · exact .inl ((hpass.replaces c hc).untouched hnone)
      · exact .inr (splitInto_expandBelow hdoc hroot htargets hpass hc hnone)
    · exact .inl (hpass.others c hc)
  · exact (hpass.rendered hdoc).children x hx
  · exact parent?_expandBelow hdoc hpass hc halone
  · rw [hpass.attributed.tag?, hpass.regrouped.tag? hx]
  · rw [hpass.attributed.payload?_of_tag? ((hpass.regrouped.tag? hx).trans hnone),
      hpass.regrouped.payload x hx]
  · refine untouched_expandBelow hdoc hpass hx ?_ fun c hc => ?_
    · exact not_mem_unbound_of_outside fun hwalk => hout hwalk.to_reflTransGen
    · refine not_mem_unbound_of_outside fun hwalk => hout ?_
      obtain ⟨p, hwalk, hp⟩ := TransGen.tail'_iff.mp hwalk
      exact hdoc.parent_unique hp hc ▸ hwalk
  · refine untouched_expandBelow hdoc hpass ?_ ?_ fun c hc => ?_
    · exact hdoc.lt_of_walk hlt (hb.to_reflTransGen.trans hx)
    · exact not_mem_unbound_of_binding hdoc hroot hb hbinding hx
    · exact not_mem_unbound_of_binding hdoc hroot hb hbinding (hx.tail hc)
  · have hx : x < doc.size := by
      by_contra hge
      simp [attribute?, attributes, payload?_eq_none (Nat.not_lt.mp hge), Attributes.get?] at hvalue
    exact exposed_of_attribute_changed hnames htargets hpass hx (hfst x hx) hvalue hchanged

/-- **A pass leaves the skeleton of a page alone.** Every node keeps its number, tag or string, and its
    place among its siblings, unless it is a text that is split; what is on the page stays there, and what
    comes to it stands in the place of such a text. Nothing changes outside of the node that the pass is
    below, nor in a binding, and an attribute value only if a token was in it. -/
theorem skeleton_expand {r s : Registry} {found : Findings} (hdoc : doc.Linked) (hroot : doc.Grounded root)
    (hnames : doc.DistinctNames root) (h : doc.expand root r = .ok (after, s, found)) :
    ∃ group, doc.Skeleton after r root group ∧
      (∀ x < doc.size,
        (after.children x).filter (· < doc.size) = (doc.children x).filter fun c => group c = [c]) ∧
      (∀ x, doc.Attached x → (∀ c, group c ≠ [c] → ¬ ReflTransGen doc.Child c x) → after.Attached x) ∧
      (doc.LeafTexts → ∀ x, doc.Attached x → doc.text? x = none → after.Attached x) ∧
      ∀ n, after.Attached n → (n < doc.size ∧ doc.Attached n) ∨
        (doc.size ≤ n ∧ ∃ c, doc.Attached c ∧ group c ≠ [c] ∧ (n ∈ group c ∨
          ∃ b ∈ group c, after.isBinding b = true ∧ after.children b = [n] ∧ after.IsLeafText n)) := by
  obtain ⟨lexicon, hlt, htargets, rfl, _⟩ := expand_eq_ok h
  obtain ⟨group, hskeleton⟩ := exists_skeleton hdoc hroot hlt hnames htargets
  refine ⟨group, hskeleton, fun x hx => hskeleton.survivors hdoc hx, fun x => hskeleton.attached,
    fun hleaf x => hskeleton.attached_of_leafTexts hleaf, fun n hn => ?_⟩
  exact hskeleton.newcomer hdoc (hdoc.expandBelow lexicon root) (Nat.lt_of_le_of_lt (Nat.zero_le root) hlt) hn

/-- A page with a comment, a text and an attribute value with tokens, and a binding with a token in it. -/
def furnished : String :=
  "<!--xAx--><p title='iAi'>xAx<b>?</b>dBd</p><span class='placeholder-value' data-placeholder='A'>xAx</span>"

theorem skeleton_expand_of_furnished :
    ∃ after s found, (parse furnished).expand Document.root pair = .ok (after, s, found) ∧
      ∃ group, (parse furnished).Skeleton after pair Document.root group ∧
        (∀ x, (parse furnished).Attached x → (parse furnished).text? x = none → after.Attached x) ∧
        ∀ n, after.Attached n → (n < (parse furnished).size ∧ (parse furnished).Attached n) ∨
          ((parse furnished).size ≤ n ∧ ∃ c, (parse furnished).Attached c ∧ group c ≠ [c] ∧ (n ∈ group c ∨
            ∃ b ∈ group c, after.isBinding b = true ∧ after.children b = [n] ∧ after.IsLeafText n)) := by
  have hok : ((parse furnished).expand Document.root pair).toOption.isSome = true := by decide +kernel
  have htidy := Tidy.parse furnished
  cases hexpand : (parse furnished).expand Document.root pair with
  | error e =>
      rw [hexpand] at hok
      cases hok
  | ok made =>
      obtain ⟨after, s, found⟩ := made
      obtain ⟨group, hskeleton, _, _, hstays, hcomes⟩ := skeleton_expand (linked_parse furnished)
        ((ordered_parse furnished).grounded Document.root) (fun x _ => htidy.distinct x) hexpand
      exact ⟨after, s, found, rfl, group, hskeleton, hstays htidy.leafTexts, hcomes⟩

end Document

end Placeholders
