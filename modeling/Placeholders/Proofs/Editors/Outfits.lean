import Placeholders.Engine.Editors
import Placeholders.Proofs.Expansion.Made
import Placeholders.Proofs.Markup.Classes
import Placeholders.Proofs.Registry

/-!
# What elements wear

Registering, refreshing and unregistering change the attributes of elements, and no other part of them.

* Each comes to a function of attributes: `Attributes.shown`, `Attributes.dressed`, `Attributes.stripped`.
* Refreshing shows states of placeholders on their bindings, and every element is otherwise as it was
  (`exists_shown_refresh`).
* The functions only touch classes of their own: a binding goes on asking for an editor, whatever it
  wears besides (`keeps_shown`, `keeps_dressed`, `keeps_iconed`).
-/

namespace Placeholders

open Placeholders.Markup Placeholders.Text

namespace Document

/-! ## 1. Elements and their attributes -/

/-- The tag and the attributes of an element. -/
def element? (doc : Document) (x : Nat) : Option (String × Attributes) :=
  match doc.payload? x with
  | some (.element tag attributes) => some (tag, attributes)
  | _ => none

theorem payload?_of_element? {doc : Document} {x : Nat} {tag : String} {own : Attributes}
    (h : doc.element? x = some (tag, own)) : doc.payload? x = some (.element tag own) := by
  unfold element? at h
  split at h
  · rename_i hpayload
    cases h
    exact hpayload
  · cases h

section Element

variable (doc : Document) (x : Nat)

theorem tag?_eq : doc.tag? x = (doc.element? x).map (·.1) := by
  unfold tag? element?
  cases doc.payload? x with
  | none => rfl
  | some payload => cases payload <;> rfl

theorem attributes_eq : doc.attributes x = ((doc.element? x).map (·.2)).getD [] := by
  unfold attributes element?
  cases doc.payload? x with
  | none => rfl
  | some payload => cases payload <;> rfl

theorem isElement_eq : doc.isElement x = (doc.element? x).isSome := by
  rw [isElement, tag?_eq, Option.isSome_map]

end Element

theorem lt_of_isElement {doc : Document} {x : Nat} (h : doc.isElement x = true) : x < doc.size := by
  obtain ⟨tag, htag⟩ := Option.isSome_iff_exists.mp h
  unfold tag? at htag
  split at htag
  · rename_i hpayload
    exact lt_of_payload? hpayload
  · cases htag

/-- An element whose attributes have been changed. -/
def Wears (doc after : Document) (x : Nat) (f : Attributes → Attributes) : Prop :=
  after.element? x = (doc.element? x).map fun own => (own.1, f own.2)

namespace Wears

variable {doc after last : Document} {x : Nat} {f g : Attributes → Attributes}

theorem of_eq (h : after.element? x = doc.element? x) : doc.Wears after x fun own => own := by
  rw [Wears, h]
  exact Option.map_id'.symm

theorem trans (h : doc.Wears after x f) (h' : after.Wears last x g) : doc.Wears last x (g ∘ f) := by
  rw [Wears, h', h, Option.map_map]
  rfl

theorem isElement_eq (h : doc.Wears after x f) : after.isElement x = doc.isElement x := by
  rw [Document.isElement_eq, h, Option.isSome_map, Document.isElement_eq]

theorem tag?_eq (h : doc.Wears after x f) : after.tag? x = doc.tag? x := by
  rw [Document.tag?_eq, h, Document.tag?_eq, Option.map_map]
  rfl

theorem attributes_eq (h : doc.Wears after x f) (hx : doc.isElement x = true) :
    after.attributes x = f (doc.attributes x) := by
  obtain ⟨own, hown⟩ := Option.isSome_iff_exists.mp (doc.isElement_eq x ▸ hx)
  rw [Document.attributes_eq, h, Document.attributes_eq, hown]
  rfl

theorem hasClass (h : doc.Wears after x f) {c : String}
    (hf : ∀ own : Attributes, own.hasClass c = true → (f own).hasClass c = true)
    (hclass : doc.hasClass x c = true) : after.hasClass x c = true := by
  cases hx : doc.isElement x with
  | true =>
      rw [Document.hasClass, h.attributes_eq hx]
      exact hf _ hclass
  | false =>
      have hnone : doc.element? x = none :=
        Option.not_isSome_iff_eq_none.mp (by rw [← Document.isElement_eq, hx]; exact Bool.false_ne_true)
      rw [Document.hasClass, Document.attributes_eq, hnone] at hclass
      cases hclass

end Wears

/-! ## 2. Changing attributes -/

section MapAttributes

variable (doc : Document) (id : Nat)

theorem getElem?_mapAttributes (f : Attributes → Attributes) (x : Nat) :
    (doc.mapAttributes id f).nodes[x]? = if x = id then (doc.nodes[x]?).map fun node =>
      { node with payload := node.payload.mapAttributes f } else doc.nodes[x]? := by
  unfold mapAttributes modify
  rw [Array.getElem?_modify]
  by_cases h : id = x
  · rw [if_pos h, if_pos h.symm]
  · rw [if_neg h, if_neg (Ne.symm h)]

theorem element?_mapAttributes (f : Attributes → Attributes) (x : Nat) :
    (doc.mapAttributes id f).element? x =
      if x = id then (doc.element? x).map (fun own => (own.1, f own.2)) else doc.element? x := by
  unfold element? payload?
  rw [getElem?_mapAttributes]
  by_cases h : x = id
  · rw [if_pos h, if_pos h]
    cases doc.nodes[x]? with
    | none => rfl
    | some node =>
        obtain ⟨payload, parent, children⟩ := node
        cases payload <;> rfl
  · rw [if_neg h, if_neg h]

/-- Changing the attributes of an element changes no other one. -/
theorem wears_mapAttributes (f : Attributes → Attributes) (x : Nat) :
    doc.Wears (doc.mapAttributes id f) x (if x = id then f else fun own => own) := by
  unfold Wears
  rw [element?_mapAttributes]
  split
  · rfl
  · exact Wears.of_eq rfl

theorem mapAttributes_mapAttributes (f g : Attributes → Attributes) :
    (doc.mapAttributes id f).mapAttributes id g = doc.mapAttributes id (g ∘ f) := by
  have hnodes : ((doc.mapAttributes id f).mapAttributes id g).nodes =
      (doc.mapAttributes id (g ∘ f)).nodes := by
    refine Array.ext_getElem? fun x => ?_
    simp only [getElem?_mapAttributes]
    split
    · rw [Option.map_map]
      refine congrArg (Option.map · _) (funext fun node => ?_)
      obtain ⟨payload, parent, children⟩ := node
      cases payload <;> rfl
    · rfl
  exact congrArg (fun nodes => (⟨nodes, doc.sealedTexts, doc.sealedAttributes⟩ : Document)) hnodes

/-- What is done with other attributes than those of the element does not matter. -/
theorem mapAttributes_congr {f g : Attributes → Attributes}
    (h : f (doc.attributes id) = g (doc.attributes id)) :
    doc.mapAttributes id f = doc.mapAttributes id g := by
  have hnodes : (doc.mapAttributes id f).nodes = (doc.mapAttributes id g).nodes := by
    refine Array.ext_getElem? fun x => ?_
    simp only [getElem?_mapAttributes]
    split
    · rename_i hx
      subst hx
      cases hnode : doc.nodes[x]? with
      | none => rfl
      | some node =>
          obtain ⟨payload, parent, children⟩ := node
          cases payload with
          | element tag own =>
              have hown : doc.attributes x = own := by
                simp only [attributes, payload?, hnode, Option.map_some]
              rw [hown] at h
              simp only [Option.map_some, Payload.mapAttributes, h]
          | _ => rfl
    · rfl
  exact congrArg (fun nodes => (⟨nodes, doc.sealedTexts, doc.sealedAttributes⟩ : Document)) hnodes

theorem mapAttributes_id : doc.mapAttributes id (fun attributes => attributes) = doc := by
  have hnodes : (doc.mapAttributes id fun attributes => attributes).nodes = doc.nodes := by
    refine Array.ext_getElem? fun x => ?_
    rw [getElem?_mapAttributes]
    split
    · rcases doc.nodes[x]? with _ | ⟨payload, parent, children⟩
      · rfl
      · cases payload <;> rfl
    · rfl
  exact congrArg (fun nodes => (⟨nodes, doc.sealedTexts, doc.sealedAttributes⟩ : Document)) hnodes

/-- Changing the attributes of an element several times comes to one change. -/
theorem foldl_mapAttributes {α : Type} (f : α → Attributes → Attributes) (steps : List α) :
    steps.foldl (fun doc step => doc.mapAttributes id (f step)) doc =
      doc.mapAttributes id fun attributes =>
        steps.foldl (fun attributes step => f step attributes) attributes := by
  induction steps generalizing doc with
  | nil => exact (doc.mapAttributes_id id).symm
  | cons step rest ih =>
      rw [List.foldl_cons, ih, mapAttributes_mapAttributes]
      rfl

end MapAttributes

/-! ## 3. Setting texts -/

section SetTextContent

variable (doc : Document)

theorem element?_modify_of_eq {f : Node → Node} (hf : ∀ n, (f n).payload = n.payload) (i x : Nat) :
    (doc.modify i f).element? x = doc.element? x := by
  unfold element?
  rw [payload?_modify_of_eq hf]

theorem element?_setText (i : Nat) (content : String) (x : Nat) :
    (doc.setText i content).element? x = doc.element? x := by
  unfold element? payload? setText modify
  rw [Array.getElem?_modify]
  by_cases h : i = x
  · rw [if_pos h]
    cases doc.nodes[x]? with
    | none => rfl
    | some node =>
        obtain ⟨payload, parent, children⟩ := node
        cases payload <;> rfl
  · rw [if_neg h]

theorem element?_clearChildren (i x : Nat) : (doc.clearChildren i).element? x = doc.element? x := by
  have hchildren : ∀ (cs : List Nat) (doc : Document), (cs.foldl
      (fun doc child => doc.modify child fun node => { node with parent := none }) doc).element? x =
        doc.element? x := by
    intro cs
    induction cs with
    | nil => exact fun _ => rfl
    | cons c cs ih =>
        refine fun doc => (ih _).trans ?_
        exact doc.element?_modify_of_eq (by exact fun _ => rfl) c x
  refine (hchildren _ _).trans ?_
  exact doc.element?_modify_of_eq (by exact fun _ => rfl) i x

theorem element?_appendText (i : Nat) (content : String) (x : Nat) :
    (doc.appendNew i (.text content)).element? x = doc.element? x := by
  unfold element?
  rw [payload?_appendNew]
  by_cases hx : x = doc.size
  · rw [if_pos hx, hx, payload?_eq_none (Nat.le_refl _)]
  · rw [if_neg hx]

/-- **Setting a text changes no element.** -/
theorem element?_setTextContent (i : Nat) (content : String) (x : Nat) :
    (doc.setTextContent i content).element? x = doc.element? x := by
  unfold setTextContent
  split
  · exact doc.element?_setText i content x
  · dsimp only
    split
    · exact doc.element?_clearChildren i x
    · exact ((doc.clearChildren i).element?_appendText i content x).trans
        (doc.element?_clearChildren i x)

end SetTextContent

end Document

/-! ## 4. Functions of attributes -/

namespace Markup.Attributes

/-- Without the classes that show a status. -/
def unmarked (attributes : Attributes) : Attributes :=
  Binding.statusClasses.foldl removeClass attributes

/-- With a status and what is to be said about it. -/
def judged (attributes : Attributes) (verdict : Validation.Verdict) : Attributes :=
  (attributes.unmarked.addClass (Binding.statusClass verdict.status)).set "title" verdict.message

/-- With the state of a box. -/
def flagged (attributes : Attributes) (checked : Bool) : Attributes :=
  if checked then (attributes.addClass Binding.checkedClass).removeClass Binding.uncheckedClass
  else (attributes.addClass Binding.uncheckedClass).removeClass Binding.checkedClass

/-- With the state of a placeholder, if these are the attributes of an editor for it. -/
def shown (attributes : Attributes) (p : Placeholder) : Attributes :=
  match p.kind with
  | .textbox _ =>
    if attributes.hasClass Binding.textboxClass then attributes.judged (p.evaluate p.currentValue)
    else attributes
  | .checkbox box =>
    if attributes.hasClass Binding.checkboxClass then attributes.flagged box.isChecked else attributes
  | .dropdown _ => attributes

/-- The attributes of an editor of a kind that shows no state yet. -/
def clad (attributes : Attributes) (kind : EditorKind) : Attributes :=
  let attributes := ((attributes.addClass Binding.editorClass).addClass kind.styleClass).set
    "tabindex" "0"
  if kind = .textbox then attributes.set "contenteditable" "true" else attributes

/-- The attributes of an editor. -/
def dressed (attributes : Attributes) (p : Placeholder) : Attributes :=
  (attributes.clad (.ofKind p.kind)).shown p

/-- Without what makes an editor. -/
def stripped (attributes : Attributes) : Attributes :=
  Hub.editorAttributes.foldl remove (Hub.editorClasses.foldl removeClass attributes)

/-- With or without icons. -/
def iconed (attributes : Attributes) (icons : Bool) : Attributes :=
  if icons then (attributes.addClass Hub.iconsClass).removeClass Hub.simpleClass
  else (attributes.addClass Hub.simpleClass).removeClass Hub.iconsClass

end Markup.Attributes

namespace Document

variable (doc : Document) (id : Nat)

theorem showVerdict_eq (verdict : Validation.Verdict) :
    doc.showVerdict id verdict = doc.mapAttributes id (·.judged verdict) := by
  have hunmarked : Binding.statusClasses.foldl (fun (doc : Document) name => doc.removeClass id name) doc =
      doc.mapAttributes id (·.unmarked) :=
    foldl_mapAttributes doc id (fun name attributes => attributes.removeClass name) Binding.statusClasses
  unfold showVerdict setAttribute addClass
  rw [hunmarked, mapAttributes_mapAttributes, mapAttributes_mapAttributes]
  rfl

theorem showChecked_eq (checked : Bool) :
    doc.showChecked id checked = doc.mapAttributes id (·.flagged checked) := by
  unfold showChecked addClass removeClass
  cases checked <;> exact mapAttributes_mapAttributes doc id _ _

/-- What an element is not an editor for is not shown on it. -/
theorem eq_mapAttributes_of_eq {f : Attributes → Attributes}
    (h : f (doc.attributes id) = doc.attributes id) : doc = doc.mapAttributes id f := by
  rw [mapAttributes_congr doc id (f := f) (g := fun attributes => attributes) h, mapAttributes_id]

theorem showState_eq (p : Placeholder) : doc.showState id p = doc.mapAttributes id (·.shown p) := by
  unfold showState hasClass
  split
  · rename_i hkind
    split
    · rename_i hclass
      rw [showVerdict_eq]
      exact mapAttributes_congr doc id (by simp only [Attributes.shown, hkind, hclass, if_true])
    · rename_i hclass
      exact doc.eq_mapAttributes_of_eq id (by simp only [Attributes.shown, hkind, if_neg hclass])
  · rename_i hkind
    split
    · rename_i hclass
      rw [showChecked_eq]
      exact mapAttributes_congr doc id (by simp only [Attributes.shown, hkind, hclass, if_true])
    · rename_i hclass
      exact doc.eq_mapAttributes_of_eq id (by simp only [Attributes.shown, hkind, if_neg hclass])
  · rename_i hkind
    exact doc.eq_mapAttributes_of_eq id (by simp only [Attributes.shown, hkind])

end Document

namespace Hub

open Document

variable (doc : Document) (id : Nat)

theorem dress_eq (p : Placeholder) : dress doc id p = doc.mapAttributes id (·.dressed p) := by
  unfold dress setAttribute addClass
  dsimp only
  split
  · rename_i hkind
    simp only [showState_eq, mapAttributes_mapAttributes]
    refine mapAttributes_congr doc id ?_
    simp only [Function.comp, Attributes.dressed, Attributes.clad, hkind, if_true]
  · rename_i hkind
    simp only [showState_eq, mapAttributes_mapAttributes]
    refine mapAttributes_congr doc id ?_
    simp only [Function.comp, Attributes.dressed, Attributes.clad, if_neg hkind]

theorem strip_eq : strip doc id = doc.mapAttributes id (·.stripped) := by
  unfold strip
  have hclasses := foldl_mapAttributes doc id (fun name attributes => attributes.removeClass name)
    editorClasses
  have hattributes := fun other : Document =>
    foldl_mapAttributes other id (fun name attributes => attributes.remove name) editorAttributes
  change editorAttributes.foldl (fun (doc : Document) name => doc.mapAttributes id (·.remove name))
    (editorClasses.foldl (fun (doc : Document) name => doc.mapAttributes id (·.removeClass name)) doc) = _
  rw [hclasses, hattributes, mapAttributes_mapAttributes]
  rfl

/-- **Marking the body of a page changes no other element.** -/
theorem wears_styleBody (icons : Bool) (x : Nat) : ∃ f, doc.Wears (styleBody doc icons) x f ∧
    (f = (fun own => own) ∨ doc.tag? x = some "body" ∧ f = (·.iconed icons)) := by
  unfold styleBody
  split
  · exact ⟨_, .of_eq rfl, .inl rfl⟩
  · rename_i body hbody
    have htag : doc.tag? body = some "body" := by simpa using List.find?_some hbody
    have heq : (if icons then (doc.addClass body iconsClass).removeClass body simpleClass
        else (doc.addClass body simpleClass).removeClass body iconsClass) =
          doc.mapAttributes body (·.iconed icons) := by
      unfold addClass removeClass
      cases icons <;> exact mapAttributes_mapAttributes doc body _ _
    rw [heq]
    refine ⟨_, doc.wears_mapAttributes body _ x, ?_⟩
    by_cases hx : x = body
    · rw [if_pos hx]
      exact .inr ⟨hx ▸ htag, rfl⟩
    · exact .inl (if_neg hx)

end Hub

/-! ## 5. Refreshing -/

namespace Document

variable (doc : Document)

theorem wears_refreshElement (p : Placeholder) (i x : Nat) :
    doc.Wears (doc.refreshElement p i) x (if x = i then (·.shown p) else fun own => own) := by
  have hshown := wears_mapAttributes (doc.setTextContent i p.expandedValue) i (·.shown p) x
  rw [Wears, element?_setTextContent] at hshown
  rw [Wears, refreshElement, showState_eq]
  exact hshown

/-- A state is shown on a binding as often as it is listed. -/
theorem wears_foldl_refreshElement (p : Placeholder) (ids : List Nat) (x : Nat) :
    doc.Wears (ids.foldl (refreshElement p) doc) x
      fun own => (List.replicate (ids.count x) p).foldl Attributes.shown own := by
  induction ids generalizing doc with
  | nil => exact Wears.of_eq rfl
  | cons i rest ih =>
      have hboth := (doc.wears_refreshElement p i x).trans (ih (doc.refreshElement p i))
      by_cases hx : x = i
      · subst hx
        rw [if_pos rfl] at hboth
        rw [List.count_cons_self]
        exact hboth
      · rw [if_neg hx] at hboth
        rw [List.count_cons_of_ne (Ne.symm hx)]
        exact hboth

/-- **Refreshing shows the states of the placeholders on their bindings**, one after the other. -/
theorem exists_shown_refresh (bindings : Bindings) {r : Registry} {names : List String}
    (hknown : ∀ name ∈ names, name ∈ r.names) (x : Nat) :
    ∃ ps : List Placeholder,
      doc.Wears (doc.refresh bindings r names).2 x (fun own => ps.foldl Attributes.shown own) ∧
        ∀ p, p ∈ ps ↔ ∃ name ∈ names, r.get? name = some p ∧ x ∈ bindings.elements name := by
  induction names generalizing doc with
  | nil => exact ⟨[], Wears.of_eq rfl, by simp⟩
  | cons name rest ih =>
      obtain ⟨hname, hrest⟩ := List.forall_mem_cons.mp hknown
      obtain ⟨p, hp⟩ := Option.isSome_iff_exists.mp (Registry.contains_iff.mpr hname)
      have hfirst := doc.wears_foldl_refreshElement p (bindings.elements name) x
      obtain ⟨ps, hwears, hmem⟩ := ih ((bindings.elements name).foldl (refreshElement p) doc) hrest
      refine ⟨List.replicate ((bindings.elements name).count x) p ++ ps, ?_, fun q => ?_⟩
      · rw [refresh, hp]
        simp only [List.foldl_append]
        exact hfirst.trans hwears
      · rw [List.mem_append, hmem, List.mem_replicate, ← Nat.pos_iff_ne_zero, List.count_pos_iff]
        constructor
        · rintro (⟨hx, rfl⟩ | ⟨other, hother, hq⟩)
          · exact ⟨name, List.mem_cons_self, hp, hx⟩
          · exact ⟨other, List.mem_cons_of_mem name hother, hq⟩
        · rintro ⟨other, hother, hq, hx⟩
          rcases List.mem_cons.mp hother with rfl | hother
          · exact .inl ⟨hx, Option.some.inj (hq.symm.trans hp)⟩
          · exact .inr ⟨other, hother, hq, hx⟩

end Document

/-! ## 6. Classes that are kept -/

/-- The classes that show a state. -/
def Binding.stateClasses : List String :=
  Binding.statusClasses ++ [Binding.checkedClass, Binding.uncheckedClass]

/-- The classes that come and go while there are editors on a page. -/
def Hub.passingClasses : List String :=
  Binding.stateClasses ++ [Hub.iconsClass, Hub.simpleClass]

theorem EditorKind.solid_styleClass (kind : EditorKind) : Solid kind.styleClass.toList := by
  cases kind <;> decide

theorem EditorKind.styleClass_not_passing (kind : EditorKind) :
    kind.styleClass ∉ Hub.passingClasses := by
  cases kind <;> decide

namespace Markup.Attributes

variable {own : Attributes} {c : String}

theorem hasClass_foldl_removeClass (names : List String) (own : Attributes) (c : String) :
    (names.foldl removeClass own).hasClass c = (own.hasClass c && !names.contains c) := by
  induction names generalizing own with
  | nil => simp
  | cons name rest ih =>
      rw [List.foldl_cons, ih, hasClass_removeClass, List.contains_cons, Bool.not_or, Bool.and_assoc]
      rfl

section Kept

variable (hsolid : Solid c.toList) (h : own.hasClass c = true)

include hsolid h

/-- **A state is shown by classes of its own.** -/
theorem hasClass_shown (hc : c ∉ Binding.stateClasses) (p : Placeholder) :
    (own.shown p).hasClass c = true := by
  have hstatus : c ∉ Binding.statusClasses := fun hmem => hc (List.mem_append_left _ hmem)
  have hchecked : c ≠ Binding.checkedClass := fun heq => hc (by rw [heq]; decide)
  have hunchecked : c ≠ Binding.uncheckedClass := fun heq => hc (by rw [heq]; decide)
  unfold shown
  split
  · split
    · have hleft : own.unmarked.hasClass c = true := by
        rw [unmarked, hasClass_foldl_removeClass, h]
        simpa using hstatus
      rw [judged, hasClass_set _ (by decide)]
      refine hasClass_addClass_of_hasClass _ ?_ hsolid hleft
      cases (p.evaluate p.currentValue).status <;> decide
    · exact h
  · split
    · unfold flagged
      split
      · rw [hasClass_removeClass, hasClass_addClass_of_hasClass _ (by decide) hsolid h]
        simpa using hunchecked
      · rw [hasClass_removeClass, hasClass_addClass_of_hasClass _ (by decide) hsolid h]
        simpa using hchecked
    · exact h
  · exact h

theorem hasClass_clad (kind : EditorKind) : (own.clad kind).hasClass c = true := by
  have hadded : (((own.addClass Binding.editorClass).addClass kind.styleClass).set
      "tabindex" "0").hasClass c = true := by
    rw [hasClass_set _ (by decide)]
    refine hasClass_addClass_of_hasClass _ kind.solid_styleClass hsolid ?_
    exact hasClass_addClass_of_hasClass _ (by decide) hsolid h
  unfold clad
  dsimp only
  split
  · rwa [hasClass_set _ (by decide)]
  · exact hadded

end Kept

/-- A function of attributes takes no class away but those that come and go with editors. -/
def Keeps (f : Attributes → Attributes) : Prop :=
  ∀ (own : Attributes) (c : String), Solid c.toList → c ∉ Hub.passingClasses →
    own.hasClass c = true → (f own).hasClass c = true

theorem keeps_self : Keeps fun own => own := fun _ _ _ _ h => h

theorem Keeps.comp {f g : Attributes → Attributes} (hg : Keeps g) (hf : Keeps f) : Keeps (g ∘ f) :=
  fun own c hsolid hc h => hg (f own) c hsolid hc (hf own c hsolid hc h)

theorem Keeps.foldl {f : Attributes → Placeholder → Attributes} (hf : ∀ p, Keeps (f · p))
    (ps : List Placeholder) : Keeps fun own => ps.foldl f own := by
  induction ps with
  | nil => exact keeps_self
  | cons p rest ih => exact ih.comp (hf p)

theorem keeps_shown (p : Placeholder) : Keeps (·.shown p) := fun _ _ hsolid hc h =>
  hasClass_shown hsolid h (fun hmem => hc (List.mem_append_left _ hmem)) p

/-- **An editor has the classes of the binding that it was.** -/
theorem keeps_dressed (p : Placeholder) : Keeps (·.dressed p) := fun _ _ hsolid hc h =>
  hasClass_shown hsolid (hasClass_clad hsolid h _) (fun hmem => hc (List.mem_append_left _ hmem)) p

theorem keeps_iconed (icons : Bool) : Keeps (·.iconed icons) := by
  intro own c hsolid hc h
  have hicons : c ≠ Hub.iconsClass := fun heq => hc (by rw [heq]; decide)
  have hsimple : c ≠ Hub.simpleClass := fun heq => hc (by rw [heq]; decide)
  unfold iconed
  split
  · rw [hasClass_removeClass, hasClass_addClass_of_hasClass _ (by decide) hsolid h]
    simpa using hsimple
  · rw [hasClass_removeClass, hasClass_addClass_of_hasClass _ (by decide) hsolid h]
    simpa using hicons

theorem hasClass_editor_clad (own : Attributes) (kind : EditorKind) :
    (own.clad kind).hasClass Binding.editorClass = true ∧
      (own.clad kind).hasClass kind.styleClass = true := by
  have hstyle := kind.solid_styleClass
  have hadded : ∀ c, ((own.addClass Binding.editorClass).addClass kind.styleClass).hasClass c = true →
      (own.clad kind).hasClass c = true := by
    intro c hc
    have hset : (((own.addClass Binding.editorClass).addClass kind.styleClass).set
        "tabindex" "0").hasClass c = true := by
      rwa [hasClass_set _ (by decide)]
    unfold clad
    dsimp only
    split
    · rwa [hasClass_set _ (by decide)]
    · exact hset
  refine ⟨hadded _ ?_, hadded _ (hasClass_addClass_self _ hstyle.isWord)⟩
  exact hasClass_addClass_of_hasClass _ hstyle (by decide) (hasClass_addClass_self _ (by decide))

/-- **An editor has the classes of an editor of its kind.** -/
theorem hasClass_editor_dressed (own : Attributes) (p : Placeholder) :
    (own.dressed p).hasClass Binding.editorClass = true ∧
      (own.dressed p).hasClass (EditorKind.ofKind p.kind).styleClass = true := by
  obtain ⟨hany, hstyle⟩ := hasClass_editor_clad own (.ofKind p.kind)
  refine ⟨hasClass_shown (by decide) hany (by decide) p,
    hasClass_shown (EditorKind.solid_styleClass _) hstyle (fun hmem => ?_) p⟩
  exact EditorKind.styleClass_not_passing _ (List.mem_append_left _ hmem)

/-- **An element that has been made an editor has the classes of one**, however often that was. -/
theorem hasClass_foldl_dressed {p : Placeholder} {ps : List Placeholder} (hp : p ∈ ps)
    (own : Attributes) :
    (ps.foldl dressed own).hasClass Binding.editorClass = true ∧
      (ps.foldl dressed own).hasClass (EditorKind.ofKind p.kind).styleClass = true := by
  obtain ⟨before, after, rfl⟩ := List.append_of_mem hp
  have hkeeps := Keeps.foldl keeps_dressed after
  obtain ⟨hany, hstyle⟩ := hasClass_editor_dressed (before.foldl dressed own) p
  rw [List.foldl_append, List.foldl_cons]
  refine ⟨hkeeps _ _ (by decide) (by decide) hany, hkeeps _ _ ?_ ?_ hstyle⟩
  · exact EditorKind.solid_styleClass _
  · exact EditorKind.styleClass_not_passing _

end Markup.Attributes

end Placeholders
