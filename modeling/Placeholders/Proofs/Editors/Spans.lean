import Placeholders.Proofs.Editors.Garments
import Placeholders.Proofs.Expansion.Tables

/-!
# Elements that name a placeholder

What becomes of the elements that name a placeholder, where all of them are bindings.

* Expansion adds no elements but bindings (`enlarged_expandTexts`), and it leaves the attributes of
  bindings alone. All elements that name a placeholder therefore stay spans with at most an outfit over
  what expansion has made of them (`Spanned.expandBelow`), and changing an outfit leaves them so, too
  (`Spanned.wears`).
* Neither other attributes nor another text of an element make a walk down a page come back to where it
  has been (`Steady.mapAttributes`, `Steady.refresh`), so that the page can be expanded once more.
-/

namespace Placeholders

open Placeholders.Markup Placeholders.Text

namespace Document

variable {doc after last : Document} {root : Nat}

/-! ## 1. New elements -/

/-- No elements have been added but bindings. -/
structure Enlarged (doc after : Document) : Prop where
  size_le : doc.size ≤ after.size
  elements : ∀ x, after.element? x = doc.element? x ∨
    doc.size ≤ x ∧ ∃ name editor, after.element? x = some ("span", bindingAttributes name editor)

theorem element?_congr {x : Nat} (h : after.payload? x = doc.payload? x) :
    after.element? x = doc.element? x := by
  simp only [element?, h]

theorem Enlarged.of_payload? (hsize : after.size = doc.size) (h : ∀ x, after.payload? x = doc.payload? x) :
    doc.Enlarged after :=
  ⟨hsize.ge, fun x => .inl (element?_congr (h x))⟩

theorem Enlarged.trans (h : doc.Enlarged after) (h' : after.Enlarged last) : doc.Enlarged last := by
  refine ⟨Nat.le_trans h.size_le h'.size_le, fun x => ?_⟩
  rcases h'.elements x with heq | ⟨hx, hspan⟩
  · rw [heq]
    exact h.elements x
  · exact .inr ⟨Nat.le_trans h.size_le hx, hspan⟩

theorem enlarged_createText (doc : Document) (content : String) :
    doc.Enlarged (doc.create (.text content)).1 := by
  refine ⟨by simp, fun x => .inl ?_⟩
  simp only [element?, payload?_create]
  by_cases hx : x = doc.size
  · rw [if_pos hx, hx, payload?_eq_none (Nat.le_refl _)]
  · rw [if_neg hx]

theorem enlarged_createSpan (doc : Document) (name : String) (editor : Bool) :
    doc.Enlarged (doc.create (.element "span" (bindingAttributes name editor))).1 := by
  refine ⟨by simp, fun x => ?_⟩
  by_cases hx : x = doc.size
  · refine .inr ⟨hx.ge, name, editor, ?_⟩
    simp only [element?, payload?_create, if_pos hx]
  · exact .inl (element?_congr (by rw [payload?_create, if_neg hx]))

theorem enlarged_createPart (doc : Document) (part : Part) : doc.Enlarged (doc.createPart part).1 := by
  cases part with
  | plain text => exact doc.enlarged_createText _
  | value text => exact (doc.enlarged_createText text).trans (.of_payload? rfl fun _ => rfl)
  | binding t editor =>
      have hspan := doc.enlarged_createSpan t.name editor
      by_cases hempty : t.value.isEmpty = true
      · simp only [createPart, if_pos hempty]
        exact hspan
      · simp only [createPart, if_neg hempty]
        refine hspan.trans ⟨by simp, fun x => .inl ?_⟩
        exact element?_appendText _ _ _ x

theorem enlarged_insertPart (doc : Document) (reference : Nat) (part : Part) :
    doc.Enlarged (doc.insertPart reference part) := by
  have hmade := doc.enlarged_createPart part
  unfold insertPart
  dsimp only
  cases hparent : (doc.createPart part).1.parent? reference with
  | none =>
      have hnone : (doc.createPart part).1.insertBefore? reference (doc.createPart part).2 = none := by
        simp [insertBefore?, hparent]
      rw [hnone]
      exact hmade
  | some p =>
      rw [insertBefore?_eq hparent]
      exact hmade.trans (.of_payload? (by simp) fun x => by simp)

theorem enlarged_expandUnsealed (doc : Document) (lexicon : Lexicon Target) (id : Nat) :
    doc.Enlarged (doc.expandUnsealed lexicon id).1 := by
  have hparts : ∀ (parts : List Part) (doc : Document), doc.Enlarged (doc.insertParts id parts) := by
    intro parts
    induction parts with
    | nil => exact fun _ => .of_payload? rfl fun _ => rfl
    | cons part rest ih => exact fun doc => (doc.enlarged_insertPart id part).trans (ih _)
  unfold expandUnsealed
  split
  · exact .of_payload? rfl fun _ => rfl
  · rw [expandText_eq]
    split
    · exact .of_payload? rfl fun _ => rfl
    · exact (hparts (doc.partsAt lexicon id) doc).trans (.of_payload? (by simp) fun x => by simp)

/-- **A pass through texts adds no elements but bindings.** -/
theorem enlarged_expandTexts (doc : Document) (lexicon : Lexicon Target) (ids : List Nat) :
    doc.Enlarged (doc.expandTexts lexicon ids).1 := by
  induction ids generalizing doc with
  | nil => exact .of_payload? rfl fun _ => rfl
  | cons id rest ih =>
      rw [expandTexts_cons]
      exact (doc.enlarged_expandUnsealed lexicon id).trans (ih _)

/-! ## 2. Spans -/

end Document

/-- What expansion makes of a token is a binding without an outfit. -/
theorem exists_garment_bindingAttributes (name : String) (editor : Bool) :
    ∃ base, Binding.valueClass ∈ base ∧
      Attributes.Garment base name none (Document.bindingAttributes name editor) := by
  refine ⟨if editor then [Binding.valueClass, Binding.requestClass] else [Binding.valueClass], ?_, ?_⟩
  · cases editor <;> decide
  · have hlist : Attributes.listing [Binding.valueClass, Binding.requestClass] =
        s!"{Binding.valueClass} {Binding.requestClass}" := by decide +kernel
    have hplain : Document.bindingAttributes name editor = Attributes.plain (if editor then
        [Binding.valueClass, Binding.requestClass] else [Binding.valueClass]) name none := by
      cases editor with
      | true => exact congrArg (fun value => [(Attributes.classAttribute, value), _]) hlist.symm
      | false => rfl
    refine ⟨⟨_, [], hplain, ?_, fun _ hentry => absurd hentry List.not_mem_nil⟩, fun _ => hplain⟩
    cases editor <;> refine ⟨?_, ?_, ?_, ?_⟩ <;> decide

/-- Every element that names a placeholder is a span that expansion has made, with an outfit if it is an
    editor. -/
def Document.Spanned (doc : Document) : Prop :=
  ∀ x name, doc.attribute? x Binding.nameAttribute = some name → doc.tag? x = some "span" ∧
    ∃ base flag, Binding.valueClass ∈ base ∧ Attributes.Garment base name flag (doc.attributes x)

/-! ## 3. Outfits that change -/

namespace Markup.Attributes

/-- A function of attributes changes neither what placeholder an element names nor, on a span, more of a
    binding than its outfit and the state of a box. -/
structure Fits (tag : Option String) (f : Attributes → Attributes) : Prop where
  name : ∀ own : Attributes, (f own).get? Binding.nameAttribute = own.get? Binding.nameAttribute
  spans : tag = some "span" → ∀ (base : List String) (name : String) (flag : Option Bool)
    (own : Attributes), Garment base name flag own → ∃ flag', Garment base name flag' (f own)

namespace Fits

variable {tag : Option String}

theorem self : Fits tag fun own => own := ⟨fun _ => rfl, fun _ _ _ flag _ h => ⟨flag, h⟩⟩

theorem comp {f g : Attributes → Attributes} (hg : Fits tag g) (hf : Fits tag f) :
    Fits tag (g ∘ f) := by
  refine ⟨fun own => (hg.name _).trans (hf.name own), fun htag base name flag own h => ?_⟩
  obtain ⟨_, hfirst⟩ := hf.spans htag base name flag own h
  exact hg.spans htag base name _ _ hfirst

theorem foldl {f : Attributes → Placeholder → Attributes} (hf : ∀ p, Fits tag (f · p))
    (ps : List Placeholder) : Fits tag fun own => ps.foldl f own := by
  induction ps with
  | nil => exact self
  | cons p rest ih => exact ih.comp (hf p)

theorem iterate {f : Attributes → Attributes} (hf : Fits tag f) (n : Nat) : Fits tag f^[n] := by
  induction n with
  | zero => exact self
  | succ n ih => exact ih.comp hf

end Fits

section Name

variable {key : String}

theorem get?_eq_none_iff {own : Attributes} :
    own.get? key = none ↔ key ∉ own.map (·.1) := by
  induction own with
  | nil => simp [get?]
  | cons entry rest ih =>
      rw [get?, List.map_cons, List.mem_cons, not_or, ← ih]
      split
      · rename_i heq
        exact iff_of_false (fun h => by cases h) fun h => h.1 heq.symm
      · rename_i hne
        exact (and_iff_right (Ne.symm hne)).symm

theorem get?_addClass (hkey : classAttribute ≠ key) (own : Attributes) (c : String) :
    (own.addClass c).get? key = own.get? key := by
  unfold addClass
  split
  · rfl
  · exact (get?_set _ _ _ _).trans (if_neg hkey)

theorem get?_removeClass (hkey : classAttribute ≠ key) (own : Attributes) (c : String) :
    (own.removeClass c).get? key = own.get? key := by
  unfold removeClass
  split
  · rfl
  · dsimp only
    split
    · exact (get?_remove _ _ _).trans (if_neg hkey)
    · exact (get?_set _ _ _ _).trans (if_neg hkey)

theorem get?_foldl_removeClass (hkey : classAttribute ≠ key) (own : Attributes) (cs : List String) :
    (cs.foldl removeClass own).get? key = own.get? key := by
  induction cs generalizing own with
  | nil => rfl
  | cons c rest ih => rw [List.foldl_cons, ih, get?_removeClass hkey]

end Name

variable (tag : Option String)

theorem class_ne_name : classAttribute ≠ Binding.nameAttribute := by decide

theorem title_ne_name : "title" ≠ Binding.nameAttribute := by decide

theorem fits_shown (p : Placeholder) : Fits tag (·.shown p) := by
  refine ⟨fun own => ?_, fun _ base name flag own h => h.exists_shown p⟩
  unfold shown
  split
  · split
    · rw [judged, get?_set, if_neg title_ne_name, get?_addClass class_ne_name, unmarked,
        get?_foldl_removeClass class_ne_name]
    · rfl
  · split
    · unfold flagged
      split <;> rw [get?_removeClass class_ne_name, get?_addClass class_ne_name]
    · rfl
  · rfl

theorem fits_dressed (p : Placeholder) : Fits tag (·.dressed p) := by
  refine ⟨fun own => ?_, fun _ base name flag own h => ⟨_, h.dressed p⟩⟩
  have htabindex : "tabindex" ≠ Binding.nameAttribute := by decide
  have heditable : "contenteditable" ≠ Binding.nameAttribute := by decide
  refine ((fits_shown tag p).name _).trans ?_
  unfold clad
  dsimp only
  split
  · rw [get?_set, if_neg heditable, get?_set, if_neg htabindex, get?_addClass class_ne_name,
      get?_addClass class_ne_name]
  · rw [get?_set, if_neg htabindex, get?_addClass class_ne_name, get?_addClass class_ne_name]

theorem fits_stripped : Fits tag stripped := by
  refine ⟨fun own => ?_, fun _ base name flag own h => ⟨flag, h.stripped⟩⟩
  have hremoved : ∀ (keys : List String) (own : Attributes), Binding.nameAttribute ∉ keys →
      (keys.foldl remove own).get? Binding.nameAttribute = own.get? Binding.nameAttribute := by
    intro keys
    induction keys with
    | nil => exact fun _ _ => rfl
    | cons key rest ih =>
        intro own hkeys
        obtain ⟨hkey, hrest⟩ := not_or.mp (mt List.mem_cons.mpr hkeys)
        rw [List.foldl_cons, ih _ hrest, get?_remove, if_neg (Ne.symm hkey)]
  rw [stripped, hremoved _ _ (by decide), get?_foldl_removeClass class_ne_name]

/-- Bodies are no spans. -/
theorem fits_iconed (icons : Bool) : Fits (some "body") (·.iconed icons) := by
  refine ⟨fun own => ?_, fun htag => absurd htag (by decide)⟩
  unfold iconed
  split <;> rw [get?_removeClass class_ne_name, get?_addClass class_ne_name]

/-- What is under an outfit is a binding of the name. -/
theorem Over.binds {base : List String} {name : String} {flag : Option Bool} {own : Attributes}
    (h : Over base name flag own) (hvalue : Binding.valueClass ∈ base) :
    own.hasClass Binding.valueClass = true ∧ own.get? Binding.nameAttribute = some name := by
  obtain ⟨names, extras, rfl, hfit, _⟩ := h
  refine ⟨?_, ?_⟩
  · rw [hasClass_listing hfit.solid]
    have hunder : Binding.valueClass ∈ names.filter isLasting := by
      rw [hfit.under]
      exact List.mem_append_left _ hvalue
    exact List.contains_iff_mem.mpr (List.mem_filter.mp hunder).1
  · simp only [get?, if_neg class_ne_name, if_true]

end Markup.Attributes

namespace Document

variable {doc after : Document} {root : Nat}

/-- **Changing outfits leaves all elements that name a placeholder spans.** -/
theorem Spanned.wears (h : doc.Spanned)
    (hwears : ∀ x, ∃ f, doc.Wears after x f ∧ Attributes.Fits (doc.tag? x) f) : after.Spanned := by
  intro x name hname
  obtain ⟨f, hf, hfits⟩ := hwears x
  have helement : doc.isElement x = true := hf.isElement_eq ▸ isElement_of_attribute? hname
  rw [attribute?, hf.attributes_eq helement, hfits.name] at hname
  obtain ⟨htag, base, flag, hvalue, hover⟩ := h x name hname
  obtain ⟨flag', hover'⟩ := hfits.spans htag base name flag _ hover
  rw [hf.tag?_eq, hf.attributes_eq helement]
  exact ⟨htag, base, flag', hvalue, hover'⟩

theorem Spanned.isBinding (h : doc.Spanned) {x : Nat} {name : String}
    (hname : doc.attribute? x Binding.nameAttribute = some name) : doc.isBinding x = true := by
  obtain ⟨_, base, flag, hvalue, hover⟩ := h x name hname
  rw [Document.isBinding, hname, Document.hasClass, (hover.outfit.binds hvalue).1]
  rfl

/-- A pass through texts leaves all elements that name a placeholder spans. -/
theorem Spanned.enlarged (h : doc.Spanned) (hafter : doc.Enlarged after) : after.Spanned := by
  intro x name hname
  rw [tag?_eq]
  rw [attribute?] at hname
  rw [attributes_eq] at hname ⊢
  rcases hafter.elements x with heq | ⟨_, other, editor, hspan⟩
  · rw [heq] at hname ⊢
    rw [← attributes_eq] at hname ⊢
    rw [← tag?_eq]
    exact h x name hname
  · rw [hspan] at hname ⊢
    obtain ⟨base, hvalue, hover⟩ := exists_garment_bindingAttributes other editor
    obtain rfl := Option.some.inj ((hover.outfit.binds hvalue).2.symm.trans hname)
    exact ⟨rfl, base, none, hvalue, hover⟩

/-- **Expansion leaves all elements that name a placeholder spans.** What it writes into attributes, it
    writes into those of elements that are no bindings. -/
theorem Spanned.expandBelow (h : doc.Spanned) (hdoc : doc.Linked) (lexicon : Lexicon Target)
    (root : Nat) : (doc.expandBelow lexicon root).1.Spanned := by
  have hlarger := doc.enlarged_expandTexts lexicon (doc.unboundTexts root)
  have hmiddle := h.enlarged hlarger
  rw [expandBelow_eq]
  dsimp only
  generalize (doc.expandTexts lexicon (doc.unboundTexts root)).1 = middle at hlarger hmiddle ⊢
  have hattributed := middle.attributed_expandAttributes (Lexicon.markup lexicon)
    (doc.unboundValues middle root)
  intro x name hname
  by_cases hx : x ∈ doc.unbound root
  · -- an element that the pass looks at is no binding, and it gets no name
    have hnone : middle.attribute? x Binding.nameAttribute = none := by
      refine Option.eq_none_iff_forall_ne_some.mpr fun own hown => ?_
      have hsame := (hlarger.elements x).resolve_right fun hnew =>
        absurd (mem_unbound_lt hdoc hx) (Nat.not_lt.mpr hnew.1)
      have hattributes : middle.attributes x = doc.attributes x := by
        rw [attributes_eq, hsame, ← attributes_eq]
      have hbinding := hmiddle.isBinding hown
      rw [isBinding_congr hattributes] at hbinding
      have hlooked := (exposed_of_mem_unboundTo hx).2
      rw [isLookedAt, text?_eq_none_of_isBinding hbinding, hbinding] at hlooked
      cases hlooked
    have hkeys : ((middle.expandAttributes (Lexicon.markup lexicon)
        (doc.unboundValues middle root)).1.attributes x).map (·.1) = (middle.attributes x).map (·.1) :=
      map_fst_expandAttributes _
        (fun entry hentry => List.mem_map_of_mem (mem_unboundValues.mp hentry).2) x
    have hlast := Attributes.get?_eq_none_iff.mpr (hkeys ▸ Attributes.get?_eq_none_iff.mp hnone)
    rw [attribute?, hlast] at hname
    cases hname
  · have hattributes : (middle.expandAttributes (Lexicon.markup lexicon)
        (doc.unboundValues middle root)).1.attributes x = middle.attributes x :=
      attributes_expandAttributes_of_not_mem _ fun entry hentry heq =>
        hx (heq ▸ (mem_unboundValues.mp hentry).1.1)
    rw [attribute?, hattributes] at hname
    rw [hattributed.tag?, hattributes]
    exact hmiddle x name hname

/-! ## 4. Pages that can be expanded once more -/

/-- The nodes are linked, and there is an end to what is below a node. -/
structure Steady (doc : Document) (root : Nat) : Prop where
  linked : doc.Linked
  grounded : doc.Grounded root

open Relation

/-- Nodes with nothing below them can be put anywhere. -/
theorem Grounded.of_leaves (h : doc.Grounded root)
    (hnew : ∀ p c, c ∈ after.children p → c ∈ doc.children p ∨ after.children c = []) :
    after.Grounded root := by
  have hold : ∀ {p c}, after.Child p c → after.children c ≠ [] → doc.Child p c :=
    fun hchild hinner => (hnew _ _ hchild).resolve_right hinner
  have hinner : ∀ {p c}, after.Child p c → after.children p ≠ [] := fun hchild =>
    List.ne_nil_of_mem hchild
  have hwalk : ∀ {id}, ReflTransGen after.Child root id → after.children id ≠ [] →
      ReflTransGen doc.Child root id := by
    intro id hid
    induction hid with
    | refl => exact fun _ => .refl
    | tail _ hchild ih => exact fun hne => (ih (hinner hchild)).tail (hold hchild hne)
  have hloop : ∀ {a b}, TransGen after.Child a b → after.children b ≠ [] → TransGen doc.Child a b := by
    intro a b hab
    induction hab with
    | single hchild => exact fun hne => .single (hold hchild hne)
    | tail _ hchild ih => exact fun hne => (ih (hinner hchild)).tail (hold hchild hne)
  intro id hid hround
  obtain ⟨c, hchild, _⟩ := TransGen.head'_iff.mp hround
  exact h id (hwalk hid (hinner hchild)) (hloop hround (hinner hchild))

theorem Steady.mapAttributes (h : doc.Steady root) (id : Nat) (f : Attributes → Attributes) :
    (doc.mapAttributes id f).Steady root :=
  ⟨h.linked.mapAttributes id f,
    h.grounded.of_leaves fun p _ hc => .inl (doc.children_mapAttributes id f p ▸ hc)⟩

theorem Steady.setTextContent (h : doc.Steady root) {id : Nat} (hid : id < doc.size)
    (content : String) : (doc.setTextContent id content).Steady root := by
  refine ⟨h.linked.setTextContent hid content, h.grounded.of_leaves fun p c hc => ?_⟩
  exact (mem_children_setTextContent h.linked hid hc).imp_right And.right

theorem Steady.refreshElement (h : doc.Steady root) (p : Placeholder) {id : Nat} (hid : id < doc.size) :
    (doc.refreshElement p id).Steady root := by
  rw [Document.refreshElement, showState_eq]
  exact (h.setTextContent hid p.expandedValue).mapAttributes id _

/-- **A page that has been refreshed can be expanded once more.** -/
theorem Steady.refresh (h : doc.Steady root) {bindings : Bindings} (r : Registry)
    (hbindings : ∀ name, ∀ id ∈ bindings.elements name, id < doc.size) (names : List String) :
    (doc.refresh bindings r names).2.Steady root :=
  refresh_induction (motive := (Steady · root)) (fun _ p _ hid hdoc => hdoc.refreshElement p hid) r
    hbindings names h

end Document

end Placeholders
