import Placeholders.Proofs.Document.Growth
import Placeholders.Proofs.Expansion.AttributeValues
import Placeholders.Proofs.Expansion.Texts

/-!
# How documents are made

`Made` lists all the ways to come by a document: an empty one, one read from markup, and every change of
one that there is. Numbers belong to the document that they are used with.

* Every document that is made is linked (`Made.linked`), and in none of them is a seal on what is not
  there (`Made.sealedWithin`).
* Not all of them are grounded, since nothing keeps a node from being moved below itself. There is no end
  to a pass below such a node.
-/

namespace Placeholders.Document

open Placeholders.Text

variable {doc after : Document}

/-! ## 1. Changes keep documents linked -/

theorem Linked.mapAttributes (hdoc : doc.Linked) (id : Nat) (f : Markup.Attributes → Markup.Attributes) :
    (doc.mapAttributes id f).Linked :=
  hdoc.modify (fun _ => rfl) fun _ => rfl

section MapAttributes

variable (doc : Document) (id : Nat) (f : Markup.Attributes → Markup.Attributes) (x : Nat)

theorem children_mapAttributes : (doc.mapAttributes id f).children x = doc.children x := by
  unfold mapAttributes
  rw [children_modify_of_eq]
  exact fun _ => rfl

theorem payload?_mapAttributes : (doc.mapAttributes id f).payload? x =
    if x = id then (doc.payload? x).map (·.mapAttributes f) else doc.payload? x := by
  unfold mapAttributes
  rw [payload?_modify]
  exact fun _ => rfl

theorem text?_mapAttributes : (doc.mapAttributes id f).text? x = doc.text? x := by
  unfold text?
  rw [payload?_mapAttributes]
  by_cases hx : x = id
  · rw [if_pos hx]
    rcases doc.payload? x with _ | payload
    · rfl
    · cases payload <;> rfl
  · rw [if_neg hx]

end MapAttributes

theorem Linked.insertPart (hdoc : doc.Linked) (reference : Nat) (part : Part) :
    (doc.insertPart reference part).Linked := by
  cases hparent : doc.parent? reference with
  | some p => exact (insertPart_spec hdoc hparent part).1
  | none =>
      obtain ⟨hid, hmade, _, hshows, _⟩ := createPart_spec hdoc part
      unfold Document.insertPart
      dsimp only
      rw [hid]
      cases hafter : (doc.createPart part).1.insertBefore? reference doc.size with
      | none => exact hmade
      | some after => exact hmade.insertBefore? hshows.lt hafter

theorem Linked.insertParts (hdoc : doc.Linked) (reference : Nat) (parts : List Part) :
    (doc.insertParts reference parts).Linked := by
  induction parts generalizing doc with
  | nil => exact hdoc
  | cons part parts ih => exact ih (hdoc.insertPart reference part)

theorem Linked.expandUnsealed (hdoc : doc.Linked) (lexicon : Lexicon Target) (id : Nat) :
    (doc.expandUnsealed lexicon id).1.Linked := by
  unfold Document.expandUnsealed
  split
  · exact hdoc
  · rw [expandText_eq]
    split
    · exact hdoc
    · exact (hdoc.insertParts id _).detach id

theorem Linked.expandTexts (hdoc : doc.Linked) (lexicon : Lexicon Target) (ids : List Nat) :
    (doc.expandTexts lexicon ids).1.Linked := by
  induction ids generalizing doc with
  | nil => exact hdoc
  | cons id rest ih =>
      rw [expandTexts_cons]
      exact ih (hdoc.expandUnsealed lexicon id)

theorem Linked.expandBelow (hdoc : doc.Linked) (lexicon : Lexicon Target) (root : Nat) :
    (doc.expandBelow lexicon root).1.Linked :=
  (attributed_expandAttributes _ _ _).linked (hdoc.expandTexts lexicon _)

/-- What every change of attributes keeps is kept when a state is shown. -/
theorem showState_induction {motive : Document → Prop} (id : Nat)
    (step : ∀ doc f, motive doc → motive (doc.mapAttributes id f)) (p : Placeholder)
    (start : motive doc) : motive (doc.showState id p) := by
  have hremoved : ∀ (names : List String) (doc : Document), motive doc →
      motive (names.foldl (fun (doc : Document) name => doc.removeClass id name) doc) := by
    intro names
    induction names with
    | nil => exact fun _ h => h
    | cons name names ih => exact fun doc h => ih _ (step doc _ h)
  unfold showState
  split
  · split
    · exact step _ _ (step _ _ (hremoved _ doc start))
    · exact start
  · split
    · unfold showChecked
      split <;> exact step _ _ (step _ _ start)
    · exact start
  · exact start

theorem Linked.showState (hdoc : doc.Linked) (id : Nat) (p : Placeholder) :
    (doc.showState id p).Linked :=
  showState_induction id (fun _ f h => h.mapAttributes id f) p hdoc

theorem sameSeals_refreshElement (p : Placeholder) (doc : Document) (id : Nat) :
    doc.SameSeals (doc.refreshElement p id) :=
  showState_induction (motive := doc.SameSeals) id (fun after _ h => h.trans (sameSeals_modify after id _)) p
    (sameSeals_setTextContent doc id p.expandedValue)

theorem sameSeals_foldl_refreshElement (p : Placeholder) (doc : Document) (ids : List Nat) :
    doc.SameSeals (ids.foldl (refreshElement p) doc) := by
  induction ids generalizing doc with
  | nil => exact .refl doc
  | cons id ids ih => exact (sameSeals_refreshElement p doc id).trans (ih _)

theorem sameSeals_refresh (doc : Document) (bindings : Bindings) (r : Registry) (names : List String) :
    doc.SameSeals (doc.refresh bindings r names).2 := by
  induction names generalizing doc with
  | nil => exact .refl doc
  | cons name rest ih =>
      rw [Document.refresh]
      cases r.get? name with
      | none => exact .refl doc
      | some p => exact (sameSeals_foldl_refreshElement p doc _).trans (ih _)

section Refresh

variable {motive : Document → Prop}
  (step : ∀ (doc : Document) p id, id < doc.size → motive doc → motive (doc.refreshElement p id))

include step

theorem foldl_refreshElement_induction (p : Placeholder) {ids : List Nat} (hids : ∀ id ∈ ids, id < doc.size)
    (start : motive doc) : motive (ids.foldl (refreshElement p) doc) := by
  induction ids generalizing doc with
  | nil => exact start
  | cons id ids ih =>
      obtain ⟨hid, hrest⟩ := List.forall_mem_cons.mp hids
      have hle := (sameSeals_refreshElement p doc id).size_le
      exact ih (fun x hx => Nat.lt_of_lt_of_le (hrest x hx) hle) (step doc p id hid start)

/-- What every refreshed element keeps is kept by a refresh. -/
theorem refresh_induction {bindings : Bindings} (r : Registry)
    (hbindings : ∀ name, ∀ id ∈ bindings.elements name, id < doc.size) (names : List String)
    (start : motive doc) : motive (doc.refresh bindings r names).2 := by
  induction names generalizing doc with
  | nil => exact start
  | cons name rest ih =>
      rw [Document.refresh]
      cases r.get? name with
      | none => exact start
      | some p =>
          have hle := (sameSeals_foldl_refreshElement p doc (bindings.elements name)).size_le
          exact ih (fun other id hid => Nat.lt_of_lt_of_le (hbindings other id hid) hle)
            (foldl_refreshElement_induction step p (hbindings name) start)

end Refresh

theorem Linked.refresh (hdoc : doc.Linked) {bindings : Bindings} (r : Registry)
    (hbindings : ∀ name, ∀ id ∈ bindings.elements name, id < doc.size) (names : List String) :
    (doc.refresh bindings r names).2.Linked :=
  refresh_induction
    (fun _ p id hid h => (h.setTextContent hid p.expandedValue).showState id p) r hbindings names hdoc

/-! ## 2. Expanding seals nodes only -/

theorem size_lt_createPart (doc : Document) (part : Part) :
    doc.size < (doc.createPart part).1.size := by
  cases part with
  | plain text => simp [createPart]
  | value text => simp [createPart, sealText, size, create]
  | binding t editor =>
      simp only [createPart]
      split <;> simp only [size_appendNew, size_create] <;> omega

theorem size_lt_insertPart (doc : Document) (reference : Nat) (part : Part) :
    doc.size < (doc.insertPart reference part).size := by
  have hmade := size_lt_createPart doc part
  unfold Document.insertPart
  dsimp only
  cases hafter : (doc.createPart part).1.insertBefore? reference (doc.createPart part).2 with
  | none => exact hmade
  | some after => exact Nat.lt_of_lt_of_le hmade (sameSeals_insertBefore? hafter).size_le

namespace SealedWithin

theorem insertPart (h : doc.SealedWithin) (reference : Nat) (part : Part) :
    (doc.insertPart reference part).SealedWithin := by
  intro x hx
  rcases (sealsValues_insertPart doc reference part x).mp hx with hx | ⟨text, hmem⟩
  · exact Nat.lt_trans (h x hx) (size_lt_insertPart doc reference part)
  · cases List.mem_singleton.mp hmem
    exact size_lt_insertPart doc reference _

theorem insertParts (h : doc.SealedWithin) (reference : Nat) (parts : List Part) :
    (doc.insertParts reference parts).SealedWithin := by
  induction parts generalizing doc with
  | nil => exact h
  | cons part parts ih => exact ih (h.insertPart reference part)

theorem expandUnsealed (h : doc.SealedWithin) (lexicon : Lexicon Target) (id : Nat) :
    (doc.expandUnsealed lexicon id).1.SealedWithin := by
  unfold Document.expandUnsealed
  split
  · exact h
  · rw [expandText_eq]
    split
    · exact h
    · exact (h.insertParts id _).of_sameSeals (sameSeals_detach _ id)

theorem expandTexts (h : doc.SealedWithin) (lexicon : Lexicon Target) (ids : List Nat) :
    (doc.expandTexts lexicon ids).1.SealedWithin := by
  induction ids generalizing doc with
  | nil => exact h
  | cons id rest ih =>
      rw [expandTexts_cons]
      exact ih (h.expandUnsealed lexicon id)

theorem expandBelow (h : doc.SealedWithin) (lexicon : Lexicon Target) (root : Nat) :
    (doc.expandBelow lexicon root).1.SealedWithin := by
  have hattributed := attributed_expandAttributes (doc.expandTexts lexicon
    ((doc.unbound root).filter fun id => (doc.text? id).isSome)).1
  exact (h.expandTexts lexicon _).of_sameSeals
    ⟨(hattributed _ _).sealedTexts, (hattributed _ _).size_eq.ge⟩

end SealedWithin

/-! ## 3. What every document is -/

/-- The documents that can be come by. -/
inductive Made : Document → Prop where
  | empty : Made empty
  | parse (markup : String) : Made (parse markup)
  | create {doc : Document} (h : Made doc) (payload : Payload) : Made (doc.create payload).1
  | detach {doc : Document} (h : Made doc) (id : Nat) : Made (doc.detach id)
  | append {doc : Document} (h : Made doc) {parent child : Nat} (hparent : parent < doc.size)
    (hchild : child < doc.size) : Made (doc.append parent child)
  | insertBefore {doc after : Document} (h : Made doc) {reference child : Nat}
    (hchild : child < doc.size) (hafter : doc.insertBefore? reference child = some after) : Made after
  | replace {doc after : Document} (h : Made doc) {old replacement : Nat}
    (hreplacement : replacement < doc.size) (hafter : doc.replace? old replacement = some after) :
    Made after
  | clearChildren {doc : Document} (h : Made doc) {id : Nat} (hid : id < doc.size) :
    Made (doc.clearChildren id)
  | mapAttributes {doc : Document} (h : Made doc) (id : Nat)
    (f : Markup.Attributes → Markup.Attributes) : Made (doc.mapAttributes id f)
  | setText {doc : Document} (h : Made doc) (id : Nat) (content : String) : Made (doc.setText id content)
  | setTextContent {doc : Document} (h : Made doc) {id : Nat} (hid : id < doc.size)
    (content : String) : Made (doc.setTextContent id content)
  | setInnerHtml {doc : Document} (h : Made doc) {id : Nat} (hid : id < doc.size)
    (markup : String) : Made (doc.setInnerHtml id markup)
  | expand {doc after : Document} (h : Made doc) {root : Nat} {r s : Registry} {found : Findings}
    (hafter : doc.expand root r = .ok (after, s, found)) : Made after
  | refresh {doc : Document} (h : Made doc) {bindings : Bindings} (r : Registry)
    (hbindings : ∀ name, ∀ id ∈ bindings.elements name, id < doc.size) (names : List String) :
    Made (doc.refresh bindings r names).2

/-- What an expansion that does not fail has done. -/
theorem expand_eq_ok {root : Nat} {r s : Registry} {found : Findings}
    (h : doc.expand root r = .ok (after, s, found)) :
    ∃ lexicon, root < doc.size ∧ r.targets = .ok lexicon ∧
      after = (doc.expandBelow lexicon root).1 ∧ s = r.tally (doc.expandBelow lexicon root).2 ∧
      found.bindings = Bindings.scan after root := by
  unfold Document.expand at h
  split at h
  · cases h
  · rename_i hcontains
    have hlt : root < doc.size := by simpa [contains] using hcontains
    cases htargets : r.targets with
    | error e =>
        rw [htargets] at h
        cases h
    | ok lexicon =>
        rw [htargets] at h
        cases h
        exact ⟨lexicon, hlt, rfl, rfl, rfl, rfl⟩

/-- **Every document is linked.** -/
theorem Made.linked (h : doc.Made) : doc.Linked := by
  induction h with
  | empty => exact linked_empty
  | parse markup => exact linked_parse markup
  | create _ payload ih => exact ih.create payload
  | detach _ id ih => exact ih.detach id
  | append _ hparent hchild ih => exact ih.append hparent hchild
  | insertBefore _ hchild hafter ih => exact ih.insertBefore? hchild hafter
  | replace _ hreplacement hafter ih =>
      obtain ⟨inserted, hinserted, rfl⟩ := Option.map_eq_some_iff.mp hafter
      exact (ih.insertBefore? hreplacement hinserted).detach _
  | clearChildren _ hid ih => exact ih.clearChildren hid
  | mapAttributes _ id f ih => exact ih.mapAttributes id f
  | setText _ id content ih => exact ih.setText id content
  | setTextContent _ hid content ih => exact ih.setTextContent hid content
  | setInnerHtml _ hid markup ih => exact ih.setInnerHtml hid markup
  | expand _ hafter ih =>
      obtain ⟨lexicon, _, _, rfl, _⟩ := expand_eq_ok hafter
      exact ih.expandBelow lexicon _
  | refresh _ r hbindings names ih => exact ih.refresh r hbindings names

/-- **In every document only nodes are sealed**, so that the number of a new node has never been. -/
theorem Made.sealedWithin (h : doc.Made) : doc.SealedWithin := by
  induction h with
  | empty => exact sealedWithin_empty
  | parse markup => exact sealedWithin_empty.of_sameSeals (sameSeals_parse markup)
  | create _ payload ih => exact ih.of_sameSeals (sameSeals_create _ payload)
  | detach _ id ih => exact ih.of_sameSeals (sameSeals_detach _ id)
  | append _ _ _ ih => exact ih.of_sameSeals (sameSeals_append _ _ _)
  | insertBefore _ _ hafter ih => exact ih.of_sameSeals (sameSeals_insertBefore? hafter)
  | replace _ _ hafter ih =>
      obtain ⟨inserted, hinserted, rfl⟩ := Option.map_eq_some_iff.mp hafter
      exact ih.of_sameSeals ((sameSeals_insertBefore? hinserted).trans (sameSeals_detach _ _))
  | clearChildren _ _ ih => exact ih.of_sameSeals (sameSeals_clearChildren _ _)
  | mapAttributes _ id f ih => exact ih.of_sameSeals (sameSeals_modify _ id _)
  | setText _ id content ih => exact ih.of_sameSeals (sameSeals_modify _ id _)
  | setTextContent _ _ content ih => exact ih.of_sameSeals (sameSeals_setTextContent _ _ content)
  | setInnerHtml _ _ markup ih => exact ih.of_sameSeals (sameSeals_setInnerHtml _ _ markup)
  | expand _ hafter ih =>
      obtain ⟨lexicon, _, _, rfl, _⟩ := expand_eq_ok hafter
      exact ih.expandBelow lexicon _
  | refresh _ r _ names ih => exact ih.of_sameSeals (sameSeals_refresh _ _ r names)

end Placeholders.Document
