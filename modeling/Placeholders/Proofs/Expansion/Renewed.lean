import Mathlib.Algebra.GroupWithZero.Nat
import Placeholders.Proofs.Document.Retold
import Placeholders.Proofs.Expansion.Made
import Placeholders.Proofs.Registry

/-!
# What a refresh leaves alone

A refresh gives bindings a text and shows the states of placeholders on them.

* `Renewed` says that everything but certain elements is as it was. What comes into these is new.
* This is what a refresh does to the bindings of its names, whether some of them are in others or not, and
  however often it comes to one of them (`renewed_refresh`).
* What is in none of these bindings is untouched (`Renewed.untouched`).
-/

namespace Placeholders.Document

open Placeholders.Markup Relation

variable {doc after last : Document} {ids : List Nat}

/-! ## 1. Renewed documents -/

/-- What was there before is as it was, but for the attributes and the children of certain elements. -/
structure Renewed (doc after : Document) (ids : List Nat) : Prop where
  linked : after.Linked
  size_le : doc.size ≤ after.size
  payload : ∀ x < doc.size, x ∉ ids → after.payload? x = doc.payload? x
  text : ∀ x < doc.size, after.text? x = doc.text? x
  children : ∀ x < doc.size, x ∉ ids → after.children x = doc.children x
  origin : ∀ p, ∀ c ∈ after.children p, c ∈ doc.children p ∨ doc.size ≤ c
  sealedTexts : after.sealedTexts = doc.sealedTexts
  sealedAttributes : after.sealedAttributes = doc.sealedAttributes

namespace Renewed

theorem refl (hdoc : doc.Linked) : doc.Renewed doc [] :=
  ⟨hdoc, Nat.le_refl _, fun _ _ _ => rfl, fun _ _ => rfl, fun _ _ _ => rfl, fun _ _ hc => .inl hc, rfl, rfl⟩

theorem trans {more : List Nat} (h : doc.Renewed after ids) (h' : after.Renewed last more) :
    doc.Renewed last (ids ++ more) where
  linked := h'.linked
  size_le := Nat.le_trans h.size_le h'.size_le
  payload x hx hnot := by
    obtain ⟨hids, hmore⟩ := not_or.mp (mt List.mem_append.mpr hnot)
    rw [h'.payload x (Nat.lt_of_lt_of_le hx h.size_le) hmore, h.payload x hx hids]
  text x hx := (h'.text x (Nat.lt_of_lt_of_le hx h.size_le)).trans (h.text x hx)
  children x hx hnot := by
    obtain ⟨hids, hmore⟩ := not_or.mp (mt List.mem_append.mpr hnot)
    rw [h'.children x (Nat.lt_of_lt_of_le hx h.size_le) hmore, h.children x hx hids]
  origin p c hc := by
    rcases h'.origin p c hc with hold | hnew
    · exact h.origin p c hold
    · exact .inr (Nat.le_trans h.size_le hnew)
  sealedTexts := h'.sealedTexts.trans h.sealedTexts
  sealedAttributes := h'.sealedAttributes.trans h.sealedAttributes

theorem mapAttributes (h : doc.Renewed after ids) {id : Nat} (hid : id ∈ ids)
    (f : Attributes → Attributes) : doc.Renewed (after.mapAttributes id f) ids where
  linked := h.linked.mapAttributes id f
  size_le := h.size_le.trans (Nat.le_of_eq (size_modify after id _).symm)
  payload x hx hnot := by
    have hne : x ≠ id := fun heq => hnot (heq ▸ hid)
    rw [payload?_mapAttributes, if_neg hne, h.payload x hx hnot]
  text x hx := (text?_mapAttributes after id f x).trans (h.text x hx)
  children x hx hnot := (children_mapAttributes after id f x).trans (h.children x hx hnot)
  origin p c hc := h.origin p c (children_mapAttributes after id f p ▸ hc)
  sealedTexts := h.sealedTexts
  sealedAttributes := h.sealedAttributes

/-- A node has kept its parent unless it has been a child of one of the elements. -/
theorem parent?_eq (h : doc.Renewed after ids) (hdoc : doc.Linked) {x : Nat} (hx : x < doc.size)
    (hnot : ∀ p ∈ ids, x ∉ doc.children p) : after.parent? x = doc.parent? x := by
  cases hparent : doc.parent? x with
  | some p =>
      have hchild := (hdoc.mirrored p x).mpr hparent
      have hkeep : p ∉ ids := fun hmem => hnot p hmem hchild
      rw [← h.linked.mirrored, h.children p (lt_of_mem_children hchild) hkeep]
      exact hchild
  | none =>
      refine Option.eq_none_iff_forall_ne_some.mpr fun p hafter => ?_
      rcases h.origin p x ((h.linked.mirrored p x).mpr hafter) with hold | hnew
      · rw [hdoc.mirrored, hparent] at hold
        cases hold
      · exact absurd hx (Nat.not_lt.mpr hnew)

/-- **What is in none of the elements is untouched.** -/
theorem untouched (h : doc.Renewed after ids) (hdoc : doc.Linked) {x : Nat} (hx : x < doc.size)
    (hout : ∀ id ∈ ids, ¬ ReflTransGen doc.Child id x) : doc.Untouched after x where
  payload := h.payload x hx fun hmem => hout x hmem .refl
  parent := h.parent?_eq hdoc hx fun p hp hchild => hout p hp (.single hchild)
  children := h.children x hx fun hmem => hout x hmem .refl
  sealedText := by rw [isSealedText, isSealedText, h.sealedTexts]
  sealedAttribute name := by rw [isSealedAttribute, isSealedAttribute, h.sealedAttributes]

end Renewed

theorem HoldsText.renewed {id : Nat} {text : String} (h : doc.HoldsText id text)
    (hafter : doc.Renewed after ids) (hlt : id < doc.size) (hid : id ∉ ids)
    (hids : ∀ x ∈ ids, doc.text? x = none) : after.HoldsText id text :=
  h.of_kept hafter.children hafter.text hlt hid hids

/-! ## 2. One binding -/

section Element

variable (hdoc : doc.Linked) (p : Placeholder)

include hdoc

/-- **Refreshing an element renews it and no other**, and then it holds the value. -/
theorem renewed_refreshElement {id : Nat} (hid : id < doc.size) (hnotext : doc.text? id = none) :
    doc.Renewed (doc.refreshElement p id) [id] ∧
      (doc.refreshElement p id).HoldsText id p.expandedValue := by
  obtain ⟨hretold, hholds⟩ := retold_setTextContent hdoc hid hnotext p.expandedValue
  refine ⟨?_, ?_⟩
  · refine showState_induction (motive := fun d => doc.Renewed d [id]) id
      (fun _ f h => h.mapAttributes (List.mem_singleton_self id) f) p ?_
    refine ⟨hretold.linked, hretold.size_le, fun x hx _ => hretold.payload x hx,
      fun x hx => hretold.text? hx, hretold.children, fun q c hc => ?_, hretold.sealedTexts,
      hretold.sealedAttributes⟩
    exact (mem_children_setTextContent hdoc hid hc).imp_right fun h => Nat.le_of_eq h.1.symm
  · refine showState_induction (motive := fun d => d.HoldsText id p.expandedValue) id
      (fun d f h => h.congr (children_mapAttributes d id f id) fun k _ _ => ?_) p hholds
    exact ⟨text?_mapAttributes d id f k, children_mapAttributes d id f k⟩

theorem renewed_foldl_refreshElement (hids : ∀ id ∈ ids, id < doc.size ∧ doc.text? id = none) :
    doc.Renewed (ids.foldl (refreshElement p) doc) ids ∧
      ∀ id ∈ ids, (ids.foldl (refreshElement p) doc).HoldsText id p.expandedValue := by
  induction ids generalizing doc with
  | nil => exact ⟨.refl hdoc, fun id hid => absurd hid List.not_mem_nil⟩
  | cons id rest ih =>
      obtain ⟨⟨hlt, hnotext⟩, hrest⟩ := List.forall_mem_cons.mp hids
      obtain ⟨hfirst, hholds⟩ := renewed_refreshElement hdoc p hlt hnotext
      have hrest' : ∀ x ∈ rest, x < (doc.refreshElement p id).size ∧
          (doc.refreshElement p id).text? x = none := fun x hx =>
        ⟨Nat.lt_of_lt_of_le (hrest x hx).1 hfirst.size_le,
          (hfirst.text x (hrest x hx).1).trans (hrest x hx).2⟩
      obtain ⟨hmore, hall⟩ := ih hfirst.linked hrest'
      refine ⟨hfirst.trans hmore, List.forall_mem_cons.mpr ⟨?_, hall⟩⟩
      by_cases hid : id ∈ rest
      · exact hall id hid
      · exact hholds.renewed hmore (Nat.lt_of_lt_of_le hlt hfirst.size_le) hid fun x hx => (hrest' x hx).2

end Element

/-! ## 3. Several names -/

/-- A table lists nodes that are no texts, and none of them under two names. -/
structure Tabled (doc : Document) (bindings : Bindings) : Prop where
  lt : ∀ name, ∀ id ∈ bindings.elements name, id < doc.size
  text : ∀ name, ∀ id ∈ bindings.elements name, doc.text? id = none
  one : ∀ name other id, id ∈ bindings.elements name → id ∈ bindings.elements other → name = other

variable {bindings : Bindings}

theorem Tabled.renewed (h : doc.Tabled bindings) (hafter : doc.Renewed after ids) :
    after.Tabled bindings where
  lt name id hid := Nat.lt_of_lt_of_le (h.lt name id hid) hafter.size_le
  text name id hid := (hafter.text id (h.lt name id hid)).trans (h.text name id hid)
  one := h.one

/-- **Refreshing names renews their bindings**, which hold the values of their placeholders then. It
    answers how many bindings the names have. -/
theorem renewed_refresh (hdoc : doc.Linked) (h : doc.Tabled bindings) {r : Registry} {names : List String}
    (hknown : ∀ name ∈ names, name ∈ r.names) :
    (doc.refresh bindings r names).1 =
        .ok (names.map fun name => (bindings.elements name).length).sum ∧
      doc.Renewed (doc.refresh bindings r names).2 (names.flatMap bindings.elements) ∧
      ∀ name ∈ names, ∀ id ∈ bindings.elements name, ∀ p, r.get? name = some p →
        (doc.refresh bindings r names).2.HoldsText id p.expandedValue := by
  induction names generalizing doc with
  | nil => exact ⟨rfl, .refl hdoc, fun name hname => absurd hname List.not_mem_nil⟩
  | cons name rest ih =>
      obtain ⟨hname, hrest⟩ := List.forall_mem_cons.mp hknown
      obtain ⟨p, hp⟩ := Option.isSome_iff_exists.mp (Registry.contains_iff.mpr hname)
      obtain ⟨hfirst, hholds⟩ :=
        renewed_foldl_refreshElement hdoc p fun id hid => ⟨h.lt name id hid, h.text name id hid⟩
      have htabled := h.renewed hfirst
      obtain ⟨hcount, hmore, hall⟩ := ih hfirst.linked htabled hrest
      rw [refresh, hp]
      dsimp only
      refine ⟨by rw [hcount]; rfl, ?_, List.forall_mem_cons.mpr ⟨fun id hid q hq => ?_, hall⟩⟩
      · rw [List.flatMap_cons]
        exact hfirst.trans hmore
      · obtain rfl := Option.some.inj (hp.symm.trans hq)
        -- what comes later belongs to other names, or sets the same value again
        by_cases hagain : id ∈ rest.flatMap bindings.elements
        · obtain ⟨other, hother, hid'⟩ := List.mem_flatMap.mp hagain
          obtain rfl := h.one name other id hid hid'
          exact hall name hother id hid' p hp
        · refine (hholds id hid).renewed hmore (htabled.lt name id hid) hagain fun x hx => ?_
          obtain ⟨other, _, hx⟩ := List.mem_flatMap.mp hx
          exact htabled.text other x hx

end Placeholders.Document
