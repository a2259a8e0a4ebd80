import Placeholders.Proofs.Editors.Outfits
import Placeholders.Proofs.Expansion.Bound
import Placeholders.Proofs.Expansion.Idempotent
import Placeholders.Proofs.Expansion.Renewed

/-!
# Refreshing a rendered page

What `Document.refresh` does to a page that is rendered.

* A new binding is no editor, so that refreshing it sets its text and changes nothing else
  (`IsSpan.payload?_refresh`).
* Refreshing several names retells their bindings and nothing else, and each of them holds the value of
  its placeholder afterwards (`refresh_spec`).
* A page that is rendered with some values is rendered with the new ones after all bindings have been
  refreshed whose values have changed (`Rendered.retold`), and it stays quiet (`Quiet.retold`).
* Retelling bindings neither makes bindings nor takes any away (`isBinding_of_retold`,
  `walk_of_isBinding`).
-/

namespace Placeholders.Document

open Placeholders.Markup Placeholders.Text Relation

variable {base first doc after : Document} {lexicon : Lexicon Target} {root : Nat}
  {group : Nat → List Nat} {ids : List Nat}

/-! ## 1. One binding -/

theorem IsSpan.lt {name : String} {id : Nat} (h : doc.IsSpan name id) : id < doc.size :=
  h.elim fun _ h => lt_of_payload? h

theorem IsSpan.retold {name : String} {id : Nat} (h : doc.IsSpan name id)
    (hafter : doc.Retold after ids) : after.IsSpan name id := by
  obtain ⟨editor, hpayload⟩ := h
  exact ⟨editor, (hafter.payload id (lt_of_payload? hpayload)).trans hpayload⟩

theorem IsSpan.name_unique {name other : String} {id : Nat} (h : doc.IsSpan name id)
    (h' : doc.IsSpan other id) : name = other :=
  Option.some.inj (h.attribute?.symm.trans h'.attribute?)

/-- A new binding is no editor, and does not show the state of one. -/
theorem shown_bindingAttributes (name : String) (editor : Bool) (p : Placeholder) :
    (bindingAttributes name editor).shown p = bindingAttributes name editor := by
  have htextbox : (bindingAttributes name editor).hasClass Binding.textboxClass = false := by
    rw [hasClass_bindingAttributes]
    cases editor <;> decide
  have hcheckbox : (bindingAttributes name editor).hasClass Binding.checkboxClass = false := by
    rw [hasClass_bindingAttributes]
    cases editor <;> decide
  unfold Attributes.shown
  rw [htextbox, hcheckbox]
  cases p.kind <;> rfl

/-- **Refreshing a new binding changes nothing but its text.** -/
theorem IsSpan.payload?_refresh {name : String} {id : Nat} (h : doc.IsSpan name id) (bindings : Bindings)
    {r : Registry} {names : List String} (hknown : ∀ name ∈ names, name ∈ r.names) :
    (doc.refresh bindings r names).2.payload? id = doc.payload? id := by
  obtain ⟨editor, hpayload⟩ := h
  obtain ⟨ps, hwears, _⟩ := doc.exists_shown_refresh bindings hknown id
  have hshown : ps.foldl Attributes.shown (bindingAttributes name editor) =
      bindingAttributes name editor :=
    List.foldl_fixed' (shown_bindingAttributes name editor) ps
  have helement : doc.element? id = some ("span", bindingAttributes name editor) := by
    simp only [element?, hpayload]
  rw [Wears, helement, Option.map_some, hshown] at hwears
  rw [hpayload, payload?_of_element? hwears]

/-! ## 2. Several names -/

/-- What is renewed without other attributes is retold. -/
theorem Renewed.retold (h : doc.Renewed after ids)
    (hids : ∀ x ∈ ids, after.payload? x = doc.payload? x) : doc.Retold after ids where
  linked := h.linked
  size_le := h.size_le
  payload x hx := by
    by_cases hmem : x ∈ ids
    · exact hids x hmem
    · exact h.payload x hx hmem
  children := h.children
  sealedTexts := h.sealedTexts
  sealedAttributes := h.sealedAttributes

/-- **Refreshing names retells their bindings**, which hold the values of their placeholders then. -/
theorem refresh_spec (hdoc : doc.Linked) {bindings : Bindings} {r : Registry} {names : List String}
    (hknown : ∀ name ∈ names, (r.get? name).isSome = true)
    (hspans : ∀ name, ∀ id ∈ bindings.elements name, doc.IsSpan name id) :
    (∃ count, (doc.refresh bindings r names).1 = .ok count) ∧
      doc.Retold (doc.refresh bindings r names).2 (names.flatMap bindings.elements) ∧
      ∀ name ∈ names, ∀ id ∈ bindings.elements name, ∀ p, r.get? name = some p →
        (doc.refresh bindings r names).2.HoldsText id p.expandedValue := by
  have hnames : ∀ name ∈ names, name ∈ r.names := fun name hname =>
    Registry.contains_iff.mp (hknown name hname)
  have htabled : doc.Tabled bindings :=
    ⟨fun name id hid => (hspans name id hid).lt, fun name id hid => (hspans name id hid).text?,
      fun name other id hid hid' => (hspans name id hid).name_unique (hspans other id hid')⟩
  obtain ⟨hcount, hrenewed, hholds⟩ := renewed_refresh hdoc htabled hnames
  refine ⟨⟨_, hcount⟩, hrenewed.retold fun x hx => ?_, hholds⟩
  obtain ⟨name, _, hid⟩ := List.mem_flatMap.mp hx
  exact (hspans name x hid).payload?_refresh bindings hnames

/-! ## 3. Rendered pages -/

theorem Shows.retold_of_text {id : Nat} {part : Part} (h : doc.Shows id part)
    (hpart : ∀ t editor, part ≠ .binding t editor) (hafter : doc.Retold after ids)
    (hids : ∀ x ∈ ids, doc.text? x = none) : after.Shows id part := by
  have hlt := h.lt
  have hkeep : ∀ text, doc.payload? id = some (.text text) → id ∉ ids := fun text htext hmem => by
    have hnone := hids id hmem
    simp [text?, htext] at hnone
  cases part with
  | plain text =>
      exact ⟨(hafter.payload id hlt).trans h.1, (hafter.children id hlt (hkeep _ h.1)).trans h.2⟩
  | value text =>
      refine ⟨(hafter.payload id hlt).trans h.1,
        (hafter.children id hlt (hkeep _ h.1)).trans h.2.1, ?_⟩
      rw [hafter.isSealedText]
      exact h.2.2
  | binding t editor => exact absurd rfl (hpart t editor)

/-- The parts of a text in two registries. -/
theorem partsAt_follows {r s : Registry} {c : Nat} (hopen : base.isSealedText c = false)
    (hvalues : ∀ t ∈ base.replacedAt lexicon c, t.isBound = false →
      (t.valuedBy r).value = (t.valuedBy s).value) :
    List.Forall₂ (Part.Follows r s (· ∈ base.replacedAt lexicon c))
      (base.partsAt (lexicon.mapTargets (Target.valuedBy r)) c)
      (base.partsAt (lexicon.mapTargets (Target.valuedBy s)) c) := by
  have hsnd : (partsFrom (base.isRawAt c) [] (cut lexicon (base.chars c))).2 =
      base.replacedAt lexicon c := by
    rw [partsFrom_snd, replacedAt, hopen]
    rfl
  rw [partsAt, partsAt, cut_mapTargets, cut_mapTargets]
  rw [← hsnd] at hvalues ⊢
  exact partsFrom_follows (fun _ ht => ht) hvalues

theorem isSealedText_of_replacedAt {c : Nat} (h : base.replacedAt lexicon c ≠ []) :
    base.isSealedText c = false := by
  by_contra hsealed
  simp [replacedAt, hsealed] at h

theorem shows_of_follows {r s : Registry} {among : Target → Prop} {news : List Nat}
    {parts parts' : List Part} (hshows : List.Forall₂ doc.Shows news parts)
    (hfollows : List.Forall₂ (Part.Follows r s among) parts parts')
    (hstep : ∀ n ∈ news, ∀ part part', doc.Shows n part → Part.Follows r s among part part' →
      after.Shows n part') : List.Forall₂ after.Shows news parts' := by
  induction hshows generalizing parts' with
  | nil =>
      cases hfollows
      exact .nil
  | cons hfirst _ ih =>
      cases hfollows with
      | cons hfollow hmore =>
          obtain ⟨htop, hrest⟩ := List.forall_mem_cons.mp hstep
          exact .cons (htop _ _ hfirst hfollow) (ih hmore hrest)

/-- **A rendered page is rendered with other values** once every binding holds its new value, if all
    tokens that became texts have kept theirs. -/
theorem Rendered.retold {r s : Registry}
    (h : Rendered base first doc (lexicon.mapTargets (Target.valuedBy r)) root group)
    (hafter : doc.Retold after ids) (hids : ∀ x ∈ ids, base.size ≤ x ∧ doc.text? x = none)
    (hvalues : ∀ c ∈ base.unboundTexts root, ∀ t ∈ base.replacedAt lexicon c, t.isBound = false →
      (t.valuedBy r).value = (t.valuedBy s).value)
    (hbound : ∀ c ∈ base.unboundTexts root, ∀ t ∈ base.replacedAt lexicon c, ∀ id ∈ group c,
      base.size ≤ id → doc.IsSpan t.name id → doc.HoldsText id (t.valuedBy r).value →
      after.HoldsText id (t.valuedBy s).value) :
    Rendered base first after (lexicon.mapTargets (Target.valuedBy s)) root group where
  linked := hafter.linked
  size_le := Nat.le_trans h.size_le hafter.size_le
  payload x hx := (hafter.payload x (Nat.lt_of_lt_of_le hx h.size_le)).trans (h.payload x hx)
  children x hx := by
    rw [hafter.children x (Nat.lt_of_lt_of_le hx h.size_le), h.children x hx]
    exact fun hmem => absurd (hids x hmem).1 (Nat.not_le.mpr hx)
  others := h.others
  replaces c hc := by
    have hreplaces := h.replaces c hc
    have hnil : ∀ q : Registry, base.replacedAt (lexicon.mapTargets (Target.valuedBy q)) c = [] ↔
        base.replacedAt lexicon c = [] := fun q => by rw [replacedAt_valuedBy, List.map_eq_nil_iff]
    refine ⟨fun hnone => ?_, fun hne => ?_, fun hne => ?_⟩
    · exact hreplaces.untouched ((hnil r).mpr ((hnil s).mp hnone))
    · have hne' := mt (hnil s).mpr hne
      have hfollows := partsAt_follows (isSealedText_of_replacedAt hne') (hvalues c hc)
      refine shows_of_follows (hreplaces.shows (mt (hnil r).mp hne')) hfollows ?_
      intro n hn part part' hshows hfollow
      have hnew := hreplaces.fresh (mt (hnil r).mp hne') n hn
      cases hfollow with
      | plain text =>
          exact hshows.retold_of_text (fun _ _ h => by cases h) hafter fun x hx => (hids x hx).2
      | value text =>
          exact hshows.retold_of_text (fun _ _ h => by cases h) hafter fun x hx => (hids x hx).2
      | @binding t ht editor =>
          refine ⟨(hafter.payload n hshows.lt).trans hshows.1, ?_⟩
          exact hbound c hc t ht n hn hnew ⟨editor, hshows.1⟩ hshows.2
    · exact hreplaces.fresh (mt (hnil r).mp (mt (hnil s).mpr hne))

/-! ## 4. Quiet pages -/

section Retold

variable (hafter : doc.Retold after ids) (hdoc : doc.Linked) (hids : ∀ x ∈ ids, doc.isBinding x = true)

include hafter hdoc hids

/-- Retelling bindings opens nothing that has not been open before. -/
theorem Opens.of_retold {p c : Nat} (hp : p < doc.size) (hkeep : p ∉ ids) (hopens : after.Opens p c) :
    doc.Opens p c ∧ c ∉ ids := by
  obtain ⟨hchild, htext, hbinding⟩ := hopens
  rw [hafter.children p hp hkeep] at hchild
  have hlt := hdoc.child_lt hchild
  have hbinding' : doc.isBinding c = false := by
    rw [← hbinding]
    exact (isBinding_congr (hafter.attributes hlt)).symm
  refine ⟨⟨hchild, (hafter.text? hlt).symm.trans htext, hbinding'⟩, fun hmem => ?_⟩
  rw [hids c hmem] at hbinding'
  cases hbinding'

theorem walk_of_retold (hlt : root < doc.size) (hroot : root ∉ ids) {p : Nat}
    (hwalk : ReflTransGen after.Opens root p) :
    ReflTransGen doc.Opens root p ∧ p < doc.size ∧ p ∉ ids := by
  induction hwalk with
  | refl => exact ⟨.refl, hlt, hroot⟩
  | tail _ hopens ih =>
      obtain ⟨hold, hkeep⟩ := hopens.of_retold hafter hdoc hids ih.2.1 ih.2.2
      exact ⟨ih.1.tail hold, hdoc.child_lt hold.1, hkeep⟩

/-- **A page stays quiet while its bindings are retold**, since a pass does not look into these. -/
theorem Quiet.retold (h : doc.Quiet lexicon root) (hgrounded : doc.Grounded root)
    (hlt : root < doc.size) (hroot : root ∉ ids) : after.Quiet lexicon root := by
  have hbefore : ∀ id ∈ after.unbound root, id ∈ doc.unbound root ∧
      ∃ p, doc.parent? id = some p ∧ after.parent? id = some p := by
    intro id hid
    obtain ⟨⟨p, hwalk, hchild⟩, hlooked⟩ := exposed_of_mem_unboundTo hid
    obtain ⟨hold, hp, hkeep⟩ := walk_of_retold hafter hdoc hids hlt hroot hwalk
    have hparent' := (hafter.linked.mirrored p id).mp hchild
    rw [hafter.children p hp hkeep] at hchild
    have hclt := hdoc.child_lt hchild
    refine ⟨(hdoc.mem_unbound hgrounded hlt).mpr ⟨⟨p, hold, hchild⟩, ?_⟩, p,
      (hdoc.mirrored p id).mp hchild, hparent'⟩
    rw [← hlooked, isLookedAt, isLookedAt, hafter.text? hclt,
      isBinding_congr (hafter.attributes hclt)]
  refine ⟨fun id hid htext => ?_, fun id hid helement name value hvalue => ?_⟩
  · obtain ⟨hmem, p, hparent, hparent'⟩ := hbefore id hid
    have hclt := lt_of_parent? hparent
    have hp := lt_of_mem_children ((hdoc.mirrored p id).mpr hparent)
    rw [hafter.text? hclt] at htext
    rw [← h.texts id hmem htext]
    simp only [replacedAt, hafter.isSealedText, isRawAt, hparent, hparent', Option.any_some,
      isRawElement, hafter.tag? hp, chars, hafter.text? hclt]
  · obtain ⟨hmem, p, hparent, _⟩ := hbefore id hid
    have hclt := lt_of_parent? hparent
    rw [isElement, hafter.tag? hclt] at helement
    rw [hafter.attributes hclt] at hvalue
    rw [hafter.isSealedAttribute]
    exact h.attributes id hmem helement name value hvalue

end Retold

/-! ## 5. Walks down retold pages -/

/-- **A walk is there in another document too, or it leads to the text of an element**, if only such
    elements have other children there, and they hold a text and nothing else. -/
theorem walk_or_text {n : Nat}
    (hsame : ∀ p < n, p ∉ ids → ∀ c ∈ doc.children p, c ∈ after.children p ∧ c < n)
    (hholds : ∀ x ∈ ids, ∃ text, doc.HoldsText x text) {start id : Nat} (hstart : start < n)
    (hwalk : ReflTransGen doc.Child start id) :
    (ReflTransGen after.Child start id ∧ id < n) ∨
      ((doc.text? id).isSome = true ∧ doc.children id = []) := by
  induction hwalk with
  | refl => exact .inl ⟨.refl, hstart⟩
  | @tail p c _ hchild ih =>
      rcases ih with ⟨hold, hp⟩ | ⟨_, hleaf⟩
      · by_cases hmem : p ∈ ids
        · obtain ⟨text, htext⟩ := hholds p hmem
          obtain ⟨hpayload, hleaf⟩ := htext.child hchild
          exact .inr ⟨by simp [text?, hpayload], hleaf⟩
        · obtain ⟨hchild', hc⟩ := hsame p hp hmem c hchild
          exact .inl ⟨hold.tail hchild', hc⟩
      · exact absurd hchild (by simp [Child, hleaf])

section Walks

variable (hafter : doc.Retold after ids) (hdoc : doc.Linked)

include hafter hdoc

/-- Elements that hold a text make a page hardly deeper. -/
theorem Within.retold (hholds : ∀ x ∈ ids, ∃ text, after.HoldsText x text) {k x : Nat}
    (h : doc.Within k x) (hlt : x < doc.size) : after.Within (k + 2) x := by
  induction h with
  | @intro k x _ ih =>
      by_cases hmem : x ∈ ids
      · obtain ⟨text, htext⟩ := hholds x hmem
        exact htext.within.mono (by omega)
      · refine .intro fun c hc => ?_
        rw [hafter.children x hlt hmem] at hc
        exact ih c hc (hdoc.child_lt hc)

variable {start id : Nat} (hstart : start < doc.size)

include hstart

/-- A binding that a walk leads to has been there before its page was retold. -/
theorem isBinding_of_retold (hholds : ∀ x ∈ ids, ∃ text, after.HoldsText x text)
    (hwalk : ReflTransGen after.Child start id) (hbinding : after.isBinding id = true) :
    ReflTransGen doc.Child start id ∧ doc.isBinding id = true := by
  have hsame : ∀ p < doc.size, p ∉ ids → ∀ c ∈ after.children p, c ∈ doc.children p ∧ c < doc.size := by
    intro p hp hkeep c hc
    rw [hafter.children p hp hkeep] at hc
    exact ⟨hc, hdoc.child_lt hc⟩
  rcases walk_or_text hsame hholds hstart hwalk with ⟨hold, hlt⟩ | ⟨htext, _⟩
  · rw [isBinding_congr (hafter.attributes hlt)] at hbinding
    exact ⟨hold, hbinding⟩
  · rw [text?_eq_none_of_isBinding hbinding] at htext
    cases htext

/-- A walk that leads to a binding is still there after its page has been retold. -/
theorem walk_of_isBinding (hholds : ∀ x ∈ ids, ∃ text, doc.HoldsText x text)
    (hwalk : ReflTransGen doc.Child start id) (hbinding : doc.isBinding id = true) :
    ReflTransGen after.Child start id := by
  have hsame : ∀ p < doc.size, p ∉ ids → ∀ c ∈ doc.children p, c ∈ after.children p ∧ c < doc.size := by
    intro p hp hkeep c hc
    rw [hafter.children p hp hkeep]
    exact ⟨hc, hdoc.child_lt hc⟩
  rcases walk_or_text hsame hholds hstart hwalk with ⟨hnew, _⟩ | ⟨htext, _⟩
  · exact hnew
  · rw [text?_eq_none_of_isBinding hbinding] at htext
    cases htext

end Walks

end Placeholders.Document
