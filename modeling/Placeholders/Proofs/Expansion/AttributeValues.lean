import Placeholders.Proofs.Document.Links
import Placeholders.Proofs.Expansion.Targets

/-!
# Replacing the tokens in attribute values

* `Attributed` says what the pass through attribute values leaves as it was: everything but the
  attributes of elements, and of these all whose values are not sealed.
* A value that the pass has gone through holds no token or is sealed (`sealed_or_hits_eq_nil`).
* No attribute is added, and none is taken away (`map_fst_expandAttributes`).
* Documents that are `AlikeBelow` a number stay so if the same is written in both.
-/

namespace Placeholders

open Placeholders.Markup Placeholders.Text

theorem Markup.Attributes.mem_set_of_ne {attributes : Attributes} {name other value v : String}
    (h : other ≠ name) : (other, v) ∈ attributes.set name value ↔ (other, v) ∈ attributes := by
  induction attributes with
  | nil => simp [set, h]
  | cons entry rest ih =>
      rw [set]
      split
      · rename_i hentry
        have hfirst : ∀ w, (other, v) ≠ (entry.1, w) := fun w heq => h ((Prod.mk.inj heq).1.trans hentry)
        rw [List.mem_cons, List.mem_cons]
        exact or_congr_left (iff_of_false (hfirst _) (hfirst entry.2))
      · rw [List.mem_cons, List.mem_cons, ih]

theorem Markup.Attributes.map_fst_set {attributes : Attributes} {name : String}
    (h : name ∈ attributes.map (·.1)) (value : String) :
    (attributes.set name value).map (·.1) = attributes.map (·.1) := by
  induction attributes with
  | nil => cases h
  | cons entry rest ih =>
      rw [set]
      split
      · rfl
      · rename_i hne
        have hrest := (List.mem_cons.mp h).resolve_left (Ne.symm hne)
        rw [List.map_cons, List.map_cons, ih hrest]

namespace Document

variable {doc after last : Document}

/-! ## 1. What stays as it is -/

/-- The same nodes in the same places, but for attributes, and of these all that are not sealed. -/
structure Attributed (doc after : Document) : Prop where
  size_eq : after.size = doc.size
  parent : ∀ x, after.parent? x = doc.parent? x
  children : ∀ x, after.children x = doc.children x
  payload : ∀ x, ∃ f, after.payload? x = (doc.payload? x).map (Payload.mapAttributes f)
  sealedTexts : after.sealedTexts = doc.sealedTexts
  kept : ∀ x name, doc.isSealedAttribute x name = true → after.isSealedAttribute x name = true
  unsealed : ∀ x name, after.isSealedAttribute x name = false →
    ∀ value, (name, value) ∈ after.attributes x ↔ (name, value) ∈ doc.attributes x

namespace Attributed

theorem refl (doc : Document) : doc.Attributed doc where
  size_eq := rfl
  parent _ := rfl
  children _ := rfl
  payload x := ⟨id, by
    have hid : Payload.mapAttributes id = id := by
      funext payload
      cases payload <;> rfl
    rw [hid, Option.map_id]
    rfl⟩
  sealedTexts := rfl
  kept _ _ h := h
  unsealed _ _ _ _ := Iff.rfl

theorem trans (h : doc.Attributed after) (h' : after.Attributed last) : doc.Attributed last where
  size_eq := h'.size_eq.trans h.size_eq
  parent x := (h'.parent x).trans (h.parent x)
  children x := (h'.children x).trans (h.children x)
  payload x := by
    obtain ⟨f, hf⟩ := h.payload x
    obtain ⟨k, hk⟩ := h'.payload x
    refine ⟨k ∘ f, ?_⟩
    rw [hk, hf, Option.map_map]
    congr 1
    funext payload
    cases payload <;> rfl
  sealedTexts := h'.sealedTexts.trans h.sealedTexts
  kept x name hsealed := h'.kept x name (h.kept x name hsealed)
  unsealed x name hopen value := by
    rw [h'.unsealed x name hopen value]
    refine h.unsealed x name (Bool.eq_false_iff.mpr fun hsealed => ?_) value
    rw [h'.kept x name hsealed] at hopen
    cases hopen

theorem text? (h : doc.Attributed after) (x : Nat) : after.text? x = doc.text? x := by
  obtain ⟨f, hf⟩ := h.payload x
  simp only [Document.text?, hf]
  cases doc.payload? x with
  | none => rfl
  | some payload => cases payload <;> rfl

theorem tag? (h : doc.Attributed after) (x : Nat) : after.tag? x = doc.tag? x := by
  obtain ⟨f, hf⟩ := h.payload x
  simp only [Document.tag?, hf]
  cases doc.payload? x with
  | none => rfl
  | some payload => cases payload <;> rfl

theorem isSealedText (h : doc.Attributed after) (x : Nat) :
    after.isSealedText x = doc.isSealedText x := by
  simp only [Document.isSealedText, h.sealedTexts]

theorem linked (h : doc.Attributed after) (hdoc : doc.Linked) : after.Linked := by
  refine ⟨fun p c => ?_, fun p => ?_⟩
  · rw [h.children, h.parent, hdoc.mirrored]
  · rw [h.children]
    exact hdoc.distinct p

end Attributed

/-! ## 2. One value -/

/-- Writes a value and seals it. -/
def writeAttribute (doc : Document) (id : Nat) (name value : String) : Document :=
  (doc.setAttribute id name value).sealAttribute id name

theorem payload?_writeAttribute (doc : Document) (id : Nat) (name value : String) (x : Nat) :
    (doc.writeAttribute id name value).payload? x =
      if x = id then (doc.payload? x).map (Payload.mapAttributes (·.set name value))
      else doc.payload? x :=
  payload?_modify (fun _ => rfl) x

theorem attributes_writeAttribute_of_ne {id x : Nat} (h : x ≠ id) (name value : String) :
    (doc.writeAttribute id name value).attributes x = doc.attributes x := by
  simp only [attributes, payload?_writeAttribute, if_neg h]

theorem attribute?_writeAttribute_of_ne {name other : String} (h : other ≠ name) (id : Nat)
    (value : String) (x : Nat) :
    (doc.writeAttribute id name value).attribute? x other = doc.attribute? x other := by
  by_cases hx : x = id
  · simp only [attribute?, attributes, payload?_writeAttribute, if_pos hx]
    rcases doc.payload? x with _ | payload
    · rfl
    · cases payload with
      | element tag attributes => exact (Attributes.get?_set _ _ _ _).trans (if_neg (Ne.symm h))
      | _ => rfl
  · simp only [attribute?, attributes_writeAttribute_of_ne hx]

theorem isSealedAttribute_writeAttribute (doc : Document) (id : Nat) (name value : String) (x : Nat)
    (other : String) : (doc.writeAttribute id name value).isSealedAttribute x other = true ↔
      (x = id ∧ other = name) ∨ doc.isSealedAttribute x other = true := by
  simp [isSealedAttribute, writeAttribute, sealAttribute, setAttribute, mapAttributes, modify]

theorem attributed_writeAttribute (doc : Document) (id : Nat) (name value : String) :
    doc.Attributed (doc.writeAttribute id name value) where
  size_eq := size_modify doc id _
  parent x := by
    change (doc.modify id _).parent? x = _
    rw [parent?_modify_of_eq]
    exact fun _ => rfl
  children x := by
    change (doc.modify id _).children x = _
    rw [children_modify_of_eq]
    exact fun _ => rfl
  payload x := by
    rw [payload?_writeAttribute]
    split
    · exact ⟨_, rfl⟩
    · exact (Attributed.refl doc).payload x
  sealedTexts := rfl
  kept x other h := (isSealedAttribute_writeAttribute doc id name value x other).mpr (.inr h)
  unsealed x other hopen v := by
    have hne : ¬ (x = id ∧ other = name) := fun h => by
      rw [(isSealedAttribute_writeAttribute doc id name value x other).mpr (.inl h)] at hopen
      cases hopen
    by_cases hx : x = id
    · subst hx
      have hother : other ≠ name := fun h => hne ⟨rfl, h⟩
      simp only [attributes, payload?_writeAttribute, if_true]
      cases doc.payload? x with
      | none => exact Iff.rfl
      | some payload =>
          cases payload with
          | element tag attributes => exact Attributes.mem_set_of_ne hother
          | _ => exact Iff.rfl
    · rw [attributes_writeAttribute_of_ne hx]

/-- A value is passed over, because it is sealed or nothing is found in it, or written and sealed. -/
theorem expandAttribute_cases (doc : Document) (lexicon : Lexicon Target) (id : Nat)
    (name value : String) :
    ((doc.isSealedAttribute id name = true ∨ hits lexicon value.toList = []) ∧
      doc.expandAttribute lexicon id name value = (doc, [])) ∨
    (doc.isSealedAttribute id name = false ∧ hits lexicon value.toList ≠ [] ∧
      doc.expandAttribute lexicon id name value =
        (doc.writeAttribute id name (String.ofList
          (replaceAll lexicon (fun t => t.value.toList) value.toList)), hits lexicon value.toList)) := by
  unfold expandAttribute
  by_cases hsealed : doc.isSealedAttribute id name = true
  · exact .inl ⟨.inl hsealed, by rw [if_pos hsealed]⟩
  · rw [if_neg hsealed]
    cases hfound : hits lexicon value.toList with
    | nil => exact .inl ⟨.inr rfl, rfl⟩
    | cons t rest => exact .inr ⟨by simpa using hsealed, by simp, rfl⟩

theorem attributed_expandAttribute (doc : Document) (lexicon : Lexicon Target) (id : Nat)
    (name value : String) : doc.Attributed (doc.expandAttribute lexicon id name value).1 := by
  rcases expandAttribute_cases doc lexicon id name value with ⟨_, heq⟩ | ⟨_, _, heq⟩
  · rw [heq]
    exact .refl doc
  · rw [heq]
    exact attributed_writeAttribute doc id name _

theorem attributes_expandAttribute_of_ne {id x : Nat} (h : x ≠ id) (lexicon : Lexicon Target)
    (name value : String) :
    (doc.expandAttribute lexicon id name value).1.attributes x = doc.attributes x := by
  rcases expandAttribute_cases doc lexicon id name value with ⟨_, heq⟩ | ⟨_, _, heq⟩
  · rw [heq]
  · rw [heq]
    exact attributes_writeAttribute_of_ne h name _

/-! ## 3. Several values -/

theorem expandAttributes_cons (doc : Document) (lexicon : Lexicon Target) (id : Nat)
    (name value : String) (rest : List (Nat × String × String)) :
    doc.expandAttributes lexicon ((id, name, value) :: rest) =
      (((doc.expandAttribute lexicon id name value).1.expandAttributes lexicon rest).1,
        (doc.expandAttribute lexicon id name value).2 ++
          ((doc.expandAttribute lexicon id name value).1.expandAttributes lexicon rest).2) :=
  rfl

/-- **The pass through attribute values changes nothing but the values that it seals.** -/
theorem attributed_expandAttributes (doc : Document) (lexicon : Lexicon Target)
    (entries : List (Nat × String × String)) :
    doc.Attributed (doc.expandAttributes lexicon entries).1 := by
  induction entries generalizing doc with
  | nil => exact .refl doc
  | cons entry rest ih =>
      rw [expandAttributes_cons]
      exact (attributed_expandAttribute doc lexicon _ _ _).trans (ih _)

theorem attributes_expandAttributes_of_not_mem {x : Nat} (lexicon : Lexicon Target)
    {entries : List (Nat × String × String)} (h : ∀ entry ∈ entries, entry.1 ≠ x) :
    (doc.expandAttributes lexicon entries).1.attributes x = doc.attributes x := by
  induction entries generalizing doc with
  | nil => rfl
  | cons entry rest ih =>
      obtain ⟨hne, hrest⟩ := List.forall_mem_cons.mp h
      rw [expandAttributes_cons]
      exact (ih hrest).trans (attributes_expandAttribute_of_ne (Ne.symm hne) lexicon _ _)

theorem map_fst_expandAttribute (lexicon : Lexicon Target) {id : Nat} {name : String}
    (h : name ∈ (doc.attributes id).map (·.1)) (value : String) (x : Nat) :
    ((doc.expandAttribute lexicon id name value).1.attributes x).map (·.1) =
      (doc.attributes x).map (·.1) := by
  by_cases hx : x = id
  · subst hx
    rcases expandAttribute_cases doc lexicon x name value with ⟨_, heq⟩ | ⟨_, _, heq⟩
    · rw [heq]
    · rw [heq]
      simp only [attributes, payload?_writeAttribute, if_true] at h ⊢
      cases hpayload : doc.payload? x with
      | none => rfl
      | some payload =>
          rw [hpayload] at h
          cases payload with
          | element tag attributes => exact Attributes.map_fst_set h _
          | root | doctype | comment | text => rfl
  · rw [attributes_expandAttribute_of_ne hx]

/-- **The pass writes values only under names that are there.** -/
theorem map_fst_expandAttributes (lexicon : Lexicon Target) {entries : List (Nat × String × String)}
    (h : ∀ entry ∈ entries, entry.2.1 ∈ (doc.attributes entry.1).map (·.1)) (x : Nat) :
    ((doc.expandAttributes lexicon entries).1.attributes x).map (·.1) =
      (doc.attributes x).map (·.1) := by
  induction entries generalizing doc with
  | nil => rfl
  | cons entry rest ih =>
      obtain ⟨hentry, hrest⟩ := List.forall_mem_cons.mp h
      have hnames := map_fst_expandAttribute lexicon hentry entry.2.2
      rw [expandAttributes_cons, ih fun other hother => ?_, hnames x]
      rw [hnames other.1]
      exact hrest other hother

/-- **A value that the pass has gone through holds no token, or is sealed.** -/
theorem sealed_or_hits_eq_nil (doc : Document) (lexicon : Lexicon Target)
    {entries : List (Nat × String × String)} {x : Nat} {name value : String}
    (h : (x, name, value) ∈ entries) :
    (doc.expandAttributes lexicon entries).1.isSealedAttribute x name = true ∨
      hits lexicon value.toList = [] := by
  induction entries generalizing doc with
  | nil => exact absurd h List.not_mem_nil
  | cons entry rest ih =>
      rcases List.mem_cons.mp h with rfl | h
      · have hkept := (attributed_expandAttributes (doc.expandAttribute lexicon x name value).1 lexicon
          rest).kept x name
        rw [expandAttributes_cons]
        rcases expandAttribute_cases doc lexicon x name value with ⟨hpassed, heq⟩ | ⟨_, _, heq⟩
        · rw [heq] at hkept ⊢
          exact hpassed.imp_left hkept
        · rw [heq] at hkept ⊢
          exact .inl (hkept ((isSealedAttribute_writeAttribute doc x name _ x name).mpr (.inl ⟨rfl, rfl⟩)))
      · exact ih _ h

/-- What is replaced is a token of the lexicon. -/
theorem mem_of_mem_expandAttributes {lexicon : Lexicon Target} (hproper : lexicon.Proper)
    {entries : List (Nat × String × String)} {t : Target}
    (h : t ∈ (doc.expandAttributes lexicon entries).2) : ∃ literal, (literal, t) ∈ lexicon := by
  induction entries generalizing doc with
  | nil => exact absurd h List.not_mem_nil
  | cons entry rest ih =>
      rw [expandAttributes_cons] at h
      rcases List.mem_append.mp h with h | h
      · rcases expandAttribute_cases doc lexicon entry.1 entry.2.1 entry.2.2 with
          ⟨_, heq⟩ | ⟨_, _, heq⟩
        · rw [heq] at h
          cases h
        · rw [heq] at h
          exact hproper.mem_of_mem_hits h
      · exact ih h

/-- Where every value is sealed or holds no token, nothing happens. -/
theorem expandAttributes_eq_self {lexicon : Lexicon Target} {entries : List (Nat × String × String)}
    (h : ∀ entry ∈ entries, doc.isSealedAttribute entry.1 entry.2.1 = true ∨
      hits lexicon entry.2.2.toList = []) : doc.expandAttributes lexicon entries = (doc, []) := by
  induction entries with
  | nil => rfl
  | cons entry rest ih =>
      obtain ⟨hpassed, hrest⟩ := List.forall_mem_cons.mp h
      have heq : doc.expandAttribute lexicon entry.1 entry.2.1 entry.2.2 = (doc, []) := by
        rcases expandAttribute_cases doc lexicon entry.1 entry.2.1 entry.2.2 with
          ⟨_, heq⟩ | ⟨hopen, hfound, _⟩
        · exact heq
        · rcases hpassed with hsealed | hnone
          · rw [hsealed] at hopen
            cases hopen
          · exact absurd hnone hfound
      obtain ⟨id, name, value⟩ := entry
      rw [expandAttributes_cons, heq, ih hrest]
      rfl

/-! ## 4. Two documents side by side -/

/-- The same payloads up to a number, and the same seals on attributes. -/
structure AlikeBelow (n : Nat) (doc after : Document) : Prop where
  payload : ∀ x < n, after.payload? x = doc.payload? x
  seals : after.sealedAttributes = doc.sealedAttributes

namespace AlikeBelow

variable {n : Nat}

theorem isSealedAttribute (h : AlikeBelow n doc after) (id : Nat) (name : String) :
    after.isSealedAttribute id name = doc.isSealedAttribute id name := by
  simp only [Document.isSealedAttribute, h.seals]

theorem writeAttribute (h : AlikeBelow n doc after) (id : Nat) (name value : String) :
    AlikeBelow n (doc.writeAttribute id name value) (after.writeAttribute id name value) where
  payload x hx := by rw [payload?_writeAttribute, payload?_writeAttribute, h.payload x hx]
  seals := by
    change (id, name) :: after.sealedAttributes = (id, name) :: doc.sealedAttributes
    rw [h.seals]

theorem expandAttribute (h : AlikeBelow n doc after) {lexicon : Lexicon Target} {id : Nat}
    {name value : String} {f : Target → Target}
    (hf : ∀ t ∈ (doc.expandAttribute lexicon id name value).2, (f t).value = t.value) :
    AlikeBelow n (doc.expandAttribute lexicon id name value).1
      (after.expandAttribute (lexicon.mapTargets f) id name value).1 := by
  have hhits := hits_mapTargets f lexicon value.toList
  rcases expandAttribute_cases doc lexicon id name value with
      ⟨hpassed, heq⟩ | ⟨hopen, hfound, heq⟩ <;>
    rcases expandAttribute_cases after (lexicon.mapTargets f) id name value with
      ⟨hpassed', heq'⟩ | ⟨hopen', hfound', heq'⟩ <;>
    rw [h.isSealedAttribute, hhits] at * <;> rw [heq] at hf ⊢ <;> rw [heq']
  · exact h
  · rcases hpassed with hsealed | hnone
    · rw [hsealed] at hopen'
      cases hopen'
    · exact absurd (by rw [hnone, List.map_nil]) hfound'
  · rcases hpassed' with hsealed | hnone
    · rw [hsealed] at hopen
      cases hopen
    · exact absurd (List.map_eq_nil_iff.mp hnone) hfound
  · have hsame : replaceAll (lexicon.mapTargets f) (fun t => t.value.toList) value.toList =
        replaceAll lexicon (fun t => t.value.toList) value.toList :=
      replaceAll_mapTargets fun t ht => congrArg String.toList (hf t ht)
    rw [hsame]
    exact h.writeAttribute id name _

/-- **The pass writes the same in both documents**, if the tokens that it replaces stand for the same. -/
theorem expandAttributes (h : AlikeBelow n doc after) {lexicon : Lexicon Target}
    {entries : List (Nat × String × String)} {f : Target → Target}
    (hf : ∀ t ∈ (doc.expandAttributes lexicon entries).2, (f t).value = t.value) :
    AlikeBelow n (doc.expandAttributes lexicon entries).1
      (after.expandAttributes (lexicon.mapTargets f) entries).1 := by
  induction entries generalizing doc after with
  | nil => exact h
  | cons entry rest ih =>
      rw [expandAttributes_cons] at hf
      rw [expandAttributes_cons, expandAttributes_cons]
      refine ih (h.expandAttribute fun t ht => ?_) fun t ht => ?_
      · exact hf t (List.mem_append_left _ ht)
      · exact hf t (List.mem_append_right _ ht)

end AlikeBelow

/-- The pass sets no attributes but those that it has gone through. -/
theorem attribute?_expandAttributes {x : Nat} {name : String} (lexicon : Lexicon Target)
    {entries : List (Nat × String × String)} (h : ∀ entry ∈ entries, entry.2.1 ≠ name) :
    (doc.expandAttributes lexicon entries).1.attribute? x name = doc.attribute? x name := by
  induction entries generalizing doc with
  | nil => rfl
  | cons entry rest ih =>
      obtain ⟨hne, hrest⟩ := List.forall_mem_cons.mp h
      rw [expandAttributes_cons]
      refine (ih hrest).trans ?_
      rcases expandAttribute_cases doc lexicon entry.1 entry.2.1 entry.2.2 with ⟨_, heq⟩ | ⟨_, _, heq⟩
      · rw [heq]
      · rw [heq]
        exact attribute?_writeAttribute_of_ne (Ne.symm hne) entry.1 _ x

end Document

end Placeholders
