import Placeholders.Proofs.Document.Seals
import Placeholders.Proofs.Expansion.Parts

/-!
# Replacing the tokens in texts

* `Shows` says what the node of a part looks like. Of the new nodes those of values are sealed, and no
  others (`SealsValues`).
* `insertParts_spec`: the nodes of the parts of a text come to stand before it, as one group.
* `expandUnsealed_spec` and `expandTexts_spec`: a text in which something is replaced gives its place to
  the nodes of its parts, and nothing else that was there changes.
-/

namespace Placeholders.Document

open Placeholders.Markup Placeholders.Text

variable {doc after : Document} {g : Nat → List Nat}

/-! ## 1. The nodes of parts -/

/-- The attributes of a new binding. -/
def bindingAttributes (name : String) (editor : Bool) : Attributes :=
  [(Attributes.classAttribute,
      if editor then s!"{Binding.valueClass} {Binding.requestClass}" else Binding.valueClass),
    (Binding.nameAttribute, name)]

/-- The node of a part. -/
def Shows (doc : Document) (id : Nat) : Part → Prop
  | .plain text => doc.payload? id = some (.text (String.ofList text)) ∧ doc.children id = []
  | .value text =>
    doc.payload? id = some (.text text) ∧ doc.children id = [] ∧ doc.isSealedText id = true
  | .binding t editor =>
    doc.payload? id = some (.element "span" (bindingAttributes t.name editor)) ∧
      doc.HoldsText id t.value

theorem Shows.lt {id : Nat} {part : Part} (h : doc.Shows id part) : id < doc.size := by
  cases part with
  | plain text => exact lt_of_payload? h.1
  | value text => exact lt_of_payload? h.1
  | binding t editor => exact lt_of_payload? h.1

theorem HoldsText.regrouped {id : Nat} {text : String} (h : doc.HoldsText id text)
    (hregrouped : doc.Regrouped after g) (hid : id < doc.size)
    (halone : ∀ c ∈ doc.children id, g c = [c]) : after.HoldsText id text := by
  have hchildren : after.children id = doc.children id := by
    rw [hregrouped.children id hid, List.flatMap_congr (g := alone) halone, flatMap_alone]
  unfold HoldsText at h ⊢
  split
  · rename_i hempty
    rw [if_pos hempty] at h
    rw [hchildren, h]
  · rename_i hne
    rw [if_neg hne] at h
    obtain ⟨k, hk, htext, hleaf⟩ := h
    have hlt := lt_of_payload? htext
    refine ⟨k, hchildren.trans hk, (hregrouped.payload k hlt).trans htext, ?_⟩
    rw [hregrouped.children k hlt, hleaf]
    rfl

/-- The node of a part stays one as long as nothing gives its place up in it. -/
theorem Shows.regrouped {id : Nat} {part : Part} (h : doc.Shows id part)
    (hregrouped : doc.Regrouped after g) (halone : ∀ c ∈ doc.children id, g c = [c]) :
    after.Shows id part := by
  have hlt := h.lt
  cases part with
  | plain text =>
      refine ⟨(hregrouped.payload id hlt).trans h.1, ?_⟩
      rw [hregrouped.children id hlt, h.2]
      rfl
  | value text =>
      refine ⟨(hregrouped.payload id hlt).trans h.1, ?_, (hregrouped.sealedText id hlt).trans h.2.2⟩
      rw [hregrouped.children id hlt, h.2.1]
      rfl
  | binding t editor =>
      exact ⟨(hregrouped.payload id hlt).trans h.1, h.2.regrouped hregrouped hlt halone⟩

/-- **The node of a part is new, has no place yet, and shows the part.** -/
theorem createPart_spec (hdoc : doc.Linked) (part : Part) :
    (doc.createPart part).2 = doc.size ∧ (doc.createPart part).1.Linked ∧
      doc.Regrouped (doc.createPart part).1 alone ∧ (doc.createPart part).1.Shows doc.size part ∧
      (doc.createPart part).1.parent? doc.size = none := by
  have hfree : ∀ payload : Payload, (doc.create payload).1.parent? doc.size = none := by
    intro payload
    rw [parent?_create, parent?_eq_none (Nat.le_refl _)]
  have hmade : ∀ payload : Payload, (doc.create payload).1.payload? doc.size = some payload := by
    intro payload
    rw [payload?_create, if_pos rfl]
  have hleaf : ∀ payload : Payload, (doc.create payload).1.children doc.size = [] := by
    intro payload
    rw [children_create, children_eq_nil (Nat.le_refl _)]
  cases part with
  | plain text => exact ⟨rfl, hdoc.create _, (Regrouped.refl doc).create _, ⟨hmade _, hleaf _⟩, hfree _⟩
  | value text =>
      refine ⟨rfl, ?_, ((Regrouped.refl doc).create _).sealText (Nat.le_refl _), ⟨hmade _, hleaf _, ?_⟩,
        hfree _⟩
      · exact ⟨(hdoc.create (.text text)).mirrored, (hdoc.create (.text text)).distinct⟩
      · simp [createPart, sealText, isSealedText]
  | binding t editor =>
      have hspan := hdoc.create (.element "span" (bindingAttributes t.name editor))
      have hkept := (Regrouped.refl doc).create (.element "span" (bindingAttributes t.name editor))
      by_cases hempty : t.value = ""
      · have heq : doc.createPart (.binding t editor) =
            doc.create (.element "span" (bindingAttributes t.name editor)) := by
          simp only [createPart, bindingAttributes, hempty]
          rfl
        rw [heq]
        refine ⟨rfl, hspan, hkept, ⟨hmade _, ?_⟩, hfree _⟩
        rw [HoldsText, if_pos hempty]
        exact hleaf _
      · have heq : doc.createPart (.binding t editor) =
            ((doc.create (.element "span" (bindingAttributes t.name editor))).1.appendNew doc.size
              (.text t.value), doc.size) := by
          simp [createPart, bindingAttributes, hempty, String.isEmpty_iff]
        rw [heq]
        have hlt : doc.size < (doc.create (.element "span" (bindingAttributes t.name editor))).1.size := by
          simp
        refine ⟨rfl, hspan.appendNew hlt _, ?_, ⟨?_, ?_⟩, ?_⟩
        · simp only [appendNew_eq]
          exact (hkept.create _).place (Nat.le_refl _) (by simp only [size_create]; omega) _
        · simp only [payload?_appendNew]
          rw [if_neg (Nat.ne_of_lt hlt)]
          exact hmade _
        · rw [HoldsText, if_neg hempty]
          refine ⟨doc.size + 1, ?_, ?_, ?_⟩
          · rw [children_appendNew hlt, if_pos rfl, hleaf]
            simp
          · rw [payload?_appendNew, if_pos (by simp)]
          · rw [children_appendNew hlt, if_neg (by omega), children_create,
              children_eq_nil (Nat.le_succ _)]
        · simp only [parent?_appendNew]
          rw [if_neg (Nat.ne_of_lt hlt)]
          exact hfree _

/-! ## 2. Seals -/

/-- What was sealed is still sealed, and of some new nodes those of values are. -/
def SealsValues (doc after : Document) (news : List (Nat × Part)) : Prop :=
  ∀ x, after.isSealedText x = true ↔
    doc.isSealedText x = true ∨ ∃ text, (x, Part.value text) ∈ news

theorem sealsValues_nil (h : after.sealedTexts = doc.sealedTexts) : doc.SealsValues after [] :=
  fun x => by simp [isSealedText, h]

theorem SealsValues.append {middle : Document} {news more : List (Nat × Part)}
    (h : doc.SealsValues middle news) (h' : middle.SealsValues after more) :
    doc.SealsValues after (news ++ more) := by
  intro x
  rw [h' x, h x, or_assoc]
  simp only [List.mem_append, exists_or]

/-- The node of a part is sealed if the part is a value. -/
theorem sealsValues_createPart (doc : Document) (part : Part) :
    doc.SealsValues (doc.createPart part).1 [(doc.size, part)] := by
  intro x
  cases part with
  | plain text => simp [createPart, create, isSealedText]
  | value text =>
      simp only [createPart, sealText, isSealedText, create, List.contains_cons, Bool.or_eq_true,
        beq_iff_eq, List.mem_singleton, Prod.mk.injEq, Part.value.injEq, exists_and_left]
      exact ⟨fun h => h.elim (fun hx => .inr ⟨hx, text, rfl⟩) .inl,
        fun h => h.elim .inr fun hx => .inl hx.1⟩
  | binding t editor =>
      have hkept : (doc.createPart (.binding t editor)).1.sealedTexts = doc.sealedTexts := by
        simp only [createPart]
        split
        · rfl
        · rw [appendNew_eq]
          rfl
      simp [isSealedText, hkept]

theorem sealsValues_insertPart (doc : Document) (reference : Nat) (part : Part) :
    doc.SealsValues (doc.insertPart reference part) [(doc.size, part)] := by
  have hmade := sealsValues_createPart doc part
  unfold insertPart
  dsimp only
  cases hafter : (doc.createPart part).1.insertBefore? reference (doc.createPart part).2 with
  | none => exact hmade
  | some after =>
      have hseals := hmade.append (sealsValues_nil (sameSeals_insertBefore? hafter).sealedTexts)
      rwa [List.append_nil] at hseals

/-! ## 3. Inserting them -/

theorem insertPart_spec (hdoc : doc.Linked) {reference p : Nat}
    (hparent : doc.parent? reference = some p) (part : Part) :
    (doc.insertPart reference part).Linked ∧
      doc.Regrouped (doc.insertPart reference part) (inPlaceOf reference [doc.size, reference]) ∧
      (doc.insertPart reference part).Shows doc.size part := by
  obtain ⟨hid, hmade, hkept, hshows, hfree⟩ := createPart_spec hdoc part
  have hparent' := hkept.parent? hdoc hmade hparent rfl
  obtain ⟨after, hafter⟩ : ∃ after,
      (doc.createPart part).1.insertBefore? reference doc.size = some after :=
    ⟨_, insertBefore?_eq hparent'⟩
  have heq : doc.insertPart reference part = after := by
    change ((doc.createPart part).1.insertBefore? reference (doc.createPart part).2).getD _ = after
    rw [hid, hafter]
    rfl
  have hregrouped := regrouped_insertBefore? hmade hparent' hfree hafter
  rw [heq]
  refine ⟨hmade.insertBefore? hshows.lt hafter, ?_, ?_⟩
  · exact (hkept.trans hregrouped).congr fun x c _ => List.flatMap_singleton _ c
  · refine hshows.regrouped hregrouped fun c hc => inPlaceOf_of_ne ?_ _
    -- a child of the new node is no child of an old one
    rintro rfl
    have hp : p < doc.size := lt_of_mem_children ((hdoc.mirrored p c).mpr hparent)
    have hnew : p = doc.size := hmade.parent_unique ((hmade.mirrored p c).mpr hparent') hc
    omega

/-- Puts the nodes of parts before another node. -/
def insertParts (doc : Document) (reference : Nat) (parts : List Part) : Document :=
  parts.foldl (fun doc part => doc.insertPart reference part) doc

/-- **The nodes of parts come to stand before a node, as a group with it.** -/
theorem insertParts_spec (hdoc : doc.Linked) {reference p : Nat}
    (hparent : doc.parent? reference = some p) (parts : List Part) :
    (doc.insertParts reference parts).Linked ∧ ∃ news,
      doc.Regrouped (doc.insertParts reference parts) (inPlaceOf reference (news ++ [reference])) ∧
      List.Forall₂ (doc.insertParts reference parts).Shows news parts ∧
      (∀ n ∈ news, doc.size ≤ n) ∧
      doc.SealsValues (doc.insertParts reference parts) (news.zip parts) := by
  induction parts generalizing doc with
  | nil =>
      refine ⟨hdoc, [], (Regrouped.refl doc).congr fun x c _ => ?_, .nil,
        fun n hn => absurd hn List.not_mem_nil, sealsValues_nil rfl⟩
      by_cases hc : c = reference
      · rw [hc, inPlaceOf_self]
        rfl
      · rw [inPlaceOf_of_ne hc]
        rfl
  | cons part parts ih =>
      obtain ⟨hnext, hfirst, hshows⟩ := insertPart_spec hdoc hparent part
      have hmem := (hdoc.mirrored p reference).mpr hparent
      have hparent' : (doc.insertPart reference part).parent? reference = some p := by
        rw [← hnext.mirrored, hfirst.children p (lt_of_mem_children hmem)]
        refine List.mem_flatMap.mpr ⟨reference, hmem, ?_⟩
        rw [inPlaceOf_self]
        exact List.mem_cons_of_mem _ (List.mem_singleton_self reference)
      obtain ⟨hlinked, news, hrest, hall, hfresh, hseals⟩ := ih hnext hparent'
      have hne : doc.size ≠ reference := Nat.ne_of_gt (lt_of_parent? hparent)
      refine ⟨hlinked, doc.size :: news, ?_, .cons (hshows.regrouped hrest fun c hc => ?_) hall, ?_,
        (sealsValues_insertPart doc reference part).append hseals⟩
      · refine (hfirst.trans hrest).congr fun x c _ => ?_
        by_cases hc : c = reference
        · rw [hc, inPlaceOf_self, inPlaceOf_self, List.flatMap_cons, List.flatMap_singleton,
            inPlaceOf_of_ne hne, inPlaceOf_self]
          rfl
        · rw [inPlaceOf_of_ne hc, inPlaceOf_of_ne hc, List.flatMap_singleton, inPlaceOf_of_ne hc]
      · refine inPlaceOf_of_ne ?_ _
        rintro rfl
        have hp : p < doc.size := lt_of_mem_children hmem
        have hnew := hnext.parent_unique ((hnext.mirrored p c).mpr hparent') hc
        omega
      · refine List.forall_mem_cons.mpr ⟨Nat.le_refl _, fun n hn => ?_⟩
        exact Nat.le_trans hfirst.size_le (hfresh n hn)

/-! ## 4. One text -/

/-- Whether no markup is read where a node stands. -/
def isRawAt (doc : Document) (id : Nat) : Bool := (doc.parent? id).any doc.isRawElement

/-- The content of a text, as characters. -/
def chars (doc : Document) (id : Nat) : List Char := ((doc.text? id).getD "").toList

/-- The parts of a text. -/
def partsAt (doc : Document) (lexicon : Lexicon Target) (id : Nat) : List Part :=
  (partsFrom (doc.isRawAt id) [] (cut lexicon (doc.chars id))).1

/-- The tokens in a text that a pass replaces. -/
def replacedAt (doc : Document) (lexicon : Lexicon Target) (id : Nat) : List Target :=
  if doc.isSealedText id then [] else replacedIn lexicon (doc.isRawAt id) (doc.chars id)

/-- The parts that a text gives its place to: none, if nothing in it is replaced. -/
def newParts (doc : Document) (lexicon : Lexicon Target) (id : Nat) : List Part :=
  if doc.replacedAt lexicon id = [] then [] else doc.partsAt lexicon id

/-- The bindings among the parts of a text are of tokens that are looked for. -/
theorem exists_literal_of_mem_partsAt {lexicon : Lexicon Target} (hproper : lexicon.Proper) {id : Nat}
    {t : Target} {editor : Bool} (h : .binding t editor ∈ doc.partsAt lexicon id) :
    ∃ literal, (literal, t) ∈ lexicon := by
  have hreplaced := mem_partsFrom_snd h
  rw [partsFrom_snd] at hreplaced
  exact hproper.mem_of_mem_hits (List.mem_filter.mp hreplaced).1

/-- A text gives its place to the nodes of its parts if anything in it is replaced. -/
structure Replaces (doc after : Document) (lexicon : Lexicon Target) (id : Nat)
    (news : List Nat) : Prop where
  untouched : doc.replacedAt lexicon id = [] → news = [id]
  shows : doc.replacedAt lexicon id ≠ [] → List.Forall₂ after.Shows news (doc.partsAt lexicon id)
  fresh : doc.replacedAt lexicon id ≠ [] → ∀ n ∈ news, doc.size ≤ n

/-- What stands in the place of a text is the text itself, or the node of a part. -/
theorem Replaces.mem_cases {lexicon : Lexicon Target} {id n : Nat} {news : List Nat}
    (h : doc.Replaces after lexicon id news) (hn : n ∈ news) :
    (n = id ∧ doc.replacedAt lexicon id = []) ∨
      (doc.size ≤ n ∧ ∃ part ∈ doc.partsAt lexicon id, after.Shows n part) := by
  by_cases hnone : doc.replacedAt lexicon id = []
  · rw [h.untouched hnone, List.mem_singleton] at hn
    exact .inl ⟨hn, hnone⟩
  · obtain ⟨i, hi, rfl⟩ := List.mem_iff_getElem.mp hn
    have hlength := (h.shows hnone).length_eq
    exact .inr ⟨h.fresh hnone _ hn, _, List.getElem_mem (hlength ▸ hi),
      (h.shows hnone).get hi (hlength ▸ hi)⟩

theorem expandText_eq (doc : Document) (lexicon : Lexicon Target) (id : Nat) :
    doc.expandText lexicon id =
      if replacedIn lexicon (doc.isRawAt id) (doc.chars id) = [] then (doc, [])
      else ((doc.insertParts id (doc.partsAt lexicon id)).detach id,
        replacedIn lexicon (doc.isRawAt id) (doc.chars id)) := by
  have hsnd : replacedIn lexicon (doc.isRawAt id) (doc.chars id) =
      (partsFrom (doc.isRawAt id) [] (cut lexicon (doc.chars id))).2 := (partsFrom_snd _ _ _).symm
  rw [hsnd]
  rcases hfound : partsFrom (doc.isRawAt id) [] (cut lexicon (doc.chars id)) with ⟨parts, replaced⟩
  rw [partsAt, hfound]
  unfold isRawAt chars at hfound
  rw [expandText, hfound]
  cases replaced <;> simp [insertParts]

/-- What a pass does with one text. -/
def expandUnsealed (doc : Document) (lexicon : Lexicon Target) (id : Nat) : Document × List Target :=
  if doc.isSealedText id then (doc, []) else doc.expandText lexicon id

theorem regrouped_inPlaceOf_self (doc : Document) (id : Nat) :
    doc.Regrouped doc (inPlaceOf id [id]) :=
  (Regrouped.refl doc).congr fun x c _ => by
    by_cases hc : c = id
    · rw [hc, inPlaceOf_self]
      rfl
    · rw [inPlaceOf_of_ne hc]
      rfl

theorem expandUnsealed_of_nil {lexicon : Lexicon Target} {id : Nat}
    (h : doc.replacedAt lexicon id = []) : doc.expandUnsealed lexicon id = (doc, []) := by
  unfold expandUnsealed
  unfold replacedAt at h
  split
  · rfl
  · rename_i hsealed
    rw [if_neg hsealed] at h
    rw [expandText_eq, if_pos h]

/-- **A text gives its place to its parts, and nothing else changes.** -/
theorem expandUnsealed_spec (hdoc : doc.Linked) (lexicon : Lexicon Target) {id p : Nat}
    (hparent : doc.parent? id = some p) :
    (doc.expandUnsealed lexicon id).2 = doc.replacedAt lexicon id ∧
      (doc.expandUnsealed lexicon id).1.Linked ∧ ∃ news,
        doc.Regrouped (doc.expandUnsealed lexicon id).1 (inPlaceOf id news) ∧
        doc.Replaces (doc.expandUnsealed lexicon id).1 lexicon id news ∧
        doc.SealsValues (doc.expandUnsealed lexicon id).1 (news.zip (doc.newParts lexicon id)) := by
  by_cases hnone : doc.replacedAt lexicon id = []
  · rw [expandUnsealed_of_nil hnone, newParts, if_pos hnone, hnone]
    exact ⟨rfl, hdoc, [id], regrouped_inPlaceOf_self doc id,
      ⟨fun _ => rfl, fun h => absurd hnone h, fun h => absurd hnone h⟩, sealsValues_nil rfl⟩
  · have hopen : doc.isSealedText id = false := by
      by_contra hsealed
      simp [replacedAt, hsealed] at hnone
    have heq : doc.expandUnsealed lexicon id =
        ((doc.insertParts id (doc.partsAt lexicon id)).detach id, doc.replacedAt lexicon id) := by
      simp only [expandUnsealed, replacedAt, hopen, Bool.false_eq_true, if_false] at hnone ⊢
      rw [expandText_eq, if_neg hnone]
    obtain ⟨hlinked, news, hregrouped, hall, hfresh, hseals⟩ :=
      insertParts_spec hdoc hparent (doc.partsAt lexicon id)
    have hlt := lt_of_parent? hparent
    have hout := regrouped_detach hlinked id
    rw [heq, newParts, if_neg hnone]
    dsimp only
    refine ⟨rfl, hlinked.detach id, news, (hregrouped.trans hout).congr fun x c _ => ?_,
      ⟨fun h => absurd h hnone, fun _ => ?_, fun _ => hfresh⟩, fun x => ?_⟩
    · by_cases hc : c = id
      · rw [hc, inPlaceOf_self, inPlaceOf_self, List.flatMap_append, List.flatMap_singleton,
          inPlaceOf_self, List.append_nil, flatMap_inPlaceOf_of_not_mem]
        intro hmem
        have := hfresh id hmem
        omega
      · rw [inPlaceOf_of_ne hc, inPlaceOf_of_ne hc, List.flatMap_singleton, inPlaceOf_of_ne hc]
    · refine ((List.forall₂_and_left news (doc.partsAt lexicon id)).mpr ⟨hfresh, hall⟩).imp ?_
      rintro n part ⟨hn, hshows⟩
      refine hshows.regrouped hout fun c hc => inPlaceOf_of_ne ?_ _
      rintro rfl
      have hmem := (hdoc.mirrored p c).mpr hparent
      have hlast : c ∈ (doc.insertParts c (doc.partsAt lexicon c)).children p := by
        rw [hregrouped.children p (lt_of_mem_children hmem)]
        refine List.mem_flatMap.mpr ⟨c, hmem, ?_⟩
        rw [inPlaceOf_self]
        exact List.mem_append_right _ (List.mem_singleton_self c)
      have hold := lt_of_mem_children hmem
      have hsame := hlinked.parent_unique hlast hc
      omega
    · rw [← hseals x, isSealedText, isSealedText, sealedTexts_detach]

/-! ## 5. Several texts -/

theorem Regrouped.isRawAt (h : doc.Regrouped after g) (hdoc : doc.Linked) (hafter : after.Linked)
    {c p : Nat} (hparent : doc.parent? c = some p) (hc : g c = [c]) :
    after.isRawAt c = doc.isRawAt c := by
  have hp : p < doc.size := lt_of_mem_children ((hdoc.mirrored p c).mpr hparent)
  simp only [Document.isRawAt, hparent, h.parent? hdoc hafter hparent hc, Option.any_some,
    isRawElement, h.tag? hp]

theorem Regrouped.chars (h : doc.Regrouped after g) {c : Nat} (hc : c < doc.size) :
    after.chars c = doc.chars c := by
  simp only [Document.chars, h.text? hc]

theorem Regrouped.replacedAt (h : doc.Regrouped after g) (hdoc : doc.Linked) (hafter : after.Linked)
    {c p : Nat} (hparent : doc.parent? c = some p) (hc : g c = [c]) (lexicon : Lexicon Target) :
    after.replacedAt lexicon c = doc.replacedAt lexicon c := by
  have hlt := lt_of_parent? hparent
  simp only [Document.replacedAt, h.sealedText c hlt, h.isRawAt hdoc hafter hparent hc, h.chars hlt]

theorem Regrouped.partsAt (h : doc.Regrouped after g) (hdoc : doc.Linked) (hafter : after.Linked)
    {c p : Nat} (hparent : doc.parent? c = some p) (hc : g c = [c]) (lexicon : Lexicon Target) :
    after.partsAt lexicon c = doc.partsAt lexicon c := by
  simp only [Document.partsAt, h.isRawAt hdoc hafter hparent hc, h.chars (lt_of_parent? hparent)]

theorem expandTexts_cons (doc : Document) (lexicon : Lexicon Target) (id : Nat) (rest : List Nat) :
    doc.expandTexts lexicon (id :: rest) =
      (((doc.expandUnsealed lexicon id).1.expandTexts lexicon rest).1,
        (doc.expandUnsealed lexicon id).2 ++
          ((doc.expandUnsealed lexicon id).1.expandTexts lexicon rest).2) :=
  rfl

/-- Where nothing would be replaced in any text, nothing happens. -/
theorem expandTexts_eq_self {lexicon : Lexicon Target} {ids : List Nat}
    (h : ∀ id ∈ ids, doc.replacedAt lexicon id = []) : doc.expandTexts lexicon ids = (doc, []) := by
  induction ids with
  | nil => rfl
  | cons id rest ih =>
      obtain ⟨hid, hrest⟩ := List.forall_mem_cons.mp h
      rw [expandTexts_cons, expandUnsealed_of_nil hid, ih hrest]
      rfl

/-- **Texts give their places to their parts, each by itself, and nothing else changes.** -/
theorem expandTexts_spec (hdoc : doc.Linked) (lexicon : Lexicon Target) {ids : List Nat}
    (hnodup : ids.Nodup) (hids : ∀ id ∈ ids, ∃ p, doc.parent? id = some p) :
    (doc.expandTexts lexicon ids).2 = ids.flatMap (doc.replacedAt lexicon) ∧
      (doc.expandTexts lexicon ids).1.Linked ∧ ∃ group,
        doc.Regrouped (doc.expandTexts lexicon ids).1 group ∧ (∀ c, c ∉ ids → group c = [c]) ∧
        (∀ id ∈ ids, doc.Replaces (doc.expandTexts lexicon ids).1 lexicon id (group id)) ∧
        doc.SealsValues (doc.expandTexts lexicon ids).1
          (ids.flatMap fun id => (group id).zip (doc.newParts lexicon id)) := by
  induction ids generalizing doc with
  | nil =>
      exact ⟨rfl, hdoc, alone, .refl doc, fun _ _ => rfl, fun _ h => absurd h List.not_mem_nil,
        sealsValues_nil rfl⟩
  | cons id rest ih =>
      obtain ⟨hid, hrest⟩ := List.nodup_cons.mp hnodup
      obtain ⟨p, hparent⟩ := hids id List.mem_cons_self
      obtain ⟨hfound, hnext, news, hfirst, hreplaces, hseals⟩ :=
        expandUnsealed_spec hdoc lexicon hparent
      rw [expandTexts_cons]
      dsimp only
      generalize hstep : (doc.expandUnsealed lexicon id).1 = next at *
      have halone : ∀ c ∈ rest, inPlaceOf id news c = [c] := by
        refine fun c hc => inPlaceOf_of_ne ?_ news
        rintro rfl
        exact hid hc
      have hparents : ∀ c ∈ rest, ∃ q, doc.parent? c = some q ∧ next.parent? c = some q := by
        intro c hc
        obtain ⟨q, hq⟩ := hids c (List.mem_cons_of_mem id hc)
        exact ⟨q, hq, hfirst.parent? hdoc hnext hq (halone c hc)⟩
      obtain ⟨hmore, hlinked, group, hlast, hothers, hall, hmoreSeals⟩ := ih hnext hrest fun c hc =>
        (hparents c hc).imp fun q hq => hq.2
      have hsame : ∀ c ∈ rest, next.replacedAt lexicon c = doc.replacedAt lexicon c ∧
          next.partsAt lexicon c = doc.partsAt lexicon c := by
        intro c hc
        obtain ⟨q, hq, _⟩ := hparents c hc
        exact ⟨hfirst.replacedAt hdoc hnext hq (halone c hc) lexicon,
          hfirst.partsAt hdoc hnext hq (halone c hc) lexicon⟩
      -- the nodes that have taken the place of the first text keep it
      have hnews : doc.replacedAt lexicon id ≠ [] → news.flatMap group = news := by
        intro hne
        rw [List.flatMap_congr (g := alone), flatMap_alone]
        intro n hn
        refine hothers n fun hmem => ?_
        obtain ⟨q, hq, _⟩ := hparents n hmem
        have := hreplaces.fresh hne n hn
        have := lt_of_parent? hq
        omega
      refine ⟨?_, hlinked, fun c => (inPlaceOf id news c).flatMap group, hfirst.trans hlast, ?_, ?_, ?_⟩
      · rw [hfound, hmore, List.flatMap_cons]
        congr 1
        exact List.flatMap_congr fun c hc => (hsame c hc).1
      · intro c hc
        obtain ⟨hne, hnot⟩ := not_or.mp (mt List.mem_cons.mpr hc)
        beta_reduce
        rw [inPlaceOf_of_ne hne, List.flatMap_singleton, hothers c hnot]
      · refine List.forall_mem_cons.mpr ⟨?_, fun c hc => ?_⟩
        · simp only [inPlaceOf_self]
          refine ⟨fun hnone => ?_, fun hne => ?_, fun hne => ?_⟩
          · rw [hreplaces.untouched hnone, List.flatMap_singleton, hothers id hid]
          · rw [hnews hne]
            refine ((List.forall₂_and_left news _).mpr
              ⟨hreplaces.fresh hne, hreplaces.shows hne⟩).imp ?_
            rintro n part ⟨hn, hshows⟩
            refine hshows.regrouped hlast fun c hc => hothers c fun hmem => ?_
            obtain ⟨q, hq, hq'⟩ := hparents c hmem
            have hsame := hnext.parent_unique ((hnext.mirrored q c).mpr hq') hc
            have := lt_of_mem_children ((hdoc.mirrored q c).mpr hq)
            omega
          · rw [hnews hne]
            exact hreplaces.fresh hne
        · obtain ⟨hreplaced, hparts⟩ := hsame c hc
          have hrest := hall c hc
          simp only [halone c hc, List.flatMap_singleton]
          refine ⟨fun hnone => hrest.untouched (hreplaced.trans hnone), fun hne => ?_, fun hne n hn => ?_⟩
          · rw [← hparts]
            exact hrest.shows (by rwa [hreplaced])
          · exact Nat.le_trans hfirst.size_le (hrest.fresh (by rwa [hreplaced]) n hn)
      · have hpairs : (rest.flatMap fun c => (group c).zip (next.newParts lexicon c)) =
            rest.flatMap fun c =>
              ((inPlaceOf id news c).flatMap group).zip (doc.newParts lexicon c) := by
          refine List.flatMap_congr fun c hc => ?_
          rw [halone c hc, List.flatMap_singleton, newParts, newParts, (hsame c hc).1, (hsame c hc).2]
        have hown : news.zip (doc.newParts lexicon id) =
            ((inPlaceOf id news id).flatMap group).zip (doc.newParts lexicon id) := by
          rw [inPlaceOf_self]
          by_cases hnone : doc.replacedAt lexicon id = []
          · rw [newParts, if_pos hnone, List.zip_nil_right, List.zip_nil_right]
          · rw [hnews hnone]
        rw [List.flatMap_cons, ← hown, ← hpairs]
        exact hseals.append hmoreSeals

end Placeholders.Document
