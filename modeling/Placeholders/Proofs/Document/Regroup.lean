import Placeholders.Proofs.Document.Links

/-!
# Other nodes in the place of children

What an expansion does to the nodes that were there before.

* `Regrouped` says that these are as they were, but that each of their children has given its place to a
  group of nodes. A child that has not been touched is a group of its own.
* Groups compose (`Regrouped.trans`). New nodes may be made and linked among themselves at any time.
* Inserting before a node and taking a node out are the two changes that all others come down to.
-/

namespace Placeholders.Document

/-- What was there before is as it was, with a group of nodes in the place of each child. -/
structure Regrouped (doc after : Document) (group : Nat → List Nat) : Prop where
  size_le : doc.size ≤ after.size
  payload : ∀ x < doc.size, after.payload? x = doc.payload? x
  children : ∀ x < doc.size, after.children x = (doc.children x).flatMap group
  sealedText : ∀ x < doc.size, after.isSealedText x = doc.isSealedText x
  sealedAttributes : after.sealedAttributes = doc.sealedAttributes

/-- Every child is a group of its own. -/
def alone (c : Nat) : List Nat := [c]

/-- A group in the place of one child; all others are groups of their own. -/
def inPlaceOf (id : Nat) (news : List Nat) (c : Nat) : List Nat := if c = id then news else [c]

theorem flatMap_alone (cs : List Nat) : cs.flatMap alone = cs := List.flatMap_singleton' cs

theorem flatMap_inPlaceOf_of_not_mem {id : Nat} {news cs : List Nat} (h : id ∉ cs) :
    cs.flatMap (inPlaceOf id news) = cs := by
  have hsame : ∀ c ∈ cs, inPlaceOf id news c = alone c := by
    intro c hc
    refine if_neg ?_
    rintro rfl
    exact h hc
  rw [List.flatMap_congr hsame, flatMap_alone]

theorem inPlaceOf_self (id : Nat) (news : List Nat) : inPlaceOf id news id = news := if_pos rfl

theorem inPlaceOf_of_ne {id c : Nat} (h : c ≠ id) (news : List Nat) : inPlaceOf id news c = [c] :=
  if_neg h

namespace Regrouped

variable {doc after last : Document} {g k : Nat → List Nat}

theorem refl (doc : Document) : doc.Regrouped doc alone :=
  ⟨Nat.le_refl _, fun _ _ => rfl, fun _ _ => (flatMap_alone _).symm, fun _ _ => rfl, rfl⟩

/-- **Groups of groups are groups.** -/
theorem trans (h : doc.Regrouped after g) (h' : after.Regrouped last k) :
    doc.Regrouped last fun c => (g c).flatMap k where
  size_le := Nat.le_trans h.size_le h'.size_le
  payload x hx := (h'.payload x (Nat.lt_of_lt_of_le hx h.size_le)).trans (h.payload x hx)
  children x hx := by
    rw [h'.children x (Nat.lt_of_lt_of_le hx h.size_le), h.children x hx, List.flatMap_assoc]
  sealedText x hx := (h'.sealedText x (Nat.lt_of_lt_of_le hx h.size_le)).trans (h.sealedText x hx)
  sealedAttributes := h'.sealedAttributes.trans h.sealedAttributes

/-- Only the groups of children count. -/
theorem congr (h : doc.Regrouped after g) (hg : ∀ x, ∀ c ∈ doc.children x, g c = k c) :
    doc.Regrouped after k :=
  ⟨h.size_le, h.payload, fun x hx => (h.children x hx).trans (List.flatMap_congr (hg x)),
    h.sealedText, h.sealedAttributes⟩

theorem text? (h : doc.Regrouped after g) {x : Nat} (hx : x < doc.size) :
    after.text? x = doc.text? x := by
  simp only [Document.text?, h.payload x hx]

theorem tag? (h : doc.Regrouped after g) {x : Nat} (hx : x < doc.size) :
    after.tag? x = doc.tag? x := by
  simp only [Document.tag?, h.payload x hx]

theorem attributes (h : doc.Regrouped after g) {x : Nat} (hx : x < doc.size) :
    after.attributes x = doc.attributes x := by
  simp only [Document.attributes, h.payload x hx]

/-- A child that is a group of its own keeps its parent. -/
theorem parent? (h : doc.Regrouped after g) (hdoc : doc.Linked) (hafter : after.Linked) {c p : Nat}
    (hparent : doc.parent? c = some p) (hc : g c = [c]) : after.parent? c = some p := by
  have hmem := (hdoc.mirrored p c).mpr hparent
  rw [← hafter.mirrored, h.children p (lt_of_mem_children hmem)]
  exact List.mem_flatMap.mpr ⟨c, hmem, hc ▸ List.mem_singleton_self c⟩

/-! ## 1. New nodes -/

theorem create (h : doc.Regrouped after g) (payload : Payload) :
    doc.Regrouped (after.create payload).1 g where
  size_le := by
    rw [size_create]
    exact Nat.le_succ_of_le h.size_le
  payload x hx := by
    rw [payload?_create, if_neg (Nat.ne_of_lt (Nat.lt_of_lt_of_le hx h.size_le)), h.payload x hx]
  children x hx := by rw [children_create, h.children x hx]
  sealedText := h.sealedText
  sealedAttributes := h.sealedAttributes

theorem sealText (h : doc.Regrouped after g) {id : Nat} (hid : doc.size ≤ id) :
    doc.Regrouped (after.sealText id) g where
  size_le := h.size_le
  payload := h.payload
  children := h.children
  sealedText x hx := by
    rw [← h.sealedText x hx]
    simp [isSealedText, Document.sealText, Nat.ne_of_lt (Nat.lt_of_lt_of_le hx hid)]
  sealedAttributes := h.sealedAttributes

/-- A new node gets a place in another new one. -/
theorem place (h : doc.Regrouped after g) {p c : Nat} (hp : doc.size ≤ p) (hlt : p < after.size)
    (f : List Nat → List Nat) : doc.Regrouped (after.place p c f) g where
  size_le := by simpa using h.size_le
  payload x hx := by rw [payload?_place, h.payload x hx]
  children x hx := by
    rw [children_place hlt, if_neg (Nat.ne_of_lt (Nat.lt_of_lt_of_le hx hp)), h.children x hx]
  sealedText x hx := h.sealedText x hx
  sealedAttributes := h.sealedAttributes

end Regrouped

/-! ## 2. Inserting and taking out -/

theorem sealedTexts_detach (doc : Document) (id : Nat) :
    (doc.detach id).sealedTexts = doc.sealedTexts := by
  unfold detach
  split <;> rfl

theorem sealedAttributes_detach (doc : Document) (id : Nat) :
    (doc.detach id).sealedAttributes = doc.sealedAttributes := by
  unfold detach
  split <;> rfl

theorem insertIdx_idxOf {cs : List Nat} {reference : Nat} (hmem : reference ∈ cs) (hnodup : cs.Nodup)
    (child : Nat) : cs.insertIdx (cs.idxOf reference) child =
      cs.flatMap (inPlaceOf reference [child, reference]) := by
  induction cs with
  | nil => exact absurd hmem List.not_mem_nil
  | cons c cs ih =>
      obtain ⟨hc, hrest⟩ := List.nodup_cons.mp hnodup
      by_cases heq : c = reference
      · subst heq
        rw [List.idxOf_cons_self, List.insertIdx_zero, List.flatMap_cons,
          flatMap_inPlaceOf_of_not_mem hc, inPlaceOf_self]
        rfl
      · have hmem' : reference ∈ cs := (List.mem_cons.mp hmem).resolve_left (Ne.symm heq)
        rw [List.idxOf_cons_ne _ heq, List.insertIdx_succ_cons, ih hmem' hrest, List.flatMap_cons,
          inPlaceOf_of_ne heq]
        rfl

/-- A new node that is inserted before another forms a group with it. -/
theorem regrouped_insertBefore? {doc after : Document} (hdoc : doc.Linked) {reference child p : Nat}
    (hparent : doc.parent? reference = some p) (hfree : doc.parent? child = none)
    (hafter : doc.insertBefore? reference child = some after) :
    doc.Regrouped after (inPlaceOf reference [child, reference]) := by
  have hmem := (hdoc.mirrored p reference).mpr hparent
  rw [insertBefore?_eq hparent, detach_of_none hfree] at hafter
  cases hafter
  refine ⟨by simp, fun x _ => payload?_place x, fun x _ => ?_, fun _ _ => rfl, rfl⟩
  rw [children_place (lt_of_mem_children hmem)]
  split
  · rename_i hx
    subst hx
    exact insertIdx_idxOf hmem (hdoc.distinct x) child
  · rename_i hx
    refine (flatMap_inPlaceOf_of_not_mem fun hother => hx ?_).symm
    exact hdoc.parent_unique hother hmem

/-- A node that is taken out leaves nothing. -/
theorem regrouped_detach {doc : Document} (hdoc : doc.Linked) (id : Nat) :
    doc.Regrouped (doc.detach id) (inPlaceOf id []) where
  size_le := by simp
  payload x _ := payload?_detach id x
  children x _ := by
    rw [hdoc.children_detach]
    induction doc.children x with
    | nil => rfl
    | cons c cs ih =>
        by_cases hc : c = id <;> simp [inPlaceOf, hc, ih]
  sealedText x _ := by simp only [isSealedText, sealedTexts_detach]
  sealedAttributes := sealedAttributes_detach doc id

end Placeholders.Document
