import Mathlib.Data.List.Nodup
import Placeholders.Document.Basic

/-!
# Parents and children

A document keeps both directions of every link.

* It is `Linked` if the two directions agree and no child stands twice. A document is made by functions
  that all keep this, so every document is linked.
* Each function has lemmas that say what it does to payloads, parents and children.
* `place` is what appending and inserting have in common: a node without a place gets one among the
  children of another.
-/

namespace Placeholders.Document

/-! ## 1. Linked documents -/

/-- Children and parents agree, and no child stands twice. -/
structure Linked (doc : Document) : Prop where
  mirrored : ∀ p c, c ∈ doc.children p ↔ doc.parent? c = some p
  distinct : ∀ p, (doc.children p).Nodup

theorem payload?_eq_none {doc : Document} {id : Nat} (h : doc.size ≤ id) : doc.payload? id = none := by
  simp [payload?, Array.getElem?_eq_none h]

theorem parent?_eq_none {doc : Document} {id : Nat} (h : doc.size ≤ id) : doc.parent? id = none := by
  simp [parent?, Array.getElem?_eq_none h]

theorem children_eq_nil {doc : Document} {id : Nat} (h : doc.size ≤ id) : doc.children id = [] := by
  simp [children, Array.getElem?_eq_none h]

theorem lt_of_parent? {doc : Document} {id p : Nat} (h : doc.parent? id = some p) : id < doc.size := by
  refine Nat.lt_of_not_le fun hle => ?_
  rw [parent?_eq_none hle] at h
  cases h

theorem lt_of_payload? {doc : Document} {id : Nat} {payload : Payload}
    (h : doc.payload? id = some payload) : id < doc.size := by
  refine Nat.lt_of_not_le fun hle => ?_
  rw [payload?_eq_none hle] at h
  cases h

theorem lt_of_mem_children {doc : Document} {id c : Nat} (h : c ∈ doc.children id) :
    id < doc.size := by
  refine Nat.lt_of_not_le fun hle => ?_
  rw [children_eq_nil hle] at h
  cases h

theorem Linked.child_lt {doc : Document} (h : doc.Linked) {p c : Nat} (hc : c ∈ doc.children p) :
    c < doc.size :=
  lt_of_parent? ((h.mirrored p c).mp hc)

/-- A node has one parent only. -/
theorem Linked.parent_unique {doc : Document} (h : doc.Linked) {p q c : Nat} (hp : c ∈ doc.children p)
    (hq : c ∈ doc.children q) : p = q := by
  have heq := ((h.mirrored p c).mp hp).symm.trans ((h.mirrored q c).mp hq)
  exact Option.some.inj heq

theorem linked_empty : empty.Linked := by
  have hchildren : ∀ p, empty.children p = [] := by
    intro p
    cases p with
    | zero => rfl
    | succ p => exact children_eq_nil (by simp [size, empty])
  have hparent : ∀ c, empty.parent? c = none := by
    intro c
    cases c with
    | zero => rfl
    | succ c => exact parent?_eq_none (by simp [size, empty])
  exact ⟨fun p c => by simp [hchildren, hparent], fun p => by simp [hchildren]⟩

/-! ## 2. Changing a node -/

section Modify

variable {doc : Document} {i : Nat} {f : Node → Node}

@[simp] theorem size_modify (doc : Document) (i : Nat) (f : Node → Node) :
    (doc.modify i f).size = doc.size := by
  simp [modify, size]

theorem payload?_modify {g : Payload → Payload} (hf : ∀ n, (f n).payload = g n.payload) (j : Nat) :
    (doc.modify i f).payload? j = if j = i then (doc.payload? j).map g else doc.payload? j := by
  unfold payload? modify
  rw [Array.getElem?_modify]
  by_cases h : i = j
  · simp [h, Function.comp_def, hf]
  · simp [h, Ne.symm h]

theorem payload?_modify_of_eq (hf : ∀ n, (f n).payload = n.payload) (j : Nat) :
    (doc.modify i f).payload? j = doc.payload? j := by
  rw [payload?_modify (g := id) hf]
  simp

theorem parent?_modify {x : Option Nat} (hf : ∀ n, (f n).parent = x) (hi : i < doc.size) (j : Nat) :
    (doc.modify i f).parent? j = if j = i then x else doc.parent? j := by
  unfold parent? modify
  rw [Array.getElem?_modify]
  by_cases h : i = j
  · subst h
    simp [Array.getElem?_eq_getElem hi, hf]
  · simp [h, Ne.symm h]

theorem parent?_modify_of_eq (hf : ∀ n, (f n).parent = n.parent) (j : Nat) :
    (doc.modify i f).parent? j = doc.parent? j := by
  unfold parent? modify
  rw [Array.getElem?_modify]
  by_cases h : i = j
  · cases doc.nodes[j]? <;> simp [h, hf]
  · simp [h]

theorem children_modify {g : List Nat → List Nat} (hf : ∀ n, (f n).children = g n.children)
    (hi : i < doc.size) (j : Nat) :
    (doc.modify i f).children j = if j = i then g (doc.children j) else doc.children j := by
  unfold children modify
  rw [Array.getElem?_modify]
  by_cases h : i = j
  · subst h
    simp [Array.getElem?_eq_getElem hi, hf]
  · simp [h, Ne.symm h]

theorem children_modify_of_eq (hf : ∀ n, (f n).children = n.children) (j : Nat) :
    (doc.modify i f).children j = doc.children j := by
  unfold children modify
  rw [Array.getElem?_modify]
  by_cases h : i = j
  · cases doc.nodes[j]? <;> simp [h, hf]
  · simp [h]

/-- A change that leaves the links as they are. -/
theorem Linked.modify (h : doc.Linked) (hparent : ∀ n, (f n).parent = n.parent)
    (hchildren : ∀ n, (f n).children = n.children) : (doc.modify i f).Linked := by
  refine ⟨fun p c => ?_, fun p => ?_⟩
  · rw [children_modify_of_eq hchildren, parent?_modify_of_eq hparent, h.mirrored]
  · rw [children_modify_of_eq hchildren]
    exact h.distinct p

end Modify

/-! ## 3. New nodes -/

section Create

variable (doc : Document) (payload : Payload)

@[simp] theorem create_snd : (doc.create payload).2 = doc.size := rfl

@[simp] theorem size_create : (doc.create payload).1.size = doc.size + 1 := by
  simp [create, size]

theorem payload?_create (j : Nat) :
    (doc.create payload).1.payload? j = if j = doc.size then some payload else doc.payload? j := by
  unfold payload? create
  rw [Array.getElem?_push]
  by_cases h : j = doc.size
  · simp [h, size]
  · rw [if_neg (show ¬ j = doc.nodes.size from h), if_neg h]

@[simp] theorem parent?_create (j : Nat) : (doc.create payload).1.parent? j = doc.parent? j := by
  unfold parent? create
  rw [Array.getElem?_push]
  by_cases h : j = doc.nodes.size
  · simp [h]
  · simp [h]

@[simp] theorem children_create (j : Nat) : (doc.create payload).1.children j = doc.children j := by
  unfold children create
  rw [Array.getElem?_push]
  by_cases h : j = doc.nodes.size
  · simp [h]
  · simp [h]

theorem Linked.create {doc : Document} (h : doc.Linked) (payload : Payload) :
    (doc.create payload).1.Linked := by
  refine ⟨fun p c => ?_, fun p => ?_⟩
  · rw [children_create, parent?_create, h.mirrored]
  · rw [children_create]
    exact h.distinct p

end Create

/-! ## 4. Taking a node out -/

section Detach

variable {doc : Document} (id : Nat)

@[simp] theorem size_detach : (doc.detach id).size = doc.size := by
  unfold detach
  split <;> simp

@[simp] theorem payload?_detach (j : Nat) : (doc.detach id).payload? j = doc.payload? j := by
  unfold detach
  split
  · rfl
  · rw [payload?_modify_of_eq, payload?_modify_of_eq] <;> exact fun _ => rfl

theorem parent?_detach (j : Nat) :
    (doc.detach id).parent? j = if j = id then none else doc.parent? j := by
  unfold detach
  cases hparent : doc.parent? id with
  | none =>
      by_cases h : j = id
      · rw [if_pos h, h, hparent]
      · rw [if_neg h]
  | some p =>
      simp only
      rw [parent?_modify_of_eq, parent?_modify _ (lt_of_parent? hparent)] <;> exact fun _ => rfl

theorem Linked.children_detach (h : doc.Linked) (j : Nat) :
    (doc.detach id).children j = (doc.children j).filter (· != id) := by
  have hkept : ∀ q, doc.parent? id ≠ some q → (doc.children q).filter (· != id) = doc.children q := by
    intro q hq
    refine List.filter_eq_self.mpr fun c hc => ?_
    simp only [bne_iff_ne, ne_eq]
    rintro rfl
    exact hq ((h.mirrored q c).mp hc)
  unfold detach
  cases hparent : doc.parent? id with
  | none => exact (hkept j (by simp [hparent])).symm
  | some p =>
      have hp : p < doc.size := lt_of_mem_children ((h.mirrored p id).mpr hparent)
      simp only
      rw [children_modify (g := fun cs => cs.filter (· != id)) (fun _ => rfl) (by simpa using hp),
        children_modify_of_eq]
      swap
      · exact fun _ => rfl
      split
      · rfl
      · rename_i hne
        exact (hkept j fun heq => hne (Option.some.inj (heq.symm.trans hparent))).symm

theorem Linked.detach (h : doc.Linked) : (doc.detach id).Linked := by
  refine ⟨fun p c => ?_, fun p => ?_⟩
  · rw [h.children_detach, parent?_detach, List.mem_filter, h.mirrored]
    by_cases hc : c = id <;> simp [hc]
  · rw [h.children_detach]
    exact (h.distinct p).filter _

end Detach

/-! ## 5. Giving a node a place -/

/-- Makes a node a child of another; a function says where among its children. -/
def place (doc : Document) (parent child : Nat) (g : List Nat → List Nat) : Document :=
  (doc.modify child fun node => { node with parent := some parent }).modify parent
    fun node => { node with children := g node.children }

theorem append_eq (doc : Document) (parent child : Nat) :
    doc.append parent child = (doc.detach child).place parent child (· ++ [child]) := rfl

section Place

variable {doc : Document} {parent child : Nat} {g : List Nat → List Nat}

@[simp] theorem size_place : (doc.place parent child g).size = doc.size := by
  simp [place]

@[simp] theorem payload?_place (j : Nat) :
    (doc.place parent child g).payload? j = doc.payload? j := by
  unfold place
  rw [payload?_modify_of_eq, payload?_modify_of_eq] <;> exact fun _ => rfl

theorem parent?_place (hchild : child < doc.size) (j : Nat) :
    (doc.place parent child g).parent? j = if j = child then some parent else doc.parent? j := by
  unfold place
  rw [parent?_modify_of_eq, parent?_modify _ hchild] <;> exact fun _ => rfl

theorem children_place (hparent : parent < doc.size) (j : Nat) :
    (doc.place parent child g).children j =
      if j = parent then g (doc.children j) else doc.children j := by
  unfold place
  rw [children_modify (g := g) (fun _ => rfl) (by simpa using hparent), children_modify_of_eq]
  exact fun _ => rfl

theorem Linked.place (h : doc.Linked) (hparent : parent < doc.size) (hchild : child < doc.size)
    (hfree : doc.parent? child = none)
    (hg : (g (doc.children parent)).Perm (child :: doc.children parent)) :
    (doc.place parent child g).Linked := by
  have hnot : ∀ q, child ∉ doc.children q := by
    intro q hq
    rw [h.mirrored, hfree] at hq
    cases hq
  refine ⟨fun p c => ?_, fun p => ?_⟩
  · rw [children_place hparent, parent?_place hchild]
    by_cases hp : p = parent
    · subst hp
      rw [if_pos rfl, hg.mem_iff, List.mem_cons, h.mirrored]
      by_cases hc : c = child <;> simp [hc]
    · rw [if_neg hp, h.mirrored]
      by_cases hc : c = child
      · subst hc
        simp [hfree, Ne.symm hp]
      · simp [hc]
  · rw [children_place hparent]
    split
    · rename_i hp
      rw [hp, hg.nodup_iff]
      exact List.nodup_cons.mpr ⟨hnot parent, h.distinct parent⟩
    · exact h.distinct p

end Place

theorem Linked.append {doc : Document} (h : doc.Linked) {parent child : Nat}
    (hparent : parent < doc.size) (hchild : child < doc.size) : (doc.append parent child).Linked := by
  rw [append_eq]
  refine (h.detach child).place (by simpa using hparent) (by simpa using hchild) ?_ ?_
  · simp [parent?_detach]
  · exact List.perm_append_singleton child _

theorem detach_of_none {doc : Document} {id : Nat} (h : doc.parent? id = none) :
    doc.detach id = doc := by
  simp only [detach, h]

section AppendNew

variable {doc : Document} {parent : Nat} {payload : Payload}

/-- A new node has no place yet that it could be taken from. -/
theorem appendNew_eq (doc : Document) (parent : Nat) (payload : Payload) :
    doc.appendNew parent payload =
      (doc.create payload).1.place parent doc.size (· ++ [doc.size]) := by
  have hfree : (doc.create payload).1.parent? doc.size = none := by
    rw [parent?_create, parent?_eq_none (Nat.le_refl _)]
  change (doc.create payload).1.append parent doc.size = _
  rw [append_eq, detach_of_none hfree]

@[simp] theorem size_appendNew : (doc.appendNew parent payload).size = doc.size + 1 := by
  simp [appendNew_eq]

theorem payload?_appendNew (j : Nat) : (doc.appendNew parent payload).payload? j =
    if j = doc.size then some payload else doc.payload? j := by
  rw [appendNew_eq, payload?_place, payload?_create]

theorem parent?_appendNew (j : Nat) : (doc.appendNew parent payload).parent? j =
    if j = doc.size then some parent else doc.parent? j := by
  rw [appendNew_eq, parent?_place (by simp), parent?_create]

theorem children_appendNew (hparent : parent < doc.size) (j : Nat) :
    (doc.appendNew parent payload).children j =
      if j = parent then doc.children j ++ [doc.size] else doc.children j := by
  rw [appendNew_eq, children_place (by simp; omega), children_create]

theorem Linked.appendNew (h : doc.Linked) (hparent : parent < doc.size) (payload : Payload) :
    (doc.appendNew parent payload).Linked := by
  rw [appendNew_eq]
  refine (h.create payload).place (by simp; omega) (by simp) ?_ ?_
  · rw [parent?_create, parent?_eq_none (Nat.le_refl _)]
  · exact List.perm_append_singleton doc.size _

end AppendNew

/-- What inserting before a node comes to. -/
theorem insertBefore?_eq {doc : Document} {reference child p : Nat}
    (h : doc.parent? reference = some p) :
    doc.insertBefore? reference child = some ((doc.detach child).place p child
      fun cs => cs.insertIdx (cs.idxOf reference) child) := by
  simp only [insertBefore?, h, Option.map_some]
  rfl

theorem perm_insertIdx_idxOf (cs : List Nat) (reference child : Nat) :
    (cs.insertIdx (cs.idxOf reference) child).Perm (child :: cs) :=
  List.perm_insertIdx child cs List.idxOf_le_length

theorem Linked.insertBefore? {doc after : Document} (h : doc.Linked) {reference child : Nat}
    (hchild : child < doc.size) (hafter : doc.insertBefore? reference child = some after) :
    after.Linked := by
  cases hparent : doc.parent? reference with
  | none => simp [Document.insertBefore?, hparent] at hafter
  | some p =>
      rw [insertBefore?_eq hparent] at hafter
      cases hafter
      have hp : p < doc.size := lt_of_mem_children ((h.mirrored p reference).mpr hparent)
      refine (h.detach child).place (by simpa using hp) (by simpa using hchild) ?_ ?_
      · simp [parent?_detach]
      · exact perm_insertIdx_idxOf _ _ _

end Placeholders.Document
