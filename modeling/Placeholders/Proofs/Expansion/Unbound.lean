import Placeholders.Expansion
import Placeholders.Proofs.Document.Below

/-!
# What a pass looks at

* A node is `Exposed` if a walk leads down to it that passes through neither texts nor bindings.
* `unbound` lists the exposed nodes that are no bindings themselves (`mem_unbound`), each once
  (`nodup_unbound`).
-/

namespace Placeholders.Document

open Relation

variable {doc : Document}

/-! ## 1. Exposed nodes -/

/-- A child that a pass goes on from. -/
def Opens (doc : Document) (p c : Nat) : Prop :=
  c ∈ doc.children p ∧ doc.text? c = none ∧ doc.isBinding c = false

/-- Below a node, and in no text or binding there. -/
def Exposed (doc : Document) (root id : Nat) : Prop :=
  ∃ p, ReflTransGen doc.Opens root p ∧ id ∈ doc.children p

theorem Opens.child {p c : Nat} (h : doc.Opens p c) : doc.Child p c := h.1

theorem Exposed.of_child {root id : Nat} (h : id ∈ doc.children root) : doc.Exposed root id :=
  ⟨root, .refl, h⟩

theorem Exposed.head {root c id : Nat} (hc : doc.Opens root c) (h : doc.Exposed c id) :
    doc.Exposed root id := by
  obtain ⟨p, hwalk, hid⟩ := h
  exact ⟨p, .head hc hwalk, hid⟩

/-- An exposed node is a child, or exposed below a child that a pass goes on from. -/
theorem Exposed.cases_head {root id : Nat} (h : doc.Exposed root id) :
    id ∈ doc.children root ∨ ∃ c, doc.Opens root c ∧ doc.Exposed c id := by
  obtain ⟨p, hwalk, hid⟩ := h
  rcases ReflTransGen.cases_head hwalk with rfl | ⟨c, hc, hrest⟩
  · exact .inl hid
  · exact .inr ⟨c, hc, p, hrest, hid⟩

theorem Exposed.walk {root id : Nat} (h : doc.Exposed root id) : TransGen doc.Child root id := by
  obtain ⟨p, hwalk, hid⟩ := h
  exact TransGen.tail' (ReflTransGen.mono (fun _ _ => Opens.child) _ _ hwalk) hid

/-! ## 2. Listing them -/

/-- Whether a pass looks at a node when it meets it. -/
def isLookedAt (doc : Document) (id : Nat) : Bool := (doc.text? id).isSome || !doc.isBinding id

theorem mem_unboundTo_succ {k root id : Nat} :
    id ∈ doc.unboundTo (k + 1) root ↔ (id ∈ doc.children root ∧ doc.isLookedAt id = true) ∨
      ∃ c, doc.Opens root c ∧ id ∈ doc.unboundTo k c := by
  simp only [unboundTo, List.mem_flatMap]
  constructor
  · rintro ⟨c, hc, hid⟩
    by_cases htext : (doc.text? c).isSome = true
    · rw [if_pos htext, List.mem_singleton] at hid
      subst hid
      exact .inl ⟨hc, by simp [isLookedAt, htext]⟩
    · rw [if_neg htext] at hid
      by_cases hbinding : doc.isBinding c = true
      · rw [if_pos hbinding] at hid
        cases hid
      · rw [if_neg hbinding] at hid
        rcases List.mem_cons.mp hid with rfl | hid
        · exact .inl ⟨hc, by simp [isLookedAt, hbinding]⟩
        · exact .inr ⟨c, ⟨hc, by simpa using htext, by simpa using hbinding⟩, hid⟩
  · rintro (⟨hid, hlooked⟩ | ⟨c, ⟨hc, htext, hbinding⟩, hid⟩)
    · refine ⟨id, hid, ?_⟩
      by_cases htext : (doc.text? id).isSome = true
      · rw [if_pos htext]
        exact List.mem_singleton_self id
      · have hbinding : doc.isBinding id = false := by simpa [isLookedAt, htext] using hlooked
        rw [if_neg htext, hbinding]
        exact List.mem_cons_self
    · refine ⟨c, hc, ?_⟩
      rw [htext, hbinding]
      exact List.mem_cons_of_mem c hid

theorem exposed_of_mem_unboundTo {k root id : Nat} (h : id ∈ doc.unboundTo k root) :
    doc.Exposed root id ∧ doc.isLookedAt id = true := by
  induction k generalizing root with
  | zero => exact absurd h List.not_mem_nil
  | succ k ih =>
      rcases mem_unboundTo_succ.mp h with ⟨hid, hlooked⟩ | ⟨c, hc, hid⟩
      · exact ⟨.of_child hid, hlooked⟩
      · exact (ih hid).imp_left (.head hc)

theorem Within.mem_unboundTo {k root id : Nat} (h : doc.Within k root) :
    id ∈ doc.unboundTo k root ↔ doc.Exposed root id ∧ doc.isLookedAt id = true := by
  refine ⟨exposed_of_mem_unboundTo, fun hid => ?_⟩
  induction h with
  | @intro k root _ ih =>
      rw [mem_unboundTo_succ]
      rcases hid.1.cases_head with hchild | ⟨c, hc, hrest⟩
      · exact .inl ⟨hchild, hid.2⟩
      · exact .inr ⟨c, hc, ih c hc.1 ⟨hrest, hid.2⟩⟩

/-- **A pass looks at the exposed nodes that are no bindings.** -/
theorem Linked.mem_unbound (h : doc.Linked) {root id : Nat} (hroot : doc.Grounded root)
    (hlt : root < doc.size) :
    id ∈ doc.unbound root ↔ doc.Exposed root id ∧ doc.isLookedAt id = true :=
  (h.within_size hroot hlt).mem_unboundTo

theorem Linked.nodup_unboundTo (h : doc.Linked) {k root : Nat} (hroot : doc.Grounded root) :
    (doc.unboundTo k root).Nodup := by
  induction k generalizing root with
  | zero => exact List.nodup_nil
  | succ k ih =>
      have hbelow : ∀ c ∈ doc.children root, ∀ id,
          id ∈ (if (doc.text? c).isSome then [c]
            else if doc.isBinding c then [] else c :: doc.unboundTo k c) →
          ReflTransGen doc.Child c id := by
        intro c _ id hid
        split at hid
        · rw [List.mem_singleton.mp hid]
        · split at hid
          · cases hid
          · rcases List.mem_cons.mp hid with rfl | hid
            · exact .refl
            · exact (exposed_of_mem_unboundTo hid).1.walk.to_reflTransGen
      rw [unboundTo, List.nodup_flatMap]
      refine ⟨fun c hc => ?_, (h.distinct root).imp_of_mem fun {a b} ha hb hne => ?_⟩
      · split
        · exact List.nodup_singleton c
        · split
          · exact List.nodup_nil
          · refine List.nodup_cons.mpr ⟨fun hmem => ?_, ih (hroot.of_child hc)⟩
            exact hroot.of_child hc c .refl (exposed_of_mem_unboundTo hmem).1.walk
      · intro id hida hidb
        exact hne (h.children_apart hroot ha hb (hbelow a ha id hida) (hbelow b hb id hidb))

/-- A pass meets no node twice. -/
theorem Linked.nodup_unbound (h : doc.Linked) {root : Nat} (hroot : doc.Grounded root) :
    (doc.unbound root).Nodup :=
  h.nodup_unboundTo hroot

end Placeholders.Document
