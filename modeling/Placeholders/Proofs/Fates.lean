import Mathlib.Data.List.ReduceOption

/-!
# What becomes of the items of a list

Items are taken in one after the other, and some are refused with an error.

* `fatesFrom` lists the error that each item leaves, if any, where that depends on the items before it.
* `kept` are the items that leave none. Every item is kept or leaves an error (`length_kept`).
-/

namespace Placeholders

section Fates

variable {α β ε : Type} {fate : List α → α → Option ε}

/-- The error that each item leaves, if any, by the items before it. -/
def fatesFrom (fate : List α → α → Option ε) (before : List α) : List α → List (Option ε)
  | [] => []
  | a :: items => fate before a :: fatesFrom fate (before ++ [a]) items

@[simp] theorem length_fatesFrom {before items : List α} :
    (fatesFrom fate before items).length = items.length := by
  induction items generalizing before with
  | nil => rfl
  | cons a items ih => rw [fatesFrom, List.length_cons, List.length_cons, ih]

theorem getElem?_fatesFrom {before items : List α} {i : Nat} :
    (fatesFrom fate before items)[i]? = items[i]?.map (fate (before ++ items.take i)) := by
  induction items generalizing before i with
  | nil => rfl
  | cons a items ih =>
      cases i with
      | zero => simp [fatesFrom]
      | succ i => simp [fatesFrom, ih]

/-- What came before may turn out not to matter. -/
theorem fatesFrom_eq_map {items : List α} {alone : α → Option ε}
    (h : ∀ i a, items[i]? = some a → fate (items.take i) a = alone a) :
    fatesFrom fate [] items = items.map alone := by
  refine List.ext_getElem? fun i => ?_
  rw [getElem?_fatesFrom, List.getElem?_map, List.nil_append]
  cases hi : items[i]? with
  | none => rfl
  | some a => simp [h i a hi]

/-- The items that leave no error. -/
def kept : List α → List (Option ε) → List α
  | a :: items, none :: fates => a :: kept items fates
  | _ :: items, some _ :: fates => kept items fates
  | _, _ => []

theorem mem_kept {items : List α} {fates : List (Option ε)} {a : α} :
    a ∈ kept items fates ↔ ∃ i : Nat, items[i]? = some a ∧ fates[i]? = some none := by
  induction items generalizing fates with
  | nil => simp [kept]
  | cons b items ih =>
      match fates with
      | [] => simp [kept]
      | none :: fates =>
          rw [kept, List.mem_cons, ih]
          refine Iff.trans ?_ Nat.or_exists_add_one
          simp [eq_comm]
      | some e :: fates =>
          rw [kept, ih]
          refine Iff.trans ?_ Nat.or_exists_add_one
          simp

/-- **Every item is kept or leaves an error.** -/
theorem length_kept {items : List α} {fates : List (Option ε)} (h : fates.length = items.length) :
    fates.reduceOption.length + (kept items fates).length = items.length := by
  induction items generalizing fates with
  | nil =>
      obtain rfl := List.length_eq_zero_iff.mp h
      rfl
  | cons a items ih =>
      match fates with
      | none :: fates =>
          have hrest := ih (Nat.succ.inj h)
          rw [kept, List.reduceOption_cons_of_none, List.length_cons, List.length_cons]
          omega
      | some e :: fates =>
          have hrest := ih (Nat.succ.inj h)
          rw [kept, List.reduceOption_cons_of_some, List.length_cons, List.length_cons]
          omega

/-- If an item is only kept where none before it has its key, the keys of what is kept are distinct, and
    none of them occurs before. -/
theorem nodup_map_kept {key : α → β} (h : ∀ before a, fate before a = none → key a ∉ before.map key)
    {before items : List α} :
    ((kept items (fatesFrom fate before items)).map key).Nodup ∧
      ∀ a ∈ kept items (fatesFrom fate before items), key a ∉ before.map key := by
  induction items generalizing before with
  | nil => exact ⟨List.nodup_nil, fun a ha => absurd ha List.not_mem_nil⟩
  | cons a items ih =>
      obtain ⟨hnodup, hnew⟩ := @ih (before ++ [a])
      have hold : ∀ b ∈ kept items (fatesFrom fate (before ++ [a]) items),
          key b ∉ before.map key ∧ key b ≠ key a := by
        intro b hb
        simpa [not_or] using hnew b hb
      rw [fatesFrom]
      cases hfate : fate before a with
      | none =>
          rw [kept, List.map_cons, List.nodup_cons]
          refine ⟨⟨fun hmem => ?_, hnodup⟩, fun b hb => ?_⟩
          · obtain ⟨b, hb, hkey⟩ := List.mem_map.mp hmem
            exact (hold b hb).2 hkey
          · rcases List.mem_cons.mp hb with rfl | hb
            · exact h before _ hfate
            · exact (hold b hb).1
      | some e => exact ⟨hnodup, fun b hb => (hold b hb).1⟩

/-- Where an item that is kept would also be kept with fewer items before it, all that is kept is kept
    again. -/
theorem kept_kept
    (h : ∀ {before fewer : List α} {a}, fewer ⊆ before → fate before a = none → fate fewer a = none)
    {before fewer items : List α} (hsub : fewer ⊆ before) :
    let rest := kept items (fatesFrom fate before items)
    kept rest (fatesFrom fate fewer rest) = rest ∧ (fatesFrom fate fewer rest).reduceOption = [] := by
  induction items generalizing before fewer with
  | nil => exact ⟨rfl, rfl⟩
  | cons a items ih =>
      rw [fatesFrom]
      cases hfate : fate before a with
      | none =>
          have hboth : fewer ++ [a] ⊆ before ++ [a] := by
            intro b hb
            rw [List.mem_append] at hb ⊢
            exact hb.imp_left (@hsub b)
          obtain ⟨hkept, herrors⟩ := ih hboth
          have hagain : fate fewer a = none := h hsub hfate
          show kept (a :: _) (fatesFrom fate fewer (a :: _)) = a :: _ ∧
            (fatesFrom fate fewer (a :: _)).reduceOption = []
          rw [fatesFrom, hagain, kept, List.reduceOption_cons_of_none]
          exact ⟨congrArg (a :: ·) hkept, herrors⟩
      | some _ => exact ih (List.subset_append_of_subset_left _ hsub)

end Fates

end Placeholders
