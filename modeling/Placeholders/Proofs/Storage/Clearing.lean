import Placeholders.Proofs.Storage.Keys
import Placeholders.Proofs.Storage.Writes

/-!
# What clearing forgets

* Clearing that succeeds has forgotten the placeholder keys, and nothing else (`cleared_of_clearPlaceholders`).
* The key of a placeholder is a placeholder key, unless the name is `Reserved`: then it looks like the key
  of a setting (`isPlaceholderKey_stateKey`).
* No key of a setting is a placeholder key.
-/

namespace Placeholders

/-! ## 1. Reserved names -/

/-- To a prefix that holds an entry at its end only, it does not matter what stands behind that entry. -/
theorem prefix_concat_iff {α : Type} {front name rest : List α} {c : α} (h : c ∉ front) :
    front ++ [c] <+: name ++ c :: rest ↔ front ++ [c] <+: name ++ [c] := by
  induction name generalizing front with
  | nil =>
      cases front with
      | nil => simp
      | cons a front => simp [List.cons_prefix_cons, Ne.symm (List.ne_of_not_mem_cons h)]
  | cons b name ih =>
      cases front with
      | nil => simp [List.cons_prefix_cons]
      | cons a front => simp [List.cons_prefix_cons, ih (List.not_mem_of_not_mem_cons h)]

namespace Storage

/-- The name begins like the keys of settings, so that whatever is kept under it looks like a setting. -/
def Reserved (name : String) : Prop := settingsSpace.toList <+: (name ++ "_").toList

instance (name : String) : Decidable (Reserved name) := inferInstanceAs (Decidable (_ <+: _))

/-- What stands between the name in a key and its end does not matter: the keys of settings begin with a
    word, and only an underscore ends it. -/
theorem prefix_iff_reserved (name rest : String) :
    settingsSpace.toList <+: (name ++ ("_" ++ rest)).toList ↔ Reserved name := by
  have hspace : settingsSpace.toList = "SETTINGS".toList ++ ['_'] := by decide
  unfold Reserved
  rw [hspace, String.toList_append, String.toList_append, String.toList_append]
  exact prefix_concat_iff (by decide)

example : Reserved "SETTINGS" ∧ Reserved "SETTINGS_THEME" ∧ ¬ Reserved "SETTINGSTHEME" := by decide

namespace Store

theorem isPlaceholderKey_iff (s : Store) (key : String) :
    s.isPlaceholderKey (s.keySpace ++ key) = true ↔ ¬ settingsSpace.toList <+: key.toList := by
  have hspace : s.keySpace.toList <+: (s.keySpace ++ key).toList := by
    rw [String.toList_append]
    exact List.prefix_append _ _
  simp only [isPlaceholderKey, Bool.and_eq_true, Bool.not_eq_true', ← Bool.not_eq_true,
    List.isPrefixOf_iff_prefix, hspace, true_and]
  rw [String.toList_append, String.toList_append, List.prefix_append_right_inj]

/-- **No key of a setting is a placeholder key.** -/
theorem isPlaceholderKey_settingKey (s : Store) (key : String) :
    s.isPlaceholderKey (s.settingKey key) = false := by
  have hsetting : settingsSpace.toList <+: (settingsSpace ++ key).toList := by
    rw [String.toList_append]
    exact List.prefix_append _ _
  rw [settingKey, String.append_assoc, ← Bool.not_eq_true, isPlaceholderKey_iff]
  exact not_not_intro hsetting

/-- What does not begin with the key space is no placeholder key. -/
theorem isPlaceholderKey_of_not_prefix {s : Store} {key : String}
    (h : ¬ s.keySpace.toList <+: key.toList) : s.isPlaceholderKey key = false := by
  simp [isPlaceholderKey, List.isPrefixOf_iff_prefix, h]

end Store

end Storage

open Storage

theorem Placeholder.exists_stateKey_eq (p : Placeholder) (store : Store) :
    ∃ rest, p.stateKey store = store.keySpace ++ (p.name ++ ("_" ++ rest)) := by
  unfold stateKey
  cases p.kind with
  | textbox => exact ⟨"TEXT", by rw [Store.textKey, String.append_assoc]; rfl⟩
  | checkbox => exact ⟨"IS_CHECKED", by rw [Store.checkedKey, String.append_assoc]; rfl⟩
  | dropdown => exact ⟨"INDEX", by rw [Store.indexKey, String.append_assoc]; rfl⟩

/-- **The key of a placeholder is a placeholder key, unless its name is reserved.** -/
theorem Placeholder.isPlaceholderKey_stateKey (p : Placeholder) (store : Store) :
    store.isPlaceholderKey (p.stateKey store) = true ↔ ¬ Reserved p.name := by
  obtain ⟨rest, hkey⟩ := p.exists_stateKey_eq store
  rw [hkey, Store.isPlaceholderKey_iff, prefix_iff_reserved]

/-! ## 2. Clearing -/

namespace Storage

open Backend

theorem get?_eq_none_of_not_mem_keys {b : Backend} {key : String} (h : key ∉ b.keys) :
    b.get? key = none := by
  refine Option.eq_none_iff_forall_ne_some.mpr fun value hget => h ?_
  exact List.mem_map.mpr ⟨(key, value), Keyed.mem_of_find? hget, rfl⟩

namespace Store

/-- Keys that have been removed one after the other are gone; all others are as they were. -/
theorem get?_removeAll {b after : Backend} {keys : List String}
    (h : removeAll b keys = (.ok (), after)) (other : String) :
    after.get? other = if other ∈ keys then none else b.get? other := by
  induction keys generalizing b with
  | nil =>
      cases h
      simp
  | cons key keys ih =>
      have hwritten := b.written_remove key
      rw [removeAll] at h
      generalize b.remove key = answer at h hwritten
      obtain ⟨⟨⟩ | ⟨⟨⟩⟩, middle⟩ := answer
      · cases h
      · rw [ih h, Backend.get?, hwritten.entries_of_ok, Keyed.get?_erase]
        by_cases hkeys : other ∈ keys <;> simp [hkeys, eq_comm, Backend.get?]

/-- Faithful storage stays so while keys are removed, and whatever comes of it, other keys are as they
    were. -/
theorem removeAll_spec {b : Backend} (hb : b.Faithful) (keys : List String) :
    (removeAll b keys).2.Faithful ∧
      ∀ other, other ∉ keys → (removeAll b keys).2.get? other = b.get? other := by
  induction keys generalizing b with
  | nil => exact ⟨hb, fun _ _ => rfl⟩
  | cons key keys ih =>
      have hwritten := b.written_remove key
      have hfaithful := hwritten.faithful hb
      rw [removeAll]
      generalize b.remove key = answer at hwritten hfaithful ⊢
      obtain ⟨⟨⟩ | ⟨⟨⟩⟩, middle⟩ := answer
      · refine ⟨hfaithful, fun other _ => ?_⟩
        exact congrArg (·.get? other) (hwritten.entries_of_error hb)
      · obtain ⟨hlast, hkept⟩ := ih hfaithful
        refine ⟨hlast, fun other hother => (hkept other (List.not_mem_of_not_mem_cons hother)).trans ?_⟩
        rw [Backend.get?, hwritten.entries_of_ok, Keyed.get?_erase,
          if_neg (Ne.symm (List.ne_of_not_mem_cons hother))]
        rfl

section Clear

variable {s after : Store} {result : Except StorageError Nat}

theorem keySpace_clearPlaceholders (h : s.clearPlaceholders = (result, after)) :
    after.keySpace = s.keySpace := by
  unfold clearPlaceholders at h
  dsimp only at h
  split at h <;> cases h <;> rfl

/-- The placeholder keys are gone, and nothing else has changed. -/
structure Cleared (s after : Store) : Prop where
  keySpace : after.keySpace = s.keySpace
  gone : ∀ key, s.isPlaceholderKey key = true → after.backend.get? key = none
  kept : ∀ key, s.isPlaceholderKey key = false → after.backend.get? key = s.backend.get? key

/-- **Clearing forgets the placeholder keys and nothing else.** -/
theorem cleared_of_clearPlaceholders {count : Nat} (h : s.clearPlaceholders = (.ok count, after)) :
    s.Cleared after := by
  have hspace := keySpace_clearPlaceholders h
  unfold clearPlaceholders at h
  dsimp only at h
  split at h
  · rename_i hremoved
    cases h
    refine ⟨hspace, fun key hkey => ?_, fun key hkey => ?_⟩
    · rw [get?_removeAll hremoved, ite_eq_left_iff]
      exact fun hnot => get?_eq_none_of_not_mem_keys fun hmem =>
        hnot (List.mem_filter.mpr ⟨hmem, hkey⟩)
    · rw [get?_removeAll hremoved, if_neg fun hmem => ?_]
      rw [(List.mem_filter.mp hmem).2] at hkey
      cases hkey
  · cases h

/-- Overrides of settings survive. -/
theorem Cleared.loadToggle?_eq (h : s.Cleared after) (t : Toggle) :
    after.loadToggle? t.key = s.loadToggle? t.key :=
  loadToggle?_congr h.keySpace (h.kept _ (s.isPlaceholderKey_settingKey t.key))

/-- Clearing faithful storage leaves all but the placeholder keys as they are, whatever comes of it. -/
theorem clearPlaceholders_spec (hfaithful : s.backend.Faithful)
    (h : s.clearPlaceholders = (result, after)) : after.backend.Faithful ∧
      ∀ key, s.isPlaceholderKey key = false → after.backend.get? key = s.backend.get? key := by
  obtain ⟨hlast, hkept⟩ := removeAll_spec hfaithful (s.backend.keys.filter s.isPlaceholderKey)
  have hbackend : after.backend =
      (removeAll s.backend (s.backend.keys.filter s.isPlaceholderKey)).2 := by
    unfold clearPlaceholders at h
    dsimp only at h
    split at h <;> rename_i hremoved <;> cases h <;> rw [hremoved]
  rw [hbackend]
  refine ⟨hlast, fun key hkey => hkept key fun hmem => ?_⟩
  rw [(List.mem_filter.mp hmem).2] at hkey
  cases hkey

end Clear

end Store

end Storage

end Placeholders
