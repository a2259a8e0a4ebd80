import Placeholders.Placeholder
import Placeholders.Proofs.Text.Numeral
import Placeholders.Proofs.Text.Trimming

/-!
# Keys and what is kept under them

* Keys of one kind are different for different names, and keys of different kinds end in different
  letters. Key space and names are arbitrary: neither can make one key out of two.
* What is written for an index is read as that index, if there are so many options and a word counts
  them.
* Of a placeholder, the state that is loaded depends on one key only (`loadState_congr`).
-/

namespace Placeholders

open Placeholders.Text

namespace Storage.Store

/-! ## 1. Keys -/

theorem eq_of_append_eq {front a b rear : String} (h : front ++ a ++ rear = front ++ b ++ rear) :
    a = b := by
  have hlist := congrArg String.toList h
  simp only [String.toList_append] at hlist
  exact String.toList_inj.mp (List.append_cancel_left (List.append_cancel_right hlist))

/-- The last letter of a key is that of its end. -/
theorem getLast?_append {front rear : String} {c : Char} (h : rear.toList.getLast? = some c) :
    (front ++ rear).toList.getLast? = some c := by
  rw [String.toList_append, List.getLast?_append, h]
  rfl

variable (s : Store) (name : String)

theorem getLast?_textKey : (s.textKey name).toList.getLast? = some 'T' := getLast?_append (by decide)

theorem getLast?_checkedKey : (s.checkedKey name).toList.getLast? = some 'D' :=
  getLast?_append (by decide)

theorem getLast?_indexKey : (s.indexKey name).toList.getLast? = some 'X' := getLast?_append (by decide)

theorem getLast?_settingKey (t : Toggle) : (s.settingKey t.key).toList.getLast? = some 'S' ∨
    (s.settingKey t.key).toList.getLast? = some 'E' := by
  cases t with
  | inlineEditors | inlineEditorIcons => exact .inl (getLast?_append (by decide))
  | applyChangeOnFocusChange => exact .inr (getLast?_append (by decide))

theorem settingKey_inj {t u : Toggle} (h : s.settingKey t.key = s.settingKey u.key) : t = u := by
  have hlist := congrArg String.toList h
  simp only [settingKey, String.toList_append] at hlist
  have hkey := String.toList_inj.mp (List.append_cancel_left hlist)
  cases t <;> cases u <;> first | rfl | exact absurd hkey (by decide)

/-! ## 2. Indices -/

/-- **A written index is read if there are more options than that.** -/
theorem readIndex?_toString_eq {count i : Nat} (h : i < wordBound) :
    readIndex? count (toString i) = if i < count then some i else none := by
  have hdigits : (toString i).toList = Nat.toDigits 10 i := by simp
  have htrim : trim (Nat.toDigits 10 i) = Nat.toDigits 10 i :=
    trim_eq_self fun c hc => isBlank_of_isDigit (Nat.isDigit_of_mem_toDigits (by decide) (by decide) hc)
  rw [readIndex?, hdigits, htrim, unsigned?_toDigits h]
  simp [Option.filter]

theorem readIndex?_toString {count i : Nat} (h : i < count) (hcount : count ≤ wordBound) :
    readIndex? count (toString i) = some i := by
  rw [readIndex?_toString_eq (Nat.lt_of_lt_of_le h hcount), if_pos h]

end Storage.Store

/-! ## 3. Loaded states -/

namespace Placeholder

open Storage

/-- The key that the state of a placeholder is kept under. -/
def stateKey (p : Placeholder) (store : Store) : String :=
  match p.kind with
  | .textbox _ => store.textKey p.name
  | .checkbox _ => store.checkedKey p.name
  | .dropdown _ => store.indexKey p.name

theorem stateKey_congr (p : Placeholder) {store after : Store}
    (hspace : after.keySpace = store.keySpace) : p.stateKey after = p.stateKey store := by
  simp only [stateKey, Store.textKey, Store.checkedKey, Store.indexKey, hspace]

/-- **The state that is loaded depends on one key only.** -/
theorem loadState_congr (p : Placeholder) {store after : Store} (hspace : after.keySpace = store.keySpace)
    (hget : after.backend.get? (p.stateKey store) = store.backend.get? (p.stateKey store)) :
    p.loadState after = p.loadState store := by
  unfold stateKey at hget
  unfold loadState
  cases hkind : p.kind with
  | textbox box =>
      rw [hkind] at hget
      have htext : after.loadText? p.name = store.loadText? p.name := by
        have hkey : after.textKey p.name = store.textKey p.name := by simp only [Store.textKey, hspace]
        rw [Store.loadText?, Store.loadText?, hkey, hget]
      simp only [htext]
  | checkbox box =>
      rw [hkind] at hget
      have hflag : after.loadChecked? p.name = store.loadChecked? p.name := by
        have hkey : after.checkedKey p.name = store.checkedKey p.name := by
          simp only [Store.checkedKey, hspace]
        rw [Store.loadChecked?, Store.loadChecked?, hkey, hget]
      simp only [hflag]
  | dropdown menu =>
      rw [hkind] at hget
      have hindex : after.loadIndex? p.name menu.choices.length =
          store.loadIndex? p.name menu.choices.length := by
        have hkey : after.indexKey p.name = store.indexKey p.name := by
          simp only [Store.indexKey, hspace]
        rw [Store.loadIndex?, Store.loadIndex?, hkey, hget]
      simp only [hindex]

theorem settingKey_ne_stateKey (p : Placeholder) (store : Store) (t : Toggle) :
    store.settingKey t.key ≠ p.stateKey store := by
  intro h
  have hlast : (p.stateKey store).toList.getLast? = some 'S' ∨
      (p.stateKey store).toList.getLast? = some 'E' := h ▸ store.getLast?_settingKey t
  unfold stateKey at hlast
  split at hlast
  · rw [Store.getLast?_textKey] at hlast
    simp at hlast
  · rw [Store.getLast?_checkedKey] at hlast
    simp at hlast
  · rw [Store.getLast?_indexKey] at hlast
    simp at hlast

end Placeholder

/-! ## 4. Loaded settings -/

theorem Storage.Store.loadToggle?_congr {store after : Store} (hspace : after.keySpace = store.keySpace)
    {t : Toggle} (hget : after.backend.get? (store.settingKey t.key) =
      store.backend.get? (store.settingKey t.key)) :
    after.loadToggle? t.key = store.loadToggle? t.key := by
  have hkey : after.settingKey t.key = store.settingKey t.key := by simp only [settingKey, hspace]
  rw [loadToggle?, loadToggle?, loadSetting?, loadSetting?, hkey, hget]

theorem Settings.toggle_applyOverride (settings : Settings) (store : Storage.Store) (u t : Toggle) :
    (settings.applyOverride store u).toggle t =
      if u = t then (store.loadToggle? t.key).getD (settings.toggle t) else settings.toggle t := by
  unfold applyOverride
  by_cases hut : u = t
  · rw [hut, if_pos rfl]
    cases store.loadToggle? t.key with
    | none => rfl
    | some on => simp
  · rw [if_neg hut]
    cases store.loadToggle? u.key with
    | none => rfl
    | some on => simp [hut]

/-- A toggle is as the store has it, or as it was. -/
theorem Settings.toggle_applyOverrides (settings : Settings) (store : Storage.Store) (t : Toggle) :
    (settings.applyOverrides store).toggle t = (store.loadToggle? t.key).getD (settings.toggle t) := by
  simp only [applyOverrides, Toggle.all, List.foldl_cons, List.foldl_nil, toggle_applyOverride]
  cases t <;> simp

end Placeholders
