import Placeholders.Proofs.Engine.Reload

/-!
# What a reset forgets

`default_of_reset` says what an engine is started with over storage that has been reset.

* A placeholder is `AtDefault` if its selection and its value are those from before anyone changed them.
  It is loaded so if nothing is kept under its key (`atDefault_loadState`).
* A reset clears the keys of all placeholders but those whose names are reserved, and no key of a setting.
* What is kept for a placeholder with a reserved name is mistaken for a setting. It survives the reset, and
  is loaded again (`kept_under_reserved_name`).
-/

namespace Placeholders

open Placeholders.Storage

/-! ## 1. Defaults -/

/-- The selection and the value are those from before anyone changed them. -/
def Placeholder.AtDefault (p : Placeholder) : Prop :=
  p.currentValue = p.defaultValue ∧
    match p.kind with
    | .textbox _ => True
    | .checkbox box => box.isChecked = box.checkedByDefault
    | .dropdown menu => menu.index = menu.defaultIndex

theorem Placeholder.AtDefault.of_raw_eq {p q : Placeholder} (h : p.AtDefault) (hraw : q.raw = p.raw) :
    q.AtDefault := by
  obtain ⟨_, hkind, hvalue⟩ := Placeholder.of_raw_eq hraw
  unfold AtDefault at *
  rw [hkind, hvalue, Placeholder.defaultValue_congr hkind]
  exact h

/-- **A placeholder that nothing is kept for is loaded with its default.** -/
theorem Placeholder.atDefault_loadState {p : Placeholder} {store : Store}
    (h : store.backend.get? (p.stateKey store) = none) : (p.loadState store).AtDefault := by
  unfold stateKey at h
  cases hkind : p.kind with
  | textbox box =>
      simp only [hkind] at h
      simp [loadState, AtDefault, defaultValue, withRaw, hkind, Store.loadText?, h]
  | checkbox box =>
      simp only [hkind] at h
      simp [loadState, AtDefault, defaultValue, withRaw, hkind, Store.loadChecked?, h, Checkbox.value]
  | dropdown menu =>
      simp only [hkind] at h
      simp [loadState, AtDefault, defaultValue, withRaw, hkind, Store.loadIndex?, h, Dropdown.value]

/-- **What is loaded from storage that has been cleared**: the default, or what was loaded before if the
    name is reserved. -/
theorem Storage.Store.Cleared.loadState {store after : Store} (h : store.Cleared after)
    (p : Placeholder) : if Reserved p.name then p.loadState after = p.loadState store
      else (p.loadState after).AtDefault := by
  have hkey := p.isPlaceholderKey_stateKey store
  split
  · rename_i hreserved
    refine p.loadState_congr h.keySpace (h.kept _ (Bool.eq_false_iff.mpr fun hplaceholder => ?_))
    exact hkey.mp hplaceholder hreserved
  · rename_i hfree
    refine Placeholder.atDefault_loadState ?_
    rw [p.stateKey_congr h.keySpace]
    exact h.gone _ (hkey.mpr hfree)

namespace Engine

/-! ## 2. Starting again after a reset -/

/-- A reset that succeeds has cleared the storage. -/
theorem cleared_of_reset {e : Engine} {o : Outcome} (ho : e.reset.1 = .ok o) :
    e.store.Cleared e.reset.2.store := by
  rcases e.reset_cases with ⟨_, _, _, heq⟩ | ⟨removed, store, o', hclear, heq⟩
  · rw [heq] at ho
    cases ho
  · rw [heq]
    exact Store.cleared_of_clearPlaceholders hclear

/-- **A reset forgets every value that is not kept under a reserved name.** An engine is started and then
    used in any way, and a reset succeeds. An engine that is started over the same storage has every
    placeholder at its default, unless the name of the placeholder is reserved: then it has what it would
    have had without the reset. Overrides of settings are still in force, as the storage has them and, if
    what cannot be written is not kept, as the engine had them. Keys outside the key space are left
    alone. -/
theorem default_of_reset (host : Host) (d : Descriptor) (backend : Backend) (actions : List Action)
    {o : Outcome} (ho : ((start host d backend).run actions).reset.1 = .ok o) :
    let e := (start host d backend).run actions
    let after := e.reset.2
    let again := start host d after.store.backend
    (∀ (j : Nat) (p : Placeholder), again.registry.placeholders[j]? = some p →
      if Reserved p.name then
        ∃ q, (start host d e.store.backend).registry.placeholders[j]? = some q ∧
          p.kind = q.kind ∧ p.currentValue = q.currentValue
      else p.AtDefault) ∧
    (∀ t, again.settings.toggle t = (start host d e.store.backend).settings.toggle t) ∧
    (backend.Faithful → ∀ t, again.settings.toggle t = e.settings.toggle t) ∧
    ∀ key, ¬ d.settings.keySpace.toList <+: key.toList →
      after.store.backend.get? key = e.store.backend.get? key := by
  intro e after again
  have hspace : e.store.keySpace = d.settings.keySpace :=
    keySpace_run (sound_start host d backend) actions
  have hcleared : e.store.Cleared after.store := cleared_of_reset ho
  have hafter := hcleared.keySpace.trans hspace
  have htoggles : ∀ t, again.settings.toggle t = (e.store.loadToggle? t.key).getD (d.settings.toggle t) := by
    intro t
    rw [toggle_start hafter, hcleared.loadToggle?_eq]
  refine ⟨fun j p hp => ?_, fun t => ?_, fun hfaithful t => ?_, fun key hkey => ?_⟩
  · obtain ⟨p₀, hp₀, _⟩ := exists_loaded_of_start hp
    obtain ⟨p', hp', hraw⟩ := exists_started hafter hp₀
    obtain rfl := Option.some.inj (hp'.symm.trans hp)
    have hname : p'.name = p₀.name :=
      (Placeholder.of_raw_eq hraw).1.trans (p₀.name_loadState after.store)
    have hloaded := hcleared.loadState p₀
    rw [hname]
    split at hloaded
    · rename_i hreserved
      rw [if_pos hreserved]
      obtain ⟨q, hq, hraw'⟩ := exists_started hspace hp₀
      rw [hloaded, ← hraw'] at hraw
      exact ⟨q, hq, (Placeholder.of_raw_eq hraw).2⟩
    · rename_i hfree
      rw [if_neg hfree]
      exact hloaded.of_raw_eq hraw
  · rw [htoggles, toggle_start hspace]
  · rw [htoggles]
    exact (Overriding.run (sound_start host d backend) hfaithful
      (overriding_start host d backend) actions t).symm
  · exact hcleared.kept key (Store.isPlaceholderKey_of_not_prefix (hspace ▸ hkey))

/-- Two textboxes, one of them with a reserved name. -/
def themed : Descriptor where
  entries := [
    .record [("name", .text "A"), ("type", .text "textbox"), ("default_value", .text "1")],
    .record [("name", .text "SETTINGS_THEME"), ("type", .text "textbox"),
      ("default_value", .text "light")]]

theorem default_of_reset_of_themed :
    let e := (start .bare themed (.ofEntries [("other", "kept")])).run
      [.change (.setText "A" "2"), .setToggle .inlineEditors false]
    let again := start .bare themed e.reset.2.store.backend
    (∃ p, again.registry.placeholders[0]? = some p ∧ p.AtDefault) ∧
      again.settings.toggle .inlineEditors = false ∧
      e.reset.2.store.backend.get? "other" = some "kept" := by
  intro e again
  have hreset : errorOf? e.reset.1 = none := by decide +kernel
  obtain ⟨o, ho⟩ : ∃ o, e.reset.1 = .ok o := by
    cases hanswer : e.reset.1 with
    | ok o => exact ⟨o, rfl⟩
    | error err =>
        rw [hanswer] at hreset
        cases hreset
  obtain ⟨hplaceholders, _, htoggles, hkeys⟩ :=
    default_of_reset .bare themed (.ofEntries [("other", "kept")]) _ ho
  have hfirst : (again.registry.placeholders[0]?).map (·.name) = some "A" := by decide +kernel
  obtain ⟨p, hp, hname⟩ := Option.map_eq_some_iff.mp hfirst
  have hdefault := hplaceholders 0 p hp
  rw [if_neg (by rw [hname]; decide)] at hdefault
  have hmemory : (Backend.ofEntries [("other", "kept")]).Faithful := .inl rfl
  refine ⟨⟨p, hp, hdefault⟩, (htoggles hmemory .inlineEditors).trans ?_, (hkeys "other" ?_).trans ?_⟩
  · decide +kernel
  · decide +kernel
  · decide +kernel

/-- **What is kept under a reserved name survives a reset.** -/
theorem kept_under_reserved_name :
    let e := (start .bare themed (.ofEntries [])).run [.change (.setText "SETTINGS_THEME" "dark")]
    let again := start .bare themed e.reset.2.store.backend
    errorOf? e.reset.1 = none ∧
      (again.registry.get? "SETTINGS_THEME").map (fun p => (p.currentValue, p.defaultValue)) =
        some ("dark", "light") := by
  decide +kernel

end Engine

end Placeholders
