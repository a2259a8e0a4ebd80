import Placeholders.Proofs.Engine.Refusal
import Placeholders.Proofs.Storage.Clearing

/-!
# What calls do to storage and settings

* `Stored` is the inversion of any call as far as storage and settings are concerned: at most one entry is
  written, or the placeholder keys are cleared (`Action.stored_apply`).
* Hence the key space stays as it is, and storage that is faithful stays so (`Stored.store_spec`).
* The settings of an engine are as the storage has them, and as in the descriptor where it does not
  (`Overriding.stored`): keys of settings are written together with the settings, and nothing else writes
  or clears them.
-/

namespace Placeholders.Engine

open Placeholders.Storage

/-! ## 1. What is stored -/

theorem Edit.key_eq {edit : Edit} {p : Placeholder} (h : edit.Fits p.kind) (store : Store) :
    edit.key store p.name = p.stateKey store := by
  unfold Placeholder.stateKey
  cases edit <;> cases hkind : p.kind <;> first | rfl | (rw [hkind] at h; cases h)

theorem store_propagate (e : Engine) (names : List String) : (e.propagate names).2.store = e.store := by
  unfold propagate refreshPage
  cases e.page <;> rfl

/-- Following a change stores nothing. -/
theorem store_commit (e : Engine) (name : String) : (e.commit name).2.store = e.store := by
  unfold commit
  dsimp only
  split
  · rfl
  · rfl
  · rename_i dependents _ _
    have hstore := store_propagate ({ e with network := (e.network.valueChanged name).2 } : Engine)
      (name :: dependents)
    split
    · rename_i heq _
      rw [heq] at hstore
      exact hstore
    · exact hstore

theorem settings_modify (r : Registry) (name : String) (f : Placeholder → Placeholder) :
    (r.modify name f).settings = r.settings := by
  unfold Registry.modify
  split <;> rfl

/-- What a call does to storage and settings. -/
inductive Stored (e after : Engine) : Prop
  | kept (hstore : after.store = e.store) (hsettings : after.settings = e.settings)
  | unstored {key value : String} {source : StorageError}
    (hput : e.store.put key value = (.error source, after.store))
    (hsettings : after.settings = e.settings)
  | edited {key value : String} (hkey : ∀ t : Toggle, e.store.settingKey t.key ≠ key)
    (hput : e.store.put key value = (.ok (), after.store)) (hsettings : after.settings = e.settings)
  | toggled {t : Toggle} {on : Bool}
    (hput : e.store.put (e.store.settingKey t.key) (Store.writeFlag on) = (.ok (), after.store))
    (hsettings : after.settings = e.settings.withToggle t on)
  | cleared {result : Except StorageError Nat}
    (hclear : e.store.clearPlaceholders = (result, after.store))
    (hsettings : after.settings = e.settings)

section Stored

variable {e after : Engine}

theorem Stored.of_followed {store : Store} {name : String} {f : Placeholder → Placeholder}
    {o : Outcome} (h : Followed ((e.storing store).writing name f) after o) :
    after.settings = e.settings :=
  h.alike.settings.trans (settings_modify e.registry name f)

/-- An edit that is made is stored under the key of its placeholder. -/
theorem Stored.made (he : e.Sound) {name : String} {edit : Edit} {p : Placeholder} {store : Store}
    (hp : e.registry.get? name = some p) (hfits : edit.Fits p.kind)
    (hput : e.store.put (edit.key e.store name) edit.written = (.ok (), store)) :
    Stored e (((e.storing store).writing name edit.on).commit name).2 := by
  obtain ⟨o, _, hfollowed⟩ := commit_writing he (Registry.contains_of_get? hp) store edit.writes_on
  have hstore : (((e.storing store).writing name edit.on).commit name).2.store = store :=
    store_commit _ name
  refine .edited (fun t => ?_) (hput.trans (by rw [hstore])) (Stored.of_followed hfollowed)
  rw [← (Registry.exists_at_of_get? hp).1, Edit.key_eq hfits]
  exact p.settingKey_ne_stateKey e.store t

theorem Stored.change (he : e.Sound) (c : Change) : Stored e (c.apply e).2 := by
  have hcourse := c.course_apply e
  generalize c.apply e = answer at hcourse ⊢
  cases hcourse with
  | refused => exact .kept rfl rfl
  | unstored _ _ _ hput => exact .unstored hput rfl
  | made _ hp hfits hput => exact .made he hp hfits hput
  | noticed _ hname =>
      obtain ⟨_, _, hfollowed⟩ := commit_spec he hname
      exact .kept (store_commit e _) hfollowed.alike.settings

theorem Stored.attach (e : Engine) (page : Page) : Stored e (e.attach page).2 := by
  rcases e.attach_cases page with heq | ⟨_, _, heq⟩
  · rw [heq]
    exact .kept rfl rfl
  · rw [heq]
    exact .kept rfl rfl

theorem Stored.setToggle (e : Engine) (t : Toggle) (on : Bool) : Stored e (e.setToggle t on).2 := by
  unfold Engine.setToggle
  split
  · rename_i hput
    exact .unstored hput rfl
  · rename_i hput
    exact .toggled hput rfl

theorem Stored.reset (e : Engine) : Stored e e.reset.2 := by
  rcases e.reset_cases with ⟨_, store, hclear, heq⟩ | ⟨_, store, _, hclear, heq⟩
  · rw [heq]
    exact .cleared hclear rfl
  · rw [heq]
    exact .cleared hclear (Network.regular_build e.registry.resetToDefaults).2.settings

/-- **What any call does to storage and settings.** -/
theorem Action.stored_apply (he : e.Sound) (a : Action) : Stored e (a.apply e).2 := by
  cases a with
  | change c => exact .change he c
  | attach page => exact .attach e page
  | rerun =>
      change Stored e e.rerun.2
      rcases e.rerun_cases with heq | ⟨page, heq⟩
      · rw [heq]
        exact .kept rfl rfl
      · rw [heq]
        exact .attach e page
  | setToggle t on => exact .setToggle e t on
  | reset => exact .reset e
  | detach | takeDiagnostics => exact .kept rfl rfl

/-- No call changes the key space, and storage that is faithful stays so. -/
theorem Stored.store_spec (h : Stored e after) : after.store.keySpace = e.store.keySpace ∧
    (e.store.backend.Faithful → after.store.backend.Faithful) := by
  cases h with
  | kept hstore => exact ⟨congrArg _ hstore, fun h => hstore ▸ h⟩
  | unstored hput => exact Store.put_spec hput
  | edited _ hput => exact Store.put_spec hput
  | toggled hput => exact Store.put_spec hput
  | cleared hclear =>
      exact ⟨Store.keySpace_clearPlaceholders hclear,
        fun h => (Store.clearPlaceholders_spec h hclear).1⟩

end Stored

/-! ## 2. Overrides -/

/-- The settings are as the storage has them, and as in the descriptor where it does not. -/
def Overriding (d : Descriptor) (e : Engine) : Prop :=
  ∀ t, e.settings.toggle t = (e.store.loadToggle? t.key).getD (d.settings.toggle t)

section Overriding

variable {d : Descriptor} {e after : Engine}

theorem Overriding.congr (h : Overriding d e) (hsettings : after.settings = e.settings)
    (hspace : after.store.keySpace = e.store.keySpace)
    (hget : ∀ t : Toggle, after.store.backend.get? (e.store.settingKey t.key) =
      e.store.backend.get? (e.store.settingKey t.key)) : Overriding d after := fun t => by
  rw [hsettings, h t, Store.loadToggle?_congr hspace (hget t)]

theorem Overriding.toggled (h : Overriding d e) {t : Toggle} {on : Bool}
    (hput : e.store.put (e.store.settingKey t.key) (Store.writeFlag on) = (.ok (), after.store))
    (hsettings : after.settings = e.settings.withToggle t on) : Overriding d after := by
  intro u
  have hspace := (Store.put_spec hput).1
  have hget := Store.get?_put hput
  rw [hsettings, Settings.toggle_withToggle]
  by_cases htu : t = u
  · have hkey : after.store.settingKey u.key = e.store.settingKey t.key := by
      simp only [Store.settingKey, hspace, htu]
    have hload : after.store.loadToggle? u.key = some on := by
      rw [Store.loadToggle?, Store.loadSetting?, hkey, hget, if_pos rfl]
      exact Store.readFlag?_writeFlag on
    rw [if_pos htu, hload]
    rfl
  · have hload : after.store.loadToggle? u.key = e.store.loadToggle? u.key :=
      Store.loadToggle?_congr hspace
        ((hget _).trans (if_neg fun hkey => htu (e.store.settingKey_inj hkey)))
    rw [if_neg htu, hload, h]

/-- **Overrides and settings stay together**, if what cannot be written is not kept. -/
theorem Overriding.stored (h : Overriding d e) (hfaithful : e.store.backend.Faithful)
    (hstored : Stored e after) : Overriding d after := by
  have hspace := hstored.store_spec.1
  cases hstored with
  | kept hstore hsettings => exact h.congr hsettings hspace fun _ => by rw [hstore]
  | unstored hput hsettings =>
      exact h.congr hsettings hspace fun _ => Store.get?_put_error hput hfaithful _
  | edited hkey hput hsettings =>
      exact h.congr hsettings hspace fun t =>
        (Store.get?_put hput _).trans (if_neg (Ne.symm (hkey t)))
  | toggled hput hsettings => exact h.toggled hput hsettings
  | cleared hclear hsettings =>
      exact h.congr hsettings hspace fun t =>
        (Store.clearPlaceholders_spec hfaithful hclear).2 _ (e.store.isPlaceholderKey_settingKey t.key)

theorem settings_start (host : Host) (d : Descriptor) (backend : Backend) :
    (start host d backend).settings =
      d.settings.applyOverrides { backend, keySpace := d.settings.keySpace } := by
  refine (regular_start host d backend).2.settings.trans ?_
  exact congrArg (Settings.applyOverrides · _) (Registry.settings_parse host d)

theorem overriding_start (host : Host) (d : Descriptor) (backend : Backend) :
    Overriding d (start host d backend) := fun t => by
  rw [settings_start]
  exact Settings.toggle_applyOverrides ..

end Overriding

/-! ## 3. Runs -/

theorem keySpace_run {e : Engine} (he : e.Sound) (actions : List Action) :
    (e.run actions).store.keySpace = e.store.keySpace := by
  induction actions generalizing e with
  | nil => rfl
  | cons a rest ih => exact (ih (he.apply a)).trans (a.stored_apply he).store_spec.1

theorem Overriding.run {d : Descriptor} {e : Engine} (he : e.Sound)
    (hfaithful : e.store.backend.Faithful) (h : Overriding d e) (actions : List Action) :
    Overriding d (e.run actions) := by
  induction actions generalizing e with
  | nil => exact h
  | cons a rest ih =>
      have hstored := a.stored_apply he
      exact ih (he.apply a) (hstored.store_spec.2 hfaithful) (h.stored hfaithful hstored)

end Placeholders.Engine
