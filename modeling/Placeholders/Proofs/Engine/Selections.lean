import Placeholders.Proofs.Engine.Refusal
import Placeholders.Proofs.Engine.Reload
import Placeholders.Proofs.Entries

/-!
# Selections

The selection of a placeholder and its raw value are two fields, which several calls write.

* A placeholder is `InStep` if its selection and its default are in range and its raw value is what is
  selected. What the storage has is in range or not taken (`lt_of_loadIndex?`), so loading puts every
  well-made placeholder in step.
* Edits and resets keep placeholders in step; following a change and counting on pages leave the two fields
  alone.
* `selections_in_step` is the invariant of every engine that can be come by.
-/

namespace Placeholders

open Placeholders.Storage

/-! ## 1. Placeholders in step -/

/-- The raw value is that of the selection, and selection and default of a dropdown are among its
    choices. -/
def Placeholder.InStep (p : Placeholder) : Prop :=
  match p.kind with
  | .textbox _ => True
  | .checkbox box => p.currentValue = box.valueFor box.isChecked
  | .dropdown menu => menu.defaultIndex < menu.choices.length ∧
    ∃ h : menu.index < menu.choices.length, p.currentValue = menu.choices[menu.index].value

theorem Dropdown.valueAt_of_lt {menu : Dropdown} {i : Nat} (h : i < menu.choices.length) :
    menu.valueAt i = menu.choices[i].value := by
  rw [valueAt, List.getElem?_eq_getElem h]

/-- **Steps around the list end in it**, however many they are. -/
theorem Dropdown.stepped_lt {menu : Dropdown} (h : menu.choices ≠ []) (delta : Int) :
    menu.stepped delta < menu.choices.length := by
  have hpos : 0 < (menu.choices.length : Int) := by
    have hlength := List.length_pos_iff.mpr h
    omega
  have hlt := Int.emod_lt_of_pos (wordSum menu.index delta) hpos
  have hnonneg := Int.emod_nonneg (wordSum menu.index delta) (Int.ne_of_gt hpos)
  unfold stepped
  omega

/-- An index that is not below the number of options is not taken from the storage. -/
theorem Storage.Store.lt_of_loadIndex? {store : Store} {name : String} {count i : Nat}
    (h : store.loadIndex? name count = some i) : i < count := by
  obtain ⟨text, _, hread⟩ := Option.bind_eq_some_iff.mp h
  obtain ⟨_, hlt⟩ := Option.filter_eq_some_iff.mp hread
  simpa using hlt

namespace Placeholder

variable {p q : Placeholder}

theorem InStep.congr (h : p.InStep) (hkind : q.kind = p.kind) (hvalue : q.currentValue = p.currentValue) :
    q.InStep := by
  unfold InStep at *
  rw [hkind, hvalue]
  exact h

theorem InStep.of_raw_eq (h : p.InStep) (hraw : q.raw = p.raw) : q.InStep := by
  obtain ⟨_, hkind, hvalue⟩ := Placeholder.of_raw_eq hraw
  exact h.congr hkind hvalue

/-- **Whatever the storage has, a placeholder is loaded in step.** -/
theorem inStep_loadState (h : p.kind.WellMade) (store : Store) : (p.loadState store).InStep := by
  cases hkind : p.kind with
  | textbox box => simp only [InStep, loadState, withRaw, hkind]
  | checkbox box =>
      simp only [InStep, loadState, withRaw, hkind]
      rfl
  | dropdown menu =>
      rw [hkind] at h
      obtain ⟨_, hdefault⟩ := h
      have hindex : (store.loadIndex? p.name menu.choices.length).getD menu.defaultIndex <
          menu.choices.length := by
        cases hload : store.loadIndex? p.name menu.choices.length with
        | none => exact hdefault
        | some i => exact Store.lt_of_loadIndex? hload
      simp only [InStep, loadState, withRaw, hkind]
      exact ⟨hdefault, hindex, Dropdown.valueAt_of_lt hindex⟩

/-- A reset keeps a placeholder in step. -/
theorem InStep.resetToDefault (h : p.InStep) : p.resetToDefault.InStep := by
  cases hkind : p.kind with
  | textbox box => simp only [InStep, Placeholder.resetToDefault, withRaw, hkind]
  | checkbox box =>
      simp only [InStep, Placeholder.resetToDefault, withRaw, defaultValue, hkind]
      rfl
  | dropdown menu =>
      simp only [InStep, hkind] at h
      obtain ⟨hdefault, _⟩ := h
      simp only [InStep, Placeholder.resetToDefault, withRaw, defaultValue, hkind]
      exact ⟨hdefault, hdefault, Dropdown.valueAt_of_lt hdefault⟩

/-- An edit keeps a placeholder in step if it fits. -/
theorem InStep.edited (h : p.InStep) {edit : Engine.Edit} (hfits : edit.Fits p.kind) :
    (edit.on p).InStep := by
  cases hkind : p.kind with
  | textbox box =>
      rw [hkind] at hfits
      cases edit with
      | text value => simp only [InStep, Engine.Edit.on, hkind]
      | flag | index => cases hfits
  | checkbox box =>
      rw [hkind] at hfits
      cases edit with
      | flag checked =>
          simp only [InStep, Engine.Edit.on, hkind]
          rfl
      | text | index => cases hfits
  | dropdown menu =>
      rw [hkind] at hfits
      cases edit with
      | index i =>
          have hi : i < menu.choices.length := hfits
          simp only [InStep, hkind] at h
          obtain ⟨hdefault, _⟩ := h
          simp only [InStep, Engine.Edit.on, hkind]
          exact ⟨hdefault, hi, Dropdown.valueAt_of_lt hi⟩
      | text | flag => cases hfits

end Placeholder

/-! ## 2. Registries in step -/

/-- All placeholders are in step. -/
def Registry.InStep (r : Registry) : Prop := ∀ p ∈ r.placeholders, p.InStep

namespace Registry

variable {r s : Registry}

theorem InStep.of_alikeTo (h : r.InStep) (halike : r.AlikeTo s) : s.InStep := by
  intro p hp
  obtain ⟨i, hi⟩ := List.mem_iff_getElem?.mp hp
  obtain ⟨q, hq, hraw⟩ := halike.exists_at hi
  exact (h q (List.mem_of_getElem? hq)).of_raw_eq hraw.symm

theorem InStep.map (h : r.InStep) {f : Placeholder → Placeholder} (hf : ∀ p, p.InStep → (f p).InStep) :
    (r.map f).InStep := by
  intro p hp
  obtain ⟨q, hq, rfl⟩ := List.mem_map.mp hp
  exact hf q (h q hq)

theorem InStep.tally (h : r.InStep) (replaced : List Target) : (r.tally replaced).InStep := by
  intro p hp
  obtain ⟨i, hi⟩ := List.mem_iff_getElem?.mp hp
  rw [Engine.getElem?_tally] at hi
  obtain ⟨q, hq, rfl⟩ := Option.map_eq_some_iff.mp hi
  exact (h q (List.mem_of_getElem? hq)).congr rfl rfl

/-- An edit is written into the placeholder that it fits, and into no other. -/
theorem InStep.modify (h : r.InStep) (hnames : r.names.Nodup) {name : String} {p : Placeholder}
    (hp : r.get? name = some p) {edit : Engine.Edit} (hfits : edit.Fits p.kind) :
    (r.modify name edit.on).InStep := by
  intro q hq
  obtain ⟨j, hj⟩ := List.mem_iff_getElem?.mp hq
  rw [Engine.getElem?_modify hnames] at hj
  obtain ⟨before, hbefore, rfl⟩ := Option.map_eq_some_iff.mp hj
  have hstep := h before (List.mem_of_getElem? hbefore)
  split
  · rename_i hname
    have hsame := Registry.get?_eq_some hnames hbefore
    rw [hname, hp] at hsame
    obtain rfl := Option.some.inj hsame
    exact hstep.edited hfits
  · exact hstep

end Registry

namespace Engine

/-! ## 3. Engines in step -/

theorem inStep_start (host : Host) (d : Descriptor) (backend : Backend) :
    (start host d backend).registry.InStep := by
  intro p hp
  obtain ⟨i, hi⟩ := List.mem_iff_getElem?.mp hp
  obtain ⟨p₀, hp₀, hraw⟩ := exists_loaded_of_start hi
  have hloaded := Placeholder.inStep_loadState (Registry.wellMade_parse hp₀)
    { backend, keySpace := d.settings.keySpace }
  exact hloaded.of_raw_eq hraw

section Step

variable {e : Engine}

/-- What is refused or cannot be stored writes nothing, and what is stored is an edit that fits. -/
theorem inStep_change (he : e.Sound) (h : e.registry.InStep) (c : Change) :
    (c.apply e).2.registry.InStep := by
  have hcourse := c.course_apply e
  generalize c.apply e = answer at *
  cases hcourse with
  | refused => exact h
  | unstored => exact h
  | @made name edit p store _ hp hfits _ =>
      obtain ⟨o, _, hfollowed⟩ :=
        commit_writing he (Registry.contains_of_get? hp) store edit.writes_on
      exact (h.modify he.distinct hp hfits).of_alikeTo hfollowed.alike
  | noticed _ hname =>
      obtain ⟨o, _, hfollowed⟩ := commit_spec he hname
      exact h.of_alikeTo hfollowed.alike

theorem inStep_attach (h : e.registry.InStep) (page : Page) : (e.attach page).2.registry.InStep := by
  rcases e.attach_cases page with heq | ⟨replaced, attached, heq⟩
  · rw [heq]
    exact h
  · rw [heq]
    exact h.tally replaced

theorem inStep_rerun (h : e.registry.InStep) : e.rerun.2.registry.InStep := by
  rcases e.rerun_cases with heq | ⟨page, heq⟩
  · rw [heq]
    exact h
  · rw [heq]
    exact inStep_attach h page

theorem inStep_setToggle (h : e.registry.InStep) (t : Toggle) (on : Bool) :
    (e.setToggle t on).2.registry.InStep := by
  unfold Engine.setToggle
  split <;> exact h

theorem inStep_reset (h : e.registry.InStep) : e.reset.2.registry.InStep := by
  rcases e.reset_cases with ⟨_, store, _, heq⟩ | ⟨_, store, _, _, heq⟩
  · rw [heq]
    exact h
  · have halike := (Network.regular_build e.registry.resetToDefaults).2
    have hdefault : e.registry.resetToDefaults.InStep := h.map fun p hp => hp.resetToDefault
    rw [heq]
    exact hdefault.of_alikeTo halike

/-- **No call puts a placeholder out of step.** -/
theorem inStep_apply (he : e.Sound) (h : e.registry.InStep) (a : Action) :
    (a.apply e).2.registry.InStep := by
  cases a with
  | change c => exact inStep_change he h c
  | attach page => exact inStep_attach h page
  | rerun => exact inStep_rerun h
  | detach => exact h
  | setToggle t on => exact inStep_setToggle h t on
  | reset => exact inStep_reset h
  | takeDiagnostics => exact h

end Step

theorem Attainable.inStep {e : Engine} (h : e.Attainable) : e.registry.InStep := by
  induction h with
  | start host d backend => exact inStep_start host d backend
  | act h a ih => exact inStep_apply h.sound ih a
  | @register e _ hub ih =>
      rw [registry, network_registerAll]
      exact ih
  | unregister _ hafter ih =>
      rw [registry, network_unregisterAll hafter]
      exact ih
  | elsewhere _ _ ih => exact ih

/-- **Selections stay in range and in step with the raw value.** An engine is started for any descriptor
    over any storage, and then used in any way: by its calls and by editors, whether or not writes fail,
    and while others change the storage. The raw value of a checkbox is that of its flag. The default and
    the selection of a dropdown are among its choices, and its raw value is that of the choice selected.
    So every choice that is looked up is there, also after any number of steps around the list. -/
theorem selections_in_step {e : Engine} (he : e.Attainable) {p : Placeholder}
    (hp : p ∈ e.registry.placeholders) :
    (∀ box, p.kind = .checkbox box → p.currentValue = box.valueFor box.isChecked) ∧
    ∀ menu, p.kind = .dropdown menu → menu.defaultIndex < menu.choices.length ∧
      (∃ h : menu.index < menu.choices.length, p.currentValue = menu.choices[menu.index].value) ∧
      ∀ delta, menu.stepped delta < menu.choices.length := by
  have hstep := he.inStep p hp
  unfold Placeholder.InStep at hstep
  refine ⟨fun box hkind => ?_, fun menu hkind => ?_⟩
  · rw [hkind] at hstep
    exact hstep
  · rw [hkind] at hstep
    obtain ⟨hdefault, hindex, hvalue⟩ := hstep
    have hne : menu.choices ≠ [] := List.ne_nil_of_length_pos (Nat.zero_lt_of_lt hdefault)
    exact ⟨hdefault, ⟨hindex, hvalue⟩, fun delta => Dropdown.stepped_lt hne delta⟩

/-- A dropdown with three choices. -/
def sizes : Descriptor where
  entries := [.record [("name", .text "A"), ("type", .text "dropdown"), ("default_index", .whole 1),
    ("options", .list [
      .record [("display_name", .text "small"), ("value", .text "S")],
      .record [("display_name", .text "medium"), ("value", .text "M")],
      .record [("display_name", .text "large"), ("value", .text "L")]])]]

/-- The storage has an index beyond the choices, and the selection goes around as far as a word reaches. -/
theorem selections_in_step_of_sizes :
    let e := (start .bare sizes (.ofEntries [("PLACEHOLDER_A_INDEX", "7")])).run
      [.change (.cycleIndex "A" 9223372036854775807)]
    ∃ p menu, e.registry.placeholders[0]? = some p ∧ p.kind = .dropdown menu ∧
      (∃ h : menu.index < menu.choices.length, p.currentValue = menu.choices[menu.index].value) ∧
      p.currentValue = "M" := by
  intro e
  have hattainable : e.Attainable := Attainable.act (.start _ _ _) _
  have hfirst : (e.registry.placeholders[0]?).map (fun p => (p.kind.name, p.currentValue)) =
      some ("dropdown", "M") := by
    decide +kernel
  obtain ⟨p, hp, heq⟩ := Option.map_eq_some_iff.mp hfirst
  obtain ⟨hname, hvalue⟩ := Prod.mk.inj heq
  obtain ⟨_, hmenus⟩ := selections_in_step hattainable (List.mem_of_getElem? hp)
  cases hkind : p.kind with
  | textbox | checkbox => simp [hkind, Kind.name] at hname
  | dropdown menu =>
      obtain ⟨_, hselected, _⟩ := hmenus menu hkind
      exact ⟨p, menu, hp, hkind, hselected, hvalue⟩

end Engine

end Placeholders
