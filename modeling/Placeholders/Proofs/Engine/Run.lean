import Placeholders.Proofs.Engine.Changes
import Placeholders.Proofs.Expansion.Made

/-!
# Runs of an engine

All that can be done with an engine, and what holds whatever is done.

* An `Action` is any call that may leave another engine behind.
* An engine is `Reachable` if it has been started and then used in any way. It is sound
  (`Reachable.sound`).
-/

namespace Placeholders.Engine

open Placeholders.Storage

/-! ## 1. Everything that can be done -/

/-- A call that may leave another engine behind. -/
inductive Action where
  | change (c : Change)
  | attach (page : Page)
  | rerun
  | detach
  | setToggle (t : Toggle) (on : Bool)
  | reset
  | takeDiagnostics

/-- Makes the call; answers the outcome, if there is one. -/
def Action.apply (e : Engine) : Action → Option Outcome × Engine
  | change c => (outcome? (c.apply e).1, (c.apply e).2)
  | attach page => (none, (e.attach page).2)
  | rerun => (none, e.rerun.2)
  | detach => (none, e.detach.2)
  | setToggle t on => (none, (e.setToggle t on).2)
  | reset => (outcome? e.reset.1, e.reset.2)
  | takeDiagnostics => (none, e.takeDiagnostics.2)

/-- The engine after several calls. -/
def run (e : Engine) (actions : List Action) : Engine :=
  actions.foldl (fun e a => (a.apply e).2) e

/-- The outcomes of several calls. -/
def outcomes (e : Engine) : List Action → List Outcome
  | [] => []
  | a :: rest => (a.apply e).1.toList ++ (a.apply e).2.outcomes rest

/-! ## 2. Engines stay sound -/

theorem Sound.change {e : Engine} (he : e.Sound) (c : Change) : (c.apply e).2.Sound := by
  rcases followed_answer he (c.answer_apply e) with ⟨_, store, heq⟩ | ⟨_, _, _, _, _, _, hfollowed⟩
  · rw [heq]
    exact he.storing store
  · exact hfollowed.sound

theorem getElem?_tally (r : Registry) (replaced : List Target) (i : Nat) :
    (r.tally replaced).placeholders[i]? = (r.placeholders[i]?).map fun p => p.tally i replaced := by
  rw [Registry.tally, List.getElem?_mapIdx]

/-- Counting changes nothing that decides which tokens are looked for. -/
theorem marks_tally (r : Registry) (replaced : List Target) :
    (r.tally replaced).placeholders.map Placeholder.marks = r.placeholders.map Placeholder.marks := by
  refine List.ext_getElem? fun i => ?_
  rw [List.getElem?_map, List.getElem?_map, getElem?_tally, Option.map_map]
  rfl

@[simp] theorem names_tally (r : Registry) (replaced : List Target) :
    (r.tally replaced).names = r.names := by
  refine List.ext_getElem? fun i => ?_
  rw [Registry.names_getElem?, Registry.names_getElem?, getElem?_tally, Option.map_map]
  rfl

/-- Expanding a page counts what it replaces. Where it fails, nothing happens. -/
theorem attach_cases (e : Engine) (page : Page) :
    (e.attach page).2 = e ∨ ∃ replaced attached, (e.attach page).2 =
      { e with network := e.network.withRegistry (·.tally replaced), page := attached } := by
  unfold Engine.attach expandPage
  cases hexpand : page.document.expand page.root e.registry with
  | error err => exact .inl rfl
  | ok made =>
      obtain ⟨document, registry, findings⟩ := made
      obtain ⟨lexicon, _, _, _, rfl, _⟩ := Document.expand_eq_ok hexpand
      exact .inr ⟨_, _, rfl⟩

theorem rerun_cases (e : Engine) : e.rerun.2 = e ∨ ∃ page, e.rerun.2 = (e.attach page).2 := by
  unfold Engine.rerun
  split
  · exact .inr ⟨_, rfl⟩
  · exact .inl rfl

theorem Sound.attach {e : Engine} (he : e.Sound) (page : Page) : (e.attach page).2.Sound := by
  rcases e.attach_cases page with heq | ⟨replaced, attached, heq⟩
  · rw [heq]
    exact he
  · have hnext := he.withRegistry (f := (·.tally replaced)) (names_tally _ _)
    rw [heq]
    exact ⟨hnext.regular, hnext.distinct⟩

theorem Sound.rerun {e : Engine} (he : e.Sound) : e.rerun.2.Sound := by
  rcases e.rerun_cases with heq | ⟨page, heq⟩
  · rw [heq]
    exact he
  · rw [heq]
    exact he.attach page

theorem Sound.setToggle {e : Engine} (he : e.Sound) (t : Toggle) (on : Bool) :
    (e.setToggle t on).2.Sound := by
  unfold Engine.setToggle
  split
  · exact he.storing _
  · rename_i store _
    exact (he.storing store).withRegistry
      (f := fun r => { r with settings := r.settings.withToggle t on }) rfl

/-- The engine with everything as by default, before that is shown on the page. -/
def byDefault (e : Engine) (store : Store) : Engine :=
  { e with
    store
    network := (Network.build e.registry.resetToDefaults).1
    diagnostics := e.diagnostics ++ (Network.build e.registry.resetToDefaults).2.map EngineError.graph }

theorem Sound.byDefault {e : Engine} (he : e.Sound) (store : Store) : (e.byDefault store).Sound := by
  obtain ⟨hregular, halike⟩ := Network.regular_build e.registry.resetToDefaults
  refine ⟨hregular, ?_⟩
  change (Network.build e.registry.resetToDefaults).1.registry.names.Nodup
  rw [halike.names_eq, Registry.names_resetToDefaults]
  exact he.distinct

/-- **Resetting fails because of the storage only**, and then the engine is as it was but for the
    storage. -/
theorem reset_cases (e : Engine) :
    (∃ source store, e.store.clearPlaceholders = (.error source, store) ∧
      e.reset = (.error (.persistence source), e.storing store)) ∨
    ∃ removed store o, e.store.clearPlaceholders = (.ok removed, store) ∧
      e.reset = (.ok o, { e.byDefault store with
        page := e.page.map
          (refreshed (e.byDefault store).registry (e.byDefault store).registry.names) }) := by
  unfold Engine.reset
  split
  · rename_i source store hclear
    exact .inl ⟨source, store, hclear, rfl⟩
  · rename_i removed store hclear
    have hknown : ∀ name ∈ (e.byDefault store).registry.names,
        name ∈ (e.byDefault store).registry.names := fun _ h => h
    obtain ⟨count, heq⟩ := (e.byDefault store).exists_propagate_ok hknown
    exact .inr ⟨removed, store, _, hclear, heq⟩

theorem Sound.reset {e : Engine} (he : e.Sound) : e.reset.2.Sound := by
  rcases e.reset_cases with ⟨_, store, _, heq⟩ | ⟨_, store, _, _, heq⟩
  · rw [heq]
    exact he.storing store
  · rw [heq]
    exact ⟨(he.byDefault store).regular, (he.byDefault store).distinct⟩

/-- **Whatever is done, an engine stays sound.** -/
theorem Sound.apply {e : Engine} (he : e.Sound) (a : Action) : (a.apply e).2.Sound := by
  cases a with
  | change c => exact he.change c
  | attach page => exact he.attach page
  | rerun => exact he.rerun
  | detach => exact ⟨he.regular, he.distinct⟩
  | setToggle t on => exact he.setToggle t on
  | reset => exact he.reset
  | takeDiagnostics => exact ⟨he.regular, he.distinct⟩

theorem Sound.run {e : Engine} (he : e.Sound) (actions : List Action) : (e.run actions).Sound := by
  induction actions generalizing e with
  | nil => exact he
  | cons a rest ih => exact ih (he.apply a)

/-- The placeholders of a descriptor, with what the storage has for them. -/
def loaded (host : Host) (d : Descriptor) (backend : Backend) : Registry :=
  ((Registry.parse host d).1.applyOverrides { backend, keySpace := d.settings.keySpace }).loadState
    { backend, keySpace := d.settings.keySpace }

/-- What an engine is started with differs from what is loaded in expanded values only. -/
theorem regular_start (host : Host) (d : Descriptor) (backend : Backend) :
    (start host d backend).network.Regular ∧
      (loaded host d backend).AlikeTo (start host d backend).registry :=
  Network.regular_build (loaded host d backend)

theorem names_start (host : Host) (d : Descriptor) (backend : Backend) :
    (start host d backend).registry.names = (Registry.parse host d).1.names :=
  (regular_start host d backend).2.names_eq.trans (Registry.names_loadState _ _)

/-- **An engine is sound from the start.** -/
theorem sound_start (host : Host) (d : Descriptor) (backend : Backend) :
    (start host d backend).Sound := by
  refine ⟨(regular_start host d backend).1, ?_⟩
  rw [names_start]
  exact Registry.nodup_names_parse host d

/-- The engine can be come by: started, and then used in any way. -/
def Reachable (e : Engine) : Prop :=
  ∃ host d backend actions, e = (start host d backend).run actions

theorem Reachable.sound {e : Engine} (h : e.Reachable) : e.Sound := by
  obtain ⟨host, d, backend, actions, rfl⟩ := h
  exact (sound_start host d backend).run actions

/-- A single textbox. -/
def greeting : Descriptor where
  entries := [.record [("name", .text "A"), ("type", .text "textbox"), ("default_value", .text "1")]]

end Placeholders.Engine
