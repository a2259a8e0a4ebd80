import Placeholders.Engine.Editors
import Placeholders.Proofs.Engine.Locality

/-!
# What editors can rely on

Whatever is changed, a placeholder keeps its role: whether readers may change it, and by what kind of
editor.

* A call stays on the page (`Action.staysOnPage`) unless it attaches, expands or gives up a page.
* Such a call keeps all roles, and the page but for a refresh (`Kept`). Every kind that it changes belongs
  to a placeholder that is refreshed, so that no editor is left with an old state (`Action.exists_kept`).
* An event comes to one of these calls or to nothing at all (`Hub.dispatch_cases`).
-/

namespace Placeholders

open Placeholders.Storage

/-! ## 1. Roles -/

/-- Whether readers may not change a placeholder, and what kind of editor it has. -/
def Placeholder.role (p : Placeholder) : Bool × EditorKind := (p.readOnly, .ofKind p.kind)

theorem Placeholder.role_eq_of_raw_eq {p q : Placeholder} (h : q.raw = p.raw) : q.role = p.role := by
  have hrole : q.raw.role = p.raw.role := by rw [h]
  exact hrole

theorem Placeholder.role_resetToDefault (p : Placeholder) : p.resetToDefault.role = p.role := by
  obtain ⟨name, description, kind, _⟩ := p
  cases kind <;> rfl

namespace Engine

theorem Edit.role_on (edit : Edit) (p : Placeholder) : (edit.on p).role = p.role := by
  unfold on Placeholder.role
  split
  · rename_i hkind
    simp only [hkind]
  · rename_i hkind
    simp only [hkind]
    rfl
  · rename_i hkind
    simp only [hkind]
    rfl
  · rfl

/-! ## 2. Calls that stay on the page -/

/-- The call neither attaches nor expands a page, nor gives it up. -/
def Action.staysOnPage : Action → Bool
  | attach _ | rerun | detach => false
  | _ => true

/-- What a call leaves of an engine that has refreshed the bindings of certain names, and has not touched
    the page otherwise. -/
structure Kept (e after : Engine) (names : List String) : Prop where
  sound : after.Sound
  known : ∀ name ∈ names, name ∈ after.registry.names
  page : after.page = e.page.map (refreshed after.registry names)
  placeholders : ∀ name p, e.registry.get? name = some p → ∃ q, after.registry.get? name = some q ∧
    q.role = p.role ∧ (name ∉ names → q.kind = p.kind)

theorem map_refreshed_nil (r : Registry) (page : Option Page) : page.map (refreshed r []) = page := by
  cases page <;> rfl

section Kept

variable {e after : Engine}

/-- Nothing that a page can show is touched. -/
theorem Kept.untouched (hsound : after.Sound) (hpage : after.page = e.page)
    (hsame : ∀ name, after.registry.get? name = e.registry.get? name) : Kept e after [] where
  sound := hsound
  known := fun _ hname => absurd hname List.not_mem_nil
  page := hpage.trans (map_refreshed_nil _ _).symm
  placeholders := fun name p hp => ⟨p, (hsame name).trans hp, rfl, fun _ => rfl⟩

/-- **A change that is followed keeps all roles**, and the kinds of placeholders that are not affected. -/
theorem Followed.kept {store : Store} {name : String} {f : Placeholder → Placeholder} {o : Outcome}
    (h : Followed ((e.storing store).writing name f) after o) (he : e.Sound) (hf : Writes f)
    (hrole : ∀ p, (f p).role = p.role) (hself : name ∈ o.affected) : Kept e after o.affected where
  sound := h.sound
  known := h.known
  page := h.page
  placeholders := by
    intro other p hp
    obtain ⟨rfl, j, hj⟩ := Registry.exists_at_of_get? hp
    obtain ⟨q, hq, hsame, _⟩ := h.exists_kept he.distinct hself hj
    have hwritten : ((e.storing store).writing name f).registry.placeholders[j]? =
        some (if p.name = name then f p else p) := by
      change (e.registry.modify name f).placeholders[j]? = _
      rw [getElem?_modify he.distinct, hj]
      rfl
    obtain ⟨q', hq', hraw⟩ := h.alike.symm.exists_at hwritten
    obtain rfl := Option.some.inj (hq.symm.trans hq')
    have hrole' : q.role = p.role := by
      refine (Placeholder.role_eq_of_raw_eq hraw).trans ?_
      split
      · exact hrole p
      · rfl
    have hname : q.name = p.name := by
      refine (congrArg Placeholder.name hraw).trans ?_
      change (if p.name = name then f p else p).name = p.name
      split
      · exact congrArg (·.1) (hf.marks p)
      · rfl
    exact ⟨q, hname ▸ Registry.get?_eq_some h.sound.distinct hq, hrole',
      fun hnot => congrArg Placeholder.kind (hsame hnot)⟩

/-- What is written into a placeholder of a known name and followed. -/
theorem exists_kept_commit (he : e.Sound) {name : String} (hname : e.registry.contains name = true)
    (store : Store) {f : Placeholder → Placeholder} (hf : Writes f) (hrole : ∀ p, (f p).role = p.role) :
    ∃ names, Kept e (((e.storing store).writing name f).commit name).2 names := by
  obtain ⟨o, ho, hfollowed⟩ := commit_writing he hname store hf
  obtain ⟨_, _, _, _, _, haffected⟩ := affected_of_commit ((he.storing store).writing name hf)
    (contains_writing hname store hf) ho
  exact ⟨o.affected, hfollowed.kept he hf hrole (haffected ▸ List.mem_cons_self)⟩

theorem Change.exists_kept (he : e.Sound) (c : Change) : ∃ names, Kept e (c.apply e).2 names := by
  have hcourse := c.course_apply e
  generalize c.apply e = answer at hcourse ⊢
  cases hcourse with
  | refused => exact ⟨[], .untouched he rfl fun _ => rfl⟩
  | unstored => exact ⟨[], .untouched (he.storing _) rfl fun _ => rfl⟩
  | @made name edit p store _ hp =>
      exact exists_kept_commit he (Registry.contains_of_get? hp) store edit.writes_on edit.role_on
  | @noticed name _ hname =>
      have hsame : (e.storing e.store).writing name id = e := by
        simp only [writing, storing, Network.withRegistry, modify_id]
      have hkept := exists_kept_commit he hname e.store (f := id) (fun p => ⟨_, _, rfl⟩) fun _ => rfl
      rwa [hsame] at hkept

/-- Going back to the defaults refreshes all bindings there are. -/
theorem exists_kept_reset (he : e.Sound) : ∃ names, Kept e e.reset.2 names := by
  have hsound := he.reset
  rcases e.reset_cases with ⟨_, store, _, heq⟩ | ⟨_, store, _, _, heq⟩
  · rw [heq]
    exact ⟨[], .untouched (he.storing store) rfl fun _ => rfl⟩
  · rw [heq] at hsound ⊢
    refine ⟨_, hsound, fun _ hname => hname, rfl, fun name p hp => ?_⟩
    obtain ⟨rfl, j, hj⟩ := Registry.exists_at_of_get? hp
    have hdefault : e.registry.resetToDefaults.placeholders[j]? = some p.resetToDefault := by
      rw [Registry.resetToDefaults, Registry.map, List.getElem?_map, hj]
      rfl
    obtain ⟨q, hq, hraw⟩ :=
      (Network.regular_build e.registry.resetToDefaults).2.symm.exists_at hdefault
    have hname : q.name = p.name := (congrArg Placeholder.name hraw).trans p.name_resetToDefault
    have hget := Registry.get?_eq_some hsound.distinct hq
    refine ⟨q, hname ▸ hget, (Placeholder.role_eq_of_raw_eq hraw).trans p.role_resetToDefault,
      fun hnot => absurd ?_ hnot⟩
    exact hname ▸ List.mem_map_of_mem (List.mem_of_getElem? hq)

/-- **A call that stays on the page keeps all roles**, and every kind that it changes belongs to a
    placeholder whose bindings are refreshed. -/
theorem Action.exists_kept (he : e.Sound) {a : Action} (ha : a.staysOnPage = true) :
    ∃ names, Kept e (a.apply e).2 names := by
  cases a with
  | change c => exact c.exists_kept he
  | attach page => cases ha
  | rerun => cases ha
  | detach => cases ha
  | setToggle t on =>
      refine ⟨[], .untouched (he.setToggle t on) ?_ fun name => ?_⟩
      · change (e.setToggle t on).2.page = e.page
        unfold Engine.setToggle
        split <;> rfl
      · change (e.setToggle t on).2.registry.get? name = _
        unfold Engine.setToggle
        split <;> rfl
  | reset => exact exists_kept_reset he
  | takeDiagnostics => exact ⟨[], .untouched (he.apply .takeDiagnostics) rfl fun _ => rfl⟩

end Kept

end Engine

/-! ## 3. Events -/

namespace Hub

theorem confirmText_cases (e : Engine) (name text : String) :
    (confirmText e name text).2 = e ∨
      (confirmText e name text).2 = ((Engine.Change.setText name text).apply e).2 := by
  unfold confirmText
  split
  · exact .inl rfl
  · exact .inr rfl

/-- **An event changes nothing or a value.** -/
theorem dispatch_cases (hub : Hub) (e : Engine) (l : Listener) (event : EditorEvent) :
    (hub.dispatch e l event).2 = e ∨
      ∃ c : Engine.Change, (hub.dispatch e l event).2 = (c.apply e).2 := by
  unfold dispatch
  split
  · exact .inl rfl
  · split
    · exact (confirmText_cases e _ _).imp_right fun h => ⟨_, h⟩
    · split
      · exact (confirmText_cases e _ _).imp_right fun h => ⟨_, h⟩
      · exact .inl rfl
    · exact .inr ⟨.toggle l.placeholder, rfl⟩
    · exact .inr ⟨.cycleIndex l.placeholder _, rfl⟩
    · exact .inl rfl

/-- **A listener that is not active does nothing.** -/
theorem dispatch_of_not_isActive {hub : Hub} {l : Listener} (h : hub.isActive l = false) (e : Engine)
    (event : EditorEvent) : hub.dispatch e l event = (.ok none, e) := by
  unfold dispatch
  rw [h]
  rfl

theorem exists_kept_dispatch (hub : Hub) {e : Engine} (he : e.Sound) (l : Listener)
    (event : EditorEvent) : ∃ names, Engine.Kept e (hub.dispatch e l event).2 names := by
  rcases hub.dispatch_cases e l event with heq | ⟨c, heq⟩
  · rw [heq]
    exact ⟨[], .untouched he rfl fun _ => rfl⟩
  · rw [heq]
    exact c.exists_kept he

end Hub

end Placeholders
