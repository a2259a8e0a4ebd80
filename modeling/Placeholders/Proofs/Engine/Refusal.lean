import Placeholders.Engine.Editors
import Placeholders.Proofs.Engine.Run
import Placeholders.Proofs.Storage.Writes

/-!
# Calls that fail

`unchanged_of_error` says that a call which ends with an error leaves the engine as it was. The error of
an opened cycle is the only exception: it is reported after everything has been done.

* An engine is `Attainable` if it has been started and then used in any way, with editors on its page and
  with storage that others write to, too. It is sound, so that following a change can fail in one way
  only.
* What is stored before the error is reported is a matter of the storage; `Backend.Steady` is asked of
  it.
-/

namespace Placeholders.Engine

open Placeholders.Storage

/-! ## 1. Engines in use -/

/-- The engine can be come by: started, and then used by its calls and by editors on its page, while the
    storage may become any other one between two calls. -/
inductive Attainable : Engine → Prop
  | start (host : Host) (d : Descriptor) (backend : Backend) : Attainable (start host d backend)
  | act {e : Engine} (h : Attainable e) (a : Action) : Attainable (a.apply e).2
  | register {e : Engine} (h : Attainable e) (hub : Hub) : Attainable (hub.registerAll e).2.2
  | unregister {e after : Engine} (h : Attainable e) {hub ended : Hub} {count : Nat}
    (hafter : hub.unregisterAll e = .ok (count, ended, after)) : Attainable after
  | elsewhere {e : Engine} (h : Attainable e) (backend : Backend) :
    Attainable (e.storing { e.store with backend })

theorem Sound.of_network_eq {e after : Engine} (h : e.Sound) (heq : after.network = e.network) :
    after.Sound := by
  refine ⟨heq ▸ h.regular, ?_⟩
  rw [registry, heq]
  exact h.distinct

theorem network_registerAll (hub : Hub) (e : Engine) : (hub.registerAll e).2.2.network = e.network := by
  unfold Hub.registerAll
  split
  · rfl
  · dsimp only
    split <;> rfl

theorem network_unregisterAll {hub ended : Hub} {e after : Engine} {count : Nat}
    (h : hub.unregisterAll e = .ok (count, ended, after)) : after.network = e.network := by
  unfold Hub.unregisterAll at h
  dsimp only at h
  split at h
  · cases h
    rfl
  · split at h
    · cases h
    · cases h
      rfl

theorem Attainable.sound {e : Engine} (h : e.Attainable) : e.Sound := by
  induction h with
  | start host d backend => exact sound_start host d backend
  | act _ a ih => exact ih.apply a
  | register _ hub ih => exact ih.of_network_eq (network_registerAll hub _)
  | unregister _ hafter ih => exact ih.of_network_eq (network_unregisterAll hafter)
  | elsewhere _ backend ih => exact ih.storing _

theorem Reachable.attainable {e : Engine} (h : e.Reachable) : e.Attainable := by
  obtain ⟨host, d, backend, actions, rfl⟩ := h
  have hrun : ∀ {e : Engine}, e.Attainable → (e.run actions).Attainable := by
    induction actions with
    | nil => exact id
    | cons a rest ih => exact fun h => ih (h.act a)
  exact hrun (.start host d backend)

/-! ## 2. Failed calls -/

/-- The error of an answer. -/
def errorOf? {α : Type} : Except EngineError α → Option EngineError
  | .ok _ => none
  | .error err => some err

/-- The error that a call ends with. -/
def Action.error? (e : Engine) : Action → Option EngineError
  | change c => errorOf? (c.apply e).1
  | attach page => errorOf? (e.attach page).1
  | rerun => errorOf? e.rerun.1
  | setToggle t on => errorOf? (e.setToggle t on).1
  | reset => errorOf? e.reset.1
  | detach | takeDiagnostics => none

/-- Everything is as it was: placeholders, settings and graph, the page, and what the storage has. -/
structure Unchanged (e after : Engine) : Prop where
  network : after.network = e.network
  page : after.page = e.page
  diagnostics : after.diagnostics = e.diagnostics
  keySpace : after.store.keySpace = e.store.keySpace
  entries : after.store.backend.entries = e.store.backend.entries

theorem Unchanged.refl (e : Engine) : Unchanged e e := ⟨rfl, rfl, rfl, rfl, rfl⟩

theorem unchanged_storing (e : Engine) {store : Store}
    (h : store.keySpace = e.store.keySpace ∧ store.backend.entries = e.store.backend.entries) :
    Unchanged e (e.storing store) :=
  ⟨rfl, rfl, rfl, h.1, h.2⟩

/-- An answer with an outcome is no error but that of an opened cycle. -/
theorem not_error_of_outcome {answer : Except EngineError Outcome} {o : Outcome}
    (ho : outcome? answer = some o) {err : EngineError} (herr : errorOf? answer = some err)
    (hreal : ∀ source outcome, err ≠ .cycleRepaired source outcome) : False := by
  cases answer with
  | ok o => cases herr
  | error other =>
      obtain rfl : other = err := Option.some.inj herr
      cases other <;> first | exact hreal _ _ rfl | cases ho

theorem Unchanged.change {e : Engine} (he : e.Sound) {c : Change} {err : EngineError}
    (herr : errorOf? (c.apply e).1 = some err)
    (hreal : ∀ source outcome, err ≠ .cycleRepaired source outcome)
    (hsteady : e.store.backend.Steady (c.apply e).2.store.backend) : Unchanged e (c.apply e).2 := by
  have hcourse := c.course_apply e
  generalize c.apply e = answer at *
  cases hcourse with
  | refused => exact .refl e
  | unstored _ _ _ hput => exact unchanged_storing e (Store.entries_put hput hsteady)
  | @made _ edit _ store _ hp _ _ =>
      obtain ⟨o, ho, _⟩ := commit_writing he (Registry.contains_of_get? hp) store edit.writes_on
      exact (not_error_of_outcome ho herr hreal).elim
  | noticed _ hname =>
      obtain ⟨o, ho, _⟩ := commit_spec he hname
      exact (not_error_of_outcome ho herr hreal).elim

theorem Unchanged.attach (e : Engine) {page : Page} {err : EngineError}
    (herr : errorOf? (e.attach page).1 = some err) : Unchanged e (e.attach page).2 := by
  unfold Engine.attach at *
  split
  · rename_i hexpand
    rw [hexpand] at herr
    cases herr
  · exact .refl e

theorem Unchanged.rerun (e : Engine) {err : EngineError} (herr : errorOf? e.rerun.1 = some err) :
    Unchanged e e.rerun.2 := by
  unfold Engine.rerun at *
  split
  · rename_i hpage
    rw [hpage] at herr
    exact .attach e herr
  · exact .refl e

theorem Unchanged.setToggle (e : Engine) {t : Toggle} {on : Bool} {err : EngineError}
    (herr : errorOf? (e.setToggle t on).1 = some err)
    (hsteady : e.store.backend.Steady (e.setToggle t on).2.store.backend) :
    Unchanged e (e.setToggle t on).2 := by
  unfold Engine.setToggle at *
  split
  · rename_i hput
    rw [hput] at hsteady
    exact unchanged_storing e (Store.entries_put hput hsteady)
  · rename_i hput
    rw [hput] at herr
    cases herr

theorem Unchanged.reset (e : Engine) {err : EngineError} (herr : errorOf? e.reset.1 = some err)
    (hsteady : e.store.backend.Steady e.reset.2.store.backend) : Unchanged e e.reset.2 := by
  rcases e.reset_cases with ⟨source, store, hclear, heq⟩ | ⟨_, _, _, _, heq⟩
  · rw [heq] at hsteady ⊢
    exact unchanged_storing e (Store.entries_clearPlaceholders hclear hsteady)
  · rw [heq] at herr
    cases herr

/-- **A call that fails leaves everything as it was**, unless it reports a cycle that it has opened. The
    storage either does what it is told during the call, or fails and leaves its entries alone. -/
theorem unchanged_of_error {e : Engine} (he : e.Attainable) {a : Action} {err : EngineError}
    (herr : a.error? e = some err) (hreal : ∀ source outcome, err ≠ .cycleRepaired source outcome)
    (hsteady : e.store.backend.Steady (a.apply e).2.store.backend) : Unchanged e (a.apply e).2 := by
  cases a with
  | change c => exact .change he.sound herr hreal hsteady
  | attach page => exact .attach e herr
  | rerun => exact .rerun e herr
  | setToggle t on => exact .setToggle e herr hsteady
  | reset => exact .reset e herr hsteady
  | detach | takeDiagnostics => cases herr

theorem unchanged_of_writeFailed :
    let e := start .bare greeting (.memory { entries := .empty, faults := { fails := fun _ => true } })
    let a := Action.change (.setText "A" "2")
    a.error? e = some (.persistence .writeFailed) ∧ Unchanged e (a.apply e).2 := by
  intro e a
  have herr : a.error? e = some (.persistence .writeFailed) := by decide +kernel
  exact ⟨herr, unchanged_of_error (.start _ _ _) herr (fun _ _ h => by cases h)
    (.fails rfl fun _ _ _ => rfl)⟩

end Placeholders.Engine
