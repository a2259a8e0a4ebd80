import Placeholders.Proofs.Editors.Sessions

/-!
# Generations of listeners

Unregistering ends all listeners at once, also those that are still held somewhere.

* Every unregistering begins a new generation, and nothing else does (`generation_run`). A listener is
  active as long as its generation is the present one.
* On one page no listener is ever stale, so that unregistering always finds its elements
  (`InOrder.exists_step`) and no step fails.
* Both together are `active_iff_no_unregister`.
-/

namespace Placeholders

open Placeholders.Markup Placeholders.Text Hub

namespace Session

variable {s after : Session} {st : Step} {steps : List Step}

/-! ## 1. One step -/

/-- **Only unregistering ends a generation.** -/
theorem generation_step (h : s.step st = .ok after) :
    after.hub.generation = s.hub.generation + st.endsGeneration.toNat := by
  cases st with
  | register =>
      cases h
      change (s.hub.registerAll s.engine).2.1.generation = s.hub.generation
      cases hpage : s.engine.page with
      | none => rw [registerAll_of_none s.hub hpage]
      | some page =>
          obtain ⟨count, document, heq, _⟩ := s.hub.registerAll_spec hpage
          rw [heq]
  | unregister =>
      rcases s.hub.unregisterAll_cases s.engine with ⟨_, _, _, _, _, heq⟩ | ⟨_, heq⟩
      · simp only [step, heq] at h
        cases h
      · simp only [step, heq] at h
        cases h
        rfl
  | dispatch l event =>
      cases h
      rfl
  | call a =>
      cases h
      rfl

/-- What does not unregister lets all listeners stay. -/
theorem mem_listeners_step (hst : st.endsGeneration = false) (h : s.step st = .ok after) {l : Listener}
    (hl : l ∈ s.hub.listeners) : l ∈ after.hub.listeners := by
  cases st with
  | register =>
      cases h
      change l ∈ (s.hub.registerAll s.engine).2.1.listeners
      cases hpage : s.engine.page with
      | none =>
          rw [registerAll_of_none s.hub hpage]
          exact hl
      | some page =>
          obtain ⟨count, document, heq, _⟩ := s.hub.registerAll_spec hpage
          rw [heq]
          exact List.mem_append_left _ hl
  | unregister => cases hst
  | dispatch l event =>
      cases h
      exact hl
  | call a =>
      cases h
      exact hl

/-- The element of a listener that is not stale is on the page. -/
theorem InOrder.element_lt (h : s.InOrder) {l : Listener} (hl : l ∈ s.hub.listeners)
    (hfresh : l ∉ s.stale) {page : Page} (hpage : s.engine.page = some page) :
    l.element < page.document.size := by
  obtain ⟨own, hown, hsettled⟩ := h.settled l hl hfresh
  obtain rfl := Option.some.inj (hpage.symm.trans hown)
  exact Document.lt_of_isElement ((h.tabled page hpage).elements _ hsettled.bound)

/-- **No step fails as long as no listener is stale.** -/
theorem InOrder.exists_step (h : s.InOrder) (hstale : s.stale = []) (st : Step) :
    ∃ after, s.step st = .ok after := by
  cases st with
  | unregister =>
      rcases s.hub.unregisterAll_cases s.engine with ⟨page, l, hpage, hl, hle, _⟩ | ⟨_, heq⟩
      · have hfresh : l ∉ s.stale := by rw [hstale]; exact List.not_mem_nil
        exact absurd (h.element_lt hl hfresh hpage) (Nat.not_lt.mpr hle)
      · rw [step_unregister, heq]
        exact ⟨_, rfl⟩
  | _ => exact ⟨_, rfl⟩

theorem lawful_of_staysOnPage (hst : st.staysOnPage = true) : st.Lawful := by
  cases st with
  | call a =>
      cases a with
      | attach page => cases hst
      | rerun => cases hst
      | _ => trivial
  | _ => trivial

theorem stale_step (hst : st.staysOnPage = true) (hstale : s.stale = []) (h : s.step st = .ok after) :
    after.stale = [] := by
  cases st with
  | register =>
      cases h
      exact hstale
  | unregister =>
      rw [step_unregister] at h
      rcases s.hub.unregisterAll_cases s.engine with ⟨_, _, _, _, _, heq⟩ | ⟨_, heq⟩
      · rw [heq] at h
        cases h
      · rw [heq] at h
        cases h
        rfl
  | dispatch l event =>
      cases h
      exact hstale
  | call a =>
      cases h
      have hsame : turns s.engine a = false := turns_of_staysOnPage hst
      dsimp only
      rw [hsame]
      exact hstale

theorem listeners_unregister (h : s.step .unregister = .ok after) : after.hub.listeners = [] := by
  rw [step_unregister] at h
  rcases s.hub.unregisterAll_cases s.engine with ⟨_, _, _, _, _, heq⟩ | ⟨_, heq⟩
  · rw [heq] at h
    cases h
  · rw [heq] at h
    cases h
    rfl

/-! ## 2. Runs -/

/-- A run that does not fail has made its first step and then the others. -/
theorem exists_of_run_cons (h : s.run (st :: steps) = .ok after) :
    ∃ next, s.step st = .ok next ∧ next.run steps = .ok after := by
  rw [run_cons] at h
  cases hstep : s.step st with
  | error missing =>
      rw [hstep] at h
      cases h
  | ok next =>
      rw [hstep] at h
      exact ⟨next, rfl, h⟩

theorem exists_of_run_append {before : List Step} (h : s.run (before ++ steps) = .ok after) :
    ∃ next, s.run before = .ok next ∧ next.run steps = .ok after := by
  rw [run_append] at h
  cases hrun : s.run before with
  | error missing =>
      rw [hrun] at h
      cases h
  | ok next =>
      rw [hrun] at h
      exact ⟨next, rfl, h⟩

/-- **Generations are counted by what ends them.** -/
theorem generation_run (h : s.run steps = .ok after) :
    after.hub.generation = s.hub.generation + steps.countP Step.endsGeneration := by
  induction steps generalizing s with
  | nil =>
      cases h
      rfl
  | cons st rest ih =>
      obtain ⟨next, hstep, hrest⟩ := exists_of_run_cons h
      rw [ih hrest, generation_step hstep, List.countP_cons]
      cases st.endsGeneration <;> simp [Nat.add_comm, Nat.add_left_comm]

theorem mem_listeners_run (hsteps : ∀ st ∈ steps, st.endsGeneration = false)
    (h : s.run steps = .ok after) {l : Listener} (hl : l ∈ s.hub.listeners) :
    l ∈ after.hub.listeners := by
  induction steps generalizing s with
  | nil =>
      cases h
      exact hl
  | cons st rest ih =>
      obtain ⟨hst, hrest⟩ := List.forall_mem_cons.mp hsteps
      obtain ⟨next, hstep, hrun⟩ := exists_of_run_cons h
      exact ih hrest hrun (mem_listeners_step hst hstep hl)

/-- **On one page no run fails**, and no listener gets stale. -/
theorem InOrder.exists_run (h : s.InOrder) (hstale : s.stale = [])
    (hsteps : ∀ st ∈ steps, st.staysOnPage = true) :
    ∃ after, s.run steps = .ok after ∧ after.InOrder ∧ after.stale = [] := by
  induction steps generalizing s with
  | nil => exact ⟨s, rfl, h, hstale⟩
  | cons st rest ih =>
      obtain ⟨hst, hrest⟩ := List.forall_mem_cons.mp hsteps
      obtain ⟨next, hstep⟩ := h.exists_step hstale st
      obtain ⟨after, hrun, hafter⟩ := ih (h.step (lawful_of_staysOnPage hst) hstep)
        (stale_step hst hstale hstep) hrest
      refine ⟨after, ?_, hafter⟩
      rw [run_cons, hstep]
      exact hrun

/-- A listener of the past is active if nothing has ended its generation, and then the hub has it. -/
theorem InOrder.isActive_iff (h : s.InOrder) (hafter : after.InOrder) (hrun : s.run steps = .ok after)
    {l : Listener} (hl : l ∈ s.hub.listeners) :
    (after.hub.isActive l = true ↔ Step.unregister ∉ steps) ∧
      (after.hub.isActive l = true ↔ l ∈ after.hub.listeners) := by
  have hcount : after.hub.isActive l = true ↔ steps.countP Step.endsGeneration = 0 := by
    rw [isActive, beq_iff_eq, h.present l hl, generation_run hrun]
    omega
  have hnone : steps.countP Step.endsGeneration = 0 ↔ Step.unregister ∉ steps := by
    rw [List.countP_eq_zero]
    refine ⟨fun hall hmem => hall _ hmem rfl, fun hnot st hst hends => hnot ?_⟩
    cases st with
    | unregister => exact hst
    | _ => cases hends
  refine ⟨hcount.trans hnone, fun hactive => ?_, fun hmem => ?_⟩
  · refine mem_listeners_run (fun st hst => ?_) hrun hl
    simpa using List.countP_eq_zero.mp (hcount.mp hactive) st hst
  · rw [isActive, beq_iff_eq]
    exact hafter.present l hmem

end Session

/-! ## 3. Listeners of one page -/

/-- **Listener generations are sound.** A page is attached to an engine, and then editors are registered
    and unregistered, events are passed on through any listeners, and values are changed, in any order.
    None of that fails. Every listener that the hub has ever had is active if and only if nothing has been
    unregistered since then, and if and only if the hub still has it; otherwise whatever is dispatched
    through it answers that nothing has happened, and nothing has. No two listeners of the hub have an
    element in common; and each of them listens to a binding on the page that asks for an editor, for a
    placeholder of its kind that there is and that readers may change. -/
theorem active_iff_no_unregister {e : Engine} (he : e.Attainable) {page : Page} (hpage : page.Attachable)
    (hattach : (e.attach page).1.isOk = true) {hub : Hub} (hhub : hub.listeners = [])
    {steps : List Step} (hsteps : ∀ st ∈ steps, st.staysOnPage = true) :
    ∃ s, Session.run ⟨hub, (e.attach page).2, []⟩ steps = .ok s ∧
      (∀ before after earlier, steps = before ++ after →
        Session.run ⟨hub, (e.attach page).2, []⟩ before = .ok earlier →
        ∀ l ∈ earlier.hub.listeners,
          (s.hub.isActive l = true ↔ Step.unregister ∉ after) ∧
          (s.hub.isActive l = true ↔ l ∈ s.hub.listeners) ∧
          (s.hub.isActive l = false →
            ∀ event, s.hub.dispatch s.engine l event = (.ok none, s.engine))) ∧
      (s.hub.listeners.map (·.element)).Nodup ∧
      ∀ l ∈ s.hub.listeners, ∃ attached p, s.engine.page = some attached ∧
        (l.placeholder, l.element) ∈ attached.bindings.all ∧
        attached.document.hasClass l.element Binding.requestClass = true ∧
        s.engine.registry.get? l.placeholder = some p ∧ p.readOnly = false ∧
        l.kind = .ofKind p.kind := by
  have hstart := Session.inOrder_of_no_listeners (he.sound.attach page) hhub
    (Session.tabled_attach hpage.made.linked hpage.grounded hattach)
  obtain ⟨s, hrun, horder, hstale⟩ := hstart.exists_run rfl hsteps
  refine ⟨s, hrun, fun before after earlier hsplit hbefore l hl => ?_, horder.apart, fun l hl => ?_⟩
  · have hlawful : ∀ st ∈ before, st.Lawful := fun st hst =>
      Session.lawful_of_staysOnPage (hsteps st (hsplit ▸ List.mem_append_left _ hst))
    obtain ⟨next, hnext, hafter⟩ := Session.exists_of_run_append (hsplit ▸ hrun)
    obtain rfl := Except.ok.inj (hnext.symm.trans hbefore)
    obtain ⟨hends, hlisted⟩ := (hstart.run hlawful hbefore).isActive_iff horder hafter hl
    exact ⟨hends, hlisted, fun hended event => dispatch_of_not_isActive hended _ event⟩
  · have hfresh : l ∉ s.stale := by rw [hstale]; exact List.not_mem_nil
    obtain ⟨attached, hattached, hsettled⟩ := horder.settled l hl hfresh
    obtain ⟨p, hp, hopen, hkind⟩ := hsettled.known
    exact ⟨attached, p, hattached, hsettled.bound, hsettled.wearing _ (List.mem_cons_self), hp, hopen,
      hkind⟩

/-- A page with one binding that asks for an editor. -/
def asking : Page := { document := Document.parse "<p>eAe</p>" }

theorem attachable_asking : asking.Attachable :=
  ⟨.parse _, (Document.ordered_parse _).grounded _⟩

theorem active_iff_no_unregister_of_greeting :
    let begun : Session :=
      ⟨{}, ((Engine.start .bare Engine.greeting (.ofEntries [])).attach asking).2, []⟩
    let steps : List Step := [.call (.change (.setText "A" "2")), .unregister, .register]
    ∃ earlier s l, begun.run [.register] = .ok earlier ∧ l ∈ earlier.hub.listeners ∧
      begun.run (.register :: steps) = .ok s ∧ s.hub.isActive l = false ∧ l ∉ s.hub.listeners ∧
      s.hub.dispatch s.engine l (.confirm "3") = (.ok none, s.engine) := by
  intro begun steps
  have hfirst : (begun.run [.register]).toOption.map (·.hub.listeners) =
      some [⟨"A", 3, .textbox, 0⟩] := by
    decide +kernel
  have hattach : ((Engine.start .bare Engine.greeting (.ofEntries [])).attach asking).1.isOk = true := by
    decide +kernel
  have hsteps : ∀ st ∈ Step.register :: steps, st.staysOnPage = true := by
    simp [steps, Step.staysOnPage, Engine.Action.staysOnPage]
  have hhub : ({} : Hub).listeners = [] := rfl
  obtain ⟨s, hrun, hall, _⟩ := active_iff_no_unregister (.start .bare Engine.greeting (.ofEntries []))
    attachable_asking hattach hhub hsteps
  obtain ⟨earlier, hearlier, hlisteners⟩ := Option.map_eq_some_iff.mp hfirst
  have hbegun : begun.run [.register] = .ok earlier := by
    cases hresult : begun.run [.register] with
    | error missing =>
        rw [hresult] at hearlier
        cases hearlier
    | ok own =>
        rw [hresult] at hearlier
        exact congrArg Except.ok (Option.some.inj hearlier)
  have hmem : (⟨"A", 3, .textbox, 0⟩ : Listener) ∈ earlier.hub.listeners := by
    rw [hlisteners]
    exact List.mem_singleton_self _
  obtain ⟨hactive, hlisted, hdead⟩ := hall [.register] steps earlier rfl hbegun _ hmem
  have hended : s.hub.isActive ⟨"A", 3, .textbox, 0⟩ = false :=
    Bool.eq_false_iff.mpr fun h => hactive.mp h (by simp [steps])
  exact ⟨earlier, s, _, hbegun, hmem, hrun, hended, fun h => Bool.eq_false_iff.mp hended (hlisted.mpr h),
    hdead hended _⟩

end Placeholders
