import Placeholders.Proofs.Editors.Generations
import Placeholders.Proofs.Engine.Usage

/-!
# Editors on one page after another

What becomes of editors when another page is attached while they are registered.

* A hub remembers numbers of elements. On another page they are the numbers of other elements, or of none,
  and the hub does not know: stale listeners keep elements from becoming editors, they have elements
  stripped that are none, and unregistering fails where their elements are missing
  (`earlier_editors_interfere`).
* All of that is the fault of stale listeners (`editors_page_after_page`). Where every generation is ended
  before the page is turned (`Session.tidy`), there are none.
-/

namespace Placeholders

open Placeholders.Markup Placeholders.Text Hub

namespace Session

variable {s after : Session} {steps : List Step}

/-! ## 1. Tidy runs -/

/-- No step turns to another page between registering and unregistering. The flag says that something may
    be registered at first. -/
def tidy : (registered : Bool) → List Step → Bool
  | _, [] => true
  | _, .register :: rest => tidy true rest
  | _, .unregister :: rest => tidy false rest
  | registered, st :: rest => (st.staysOnPage || !registered) && tidy registered rest

/-- **A tidy run does not fail**, and leaves no stale listeners. -/
theorem InOrder.exists_tidy_run (h : s.InOrder) (hstale : s.stale = []) {registered : Bool}
    (hnone : registered = false → s.hub.listeners = []) (hsteps : ∀ st ∈ steps, st.Lawful)
    (htidy : tidy registered steps = true) : ∃ after, s.run steps = .ok after ∧ after.stale = [] := by
  induction steps generalizing s registered with
  | nil => exact ⟨s, rfl, hstale⟩
  | cons st rest ih =>
      obtain ⟨hst, hrest⟩ := List.forall_mem_cons.mp hsteps
      obtain ⟨next, hstep⟩ := h.exists_step hstale st
      have hnext := h.step hst hstep
      have hrun : ∀ {flag}, next.stale = [] → (flag = false → next.hub.listeners = []) →
          tidy flag rest = true → ∃ after, s.run (st :: rest) = .ok after ∧ after.stale = [] := by
        intro flag hstale' hnone' htidy'
        obtain ⟨after, hafter, hlast⟩ := ih hnext hstale' hnone' hrest htidy'
        exact ⟨after, by rw [run_cons, hstep]; exact hafter, hlast⟩
      cases st with
      | register => exact hrun (stale_step rfl hstale hstep) (fun hf => by cases hf) htidy
      | unregister => exact hrun (stale_step rfl hstale hstep) (fun _ => listeners_unregister hstep) htidy
      | dispatch l event =>
          cases hstep
          exact hrun hstale hnone htidy
      | call a =>
          obtain ⟨hturn, htidy'⟩ := Bool.and_eq_true_iff.mp htidy
          cases hstep
          refine hrun ?_ hnone htidy'
          dsimp only
          cases hstays : a.staysOnPage with
          | true => rw [turns_of_staysOnPage hstays, hstale]; rfl
          | false =>
              have hflag : registered = false := by
                cases registered with
                | false => rfl
                | true => rw [Step.staysOnPage, hstays] at hturn; cases hturn
              rw [hnone hflag, hstale, ite_self]

/-! ## 2. What registering and unregistering do to a page -/

/-- **Unregistering fails on stale listeners only**, on those whose elements are not on the page. -/
theorem InOrder.unregister_fails_iff (h : s.InOrder) :
    (∃ missing, s.step .unregister = .error missing) ↔
      ∃ page, s.engine.page = some page ∧ ∃ l ∈ s.stale, page.document.size ≤ l.element := by
  rw [step_unregister]
  rcases s.hub.unregisterAll_cases s.engine with ⟨page, l, hpage, hl, hle, heq⟩ | ⟨hthere, heq⟩
  · rw [heq]
    refine iff_of_true ⟨_, rfl⟩ ⟨page, hpage, l, ?_, hle⟩
    exact Classical.byContradiction fun hfresh =>
      absurd (h.element_lt hl hfresh hpage) (Nat.not_lt.mpr hle)
  · rw [heq]
    refine iff_of_false (fun hfails => by cases hfails.choose_spec) ?_
    rintro ⟨page, hpage, l, hl, hle⟩
    exact absurd (hthere page hpage l (h.stale l hl)) (Nat.not_lt.mpr hle)

/-- **Unregistering changes no other elements than those of the listeners.** -/
theorem getElem?_unregister (h : s.step .unregister = .ok after) {page : Page}
    (hpage : s.engine.page = some page) :
    ∃ later, after.engine.page = some later ∧ ∀ x, (∀ l ∈ s.hub.listeners, l.element ≠ x) →
      later.document.nodes[x]? = page.document.nodes[x]? := by
  rw [step_unregister] at h
  rcases s.hub.unregisterAll_cases s.engine with ⟨_, _, _, _, _, heq⟩ | ⟨_, heq⟩
  · rw [heq] at h
    cases h
  · rw [heq] at h
    cases h
    exact ⟨_, congrArg (Option.map _) hpage, fun x hx => getElem?_stripAll page.document hx⟩

/-- **What asks for an editor gets one**, unless a stale listener has its number. -/
theorem InOrder.exists_editor (h : s.InOrder) (hstep : s.step .register = .ok after)
    (hon : s.engine.settings.inlineEditors = true) {page : Page} (hpage : after.engine.page = some page)
    {name : String} {id : Nat} (hbound : (name, id) ∈ page.bindings.all)
    (hasks : page.document.hasClass id Binding.requestClass = true) {p : Placeholder}
    (hp : after.engine.registry.get? name = some p) (hopen : p.readOnly = false)
    (hfresh : ∀ l ∈ s.stale, l.element ≠ id) :
    ∃ l ∈ after.hub.listeners, l.element = id ∧ l.placeholder = name ∧
      l.kind = .ofKind p.kind ∧ after.hub.isActive l = true ∧
      page.document.hasClass id Binding.editorClass = true ∧
      page.document.hasClass id l.kind.styleClass = true := by
  have hafter := h.step (show Step.Lawful .register from trivial) hstep
  have hlistened : ∃ l ∈ after.hub.listeners, l.element = id ∧ l ∉ after.stale := by
    cases hstep
    cases hbefore : s.engine.page with
    | none =>
        rw [registerAll_of_none s.hub hbefore, hbefore] at hpage
        cases hpage
    | some before =>
        obtain ⟨count, document, heq, hdressed⟩ := s.hub.registerAll_spec hbefore
        dsimp only at hpage hp ⊢
        rw [heq] at hpage hp ⊢
        obtain rfl := Option.some.inj hpage
        obtain ⟨l, hl, hid⟩ :=
          exists_listener hdressed hon hbound hasks (grant?_eq_some.mpr ⟨hp, hopen⟩)
        exact ⟨l, hl, hid, fun hstale => hfresh l hstale hid⟩
  obtain ⟨l, hl, rfl, hnew⟩ := hlistened
  obtain ⟨own, hown, hsettled⟩ := hafter.settled l hl hnew
  obtain rfl := Option.some.inj (hpage.symm.trans hown)
  obtain rfl := (hafter.tabled page hpage).name_unique hbound hsettled.bound
  obtain ⟨q, hq, _, hkind⟩ := hsettled.known
  obtain rfl := Option.some.inj (hp.symm.trans hq)
  refine ⟨l, hl, rfl, rfl, hkind, ?_, hsettled.wearing _ ?_, hsettled.wearing _ ?_⟩
  · rw [isActive, beq_iff_eq]
    exact hafter.present l hl
  · simp [Listener.classes]
  · simp [Listener.classes]

end Session

/-! ## 3. Runs over several pages -/

/-- **Editors on one page after another.** On an engine that has no page yet, pages are attached and given
    up, editors are registered and unregistered, events are passed on and values are changed, in any
    order. If every generation is ended before the page is turned, none of that fails and no listener is
    stale. In any case unregistering fails exactly where the element of a stale listener is missing on the
    page. If editors are switched on, then after registering every binding on the page that asks for an
    editor, for a placeholder that there is and that readers may change, is an editor of its kind with a
    listener of its own, unless a stale listener has its number. And unregistering leaves everything on
    the page as it is but for the elements of the listeners. -/
theorem editors_page_after_page {e : Engine} (he : e.Attainable) (hnone : e.page = none) {hub : Hub}
    (hhub : hub.listeners = []) {steps : List Step} (hsteps : ∀ st ∈ steps, st.Lawful) :
    (Session.tidy false steps = true →
      ∃ s, Session.run ⟨hub, e, []⟩ steps = .ok s ∧ s.stale = []) ∧
    ∀ s, Session.run ⟨hub, e, []⟩ steps = .ok s →
      ((∃ missing, s.step .unregister = .error missing) ↔
        ∃ page, s.engine.page = some page ∧ ∃ l ∈ s.stale, page.document.size ≤ l.element) ∧
      (∀ after page name id p, s.step .register = .ok after →
        s.engine.settings.inlineEditors = true → after.engine.page = some page →
        (name, id) ∈ page.bindings.all → page.document.hasClass id Binding.requestClass = true →
        after.engine.registry.get? name = some p → p.readOnly = false →
        (∀ l ∈ s.stale, l.element ≠ id) →
        ∃ l ∈ after.hub.listeners, l.element = id ∧ l.placeholder = name ∧
          l.kind = .ofKind p.kind ∧ after.hub.isActive l = true ∧
          page.document.hasClass id Binding.editorClass = true ∧
          page.document.hasClass id l.kind.styleClass = true) ∧
      ∀ after page, s.step .unregister = .ok after → s.engine.page = some page →
        ∃ later, after.engine.page = some later ∧ ∀ x, (∀ l ∈ s.hub.listeners, l.element ≠ x) →
          later.document.nodes[x]? = page.document.nodes[x]? := by
  have hstart := Session.inOrder_of_no_listeners he.sound hhub fun page hpage => by
    rw [hnone] at hpage
    cases hpage
  refine ⟨fun htidy => hstart.exists_tidy_run rfl (fun _ => hhub) hsteps htidy, fun s hrun => ?_⟩
  have horder := hstart.run hsteps hrun
  exact ⟨horder.unregister_fails_iff,
    fun after page name id p hstep hon hpage hbound hasks hp hopen hfresh =>
      horder.exists_editor hstep hon hpage hbound hasks hp hopen hfresh,
    fun after page hstep hpage => Session.getElem?_unregister hstep hpage⟩

/-- The page is left with its editors taken away, and attached once more. -/
theorem editors_page_after_page_of_twain :
    let steps : List Step :=
      [.call (.attach asking), .register, .unregister, .call (.attach asking)]
    ∃ s after, Session.run ⟨{}, Engine.start .bare Engine.twain (.ofEntries []), []⟩ steps = .ok s ∧
      s.stale = [] ∧ s.step .register = .ok after ∧
      ∃ l ∈ after.hub.listeners, l.element = 3 ∧ l.placeholder = "A" ∧ after.hub.isActive l = true := by
  intro steps
  have hsteps : ∀ st ∈ steps, st.Lawful := by
    refine List.forall_mem_cons.mpr ⟨attachable_asking, List.forall_mem_cons.mpr ⟨trivial,
      List.forall_mem_cons.mpr ⟨trivial, List.forall_mem_singleton.mpr attachable_asking⟩⟩⟩
  have hhub : ({} : Hub).listeners = [] := rfl
  obtain ⟨htidy, hall⟩ := editors_page_after_page
    (.start .bare Engine.twain (.ofEntries [])) rfl hhub hsteps
  obtain ⟨s, hrun, hstale⟩ := htidy (by decide)
  obtain ⟨_, heditors, _⟩ := hall s hrun
  have hfacts : (Session.run ⟨{}, Engine.start .bare Engine.twain (.ofEntries []), []⟩ steps).toOption.map
      (fun s => (s.engine.settings.inlineEditors, s.engine.page.map fun page =>
        (page.bindings.all, page.document.hasClass 3 Binding.requestClass))) =
      some (true, some ([("A", 3)], true)) := by
    decide +kernel
  have hknown : (Session.run ⟨{}, Engine.start .bare Engine.twain (.ofEntries []), []⟩ steps).toOption.map
      (fun s => (s.engine.registry.get? "A").map (·.readOnly)) = some (some false) := by
    decide +kernel
  rw [hrun] at hfacts hknown
  obtain ⟨hon, hpages⟩ := Prod.mk.inj (Option.some.inj hfacts)
  obtain ⟨page, hpage, hlist⟩ := Option.map_eq_some_iff.mp hpages
  obtain ⟨hbound, hasks⟩ := Prod.mk.inj hlist
  obtain ⟨p, hp, hopen⟩ := Option.map_eq_some_iff.mp (Option.some.inj hknown)
  -- what asks for an editor goes on asking when it is one
  obtain ⟨count, document, heq, hdressed⟩ := s.hub.registerAll_spec hpage
  obtain ⟨f, hf, hkeeps⟩ := wears_registered hdressed 3
  have hstep : s.step .register = .ok { s with
      hub := (s.hub.registerAll s.engine).2.1, engine := (s.hub.registerAll s.engine).2.2 } := rfl
  rw [heq] at hstep
  obtain ⟨l, hl, hid, hname, _, hactive, _⟩ := heditors _ { page with document } "A" 3 p hstep hon rfl
    (hbound ▸ List.mem_singleton_self _)
    (hf.hasClass (fun own => hkeeps own _ (by decide) (by decide)) hasks) hp hopen fun l hl => by
      rw [hstale] at hl
      exact absurd hl List.not_mem_nil
  exact ⟨s, _, hrun, hstale, hstep, l, hl, hid, hname, hactive⟩

/-- A page with an editor, and then another one of some markup. -/
def turnedTo (markup : String) : Except MissingElement Session :=
  Session.run ⟨{}, Engine.start .bare Engine.twain (.ofEntries []), []⟩
    [.call (.attach asking), .register, .call (.attach { document := Document.parse markup })]

/-- **Editors of an earlier page interfere with another one.** Unregistering fails where their elements are
    missing; a binding that asks for an editor and has one of their numbers gets none; and an element that
    has one of their numbers loses a title that has nothing to do with editors. -/
theorem earlier_editors_interfere :
    ((turnedTo "x").isOk = true ∧ ((turnedTo "x").bind (·.step .unregister)).isOk = false) ∧
    (((turnedTo "<p>eBe</p>").bind (·.step .register)).toOption.map fun s =>
      s.engine.page.map fun page => (page.bindings.all, page.document.hasClass 3 Binding.requestClass,
        page.document.hasClass 3 Binding.editorClass)) = some (some ([("B", 3)], true, false)) ∧
    (((turnedTo "<p>eBe</p>").bind (·.step .register)).toOption.map fun s =>
      s.hub.listeners.map (·.placeholder)) = some ["A"] ∧
    ((turnedTo "<i></i><i></i><i title=t></i>").toOption.map fun s =>
      s.engine.page.map (·.document.attribute? 3 "title")) = some (some (some "t")) ∧
    (((turnedTo "<i></i><i></i><i title=t></i>").bind (·.step .unregister)).toOption.map fun s =>
      s.engine.page.map (·.document.attribute? 3 "title")) = some (some none) := by
  refine ⟨⟨?_, ?_⟩, ?_, ?_, ?_, ?_⟩ <;> decide +kernel

end Placeholders
