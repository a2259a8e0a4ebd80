import Placeholders.Proofs.Editors.Outfits
import Placeholders.Proofs.Editors.Roles
import Placeholders.Proofs.Expansion.Tables

/-!
# Sessions with editors

One engine and one hub, and everything that is done with them in turn.

* A `Step` registers or unregisters, passes an event on, or makes any other call. Only unregistering can
  fail, on an element that is not there.
* Turning to another page makes all listeners `stale` that there are: their elements belong to the page
  before. That is bookkeeping; no step looks at it.
* A session is in order if every other listener is settled on the present page (`InOrder`). Every step
  keeps it so (`InOrder.step`), as long as pages are sound that are attached.
-/

namespace Placeholders

open Placeholders.Markup Placeholders.Text Hub

/-! ## 1. Sessions and their steps -/

/-- An engine and a hub that are used together. -/
structure Session where
  hub : Hub
  engine : Engine
  /-- The listeners whose elements belong to an earlier page. -/
  stale : List Listener := []

/-- What is done in a session. -/
inductive Step where
  | register
  | unregister
  | dispatch (l : Listener) (event : EditorEvent)
  | call (a : Engine.Action)

/-- The step ends a generation of listeners. -/
def Step.endsGeneration : Step → Bool
  | unregister => true
  | _ => false

/-- The step leaves the present page attached. -/
def Step.staysOnPage : Step → Bool
  | call a => a.staysOnPage
  | _ => true

namespace Session

/-- Whether a call turns to another page, or to none. -/
def turns (e : Engine) : Engine.Action → Bool
  | .attach page => (e.attach page).1.isOk
  | .detach => true
  | _ => false

theorem turns_of_staysOnPage {e : Engine} {a : Engine.Action} (h : a.staysOnPage = true) :
    turns e a = false := by
  cases a with
  | attach page => cases h
  | detach => cases h
  | _ => rfl

/-- Makes a step. -/
def step (s : Session) : Step → Except MissingElement Session
  | .register =>
    .ok { s with hub := (s.hub.registerAll s.engine).2.1, engine := (s.hub.registerAll s.engine).2.2 }
  | .unregister => (s.hub.unregisterAll s.engine).map fun ended => ⟨ended.2.1, ended.2.2, []⟩
  | .dispatch l event => .ok { s with engine := (s.hub.dispatch s.engine l event).2 }
  | .call a =>
    .ok { s with
      engine := (a.apply s.engine).2
      stale := if turns s.engine a then s.hub.listeners else s.stale }

/-- Makes several steps. -/
def run (s : Session) (steps : List Step) : Except MissingElement Session :=
  steps.foldlM step s

theorem step_unregister (s : Session) : s.step .unregister =
    (s.hub.unregisterAll s.engine).map fun ended => ⟨ended.2.1, ended.2.2, []⟩ := rfl

theorem run_cons (s : Session) (st : Step) (rest : List Step) :
    s.run (st :: rest) = (s.step st).bind fun s' => s'.run rest :=
  List.foldlM_cons

theorem run_append (s : Session) (before after : List Step) :
    s.run (before ++ after) = (s.run before).bind fun s' => s'.run after :=
  List.foldlM_append

end Session

/-! ## 2. Registering -/

namespace Hub

open Document

/-- The placeholder that a request gets an editor for, if there is one and readers may change it. -/
def grant? (r : Registry) (request : String × Nat) : Option Placeholder :=
  (r.get? request.1).filter fun p => !p.readOnly

theorem grant?_eq_some {r : Registry} {request : String × Nat} {p : Placeholder} :
    grant? r request = some p ↔ r.get? request.1 = some p ∧ p.readOnly = false := by
  simp [grant?, Option.filter_eq_some_iff]

/-- The listeners that are made for requests. -/
def granted (r : Registry) (generation : Nat) (requests : List (String × Nat)) : List Listener :=
  requests.filterMap fun request => (grant? r request).map fun p =>
    ⟨request.1, request.2, .ofKind p.kind, generation⟩

theorem mem_granted {r : Registry} {generation : Nat} {requests : List (String × Nat)} {l : Listener} :
    l ∈ granted r generation requests ↔ (l.placeholder, l.element) ∈ requests ∧
      l.generation = generation ∧
        ∃ p, grant? r (l.placeholder, l.element) = some p ∧ l.kind = .ofKind p.kind := by
  obtain ⟨name, id, kind, own⟩ := l
  simp only [granted, List.mem_filterMap, Option.map_eq_some_iff, Listener.mk.injEq]
  constructor
  · rintro ⟨⟨_, _⟩, hmem, p, hp, rfl, rfl, rfl, rfl⟩
    exact ⟨hmem, rfl, p, hp, rfl⟩
  · rintro ⟨hmem, rfl, p, hp, rfl⟩
    exact ⟨(name, id), hmem, p, hp, rfl, rfl, rfl, rfl⟩

theorem register_eq (r : Registry) (hub : Hub) (doc : Document) (request : String × Nat) :
    register r (hub, doc) request = match grant? r request with
      | none => (hub, doc)
      | some p => ({ hub with
          listeners := hub.listeners ++ [⟨request.1, request.2, .ofKind p.kind, hub.generation⟩] },
            dress doc request.2 p) := by
  unfold register grant?
  cases r.get? request.1 with
  | none => rfl
  | some p => cases hread : p.readOnly <;> simp [Option.filter, hread]

/-- The placeholders that an element becomes an editor for. -/
def grantsAt (r : Registry) (requests : List (String × Nat)) (x : Nat) : List Placeholder :=
  requests.filterMap fun request => if request.2 = x then grant? r request else none

theorem mem_grantsAt {r : Registry} {requests : List (String × Nat)} {x : Nat} {p : Placeholder} :
    p ∈ grantsAt r requests x ↔ ∃ name, (name, x) ∈ requests ∧ grant? r (name, x) = some p := by
  rw [grantsAt, List.mem_filterMap]
  constructor
  · rintro ⟨⟨name, id⟩, hmem, hp⟩
    split at hp
    · rename_i hid
      dsimp only at hid
      subst hid
      exact ⟨name, hmem, hp⟩
    · cases hp
  · rintro ⟨name, hmem, hp⟩
    exact ⟨(name, x), hmem, by rwa [if_pos rfl]⟩

/-- **Registering requests** listens to those that are granted, and dresses their elements. -/
theorem foldl_register (r : Registry) (hub : Hub) (doc : Document) (requests : List (String × Nat)) :
    (requests.foldl (register r) (hub, doc)).1 =
        { hub with listeners := hub.listeners ++ granted r hub.generation requests } ∧
      ∀ x, doc.Wears (requests.foldl (register r) (hub, doc)).2 x
        fun own => (grantsAt r requests x).foldl Attributes.dressed own := by
  induction requests generalizing hub doc with
  | nil => exact ⟨by simp [granted], fun x => .of_eq rfl⟩
  | cons request rest ih =>
      rw [List.foldl_cons, register_eq]
      cases hgrant : grant? r request with
      | none =>
          obtain ⟨hhub, hdoc⟩ := ih hub doc
          refine ⟨?_, fun x => ?_⟩
          · dsimp only
            rw [hhub, granted, granted, List.filterMap_cons, hgrant]
            rfl
          · have hnone : (if request.2 = x then grant? r request else none) = none := by
              rw [hgrant, ite_self]
            rw [grantsAt, List.filterMap_cons, hnone]
            exact hdoc x
      | some q =>
          dsimp only
          obtain ⟨hhub, hdoc⟩ := ih { hub with
            listeners := hub.listeners ++ [⟨request.1, request.2, .ofKind q.kind, hub.generation⟩] }
            (dress doc request.2 q)
          refine ⟨?_, fun x => ?_⟩
          · rw [hhub, granted, granted, List.filterMap_cons, hgrant]
            simp
          · have hfirst := doc.wears_mapAttributes request.2 (·.dressed q) x
            rw [← dress_eq] at hfirst
            have hboth := hfirst.trans (hdoc x)
            rw [grantsAt, List.filterMap_cons]
            by_cases hx : request.2 = x
            · rw [if_pos hx.symm] at hboth
              rw [if_pos hx, hgrant]
              exact hboth
            · rw [if_neg (Ne.symm hx)] at hboth
              rw [if_neg hx]
              exact hboth

/-- The page with its body marked. -/
def styled (e : Engine) (page : Page) : Page :=
  { page with document := styleBody page.document e.settings.inlineEditorIcons }

/-- The requests that registering looks at. -/
def asked (hub : Hub) (e : Engine) (page : Page) : List (String × Nat) :=
  if e.settings.inlineEditors then hub.requests (styled e page) else []

/-- **What registering does.** -/
theorem registerAll_spec (hub : Hub) {e : Engine} {page : Page} (hpage : e.page = some page) :
    ∃ count document, hub.registerAll e = (.ok count,
      { hub with
        listeners := hub.listeners ++ granted e.registry hub.generation (hub.asked e page) },
      { e with page := some { page with document } }) ∧
      ∀ x, (styled e page).document.Wears document x
        fun own => (grantsAt e.registry (hub.asked e page) x).foldl Attributes.dressed own := by
  unfold registerAll asked
  rw [hpage]
  dsimp only
  split
  · obtain ⟨hhub, hdoc⟩ := foldl_register e.registry hub (styled e page).document
      (hub.requests (styled e page))
    exact ⟨_, _, congrArg (fun own : Hub => (Except.ok _, own, _)) hhub, hdoc⟩
  · refine ⟨0, (styled e page).document, ?_, fun x => .of_eq rfl⟩
    simp [granted, styled]

theorem registerAll_of_none (hub : Hub) {e : Engine} (hpage : e.page = none) :
    hub.registerAll e = (.error .noPage, hub, e) := by
  unfold registerAll
  rw [hpage]

theorem listenerFor?_eq_none {hub : Hub} {x : Nat} :
    hub.listenerFor? x = none ↔ ∀ l ∈ hub.listeners, l.element ≠ x := by
  simp [listenerFor?]

/-- What is asked for is on the page, asks for it, and has no listener. -/
theorem mem_asked {hub : Hub} {e : Engine} {page : Page} {entry : String × Nat} :
    entry ∈ hub.asked e page ↔ e.settings.inlineEditors = true ∧ entry ∈ page.bindings.all ∧
      (styled e page).document.hasClass entry.2 Binding.requestClass = true ∧
        ∀ l ∈ hub.listeners, l.element ≠ entry.2 := by
  unfold asked
  split
  · rename_i hon
    rw [requests, List.mem_filter, Bool.and_eq_true, Option.isNone_iff_eq_none, listenerFor?_eq_none]
    exact (and_iff_right hon).symm
  · rename_i hoff
    exact ⟨fun hmem => absurd hmem List.not_mem_nil, fun h => absurd h.1 hoff⟩

/-! ## 3. Unregistering -/

theorem wears_strip (doc : Document) (i x : Nat) :
    doc.Wears (strip doc i) x (if x = i then Attributes.stripped else fun own => own) := by
  rw [strip_eq]
  exact doc.wears_mapAttributes i _ x

/-- Takes the editors of some listeners away. -/
def stripAll (listeners : List Listener) (doc : Document) : Document :=
  listeners.foldl (fun doc l => strip doc l.element) doc

theorem stripAll_cons (l : Listener) (rest : List Listener) (doc : Document) :
    stripAll (l :: rest) doc = stripAll rest (strip doc l.element) := by
  unfold stripAll
  rw [List.foldl_cons]

/-- An element is stripped as often as it has a listener. -/
theorem wears_stripAll (listeners : List Listener) (doc : Document) (x : Nat) :
    doc.Wears (stripAll listeners doc) x
      Attributes.stripped^[(listeners.map (·.element)).count x] := by
  induction listeners generalizing doc with
  | nil => exact .of_eq rfl
  | cons l rest ih =>
      have hboth := (wears_strip doc l.element x).trans (ih (strip doc l.element))
      rw [stripAll_cons, List.map_cons]
      by_cases hx : x = l.element
      · have hcount : (l.element :: rest.map (·.element)).count x =
            (rest.map (·.element)).count x + 1 := by
          rw [hx, List.count_cons_self]
        rw [if_pos hx, ← Function.iterate_succ] at hboth
        rw [hcount]
        exact hboth
      · rw [if_neg hx] at hboth
        rw [List.count_cons_of_ne (Ne.symm hx)]
        exact hboth

/-- **Nothing but the elements of the listeners is stripped.** -/
theorem getElem?_stripAll {listeners : List Listener} (doc : Document) {x : Nat}
    (h : ∀ l ∈ listeners, l.element ≠ x) : (stripAll listeners doc).nodes[x]? = doc.nodes[x]? := by
  induction listeners generalizing doc with
  | nil => rfl
  | cons l rest ih =>
      obtain ⟨hl, hrest⟩ := List.forall_mem_cons.mp h
      rw [stripAll_cons, ih _ hrest, strip_eq, getElem?_mapAttributes, if_neg (Ne.symm hl)]

/-- **What unregistering does**: it fails on an element that the page does not have, or else strips the
    elements of all listeners. -/
theorem unregisterAll_cases (hub : Hub) (e : Engine) :
    (∃ page l, e.page = some page ∧ l ∈ hub.listeners ∧ page.document.size ≤ l.element ∧
      hub.unregisterAll e = .error ⟨l.element⟩) ∨
    ((∀ page, e.page = some page → ∀ l ∈ hub.listeners, l.element < page.document.size) ∧
      hub.unregisterAll e = .ok (hub.listeners.length, { generation := hub.generation + 1 },
        { e with page := e.page.map fun page =>
          { page with document := stripAll hub.listeners page.document } })) := by
  unfold unregisterAll
  dsimp only
  cases hpage : e.page with
  | none =>
      refine .inr ⟨fun page h => (by cases h), ?_⟩
      obtain ⟨network, store, page, diagnostics⟩ := e
      cases hpage
      rfl
  | some page =>
      dsimp only
      split
      · rename_i l hfind
        have hmissing : page.document.contains l.element = false := by
          simpa using List.find?_some hfind
        exact .inl ⟨page, l, rfl, List.mem_of_find?_eq_some hfind,
          by simpa [Document.contains] using hmissing, rfl⟩
      · rename_i hfind
        refine .inr ⟨fun own hown l hl => ?_, rfl⟩
        obtain rfl := Option.some.inj hown
        have hthere := List.find?_eq_none.mp hfind l hl
        simpa [Document.contains] using hthere

end Hub

/-! ## 4. Pages and listeners -/

/-- A page that can be attached: its document has been made, and there is an end to what is below the node
    below which it is expanded. -/
structure Page.Attachable (page : Page) : Prop where
  made : page.document.Made
  grounded : page.document.Grounded page.root

/-- Nothing but elements is in the table of the page, and each of them once. -/
structure Page.Tabled (page : Page) : Prop where
  distinct : (page.bindings.all.map (·.2)).Nodup
  elements : ∀ entry ∈ page.bindings.all, page.document.isElement entry.2 = true

theorem Page.Tabled.wears {page after : Page} (h : page.Tabled) (hbindings : after.bindings = page.bindings)
    (hwears : ∀ x, ∃ f, page.document.Wears after.document x f) : after.Tabled := by
  refine ⟨hbindings ▸ h.distinct, fun entry hentry => ?_⟩
  obtain ⟨f, hf⟩ := hwears entry.2
  rw [hf.isElement_eq]
  exact h.elements entry (hbindings ▸ hentry)

/-- An element stands under one name. -/
theorem Page.Tabled.name_unique {page : Page} (h : page.Tabled) {name other : String} {id : Nat}
    (hname : (name, id) ∈ page.bindings.all) (hother : (other, id) ∈ page.bindings.all) :
    name = other :=
  congrArg (·.1) (List.inj_on_of_nodup_map h.distinct hname hother rfl)

namespace Listener

/-- The classes that the element of a listener has. -/
def classes (l : Listener) : List String :=
  [Binding.requestClass, Binding.editorClass, l.kind.styleClass]

theorem lasting_of_mem_classes {l : Listener} {c : String} (hc : c ∈ l.classes) :
    Solid c.toList ∧ c ∉ passingClasses := by
  have hcases : c = Binding.requestClass ∨ c = Binding.editorClass ∨ c = l.kind.styleClass := by
    simpa [classes] using hc
  rcases hcases with rfl | rfl | rfl
  · decide
  · decide
  · exact ⟨l.kind.solid_styleClass, l.kind.styleClass_not_passing⟩

/-- The listener listens to an editor on the page: to a binding that asks for one, for a placeholder that
    there is and that readers may change. -/
structure Settled (r : Registry) (page : Page) (l : Listener) : Prop where
  known : ∃ p, r.get? l.placeholder = some p ∧ p.readOnly = false ∧ l.kind = .ofKind p.kind
  bound : (l.placeholder, l.element) ∈ page.bindings.all
  wearing : ∀ c ∈ l.classes, page.document.hasClass l.element c = true

theorem Settled.wears {r s : Registry} {page after : Page} {l : Listener} (h : l.Settled r page)
    (hroles : ∀ name p, r.get? name = some p → ∃ q, s.get? name = some q ∧ q.role = p.role)
    (hbindings : after.bindings = page.bindings)
    (hwears : ∃ f, page.document.Wears after.document l.element f ∧ Attributes.Keeps f) :
    l.Settled s after := by
  refine ⟨?_, hbindings ▸ h.bound, fun c hc => ?_⟩
  · obtain ⟨p, hp, hopen, hkind⟩ := h.known
    obtain ⟨q, hq, hrole⟩ := hroles _ p hp
    exact ⟨q, hq, (congrArg (·.1) hrole).trans hopen, hkind.trans (congrArg (·.2) hrole).symm⟩
  · obtain ⟨f, hf, hkeeps⟩ := hwears
    obtain ⟨hsolid, hlasting⟩ := lasting_of_mem_classes hc
    exact hf.hasClass (fun own => hkeeps own c hsolid hlasting) (h.wearing c hc)

end Listener

namespace Hub

section Registered

variable {hub : Hub} {e : Engine} {page : Page} {document : Document}

theorem granted_sublist (r : Registry) (generation : Nat) (requests : List (String × Nat)) :
    ((granted r generation requests).map (·.element)).Sublist (requests.map (·.2)) := by
  induction requests with
  | nil => exact List.Sublist.slnil
  | cons request rest ih =>
      unfold granted at ih ⊢
      rw [List.filterMap_cons]
      cases grant? r request with
      | none => exact ih.cons _
      | some p => exact ih.cons_cons _

theorem asked_sublist (hub : Hub) (e : Engine) (page : Page) :
    (hub.asked e page).Sublist page.bindings.all := by
  unfold asked
  split
  · exact List.filter_sublist
  · exact List.nil_sublist _

theorem wears_styled (e : Engine) (page : Page) (x : Nat) :
    ∃ f, page.document.Wears (styled e page).document x f ∧ Attributes.Keeps f := by
  obtain ⟨f, hf, hcases⟩ := wears_styleBody page.document e.settings.inlineEditorIcons x
  refine ⟨f, hf, ?_⟩
  rcases hcases with rfl | ⟨_, rfl⟩
  · exact Attributes.keeps_self
  · exact Attributes.keeps_iconed _

variable (hdressed : ∀ x, (styled e page).document.Wears document x
  fun own => (grantsAt e.registry (hub.asked e page) x).foldl Attributes.dressed own)

include hdressed

theorem wears_registered (x : Nat) : ∃ f, page.document.Wears document x f ∧ Attributes.Keeps f := by
  obtain ⟨f, hf, hkeeps⟩ := wears_styled e page x
  exact ⟨_, hf.trans (hdressed x), (Attributes.Keeps.foldl Attributes.keeps_dressed _).comp hkeeps⟩

/-- **A listener that is made is settled at once.** -/
theorem settled_granted (htabled : page.Tabled) {l : Listener}
    (hl : l ∈ granted e.registry hub.generation (hub.asked e page)) :
    l.Settled e.registry { page with document } := by
  obtain ⟨hasked, _, p, hp, hkind⟩ := mem_granted.mp hl
  obtain ⟨_, hbound, hrequest, _⟩ := mem_asked.mp hasked
  obtain ⟨hknown, hopen⟩ := grant?_eq_some.mp hp
  have helement : (styled e page).document.isElement l.element = true := by
    obtain ⟨f, hf, _⟩ := wears_styled e page l.element
    rw [hf.isElement_eq]
    exact htabled.elements _ hbound
  have hgrant := mem_grantsAt.mpr ⟨l.placeholder, hasked, hp⟩
  have hworn := (hdressed l.element).attributes_eq helement
  obtain ⟨hany, hstyle⟩ := Attributes.hasClass_foldl_dressed hgrant
    ((styled e page).document.attributes l.element)
  rw [← hworn] at hany hstyle
  refine ⟨⟨p, hknown, hopen, hkind⟩, hbound, ?_⟩
  unfold Listener.classes
  rw [hkind]
  refine List.forall_mem_cons.mpr ⟨?_, List.forall_mem_cons.mpr ⟨hany, ?_⟩⟩
  · refine (hdressed l.element).hasClass (fun own => ?_) hrequest
    exact Attributes.Keeps.foldl Attributes.keeps_dressed _ own _ (by decide) (by decide)
  · exact List.forall_mem_singleton.mpr hstyle

/-- An element that asks for an editor has a listener then, if the placeholder of a name under which it is
    listed may be changed. -/
theorem exists_listener (hon : e.settings.inlineEditors = true) {name : String} {id : Nat}
    (hbound : (name, id) ∈ page.bindings.all)
    (hasks : document.hasClass id Binding.requestClass = true) {p : Placeholder}
    (hp : grant? e.registry (name, id) = some p) :
    ∃ l ∈ hub.listeners ++ granted e.registry hub.generation (hub.asked e page), l.element = id := by
  by_cases hold : ∃ l ∈ hub.listeners, l.element = id
  · obtain ⟨l, hl, hid⟩ := hold
    exact ⟨l, List.mem_append_left _ hl, hid⟩
  · have hnew : ∀ l ∈ hub.listeners, l.element ≠ id := fun l hl hid => hold ⟨l, hl, hid⟩
    have hof : ∀ {other q}, (other, id) ∈ hub.asked e page → grant? e.registry (other, id) = some q →
        ∃ l ∈ hub.listeners ++ granted e.registry hub.generation (hub.asked e page), l.element = id :=
      fun {other q} hasked hq => ⟨⟨other, id, .ofKind q.kind, hub.generation⟩,
        List.mem_append_right _ (mem_granted.mpr ⟨hasked, rfl, q, hq, rfl⟩), rfl⟩
    cases hgrants : grantsAt e.registry (hub.asked e page) id with
    | nil =>
        -- nothing has been done to the element, so that it asked before, too
        have hsame := hdressed id
        rw [hgrants] at hsame
        have helement : document.element? id = (styled e page).document.element? id :=
          Eq.trans hsame Option.map_id'
        rw [Document.hasClass, Document.attributes_eq, helement, ← Document.attributes_eq] at hasks
        exact hof (mem_asked.mpr ⟨hon, hbound, hasks, hnew⟩) hp
    | cons q rest =>
        obtain ⟨other, hasked, hq⟩ := mem_grantsAt.mp (hgrants ▸ List.mem_cons_self)
        exact hof hasked hq

end Registered

end Hub

/-! ## 5. Sessions in order -/

/-- The listeners are of the present generation and listen to elements of their own. Those that are not
    stale are settled on the present page. -/
structure Session.InOrder (s : Session) : Prop where
  sound : s.engine.Sound
  present : ∀ l ∈ s.hub.listeners, l.generation = s.hub.generation
  apart : (s.hub.listeners.map (·.element)).Nodup
  stale : ∀ l ∈ s.stale, l ∈ s.hub.listeners
  tabled : ∀ page, s.engine.page = some page → page.Tabled
  settled : ∀ l ∈ s.hub.listeners, l ∉ s.stale →
    ∃ page, s.engine.page = some page ∧ l.Settled s.engine.registry page

/-- Pages that are attached can be attached, and none is expanded again. -/
def Step.Lawful : Step → Prop
  | call (.attach page) => page.Attachable
  | call .rerun => False
  | _ => True

namespace Session

section InOrder

variable {s after : Session} {hub : Hub} {e : Engine} {stale : List Listener}

/-- A hub without listeners has nothing in disorder. -/
theorem inOrder_of_no_listeners (he : e.Sound) (hhub : hub.listeners = [])
    (htabled : ∀ page, e.page = some page → page.Tabled) : InOrder ⟨hub, e, []⟩ := by
  refine ⟨he, fun l hl => ?_, ?_, fun l hl => absurd hl List.not_mem_nil, htabled, fun l hl => ?_⟩
  · exact absurd (hhub ▸ hl) List.not_mem_nil
  · rw [hhub]
    exact List.nodup_nil
  · exact absurd (hhub ▸ hl) List.not_mem_nil

/-- Refreshing a page leaves its editors as they are, but for the states that they show. -/
theorem InOrder.kept (h : InOrder ⟨hub, e, stale⟩) {later : Engine} {names : List String}
    (hkept : Engine.Kept e later names) : InOrder ⟨hub, later, stale⟩ := by
  have hpages : ∀ page, later.page = some page → ∃ before, e.page = some before ∧
      page.bindings = before.bindings ∧
        ∀ x, ∃ f, before.document.Wears page.document x f ∧ Attributes.Keeps f := by
    intro page hpage
    obtain ⟨before, hbefore, rfl⟩ := Option.map_eq_some_iff.mp (hkept.page.symm.trans hpage)
    refine ⟨before, hbefore, rfl, fun x => ?_⟩
    obtain ⟨ps, hwears, _⟩ := before.document.exists_shown_refresh before.bindings hkept.known x
    exact ⟨_, hwears, Attributes.Keeps.foldl Attributes.keeps_shown ps⟩
  refine ⟨hkept.sound, h.present, h.apart, h.stale, fun page hpage => ?_, fun l hl hfresh => ?_⟩
  · obtain ⟨before, hbefore, hbindings, hwears⟩ := hpages page hpage
    exact (h.tabled before hbefore).wears hbindings fun x => (hwears x).imp fun _ hf => hf.1
  · obtain ⟨before, hbefore, hsettled⟩ := h.settled l hl hfresh
    have hpage : later.page = some (Engine.refreshed later.registry names before) :=
      hkept.page.trans (congrArg _ hbefore)
    obtain ⟨before', hbefore', hbindings, hwears⟩ := hpages _ hpage
    obtain rfl := Option.some.inj (hbefore.symm.trans hbefore')
    refine ⟨_, hpage, hsettled.wears (fun name p hp => ?_) hbindings (hwears l.element)⟩
    exact (hkept.placeholders name p hp).imp fun _ hq => ⟨hq.1, hq.2.1⟩

/-- **Registering settles new listeners** beside those that there are. -/
theorem InOrder.register (h : InOrder ⟨hub, e, stale⟩) :
    InOrder ⟨(hub.registerAll e).2.1, (hub.registerAll e).2.2, stale⟩ := by
  cases hpage : e.page with
  | none =>
      rw [registerAll_of_none hub hpage]
      exact h
  | some page =>
      obtain ⟨count, document, heq, hdressed⟩ := hub.registerAll_spec hpage
      have htabled := h.tabled page hpage
      have hwears := wears_registered hdressed
      have hnew : ∀ l ∈ granted e.registry hub.generation (hub.asked e page),
          l.Settled e.registry { page with document } := fun l hl =>
        settled_granted hdressed htabled hl
      rw [heq]
      refine ⟨⟨h.sound.regular, h.sound.distinct⟩, ?_, ?_, ?_, ?_, ?_⟩
      · intro l hl
        rcases List.mem_append.mp hl with hl | hl
        · exact h.present l hl
        · exact (mem_granted.mp hl).2.1
      · have hsub := (granted_sublist e.registry hub.generation _).trans
          ((asked_sublist hub e page).map (·.2))
        dsimp only
        rw [List.map_append]
        refine h.apart.append (htabled.distinct.sublist hsub) fun x hold hgranted => ?_
        obtain ⟨l, hl, rfl⟩ := List.mem_map.mp hgranted
        obtain ⟨l', hl', hsame⟩ := List.mem_map.mp hold
        exact (mem_asked.mp (mem_granted.mp hl).1).2.2.2 l' hl' hsame
      · exact fun l hl => List.mem_append_left _ (h.stale l hl)
      · intro own hown
        obtain rfl := Option.some.inj hown
        exact htabled.wears rfl fun x => (hwears x).imp fun _ hf => hf.1
      · intro l hl hfresh
        refine ⟨_, rfl, ?_⟩
        rcases List.mem_append.mp hl with hl | hl
        · obtain ⟨own, hown, hsettled⟩ := h.settled l hl hfresh
          obtain rfl := Option.some.inj (hpage.symm.trans hown)
          exact hsettled.wears (fun name p hp => ⟨p, hp, rfl⟩) rfl (hwears l.element)
        · exact hnew l hl

/-- Unregistering leaves no listeners. -/
theorem InOrder.unregister (h : InOrder ⟨hub, e, stale⟩) :
    InOrder ⟨{ generation := hub.generation + 1 }, { e with page := e.page.map fun page =>
      { page with document := stripAll hub.listeners page.document } }, []⟩ := by
  refine inOrder_of_no_listeners ⟨h.sound.regular, h.sound.distinct⟩ rfl fun page hpage => ?_
  obtain ⟨before, hbefore, rfl⟩ := Option.map_eq_some_iff.mp hpage
  exact (h.tabled before hbefore).wears rfl fun x => ⟨_, wears_stripAll hub.listeners _ x⟩

/-- On another page all listeners are stale. -/
theorem InOrder.turn (h : InOrder ⟨hub, e, stale⟩) {later : Engine} (hsound : later.Sound)
    (htabled : ∀ page, later.page = some page → page.Tabled) : InOrder ⟨hub, later, hub.listeners⟩ :=
  ⟨hsound, h.present, h.apart, fun _ hl => hl, htabled, fun _ hl hfresh => absurd hl hfresh⟩

/-- **A page that has been attached has a table of its elements.** -/
theorem tabled_attach {page : Page} (hlinked : page.document.Linked)
    (hgrounded : page.document.Grounded page.root) (h : (e.attach page).1.isOk = true) :
    ∀ own, (e.attach page).2.page = some own → own.Tabled := by
  unfold Engine.attach Engine.expandPage at h ⊢
  cases hexpand : page.document.expand page.root e.registry with
  | error source =>
      rw [hexpand] at h
      cases h
  | ok made =>
      obtain ⟨document, registry, found⟩ := made
      obtain ⟨lexicon, hlt, _, rfl, _, hbindings⟩ := Document.expand_eq_ok hexpand
      intro own hown
      obtain rfl := Option.some.inj hown
      have hgrounded := hlinked.grounded_expandBelow hgrounded hlt lexicon
      refine ⟨?_, fun entry hentry => ?_⟩
      · dsimp only
        rw [hbindings]
        exact (hlinked.expandBelow lexicon page.root).nodup_all_scan hgrounded
      · dsimp only at hentry
        rw [hbindings] at hentry
        exact Document.isElement_of_mem_all_scan hentry

theorem attach_of_not_isOk {page : Page} (h : (e.attach page).1.isOk = false) :
    (e.attach page).2 = e := by
  unfold Engine.attach at h ⊢
  cases hexpand : e.expandPage page with
  | error err => rfl
  | ok made =>
      rw [hexpand] at h
      cases h

/-- **Every step keeps a session in order.** -/
theorem InOrder.step (h : s.InOrder) {st : Step} (hst : st.Lawful) (hstep : s.step st = .ok after) :
    after.InOrder := by
  obtain ⟨hub, e, stale⟩ := s
  cases st with
  | register =>
      cases hstep
      exact h.register
  | unregister =>
      rcases hub.unregisterAll_cases e with ⟨_, _, _, _, _, heq⟩ | ⟨_, heq⟩
      · simp only [Session.step, heq] at hstep
        cases hstep
      · simp only [Session.step, heq] at hstep
        cases hstep
        exact h.unregister
  | dispatch l event =>
      cases hstep
      obtain ⟨names, hkept⟩ := hub.exists_kept_dispatch h.sound l event
      exact h.kept hkept
  | call a =>
      cases hstep
      cases hstays : a.staysOnPage with
      | true =>
          have hsame : turns e a = false := turns_of_staysOnPage hstays
          obtain ⟨names, hkept⟩ := Engine.Action.exists_kept h.sound hstays
          dsimp only
          rw [hsame]
          exact h.kept hkept
      | false =>
          cases a with
          | attach page =>
              cases hok : (e.attach page).1.isOk with
              | true =>
                  have hturns : turns e (.attach page) = true := hok
                  dsimp only
                  rw [if_pos hturns]
                  exact h.turn (h.sound.attach page) (tabled_attach hst.made.linked hst.grounded hok)
              | false =>
                  have hturns : turns e (.attach page) = false := hok
                  have hsame : (Engine.Action.apply e (.attach page)).2 = e := attach_of_not_isOk hok
                  dsimp only
                  rw [hturns, hsame]
                  exact h
          | rerun => exact absurd hst id
          | detach => exact h.turn (h.sound.apply .detach) fun page hpage => by cases hpage
          | _ => cases hstays

theorem InOrder.run (h : s.InOrder) {steps : List Step} (hsteps : ∀ st ∈ steps, st.Lawful)
    (hrun : s.run steps = .ok after) : after.InOrder := by
  induction steps generalizing s with
  | nil =>
      cases hrun
      exact h
  | cons st rest ih =>
      obtain ⟨hst, hrest⟩ := List.forall_mem_cons.mp hsteps
      rw [run_cons] at hrun
      cases hstep : s.step st with
      | error missing =>
          rw [hstep] at hrun
          cases hrun
      | ok next =>
          rw [hstep] at hrun
          exact ih (h.step hst hstep) hrest hrun

end InOrder

end Session

end Placeholders
