import Placeholders.Proofs.Editors.Generations
import Placeholders.Proofs.Editors.Spans
import Placeholders.Proofs.Engine.Live

/-!
# What unregistering restores

Editors are taken away again from a page that was read from markup without bindings.

* Whatever has been done with such a page, all elements on it that name a placeholder are spans with at
  most an outfit over what expansion has made of them (`Engine.FromUnbound.garbed`).
* As long as there are editors, what is under an outfit stays as it was but for the state of a box
  (`Hub.Worn.kept`).
* Unregistering takes the outfits off. Every binding that was no editor before is as it was before, except
  that the class is left that shows the state of a box (`attributes_after_unregister`,
  `checked_class_is_left`).
-/

namespace Placeholders

open Placeholders.Markup Placeholders.Text Placeholders.Storage Hub Document

/-! ## 1. Pages whose bindings may have outfits -/

/-- The table of a page lists elements under the names that they have, and all elements on the page that
    name a placeholder are spans that expansion has made, perhaps with outfits over them. -/
structure Page.Garbed (page : Page) : Prop where
  steady : page.document.Steady page.root
  tabled : page.Tabled
  listed : ∀ entry ∈ page.bindings.all,
    page.document.attribute? entry.2 Binding.nameAttribute = some entry.1
  spanned : page.document.Spanned

section Garbed

variable {page later : Page} {e : Engine}

theorem Page.Garbed.wears (h : page.Garbed) (hbindings : later.bindings = page.bindings)
    (hsteady : later.document.Steady later.root) (hwears : ∀ x, ∃ f,
      page.document.Wears later.document x f ∧ Attributes.Fits (page.document.tag? x) f) :
    later.Garbed := by
  refine ⟨hsteady, h.tabled.wears hbindings fun x => (hwears x).imp fun _ hf => hf.1,
    fun entry hentry => ?_, h.spanned.wears hwears⟩
  rw [hbindings] at hentry
  obtain ⟨f, hf, hfits⟩ := hwears entry.2
  rw [attribute?, hf.attributes_eq (h.tabled.elements entry hentry), hfits.name]
  exact h.listed entry hentry

/-- Refreshing leaves outfits over bindings. -/
theorem Page.Garbed.refreshed (h : page.Garbed) {r : Registry} {names : List String}
    (hknown : ∀ name ∈ names, name ∈ r.names) : (Engine.refreshed r names page).Garbed := by
  refine h.wears rfl (h.steady.refresh r (fun name id hid => ?_) names) fun x => ?_
  · have helement := h.tabled.elements (name, id) (Bindings.mem_all.mpr hid)
    exact lt_of_isElement helement
  · obtain ⟨ps, hwears, _⟩ := page.document.exists_shown_refresh page.bindings hknown x
    exact ⟨_, hwears, .foldl (Attributes.fits_shown _) ps⟩

/-- **Expansion leaves outfits over bindings.** -/
theorem garbed_attach (hsteady : page.document.Steady page.root) (hspanned : page.document.Spanned)
    (hok : (e.attach page).1.isOk = true) : ∀ own, (e.attach page).2.page = some own → own.Garbed := by
  intro own hown
  have htabled := Session.tabled_attach hsteady.linked hsteady.grounded hok own hown
  unfold Engine.attach Engine.expandPage at hok hown
  cases hexpand : page.document.expand page.root e.registry with
  | error source =>
      rw [hexpand] at hok
      cases hok
  | ok made =>
      obtain ⟨document, registry, found⟩ := made
      rw [hexpand] at hown
      obtain ⟨lexicon, hlt, _, rfl, _, hbindings⟩ := expand_eq_ok hexpand
      obtain rfl := Option.some.inj hown
      refine ⟨⟨hsteady.linked.expandBelow lexicon _,
        hsteady.linked.grounded_expandBelow hsteady.grounded hlt lexicon⟩, htabled, fun entry hentry => ?_,
        hspanned.expandBelow hsteady.linked lexicon _⟩
      dsimp only at hentry
      rw [hbindings] at hentry
      exact (Bindings.mem_elements_scan.mp (Bindings.mem_all.mp hentry)).2.2

theorem garbed_attach_unbound (hpage : page.Unbound) (hok : (e.attach page).1.isOk = true) :
    ∀ own, (e.attach page).2.page = some own → own.Garbed := by
  obtain ⟨markup, hmarkup, hnone⟩ := hpage
  refine garbed_attach ⟨?_, ?_⟩ (fun x name hname => ?_) hok
  · exact hmarkup ▸ linked_parse markup
  · exact hmarkup ▸ (ordered_parse markup).grounded _
  · rw [hnone x] at hname
    cases hname

theorem Document.Steady.foldl_register {doc : Document} {root : Nat} (h : doc.Steady root) (r : Registry)
    (hub : Hub) (requests : List (String × Nat)) :
    (requests.foldl (register r) (hub, doc)).2.Steady root := by
  induction requests generalizing hub doc with
  | nil => exact h
  | cons request rest ih =>
      rw [List.foldl_cons, register_eq]
      split
      · exact ih h hub
      · refine ih ?_ _
        rw [dress_eq]
        exact h.mapAttributes _ _

theorem Document.Steady.stripAll {doc : Document} {root : Nat} (h : doc.Steady root) (ls : List Listener) :
    (Hub.stripAll ls doc).Steady root := by
  induction ls generalizing doc with
  | nil => exact h
  | cons l rest ih =>
      rw [stripAll_cons, strip_eq]
      exact ih (h.mapAttributes _ _)

theorem Document.Steady.styleBody {doc : Document} {root : Nat} (h : doc.Steady root) (icons : Bool) :
    (Hub.styleBody doc icons).Steady root := by
  unfold Hub.styleBody
  split
  · exact h
  · split <;> exact (h.mapAttributes _ _).mapAttributes _ _

/-- **Registering puts outfits over bindings.** -/
theorem garbed_registerAll (hub : Hub) (h : ∀ page, e.page = some page → page.Garbed) :
    ∀ later, (hub.registerAll e).2.2.page = some later → later.Garbed := by
  cases hpage : e.page with
  | none =>
      rw [registerAll_of_none hub hpage]
      exact h
  | some page =>
      have hgarbed := h page hpage
      have hsteady : ∀ later, (hub.registerAll e).2.2.page = some later →
          later.document.Steady later.root := by
        unfold registerAll
        rw [hpage]
        dsimp only
        split
        · intro later hlater
          obtain rfl := Option.some.inj hlater
          exact (hgarbed.steady.styleBody _).foldl_register _ _ _
        · intro later hlater
          obtain rfl := Option.some.inj hlater
          exact hgarbed.steady.styleBody _
      obtain ⟨count, document, heq, hdressed⟩ := hub.registerAll_spec hpage
      intro later hlater
      have hlast := hsteady later hlater
      rw [heq] at hlater
      obtain rfl := Option.some.inj hlater
      refine hgarbed.wears rfl hlast fun x => ?_
      obtain ⟨f, hf, hcases⟩ := wears_styleBody page.document e.settings.inlineEditorIcons x
      refine ⟨_, hf.trans (hdressed x), .comp (.foldl (Attributes.fits_dressed _) _) ?_⟩
      rcases hcases with rfl | ⟨htag, rfl⟩
      · exact .self
      · exact htag ▸ Attributes.fits_iconed _

end Garbed

/-! ## 2. Engines whose page had no bindings -/

namespace Engine

/-- The page of the engine has been read from markup in which no element names a placeholder. Since it was
    attached, anything may have been done with the engine, and editors may have been registered and
    unregistered by any hubs. -/
inductive FromUnbound : Engine → Prop
  | attach {e : Engine} (h : e.Attainable) {page : Page} (hpage : page.Unbound)
    (hok : (e.attach page).1.isOk = true) : FromUnbound (e.attach page).2
  | act {e : Engine} (h : FromUnbound e) {a : Action} (ha : a.AttachesUnbound) :
    FromUnbound (a.apply e).2
  | register {e : Engine} (h : FromUnbound e) (hub : Hub) : FromUnbound (hub.registerAll e).2.2
  | unregister {e after : Engine} (h : FromUnbound e) {hub ended : Hub} {count : Nat}
    (hafter : hub.unregisterAll e = .ok (count, ended, after)) : FromUnbound after
  | elsewhere {e : Engine} (h : FromUnbound e) (backend : Backend) :
    FromUnbound (e.storing { e.store with backend })

theorem FromUnbound.attainable {e : Engine} (h : e.FromUnbound) : e.Attainable := by
  induction h with
  | attach h _ _ => exact .act h (.attach _)
  | act _ _ ih => exact ih.act _
  | register _ hub ih => exact ih.register hub
  | unregister _ hafter ih => exact ih.unregister hafter
  | elsewhere _ backend ih => exact ih.elsewhere backend

theorem garbed_apply {e : Engine} (he : e.Sound) (h : ∀ page, e.page = some page → page.Garbed)
    {a : Action} (ha : a.AttachesUnbound) : ∀ page, (a.apply e).2.page = some page → page.Garbed := by
  have hattach : ∀ page, ((e.attach page).1.isOk = true →
      ∀ own, (e.attach page).2.page = some own → own.Garbed) →
        ∀ own, (e.attach page).2.page = some own → own.Garbed := by
    intro page hdone
    cases hok : (e.attach page).1.isOk with
    | true => exact hdone hok
    | false =>
        rw [Session.attach_of_not_isOk hok]
        exact h
  cases hstays : a.staysOnPage with
  | true =>
      obtain ⟨names, hkept⟩ := Action.exists_kept he hstays
      intro later hlater
      obtain ⟨page, hpage, rfl⟩ := Option.map_eq_some_iff.mp (hkept.page.symm.trans hlater)
      exact (h page hpage).refreshed hkept.known
  | false =>
      cases a with
      | attach page => exact hattach page (garbed_attach_unbound ha)
      | rerun =>
          change ∀ page, e.rerun.2.page = some page → page.Garbed
          unfold Engine.rerun
          cases hpage : e.page with
          | none =>
              intro page hnone
              rw [hpage] at hnone
              cases hnone
          | some page =>
              have hgarbed := h page hpage
              exact hattach page (garbed_attach hgarbed.steady hgarbed.spanned)
      | detach => exact fun _ hnone => by cases hnone
      | _ => cases hstays

/-- **All bindings on the page are spans with at most an outfit** over what expansion has made of them. -/
theorem FromUnbound.garbed {e : Engine} (h : e.FromUnbound) :
    ∀ page, e.page = some page → page.Garbed := by
  induction h with
  | attach _ hpage hok => exact garbed_attach_unbound hpage hok
  | act h ha ih => exact garbed_apply h.attainable.sound ih ha
  | register _ hub ih => exact garbed_registerAll hub ih
  | @unregister e after _ hub ended count hafter ih =>
      rcases hub.unregisterAll_cases e with ⟨_, _, _, _, _, heq⟩ | ⟨_, heq⟩
      · rw [heq] at hafter
        cases hafter
      · rw [heq] at hafter
        cases hafter
        intro later hlater
        obtain ⟨page, hpage, rfl⟩ := Option.map_eq_some_iff.mp hlater
        refine (ih page hpage).wears rfl ((ih page hpage).steady.stripAll _) fun x => ?_
        exact ⟨_, wears_stripAll hub.listeners _ x, .iterate (Attributes.fits_stripped _) _⟩
  | elsewhere _ _ ih => exact ih

end Engine

/-! ## 3. What is under an outfit -/

/-- What a hub has made of a page since it registered its editors. A binding that is no editor is as it was
    before, if it was none before either. An editor has an outfit over the binding that it was, and shows
    the state of its placeholder. -/
structure Hub.Worn (hub : Hub) (r : Registry) (before page : Page) : Prop where
  tags : ∀ x, page.document.tag? x = before.document.tag? x
  idle : ∀ x name, before.document.attribute? x Binding.nameAttribute = some name →
    (∀ l ∈ hub.listeners, l.element ≠ x) →
      before.document.hasClass x Binding.editorClass = false →
        page.document.attributes x = before.document.attributes x
  named : ∀ l ∈ hub.listeners,
    before.document.attribute? l.element Binding.nameAttribute = some l.placeholder
  busy : ∀ l ∈ hub.listeners, ∃ p, r.get? l.placeholder = some p ∧ l.kind = .ofKind p.kind ∧
    ∀ base flag, Attributes.Over base l.placeholder flag (before.document.attributes l.element) →
      Attributes.Over base l.placeholder (p.flagOn flag) (page.document.attributes l.element)

section Worn

variable {hub : Hub} {e later : Engine} {before page : Page}

/-- **Registering puts outfits over bindings**, and leaves everything else that names a placeholder. -/
theorem Hub.worn_registerAll (hhub : hub.listeners = []) (hpage : e.page = some page)
    (h : page.Garbed) : ∃ own, (hub.registerAll e).2.2.page = some own ∧
      (hub.registerAll e).2.1.Worn (hub.registerAll e).2.2.registry page own := by
  obtain ⟨count, document, heq, hdressed⟩ := hub.registerAll_spec hpage
  rw [heq, hhub, List.nil_append]
  have hwears : ∀ {x name}, page.document.attribute? x Binding.nameAttribute = some name →
      document.attributes x = (grantsAt e.registry (hub.asked e page) x).foldl Attributes.dressed
        (page.document.attributes x) := by
    intro x name hname
    have helement := isElement_of_attribute? hname
    obtain ⟨f, hf, hcases⟩ := wears_styleBody page.document e.settings.inlineEditorIcons x
    have hself : f = fun own => own := hcases.resolve_right fun hbody => by
      rw [(h.spanned x name hname).1] at hbody
      exact absurd hbody.1 (by decide)
    subst hself
    exact (hf.trans (hdressed x)).attributes_eq helement
  refine ⟨_, rfl, fun x => ?_, fun x name hname hidle _ => ?_, fun l hl => ?_, fun l hl => ?_⟩
  · obtain ⟨f, hf, _⟩ := wears_styled e page x
    exact (hf.trans (hdressed x)).tag?_eq
  · have hnone : grantsAt e.registry (hub.asked e page) x = [] := by
      refine List.eq_nil_iff_forall_not_mem.mpr fun p hp => ?_
      obtain ⟨other, hasked, hgrant⟩ := mem_grantsAt.mp hp
      exact hidle ⟨other, x, .ofKind p.kind, hub.generation⟩
        (mem_granted.mpr ⟨hasked, rfl, p, hgrant, rfl⟩) rfl
    refine (hwears hname).trans ?_
    rw [hnone]
    rfl
  · exact h.listed _ (mem_asked.mp (mem_granted.mp hl).1).2.1
  · obtain ⟨hasked, _, p, hgrant, hkind⟩ := mem_granted.mp hl
    have hbound := (mem_asked.mp hasked).2.1
    refine ⟨p, (grant?_eq_some.mp hgrant).1, hkind, fun base flag hover => ?_⟩
    dsimp only
    rw [hwears (h.listed _ hbound)]
    refine hover.foldl_dressed (mem_grantsAt.mpr ⟨_, hasked, hgrant⟩) fun q hq => ?_
    obtain ⟨other, hother, hgrant'⟩ := mem_grantsAt.mp hq
    obtain rfl := h.tabled.name_unique hbound (mem_asked.mp hother).2.1
    exact Option.some.inj (hgrant'.symm.trans hgrant)

/-- **A refresh changes outfits, and the states of boxes.** -/
theorem Hub.Worn.kept (h : hub.Worn e.registry before page) (hbefore : before.document.Spanned)
    (horder : Session.InOrder ⟨hub, e, []⟩) (hpage : e.page = some page) {names : List String}
    (hkept : Engine.Kept e later names) :
    hub.Worn later.registry before (Engine.refreshed later.registry names page) := by
  have hshown := page.document.exists_shown_refresh page.bindings hkept.known
  have htabled := horder.tabled page hpage
  refine ⟨fun x => ?_, fun x name hname hidle hbare => ?_, h.named, fun l hl => ?_⟩
  · obtain ⟨ps, hwears, _⟩ := hshown x
    exact hwears.tag?_eq.trans (h.tags x)
  · obtain ⟨ps, hwears, _⟩ := hshown x
    have helement : page.document.isElement x = true := by
      rw [isElement, h.tags]
      exact isElement_of_attribute? hname
    obtain ⟨_, base, flag, _, hgarment⟩ := hbefore x name hname
    refine (hwears.attributes_eq helement).trans ?_
    rw [h.idle x name hname hidle hbare, hgarment.bare hbare]
    exact hgarment.outfit.foldl_shown_plain ps
  · obtain ⟨p, hp, hkind, hover⟩ := h.busy l hl
    obtain ⟨q, hq, hrole, hsame⟩ := hkept.placeholders _ p hp
    have hkinds : EditorKind.ofKind q.kind = .ofKind p.kind := congrArg (·.2) hrole
    obtain ⟨own, hown, hsettled⟩ := horder.settled l hl List.not_mem_nil
    obtain rfl := Option.some.inj (hpage.symm.trans hown)
    obtain ⟨ps, hwears, hmem⟩ := hshown l.element
    have hclass : page.document.hasClass l.element (EditorKind.ofKind q.kind).styleClass = true := by
      rw [hkinds, ← hkind]
      exact hsettled.wearing _ (by simp [Listener.classes])
    have hattributes : (Engine.refreshed later.registry names page).document.attributes l.element =
        ps.foldl Attributes.shown (page.document.attributes l.element) :=
      hwears.attributes_eq (htabled.elements _ hsettled.bound)
    refine ⟨q, hq, hkind.trans hkinds.symm, fun base flag hbase => ?_⟩
    rw [hattributes]
    refine (hover base flag hbase).foldl_shown hkinds hclass (fun r hr => ?_) ?_
    · obtain ⟨other, _, hr, hid⟩ := (hmem r).mp hr
      obtain rfl := htabled.name_unique hsettled.bound (Bindings.mem_all.mpr hid)
      exact Option.some.inj (hr.symm.trans hq)
    · by_cases hname : l.placeholder ∈ names
      · exact .inl ((hmem q).mpr ⟨_, hname, hq, Bindings.mem_all.mp hsettled.bound⟩)
      · exact .inr (hsame hname)

end Worn

/-! ## 4. From registering to unregistering -/

/-- The step passes an event on, or changes something without turning the page. -/
def Step.isUse : Step → Bool
  | dispatch _ _ => true
  | call a => a.staysOnPage
  | _ => false

theorem Step.staysOnPage_of_isUse {st : Step} (h : st.isUse = true) : st.staysOnPage = true := by
  cases st with
  | call a => exact h
  | _ => rfl

namespace Session

variable {s : Session} {st : Step} {steps : List Step} {before page : Page}

/-- Using a page leaves the hub as it is, and the page but for a refresh. -/
theorem exists_kept_step (hsound : s.engine.Sound) (hst : st.isUse = true) :
    ∃ later names, s.step st = .ok { s with engine := later } ∧ Engine.Kept s.engine later names := by
  cases st with
  | register => cases hst
  | unregister => cases hst
  | dispatch l event =>
      obtain ⟨names, hkept⟩ := s.hub.exists_kept_dispatch hsound l event
      exact ⟨_, names, rfl, hkept⟩
  | call a =>
      obtain ⟨names, hkept⟩ := Engine.Action.exists_kept hsound hst
      refine ⟨_, names, ?_, hkept⟩
      rw [step, turns_of_staysOnPage hst]
      rfl

/-- **Outfits stay outfits as long as a page is used.** -/
theorem exists_worn_run (horder : s.InOrder) (hstale : s.stale = [])
    (hbefore : before.document.Spanned) (hpage : s.engine.page = some page)
    (hworn : s.hub.Worn s.engine.registry before page) (hsteps : ∀ st ∈ steps, st.isUse = true) :
    ∃ last own, s.run steps = .ok last ∧ last.engine.page = some own ∧
      last.hub.Worn last.engine.registry before own := by
  induction steps generalizing s page with
  | nil => exact ⟨s, page, rfl, hpage, hworn⟩
  | cons st rest ih =>
      obtain ⟨hst, hrest⟩ := List.forall_mem_cons.mp hsteps
      obtain ⟨later, names, hstep, hkept⟩ := exists_kept_step horder.sound hst
      obtain ⟨hub, e, stale⟩ := s
      obtain rfl : stale = [] := hstale
      obtain ⟨last, own, hrun, hlast⟩ := ih (horder.kept hkept) rfl
        (hkept.page.trans (congrArg _ hpage)) (hworn.kept hbefore horder hpage hkept) hrest
      exact ⟨last, own, by rw [run_cons, hstep]; exact hrun, hlast⟩

end Session

/-- **Unregistering takes all outfits off**, and leaves the state of a box. -/
theorem Hub.Worn.attributes_stripAll {hub : Hub} {r : Registry} {before page : Page}
    (h : hub.Worn r before page) (hbefore : before.document.Spanned)
    (hapart : (hub.listeners.map (·.element)).Nodup) {x : Nat} {name : String}
    (hname : before.document.attribute? x Binding.nameAttribute = some name) :
    ((∀ l ∈ hub.listeners, l.element ≠ x) → before.document.hasClass x Binding.editorClass = false →
      (stripAll hub.listeners page.document).attributes x = before.document.attributes x) ∧
    ∀ l ∈ hub.listeners, l.element = x →
      (l.kind ≠ .checkbox → (stripAll hub.listeners page.document).attributes x =
        (before.document.attributes x).stripped) ∧
      (l.kind = .checkbox → ∃ p box, r.get? name = some p ∧ p.kind = .checkbox box ∧
        (stripAll hub.listeners page.document).attributes x =
          (before.document.attributes x).stripped.flagged box.isChecked) := by
  have helement : page.document.isElement x = true := by
    rw [isElement, h.tags]
    exact isElement_of_attribute? hname
  have hstripped := (wears_stripAll hub.listeners page.document x).attributes_eq helement
  refine ⟨fun hidle hbare => ?_, ?_⟩
  · have hcount : (hub.listeners.map (·.element)).count x = 0 := by
      refine List.count_eq_zero.mpr fun hmem => ?_
      obtain ⟨l, hl, hid⟩ := List.mem_map.mp hmem
      exact hidle l hl hid
    rw [hstripped, hcount]
    exact h.idle x name hname hidle hbare
  · rintro l hl rfl
    obtain rfl := Option.some.inj ((h.named l hl).symm.trans hname)
    obtain ⟨p, hp, hkind, hover⟩ := h.busy l hl
    obtain ⟨_, base, flag, _, hgarment⟩ := hbefore _ _ hname
    have hworn := hover base flag hgarment.outfit
    have hcount : (hub.listeners.map (·.element)).count l.element = 1 :=
      List.count_eq_one_of_mem hapart (List.mem_map_of_mem hl)
    rw [hstripped, hcount, Function.iterate_one, hworn.stripped_eq, hgarment.outfit.stripped_eq]
    refine ⟨fun hother => ?_, fun hcheckbox => ?_⟩
    · rw [Placeholder.flagOn_eq_self (hkind ▸ hother)]
    · obtain ⟨box, hbox⟩ : ∃ box, p.kind = .checkbox box := by
        rw [hkind] at hcheckbox
        cases hp : p.kind with
        | checkbox box => exact ⟨box, rfl⟩
        | _ => rw [hp] at hcheckbox; cases hcheckbox
      refine ⟨p, box, hp, hbox, ?_⟩
      rw [hgarment.outfit.flagged_plain, Placeholder.flagOn, hbox]

/-- **Unregistering undoes registering, but for the states of boxes.** The page of an engine has been read
    from markup in which no element names a placeholder. A hub without listeners registers its editors,
    events are passed on and values are changed in any order, and the hub unregisters its editors. None of
    that fails, and afterwards every element on the page that names a placeholder has the tag that it had
    before. If it was no editor before, it has the attributes that it had, except where it has been the
    editor of a checkbox in between: there the class is left that shows the state of the box. What was an
    editor of another hub before, and of this one in between, is no editor any more. -/
theorem attributes_after_unregister {e : Engine} (he : e.FromUnbound) {hub : Hub}
    (hhub : hub.listeners = []) {steps : List Step} (hsteps : ∀ st ∈ steps, st.isUse = true) :
    ∃ s after, Session.run ⟨hub, e, []⟩ (.register :: steps) = .ok s ∧
      s.step .unregister = .ok after ∧ ∀ page, e.page = some page →
        ∃ later, after.engine.page = some later ∧ ∀ x name,
          page.document.attribute? x Binding.nameAttribute = some name →
            later.document.tag? x = page.document.tag? x ∧
            (page.document.hasClass x Binding.editorClass = false →
              ((∀ l ∈ s.hub.listeners, l.element = x → l.kind ≠ .checkbox) →
                later.document.attributes x = page.document.attributes x) ∧
              ∀ l ∈ s.hub.listeners, l.element = x → l.kind = .checkbox →
                ∃ p box, after.engine.registry.get? name = some p ∧ p.kind = .checkbox box ∧
                  later.document.attributes x =
                    (page.document.attributes x).flagged box.isChecked) ∧
            ∀ l ∈ s.hub.listeners, l.element = x → l.kind ≠ .checkbox →
              later.document.attributes x = (page.document.attributes x).stripped := by
  have hgarbed := he.garbed
  have hstart := Session.inOrder_of_no_listeners he.attainable.sound hhub fun page hpage =>
    (hgarbed page hpage).tabled
  have hstays : ∀ st ∈ Step.register :: steps, st.staysOnPage = true :=
    List.forall_mem_cons.mpr ⟨rfl, fun st hst => Step.staysOnPage_of_isUse (hsteps st hst)⟩
  obtain ⟨s, hrun, horder, hstale⟩ := hstart.exists_run rfl hstays
  rcases s.hub.unregisterAll_cases s.engine with ⟨page, l, hpage, hl, hle, _⟩ | ⟨_, heq⟩
  · have hfresh : l ∉ s.stale := by rw [hstale]; exact List.not_mem_nil
    exact absurd (horder.element_lt hl hfresh hpage) (Nat.not_lt.mpr hle)
  refine ⟨s, _, hrun, congrArg (Except.map _) heq, fun page hpage => ?_⟩
  obtain ⟨dressed, hdressed, hworn⟩ := worn_registerAll hhub hpage (hgarbed page hpage)
  obtain ⟨last, own, hlast, hown, hworn'⟩ := Session.exists_worn_run hstart.register rfl
    (hgarbed page hpage).spanned hdressed hworn hsteps
  obtain rfl := Except.ok.inj (hlast.symm.trans hrun)
  refine ⟨_, congrArg (Option.map _) hown, fun x name hname => ?_⟩
  have hspanned := (hgarbed page hpage).spanned
  obtain ⟨hidle, hbusy⟩ := hworn'.attributes_stripAll hspanned horder.apart hname
  refine ⟨((wears_stripAll _ _ x).tag?_eq).trans (hworn'.tags x), fun hnone => ?_,
    fun l hl hid => (hbusy l hl hid).1⟩
  obtain ⟨_, base, flag, _, hgarment⟩ := hspanned x name hname
  rw [hgarment.stripped_eq_self hnone] at hbusy
  refine ⟨fun hother => ?_, fun l hl hid => (hbusy l hl hid).2⟩
  by_cases hlistened : ∃ l ∈ last.hub.listeners, l.element = x
  · obtain ⟨l, hl, hid⟩ := hlistened
    exact (hbusy l hl hid).1 (hother l hl hid)
  · exact hidle (fun l hl hid => hlistened ⟨l, hl, hid⟩) hnone

theorem Page.unbound_parse {markup : String} (h : ∀ x < (Document.parse markup).size,
    (Document.parse markup).attribute? x Binding.nameAttribute = none) :
    Page.Unbound { document := Document.parse markup } := by
  refine ⟨markup, rfl, fun x => ?_⟩
  by_cases hx : x < (Document.parse markup).size
  · exact h x hx
  · have hnone := payload?_eq_none (Nat.not_lt.mp hx)
    simp only [attribute?, attributes, hnone]
    rfl

/-- Two placeholders, a text and a box. -/
def Engine.consent : Descriptor where
  entries := [
    .record [("name", .text "A"), ("type", .text "textbox"), ("default_value", .text "1")],
    .record [("name", .text "C"), ("type", .text "checkbox"), ("value_checked", .text "yes"),
      ("value_unchecked", .text "no")]]

/-- An engine whose page has an editor for the text and one for the box. -/
def Engine.consenting : Engine :=
  ((Engine.start .bare Engine.consent (.ofEntries [])).attach
    { document := Document.parse "<p>eAe</p><p>eCe</p>" }).2

/-- The box is checked through its editor, and the text is changed. -/
theorem attributes_after_unregister_of_consenting :
    let steps : List Step :=
      [.dispatch ⟨"C", 7, .checkbox, 0⟩ .toggle, .call (.change (.setText "A" "2"))]
    ∃ s after page later box, Session.run ⟨{}, Engine.consenting, []⟩ (.register :: steps) = .ok s ∧
      s.step .unregister = .ok after ∧ Engine.consenting.page = some page ∧
      after.engine.page = some later ∧ later.document.attributes 5 = page.document.attributes 5 ∧
      later.document.attributes 7 = (page.document.attributes 7).flagged box := by
  intro steps
  have hfrom : Engine.consenting.FromUnbound :=
    .attach (.start .bare Engine.consent (.ofEntries [])) (Page.unbound_parse (by decide +kernel))
      (by decide +kernel)
  have hhub : ({} : Hub).listeners = [] := rfl
  have hsteps : ∀ st ∈ steps, st.isUse = true :=
    List.forall_mem_cons.mpr ⟨rfl, List.forall_mem_singleton.mpr rfl⟩
  have hlisteners : (Session.run ⟨{}, Engine.consenting, []⟩ (.register :: steps)).toOption.map
      (·.hub.listeners) = some [⟨"A", 5, .textbox, 0⟩, ⟨"C", 7, .checkbox, 0⟩] := by
    decide +kernel
  have hnames : Engine.consenting.page.map (fun page =>
      (page.document.attribute? 5 Binding.nameAttribute, page.document.attribute? 7 Binding.nameAttribute)) =
      some (some "A", some "C") := by
    decide +kernel
  have hbare : Engine.consenting.page.map (fun page =>
      (page.document.hasClass 5 Binding.editorClass, page.document.hasClass 7 Binding.editorClass)) =
      some (false, false) := by
    decide +kernel
  obtain ⟨s, after, hrun, hafter, hall⟩ := attributes_after_unregister hfrom hhub hsteps
  obtain ⟨page, hpage, hboth⟩ := Option.map_eq_some_iff.mp hnames
  obtain ⟨htext, hbox⟩ := Prod.mk.inj hboth
  rw [hpage] at hbare
  obtain ⟨htextBare, hboxBare⟩ := Prod.mk.inj (Option.some.inj hbare)
  rw [hrun] at hlisteners
  have hlist : s.hub.listeners = [⟨"A", 5, .textbox, 0⟩, ⟨"C", 7, .checkbox, 0⟩] :=
    Option.some.inj hlisteners
  obtain ⟨later, hlater, hnamed⟩ := hall page hpage
  obtain ⟨_, hkept, _⟩ := hnamed 5 "A" htext
  obtain ⟨_, hflagged, _⟩ := hnamed 7 "C" hbox
  rw [hlist] at hkept hflagged
  obtain ⟨p, box, _, _, hflag⟩ := (hflagged hboxBare).2 ⟨"C", 7, .checkbox, 0⟩ (by decide) rfl rfl
  exact ⟨s, after, page, later, box.isChecked, hrun, hafter, hpage, hlater,
    (hkept htextBare).1 (by decide), hflag⟩

/-- **The class that shows the state of a box is left** when editors are registered and unregistered. -/
theorem checked_class_is_left :
    Engine.consenting.page.map (·.document.attribute? 7 Attributes.classAttribute) =
      some (some "placeholder-value inline-editor-requested") ∧
    ((Session.run ⟨{}, Engine.consenting, []⟩ [.register, .unregister]).toOption.map fun s =>
      s.engine.page.map (·.document.attribute? 7 Attributes.classAttribute)) =
      some (some (some "placeholder-value inline-editor-requested unchecked")) := by
  refine ⟨?_, ?_⟩ <;> decide +kernel

end Placeholders
