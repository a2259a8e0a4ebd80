import Placeholders.Proofs.Engine.Run
import Placeholders.Proofs.Expansion.Refresh

/-!
# Pages that are kept up to date in place

As long as no outcome asks for a reload, the attached page looks as if it had just been expanded.

* `Current` says that a page is rendered with the values that a registry has. It stays so if the bindings
  of all placeholders are refreshed whose values may have changed (`Current.refreshed`).
* A token that has become a text, or part of an attribute value, makes its placeholder ask for a reload.
  Its value therefore does not change while no outcome asks for one.
* All others have become bindings, and those of all affected placeholders are refreshed. So every change
  leaves the page current (`Showing.followed`), and so does every run (`Showing.run`).
-/

namespace Placeholders

open Placeholders.Markup Placeholders.Text Document

/-! ## 1. Pages that show present values -/

/-- A page without bindings of its own, and the tokens that are looked for on it. None of those that are
    replaced belongs to the class that is never brought up to date. -/
structure Fresh (base : Document) (origin : Registry) (lexicon : Lexicon Target) : Prop where
  linked : base.Linked
  grounded : base.Grounded Document.root
  root_lt : Document.root < base.size
  targets : origin.targets = .ok lexicon
  unbound : ∀ x, base.attribute? x Binding.nameAttribute = none
  lively : ∀ t ∈ (base.expandBelow lexicon Document.root).2, t.tokenClass ≠ .static

/-- A page is rendered with the values that a registry has, there is nothing left to replace on it, and
    its table of bindings is right. -/
structure Current (base : Document) (lexicon : Lexicon Target) (r : Registry) (page : Page)
    (group : Nat → List Nat) : Prop where
  root_eq : page.root = Document.root
  rendered : Rendered base (base.expandBelow lexicon Document.root).1 page.document
    (lexicon.mapTargets (Target.valuedBy r)) Document.root group
  quiet : page.document.Quiet lexicon Document.root
  bindings : ∀ name id, id ∈ page.bindings.elements name ↔
    HasSpan base page.document Document.root group name id

section Current

variable {base : Document} {origin r s : Registry} {lexicon : Lexicon Target} {page : Page}
  {group : Nat → List Nat}

theorem Current.grounded (h : Current base lexicon r page group) (hbase : Fresh base origin lexicon) :
    page.document.Grounded Document.root :=
  (h.rendered.within hbase.linked (hbase.linked.within_size hbase.grounded hbase.root_lt)
    hbase.root_lt).grounded

theorem Current.root_lt (h : Current base lexicon r page group) (hbase : Fresh base origin lexicon) :
    Document.root < page.document.size :=
  Nat.lt_of_lt_of_le hbase.root_lt h.rendered.size_le

/-- New nodes in the place of a text are nodes of the page. -/
theorem Current.hasSpan_retold (h : Current base lexicon r page group)
    (hbase : Fresh base origin lexicon) {after : Document} {ids : List Nat}
    (hafter : page.document.Retold after ids) {name : String} {id : Nat} :
    HasSpan base after Document.root group name id ↔
      HasSpan base page.document Document.root group name id := by
  refine ⟨?_, ?_⟩
  · rintro ⟨c, hc, hnew, hid, editor, hpayload⟩
    refine ⟨c, hc, hnew, hid, editor, (hafter.payload id ?_).symm.trans hpayload⟩
    rcases h.rendered.mem_group hid with rfl | ⟨_, _, part, _, hshows⟩
    · have hlt := mem_unboundTexts_lt hbase.linked hc
      omega
    · exact hshows.lt
  · rintro ⟨c, hc, hnew, hid, hspan⟩
    exact ⟨c, hc, hnew, hid, hspan.retold hafter⟩

/-- **A page shows the present values after the bindings of all placeholders have been refreshed whose
    values may have changed**, if no token that became a text is among them. -/
theorem Current.refreshed (h : Current base lexicon r page group) (hbase : Fresh base origin lexicon)
    {affected : List String} (hdistinct : s.names.Nodup) (hknown : ∀ name ∈ affected, name ∈ s.names)
    (hsources : ∀ t ∈ (base.expandBelow lexicon Document.root).2, ∃ p q,
      r.placeholders[t.source]? = some p ∧ s.placeholders[t.source]? = some q ∧ q.name = t.name ∧
        (t.name ∉ affected → q.expandedValue = p.expandedValue))
    (htexts : ∀ t ∈ (base.expandBelow lexicon Document.root).2, t.isBound = false →
      (t.valuedBy r).value = (t.valuedBy s).value) :
    Current base lexicon s (Engine.refreshed s affected page) group := by
  have hspans : ∀ name, ∀ id ∈ page.bindings.elements name, page.document.IsSpan name id :=
    fun name id hid => ((h.bindings name id).mp hid).elim fun _ hspan => hspan.2.2.2
  obtain ⟨_, hretold, hholds⟩ := refresh_spec h.rendered.linked
    (fun name hname => Registry.contains_iff.mpr (hknown name hname)) hspans
  have hmem : ∀ c ∈ base.unboundTexts Document.root, ∀ t ∈ base.replacedAt lexicon c,
      t ∈ (base.expandBelow lexicon Document.root).2 := fun c hc t ht => by
    rw [expandBelow_snd hbase.linked hbase.grounded]
    exact List.mem_append_left _ (List.mem_flatMap.mpr ⟨c, hc, ht⟩)
  have hids : ∀ x ∈ affected.flatMap page.bindings.elements,
      base.size ≤ x ∧ page.document.text? x = none ∧ page.document.isBinding x = true := by
    intro x hx
    obtain ⟨name, _, hx⟩ := List.mem_flatMap.mp hx
    obtain ⟨c, _, hnew, _, hspan⟩ := (h.bindings name x).mp hx
    exact ⟨hnew, hspan.text?, hspan.isBinding⟩
  refine ⟨h.root_eq, ?_, ?_, fun name id => ?_⟩
  · refine h.rendered.retold hretold (fun x hx => ⟨(hids x hx).1, (hids x hx).2.1⟩)
      (fun c hc t ht => htexts t (hmem c hc t ht)) ?_
    intro c hc t ht id hid hnew hspan hold
    obtain ⟨p, q, hp, hq, hname, hsame⟩ := hsources t (hmem c hc t ht)
    rw [Target.value_valuedBy hp] at hold
    rw [Target.value_valuedBy hq]
    by_cases haffected : t.name ∈ affected
    · have helement := (h.bindings t.name id).mpr ⟨c, hc, hnew, hid, hspan⟩
      exact hholds t.name haffected id helement q (hname ▸ Registry.get?_eq_some hdistinct hq)
    · rw [hsame haffected]
      refine hold.retold hretold hspan.lt (fun hmem => haffected ?_) fun x hx => (hids x hx).2.1
      obtain ⟨other, hother, hid'⟩ := List.mem_flatMap.mp hmem
      rwa [hspan.name_unique (hspans other id hid')]
  · refine h.quiet.retold hretold h.rendered.linked (fun x hx => (hids x hx).2.2) (h.grounded hbase)
      (h.root_lt hbase) fun hmem => ?_
    have hnew := (hids _ hmem).1
    have hlt := hbase.root_lt
    omega
  · exact (h.bindings name id).trans (h.hasSpan_retold hbase hretold).symm

end Current

/-! ## 2. Engines that show present values -/

theorem reloadOnChange_tally {p : Placeholder} {i : Nat} {replaced : List Target} {t : Target}
    (ht : t ∈ replaced) (hsource : t.source = i) (hreload : t.tokenClass.needsReload = true) :
    (p.tally i replaced).reloadOnChange = true := by
  have hany : (replaced.filter fun t => t.source == i).any (fun t => t.tokenClass.needsReload) = true :=
    List.any_eq_true.mpr ⟨t, List.mem_filter.mpr ⟨ht, by simp [hsource]⟩, hreload⟩
  simp [Placeholder.tally, hany]

/-- Every token that is neither static nor replaced by a binding makes its placeholder ask for a
    reload. -/
theorem needsReload_of_not_isBound {t : Target} (h : t.isBound = false) (hstatic : t.tokenClass ≠ .static) :
    t.tokenClass.needsReload = true := by
  unfold Target.isBound Target.strategy at h
  cases hclass : t.tokenClass <;> rw [hclass] at h hstatic <;>
    first
    | rfl
    | exact absurd rfl hstatic
    | cases h

namespace Engine

/-- The engine shows the present values on a page that was attached with the tokens of an earlier
    registry. What cannot be refreshed on the page has kept its value, and asks for a reload when that
    changes. -/
structure Showing (base : Document) (origin : Registry) (lexicon : Lexicon Target) (e : Engine) :
    Prop where
  sound : e.Sound
  marks : origin.placeholders.map Placeholder.marks = e.registry.placeholders.map Placeholder.marks
  kept : ∀ t ∈ (base.expandBelow lexicon Document.root).2, t.tokenClass.needsReload = true →
    ∃ p, e.registry.placeholders[t.source]? = some p ∧ p.reloadOnChange = true ∧
      p.expandedValue = t.value
  current : ∃ page group, e.page = some page ∧ Current base lexicon e.registry page group

section Showing

variable {e after : Engine} {base : Document} {origin : Registry} {lexicon : Lexicon Target}

/-- What a replaced token is of, as it is now. -/
theorem Showing.exists_source (h : Showing base origin lexicon e) (hbase : Fresh base origin lexicon)
    {t : Target} (ht : t ∈ (base.expandBelow lexicon Document.root).2) :
    ∃ p, e.registry.placeholders[t.source]? = some p ∧ p.name = t.name := by
  obtain ⟨literal, hmem⟩ := exists_literal_of_mem_expandBelow hbase.linked hbase.grounded
    (searchable_targets hbase.targets).proper ht
  obtain ⟨p, hp, hof⟩ := Placeholders.exists_source hbase.targets hmem
  obtain ⟨q, hq, hmarks⟩ := exists_marked h.marks hp
  exact ⟨q, hq, (congrArg (·.1) hmarks : q.name = p.name).trans hof.name.symm⟩

/-- **A change that asks for no reload leaves an engine that shows the present values.** -/
theorem Showing.followed (h : Showing base origin lexicon e) (hbase : Fresh base origin lexicon)
    {store : Storage.Store} {name : String} {f : Placeholder → Placeholder} (hf : Writes f) {o : Outcome}
    (hfollowed : Followed ((e.storing store).writing name f) after o) (hreload : o.needsReload = false) :
    Showing base origin lexicon after := by
  obtain ⟨page, group, hpage, hcurrent⟩ := h.current
  have hdistinct := hfollowed.sound.distinct
  have hsources : ∀ t ∈ (base.expandBelow lexicon Document.root).2, ∃ p q,
      e.registry.placeholders[t.source]? = some p ∧ after.registry.placeholders[t.source]? = some q ∧
        q.name = t.name ∧ (t.name ∉ o.affected → q.expandedValue = p.expandedValue) := by
    intro t ht
    obtain ⟨p, hp, hname⟩ := h.exists_source hbase ht
    obtain ⟨q, hq, hsame, _, hvalue⟩ := hfollowed.exists_at hf hp
    exact ⟨p, q, hp, hq, hsame.trans hname, hname ▸ hvalue⟩
  have hkept : ∀ t ∈ (base.expandBelow lexicon Document.root).2, t.tokenClass.needsReload = true →
      ∃ p, after.registry.placeholders[t.source]? = some p ∧ p.reloadOnChange = true ∧
        p.expandedValue = t.value := by
    intro t ht hneeds
    obtain ⟨p, hp, hflag, hvalue⟩ := h.kept t ht hneeds
    obtain ⟨q, hq, hsame, hflag', hunaffected⟩ := hfollowed.exists_at hf hp
    refine ⟨q, hq, hflag'.trans hflag, (hunaffected fun hmem => ?_).trans hvalue⟩
    -- an affected placeholder that asks for a reload would have been heard
    have hget := Registry.get?_eq_some hdistinct hq
    have hasks : needsReload after.registry o.affected = true :=
      List.any_eq_true.mpr ⟨q, List.mem_filterMap.mpr ⟨p.name, hmem, hsame ▸ hget⟩, hflag'.trans hflag⟩
    rw [← hfollowed.needsReload, hreload] at hasks
    cases hasks
  refine ⟨hfollowed.sound, h.marks.trans (hfollowed.marks_eq hf).symm, hkept,
    refreshed after.registry o.affected page, group, ?_, ?_⟩
  · rw [hfollowed.page]
    change e.page.map _ = _
    rw [hpage]
    rfl
  · refine hcurrent.refreshed hbase hdistinct hfollowed.known hsources fun t ht hbound => ?_
    have hneeds := needsReload_of_not_isBound hbound (hbase.lively t ht)
    obtain ⟨p, hp, _, hvalue⟩ := h.kept t ht hneeds
    obtain ⟨q, hq, _, hvalue'⟩ := hkept t ht hneeds
    rw [Target.value_valuedBy hp, Target.value_valuedBy hq, hvalue, hvalue']

theorem Showing.change (h : Showing base origin lexicon e) (hbase : Fresh base origin lexicon)
    (c : Change) (hreload : ∀ o, outcome? (c.apply e).1 = some o → o.needsReload = false) :
    Showing base origin lexicon (c.apply e).2 := by
  rcases followed_answer h.sound (c.answer_apply e) with
    ⟨_, store, heq⟩ | ⟨o, name, store, f, ho, hf, hfollowed⟩
  · rw [heq]
    exact ⟨h.sound.storing store, h.marks, h.kept, h.current⟩
  · exact h.followed hbase hf hfollowed (hreload o ho)

/-! ## 3. Attaching and running again -/

/-- A target has the value that its placeholder has. -/
theorem mapTargets_valuedBy_eq {r s : Registry} (hlexicon : r.targets = .ok lexicon)
    (hvalues : ∀ (i : Nat) (p : Placeholder), r.placeholders[i]? = some p →
      ∃ q, s.placeholders[i]? = some q ∧ q.expandedValue = p.expandedValue) :
    lexicon.mapTargets (Target.valuedBy s) = lexicon := by
  refine (List.map_congr_left fun entry hentry => ?_).trans (List.map_id lexicon)
  obtain ⟨literal, t⟩ := entry
  obtain ⟨p, hp, hof⟩ := Placeholders.exists_source hlexicon hentry
  obtain ⟨q, hq, hvalue⟩ := hvalues _ p hp
  have hkept : (t.valuedBy s).value = t.value :=
    (Target.value_valuedBy hq).trans (hvalue.trans hof.value.symm)
  have hsame : t.valuedBy s = t := by
    obtain ⟨source, name, value, c⟩ := t
    exact congrArg (fun v => (⟨source, name, v, c⟩ : Target)) hkept
  simp only [hsame, id_eq]

/-- **A page that has just been attached shows the present values.** -/
theorem showing_attach (he : e.Sound) (hbase : Fresh base e.registry lexicon) {used : List String}
    (h : e.attach { document := base } = (.ok used, after)) :
    Showing base e.registry lexicon after := by
  unfold Engine.attach expandPage at h
  cases hexpand : base.expand Document.root e.registry with
  | error err =>
      simp only [hexpand] at h
      cases h
  | ok made =>
      obtain ⟨document, registry, findings⟩ := made
      obtain ⟨own, _, hown, rfl, rfl, hbindings⟩ := expand_eq_ok hexpand
      obtain rfl : own = lexicon := Except.ok.inj (hown.symm.trans hbase.targets)
      simp only [hexpand] at h
      cases h
      have hsound := (he.attach { document := base })
      unfold Engine.attach expandPage at hsound
      simp only [hexpand] at hsound
      have hvalues := mapTargets_valuedBy_eq hbase.targets
        (s := e.registry.tally (base.expandBelow own Document.root).2) fun i p hp =>
          ⟨p.tally i _, by rw [getElem?_tally, hp]; rfl, rfl⟩
      obtain ⟨group, hpass⟩ := exists_pass hbase.linked hbase.grounded own
      have hrendered := hpass.rendered hbase.linked
      refine ⟨hsound, (marks_tally _ _).symm, fun t ht hneeds => ?_, _, group, rfl, rfl, ?_, ?_,
        fun name id => ?_⟩
      · obtain ⟨literal, hmem⟩ := exists_literal_of_mem_expandBelow hbase.linked hbase.grounded
          (searchable_targets hbase.targets).proper ht
        obtain ⟨p, hp, hof⟩ := Placeholders.exists_source hbase.targets hmem
        refine ⟨p.tally t.source _, (getElem?_tally _ _ _).trans (by rw [hp]; rfl), ?_, hof.value.symm⟩
        exact reloadOnChange_tally ht rfl hneeds
      · change Rendered base _ _ (own.mapTargets (Target.valuedBy (e.registry.tally _))) _ _
        rw [hvalues]
        exact hrendered
      · exact quiet_expandBelow hbase.linked hbase.grounded hbase.root_lt
          (searchable_targets hbase.targets)
      · dsimp only
        rw [hbindings]
        exact hrendered.mem_elements_scan hbase.linked hbase.grounded hbase.root_lt
          fun x hx => attribute?_expandBelow hbase.linked hbase.grounded hbase.unbound hx

theorem Showing.rerun (h : Showing base origin lexicon e) (hbase : Fresh base origin lexicon) :
    Showing base origin lexicon e.rerun.2 := by
  obtain ⟨page, group, hpage, hcurrent⟩ := h.current
  obtain ⟨found, hexpand, hbindings⟩ := hcurrent.quiet.expand_eq hbase.targets h.marks
    (hcurrent.root_lt hbase)
  have heq : e.rerun.2 = { e with page := some { page with bindings := found.bindings } } := by
    unfold Engine.rerun Engine.attach expandPage
    rw [hpage]
    dsimp only
    rw [hcurrent.root_eq, hexpand]
    rfl
  rw [heq]
  refine ⟨⟨h.sound.regular, h.sound.distinct⟩, h.marks, h.kept, _, group, rfl, hcurrent.root_eq,
    hcurrent.rendered, hcurrent.quiet, fun name id => ?_⟩
  dsimp only
  rw [hbindings]
  exact hcurrent.rendered.mem_elements_scan hbase.linked hbase.grounded hbase.root_lt
    fun x hx => attribute?_expandBelow hbase.linked hbase.grounded hbase.unbound hx

/-! ## 4. Runs -/

/-- A call that changes a value or expands the page once more. -/
def Action.isEdit : Action → Bool
  | change _ => true
  | rerun => true
  | _ => false

theorem Showing.run (h : Showing base origin lexicon e) (hbase : Fresh base origin lexicon)
    {actions : List Action} (hedits : ∀ a ∈ actions, a.isEdit = true)
    (hreload : ∀ o ∈ e.outcomes actions, o.needsReload = false) :
    Showing base origin lexicon (e.run actions) := by
  induction actions generalizing e with
  | nil => exact h
  | cons a rest ih =>
      obtain ⟨hedit, hrest⟩ := List.forall_mem_cons.mp hedits
      refine ih ?_ hrest fun o ho => hreload o (List.mem_append_right _ ho)
      cases a with
      | change c =>
          refine h.change hbase c fun o ho => hreload o (List.mem_append_left _ ?_)
          rw [Action.apply, ho]
          exact List.mem_singleton_self o
      | rerun => exact h.rerun hbase
      | _ => cases hedit

/-- The present page looks as if it had just been expanded. -/
theorem Showing.toHtml_eq (h : Showing base origin lexicon e) (hbase : Fresh base origin lexicon) :
    ∃ page fresh r found, e.page = some page ∧
      base.expand Document.root e.registry = .ok (fresh, r, found) ∧
      page.document.toHtml = fresh.toHtml := by
  obtain ⟨page, group, hpage, hcurrent⟩ := h.current
  have htargets : e.registry.targets = .ok (lexicon.mapTargets (Target.valuedBy e.registry)) := by
    rw [targets_eq_of_marks_eq h.marks, hbase.targets]
    rfl
  have hcontains : base.contains Document.root = true := by simpa [contains] using hbase.root_lt
  obtain ⟨group', hrendered⟩ := rendered_valuedBy hbase.linked hbase.grounded
    (searchable_targets hbase.targets) (r := e.registry) fun t ht hneeds => by
      obtain ⟨p, hp, _, hvalue⟩ := h.kept t ht hneeds
      rw [Target.value_valuedBy hp, hvalue]
  have hexpand : ∃ r found, base.expand Document.root e.registry =
      .ok ((base.expandBelow (lexicon.mapTargets (Target.valuedBy e.registry)) Document.root).1, r,
        found) := by
    simp only [Document.expand, hcontains, htargets]
    exact ⟨_, _, rfl⟩
  obtain ⟨r, found, hexpand⟩ := hexpand
  exact ⟨page, _, r, found, hpage, hexpand, hcurrent.rendered.innerHtml_eq hrendered hbase.linked
    hbase.grounded hbase.root_lt⟩

end Showing

/-- The tokens that expanding a page with a registry replaces. -/
def replacedOn (r : Registry) (doc : Document) : List Target :=
  match r.targets with
  | .ok lexicon => (doc.expandBelow lexicon Document.root).2
  | .error _ => []

/-- **A page that is kept up to date in place is the page that expanding anew would give.** An engine
    attaches a page without bindings of its own, on which no static token is replaced, and then makes any
    calls that change values or expand the page once more. Unless one of their outcomes asks for a
    reload, the page has the markup that the same source has when it is expanded with the present
    values. -/
theorem toHtml_run_eq {e after : Engine} (he : e.Reachable) {markup : String} {used : List String}
    (hattach : e.attach { document := parse markup } = (.ok used, after))
    (hunbound : ∀ x, (parse markup).attribute? x Binding.nameAttribute = none)
    (hstatic : ∀ t ∈ replacedOn e.registry (parse markup), t.tokenClass ≠ .static)
    {actions : List Action} (hedits : ∀ a ∈ actions, a.isEdit = true)
    (hreload : ∀ o ∈ after.outcomes actions, o.needsReload = false) :
    ∃ page fresh r found, (after.run actions).page = some page ∧
      (parse markup).expand Document.root (after.run actions).registry = .ok (fresh, r, found) ∧
      page.document.toHtml = fresh.toHtml := by
  have hroot : Document.root < (parse markup).size :=
    Nat.lt_of_lt_of_le (by decide) (grown_parse markup).size_le
  obtain ⟨lexicon, htargets⟩ : ∃ lexicon, e.registry.targets = .ok lexicon := by
    unfold Engine.attach expandPage at hattach
    cases hexpand : (parse markup).expand Document.root e.registry with
    | error err =>
        simp only [hexpand] at hattach
        cases hattach
    | ok made => exact (expand_eq_ok hexpand).imp fun _ h => h.2.1
  have hbase : Fresh (parse markup) e.registry lexicon :=
    { linked := linked_parse markup
      grounded := (ordered_parse markup).grounded Document.root
      root_lt := hroot
      targets := htargets
      unbound := hunbound
      lively := by
        unfold replacedOn at hstatic
        rwa [htargets] at hstatic }
  exact ((showing_attach he.sound hbase hattach).run hbase hedits hreload).toHtml_eq hbase

theorem toHtml_run_of_greeting :
    let e := start .bare greeting (.ofEntries [])
    let after := (e.attach { document := parse "<p>dAd</p>" }).2
    let later := after.run [.change (.setText "A" "2"), .rerun]
    ∃ page fresh r found, later.page = some page ∧
      (parse "<p>dAd</p>").expand Document.root later.registry = .ok (fresh, r, found) ∧
      page.document.toHtml = fresh.toHtml := by
  intro e after later
  have hok : (e.attach { document := parse "<p>dAd</p>" }).1.toOption.isSome = true := by
    decide +kernel
  obtain ⟨used, hused⟩ : ∃ used, (e.attach { document := parse "<p>dAd</p>" }).1 = .ok used := by
    cases hanswer : (e.attach { document := parse "<p>dAd</p>" }).1 with
    | error err =>
        rw [hanswer] at hok
        cases hok
    | ok used => exact ⟨used, rfl⟩
  refine toHtml_run_eq ⟨.bare, greeting, .ofEntries [], [], rfl⟩ (Prod.ext hused rfl) ?_ ?_ ?_ ?_
  · intro x
    have hsome : ∀ x < 3, (parse "<p>dAd</p>").attribute? x Binding.nameAttribute = none := by
      decide +kernel
    by_cases hx : x < 3
    · exact hsome x hx
    · have hnone : (parse "<p>dAd</p>").payload? x = none := by
        refine payload?_eq_none (Nat.le_trans ?_ (Nat.not_lt.mp hx))
        decide +kernel
      simp only [attribute?, attributes, hnone]
      rfl
  · decide +kernel
  · decide +kernel
  · decide +kernel

end Engine

end Placeholders
