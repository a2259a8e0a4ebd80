import Placeholders.Proofs.Engine.Run
import Placeholders.Proofs.Expansion.Refresh

/-!
# Bindings that are never stale

Every binding on the attached page shows the present value of its placeholder.

* A page is `Live` if its table of bindings is right, and each of them holds the value that its
  placeholder has in a registry.
* A page that is read from markup without bindings is live once it has been expanded (`live_expand`), and
  it stays so when it is expanded once more (`Live.expand_once_more`).
* When values change, a live page is live again as soon as the bindings of all placeholders have been
  refreshed whose values may have changed (`Live.refreshed`). Every call that changes values does this,
  whatever it answers (`Abreast.apply`), so that the attached page stays live (`Abreast.run`).
-/

namespace Placeholders

open Placeholders.Markup Placeholders.Text Document Relation

/-! ## 1. Live pages -/

/-- A page as it has been read from markup in which no element names a placeholder. -/
def Page.Unbound (page : Page) : Prop :=
  ∃ markup, page.document = parse markup ∧
    ∀ x, page.document.attribute? x Binding.nameAttribute = none

/-- Where walks down a page start: at the root of its document, or at the node below which it is
    expanded. -/
def Page.Starts (page : Page) (id : Nat) : Prop := id = Document.root ∨ id = page.root

/-- The bindings on a page are those of its table, and each shows the value that its placeholder has in a
    registry. There is nothing left to replace on it. -/
structure Live (r : Registry) (page : Page) : Prop where
  linked : page.document.Linked
  start_lt : ∀ start, page.Starts start → start < page.document.size
  grounded : page.document.Grounded page.root
  plain : page.document.isBinding page.root = false
  quiet : ∃ lexicon, r.targets = .ok lexicon ∧ page.document.Quiet lexicon page.root
  table : ∀ name, ∀ id ∈ page.bindings.elements name,
    page.document.IsSpan name id ∧ ReflTransGen page.document.Child page.root id
  shown : ∀ start id, page.Starts start → ReflTransGen page.document.Child start id →
    page.document.isBinding id = true → ∃ name p, id ∈ page.bindings.elements name ∧
      r.get? name = some p ∧ page.document.HoldsText id p.expandedValue

/-- Whether there is nothing left to replace does not depend on values. -/
theorem exists_quiet_of_marks_eq {doc : Document} {root : Nat} {r s : Registry}
    (h : ∃ lexicon, r.targets = .ok lexicon ∧ doc.Quiet lexicon root)
    (hmarks : r.placeholders.map Placeholder.marks = s.placeholders.map Placeholder.marks) :
    ∃ lexicon, s.targets = .ok lexicon ∧ doc.Quiet lexicon root := by
  obtain ⟨lexicon, htargets, hquiet⟩ := h
  refine ⟨lexicon.mapTargets (Target.valuedBy s), ?_, hquiet.valuedBy s⟩
  rw [targets_eq_of_marks_eq hmarks, htargets]
  rfl

section Live

variable {r s : Registry} {page : Page}

theorem Live.root_lt (h : Live r page) : page.root < page.document.size := h.start_lt _ (.inr rfl)

/-- What is in the table holds the value of its placeholder. -/
theorem Live.holds (h : Live r page) {name : String} {id : Nat}
    (hid : id ∈ page.bindings.elements name) :
    ∃ p, r.get? name = some p ∧ page.document.HoldsText id p.expandedValue := by
  obtain ⟨hspan, hwalk⟩ := h.table name id hid
  obtain ⟨other, p, hother, hp, hholds⟩ := h.shown page.root id (.inr rfl) hwalk hspan.isBinding
  obtain rfl := hspan.name_unique (h.table other id hother).1
  exact ⟨p, hp, hholds⟩

/-- The page is expanded below a node that is no binding. -/
theorem Live.ne_root (h : Live r page) {id : Nat} (hid : page.document.isBinding id = true) :
    id ≠ page.root := by
  rintro rfl
  rw [h.plain] at hid
  cases hid

/-! ## 2. Other values -/

/-- The registries look for the same tokens, and only placeholders of certain names have other values. -/
structure Revalued (r s : Registry) (affected : List String) : Prop where
  distinct : s.names.Nodup
  known : ∀ name ∈ affected, name ∈ s.names
  marks : r.placeholders.map Placeholder.marks = s.placeholders.map Placeholder.marks
  kept : ∀ (j : Nat) (p q : Placeholder), r.placeholders[j]? = some p → s.placeholders[j]? = some q →
    p.name ∉ affected → q.expandedValue = p.expandedValue

theorem Revalued.exists_of_get? {affected : List String} (h : Revalued r s affected) {name : String}
    {p : Placeholder} (hp : r.get? name = some p) :
    ∃ q, s.get? name = some q ∧ (name ∉ affected → q.expandedValue = p.expandedValue) := by
  obtain ⟨rfl, j, hj⟩ := Registry.exists_at_of_get? hp
  obtain ⟨q, hq, hmarks⟩ := exists_marked h.marks hj
  have hname : q.name = p.name := congrArg (·.1) hmarks
  exact ⟨q, hname ▸ Registry.get?_eq_some h.distinct hq, h.kept j p q hj hq⟩

section Refreshed

variable {affected : List String} (h : Live r page) (hvalues : Revalued r s affected)

include h

theorem Live.span_of_mem {id : Nat} (hid : id ∈ affected.flatMap page.bindings.elements) :
    ∃ name ∈ affected, id ∈ page.bindings.elements name ∧ page.document.IsSpan name id := by
  obtain ⟨name, hname, hid⟩ := List.mem_flatMap.mp hid
  exact ⟨name, hname, hid, (h.table name id hid).1⟩

include hvalues

/-- Refreshing retells the bindings of the affected placeholders. Afterwards whatever is in the table
    holds its new value: it has been refreshed, or its value is the same. -/
theorem Live.retold_refresh :
    page.document.Retold (page.document.refresh page.bindings s affected).2
        (affected.flatMap page.bindings.elements) ∧
      ∀ name, ∀ id ∈ page.bindings.elements name, ∃ q, s.get? name = some q ∧
        (page.document.refresh page.bindings s affected).2.HoldsText id q.expandedValue := by
  obtain ⟨_, hretold, hnew⟩ := refresh_spec h.linked
    (fun name hname => Registry.contains_iff.mpr (hvalues.known name hname))
    fun name id hid => (h.table name id hid).1
  refine ⟨hretold, fun name id hid => ?_⟩
  have hspan := (h.table name id hid).1
  obtain ⟨p, hp, hholds⟩ := h.holds hid
  obtain ⟨q, hq, hsame⟩ := hvalues.exists_of_get? hp
  refine ⟨q, hq, ?_⟩
  by_cases haffected : name ∈ affected
  · exact hnew name haffected id hid q hq
  · rw [hsame haffected]
    refine hholds.retold hretold hspan.lt (fun hmem => haffected ?_) fun x hx => ?_
    · obtain ⟨other, hother, _, hspan'⟩ := h.span_of_mem hmem
      rwa [hspan.name_unique hspan']
    · obtain ⟨_, _, _, hspan'⟩ := h.span_of_mem hx
      exact hspan'.text?

/-- **A live page is live again after the bindings of all placeholders have been refreshed whose values
    may have changed.** -/
theorem Live.refreshed : Live s (Engine.refreshed s affected page) := by
  obtain ⟨hretold, hall⟩ := h.retold_refresh hvalues
  have hbefore : ∀ x ∈ affected.flatMap page.bindings.elements,
      ∃ text, page.document.HoldsText x text := by
    intro x hx
    obtain ⟨name, _, hx, _⟩ := h.span_of_mem hx
    exact (h.holds hx).elim fun p hp => ⟨_, hp.2⟩
  have hafter : ∀ x ∈ affected.flatMap page.bindings.elements,
      ∃ text, (page.document.refresh page.bindings s affected).2.HoldsText x text := by
    intro x hx
    obtain ⟨name, _, hx, _⟩ := h.span_of_mem hx
    exact (hall name x hx).elim fun q hq => ⟨_, hq.2⟩
  have hbinding : ∀ x ∈ affected.flatMap page.bindings.elements, page.document.isBinding x = true :=
    fun x hx => (h.span_of_mem hx).elim fun _ hspan => hspan.2.2.isBinding
  refine ⟨hretold.linked,
    fun start hstart => Nat.lt_of_lt_of_le (h.start_lt start hstart) hretold.size_le, ?_, ?_, ?_, fun name id hid => ?_, fun start id hstart hwalk hbound => ?_⟩
  · have hwithin := h.linked.within_size h.grounded h.root_lt
    exact (hwithin.retold hretold h.linked hafter h.root_lt).grounded
  · exact (isBinding_congr (hretold.attributes h.root_lt)).trans h.plain
  · obtain ⟨lexicon, htargets, hquiet⟩ := exists_quiet_of_marks_eq h.quiet hvalues.marks
    exact ⟨lexicon, htargets, hquiet.retold hretold h.linked hbinding h.grounded h.root_lt
      fun hmem => h.ne_root (hbinding _ hmem) rfl⟩
  · obtain ⟨hspan, hwalk⟩ := h.table name id hid
    exact ⟨hspan.retold hretold,
      walk_of_isBinding hretold h.linked h.root_lt hbefore hwalk hspan.isBinding⟩
  · obtain ⟨hold, hbound⟩ :=
      isBinding_of_retold hretold h.linked (h.start_lt start hstart) hafter hwalk hbound
    obtain ⟨name, _, hid, _⟩ := h.shown start id hstart hold hbound
    obtain ⟨q, hq, hholds⟩ := hall name id hid
    exact ⟨name, q, hid, hq, hholds⟩

end Refreshed

/-! ## 3. Expanding -/

/-- Looking for the bindings of a live page finds those of its table. -/
theorem Live.mem_elements_scan (h : Live r page) {name : String} {id : Nat} :
    id ∈ (Bindings.scan page.document page.root).elements name ↔ id ∈ page.bindings.elements name := by
  rw [Bindings.mem_elements_scan, descendants,
    (h.linked.within_size h.grounded h.root_lt).mem_descendantsTo]
  constructor
  · rintro ⟨hwalk, hbinding, hname⟩
    obtain ⟨other, p, hid, _⟩ := h.shown page.root id (.inr rfl) hwalk.to_reflTransGen hbinding
    rw [(h.table other id hid).1.attribute?] at hname
    exact Option.some.inj hname ▸ hid
  · intro hid
    obtain ⟨hspan, hwalk⟩ := h.table name id hid
    exact ⟨(reflTransGen_iff_eq_or_transGen.mp hwalk).resolve_left (h.ne_root hspan.isBinding),
      hspan.isBinding, hspan.attribute?⟩

/-- **Expanding a live page once more** changes nothing but how its table is kept. -/
theorem Live.expand_once_more (h : Live r page) :
    ∃ found, page.document.expand page.root r = .ok (page.document, r, found) ∧
      Live r { page with bindings := found.bindings } := by
  obtain ⟨lexicon, htargets, hquiet⟩ := h.quiet
  obtain ⟨found, hexpand, hbindings⟩ := hquiet.expand_eq htargets rfl h.root_lt
  refine ⟨found, hexpand, h.linked, h.start_lt, h.grounded, h.plain, h.quiet, fun name id hid => ?_,
    fun start id hstart hwalk hbinding => ?_⟩
  · dsimp only at hid
    rw [hbindings, h.mem_elements_scan] at hid
    exact h.table name id hid
  · obtain ⟨name, p, hid, hshown⟩ := h.shown start id hstart hwalk hbinding
    refine ⟨name, p, ?_, hshown⟩
    dsimp only
    rwa [hbindings, h.mem_elements_scan]

/-- **A page without bindings is live once it has been expanded.** -/
theorem live_expand (hunbound : page.Unbound) (hdistinct : r.names.Nodup) {after : Document}
    {found : Findings} (h : page.document.expand page.root r = .ok (after, s, found)) :
    Live s { page with document := after, bindings := found.bindings } := by
  obtain ⟨markup, hmarkup, hnone⟩ := hunbound
  obtain ⟨lexicon, hlt, htargets, rfl, rfl, hbindings⟩ := expand_eq_ok h
  have hbase : page.document.Linked := hmarkup ▸ linked_parse markup
  have hgrounded : page.document.Grounded page.root :=
    hmarkup ▸ (ordered_parse markup).grounded page.root
  have hstart : ∀ start, page.Starts start → start < page.document.size := by
    rintro start (rfl | rfl)
    · exact hmarkup ▸ root_lt_parse markup
    · exact hlt
  have hlexicon := searchable_targets htargets
  obtain ⟨group, hpass⟩ := exists_pass hbase hgrounded lexicon
  have hrendered := hpass.rendered hbase
  have hplain : ∀ x < page.document.size,
      (page.document.expandBelow lexicon page.root).1.attribute? x Binding.nameAttribute = none :=
    fun x hx => attribute?_expandBelow hbase hgrounded hnone hx
  have hscan : ∀ {name id}, id ∈ found.bindings.elements name ↔
      HasSpan page.document (page.document.expandBelow lexicon page.root).1 page.root group name id := by
    intro name id
    rw [hbindings]
    exact hrendered.mem_elements_scan hbase hgrounded hlt hplain
  refine ⟨hrendered.linked,
    fun start h => Nat.lt_of_lt_of_le (hstart start h) hrendered.size_le, ?_, ?_, ?_,
    fun name id hid => ⟨?_, ?_⟩, fun start id h hwalk hbinding => ?_⟩
  · exact (hrendered.within hbase (hbase.within_size hgrounded hlt) hlt).grounded
  · dsimp only
    rw [isBinding, hplain _ hlt, Option.isSome_none, Bool.and_false]
  · exact exists_quiet_of_marks_eq ⟨lexicon, htargets, quiet_expandBelow hbase hgrounded hlt hlexicon⟩
      (Engine.marks_tally _ _).symm
  · exact (hscan.mp hid).elim fun _ hspan => hspan.2.2.2
  · dsimp only at hid
    rw [hbindings, Bindings.mem_elements_scan] at hid
    exact (mem_of_mem_descendantsTo hid.1).to_reflTransGen
  · obtain ⟨c, hc, hnew, hid, t, editor, hpart, hshows⟩ :=
      hrendered.exists_binding hbase hplain (hstart start h) hwalk hbinding
    obtain ⟨literal, ht⟩ := exists_literal_of_mem_partsAt hlexicon.proper hpart
    obtain ⟨p, hp, hof⟩ := exists_source htargets ht
    have hcounted := Engine.getElem?_tally r (page.document.expandBelow lexicon page.root).2 t.source
    rw [hp, Option.map_some] at hcounted
    have hget := Registry.get?_eq_some ((Engine.names_tally _ _).symm ▸ hdistinct) hcounted
    exact ⟨t.name, _, hscan.mpr ⟨c, hc, hnew, hid, editor, hshows.1⟩, hof.name ▸ hget,
      hof.value ▸ hshows.2⟩

end Live

/-! ## 4. Calls -/

namespace Engine

/-- The attached page is live. -/
structure Abreast (e : Engine) : Prop where
  sound : e.Sound
  live : ∀ page, e.page = some page → Live e.registry page

/-- Pages are attached as they have been read from markup in which no element names a placeholder. -/
def Action.AttachesUnbound : Action → Prop
  | attach page => page.Unbound
  | _ => True

section Abreast

variable {e after : Engine}

/-- **Following a change keeps the page live**, whatever is answered. -/
theorem Abreast.change (h : Abreast e) (c : Change) : Abreast (c.apply e).2 := by
  rcases followed_answer h.sound (c.answer_apply e) with
    ⟨_, store, heq⟩ | ⟨o, name, store, f, _, hf, hfollowed⟩
  · rw [heq]
    exact ⟨h.sound.storing store, h.live⟩
  · refine ⟨hfollowed.sound, fun page hpage => ?_⟩
    rw [hfollowed.page] at hpage
    obtain ⟨before, hbefore, rfl⟩ := Option.map_eq_some_iff.mp hpage
    refine (h.live before hbefore).refreshed ⟨hfollowed.sound.distinct, hfollowed.known,
      (hfollowed.marks_eq hf).symm, fun j p q hp hq hnot => ?_⟩
    obtain ⟨q', hq', _, _, hsame⟩ := hfollowed.exists_at hf hp
    obtain rfl := Option.some.inj (hq.symm.trans hq')
    exact hsame hnot

theorem Abreast.attach (h : Abreast e) {page : Page} (hpage : page.Unbound) :
    Abreast (e.attach page).2 := by
  refine ⟨h.sound.attach page, ?_⟩
  unfold Engine.attach expandPage
  cases hexpand : page.document.expand page.root e.registry with
  | error err => exact h.live
  | ok made =>
      obtain ⟨document, registry, found⟩ := made
      intro attached hattached
      obtain rfl := Option.some.inj hattached
      exact live_expand hpage h.sound.distinct hexpand

theorem Abreast.rerun (h : Abreast e) : Abreast e.rerun.2 := by
  refine ⟨h.sound.rerun, ?_⟩
  unfold Engine.rerun
  cases hpage : e.page with
  | none => exact h.live
  | some page =>
      obtain ⟨found, hexpand, hlive⟩ := (h.live page hpage).expand_once_more
      unfold Engine.attach expandPage
      dsimp only
      rw [hexpand]
      intro attached hattached
      obtain rfl := Option.some.inj hattached
      exact hlive

/-- Settings show on no page. -/
theorem Abreast.setToggle (h : Abreast e) (t : Toggle) (on : Bool) : Abreast (e.setToggle t on).2 := by
  refine ⟨h.sound.setToggle t on, ?_⟩
  unfold Engine.setToggle
  split
  · exact h.live
  · intro page hpage
    obtain ⟨hlinked, hstart, hgrounded, hplain, hquiet, htable, hshown⟩ := h.live page hpage
    exact ⟨hlinked, hstart, hgrounded, hplain, hquiet, htable, hshown⟩

/-- Going back to the defaults refreshes all bindings there are. -/
theorem Abreast.reset (h : Abreast e) : Abreast e.reset.2 := by
  refine ⟨h.sound.reset, ?_⟩
  rcases e.reset_cases with ⟨_, store, _, heq⟩ | ⟨_, store, _, _, heq⟩
  · rw [heq]
    exact h.live
  · rw [heq]
    intro page hpage
    obtain ⟨before, hbefore, rfl⟩ := Option.map_eq_some_iff.mp hpage
    have halike := (Network.regular_build e.registry.resetToDefaults).2
    have hmarks : e.registry.placeholders.map Placeholder.marks =
        e.registry.resetToDefaults.placeholders.map Placeholder.marks := by
      rw [Registry.resetToDefaults, Registry.map, List.map_map]
      rfl
    refine (h.live before hbefore).refreshed ⟨(h.sound.byDefault store).distinct, fun _ hname => hname,
      hmarks.trans halike.marks_eq.symm, fun j p q hp hq hnot => ?_⟩
    obtain ⟨q', hq', hsame⟩ := exists_marked (hmarks.trans halike.marks_eq.symm) hp
    obtain rfl := Option.some.inj (hq.symm.trans hq')
    have hname : q.name = p.name := congrArg (·.1) hsame
    exact absurd (hname ▸ List.mem_map_of_mem (List.mem_of_getElem? hq)) hnot

/-- **Every call keeps the attached page live.** -/
theorem Abreast.apply (h : Abreast e) {a : Action} (ha : a.AttachesUnbound) : Abreast (a.apply e).2 := by
  cases a with
  | change c => exact h.change c
  | attach page => exact h.attach ha
  | rerun => exact h.rerun
  | detach => exact ⟨h.sound.apply .detach, fun _ hpage => by cases hpage⟩
  | setToggle t on => exact h.setToggle t on
  | reset => exact h.reset
  | takeDiagnostics => exact ⟨h.sound.apply .takeDiagnostics, h.live⟩

theorem Abreast.run (h : Abreast e) {actions : List Action}
    (hactions : ∀ a ∈ actions, a.AttachesUnbound) : Abreast (e.run actions) := by
  induction actions generalizing e with
  | nil => exact h
  | cons a rest ih =>
      obtain ⟨ha, hrest⟩ := List.forall_mem_cons.mp hactions
      exact ih (h.apply ha) hrest

end Abreast

end Engine

end Placeholders
