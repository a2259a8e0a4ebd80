import Placeholders.Proofs.Engine.Live
import Placeholders.Proofs.Engine.Usage

/-!
# What attaching a page answers, and what is used

Attaching a page answers names, and afterwards some names are used and some are listed. The answer goes by
what has been counted and by what is bound; the other two go by what has been counted only.

* Names are used if they are in the reach of counted ones (`Network.used_eq_spread`). More names than the
  counted ones have the same reach exactly if all of them are used (`Network.used_eq_spread_iff`).
* On a page that has been read from markup without bindings, everything that is bound has been counted in
  the same pass (`exists_target_of_contains`).
* `used_attach` says when the answer and its reach are what is used, and `bound_is_not_used` that it need
  not be so: a page may have been rendered before it was attached, so that there is nothing to count on it.
-/

namespace Placeholders

open Placeholders.Markup Placeholders.Text Relation

namespace Network

/-! ## 1. The reach of names -/

/-- A position leads to what is in its closure, and to itself. -/
theorem mem_cons_closure_iff {net : Network} (hnet : net.Regular) {i j : Nat} :
    j ∈ i :: Digraph.closure net.graph.size net.graph.targets i ↔ ReflTransGen net.graph.Edge i j := by
  rw [List.mem_cons, Digraph.mem_closure hnet.leads_lt, reflTransGen_iff_eq_or_transGen]
  by_cases hji : j = i
  · simp [hji]
  · exact or_congr_right (and_iff_right hji)

/-- **What is reached from what is reached is reached.** -/
theorem reach_trans {net : Network} (hnet : net.Regular) (hdistinct : net.registry.names.Nodup)
    {a b c : String} (hab : b ∈ net.reach a) (hbc : c ∈ net.reach b) : c ∈ net.reach a := by
  cases hindex : net.position a with
  | error e =>
      have halone : net.reach a = [a] := by
        rw [reach, dependencies, hindex]
        rfl
      rw [halone, List.mem_singleton] at hab
      exact hab ▸ hbc
  | ok i =>
      obtain ⟨j, hij, rfl⟩ := (mem_reach hindex).mp hab
      have hj : j < net.registry.size :=
        hnet.size_eq ▸ closure_lt (hnet.size_eq ▸ position_lt hindex) hij
      have hat : net.at? j = some net.registry.placeholders[j] := List.getElem?_eq_getElem hj
      rw [nameAt_eq hat] at hbc
      obtain ⟨k, hjk, rfl⟩ := (mem_reach (position_eq_ok hdistinct hat)).mp hbc
      refine (mem_reach hindex).mpr ⟨k, ?_, rfl⟩
      rw [mem_cons_closure_iff hnet] at hij hjk ⊢
      exact hij.trans hjk

theorem mem_reach_self (net : Network) (name : String) : name ∈ net.reach name := List.mem_cons_self

/-- The names that have been counted. -/
def counted (net : Network) : List String :=
  (net.registry.placeholders.filter (·.isUsed)).map (·.name)

/-- Names and all that they refer to, in the order of the registry. -/
def spread (net : Network) (names : List String) : List String :=
  net.registry.names.filter fun name => ∃ other ∈ names, name ∈ net.reach other

theorem mem_spread {net : Network} {names : List String} {name : String} : name ∈ net.spread names ↔
    name ∈ net.registry.names ∧ ∃ other ∈ names, name ∈ net.reach other := by
  rw [spread, List.mem_filter, decide_eq_true_iff]

theorem mem_counted {net : Network} {name : String} : name ∈ net.counted ↔
    ∃ (i : Nat) (p : Placeholder), net.at? i = some p ∧ p.isUsed = true ∧ p.name = name := by
  rw [counted, List.mem_map]
  constructor
  · intro ⟨p, hp, hname⟩
    obtain ⟨hmem, hused⟩ := List.mem_filter.mp hp
    obtain ⟨i, hi⟩ := List.mem_iff_getElem?.mp hmem
    exact ⟨i, p, hi, hused, hname⟩
  · intro ⟨i, p, hp, hused, hname⟩
    exact ⟨p, List.mem_filter.mpr ⟨List.mem_of_getElem? hp, hused⟩, hname⟩

section Used

variable {net : Network} (hnet : net.Regular) (hdistinct : net.registry.names.Nodup)

include hnet hdistinct

/-- **The used names are the reach of the counted ones.** -/
theorem used_eq_spread : net.used = net.spread net.counted := by
  refine eq_filter_of_sublist (used_sublist hnet) hdistinct fun name _ => ?_
  rw [decide_eq_true_iff, mem_used hnet hdistinct]
  constructor
  · intro ⟨other, hother, hname⟩
    obtain ⟨i, p, hp, hused, rfl⟩ := mem_counted.mp hother
    exact ⟨i, p, hp, hused, hname⟩
  · intro ⟨i, p, hp, hused, hname⟩
    exact ⟨p.name, mem_counted.mpr ⟨i, p, hp, hused, rfl⟩, hname⟩

/-- What has been counted is used. -/
theorem mem_used_of_mem_counted {name : String} (h : name ∈ net.counted) : name ∈ net.used := by
  obtain ⟨i, p, hp, hused, rfl⟩ := mem_counted.mp h
  exact (mem_used hnet hdistinct).mpr ⟨i, p, hp, hused, net.mem_reach_self p.name⟩

/-- What is used is used with all that it refers to. -/
theorem mem_used_of_reach {a b : String} (ha : a ∈ net.used) (hb : b ∈ net.reach a) : b ∈ net.used := by
  obtain ⟨i, p, hp, hused, hreach⟩ := (mem_used hnet hdistinct).mp ha
  exact (mem_used hnet hdistinct).mpr ⟨i, p, hp, hused, reach_trans hnet hdistinct hreach hb⟩

/-- **The used names are the reach of more names than the counted ones exactly if all of these are used.** -/
theorem used_eq_spread_iff {names : List String} (hcounted : ∀ name ∈ net.counted, name ∈ names)
    (hknown : ∀ name ∈ names, name ∈ net.registry.names) :
    net.used = net.spread names ↔ ∀ name ∈ names, name ∈ net.used := by
  constructor
  · intro heq name hname
    rw [heq]
    exact mem_spread.mpr ⟨hknown name hname, name, hname, net.mem_reach_self name⟩
  · intro hall
    refine eq_filter_of_sublist (used_sublist hnet) hdistinct fun name _ => ?_
    rw [decide_eq_true_iff]
    constructor
    · intro ⟨other, hother, hname⟩
      exact mem_used_of_reach hnet hdistinct (hall other hother) hname
    · intro hname
      rw [used_eq_spread hnet hdistinct] at hname
      obtain ⟨_, other, hother, hreach⟩ := mem_spread.mp hname
      exact ⟨other, hcounted other hother, hreach⟩

end Used

end Network

/-! ## 2. Rows -/

/-- Looking up names of a registry in its order finds its placeholders in their order. -/
theorem Registry.filterMap_get?_filter {r : Registry} (hdistinct : r.names.Nodup) (q : String → Bool) :
    (r.names.filter q).filterMap r.get? = r.placeholders.filter fun p => q p.name := by
  rw [names, List.filter_map, List.filterMap_map]
  refine (List.filterMap_congr fun p hp => ?_).trans (List.filterMap_some)
  obtain ⟨i, hi⟩ := List.mem_iff_getElem?.mp (List.mem_filter.mp hp).1
  exact get?_eq_some hdistinct hi

namespace Document

/-! ## 3. Bindings that have been put in -/

/-- **On a page that had no bindings, each binding has taken the place of a token.** -/
theorem exists_token_of_scan {base : Document} {lexicon : Lexicon Target} {root : Nat} (hbase : base.Linked)
    (hgrounded : base.Grounded root) (hroot : root < base.size)
    (hnone : ∀ x, base.attribute? x Binding.nameAttribute = none) {name : String} {id : Nat}
    (hid : id ∈ (Bindings.scan (base.expandBelow lexicon root).1 root).elements name) :
    ∃ t ∈ (base.expandBelow lexicon root).2, t.name = name := by
  obtain ⟨group, hpass⟩ := exists_pass hbase hgrounded lexicon
  have hrendered := hpass.rendered hbase
  obtain ⟨hmem, hbinding, hname⟩ := Bindings.mem_elements_scan.mp hid
  obtain ⟨c, hc, hnew, hgroup, t, editor, hpart, hshows⟩ :=
    hrendered.exists_binding hbase (fun x hx => attribute?_expandBelow hbase hgrounded hnone hx) hroot
      (mem_of_mem_descendantsTo hmem).to_reflTransGen hbinding
  have hspan : (base.expandBelow lexicon root).1.IsSpan t.name id := ⟨editor, hshows.1⟩
  refine ⟨t, ?_, Option.some.inj (hspan.attribute?.symm.trans hname)⟩
  -- a text in which nothing is replaced keeps its place
  have hreplaced : base.replacedAt lexicon c ≠ [] := by
    intro hnil
    rw [(hpass.replaces c hc).untouched hnil, List.mem_singleton] at hgroup
    exact absurd (mem_unboundTexts_lt hbase hc) (Nat.not_lt.mpr (hgroup ▸ hnew))
  have ht := mem_partsFrom_snd hpart
  rw [partsFrom_snd] at ht
  rw [expandBelow_snd hbase hgrounded]
  refine List.mem_append_left _ (List.mem_flatMap.mpr ⟨c, hc, ?_⟩)
  rw [replacedAt, isSealedText_of_replacedAt hreplaced]
  exact ht

end Document

namespace Engine

/-- **The rows are those of the used placeholders that readers may change**, in the order of the
    descriptor. -/
theorem summary_eq {e : Engine} (he : e.Sound) : e.summary =
    (e.registry.placeholders.filter fun p => p.name ∈ e.used ∧ p.readOnly = false).map .ofPlaceholder := by
  have hused : e.used = e.registry.names.filter fun name => name ∈ e.used :=
    eq_filter_of_sublist (Network.used_sublist he.regular) he.distinct fun name _ => decide_eq_true_iff
  rw [summary, hused, Registry.filterMap_get?_filter he.distinct, List.filter_filter, ← hused]
  congr 2
  funext p
  cases p.readOnly <;> simp

/-! ## 4. Attaching a page -/

/-- What attaching a page has answered, and what it leaves. -/
theorem attach_eq_ok {e : Engine} {page : Page} {used : List String} (h : (e.attach page).1 = .ok used) :
    ∃ document registry found, page.document.expand page.root e.registry = .ok (document, registry, found) ∧
      used = found.used ∧
      (e.attach page).2 = { e with
        network := ⟨registry, e.network.graph⟩
        page := some { page with document, bindings := found.bindings } } := by
  unfold Engine.attach expandPage at h ⊢
  cases hexpand : page.document.expand page.root e.registry with
  | error source =>
      rw [hexpand] at h
      cases h
  | ok made =>
      obtain ⟨document, registry, found⟩ := made
      rw [hexpand] at h
      exact ⟨document, registry, found, rfl, (Except.ok.inj h).symm, rfl⟩

theorem used_of_expand {doc document : Document} {root : Nat} {r registry : Registry} {found : Findings}
    (h : doc.expand root r = .ok (document, registry, found)) :
    found.used = namesOn registry found.bindings := by
  unfold Document.expand at h
  split at h
  · cases h
  · split at h
    · cases h
    · cases h
      rfl

/-- A name is answered if it has been counted, or if it is known and bound. -/
theorem mem_namesOn_iff {net : Network} {bindings : Bindings} {name : String} :
    name ∈ namesOn net.registry bindings ↔
      name ∈ net.counted ∨ (name ∈ net.registry.names ∧ bindings.contains name = true) := by
  rw [mem_namesOn, Network.mem_counted]
  constructor
  · intro ⟨i, p, hp, hname, hfound⟩
    rcases Bool.or_eq_true_iff.mp hfound with hused | hbound
    · exact .inl ⟨i, p, hp, hused, hname⟩
    · exact .inr ⟨List.mem_map.mpr ⟨p, List.mem_of_getElem? hp, hname⟩, hbound⟩
  · intro h
    rcases h with ⟨i, p, hp, hused, hname⟩ | ⟨hknown, hbound⟩
    · exact ⟨i, p, hp, hname, Bool.or_eq_true_iff.mpr (.inl hused)⟩
    · obtain ⟨p, hp, hname⟩ := List.mem_map.mp hknown
      obtain ⟨i, hi⟩ := List.mem_iff_getElem?.mp hp
      exact ⟨i, p, hi, hname, Bool.or_eq_true_iff.mpr (.inr hbound)⟩

/-- **What is bound on a page that had no bindings has been counted**, so that it is used. -/
theorem mem_used_of_contains {e : Engine} (he : e.Sound) {page : Page} (hpage : page.Unbound)
    {document : Document} {registry : Registry} {found : Findings}
    (h : page.document.expand page.root e.registry = .ok (document, registry, found)) {name : String}
    (hname : found.bindings.contains name = true) :
    name ∈ (⟨registry, e.network.graph⟩ : Network).used := by
  obtain ⟨markup, hmarkup, hnone⟩ := hpage
  obtain ⟨lexicon, hlt, htargets, rfl, rfl, hbindings⟩ := Document.expand_eq_ok h
  rw [hbindings] at hname
  obtain ⟨id, hid⟩ := Bindings.exists_mem_elements_scan hname
  obtain ⟨t, ht, rfl⟩ := Document.exists_token_of_scan (hmarkup ▸ Document.linked_parse markup)
    (hmarkup ▸ (Document.ordered_parse markup).grounded page.root) hlt hnone hid
  have hcounted : Counted e.registry (page.document.expandBelow lexicon page.root).2 := by
    have htokens : tokensOn e.registry page = (page.document.expandBelow lexicon page.root).2 := by
      unfold tokensOn
      rw [htargets]
      exact if_pos (by simpa [Document.contains] using hlt)
    exact htokens ▸ counted_tokensOn e.registry page
  exact (mem_used_counting he.regular he.distinct hcounted).mpr
    (.inr ⟨t, ht, e.network.mem_reach_self t.name⟩)

/-- **When the names that attaching a page answers are those that are used afterwards.** The answer has the
    counted names and those that are bound on the page. Used are the counted ones and all that these refer
    to, and of these the ones that readers may change are listed, in the order of the descriptor. So the
    used names are the answer and all that it refers to exactly if everything in the answer is used. That
    is so if the page has been read from markup without bindings. -/
theorem used_attach {e : Engine} (he : e.Attainable) {page : Page} {used : List String}
    (h : (e.attach page).1 = .ok used) :
    let after := (e.attach page).2
    (∃ attached, after.page = some attached ∧ ∀ name, name ∈ used ↔ name ∈ after.network.counted ∨
      (name ∈ after.registry.names ∧ attached.bindings.contains name = true)) ∧
    after.used = after.network.spread after.network.counted ∧
    after.summary = (after.registry.placeholders.filter fun p =>
      p.name ∈ after.used ∧ p.readOnly = false).map .ofPlaceholder ∧
    (after.used = after.network.spread used ↔ ∀ name ∈ used, name ∈ after.used) ∧
    (page.Unbound → after.used = after.network.spread used) := by
  intro after
  have hsound : after.Sound := he.sound.attach page
  obtain ⟨document, registry, found, hexpand, hfound, hafter⟩ := attach_eq_ok h
  have hused : ∀ name, name ∈ used ↔ name ∈ after.network.counted ∨
      (name ∈ after.registry.names ∧ found.bindings.contains name = true) := by
    intro name
    rw [hfound, used_of_expand hexpand, show after = _ from hafter]
    exact @mem_namesOn_iff ⟨registry, e.network.graph⟩ found.bindings name
  have hcounted : ∀ name ∈ after.network.counted, name ∈ after.used := fun name hname =>
    Network.mem_used_of_mem_counted hsound.regular hsound.distinct hname
  have hknown : ∀ name ∈ used, name ∈ after.registry.names := by
    intro name hname
    rcases (hused name).mp hname with hcount | ⟨hmem, _⟩
    · exact (Network.used_sublist hsound.regular).subset (hcounted name hcount)
    · exact hmem
  have hiff := Network.used_eq_spread_iff hsound.regular hsound.distinct
    (fun name hname => (hused name).mpr (.inl hname)) hknown
  have hattached : after.page = some { page with document, bindings := found.bindings } :=
    congrArg Engine.page hafter
  refine ⟨⟨_, hattached, hused⟩, Network.used_eq_spread hsound.regular hsound.distinct,
    summary_eq hsound, hiff, fun hpage => hiff.mpr fun name hname => ?_⟩
  rcases (hused name).mp hname with hcount | ⟨_, hbound⟩
  · exact hcounted name hcount
  · rw [show after = _ from hafter]
    exact mem_used_of_contains he.sound hpage hexpand hbound

/-- A page with a binding of A, as a pass leaves it behind, and no token. -/
def renderedPage : Page :=
  { document := Document.parse "<span class=\"placeholder-value\" data-placeholder=\"A\">1</span>" }

theorem eq_ok_of_toOption {ε α : Type} {answer : Except ε α} {a : α} (h : answer.toOption = some a) :
    answer = .ok a := by
  cases answer with
  | error e => cases h
  | ok b => exact congrArg Except.ok (Option.some.inj h)

theorem used_attach_of_renderedPage :
    let e := start .bare greeting (.ofEntries [])
    let after := (e.attach renderedPage).2
    e.Attainable ∧ (e.attach renderedPage).1 = .ok ["A"] ∧
    (∃ attached, after.page = some attached ∧ ∀ name, name ∈ ["A"] ↔ name ∈ after.network.counted ∨
      (name ∈ after.registry.names ∧ attached.bindings.contains name = true)) ∧
    after.used = after.network.spread after.network.counted ∧
    (after.used = after.network.spread ["A"] ↔ ∀ name ∈ ["A"], name ∈ after.used) := by
  intro e after
  have hused : (e.attach renderedPage).1 = .ok ["A"] := eq_ok_of_toOption (by decide +kernel)
  have he : e.Attainable := .start _ _ _
  obtain ⟨hfound, hcounted, _, hiff, _⟩ := used_attach he hused
  exact ⟨he, hused, hfound, hcounted, hiff⟩

/-- **The answer and what is used need not agree.** A page that has been rendered before has a binding of A,
    so that A is answered; but there is no token to count, so that nothing is used and nothing is listed. -/
theorem bound_is_not_used :
    ¬ ∀ (e : Engine) (page : Page) (used : List String), e.Attainable → e.page = none →
      (e.attach page).1 = .ok used →
        (∀ name, name ∈ (e.attach page).2.used ↔ name ∈ (e.attach page).2.network.spread used) ∧
        (e.attach page).2.summary = ((e.attach page).2.registry.placeholders.filter fun p =>
          p.name ∈ (e.attach page).2.network.spread used ∧ p.readOnly = false).map .ofPlaceholder := by
  intro hall
  let e := start .bare greeting (.ofEntries [])
  have hfacts : ((e.attach renderedPage).1.toOption, (e.attach renderedPage).2.used,
      (e.attach renderedPage).2.network.spread ["A"]) = (some ["A"], [], ["A"]) := by
    decide +kernel
  simp only [Prod.mk.injEq] at hfacts
  obtain ⟨hanswer, hused, hspread⟩ := hfacts
  have hname := (hall e renderedPage ["A"] (.start _ _ _) rfl (eq_ok_of_toOption hanswer)).1 "A"
  rw [hused, hspread] at hname
  exact absurd (hname.mpr List.mem_cons_self) List.not_mem_nil

end Engine

end Placeholders
