import Placeholders.Engine.Summary
import Placeholders.Proofs.Engine.Counting
import Placeholders.Proofs.Engine.Refusal

/-!
# What is used

Three reports tell what is on a page: the names that attaching it answers, the names that are used, and
the reloads that changes ask for. All three go by what has been counted so far.

* `Network.mem_used` says which names are used: those of the counted placeholders and all that these
  refer to.
* Nothing is uncounted when another page is attached. `usage_after_earlier_page` says exactly what an
  earlier page leaves behind; `earlier_page_counts` shows that this is something.
-/

namespace Placeholders

open Placeholders.Text

/-! ## 1. Lists of names -/

/-- A part of a list without repetitions consists of what is in it, in the order of the list. -/
theorem eq_filter_of_sublist {names some : List String} (h : some.Sublist names)
    (hdistinct : names.Nodup) {q : String → Bool} (hq : ∀ name ∈ names, q name = true ↔ name ∈ some) :
    some = names.filter q := by
  induction h with
  | slnil => rfl
  | @cons l₁ l₂ first h ih =>
      obtain ⟨hfirst, hrest⟩ := List.nodup_cons.mp hdistinct
      obtain ⟨hq₁, hq₂⟩ := List.forall_mem_cons.mp hq
      have hnot : ¬ q first = true := fun hmem => hfirst (h.subset (hq₁.mp hmem))
      rw [List.filter_cons_of_neg hnot]
      exact ih hrest hq₂
  | @cons_cons l₁ l₂ first h ih =>
      obtain ⟨hfirst, hrest⟩ := List.nodup_cons.mp hdistinct
      obtain ⟨hq₁, hq₂⟩ := List.forall_mem_cons.mp hq
      rw [List.filter_cons_of_pos (hq₁.mpr List.mem_cons_self)]
      refine congrArg (first :: ·) (ih hrest fun name hname => (hq₂ name hname).trans ?_)
      rw [List.mem_cons, or_iff_right]
      rintro rfl
      exact hfirst hname

namespace Network

/-! ## 2. Used names -/

/-- A name and all that its placeholder refers to, directly or not. -/
def reach (net : Network) (name : String) : List String :=
  name :: (net.dependencies name).toOption.getD []

theorem reach_counting (net : Network) (replaced : List Target) (name : String) :
    (net.counting replaced).reach name = net.reach name := by
  have hnames : (net.counting replaced).namesAt = net.namesAt :=
    funext (net.namesAt_counting replaced)
  unfold reach dependencies
  rw [position_counting, hnames]
  rfl

theorem mem_reach {net : Network} {name other : String} {i : Nat} (hi : net.position name = .ok i) :
    other ∈ net.reach name ↔
      ∃ j ∈ i :: Digraph.closure net.graph.size net.graph.targets i, net.nameAt j = other := by
  obtain ⟨p, hp, rfl⟩ := exists_at_position hi
  have hreach : net.reach p.name =
      net.namesAt (i :: Digraph.closure net.graph.size net.graph.targets i) := by
    rw [reach, dependencies, hi, namesAt, List.map_cons, nameAt_eq hp]
    rfl
  rw [hreach, namesAt, List.mem_map]

theorem closure_lt {net : Network} {i j : Nat} (hi : i < net.graph.size)
    (hj : j ∈ i :: Digraph.closure net.graph.size net.graph.targets i) : j < net.graph.size := by
  rcases List.mem_cons.mp hj with rfl | hj
  · exact hi
  · exact List.mem_range.mp (List.mem_filter.mp hj).1

theorem position_eq_ok {net : Network} (hdistinct : net.registry.names.Nodup) {i : Nat}
    {p : Placeholder} (hp : net.at? i = some p) : net.position p.name = .ok i := by
  have hname : p.name ∈ net.registry.names := List.mem_map_of_mem (List.mem_of_getElem? hp)
  obtain ⟨k, hk⟩ := exists_position hname
  have hi : i < net.registry.size := (List.getElem?_eq_some_iff.mp hp).1
  rw [(nameAt_eq_iff hdistinct hk hi).mp (nameAt_eq hp)]
  exact hk

/-- **The used names are those of counted placeholders and of what these refer to.** -/
theorem mem_used {net : Network} (hnet : net.Regular) (hdistinct : net.registry.names.Nodup)
    {name : String} : name ∈ net.used ↔
      ∃ (i : Nat) (p : Placeholder), net.at? i = some p ∧ p.isUsed = true ∧ name ∈ net.reach p.name := by
  unfold used
  rw [namesAt, List.mem_map]
  constructor
  · rintro ⟨j, hj, rfl⟩
    obtain ⟨_, hreached⟩ := List.mem_filter.mp hj
    obtain ⟨i, hi, hij⟩ := List.mem_flatMap.mp (List.contains_iff_mem.mp hreached)
    obtain ⟨p, hp, hused⟩ := (Option.any_eq_true ..).mp (List.mem_filter.mp hi).2
    exact ⟨i, p, hp, hused, (mem_reach (position_eq_ok hdistinct hp)).mpr ⟨j, hij, rfl⟩⟩
  · rintro ⟨i, p, hp, hused, hname⟩
    obtain ⟨j, hij, rfl⟩ := (mem_reach (position_eq_ok hdistinct hp)).mp hname
    have hi : i < net.graph.size := hnet.size_eq ▸ (List.getElem?_eq_some_iff.mp hp).1
    have hseed : i ∈ (List.range net.graph.size).filter fun i => (net.at? i).any (·.isUsed) :=
      List.mem_filter.mpr ⟨List.mem_range.mpr hi, by rw [hp]; exact hused⟩
    refine ⟨j, List.mem_filter.mpr ⟨List.mem_range.mpr (closure_lt hi hij), ?_⟩, rfl⟩
    exact List.contains_iff_mem.mpr (List.mem_flatMap.mpr ⟨i, hseed, hij⟩)

/-- The names at all positions are those of the registry. -/
theorem namesAt_range {net : Network} (hnet : net.Regular) :
    net.namesAt (List.range net.graph.size) = net.registry.names := by
  refine List.ext_getElem? fun i => ?_
  rw [namesAt, List.getElem?_map, hnet.size_eq, Registry.names_getElem?]
  by_cases hi : i < net.registry.size
  · have hat : net.at? i = some net.registry.placeholders[i] := List.getElem?_eq_getElem hi
    rw [List.getElem?_range hi, Option.map_some, nameAt_eq hat]
    exact (congrArg (Option.map (·.name)) hat).symm
  · have hlist : net.registry.placeholders.length ≤ i := Nat.not_lt.mp hi
    rw [List.getElem?_eq_none (by simpa using Nat.not_lt.mp hi), List.getElem?_eq_none hlist]
    rfl

/-- The used names come in the order of the registry. -/
theorem used_sublist {net : Network} (hnet : net.Regular) : net.used.Sublist net.registry.names := by
  rw [← namesAt_range hnet]
  exact List.filter_sublist.map net.nameAt

end Network

namespace Document

/-- What is replaced in texts are tokens of the lexicon. -/
theorem mem_of_mem_expandTexts {doc : Document} {lexicon : Lexicon Target} (hproper : lexicon.Proper)
    {ids : List Nat} {t : Target} (h : t ∈ (doc.expandTexts lexicon ids).2) :
    ∃ literal, (literal, t) ∈ lexicon := by
  induction ids generalizing doc with
  | nil => exact absurd h List.not_mem_nil
  | cons id rest ih =>
      rw [expandTexts_cons] at h
      rcases List.mem_append.mp h with h | h
      · unfold expandUnsealed at h
        split at h
        · exact absurd h List.not_mem_nil
        · rw [expandText_eq] at h
          split at h
          · exact absurd h List.not_mem_nil
          · exact hproper.mem_of_mem_hits (List.mem_filter.mp h).1
      · exact ih h

theorem mem_of_mem_expandBelow {doc : Document} {lexicon : Lexicon Target} (hproper : lexicon.Proper)
    {root : Nat} {t : Target} (h : t ∈ (doc.expandBelow lexicon root).2) :
    ∃ literal, (literal, t) ∈ lexicon := by
  rcases List.mem_append.mp h with h | h
  · exact mem_of_mem_expandTexts hproper h
  · obtain ⟨literal, hmem⟩ := mem_of_mem_expandAttributes hproper.markup h
    exact ⟨literal, (List.mem_filter.mp hmem).1⟩

end Document

namespace Engine

/-! ## 3. What a page adds -/

/-- The tokens that are counted when a page is attached: all that the pass replaces, or none if it
    fails. -/
def tokensOn (r : Registry) (page : Page) : List Target :=
  match r.targets with
  | .error _ => []
  | .ok lexicon =>
    if page.document.contains page.root then (page.document.expandBelow lexicon page.root).2 else []

theorem counted_tokensOn (r : Registry) (page : Page) : Counted r (tokensOn r page) := by
  intro t ht
  unfold tokensOn at ht
  split at ht
  · exact absurd ht List.not_mem_nil
  · rename_i lexicon htargets
    split at ht
    · obtain ⟨literal, hmem⟩ :=
        Document.mem_of_mem_expandBelow (searchable_targets htargets).proper ht
      obtain ⟨p, hp, hof⟩ := exists_source htargets hmem
      rw [Registry.names_getElem?, hp, hof.name]
      rfl
    · exact absurd ht List.not_mem_nil

/-- The names that a pass answers: of all that has been counted so far, and of all that is bound. -/
def namesOn (r : Registry) (bindings : Bindings) : List String :=
  (r.placeholders.filter fun p => p.isUsed || bindings.contains p.name).map (·.name)

theorem namesOn_sublist (r : Registry) (bindings : Bindings) :
    (namesOn r bindings).Sublist r.names :=
  List.filter_sublist.map _

theorem mem_namesOn {r : Registry} {bindings : Bindings} {name : String} :
    name ∈ namesOn r bindings ↔ ∃ (i : Nat) (p : Placeholder), r.placeholders[i]? = some p ∧
      p.name = name ∧ (p.isUsed || bindings.contains name) = true := by
  rw [namesOn, List.mem_map]
  constructor
  · rintro ⟨p, hp, rfl⟩
    obtain ⟨hmem, hused⟩ := List.mem_filter.mp hp
    obtain ⟨i, hi⟩ := List.mem_iff_getElem?.mp hmem
    exact ⟨i, p, hi, rfl, hused⟩
  · rintro ⟨i, p, hp, rfl, hused⟩
    exact ⟨p, List.mem_filter.mpr ⟨List.mem_of_getElem? hp, hused⟩, rfl⟩

/-- What attaching a page does. -/
theorem attach_spec {e : Engine} {page : Page} {used : List String}
    (h : (e.attach page).1 = .ok used) :
    ∃ document bindings, used = namesOn (e.registry.tally (tokensOn e.registry page)) bindings ∧
      ∀ replaced attached, (({ e with page := attached } : Engine).counting replaced).attach page =
        (.ok (namesOn ((e.registry.tally replaced).tally (tokensOn e.registry page)) bindings),
          ({ e.counting (tokensOn e.registry page) with
            page := some { page with document, bindings } } : Engine).counting replaced) := by
  unfold Engine.attach expandPage Document.expand at h
  cases hcontains : page.document.contains page.root with
  | false =>
      rw [hcontains] at h
      cases h
  | true =>
      rw [hcontains] at h
      cases htargets : e.registry.targets with
      | error source =>
          rw [htargets] at h
          cases h
      | ok lexicon =>
          rw [htargets] at h
          have htokens : tokensOn e.registry page = (page.document.expandBelow lexicon page.root).2 := by
            unfold tokensOn
            rw [htargets]
            exact if_pos hcontains
          rw [htokens]
          refine ⟨(page.document.expandBelow lexicon page.root).1, _, (Except.ok.inj h).symm,
            fun replaced attached => ?_⟩
          have hregistry : (({ e with page := attached } : Engine).counting replaced).registry =
              e.registry.tally replaced := rfl
          unfold Engine.attach expandPage Document.expand
          rw [hregistry, Registry.targets_tally, htargets, hcontains]
          simp only [Bool.not_true, Bool.false_eq_true, if_false]
          refine congrArg (Except.ok _, ·) ?_
          exact congrArg (fun r => ({ e with network := ⟨r, e.network.graph⟩, page := some _ } : Engine))
            (e.registry.tally_comm replaced _)

theorem counting_nil (e : Engine) : e.counting [] = e :=
  congrArg (fun r => ({ e with network := ⟨r, e.network.graph⟩ } : Engine)) e.registry.tally_nil

theorem exists_attach_eq (e : Engine) (page : Page) :
    ∃ attached, (e.attach page).2 =
      ({ e with page := attached } : Engine).counting (tokensOn e.registry page) := by
  unfold Engine.attach expandPage Document.expand tokensOn
  cases page.document.contains page.root with
  | false =>
      refine ⟨e.page, ?_⟩
      cases e.registry.targets <;> exact (counting_nil e).symm
  | true =>
      cases e.registry.targets with
      | error source => exact ⟨e.page, (counting_nil e).symm⟩
      | ok lexicon => exact ⟨some _, rfl⟩

/-! ## 4. Names that are used -/

section Counted

variable {r : Registry} {replaced : List Target}

/-- What has been counted in addition is found on pages in addition. -/
theorem mem_namesOn_tally (h : Counted r replaced) (hdistinct : r.names.Nodup) {bindings : Bindings}
    {name : String} : name ∈ namesOn (r.tally replaced) bindings ↔
      name ∈ namesOn r bindings ∨ ∃ t ∈ replaced, name = t.name := by
  rw [mem_namesOn, mem_namesOn]
  constructor
  · rintro ⟨i, p, hp, rfl, hused⟩
    rw [getElem?_tally] at hp
    obtain ⟨q, hq, rfl⟩ := Option.map_eq_some_iff.mp hp
    have hname : r.names[i]? = some q.name := by
      rw [Registry.names_getElem?, hq]
      rfl
    rw [Placeholder.isUsed_tally, Bool.or_right_comm, Bool.or_eq_true] at hused
    refine hused.imp (fun hused => ⟨i, q, hq, rfl, hused⟩) fun hcounted => ?_
    obtain ⟨t, ht, hsource⟩ := List.any_eq_true.mp hcounted
    exact ⟨t, ht, ((h.source_iff hdistinct ht hname).mp (by simpa using hsource)).symm⟩
  · rintro (⟨i, p, hp, rfl, hused⟩ | ⟨t, ht, rfl⟩)
    · refine ⟨i, p.tally i replaced, by rw [getElem?_tally, hp]; rfl, rfl, ?_⟩
      rw [Placeholder.isUsed_tally, Bool.or_right_comm, hused]
      rfl
    · have hname := h t ht
      rw [Registry.names_getElem?] at hname
      obtain ⟨p, hp, hpname⟩ := Option.map_eq_some_iff.mp hname
      refine ⟨t.source, p.tally t.source replaced, by rw [getElem?_tally, hp]; rfl, hpname, ?_⟩
      have hany : (replaced.any fun other => other.source == t.source) = true :=
        List.any_eq_true.mpr ⟨t, ht, beq_self_eq_true t.source⟩
      rw [Placeholder.isUsed_tally, hany, Bool.or_true, Bool.true_or]

/-- What has been counted in addition is used in addition, with all that it refers to. -/
theorem mem_used_counting {net : Network} (hnet : net.Regular) (hdistinct : net.registry.names.Nodup)
    (h : Counted net.registry replaced) {name : String} :
    name ∈ (net.counting replaced).used ↔
      name ∈ net.used ∨ ∃ t ∈ replaced, name ∈ net.reach t.name := by
  have hnames : (net.counting replaced).registry.names = net.registry.names := names_tally _ _
  have hregular : (net.counting replaced).Regular :=
    hnet.withRegistry (Registry.size_eq_of_names_eq hnames)
  rw [Network.mem_used hregular (hnames ▸ hdistinct), Network.mem_used hnet hdistinct]
  constructor
  · rintro ⟨i, p, hp, hused, hreach⟩
    rw [Network.at?_counting] at hp
    obtain ⟨q, hq, rfl⟩ := Option.map_eq_some_iff.mp hp
    have hname : net.registry.names[i]? = some q.name :=
      (Registry.names_getElem? _ _).trans (congrArg (Option.map (·.name)) hq)
    rw [Network.reach_counting] at hreach
    rw [Placeholder.isUsed_tally, Bool.or_eq_true] at hused
    refine hused.imp (fun hused => ⟨i, q, hq, hused, hreach⟩) fun hcounted => ?_
    obtain ⟨t, ht, hsource⟩ := List.any_eq_true.mp hcounted
    refine ⟨t, ht, ?_⟩
    rw [(h.source_iff hdistinct ht hname).mp (by simpa using hsource)]
    exact hreach
  · rintro (⟨i, p, hp, hused, hreach⟩ | ⟨t, ht, hreach⟩)
    · refine ⟨i, p.tally i replaced, by rw [Network.at?_counting, hp]; rfl, ?_, ?_⟩
      · rw [Placeholder.isUsed_tally, hused, Bool.true_or]
      · rw [Network.reach_counting]
        exact hreach
    · have hname := h t ht
      rw [Registry.names_getElem?] at hname
      obtain ⟨p, hp, hpname⟩ := Option.map_eq_some_iff.mp hname
      have hat : net.at? t.source = some p := hp
      refine ⟨t.source, p.tally t.source replaced, by rw [Network.at?_counting, hat]; rfl, ?_, ?_⟩
      · have hany : (replaced.any fun other => other.source == t.source) = true :=
          List.any_eq_true.mpr ⟨t, ht, beq_self_eq_true t.source⟩
        rw [Placeholder.isUsed_tally, hany, Bool.or_true]
      · rw [Network.reach_counting, show (p.tally t.source replaced).name = t.name from hpname]
        exact hreach

end Counted

/-- The rows of a summary do not tell counts. -/
theorem summary_counting (e : Engine) (replaced : List Target) :
    (e.counting replaced).summary =
      (((e.counting replaced).used.filterMap e.registry.get?).filter fun p => !p.readOnly).map
        .ofPlaceholder := by
  have hregistry : (e.counting replaced).registry = e.registry.tally replaced := rfl
  unfold summary
  rw [hregistry]
  induction (e.counting replaced).used with
  | nil => rfl
  | cons name rest ih =>
      rw [List.filterMap_cons, List.filterMap_cons, Registry.get?_tally]
      cases e.registry.get? name with
      | none => exact ih
      | some p =>
          have hreadOnly : (p.tally ((e.registry.indexOf? name).getD 0) replaced).readOnly = p.readOnly :=
            rfl
          simp only [Option.map_some, List.filter_cons, hreadOnly]
          split
          · exact congrArg (SummaryRow.ofPlaceholder p :: ·) ih
          · exact ih

/-! ## 5. Pages one after the other -/

/-- **What an earlier page leaves behind.** After an earlier page, attaching a page does all that it does
    alone, but the tokens on the earlier page stay counted. So their names are answered in addition, they
    and all that they refer to are used in addition, there is a row for each of these that readers may
    change, and every later change of one that needed a reload there asks for a reload still. -/
theorem usage_after_earlier_page {e : Engine} (he : e.Attainable) (earlier : Page) {page : Page}
    {used : List String} (h : (e.attach page).1 = .ok used) (later : List Action) :
    let tokens := tokensOn e.registry earlier
    let alone := (e.attach page).2
    let after := ((e.attach earlier).2.attach page).2
    after = alone.counting tokens ∧
    ((e.attach earlier).2.attach page).1 =
      .ok (e.registry.names.filter fun name => name ∈ used ∨ ∃ t ∈ tokens, name = t.name) ∧
    after.used = e.registry.names.filter
      (fun name => name ∈ alone.used ∨ ∃ t ∈ tokens, name ∈ alone.network.reach t.name) ∧
    after.summary =
      ((after.used.filterMap alone.registry.get?).filter fun p => !p.readOnly).map .ofPlaceholder ∧
    after.outcomes later = (alone.outcomes later).map (Outcome.reloading tokens) := by
  intro tokens alone after
  obtain ⟨attached, hearlier⟩ := e.exists_attach_eq earlier
  obtain ⟨document, bindings, hused, hattach⟩ := attach_spec h
  have hcounted : Counted e.registry tokens := counted_tokensOn e.registry earlier
  have hboth := hattach tokens attached
  rw [← hearlier] at hboth
  have halone := hattach [] e.page
  rw [counting_nil, counting_nil] at halone
  have hafter : after = alone.counting tokens := by
    rw [show after = _ from congrArg Prod.snd hboth, show alone = _ from congrArg Prod.snd halone]
  have hsound : alone.Sound := he.sound.attach page
  have hnames : alone.registry.names = e.registry.names := names_attach e page
  have hkept : Counted alone.registry tokens := hcounted.congr hnames
  refine ⟨hafter, ?_, ?_, ?_, ?_⟩
  · have hown : (e.registry.tally (tokensOn e.registry page)).names = e.registry.names :=
      names_tally _ _
    have hdistinct := he.sound.distinct
    rw [congrArg Prod.fst hboth]
    refine congrArg Except.ok (eq_filter_of_sublist ?_ hdistinct fun name _ => ?_)
    · have hsublist := namesOn_sublist
        ((e.registry.tally tokens).tally (tokensOn e.registry page)) bindings
      rwa [names_tally, names_tally] at hsublist
    · rw [e.registry.tally_comm tokens, mem_namesOn_tally (hcounted.congr hown) (hown ▸ hdistinct),
        hused, decide_eq_true_iff]
  · rw [hafter]
    refine eq_filter_of_sublist ?_ he.sound.distinct fun name _ => ?_
    · have hsame : (alone.counting tokens).registry.names = e.registry.names :=
        (names_tally alone.registry tokens).trans hnames
      rw [← hsame]
      have hregular : (alone.counting tokens).network.Regular :=
        hsound.regular.withRegistry (f := (·.tally tokens))
          (Registry.size_eq_of_names_eq (names_tally alone.registry tokens))
      exact Network.used_sublist hregular
    · exact decide_eq_true_iff.trans (mem_used_counting hsound.regular hsound.distinct hkept).symm
  · rw [hafter]
    exact summary_counting alone tokens
  · rw [hafter]
    exact outcomes_counting hsound hkept later

/-- Two textboxes. -/
def twain : Descriptor where
  entries := [
    .record [("name", .text "A"), ("type", .text "textbox"), ("default_value", .text "1")],
    .record [("name", .text "B"), ("type", .text "textbox"), ("default_value", .text "2")]]

theorem usage_after_earlier_page_of_twain :
    let e := start .bare twain (.ofEntries [])
    let earlier : Page := { document := Document.parse "xAx" }
    let page : Page := { document := Document.parse "dBd" }
    let after := ((e.attach earlier).2.attach page).2
    (e.attach page).1 = .ok ["B"] ∧ (tokensOn e.registry earlier).map (·.name) = ["A"] ∧
    ((e.attach earlier).2.attach page).1 = .ok (e.registry.names.filter fun name =>
      name ∈ ["B"] ∨ ∃ t ∈ tokensOn e.registry earlier, name = t.name) ∧
    after.outcomes [.change (.setText "A" "3")] =
      ((e.attach page).2.outcomes [.change (.setText "A" "3")]).map
        (Outcome.reloading (tokensOn e.registry earlier)) := by
  intro e earlier page after
  have hnames : (e.attach page).1.toOption = some ["B"] := by decide +kernel
  have hused : (e.attach page).1 = .ok ["B"] := by
    cases hresult : (e.attach page).1 with
    | error err =>
        rw [hresult] at hnames
        cases hnames
    | ok used =>
        rw [hresult] at hnames
        exact congrArg Except.ok (Option.some.inj hnames)
  obtain ⟨_, hanswer, _, _, houtcomes⟩ :=
    usage_after_earlier_page (.start _ _ _) earlier hused [.change (.setText "A" "3")]
  exact ⟨hused, by decide +kernel, hanswer, houtcomes⟩

/-- **Usage is not a matter of the page alone.** With a token of A on an earlier page and one of B on the
    page, A is answered, used and listed, and a change of it asks for a reload. Without the earlier page
    none of this is so. -/
theorem earlier_page_counts :
    let e := start .bare twain (.ofEntries [])
    let page : Page := { document := Document.parse "dBd" }
    let earlier := (e.attach { document := Document.parse "xAx" }).2
    let change := Action.change (.setText "A" "3")
    (e.attach page).1.toOption = some ["B"] ∧
      (earlier.attach page).1.toOption = some ["A", "B"] ∧
    (e.attach page).2.used = ["B"] ∧ (earlier.attach page).2.used = ["A", "B"] ∧
    (e.attach page).2.summary.map (·.name) = ["B"] ∧
      (earlier.attach page).2.summary.map (·.name) = ["A", "B"] ∧
    ((e.attach page).2.outcomes [change]).map (·.needsReload) = [false] ∧
      ((earlier.attach page).2.outcomes [change]).map (·.needsReload) = [true] := by
  decide +kernel

end Engine

end Placeholders
