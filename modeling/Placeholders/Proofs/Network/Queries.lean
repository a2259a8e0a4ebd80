import Mathlib.Order.Bounds.Basic
import Placeholders.Proofs.Engine.Attached
import Placeholders.Proofs.Network.Run

/-!
# What is asked of a network

A network is asked what a placeholder refers to, what it depends on, what depends on it, and what is used.
All answers are lists of names, and they go together.

* `LeadsTo` is an edge between two names. The answers are put in its terms; positions do not show.
* `Lists` is what all answers have in common: each name once, in the order of the registry.
* What a name depends on is what it leads to along edges, one or more of them (`lists_dependencies`), and
  what depends on it is the converse (`lists_dependents`). The used names are the least set with the counted
  ones that is closed under references (`isLeast_used`).
* `queries_are_closures` says this at any point of any run, whatever has been counted then.
-/

namespace Placeholders.Network

open Relation

/-! ## 1. References between names -/

/-- An edge leads from the placeholder of one name to that of another. -/
def LeadsTo (net : Network) (a b : String) : Prop :=
  ∃ i j, net.position a = .ok i ∧ net.position b = .ok j ∧ net.graph.Edge i j

/-- A placeholder of this name has been met on the page. -/
def OnPage (net : Network) (name : String) : Prop :=
  ∃ p ∈ net.registry.placeholders, p.name = name ∧ 0 < p.countOnPage

/-- The names are those with a property, each once and in the order of the registry. -/
structure Lists (net : Network) (names : List String) (q : String → Prop) : Prop where
  in_order : names.Sublist net.registry.names
  nodup : names.Nodup
  mem_iff : ∀ name, name ∈ names ↔ q name

theorem mem_counted_iff_onPage {net : Network} {name : String} :
    name ∈ net.counted ↔ net.OnPage name := by
  rw [counted, List.mem_map]
  refine exists_congr fun p => ?_
  rw [List.mem_filter, Placeholder.isUsed, decide_eq_true_iff, and_assoc]
  exact and_congr_right fun _ => and_comm

section Regular

variable {net : Network} (hnet : net.Regular) (hdistinct : net.registry.names.Nodup)

include hnet hdistinct

/-- A position is the one of its name. -/
theorem position_nameAt {j : Nat} (hj : j < net.graph.size) : net.position (net.nameAt j) = .ok j := by
  have hlt : j < net.registry.size := hnet.size_eq ▸ hj
  have hat : net.at? j = some net.registry.placeholders[j] := List.getElem?_eq_getElem hlt
  rw [nameAt_eq hat]
  exact position_eq_ok hdistinct hat

/-- Walks along references are walks along edges. -/
theorem transGen_leadsTo_iff {a b : String} : TransGen net.LeadsTo a b ↔
    ∃ i j, net.position a = .ok i ∧ net.position b = .ok j ∧ TransGen net.graph.Edge i j := by
  constructor
  · intro hwalk
    induction hwalk with
    | single hrefers =>
        obtain ⟨i, j, hi, hj, hedge⟩ := hrefers
        exact ⟨i, j, hi, hj, .single hedge⟩
    | tail _ hrefers ih =>
        obtain ⟨i, k, hi, hk, hwalk⟩ := ih
        obtain ⟨k', j, hk', hj, hedge⟩ := hrefers
        cases hk.symm.trans hk'
        exact ⟨i, j, hi, hj, hwalk.tail hedge⟩
  · rintro ⟨i, j, hi, hj, hwalk⟩
    induction hwalk generalizing b with
    | single hedge => exact .single ⟨i, _, hi, hj, hedge⟩
    | @tail k _ _ hedge ih =>
        have hk := position_nameAt hnet hdistinct hedge.source_lt
        exact (ih hk).tail ⟨k, _, hk, hj, hedge⟩

/-! ## 2. Answers -/

/-- The names at certain positions, once and in order. -/
theorem lists_namesAt {js : List Nat} (hjs : js.Sublist (List.range net.graph.size)) {q : String → Prop}
    (hq : ∀ name, q name ↔ ∃ j ∈ js, net.position name = .ok j) : net.Lists (net.namesAt js) q := by
  have hsub : (net.namesAt js).Sublist net.registry.names :=
    namesAt_range hnet ▸ hjs.map net.nameAt
  refine ⟨hsub, hsub.nodup hdistinct, fun name => (List.mem_map.trans ?_).trans (hq name).symm⟩
  refine exists_congr fun j => and_congr_right fun hj => ?_
  have hlt : j < net.graph.size := List.mem_range.mp (hjs.subset hj)
  constructor
  · rintro rfl
    exact position_nameAt hnet hdistinct hlt
  · intro hposition
    exact (nameAt_eq_iff hdistinct hposition (hnet.size_eq ▸ hlt)).mpr rfl

variable {a : String} {i : Nat} (hi : net.position a = .ok i)

include hi

/-- What a placeholder refers to itself. -/
theorem lists_references : ∃ direct, net.references a = .ok direct ∧ net.Lists direct (net.LeadsTo a) := by
  refine ⟨_, by rw [references, hi]; rfl, lists_namesAt hnet hdistinct List.filter_sublist fun name => ?_⟩
  constructor
  · rintro ⟨i', j, hi', hj, hedge⟩
    cases hi.symm.trans hi'
    exact ⟨j, List.mem_filter.mpr ⟨List.mem_range.mpr (hnet.leads_lt _ _ hedge),
      List.contains_iff_mem.mpr hedge⟩, hj⟩
  · rintro ⟨j, hmem, hj⟩
    exact ⟨i, j, hi, hj, List.contains_iff_mem.mp (List.mem_filter.mp hmem).2⟩

/-- **What a placeholder depends on is where references lead from it.** -/
theorem lists_dependencies :
    ∃ down, net.dependencies a = .ok down ∧ net.Lists down (TransGen net.LeadsTo a) := by
  refine ⟨_, by rw [dependencies, hi]; rfl, lists_namesAt hnet hdistinct List.filter_sublist fun b => ?_⟩
  rw [transGen_leadsTo_iff hnet hdistinct]
  constructor
  · rintro ⟨i', j, hi', hj, hwalk⟩
    cases hi.symm.trans hi'
    exact ⟨j, (mem_closure_targets_iff hnet).mpr hwalk, hj⟩
  · rintro ⟨j, hmem, hj⟩
    exact ⟨i, j, hi, hj, (mem_closure_targets_iff hnet).mp hmem⟩

/-- **What depends on a placeholder is where references lead to it from.** -/
theorem lists_dependents :
    ∃ up, net.dependents a = .ok up ∧ net.Lists up (TransGen net.LeadsTo · a) := by
  refine ⟨_, by rw [dependents, hi]; rfl, lists_namesAt hnet hdistinct List.filter_sublist fun b => ?_⟩
  rw [transGen_leadsTo_iff hnet hdistinct]
  constructor
  · rintro ⟨j, i', hj, hi', hwalk⟩
    cases hi.symm.trans hi'
    exact ⟨j, (mem_closure_sources_iff hnet).mpr hwalk, hj⟩
  · rintro ⟨j, hmem, hj⟩
    exact ⟨j, i, hj, hi, (mem_closure_sources_iff hnet).mp hmem⟩

end Regular

/-! ## 3. Used names -/

section Used

variable {net : Network} (hnet : net.Regular) (hdistinct : net.registry.names.Nodup)

include hnet hdistinct

/-- The reach of a name is what references lead to, the name itself among it. -/
theorem mem_reach_iff {a b : String} : b ∈ net.reach a ↔ ReflTransGen net.LeadsTo a b := by
  rw [reflTransGen_iff_eq_or_transGen, reach, List.mem_cons]
  refine or_congr_right ?_
  cases hi : net.position a with
  | ok i =>
      obtain ⟨down, hdown, hlists⟩ := lists_dependencies hnet hdistinct hi
      rw [hdown]
      exact hlists.mem_iff b
  | error e =>
      have hnone : net.dependencies a = .error e := by
        rw [dependencies, hi]
        rfl
      rw [hnone]
      refine iff_of_false List.not_mem_nil fun hwalk => ?_
      obtain ⟨i, _, hi', _⟩ := (transGen_leadsTo_iff hnet hdistinct).mp hwalk
      cases hi.symm.trans hi'

/-- A name is used if references lead there from one that is on the page. -/
theorem mem_used_iff_onPage {b : String} :
    b ∈ net.used ↔ ∃ a, net.OnPage a ∧ ReflTransGen net.LeadsTo a b := by
  rw [mem_used hnet hdistinct]
  constructor
  · rintro ⟨i, p, hp, hused, hreach⟩
    exact ⟨p.name, mem_counted_iff_onPage.mp (mem_counted.mpr ⟨i, p, hp, hused, rfl⟩),
      (mem_reach_iff hnet hdistinct).mp hreach⟩
  · rintro ⟨a, ha, hwalk⟩
    obtain ⟨i, p, hp, hused, rfl⟩ := mem_counted.mp (mem_counted_iff_onPage.mpr ha)
    exact ⟨i, p, hp, hused, (mem_reach_iff hnet hdistinct).mpr hwalk⟩

/-- **The used names are the least set that has the names on the page and all that its members refer
    to.** -/
theorem isLeast_used :
    IsLeast {s : Set String | (∀ a, net.OnPage a → a ∈ s) ∧ ∀ a b, a ∈ s → net.LeadsTo a b → b ∈ s}
      {a | a ∈ net.used} := by
  refine ⟨⟨fun a ha => ?_, fun a b ha hrefers => ?_⟩, fun s hs b hb => ?_⟩
  · exact (mem_used_iff_onPage hnet hdistinct).mpr ⟨a, ha, .refl⟩
  · obtain ⟨c, hc, hwalk⟩ := (mem_used_iff_onPage hnet hdistinct).mp ha
    exact (mem_used_iff_onPage hnet hdistinct).mpr ⟨c, hc, hwalk.tail hrefers⟩
  · obtain ⟨a, ha, hwalk⟩ := (mem_used_iff_onPage hnet hdistinct).mp hb
    induction hwalk with
    | refl => exact hs.1 a ha
    | tail hwalk hrefers ih =>
        exact hs.2 _ _ (ih ((mem_used_iff_onPage hnet hdistinct).mpr ⟨a, ha, hwalk⟩)) hrefers

/-- A placeholder is used if it is on the page or something that depends on it is. -/
theorem mem_used_iff_dependents {b : String} : b ∈ net.used ↔
    net.OnPage b ∨ ∃ up, net.dependents b = .ok up ∧ ∃ a ∈ up, net.OnPage a := by
  rw [mem_used_iff_onPage hnet hdistinct]
  constructor
  · rintro ⟨a, ha, hwalk⟩
    rcases reflTransGen_iff_eq_or_transGen.mp hwalk with rfl | hwalk
    · exact .inl ha
    · obtain ⟨_, i, _, hi, _⟩ := (transGen_leadsTo_iff hnet hdistinct).mp hwalk
      obtain ⟨up, hup, hlists⟩ := lists_dependents hnet hdistinct hi
      exact .inr ⟨up, hup, a, (hlists.mem_iff a).mpr hwalk, ha⟩
  · rintro (hb | ⟨up, hup, a, hmem, ha⟩)
    · exact ⟨b, hb, .refl⟩
    · cases hi : net.position b with
      | error e =>
          rw [dependents, hi] at hup
          cases hup
      | ok i =>
          obtain ⟨up', hup', hlists⟩ := lists_dependents hnet hdistinct hi
          cases hup.symm.trans hup'
          exact ⟨a, ha, ((hlists.mem_iff a).mp hmem).to_reflTransGen⟩

end Used

/-! ## 4. Any point of any run -/

theorem names_step {net : Network} (hnet : net.Regular) (s : Step) :
    (net.step s).registry.names = net.registry.names := by
  cases s with
  | revise revisions =>
      refine List.ext_getElem? fun i => ?_
      rw [Registry.names_getElem?, Registry.names_getElem?]
      change ((net.registry.placeholders.mapIdx _)[i]?).map _ = _
      rw [List.getElem?_mapIdx, Option.map_map]
      rfl
  | follow name => exact (regular_valueChanged hnet name).2.names_eq

/-- A run leaves the names as they are. -/
theorem names_run {net : Network} (hnet : net.Regular) (steps : List Step) :
    (net.run steps).registry.names = net.registry.names := by
  induction steps generalizing net with
  | nil => rfl
  | cons s steps ih => exact (ih (hnet.step s)).trans (names_step hnet s)

/-- A graph that a run has led to fits any records of the same names. -/
theorem regular_records {r records : Registry} (hnames : records.names = r.names) (steps : List Step) :
    (⟨records, ((build r).1.run steps).graph⟩ : Network).Regular := by
  obtain ⟨hbuilt, halike⟩ := regular_build r
  have hsize : records.size = ((build r).1.run steps).registry.size := by
    refine Registry.size_eq_of_names_eq (hnames.trans ?_)
    rw [names_run hbuilt, halike.names_eq]
  exact (hbuilt.run steps).withRegistry (f := fun _ => records) hsize

/-- **All answers of a network go by one relation.** Take the graph of any run and any records of its
    placeholders, however often these have been counted. What a placeholder depends on is where a walk of
    one or more references leads to from it; what depends on it is where one leads to it from, so that the
    two are converse; the placeholder itself is in neither. All answers have each name once, in the order of
    the registry, and only an unknown name has none. The used names are the least set that has the names on
    the page and all that its members refer to: those that are on the page, or have a dependent there. -/
theorem queries_are_closures {r records : Registry} (hdistinct : r.names.Nodup)
    (hnames : records.names = r.names) (steps : List Step) :
    let net : Network := ⟨records, ((build r).1.run steps).graph⟩
    (∀ a ∈ r.names, ∃ down up direct,
      net.dependencies a = .ok down ∧ net.Lists down (TransGen net.LeadsTo a) ∧ a ∉ down ∧
      net.dependents a = .ok up ∧ net.Lists up (TransGen net.LeadsTo · a) ∧ a ∉ up ∧
      net.references a = .ok direct ∧ net.Lists direct (net.LeadsTo a)) ∧
    (∀ a b down up, net.dependencies b = .ok down → net.dependents a = .ok up →
      (b ∈ up ↔ a ∈ down)) ∧
    (∀ a ∉ r.names, net.dependencies a = .error (.unknownPlaceholder a) ∧
      net.dependents a = .error (.unknownPlaceholder a) ∧
      net.references a = .error (.unknownPlaceholder a)) ∧
    net.used.Sublist r.names ∧ net.used.Nodup ∧
    IsLeast {s : Set String | (∀ a, net.OnPage a → a ∈ s) ∧ ∀ a b, a ∈ s → net.LeadsTo a b → b ∈ s}
      {a | a ∈ net.used} ∧
    ∀ b, b ∈ net.used ↔ net.OnPage b ∨ ∃ up, net.dependents b = .ok up ∧ ∃ a ∈ up, net.OnPage a := by
  intro net
  have hnet : net.Regular := regular_records hnames steps
  have hnodup : net.registry.names.Nodup := hnames.symm ▸ hdistinct
  have hirrefl : ∀ a, ¬ TransGen net.LeadsTo a a := fun a hwalk => by
    obtain ⟨i, j, hi, hj, hwalk⟩ := (transGen_leadsTo_iff hnet hnodup).mp hwalk
    cases hi.symm.trans hj
    exact hnet.acyclic i hwalk
  have hunknown : ∀ a ∉ r.names, net.position a = .error (.unknownPlaceholder a) := fun a ha => by
    rw [position, Registry.indexOf?_eq_none_iff.mpr (hnames.symm ▸ ha)]
  refine ⟨fun a ha => ?_, fun a b down up hdown hup => ?_, fun a ha => ?_, ?_, ?_,
    isLeast_used hnet hnodup, fun b => mem_used_iff_dependents hnet hnodup⟩
  · obtain ⟨i, hi⟩ : ∃ i, net.position a = .ok i := exists_position (hnames.symm ▸ ha)
    obtain ⟨down, hdown, hbelow⟩ := lists_dependencies hnet hnodup hi
    obtain ⟨up, hup, habove⟩ := lists_dependents hnet hnodup hi
    obtain ⟨direct, hdirect, hnext⟩ := lists_references hnet hnodup hi
    exact ⟨down, up, direct, hdown, hbelow, fun hmem => hirrefl a ((hbelow.mem_iff a).mp hmem),
      hup, habove, fun hmem => hirrefl a ((habove.mem_iff a).mp hmem), hdirect, hnext⟩
  · cases hi : net.position b with
    | error e =>
        rw [dependencies, hi] at hdown
        cases hdown
    | ok i =>
        cases hj : net.position a with
        | error e =>
            rw [dependents, hj] at hup
            cases hup
        | ok j =>
            obtain ⟨_, hdown', hbelow⟩ := lists_dependencies hnet hnodup hi
            obtain ⟨_, hup', habove⟩ := lists_dependents hnet hnodup hj
            cases hdown.symm.trans hdown'
            cases hup.symm.trans hup'
            rw [habove.mem_iff, hbelow.mem_iff]
  · simp only [dependencies, dependents, references, hunknown a ha, Except.map, and_self]
  · exact hnames ▸ used_sublist hnet
  · exact (used_sublist hnet).nodup hnodup

/-- Three textboxes, each of which refers to the one before, and one on its own. -/
def linked : Registry :=
  let textbox (name value : String) := Placeholder.ofKind name (.textbox ⟨.fixed value, []⟩) {}
  ⟨[textbox "HOST" "example.com", textbox "URL" "https://xHOSTx/", textbox "LINK" "<xURLx>",
    textbox "TLS" "on"], {}, .empty⟩

theorem queries_are_closures_of_linked :
    let records := linked.modify "URL" fun p => { p with countOnPage := 1 }
    let net : Network := ⟨records, ((build linked).1.run [.follow "URL"]).graph⟩
    linked.names.Nodup ∧ records.names = linked.names ∧
    net.dependencies "LINK" = .ok ["HOST", "URL"] ∧
    net.Lists ["HOST", "URL"] (TransGen net.LeadsTo "LINK") ∧
    net.dependents "HOST" = .ok ["URL", "LINK"] ∧
    net.Lists ["URL", "LINK"] (TransGen net.LeadsTo · "HOST") ∧
    net.used = ["HOST", "URL"] ∧
    IsLeast {s : Set String | (∀ a, net.OnPage a → a ∈ s) ∧ ∀ a b, a ∈ s → net.LeadsTo a b → b ∈ s}
      {a | a ∈ net.used} := by
  intro records net
  have hdistinct : linked.names.Nodup := by decide +kernel
  have hnames : records.names = linked.names := by decide +kernel
  have hdown : net.dependencies "LINK" = .ok ["HOST", "URL"] := by decide +kernel
  have hup : net.dependents "HOST" = .ok ["URL", "LINK"] := by decide +kernel
  have hused : net.used = ["HOST", "URL"] := by decide +kernel
  obtain ⟨hknown, _, _, _, _, hleast, _⟩ := queries_are_closures hdistinct hnames [.follow "URL"]
  obtain ⟨_, _, _, hlink, hbelow, _⟩ := hknown "LINK" (by decide)
  obtain ⟨_, _, _, _, _, _, hhost, habove, _⟩ := hknown "HOST" (by decide)
  cases hdown.symm.trans hlink
  cases hup.symm.trans hhost
  exact ⟨hdistinct, hnames, hdown, hbelow, hup, habove, hused, hleast⟩

end Placeholders.Network
