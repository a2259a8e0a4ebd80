import Placeholders.Proofs.Network.UpToDate
import Placeholders.Proofs.Registry

/-!
# What a change affects

Following a change leaves everything as it was but for the changed placeholder and its dependents, as
they are afterwards.

* `dependents_eq`: the dependents of a name are all that lead to it, each once and in order.
* `unaffected_valueChanged`: a placeholder whose name is neither the changed one nor among the dependents
  is the same before and after.
-/

namespace Placeholders

/-! ## 1. Names of a registry -/

namespace Registry

theorem names_getElem? (r : Registry) (i : Nat) : r.names[i]? = (r.placeholders[i]?).map (·.name) := by
  rw [names, List.getElem?_map]

theorem AlikeTo.names_eq {r s : Registry} (h : r.AlikeTo s) : s.names = r.names := by
  have hnames : ∀ t : Registry, t.names = (t.placeholders.map Placeholder.raw).map (·.name) := by
    intro t
    rw [names, List.map_map]
    rfl
  rw [hnames, hnames, h.raw]

/-- What is found under a name has that name, and stands somewhere. -/
theorem exists_at_of_get? {r : Registry} {name : String} {p : Placeholder} (h : r.get? name = some p) :
    p.name = name ∧ ∃ i : Nat, r.placeholders[i]? = some p :=
  ⟨by simpa using List.find?_some h, List.mem_iff_getElem?.mp (List.mem_of_find?_eq_some h)⟩

/-- Where names are distinct, a placeholder is found under its name. -/
theorem get?_eq_some {r : Registry} (h : r.names.Nodup) {i : Nat} {p : Placeholder}
    (hp : r.placeholders[i]? = some p) : r.get? p.name = some p := by
  obtain ⟨hi, hget⟩ := List.getElem?_eq_some_iff.mp hp
  have hsome : (r.get? p.name).isSome = true :=
    contains_iff.mpr (List.mem_map.mpr ⟨p, hget ▸ List.getElem_mem hi, rfl⟩)
  obtain ⟨q, hq⟩ := Option.isSome_iff_exists.mp hsome
  obtain ⟨hname, k, hk⟩ := exists_at_of_get? hq
  obtain ⟨hk, hkq⟩ := List.getElem?_eq_some_iff.mp hk
  have hkn : k < r.names.length := by simpa [names] using hk
  have hin : i < r.names.length := by simpa [names] using hi
  have hsame : k = i := by
    refine (@List.Nodup.getElem_inj_iff _ _ h k hkn i hin).mp ?_
    simp [names, hkq, hget, hname]
  subst hsame
  rw [hq, ← hkq, hget]

end Registry

namespace Network

/-! ## 2. Names and positions -/

theorem nameAt_eq {net : Network} {i : Nat} {p : Placeholder} (h : net.at? i = some p) :
    net.nameAt i = p.name := by
  simp [nameAt, h]

theorem nameAt_mem {net : Network} {i : Nat} (h : i < net.registry.size) :
    net.nameAt i ∈ net.registry.names := by
  have hat : net.at? i = some net.registry.placeholders[i] := List.getElem?_eq_getElem h
  rw [nameAt_eq hat]
  exact List.mem_map_of_mem (List.getElem_mem h)

theorem nameAt_inj {net : Network} (hdistinct : net.registry.names.Nodup) {i j : Nat}
    (hi : i < net.registry.size) (hj : j < net.registry.size) (h : net.nameAt i = net.nameAt j) :
    i = j := by
  have hname : ∀ {k : Nat}, k < net.registry.size → net.registry.names[k]? = some (net.nameAt k) := by
    intro k hk
    have hat : net.at? k = some net.registry.placeholders[k] := List.getElem?_eq_getElem hk
    rw [Registry.names_getElem?, nameAt_eq hat]
    exact congrArg (Option.map _) hat
  refine (List.getElem?_inj ?_ hdistinct).mp ((hname hi).trans (h ▸ (hname hj).symm))
  rwa [Registry.names, List.length_map]

theorem nameAt_congr {net other : Network} (h : other.registry.names = net.registry.names) (i : Nat) :
    other.nameAt i = net.nameAt i := by
  have hname : ∀ k : Network, k.nameAt i = (k.registry.names[i]?).getD "" := by
    intro k
    rw [Registry.names_getElem?]
    rfl
  rw [hname, hname, h]

theorem exists_nameAt_of_mem {net : Network} {name : String} (h : name ∈ net.registry.names) :
    ∃ i, i < net.registry.size ∧ net.nameAt i = name := by
  obtain ⟨p, hp, rfl⟩ := List.mem_map.mp h
  obtain ⟨i, hi⟩ := List.mem_iff_getElem?.mp hp
  exact ⟨i, (List.getElem?_eq_some_iff.mp hi).1, nameAt_eq hi⟩

theorem position_congr {net other : Network} (h : other.registry.names = net.registry.names)
    (name : String) : other.position name = net.position name := by
  rw [position, position, Registry.indexOf?_congr h]

theorem exists_position {net : Network} {name : String} (h : name ∈ net.registry.names) :
    ∃ i, net.position name = .ok i := by
  cases hindex : net.registry.indexOf? name with
  | some i => exact ⟨i, position_eq_ok_iff.mpr hindex⟩
  | none => exact absurd h (Registry.indexOf?_eq_none_iff.mp hindex)

/-- A placeholder of the name stands at the position of the name. -/
theorem exists_at_position {net : Network} {name : String} {i : Nat} (h : net.position name = .ok i) :
    ∃ p, net.at? i = some p ∧ p.name = name := by
  obtain ⟨hlt, hfound⟩ := List.findIdx?_eq_some_iff_getElem.mp (position_eq_ok_iff.mp h)
  exact ⟨_, List.getElem?_eq_getElem hlt, by simpa using hfound.1⟩

/-- The name at a position is the one that the position is found under only there. -/
theorem nameAt_eq_iff {net : Network} (hdistinct : net.registry.names.Nodup) {name : String} {i : Nat}
    (hi : net.position name = .ok i) {k : Nat} (hk : k < net.registry.size) :
    net.nameAt k = name ↔ k = i := by
  obtain ⟨p, hp, rfl⟩ := exists_at_position hi
  rw [← nameAt_eq hp]
  exact ⟨nameAt_inj hdistinct hk (position_lt hi), fun h => h ▸ rfl⟩

/-! ## 3. Dependents -/

theorem Regular.lt_of_transGen {net : Network} (hnet : net.Regular) {i j : Nat}
    (h : Relation.TransGen net.graph.Edge j i) : j < net.registry.size := by
  rw [← hnet.size_eq]
  exact (Relation.TransGen.head'_iff.mp h).elim fun _ h => h.1.source_lt

/-- **The dependents of a name are those that depend on it**, in the order of their positions. -/
theorem dependents_eq {net : Network} (hnet : net.Regular) {name : String} {i : Nat}
    (hi : net.position name = .ok i) :
    ∃ js, net.dependents name = .ok (net.namesAt js) ∧ js.Pairwise (· < ·) ∧
      ∀ j, j ∈ js ↔ Relation.TransGen net.graph.Edge j i := by
  have hascending : (Digraph.closure net.graph.size net.graph.sources i).Pairwise (· < ·) :=
    List.pairwise_lt_range.filter _
  exact ⟨_, by rw [dependents, hi]; rfl, hascending, fun j => mem_closure_sources_iff hnet⟩

/-- A name and the names of what depends on it are distinct: nothing depends on itself. -/
theorem nodup_cons_namesAt {net : Network} (hnet : net.Regular)
    (hdistinct : net.registry.names.Nodup) {name : String} {i : Nat} (hi : net.position name = .ok i)
    {js : List Nat} (hjs : js.Nodup) (hmem : ∀ j ∈ js, Relation.TransGen net.graph.Edge j i) :
    (name :: net.namesAt js).Nodup := by
  have hlt : ∀ j ∈ js, j < net.registry.size := fun j hj => hnet.lt_of_transGen (hmem j hj)
  refine List.nodup_cons.mpr ⟨fun hname => ?_, ?_⟩
  · obtain ⟨j, hj, hname⟩ := List.mem_map.mp hname
    obtain rfl := (nameAt_eq_iff hdistinct hi (hlt j hj)).mp hname
    exact hnet.acyclic j (hmem j hj)
  · exact hjs.map_on fun j hj k hk => nameAt_inj hdistinct (hlt j hj) (hlt k hk)

/-- The dependents of a name are known, and all that is affected is among them. -/
theorem dependents_spec {net : Network} (hnet : net.Regular) {name : String} {i : Nat}
    (hi : net.position name = .ok i) :
    ∃ names, net.dependents name = .ok names ∧ (∀ other ∈ names, other ∈ net.registry.names) ∧
      ∀ j, net.isAffectedBy i j = true → j ≠ i → net.nameAt j ∈ names := by
  obtain ⟨js, hjs, _, hmem⟩ := dependents_eq hnet hi
  refine ⟨_, hjs, fun other hother => ?_, fun j hj hne => ?_⟩
  · obtain ⟨j, hj, rfl⟩ := List.mem_map.mp hother
    exact nameAt_mem (hnet.lt_of_transGen ((hmem j).mp hj))
  · exact List.mem_map_of_mem ((hmem j).mpr (((isAffectedBy_iff hnet).mp hj).resolve_left hne))

/-! ## 4. Following a change -/

/-- **Following a change affects nothing but the changed placeholder and its dependents.** -/
theorem unaffected_valueChanged {net : Network} (hnet : net.Regular) {name : String} {i : Nat}
    (hi : net.position name = .ok i) :
    ∃ names, (net.valueChanged name).2.dependents name = .ok names ∧
      (∀ other ∈ name :: names, other ∈ net.registry.names) ∧
      ∀ j p, net.at? j = some p → p.name ∉ name :: names → (net.valueChanged name).2.at? j = some p := by
  obtain ⟨hregular, halike⟩ := regular_valueChanged hnet name
  obtain ⟨order, _, heq, _⟩ := valueChanged_of_ok hnet hi
  have hposition := (position_congr halike.names_eq name).trans hi
  obtain ⟨names, hnames, hknown, hall⟩ := dependents_spec hregular hposition
  refine ⟨names, hnames, List.forall_mem_cons.mpr ⟨?_, fun other hother => ?_⟩,
    fun j p hp hnot => ?_⟩
  · obtain ⟨p, hp, rfl⟩ := exists_at_position hi
    exact List.mem_map_of_mem (List.mem_of_getElem? hp)
  · exact halike.names_eq ▸ hknown other hother
  · obtain ⟨hne, hnames⟩ := not_or.mp (mt List.mem_cons.mpr hnot)
    have hji : j ≠ i := by
      rintro rfl
      obtain ⟨q, hq, hname⟩ := exists_at_position hi
      obtain rfl := Option.some.inj (hp.symm.trans hq)
      exact hne hname
    have hname : (net.valueChanged name).2.nameAt j = p.name := by
      have hat : (net.valueChanged name).2.registry.names[j]? = net.registry.names[j]? := by
        rw [halike.names_eq]
      rw [Registry.names_getElem?, Registry.names_getElem?] at hat
      change ((net.valueChanged name).2.at? j).map _ = (net.at? j).map _ at hat
      rw [nameAt, hat, hp]
      rfl
    have hnotaffected : ¬ (net.rescan i).2.isAffectedBy i j = true := fun haffected => by
      refine hnames (hname ▸ hall j ?_ hji)
      have hgraph : (net.valueChanged name).2.graph = (net.rescan i).2.graph := by
        rw [heq, graph_foldl_recomputeAt]
      unfold isAffectedBy at haffected ⊢
      rwa [hgraph]
    rw [heq, at?_foldl_recomputeAt fun hmem => hnotaffected (List.mem_filter.mp hmem).2,
      at?_rescan_of_ne hji, hp]

end Network

end Placeholders
