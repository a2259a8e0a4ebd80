import Placeholders.Proofs.Network.References

/-!
# A network in use against one that is built anew

What is kept in step by assignments is compared with what building comes to over the same records.

* Building closes no cycle exactly if the references have none (`told_eq_nil_iff`).
* Two networks that differ in expanded values at most, have the same edges, and are up to date, have the
  same expanded values: these are determined from the inside out (`at?_eq_of_upToDate`).
* Hence a network in use is what building would make of it, once the references have no cycle, unless a
  placeholder still bears the trace of one (`rebuild_of_acyclic`). A placeholder that has closed a cycle
  has no edges until it is scanned again; that the others have changed does not bring them back
  (`traces_remain`).
-/

namespace Placeholders.Network

open Relation

/-! ## 1. Cycles of references -/

/-- Where references make no cycle, no scan closes one. -/
theorem told_scanAll_eq_nil {net : Network} (hnet : net.Regular)
    (hacyclic : ∀ i, ¬ TransGen net.Refers i i) (hedges : ∀ i j, net.graph.Edge i j → net.Refers i j)
    {l : List Nat} (hl : ∀ i ∈ l, i < net.graph.size) : (net.scanAll l).2 = [] := by
  induction l generalizing net with
  | nil => rfl
  | cons i l ih =>
      obtain ⟨hi, hl⟩ := List.forall_mem_cons.mp hl
      have hrecursive : net.RecursiveAt i := by
        intro j hedge
        obtain ⟨_, p, _, hp, _, hallow, _⟩ := hedges i j hedge
        exact ⟨p, hp, hallow⟩
      have hnone : (net.rescan i).1 = none := by
        by_contra hbroken
        obtain ⟨a, hwalk⟩ := exists_cycle_of_rescan hnet hi hrecursive hbroken
        refine hacyclic a (TransGen.mono (fun c d h => ?_) a a hwalk)
        by_cases hc : c = i
        · simpa [hc] using h
        · exact hedges c d (by simpa [hc] using h)
      obtain ⟨hregular, hsize, halike, hother⟩ := regular_rescan hnet hi
      have hrefers := refers_of_alikeTo halike
      have hrest : ((net.rescan i).2.scanAll l).2 = [] := by
        refine ih hregular (fun a hwalk => hacyclic a ?_) (fun c d hedge => ?_)
          fun j hj => hsize ▸ hl j hj
        · exact TransGen.mono (fun c d => (hrefers c d).mp) a a hwalk
        · rw [hrefers]
          by_cases hc : c = i
          · subst hc
            exact ((edge_rescan_self hnet hi hrecursive d).mp hedge).1
          · exact hedges c d ((hother c d hc).mp hedge)
      rw [scanAll]
      simp only [hnone, hrest]
      rfl

/-- The references of a network are those of one that is built over the same records. -/
theorem refers_build (net : Network) (i j : Nat) :
    (build net.registry).1.Refers i j ↔ net.Refers i j :=
  refers_of_alikeTo (regular_build net.registry).2 i j

/-- **Building closes no cycle exactly if the references have none.** -/
theorem told_eq_nil_iff {net : Network} (hdistinct : net.registry.names.Nodup) :
    (build net.registry).2 = [] ↔ ∀ i, ¬ TransGen net.Refers i i := by
  constructor
  · intro hnil i hwalk
    have h := referring_build hdistinct
    refine h.regular.acyclic i (TransGen.mono (fun c d href => ?_) i i hwalk)
    exact (h.edge_iff c d).mpr ⟨(refers_build net c d).mpr href, by rw [hnil]; rfl⟩
  · intro hacyclic
    obtain ⟨order, _, heq⟩ := build_eq net.registry
    rw [heq]
    refine told_scanAll_eq_nil (regular_discrete net.registry) hacyclic (fun i j hedge => ?_)
      fun i hi => by simpa using hi
    exact absurd hedge (Digraph.not_edge_discrete net.registry.size i j)

/-! ## 2. Expanded values -/

/-- **Expanded values are determined by raw values and edges**, if they are up to date and no placeholder
    refers to two others that share a token and differ in value. For a placeholder all this need hold only
    of itself and of what it depends on. -/
theorem at?_eq_of_upToDate {net other : Network} (hnet : net.Regular) (hother : other.Regular)
    (halike : net.registry.AlikeTo other.registry) {P : Nat → Prop}
    (hclosed : ∀ i j, P i → net.graph.Edge i j → P j)
    (hedges : ∀ i, P i → ∀ j, (other.graph.Edge i j ↔ net.graph.Edge i j))
    (hup : ∀ i, net.UpToDate i) (hup' : ∀ i, other.UpToDate i)
    (hclear : ∀ i, P i → Reference.Unambiguous (net.referents i)) {i : Nat} (hi : P i) :
    other.at? i = net.at? i := by
  have hvalues : ∀ k, P k → other.at? k = net.at? k := by
    refine hnet.induction fun i ih hi => halike.getElem?_eq fun p q hp hq => ?_
    obtain ⟨js, hjs, hpvalue⟩ := hup i p hp
    obtain ⟨ks, hks, hqvalue⟩ := hup' i q hq
    have htargets : (other.graph.targets i).Perm (net.graph.targets i) :=
      Digraph.targets_perm_of_edge_iff hother.consistent hnet.consistent (hedges i hi)
    have hinner : ks.filterMap other.at? = ks.filterMap net.at? := by
      refine List.filterMap_congr fun k hk => ?_
      have hedge : net.graph.Edge i k := (hedges i hi k).mp (hks.mem_iff.mp hk)
      exact ih k hedge (hclosed i k hi hedge)
    obtain ⟨p', hp', hraw⟩ := halike.exists_at hq
    obtain rfl := Option.some.inj (hp.symm.trans hp')
    have hcurrent : q.currentValue = p.currentValue := (congrArg (·.currentValue) hraw).symm
    have hsame : ∀ {ls : List Nat}, ls.Perm (net.graph.targets i) →
        Reference.expand (ls.filterMap net.at?) p.currentValue =
          Reference.expand (net.referents i) p.currentValue := fun hls =>
      (Reference.expand_perm (hls.symm.filterMap net.at?) (hclear i hi) p.currentValue).symm
    rw [hqvalue, hpvalue, hinner, hcurrent, hsame (hks.trans htargets), hsame hjs]
  exact hvalues i hi

/-! ## 3. In use and built anew -/

/-- **A network in use is what building would make of it**, but for what its latest scans have dropped.
    Suppose that the references have no cycle at present. Then the placeholders whose latest scan has
    closed one lack their edges, and no others do. A placeholder has the value that building would give
    it, if no such scan is among those of itself and of all that it refers to, directly or not, and if
    none of these refers to two others that share a token and differ in value. -/
theorem rebuild_of_acyclic {r : Registry} (hdistinct : r.names.Nodup) (edits : List (String × String)) :
    let net := (build r).1.assignAll edits
    let fresh := (build net.registry).1
    (∀ i, ¬ TransGen net.Refers i i) →
      (∀ i j, net.graph.Edge i j ↔ fresh.graph.Edge i j ∧ isBroken r edits (net.nameAt i) = false) ∧
      ((∀ i j, net.graph.Edge i j ↔ fresh.graph.Edge i j) ↔
        ∀ name ∈ net.registry.names, isBroken r edits name = false) ∧
      ∀ i, (∀ k, ReflTransGen net.Refers i k → isBroken r edits (net.nameAt k) = false ∧
        Reference.Unambiguous (net.referents k)) → fresh.at? i = net.at? i := by
  intro net fresh hacyclic
  have hnet := referring_assignAll hdistinct edits
  have hfresh := referring_build hnet.distinct
  have hnil : (build net.registry).2 = [] := (told_eq_nil_iff hnet.distinct).mpr hacyclic
  have hrefers : ∀ i j, fresh.graph.Edge i j ↔ net.Refers i j := by
    intro i j
    rw [hfresh.edge_iff, refers_build net, hnil]
    exact and_iff_left rfl
  have hkept : ∀ i j, net.graph.Edge i j ↔
      fresh.graph.Edge i j ∧ isBroken r edits (net.nameAt i) = false := by
    intro i j
    rw [hrefers]
    exact hnet.edge_iff i j
  have hedges : (∀ i j, net.graph.Edge i j ↔ fresh.graph.Edge i j) ↔
      ∀ name ∈ net.registry.names, isBroken r edits name = false := by
    constructor
    · intro hall name hname
      obtain ⟨i, hi, rfl⟩ := exists_nameAt_of_mem hname
      by_contra hbroken
      obtain ⟨j, hj⟩ := hnet.refers i hi (by simpa using hbroken)
      exact hbroken ((hkept i j).mp ((hall i j).mpr ((hrefers i j).mpr hj))).2
    · intro hall i j
      refine (hkept i j).trans (and_iff_left_of_imp fun hedge => ?_)
      exact hall _ (nameAt_mem ((hrefers i j).mp hedge).source_lt)
  refine ⟨hkept, hedges, fun i hi => ?_⟩
  refine at?_eq_of_upToDate hnet.regular hfresh.regular (regular_build net.registry).2
    (P := fun k => ReflTransGen net.Refers i k) (fun k j hk hedge => ?_) (fun k hk j => ?_) ?_
    (upToDate_build net.registry) (fun k hk => (hi k hk).2) .refl
  · exact hk.tail ((hrefers k j).mp ((hkept k j).mp hedge).1)
  · rw [hkept]
    exact (and_iff_left (hi k hk).1).symm
  · exact upToDate_assignAll (regular_build r).1 (upToDate_build r) edits

/-- Both placeholders refer to each other for a while; when they no longer do, the one that closed the
    cycle is assigned its value once more. -/
theorem rebuild_of_looped :
    let net := (build looped).1.assignAll [("B", "b(xAx)"), ("A", "a"), ("B", "b(xAx)")]
    let fresh := (build net.registry).1
    looped.names.Nodup ∧ (∀ i, ¬ TransGen net.Refers i i) ∧
      (∀ i j, net.graph.Edge i j ↔ fresh.graph.Edge i j) ∧ fresh.at? 0 = net.at? 0 ∧
      fresh.at? 1 = net.at? 1 := by
  intro net fresh
  have hdistinct : looped.names.Nodup := by decide
  have hacyclic : ∀ i, ¬ TransGen net.Refers i i :=
    (told_eq_nil_iff (by decide +kernel)).mp (by decide +kernel)
  have hscans : ∀ name ∈ net.registry.names,
      isBroken looped [("B", "b(xAx)"), ("A", "a"), ("B", "b(xAx)")] name = false := by decide +kernel
  have hfew : ∀ k < 2, (net.referents k).length ≤ 1 := by decide +kernel
  have hsize : net.registry.size = 2 := by decide +kernel
  have hclear : ∀ i < 2, ∀ k, ReflTransGen net.Refers i k →
      isBroken looped [("B", "b(xAx)"), ("A", "a"), ("B", "b(xAx)")] (net.nameAt k) = false ∧
        Reference.Unambiguous (net.referents k) := by
    intro i hi k hwalk
    have hk : k < net.registry.size := by
      rcases hwalk.cases_tail with rfl | ⟨_, _, hlast⟩
      · rwa [hsize]
      · exact hlast.target_lt
    exact ⟨hscans _ (nameAt_mem hk),
      Reference.unambiguous_of_length_le_one (hfew k (hsize ▸ hk))⟩
  obtain ⟨_, hedges, hvalues⟩ := rebuild_of_acyclic hdistinct _ hacyclic
  exact ⟨hdistinct, hacyclic, hedges.mpr hscans, hvalues 0 (hclear 0 (by decide)),
    hvalues 1 (hclear 1 (by decide))⟩

/-- **A cycle leaves a trace**: a placeholder that has closed one has no edges, although nothing refers to
    it any more. And where two references share a token, the one that counts depends on what has been
    assigned before. -/
theorem traces_remain :
    (let net := (build looped).1.assignAll [("B", "b(xAx)"), ("A", "a")]
     let fresh := (build net.registry).1
     (∀ i, ¬ TransGen net.Refers i i) ∧ ¬ net.graph.Edge 1 0 ∧ fresh.graph.Edge 1 0 ∧
       (net.at? 1).map (·.expandedValue) = some "b(xAx)" ∧
       (fresh.at? 1).map (·.expandedValue) = some "b(a)") ∧
    (let edits := [("TOP", "plain"), ("PORT", "81")]
     let net := (build contested).1.assignAll edits
     let fresh := (build net.registry).1
     (∀ i, ¬ TransGen net.Refers i i) ∧
       (∀ name ∈ net.registry.names, isBroken contested edits name = false) ∧
       (net.at? 1).map (·.expandedValue) = some "81" ∧
       (fresh.at? 1).map (·.expandedValue) = some "443") := by
  refine ⟨⟨?_, ?_, ?_, ?_, ?_⟩, ?_, ?_, ?_, ?_⟩
  · exact (told_eq_nil_iff (by decide +kernel)).mp (by decide +kernel)
  · rw [← Digraph.hasEdge_iff]
    decide +kernel
  · rw [← Digraph.hasEdge_iff]
    decide +kernel
  · decide +kernel
  · decide +kernel
  · exact (told_eq_nil_iff (by decide +kernel)).mp (by decide +kernel)
  · decide +kernel
  · decide +kernel
  · decide +kernel

end Placeholders.Network
