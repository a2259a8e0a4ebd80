import Placeholders.Proofs.Network.Cycles
import Placeholders.Proofs.Network.Queries

/-!
# Recomputation

Bringing expanded values up to date never fails in a network that is in use, and comes to the same in
whatever order it is done.

* An order is `InnerFirst` if it has every node once, behind all that the node refers to. A graph without
  cycles has such an order, and the network finds one.
* Without cycles, values that have been made anew are determined by where that has been done
  (`Recomputed.unique`): the order leaves no trace.
* The graph has no cycle where recomputing begins, since the scan before it has just opened the one that
  it closed. So no error of the order takes the place of the report, and what is reported has been repaired
  (`opened_valueChanged`).
* `recomputation_never_fails` says this of every network that a run can lead to.
-/

namespace Placeholders.Network

open Relation

variable {net : Network} {name : String} {i : Nat}

/-! ## 1. Orders -/

/-- Every node once, behind all that it refers to. -/
structure InnerFirst (net : Network) (order : List Nat) : Prop where
  perm : order.Perm (List.range net.graph.size)
  behind : ∀ front i rest, order = front ++ i :: rest → ∀ j, net.graph.Edge i j → j ∈ front

theorem InnerFirst.pairwise {order : List Nat} (h : net.InnerFirst order) :
    order.Pairwise fun earlier later => ¬ net.graph.Edge earlier later := by
  have hnodup : order.Nodup := h.perm.nodup_iff.mpr List.nodup_range
  rw [List.pairwise_iff_forall_sublist]
  intro i j hsub hedge
  obtain ⟨front, rest, rfl, hi, hj⟩ := List.cons_sublist_iff.mp hsub
  obtain ⟨before, after, rfl⟩ := List.append_of_mem hi
  have hfront : j ∈ before := h.behind before i (after ++ rest) (by simp) j hedge
  exact (List.nodup_append.mp hnodup).2.2 j (List.mem_append_left _ hfront) j
    (List.singleton_sublist.mp hj) rfl

/-- In a regular network this is what an order is. -/
theorem innerFirst_iff (hnet : net.Regular) {order : List Nat} :
    net.InnerFirst order ↔ Digraph.IsOrder net.graph.targets net.graph.size order := by
  constructor
  · intro h
    exact ⟨h.perm.nodup_iff.mpr List.nodup_range, fun a => h.perm.mem_iff.trans List.mem_range,
      h.pairwise⟩
  · intro h
    refine ⟨(List.perm_ext_iff_of_nodup h.nodup List.nodup_range).mpr fun a => ?_,
      fun front i rest hsplit j hedge => ?_⟩
    · exact (h.mem_iff a).trans List.mem_range.symm
    · exact h.mem_front hnet.leads_lt hnet.acyclic.irrefl hsplit hedge

theorem exists_order (hnet : net.Regular) : ∃ order, net.order = .ok order ∧ net.InnerFirst order := by
  obtain ⟨order, horder, hisOrder⟩ := Digraph.exists_order? hnet.leads_lt hnet.acyclic
  refine ⟨order, ?_, (innerFirst_iff hnet).mpr hisOrder⟩
  rw [Network.order, horder]

/-! ## 2. Values made anew -/

theorem Recomputed.congr {stale stale' : Nat → Prop} {after : Network} (h : net.Recomputed stale after)
    (hiff : ∀ i, stale i ↔ stale' i) : net.Recomputed stale' after :=
  (funext fun i => propext (hiff i) : stale = stale') ▸ h

/-- **Values made anew are determined** by the positions that they are made anew at: each of them depends
    on inner ones only. -/
theorem Recomputed.unique (hnet : net.Regular) {stale : Nat → Prop} {after other : Network}
    (h : net.Recomputed stale after) (k : net.Recomputed stale other) : other = after := by
  have halike : after.registry.AlikeTo other.registry := h.alike.symm.trans k.alike
  have hat : ∀ i, other.at? i = after.at? i := by
    refine hnet.induction fun i ih => ?_
    by_cases hi : stale i
    · refine halike.getElem?_eq fun p q hp hq => ?_
      obtain ⟨p', hp', hraw⟩ := halike.exists_at hq
      obtain rfl := Option.some.inj (hp.symm.trans hp')
      have hcurrent : q.currentValue = p.currentValue := (congrArg (·.currentValue) hraw).symm
      have hreferents : other.referents i = after.referents i := by
        rw [referents, referents, k.graph, h.graph]
        exact List.filterMap_congr fun j hj => ih j hj
      rw [k.value i q hi hq, h.value i p hi hp, hreferents, hcurrent]
    · rw [k.rest i hi, h.rest i hi]
  obtain ⟨⟨placeholders, settings, catalog⟩, graph⟩ := after
  obtain ⟨⟨placeholders', settings', catalog'⟩, graph'⟩ := other
  obtain rfl : placeholders' = placeholders := List.ext_getElem? hat
  obtain rfl : settings' = settings := halike.settings
  obtain rfl : catalog' = catalog := halike.catalog
  obtain rfl : graph' = graph := k.graph.trans h.graph.symm
  rfl

/-- Values are made anew along an order of all positions, with those left out that need it not. -/
theorem recomputed_foldl_filter (hnet : net.Regular) {order : List Nat}
    (horder : Digraph.IsOrder net.graph.targets net.graph.size order) (stale : Nat → Bool) :
    net.Recomputed (stale · = true) ((order.filter stale).foldl recomputeAt net) := by
  obtain ⟨hgraph, halike, hvalue, hrest⟩ := recomputed_foldl hnet.acyclic.irrefl
    (horder.nodup.filter stale) (horder.inner_first.filter stale)
  refine ⟨hgraph, halike, fun i p hi hp => hvalue i p ?_ hp,
    fun i hi => hrest i fun hmem => hi (List.mem_filter.mp hmem).2⟩
  refine List.mem_filter.mpr ⟨(horder.mem_iff i).mpr ?_, hi⟩
  rw [hnet.size_eq, ← halike.size_eq]
  exact (List.getElem?_eq_some_iff.mp hp).1

/-! ## 3. Recomputing -/

/-- Recomputing some positions of a regular network ends well. -/
theorem exists_recomputeWhere (hnet : net.Regular) (stale : Nat → Bool) :
    ∃ after, net.recomputeWhere stale = .ok after ∧ net.Recomputed (stale · = true) after := by
  obtain ⟨order, horder, heq⟩ := recomputeWhere_eq hnet stale
  exact ⟨_, heq, recomputed_foldl_filter hnet horder stale⟩

/-- **Any order that has inner ones first will do**: whichever is found, the outcome is the same. -/
theorem recomputeWhere_eq_of_innerFirst (hnet : net.Regular) {order : List Nat}
    (horder : net.InnerFirst order) (stale : Nat → Bool) :
    net.recomputeWhere stale = .ok ((order.filter stale).foldl recomputeAt net) := by
  obtain ⟨after, heq, hafter⟩ := exists_recomputeWhere hnet stale
  have hdone := recomputed_foldl_filter hnet ((innerFirst_iff hnet).mp horder) stale
  rw [heq, hafter.unique hnet hdone]

/-- **Recomputing a known name ends well**: its value and, if asked for, those of all that depend on it are
    made anew. -/
theorem exists_recompute (hnet : net.Regular) (hi : net.position name = .ok i) (recursive : Bool) :
    ∃ after, net.recompute name recursive = .ok after ∧
      net.Recomputed (fun j => j = i ∨ recursive = true ∧ TransGen net.graph.Edge j i) after := by
  cases recursive with
  | false =>
      have hself : net.Recomputed (· ∈ [i]) (net.recomputeAt i) :=
        recomputed_foldl hnet.acyclic.irrefl (List.nodup_singleton i) (List.pairwise_singleton _ i)
      refine ⟨net.recomputeAt i, ?_, hself.congr fun j => by simp⟩
      rw [recompute, hi]
      rfl
  | true =>
      obtain ⟨after, heq, hafter⟩ := exists_recomputeWhere hnet (net.isAffectedBy i)
      refine ⟨after, ?_, hafter.congr fun j => by simp [isAffectedBy_iff hnet]⟩
      rw [recompute, hi]
      exact heq

/-! ## 4. Following a change -/

/-- What a change that is followed makes anew, when its position has been scanned. -/
theorem recomputed_valueChanged (hnet : net.Regular) (hi : net.position name = .ok i) :
    (net.rescan i).2.Recomputed
      (fun j => j = i ∨ TransGen (net.valueChanged name).2.graph.Edge j i) (net.valueChanged name).2 := by
  obtain ⟨order, horder, heq, _⟩ := valueChanged_of_ok hnet hi
  have hregular := (regular_rescan hnet (hnet.size_eq ▸ position_lt hi)).1
  have hdone := recomputed_foldl_filter hregular horder ((net.rescan i).2.isAffectedBy i)
  rw [← heq] at hdone
  refine hdone.congr fun j => ?_
  rw [isAffectedBy_iff hregular, hdone.graph]

/-- The references at a position have been dropped, and all others kept: there is no cycle, and the
    expanded value there is the raw one. -/
structure Opened (net : Network) (i : Nat) (after : Network) : Prop where
  edge_iff : ∀ c d, after.graph.Edge c d ↔ net.graph.Edge c d ∧ c ≠ i
  acyclic : after.graph.Acyclic
  value : ∀ p, after.at? i = some p → p.expandedValue = p.currentValue

/-- **What is reported has been repaired.** -/
theorem opened_valueChanged (hnet : net.Regular) (hi : net.position name = .ok i) {e : GraphError}
    (h : (net.rescan i).1 = some e) : net.Opened i (net.valueChanged name).2 := by
  obtain ⟨hfit, _, hscanned⟩ := scan_spec hnet.fitting (hnet.size_eq ▸ position_lt hi)
  have hdone := recomputed_valueChanged hnet hi
  have hedge : ∀ c d, (net.valueChanged name).2.graph.Edge c d ↔ net.graph.Edge c d ∧ c ≠ i := by
    intro c d
    cases hcycle : (net.scan i).cycle? with
    | none =>
        rw [rescan_of_none hcycle] at h
        cases h
    | some cycle =>
        rw [hdone.graph, rescan_of_some hcycle, (isolate_spec hfit i).2.2]
        exact and_congr_left fun hc => hscanned c d hc
  refine ⟨hedge, (regular_valueChanged hnet name).1.acyclic, fun p hp => ?_⟩
  have hnone : (net.valueChanged name).2.graph.targets i = [] :=
    List.eq_nil_iff_forall_not_mem.mpr fun d hd => ((hedge i d).mp hd).2 rfl
  rw [hdone.value i p (.inl rfl) hp, referents, hnone]
  exact Reference.expand_nil _

/-- **Following the change of a known name ends well, or with a cycle through its position** that the scan
    has closed and that has been opened. -/
theorem answer_valueChanged (hnet : net.Regular) (hi : net.position name = .ok i) :
    (net.valueChanged name).1 = .ok () ∧ (net.valueChanged name).2.graph = (net.scan i).graph ∧
        (net.scan i).graph.Acyclic ∨
      ∃ cycle, (net.valueChanged name).1 = .error (.cycleDetected name (net.namesAt cycle)) ∧
        Digraph.IsCycle (net.scan i).graph.targets cycle ∧ i ∈ cycle ∧
        net.Opened i (net.valueChanged name).2 := by
  have hlt : i < net.graph.size := hnet.size_eq ▸ position_lt hi
  obtain ⟨_, _, _, hanswer⟩ := valueChanged_of_ok hnet hi
  cases hscan : (net.rescan i).1 with
  | none =>
      rw [hscan] at hanswer
      have hacyclic := (rescan_eq_none_iff hnet hlt).mp hscan
      refine .inl ⟨hanswer, ?_, hacyclic⟩
      have hnone : (net.scan i).cycle? = none :=
        (Digraph.cycle?_eq_none_iff fun _ _ hedge =>
          (scan_spec hnet.fitting hlt).1.consistent.target_lt hedge).mpr hacyclic
      rw [(recomputed_valueChanged hnet hi).graph, rescan_of_none hnone]
  | some e =>
      rw [hscan] at hanswer
      obtain ⟨cycle, rfl, hcycle, hmem⟩ := reports_rescan hnet hlt hscan
      obtain ⟨p, hp, hname⟩ := exists_at_position hi
      have hnames : (net.scan i).nameAt = net.nameAt := by
        funext j
        rw [nameAt, at?_scan, nameAt]
      refine .inr ⟨cycle, ?_, hcycle, hmem, opened_valueChanged hnet hi hscan⟩
      rw [hanswer, namesAt, hnames, nameAt_eq hp, hname]
      rfl

/-! ## 5. Any point of any run -/

/-- **Recomputation never fails.** Building recomputes everything, and tells only what its scans have told.
    Take then the graph of any run and any records of its placeholders. An order of all placeholders is
    found that has each behind all it refers to, and recomputing along any other such order comes to the
    same. For a known name recomputing ends well, with its value and, if asked for, the values of all that
    depend on it made anew. Following the change of a known name makes these anew in any case; it ends well,
    or with the report of a cycle under this name, which its scan has closed and which is open again. An
    unknown name is the only other error, and changes nothing. -/
theorem recomputation_never_fails {r records : Registry} (hnames : records.names = r.names)
    (steps : List Step) :
    let net : Network := ⟨records, ((build r).1.run steps).graph⟩
    (∃ built, (scanned r).1.recomputeWhere (fun _ => true) = .ok built ∧
      build r = (built, (scanned r).2)) ∧
    (∃ order, net.order = .ok order ∧ net.InnerFirst order ∧ (net.namesAt order).Perm r.names) ∧
    (∀ order, net.InnerFirst order → ∀ stale,
      net.recomputeWhere stale = .ok ((order.filter stale).foldl recomputeAt net)) ∧
    (∀ name ∈ r.names, ∃ i, net.position name = .ok i ∧
      (∀ recursive, ∃ after, net.recompute name recursive = .ok after ∧
        net.Recomputed (fun j => j = i ∨ recursive = true ∧ TransGen net.graph.Edge j i) after) ∧
      let after := (net.valueChanged name).2
      (net.rescan i).2.Recomputed (fun j => j = i ∨ TransGen after.graph.Edge j i) after ∧
      ((net.valueChanged name).1 = .ok () ∧ after.graph = (net.scan i).graph ∧
          (net.scan i).graph.Acyclic ∨
        ∃ cycle, (net.valueChanged name).1 = .error (.cycleDetected name (net.namesAt cycle)) ∧
          Digraph.IsCycle (net.scan i).graph.targets cycle ∧ i ∈ cycle ∧ net.Opened i after)) ∧
    ∀ name ∉ r.names,
      (∀ recursive, net.recompute name recursive = .error (.unknownPlaceholder name)) ∧
      net.valueChanged name = (.error (.unknownPlaceholder name), net) := by
  intro net
  have hnet : net.Regular := regular_records hnames steps
  refine ⟨?_, ?_, fun order horder stale => recomputeWhere_eq_of_innerFirst hnet horder stale,
    fun name hname => ?_, fun name hname => ?_⟩
  · obtain ⟨order, horder, hbuild⟩ := build_eq r
    have hregular := (regular_scanned r).1
    refine ⟨_, ?_, hbuild⟩
    rw [recomputeWhere_eq_of_innerFirst hregular ((innerFirst_iff hregular).mpr horder), List.filter_true]
  · obtain ⟨order, horder, hinner⟩ := exists_order hnet
    have hperm : (net.namesAt order).Perm net.registry.names :=
      namesAt_range hnet ▸ hinner.perm.map net.nameAt
    exact ⟨order, horder, hinner, hnames ▸ hperm⟩
  · obtain ⟨i, hi⟩ : ∃ i, net.position name = .ok i := exists_position (hnames.symm ▸ hname)
    exact ⟨i, hi, exists_recompute hnet hi, recomputed_valueChanged hnet hi, answer_valueChanged hnet hi⟩
  · have hunknown : net.position name = .error (.unknownPlaceholder name) := by
      rw [position, Registry.indexOf?_eq_none_iff.mpr (hnames.symm ▸ hname)]
    refine ⟨fun recursive => ?_, valueChanged_of_error hunknown⟩
    rw [recompute, hunknown]
    rfl

/-- The second placeholder closes a cycle with the first one, which has been followed before. -/
theorem recomputation_never_fails_of_looped :
    let records := looped.modify "B" fun p => { p with currentValue := "b(xAx)" }
    let net : Network := ⟨records, ((build looped).1.run [.follow "A"]).graph⟩
    records.names = looped.names ∧ net.order = .ok [1, 0] ∧ net.InnerFirst [1, 0] ∧
    (∃ after, net.recompute "B" true = .ok after ∧
      net.Recomputed (fun j => j = 1 ∨ TransGen net.graph.Edge j 1) after) ∧
    (net.valueChanged "B").1 = .error (.cycleDetected "B" ["A", "B", "A"]) ∧
    net.Opened 1 (net.valueChanged "B").2 ∧
    ((net.valueChanged "B").2.at? 0).map (·.expandedValue) = some "a(b(xAx))" := by
  intro records net
  have hnames : records.names = looped.names := by decide +kernel
  have horder : net.order = .ok [1, 0] := by decide +kernel
  have hposition : net.position "B" = .ok 1 := by decide +kernel
  have hanswer : (net.valueChanged "B").1 = .error (.cycleDetected "B" ["A", "B", "A"]) := by
    decide +kernel
  obtain ⟨_, ⟨order, hfound, hinner, _⟩, _, hknown, _⟩ :=
    recomputation_never_fails hnames [.follow "A"]
  obtain rfl : order = [1, 0] := Except.ok.inj (hfound.symm.trans horder)
  obtain ⟨i, hi, hrecompute, _, hfollowed⟩ := hknown "B" (by decide)
  obtain rfl : i = 1 := Except.ok.inj (hi.symm.trans hposition)
  obtain ⟨after, hafter, hdone⟩ := hrecompute true
  have hall := hdone.congr fun j => or_congr_right (and_iff_right rfl)
  refine ⟨hnames, horder, hinner, ⟨after, hafter, hall⟩, hanswer, ?_, by decide +kernel⟩
  rcases hfollowed with ⟨hfine, _⟩ | ⟨_, _, _, _, hopened⟩
  · rw [hanswer] at hfine
    cases hfine
  · exact hopened

end Placeholders.Network
