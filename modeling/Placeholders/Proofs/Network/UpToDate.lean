import Placeholders.Proofs.Network.Regular
import Placeholders.Proofs.Reference

/-!
# Values that are up to date

* A position is `UpToDate` if its expanded value is what its references give now, taken in some order.
* Positions are `Recomputed` if their values, and nothing else, have been made anew. Bringing positions up
  to date one after the other, each after those it refers to, comes to this (`recomputed_foldl`).
* So it leaves every one of them up to date, and spoils no other that does not refer to any of them
  (`upToDate_foldl`).
* Following a change touches the changed position and all that depend on it. What is left out refers to
  none of these, so all of the network is up to date again (`upToDate_valueChanged`).
* The order in which references are taken is the present one, unless that is no longer the one in which
  they were taken then. Clearing the references of one position can rearrange those of another, which
  is seen where two references share a token (`present_order_fails`).
-/

namespace Placeholders.Network

/-! ## 1. Up to date -/

/-- The placeholders that a position refers to, in the present order. -/
def referents (net : Network) (i : Nat) : List Placeholder :=
  (net.graph.targets i).filterMap net.at?

/-- The expanded value at a position is what its references give now, taken in some order. -/
def UpToDate (net : Network) (i : Nat) : Prop :=
  ∀ p, net.at? i = some p → ∃ js : List Nat, js.Perm (net.graph.targets i) ∧
    p.expandedValue = Reference.expand (js.filterMap net.at?) p.currentValue

/-- A position stays up to date as long as nothing happens to it, its references, and what they lead
    to. -/
theorem UpToDate.congr {net other : Network} {i : Nat} (h : net.UpToDate i)
    (hself : other.at? i = net.at? i) (hperm : (net.graph.targets i).Perm (other.graph.targets i))
    (htargets : ∀ j, net.graph.Edge i j → other.at? j = net.at? j) : other.UpToDate i := by
  intro p hp
  obtain ⟨js, hjs, heq⟩ := h p (hself ▸ hp)
  refine ⟨js, hjs.trans hperm, heq.trans ?_⟩
  congr 1
  exact List.filterMap_congr fun j hj => (htargets j (hjs.mem_iff.mp hj)).symm

/-! ## 2. One position -/

theorem at?_recomputeAt (net : Network) (i j : Nat) :
    (net.recomputeAt i).at? j =
      if i = j then (net.at? j).map fun p =>
        { p with expandedValue := Reference.expand (net.referents i) p.currentValue }
      else net.at? j := by
  exact net.registry.getElem?_modifyAt i j _

theorem at?_recomputeAt_of_ne {net : Network} {i j : Nat} (h : j ≠ i) :
    (net.recomputeAt i).at? j = net.at? j := by
  rw [at?_recomputeAt, if_neg (Ne.symm h)]

theorem at?_foldl_recomputeAt {net : Network} {l : List Nat} {j : Nat} (h : j ∉ l) :
    (l.foldl recomputeAt net).at? j = net.at? j := by
  induction l generalizing net with
  | nil => rfl
  | cons i l ih =>
      obtain ⟨hi, hrest⟩ := not_or.mp (mt List.mem_cons.mpr h)
      exact (ih hrest).trans (at?_recomputeAt_of_ne hi)

/-! ## 3. Several positions -/

/-- The expanded values at the stale positions are what the references there give; nothing else has
    changed. -/
structure Recomputed (net : Network) (stale : Nat → Prop) (after : Network) : Prop where
  graph : after.graph = net.graph
  alike : net.registry.AlikeTo after.registry
  value : ∀ i p, stale i → after.at? i = some p →
    p.expandedValue = Reference.expand (after.referents i) p.currentValue
  rest : ∀ i, ¬ stale i → after.at? i = net.at? i

/-- **Making values anew one after the other, inner ones first, makes all of them anew.** What comes after a
    position touches neither it nor what it refers to. -/
theorem recomputed_foldl {net : Network} (hirrefl : ∀ i, ¬ net.graph.Edge i i) {l : List Nat}
    (hnodup : l.Nodup) (hl : l.Pairwise fun earlier later => ¬ net.graph.Edge earlier later) :
    net.Recomputed (· ∈ l) (l.foldl recomputeAt net) := by
  refine ⟨graph_foldl_recomputeAt net l, alikeTo_foldl_recomputeAt net l, fun i p hi hp => ?_,
    fun i hi => at?_foldl_recomputeAt hi⟩
  obtain ⟨front, rest, rfl⟩ := List.append_of_mem hi
  rw [List.foldl_append, List.foldl_cons] at hp ⊢
  have hgraph : (front.foldl recomputeAt net).graph = net.graph := graph_foldl_recomputeAt net front
  generalize front.foldl recomputeAt net = made at hp hgraph ⊢
  have hlater : ∀ j ∈ rest, ¬ net.graph.Edge i j :=
    (List.pairwise_cons.mp (List.pairwise_append.mp hl).2.1).1
  have hself : i ∉ rest := (List.nodup_cons.mp (List.nodup_append.mp hnodup).2.1).1
  have hreferents : (rest.foldl recomputeAt (made.recomputeAt i)).referents i = made.referents i := by
    rw [referents, graph_foldl_recomputeAt, graph_recomputeAt]
    refine List.filterMap_congr fun j hj => ?_
    have hedge : net.graph.Edge i j := hgraph ▸ hj
    refine (at?_foldl_recomputeAt fun hmem => hlater j hmem hedge).trans (at?_recomputeAt_of_ne ?_)
    rintro rfl
    exact hirrefl j hedge
  rw [at?_foldl_recomputeAt hself, at?_recomputeAt, if_pos rfl] at hp
  obtain ⟨q, _, rfl⟩ := Option.map_eq_some_iff.mp hp
  rw [hreferents]

/-- **What is up to date after positions have been brought up to date in order**: these, and all that
    were before and refer to none of them. -/
theorem upToDate_foldl {net : Network} (hirrefl : ∀ i, ¬ net.graph.Edge i i) {l : List Nat}
    (hnodup : l.Nodup) (hl : l.Pairwise fun a b => ¬ net.graph.Edge a b) {i : Nat}
    (h : i ∈ l ∨ (net.UpToDate i ∧ ∀ a ∈ l, ¬ net.graph.Edge i a)) :
    (l.foldl recomputeAt net).UpToDate i := by
  have hdone := recomputed_foldl hirrefl hnodup hl
  by_cases hi : i ∈ l
  · exact fun p hp => ⟨_, .refl _, hdone.value i p hi hp⟩
  · obtain ⟨hup, hedge⟩ := h.resolve_left hi
    refine hup.congr (hdone.rest i hi) ?_ fun j hj => hdone.rest j fun hmem => hedge j hmem hj
    rw [hdone.graph]

/-- In a regular network only positions below the size of the graph hold anything. -/
theorem Regular.upToDate_of_le {net : Network} (hnet : net.Regular) {i : Nat}
    (hi : net.graph.size ≤ i) : net.UpToDate i := by
  intro p hp
  have hlt : i < net.registry.size := (List.getElem?_eq_some_iff.mp hp).1
  rw [← hnet.size_eq] at hlt
  exact absurd hlt (Nat.not_lt.mpr hi)

/-! ## 4. What depends on a position -/

theorem mem_closure_sources {net : Network} (hnet : net.Regular) {i j : Nat} :
    j ∈ Digraph.closure net.graph.size net.graph.sources i ↔
      j ≠ i ∧ Relation.TransGen net.graph.Edge j i := by
  have hsources : ∀ a b, Digraph.Leads net.graph.sources a b ↔ net.graph.Edge b a := fun a b =>
    hnet.consistent.mem_sources
  have hwalk : Relation.TransGen (Digraph.Leads net.graph.sources) i j ↔
      Relation.TransGen net.graph.Edge j i := by
    rw [← Relation.transGen_swap]
    exact iff_of_eq (congrArg (Relation.TransGen · j i) (by
      funext a b
      exact propext (hsources b a)))
  rw [Digraph.mem_closure fun a b h => ((hsources a b).mp h).source_lt, hwalk]

/-- Nothing leads back to itself, so a closure leaves out nothing. -/
theorem mem_closure_targets_iff {net : Network} (hnet : net.Regular) {i j : Nat} :
    j ∈ Digraph.closure net.graph.size net.graph.targets i ↔
      Relation.TransGen net.graph.Edge i j := by
  refine (Digraph.mem_closure hnet.leads_lt).trans (and_iff_right_of_imp ?_)
  rintro hwalk rfl
  exact hnet.acyclic j hwalk

theorem mem_closure_sources_iff {net : Network} (hnet : net.Regular) {i j : Nat} :
    j ∈ Digraph.closure net.graph.size net.graph.sources i ↔
      Relation.TransGen net.graph.Edge j i := by
  refine (mem_closure_sources hnet).trans (and_iff_right_of_imp ?_)
  rintro hwalk rfl
  exact hnet.acyclic j hwalk

theorem isAffectedBy_iff {net : Network} (hnet : net.Regular) {i j : Nat} :
    net.isAffectedBy i j = true ↔ j = i ∨ Relation.TransGen net.graph.Edge j i := by
  simp only [isAffectedBy, Bool.or_eq_true, beq_iff_eq, List.contains_iff_mem,
    mem_closure_sources hnet]
  by_cases hji : j = i <;> simp [hji]

/-- What refers to something affected is affected. -/
theorem isAffectedBy_of_edge {net : Network} (hnet : net.Regular) {i j k : Nat}
    (hk : net.isAffectedBy i k = true) (hedge : net.graph.Edge j k) :
    net.isAffectedBy i j = true := by
  rw [isAffectedBy_iff hnet] at hk ⊢
  rcases hk with rfl | hwalk
  · exact .inr (.single hedge)
  · exact .inr (.head hedge hwalk)

/-! ## 5. Following a change -/

theorem at?_rescan_of_ne {net : Network} {i j : Nat} (h : j ≠ i) :
    (net.rescan i).2.at? j = net.at? j := by
  cases hcycle : (net.scan i).cycle? with
  | none => rw [rescan_of_none hcycle, at?_scan]
  | some cycle =>
      rw [rescan_of_some hcycle]
      refine ((net.scan i).registry.getElem?_modifyAt i j _).trans ?_
      rw [if_neg (Ne.symm h), registry_scan]
      rfl

/-- **Following a change leaves a whole network up to date**, if all of it has been so but for the
    changed position and what refers to that. -/
theorem upToDate_valueChanged {net : Network} (hnet : net.Regular) {name : String} {i : Nat}
    (hi : net.position name = .ok i) (hup : ∀ j, j ≠ i → ¬ net.graph.Edge j i → net.UpToDate j)
    (j : Nat) : (net.valueChanged name).2.UpToDate j := by
  obtain ⟨order, horder, heq, _⟩ := valueChanged_of_ok hnet hi
  obtain ⟨hregular, _, _, hedges⟩ := regular_rescan hnet (hnet.size_eq ▸ position_lt hi)
  rw [heq]
  generalize hscanned : (net.rescan i).2 = scanned at *
  by_cases hj : j < scanned.graph.size
  · refine upToDate_foldl hregular.acyclic.irrefl (horder.nodup.filter _) (horder.inner_first.filter _) ?_
    by_cases haffected : scanned.isAffectedBy i j = true
    · exact .inl (List.mem_filter.mpr ⟨(horder.mem_iff j).mpr hj, haffected⟩)
    · have hne : j ≠ i := fun h => haffected ((isAffectedBy_iff hregular).mpr (.inl h))
      have hedge : ¬ scanned.graph.Edge j i := fun h =>
        haffected ((isAffectedBy_iff hregular).mpr (.inr (.single h)))
      refine .inr ⟨(hup j hne fun h => hedge ((hedges j i hne).mpr h)).congr ?_ ?_ ?_, ?_⟩
      · rw [← hscanned, at?_rescan_of_ne hne]
      · exact Digraph.targets_perm_of_edge_iff hnet.consistent hregular.consistent
          fun b => (hedges j b hne).symm
      · intro k hk
        rw [← hscanned, at?_rescan_of_ne]
        rintro rfl
        exact hedge ((hedges j k hne).mpr hk)
      · intro a ha hja
        exact haffected (isAffectedBy_of_edge hregular (List.mem_filter.mp ha).2 hja)
  · exact (regular_foldl_recomputeAt hregular _).upToDate_of_le (by simpa using hj)

/-! ## 6. Runs -/

/-- The registry with another raw value at a name. -/
def rawWritten (name value : String) (r : Registry) : Registry :=
  r.modify name fun p => { p with currentValue := value }

/-- A raw value is written at a name, and the change is followed, whatever that answers. -/
def assign (net : Network) (name value : String) : Network :=
  ((net.withRegistry (rawWritten name value)).valueChanged name).2

/-- Several values are assigned to names. -/
def assignAll (net : Network) (edits : List (String × String)) : Network :=
  edits.foldl (fun net edit => net.assign edit.1 edit.2) net

theorem position_eq_ok_iff {net : Network} {name : String} {i : Nat} :
    net.position name = .ok i ↔ net.registry.indexOf? name = some i := by
  unfold position
  cases net.registry.indexOf? name <;> simp

theorem upToDate_build (r : Registry) (i : Nat) : (build r).1.UpToDate i := by
  have hregular := (regular_scanned r).1
  obtain ⟨order, horder, heq⟩ := build_eq r
  rw [heq]
  by_cases hi : i < (scanned r).1.graph.size
  · exact upToDate_foldl hregular.acyclic.irrefl horder.nodup horder.inner_first
      (.inl ((horder.mem_iff i).mpr hi))
  · exact (regular_foldl_recomputeAt hregular _).upToDate_of_le (by simpa using hi)

/-- Something is written into the placeholder of a name, and the change is followed, whatever that
    answers. -/
def amend (net : Network) (name : String) (f : Placeholder → Placeholder) : Network :=
  ((net.withRegistry (·.modify name f)).valueChanged name).2

/-- What writing into the placeholder of a known name does before the change is followed. -/
theorem modify_spec {net : Network} (hnet : net.Regular) {name : String} {i : Nat}
    (hindex : net.registry.indexOf? name = some i) {f : Placeholder → Placeholder}
    (hf : ∀ p, (f p).name = p.name) :
    let written := net.withRegistry (·.modify name f)
    written.Regular ∧ written.position name = .ok i ∧
      written.registry.names = net.registry.names ∧
      written.at? i = (net.at? i).map f ∧ ∀ j, j ≠ i → written.at? j = net.at? j := by
  intro written
  have hwritten : written.registry = net.registry.modifyAt i f := by
    simp [written, withRegistry, Registry.modify, hindex]
  have hnames : written.registry.names = net.registry.names := by
    rw [hwritten]
    exact Registry.names_modifyAt _ i hf
  have hat : ∀ j, written.at? j = if i = j then (net.at? j).map f else net.at? j := by
    intro j
    unfold at?
    rw [hwritten, Registry.getElem?_modifyAt]
  refine ⟨hnet.withRegistry ?_, ?_, hnames, ?_, fun j hj => ?_⟩
  · change written.registry.size = net.registry.size
    simp [hwritten, Registry.modifyAt, Registry.size]
  · rw [position_eq_ok_iff, Registry.indexOf?_congr hnames, hindex]
  · rw [hat, if_pos rfl]
  · rw [hat, if_neg (Ne.symm hj)]

/-- What writing a raw value at a known name does before the change is followed. -/
theorem rawWritten_spec {net : Network} (hnet : net.Regular) {name : String} {i : Nat}
    (hindex : net.registry.indexOf? name = some i) (value : String) :
    let written := net.withRegistry (rawWritten name value)
    written.Regular ∧ written.position name = .ok i ∧
      written.registry.names = net.registry.names ∧
      written.at? i = (net.at? i).map (fun p => { p with currentValue := value }) ∧
      ∀ j, j ≠ i → written.at? j = net.at? j :=
  modify_spec hnet hindex fun _ => rfl

/-- Nothing is written at an unknown name. -/
theorem amend_of_unknown {net : Network} {name : String} (hindex : net.registry.indexOf? name = none)
    (f : Placeholder → Placeholder) : net.amend name f = net := by
  have hsame : net.withRegistry (·.modify name f) = net := by
    simp [withRegistry, Registry.modify, hindex]
  have hunknown : net.position name = .error (.unknownPlaceholder name) := by
    simp [position, hindex]
  rw [amend, hsame, valueChanged_of_error hunknown]

/-- Nothing is assigned to an unknown name. -/
theorem assign_of_unknown {net : Network} {name : String} (hindex : net.registry.indexOf? name = none)
    (value : String) : net.assign name value = net :=
  amend_of_unknown hindex fun p => { p with currentValue := value }

/-- **Following what is written keeps a network regular and up to date.** -/
theorem upToDate_amend {net : Network} (hnet : net.Regular) (hup : ∀ i, net.UpToDate i) (name : String)
    {f : Placeholder → Placeholder} (hf : ∀ p, (f p).name = p.name) :
    (net.amend name f).Regular ∧ ∀ i, (net.amend name f).UpToDate i := by
  cases hindex : net.registry.indexOf? name with
  | none =>
      rw [amend_of_unknown hindex]
      exact ⟨hnet, hup⟩
  | some i =>
      obtain ⟨hregular, hposition, _, _, hat⟩ := modify_spec hnet hindex hf
      refine ⟨(regular_valueChanged hregular name).1, upToDate_valueChanged hregular hposition ?_⟩
      intro j hj hedge
      refine (hup j).congr (hat j hj) (.refl _) fun k hk => hat k ?_
      rintro rfl
      exact hedge hk

/-- **Assigning a value keeps a network regular and up to date.** -/
theorem upToDate_assign {net : Network} (hnet : net.Regular) (hup : ∀ i, net.UpToDate i)
    (name value : String) :
    (net.assign name value).Regular ∧ ∀ i, (net.assign name value).UpToDate i :=
  upToDate_amend hnet hup name fun _ => rfl

theorem upToDate_assignAll {net : Network} (hnet : net.Regular) (hup : ∀ i, net.UpToDate i)
    (edits : List (String × String)) (i : Nat) : (net.assignAll edits).UpToDate i := by
  induction edits generalizing net with
  | nil => exact hup i
  | cons edit edits ih =>
      obtain ⟨hregular, hup'⟩ := upToDate_assign hnet hup edit.1 edit.2
      exact ih hregular hup'

/-- **At any point of any run every expanded value is what the references of the placeholder give now**,
    in some order of these, and in the present order unless two of them share a token and differ in
    value. -/
theorem expandedValue_eq_expand (r : Registry) (edits : List (String × String)) {i : Nat}
    {p : Placeholder} (hp : ((build r).1.assignAll edits).at? i = some p) :
    let net := (build r).1.assignAll edits
    (∃ js : List Nat, js.Perm (net.graph.targets i) ∧
      p.expandedValue = Reference.expand (js.filterMap net.at?) p.currentValue) ∧
    (Reference.Unambiguous (net.referents i) →
      p.expandedValue = Reference.expand (net.referents i) p.currentValue) := by
  intro net
  obtain ⟨js, hperm, heq⟩ :=
    upToDate_assignAll (regular_build r).1 (upToDate_build r) edits i p hp
  refine ⟨⟨js, hperm, heq⟩, fun hclear => heq.trans ?_⟩
  exact (Reference.expand_perm (hperm.symm.filterMap net.at?) hclear p.currentValue).symm

/-- The editable token of a port is the normal one of another. -/
def contested : Registry :=
  let settings : Settings := { editable := ⟨"x", "_Ex"⟩ }
  let textbox (name value : String) := Placeholder.ofKind name (.textbox ⟨.fixed value, []⟩) settings
  ⟨[textbox "TOP" "xMIDx", textbox "MID" "xPORT_Ex", textbox "PORT" "80", textbox "PORT_E" "443"],
    settings, .empty⟩

theorem expandedValue_of_top :
    let net := (build contested).1.assignAll [("TOP", "see xMIDx")]
    ∃ p, net.at? 0 = some p ∧ p.expandedValue = "see 443" ∧
      (∃ js : List Nat, js.Perm (net.graph.targets 0) ∧
        p.expandedValue = Reference.expand (js.filterMap net.at?) p.currentValue) ∧
      (Reference.Unambiguous (net.referents 0) →
        p.expandedValue = Reference.expand (net.referents 0) p.currentValue) := by
  intro net
  have hvalue : (net.at? 0).map (·.expandedValue) = some "see 443" := by decide +kernel
  obtain ⟨p, hp, hshown⟩ := Option.map_eq_some_iff.mp hvalue
  exact ⟨p, hp, hshown, expandedValue_eq_expand contested [("TOP", "see xMIDx")] hp⟩

/-- **The present order of references need not be the one that a value was made in.** The middle
    placeholder has shown the last of its two ports since the network was built; clearing the one
    reference to it moves that port to the front. -/
theorem present_order_fails :
    let net := (build contested).1.assignAll [("TOP", "plain")]
    ¬ ∀ i p, net.at? i = some p →
      p.expandedValue = Reference.expand (net.referents i) p.currentValue := by
  intro net hall
  have hvalues : (net.at? 1).map (fun p =>
      (p.expandedValue, Reference.expand (net.referents 1) p.currentValue)) = some ("443", "80") := by
    decide +kernel
  obtain ⟨p, hp, hpair⟩ := Option.map_eq_some_iff.mp hvalues
  obtain ⟨hshown, hnow⟩ := Prod.mk.inj hpair
  have hequal := hall 1 p hp
  rw [hshown, hnow] at hequal
  exact absurd hequal (by decide)

end Placeholders.Network
