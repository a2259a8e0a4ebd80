import Placeholders.Network
import Placeholders.Proofs.Digraph.Edges
import Placeholders.Proofs.Digraph.Traversal

/-!
# Regular networks

The invariant of a network and what its changes keep.

* A network is `Regular` if its graph is consistent, without cycles, and has a node for each position of
  the registry.
* What holds of a position as soon as it holds of all that the position refers to, holds everywhere
  (`Regular.induction`).
* A scan changes only the edges that leave the scanned position. So does opening a cycle, and then there
  are none left; that is why a network is regular again although only one position has been touched
  (`regular_rescan`).
* In a regular network there is always an order to bring expanded values up to date in, so that doing so
  cannot fail (`recomputeWhere_eq`).
* Registries that differ in expanded values only are `AlikeTo` each other. Following a change leads to
  such a registry.
-/

namespace Placeholders

/-! ## 1. Registries that differ in expanded values only -/

/-- A placeholder but for its expanded value. -/
def Placeholder.raw (p : Placeholder) : Placeholder := { p with expandedValue := "" }

theorem Placeholder.eq_of_raw_eq {p q : Placeholder} (hraw : q.raw = p.raw)
    (hvalue : q.expandedValue = p.expandedValue) : q = p := by
  calc q = { q.raw with expandedValue := q.expandedValue } := rfl
    _ = { p.raw with expandedValue := p.expandedValue } := by rw [hraw, hvalue]
    _ = p := rfl

namespace Registry

/-- The registries differ in expanded values only. -/
structure AlikeTo (r s : Registry) : Prop where
  raw : s.placeholders.map Placeholder.raw = r.placeholders.map Placeholder.raw
  settings : s.settings = r.settings
  catalog : s.catalog = r.catalog

theorem AlikeTo.refl (r : Registry) : r.AlikeTo r := ⟨rfl, rfl, rfl⟩

theorem AlikeTo.trans {r s t : Registry} (h : r.AlikeTo s) (k : s.AlikeTo t) : r.AlikeTo t :=
  ⟨k.raw.trans h.raw, k.settings.trans h.settings, k.catalog.trans h.catalog⟩

theorem AlikeTo.symm {r s : Registry} (h : r.AlikeTo s) : s.AlikeTo r :=
  ⟨h.raw.symm, h.settings.symm, h.catalog.symm⟩

theorem AlikeTo.size_eq {r s : Registry} (h : r.AlikeTo s) : s.size = r.size := by
  have := congrArg List.length h.raw
  simpa [size] using this

/-- What stands at a position differs at most in its expanded value. -/
theorem AlikeTo.exists_at {r s : Registry} (h : r.AlikeTo s) {i : Nat} {p : Placeholder}
    (hp : s.placeholders[i]? = some p) :
    ∃ q, r.placeholders[i]? = some q ∧ q.raw = p.raw := by
  have hi := congrArg (·[i]?) h.raw
  simp only [List.getElem?_map, hp, Option.map_some] at hi
  cases hq : r.placeholders[i]? with
  | none => rw [hq] at hi; cases hi
  | some q =>
      rw [hq] at hi
      exact ⟨q, rfl, (Option.some.inj hi).symm⟩

/-- Where expanded values are the same, registries that differ in them only do not differ. -/
theorem AlikeTo.getElem?_eq {r s : Registry} (h : r.AlikeTo s) {i : Nat}
    (hvalue : ∀ p q, r.placeholders[i]? = some p → s.placeholders[i]? = some q →
      q.expandedValue = p.expandedValue) : s.placeholders[i]? = r.placeholders[i]? := by
  cases hq : s.placeholders[i]? with
  | some q =>
      obtain ⟨p, hp, hraw⟩ := h.exists_at hq
      rw [hp, Placeholder.eq_of_raw_eq hraw.symm (hvalue p q hp hq)]
  | none =>
      cases hp : r.placeholders[i]? with
      | none => rfl
      | some p =>
          obtain ⟨q, hq', _⟩ := h.symm.exists_at hp
          rw [hq] at hq'
          cases hq'

theorem getElem?_modifyAt (r : Registry) (i j : Nat) (f : Placeholder → Placeholder) :
    (r.modifyAt i f).placeholders[j]? =
      if i = j then r.placeholders[j]?.map f else r.placeholders[j]? := by
  unfold modifyAt
  rw [List.getElem?_modify]
  split
  · rfl
  · simp

/-- A change at one position of nothing but the expanded value. -/
theorem alikeTo_modifyAt (r : Registry) (i : Nat) {f : Placeholder → Placeholder}
    (hf : ∀ p, (f p).raw = p.raw) : r.AlikeTo (r.modifyAt i f) := by
  refine ⟨List.ext_getElem? fun j => ?_, rfl, rfl⟩
  rw [List.getElem?_map, List.getElem?_map, getElem?_modifyAt]
  split
  · rw [Option.map_map]
    exact congrArg (Option.map · _) (funext hf)
  · rfl

theorem names_modifyAt (r : Registry) (i : Nat) {f : Placeholder → Placeholder}
    (hf : ∀ p, (f p).name = p.name) : (r.modifyAt i f).names = r.names := by
  refine List.ext_getElem? fun j => ?_
  unfold names
  rw [List.getElem?_map, List.getElem?_map, getElem?_modifyAt]
  split
  · rw [Option.map_map]
    exact congrArg (Option.map · _) (funext hf)
  · rfl

/-- Where a name stands depends on nothing but the names. -/
theorem indexOf?_congr {r s : Registry} (h : r.names = s.names) (name : String) :
    r.indexOf? name = s.indexOf? name := by
  have hnames : ∀ t : Registry, t.indexOf? name = t.names.findIdx? (· == name) := by
    intro t
    rw [names, List.findIdx?_map]
    rfl
  rw [hnames, hnames, h]

theorem indexOf?_lt {r : Registry} {name : String} {i : Nat} (h : r.indexOf? name = some i) :
    i < r.size := by
  unfold indexOf? at h
  exact (List.findIdx?_eq_some_iff_getElem.mp h).1

end Registry

namespace Network

/-! ## 2. The invariant -/

/-- The graph has a node for each position, fits together, and has no cycles. -/
structure Regular (net : Network) : Prop where
  size_eq : net.graph.size = net.registry.size
  consistent : net.graph.Consistent
  acyclic : net.graph.Acyclic

theorem Regular.leads_lt {net : Network} (h : net.Regular) (a b : Nat)
    (hlead : Digraph.Leads net.graph.targets a b) : b < net.graph.size :=
  h.consistent.target_lt hlead

/-- **What holds of a position as soon as it holds of all that the position refers to, holds of every
    position.** -/
theorem Regular.induction {net : Network} (hnet : net.Regular) {P : Nat → Prop}
    (hstep : ∀ i, (∀ j, net.graph.Edge i j → P j) → P i) (i : Nat) : P i := by
  obtain ⟨order, _, horder⟩ := Digraph.exists_order? hnet.leads_lt hnet.acyclic
  -- the induction is on the place in an order that has what is referred to first
  induction hplace : order.idxOf i using Nat.strongRecOn generalizing i with
  | ind n ih =>
      subst hplace
      refine hstep i fun j hedge => ih _ ?_ j rfl
      refine horder.idxOf_lt hedge.source_lt (hnet.consistent.target_lt hedge) ?_ hedge
      rintro rfl
      exact hnet.acyclic.irrefl i hedge

/-- A regular network stays regular when its registry is exchanged for one of the same size. -/
theorem Regular.withRegistry {net : Network} (h : net.Regular) {f : Registry → Registry}
    (hf : (f net.registry).size = net.registry.size) : (net.withRegistry f).Regular :=
  ⟨h.size_eq.trans hf.symm, h.consistent, h.acyclic⟩

/-- The graph fits together and has a node for each position; there may be cycles. -/
structure Fitting (net : Network) : Prop where
  size_eq : net.graph.size = net.registry.size
  consistent : net.graph.Consistent

theorem Regular.fitting {net : Network} (h : net.Regular) : net.Fitting :=
  ⟨h.size_eq, h.consistent⟩

/-! ## 3. Scanning -/

@[simp] theorem registry_scan (net : Network) (i : Nat) : (net.scan i).registry = net.registry := by
  unfold scan
  split
  · rfl
  · split <;> rfl

@[simp] theorem at?_scan (net : Network) (i j : Nat) : (net.scan i).at? j = net.at? j := by
  simp [at?]

theorem mem_referredBy_lt {net : Network} {i j : Nat} {value : String}
    (h : j ∈ net.referredBy i value) : j < net.graph.size :=
  List.mem_range.mp (List.mem_filter.mp h).1

theorem scan_of_not_recursive {net : Network} {i : Nat}
    (h : ∀ p, net.at? i = some p → p.allowRecursive = false) : net.scan i = net := by
  unfold scan
  cases hp : net.at? i with
  | none => rfl
  | some p => simp [h p hp]

theorem scan_of_recursive {net : Network} {i : Nat} {p : Placeholder} (hp : net.at? i = some p)
    (h : p.allowRecursive = true) :
    net.scan i = { net with graph :=
      (net.graph.clearTargets i).addTargets i (net.referredBy i p.currentValue) } := by
  simp [scan, hp, h]

/-- A scan finds the references anew where they may be, and changes nothing elsewhere. -/
theorem scan_spec {net : Network} (hnet : net.Fitting) {i : Nat} (hi : i < net.graph.size) :
    (net.scan i).Fitting ∧ (net.scan i).graph.size = net.graph.size ∧
      ∀ c d, c ≠ i → ((net.scan i).graph.Edge c d ↔ net.graph.Edge c d) := by
  by_cases hrecursive : ∃ p, net.at? i = some p ∧ p.allowRecursive = true
  · obtain ⟨p, hp, hp'⟩ := hrecursive
    rw [scan_of_recursive hp hp']
    have hsize := Digraph.size_clearTargets hnet.consistent i
    have hreferred : ∀ j ∈ net.referredBy i p.currentValue, j < (net.graph.clearTargets i).size :=
      fun j hj => by rw [hsize]; exact mem_referredBy_lt hj
    obtain ⟨hcons, hsize', hedge⟩ :=
      Digraph.addTargets_spec (hnet.consistent.clearTargets i) (by rwa [hsize]) hreferred
    refine ⟨⟨(hsize'.trans hsize).trans hnet.size_eq, hcons⟩, hsize'.trans hsize, fun c d hc => ?_⟩
    refine (hedge c d).trans ?_
    rw [Digraph.edge_clearTargets hnet.consistent]
    exact ⟨fun h => h.elim And.left fun h => absurd h.1 hc, fun h => .inl ⟨h, hc⟩⟩
  · rw [scan_of_not_recursive fun p hp => by simpa using fun h => hrecursive ⟨p, hp, h⟩]
    exact ⟨hnet, rfl, fun _ _ _ => Iff.rfl⟩

/-- Opening a cycle leaves the edges of all other positions, and no others. -/
theorem isolate_spec {net : Network} (hnet : net.Fitting) (i : Nat) :
    (net.isolate i).Fitting ∧ (net.isolate i).graph.size = net.graph.size ∧
      ∀ c d, (net.isolate i).graph.Edge c d ↔ net.graph.Edge c d ∧ c ≠ i := by
  have hsize := Digraph.size_clearTargets hnet.consistent i
  refine ⟨⟨hsize.trans ?_, hnet.consistent.clearTargets i⟩, hsize,
    Digraph.edge_clearTargets hnet.consistent i⟩
  rw [hnet.size_eq]
  simp [isolate, Registry.modifyAt, Registry.size]

theorem rescan_of_none {net : Network} {i : Nat} (h : (net.scan i).cycle? = none) :
    net.rescan i = (none, net.scan i) := by
  simp only [rescan, h]

theorem rescan_of_some {net : Network} {i : Nat} {cycle : List Nat}
    (h : (net.scan i).cycle? = some cycle) :
    net.rescan i = (some ((net.scan i).cycleError i cycle), (net.scan i).isolate i) := by
  simp only [rescan, h]

/-- **The graph is without cycles after a position has been scanned.** If the scan closes a cycle, the
    edges that are left were there before. -/
theorem regular_rescan {net : Network} (hnet : net.Regular) {i : Nat} (hi : i < net.graph.size) :
    (net.rescan i).2.Regular ∧ (net.rescan i).2.graph.size = net.graph.size ∧
      net.registry.AlikeTo (net.rescan i).2.registry ∧
      ∀ c d, c ≠ i → ((net.rescan i).2.graph.Edge c d ↔ net.graph.Edge c d) := by
  obtain ⟨hfit, hsize, hedge⟩ := scan_spec hnet.fitting hi
  cases hcycle : (net.scan i).cycle? with
  | none =>
      rw [rescan_of_none hcycle]
      have hacyclic : (net.scan i).graph.Acyclic :=
        (Digraph.cycle?_eq_none_iff fun a b h => hfit.consistent.target_lt h).mp hcycle
      refine ⟨⟨hfit.size_eq, hfit.consistent, hacyclic⟩, hsize, ?_, hedge⟩
      simp only [registry_scan]
      exact .refl _
  | some cycle =>
      rw [rescan_of_some hcycle]
      obtain ⟨hfit', hsize', hedge'⟩ := isolate_spec hfit i
      refine ⟨⟨hfit'.size_eq, hfit'.consistent, hnet.acyclic.mono fun c d h => ?_⟩,
        hsize'.trans hsize, ?_, fun c d hc => ?_⟩
      · obtain ⟨hscan, hc⟩ := (hedge' c d).mp h
        exact (hedge c d hc).mp hscan
      · have halike := (net.scan i).registry.alikeTo_modifyAt i
          (f := fun p => { p with expandedValue := p.currentValue }) fun _ => rfl
        rw [registry_scan] at halike
        simpa [isolate] using halike
      · refine (hedge' c d).trans ?_
        rw [hedge c d hc]
        exact ⟨And.left, fun h => ⟨h, hc⟩⟩

/-! ## 4. Bringing values up to date -/

@[simp] theorem graph_recomputeAt (net : Network) (i : Nat) : (net.recomputeAt i).graph = net.graph :=
  rfl

theorem alikeTo_recomputeAt (net : Network) (i : Nat) :
    net.registry.AlikeTo (net.recomputeAt i).registry :=
  net.registry.alikeTo_modifyAt i fun _ => rfl

@[simp] theorem graph_foldl_recomputeAt (net : Network) (l : List Nat) :
    (l.foldl recomputeAt net).graph = net.graph := by
  induction l generalizing net with
  | nil => rfl
  | cons i l ih => exact ih (net.recomputeAt i)

theorem alikeTo_foldl_recomputeAt (net : Network) (l : List Nat) :
    net.registry.AlikeTo (l.foldl recomputeAt net).registry := by
  induction l generalizing net with
  | nil => exact .refl _
  | cons i l ih => exact (net.alikeTo_recomputeAt i).trans (ih (net.recomputeAt i))

/-- **In a regular network expanded values can be brought up to date**: there is an order of all
    positions to do it in. -/
theorem recomputeWhere_eq {net : Network} (hnet : net.Regular) (stale : Nat → Bool) :
    ∃ order, Digraph.IsOrder net.graph.targets net.graph.size order ∧
      net.recomputeWhere stale = .ok ((order.filter stale).foldl recomputeAt net) := by
  obtain ⟨order, horder, hisOrder⟩ := Digraph.exists_order? hnet.leads_lt hnet.acyclic
  refine ⟨order, hisOrder, ?_⟩
  simp [recomputeWhere, Network.order, horder, Except.map]

theorem regular_foldl_recomputeAt {net : Network} (hnet : net.Regular) (l : List Nat) :
    (l.foldl recomputeAt net).Regular :=
  ⟨by rw [graph_foldl_recomputeAt, (net.alikeTo_foldl_recomputeAt l).size_eq, hnet.size_eq],
    by simpa using hnet.consistent, by simpa using hnet.acyclic⟩

/-! ## 5. Following a change -/

theorem position_lt {net : Network} {name : String} {i : Nat} (h : net.position name = .ok i) :
    i < net.registry.size := by
  unfold position at h
  cases hindex : net.registry.indexOf? name with
  | none => rw [hindex] at h; cases h
  | some j =>
      rw [hindex] at h
      cases h
      exact Registry.indexOf?_lt hindex

/-- An unknown name changes nothing. -/
theorem valueChanged_of_error {net : Network} {name : String} {e : GraphError}
    (h : net.position name = .error e) : net.valueChanged name = (.error e, net) := by
  unfold valueChanged
  rw [h]

/-- **What following a change comes to in a regular network**: one position is scanned, then it and all
    that depends on it are brought up to date, in order. The only error is that of an opened cycle. -/
theorem valueChanged_of_ok {net : Network} (hnet : net.Regular) {name : String} {i : Nat}
    (hi : net.position name = .ok i) :
    ∃ order, Digraph.IsOrder (net.rescan i).2.graph.targets (net.rescan i).2.graph.size order ∧
      (net.valueChanged name).2 =
        (order.filter ((net.rescan i).2.isAffectedBy i)).foldl recomputeAt (net.rescan i).2 ∧
      (net.valueChanged name).1 = match (net.rescan i).1 with
        | some e => .error e
        | none => .ok () := by
  have hlt : i < net.graph.size := hnet.size_eq ▸ position_lt hi
  obtain ⟨order, horder, heq⟩ :=
    recomputeWhere_eq (regular_rescan hnet hlt).1 ((net.rescan i).2.isAffectedBy i)
  refine ⟨order, horder, ?_⟩
  unfold valueChanged
  rw [hi]
  simp only [heq]
  cases (net.rescan i).1 <;> exact ⟨rfl, rfl⟩

/-- **Following a change keeps a network regular**, and changes expanded values only. -/
theorem regular_valueChanged {net : Network} (hnet : net.Regular) (name : String) :
    (net.valueChanged name).2.Regular ∧
      net.registry.AlikeTo (net.valueChanged name).2.registry := by
  cases hi : net.position name with
  | error e =>
      rw [valueChanged_of_error hi]
      exact ⟨hnet, .refl _⟩
  | ok i =>
      obtain ⟨order, _, heq, _⟩ := valueChanged_of_ok hnet hi
      obtain ⟨hregular, _, halike, _⟩ :=
        regular_rescan hnet (hnet.size_eq ▸ position_lt hi)
      rw [heq]
      exact ⟨regular_foldl_recomputeAt hregular _, halike.trans (alikeTo_foldl_recomputeAt _ _)⟩

/-! ## 6. Building -/

theorem regular_discrete (r : Registry) : (⟨r, .discrete r.size⟩ : Network).Regular :=
  ⟨Digraph.size_discrete r.size, Digraph.consistent_discrete r.size, Digraph.acyclic_discrete r.size⟩

/-- Scanning several positions keeps a network regular. -/
theorem regular_scanAll {net : Network} (hnet : net.Regular) {l : List Nat}
    (hl : ∀ i ∈ l, i < net.graph.size) :
    (net.scanAll l).1.Regular ∧ net.registry.AlikeTo (net.scanAll l).1.registry := by
  induction l generalizing net with
  | nil => exact ⟨hnet, .refl _⟩
  | cons i l ih =>
      obtain ⟨hregular, hsize, halike, _⟩ := regular_rescan hnet (hl i List.mem_cons_self)
      obtain ⟨hlast, hmore⟩ := ih hregular fun j hj => by
        rw [hsize]
        exact hl j (List.mem_cons_of_mem i hj)
      exact ⟨hlast, halike.trans hmore⟩

/-- A registry with all positions scanned in turn, and what the scans have told. -/
def scanned (r : Registry) : Network × List GraphError :=
  scanAll ⟨r, .discrete r.size⟩ (List.range r.size)

theorem regular_scanned (r : Registry) :
    (scanned r).1.Regular ∧ r.AlikeTo (scanned r).1.registry :=
  regular_scanAll (regular_discrete r) fun i hi => by simpa using hi

/-- What building comes to: all positions are scanned and then brought up to date, in order. The only
    errors are those of the scans. -/
theorem build_eq (r : Registry) :
    ∃ order, Digraph.IsOrder (scanned r).1.graph.targets (scanned r).1.graph.size order ∧
      build r = (order.foldl recomputeAt (scanned r).1, (scanned r).2) := by
  obtain ⟨order, horder, heq⟩ := recomputeWhere_eq (regular_scanned r).1 fun _ => true
  refine ⟨order, horder, ?_⟩
  rw [List.filter_true] at heq
  have hscanned : scanAll ⟨r, .discrete r.size⟩ (List.range r.size) =
      ((scanned r).1, (scanned r).2) := rfl
  unfold build
  dsimp only
  rw [hscanned]
  dsimp only
  rw [heq]

/-- **A network that is built is regular.** -/
theorem regular_build (r : Registry) : (build r).1.Regular ∧ r.AlikeTo (build r).1.registry := by
  obtain ⟨hregular, halike⟩ := regular_scanned r
  obtain ⟨order, _, heq⟩ := build_eq r
  rw [heq]
  exact ⟨regular_foldl_recomputeAt hregular _, halike.trans (alikeTo_foldl_recomputeAt _ _)⟩

end Network

end Placeholders
