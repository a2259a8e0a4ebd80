import Placeholders.Proofs.Network.Affected

/-!
# Edges and references

The edges of a network are the references in its values, whatever has been done to it.

* `Network.Refers` reads the references off the values and tokens; it knows nothing of the graph.
* The latest scan of a placeholder is its turn when the network was built, or the last assignment to it.
  `Network.isBroken` says whether that scan closed a cycle.
* A scan finds exactly the references at its position, or closes a cycle and leaves none
  (`edge_rescan_self`). It leaves all other edges as they are.
* `Referring` is the invariant of a run. References at a position depend on its own value only, so that
  writing another value does not disturb it (`refers_congr`).
-/

namespace Placeholders

/-! ## 1. References -/

/-- Whether an error tells of a cycle that the value of a name closed. -/
def GraphError.tellsOf (name : String) : GraphError → Bool
  | .cycleDetected other _ => other == name
  | .unknownPlaceholder _ => false

namespace Network

/-- The value at a position, which may refer to others, holds a token of another placeholder. -/
def Refers (net : Network) (i j : Nat) : Prop :=
  i ≠ j ∧ ∃ p q, net.at? i = some p ∧ net.at? j = some q ∧ p.allowRecursive = true ∧
    ∃ c, (q.tokens.get c).literal.toList <:+: p.currentValue.toList

/-- What a placeholder refers to depends on its own value, and on the tokens of the others. -/
theorem refers_congr {net other : Network} {i j : Nat}
    (hi : (other.at? i).map (fun p => (p.allowRecursive, p.currentValue)) =
      (net.at? i).map fun p => (p.allowRecursive, p.currentValue))
    (hj : (other.at? j).map (·.tokens) = (net.at? j).map (·.tokens)) :
    other.Refers i j ↔ net.Refers i j := by
  have hone : ∀ {one two : Network},
      (two.at? i).map (fun p => (p.allowRecursive, p.currentValue)) =
        (one.at? i).map (fun p => (p.allowRecursive, p.currentValue)) →
      (two.at? j).map (·.tokens) = (one.at? j).map (·.tokens) → one.Refers i j → two.Refers i j := by
    rintro one two hi hj ⟨hne, p, q, hp, hq, hrecursive, c, hoccurs⟩
    rw [hp, Option.map_some] at hi
    rw [hq, Option.map_some] at hj
    obtain ⟨p', hp', hpp⟩ := Option.map_eq_some_iff.mp hi
    obtain ⟨q', hq', hqq⟩ := Option.map_eq_some_iff.mp hj
    obtain ⟨hallow, hvalue⟩ := Prod.mk.inj hpp
    exact ⟨hne, p', q', hp', hq', hallow.trans hrecursive, c, by rwa [hqq, hvalue]⟩
  exact ⟨hone hi.symm hj.symm, hone hi hj⟩

/-- Expanded values do not matter for references. -/
theorem refers_of_alikeTo {net other : Network} (h : net.registry.AlikeTo other.registry) (i j : Nat) :
    other.Refers i j ↔ net.Refers i j := by
  have hat : ∀ (k : Nat) {α : Type} (f : Placeholder → α), (∀ p, f p = f p.raw) →
      (other.at? k).map f = (net.at? k).map f := by
    intro k α f hf
    have hraw := congrArg (fun l : List Placeholder => (l[k]?).map f) h.raw
    simp only [List.getElem?_map, Option.map_map] at hraw
    rw [show f = f ∘ Placeholder.raw from funext hf]
    exact hraw
  exact refers_congr (hat i _ fun _ => rfl) (hat j _ fun _ => rfl)

theorem Refers.source_lt {net : Network} {i j : Nat} (h : net.Refers i j) :
    i < net.registry.size := by
  obtain ⟨_, p, _, hp, _⟩ := h
  exact (List.getElem?_eq_some_iff.mp hp).1

theorem Refers.target_lt {net : Network} {i j : Nat} (h : net.Refers i j) :
    j < net.registry.size := by
  obtain ⟨_, _, q, _, hq, _⟩ := h
  exact (List.getElem?_eq_some_iff.mp hq).1

/-! ## 2. One scan -/

/-- What is found by looking through a value are the references. -/
theorem mem_referredBy_iff {net : Network} (hsize : net.graph.size = net.registry.size) {i j : Nat}
    {p : Placeholder} (hp : net.at? i = some p) (hrecursive : p.allowRecursive = true) :
    j ∈ net.referredBy i p.currentValue ↔ net.Refers i j := by
  simp only [referredBy, List.mem_filter, List.mem_range, Bool.and_eq_true, bne_iff_ne,
    Option.any_eq_true, Placeholder.isReferencedIn_iff]
  constructor
  · rintro ⟨_, hne, q, hq, hoccurs⟩
    exact ⟨Ne.symm hne, p, q, hp, hq, hrecursive, hoccurs⟩
  · rintro ⟨hne, p', q, hp', hq, _, hoccurs⟩
    obtain rfl := Option.some.inj (hp.symm.trans hp')
    refine ⟨?_, Ne.symm hne, q, hq, hoccurs⟩
    rw [hsize]
    exact (List.getElem?_eq_some_iff.mp hq).1

/-- Edges lead away only from placeholders that may refer to others. -/
def RecursiveAt (net : Network) (i : Nat) : Prop :=
  ∀ j, net.graph.Edge i j → ∃ p, net.at? i = some p ∧ p.allowRecursive = true

/-- **A scan finds the references at its position.** -/
theorem edge_scan_self {net : Network} (hnet : net.Fitting) {i : Nat} (hi : i < net.graph.size)
    (hrecursive : net.RecursiveAt i) (j : Nat) : (net.scan i).graph.Edge i j ↔ net.Refers i j := by
  obtain ⟨p, hp⟩ : ∃ p, net.at? i = some p :=
    ⟨_, List.getElem?_eq_getElem (by rw [← Registry.size, ← hnet.size_eq]; exact hi)⟩
  by_cases hallow : p.allowRecursive = true
  · rw [scan_of_recursive hp hallow]
    have hsize := Digraph.size_clearTargets hnet.consistent i
    have hreferred : ∀ j ∈ net.referredBy i p.currentValue, j < (net.graph.clearTargets i).size :=
      fun j hj => by rw [hsize]; exact mem_referredBy_lt hj
    obtain ⟨_, _, hedge⟩ :=
      Digraph.addTargets_spec (hnet.consistent.clearTargets i) (by rwa [hsize]) hreferred
    refine (hedge i j).trans ?_
    rw [Digraph.edge_clearTargets hnet.consistent, mem_referredBy_iff hnet.size_eq hp hallow]
    simp
  · have hone : ∀ q, net.at? i = some q → q.allowRecursive = false := fun q hq => by
      rw [← Option.some.inj (hp.symm.trans hq)]
      simpa using hallow
    rw [scan_of_not_recursive hone]
    constructor
    · intro hedge
      obtain ⟨q, hq, hq'⟩ := hrecursive j hedge
      exact absurd (hone q hq) (by simp [hq'])
    · rintro ⟨_, q, _, hq, _, hq', _⟩
      exact absurd (hone q hq) (by simp [hq'])

/-- A scan closes no cycle, or tells of the cycle that its position closed. -/
theorem rescan_cases (net : Network) (i : Nat) :
    (net.rescan i).1 = none ∨
      ∃ cycle, (net.rescan i).1 = some (.cycleDetected (net.nameAt i) cycle) := by
  cases hcycle : (net.scan i).cycle? with
  | none => exact .inl (by rw [rescan_of_none hcycle])
  | some cycle =>
      refine .inr ⟨(net.scan i).namesAt cycle, ?_⟩
      rw [rescan_of_some hcycle, cycleError, nameAt, at?_scan]
      rfl

/-- **After a scan there are exactly the references at its position, or none if it closed a cycle.** -/
theorem edge_rescan_self {net : Network} (hnet : net.Regular) {i : Nat} (hi : i < net.graph.size)
    (hrecursive : net.RecursiveAt i) (j : Nat) :
    (net.rescan i).2.graph.Edge i j ↔ net.Refers i j ∧ (net.rescan i).1 = none := by
  have hscan := edge_scan_self hnet.fitting hi hrecursive j
  cases hcycle : (net.scan i).cycle? with
  | none => simpa [rescan_of_none hcycle] using hscan
  | some cycle =>
      rw [rescan_of_some hcycle, (isolate_spec (scan_spec hnet.fitting hi).1 i).2.2]
      simp

/-- A scan that closes a cycle has found references that make a cycle with the edges of the other
    positions. -/
theorem exists_cycle_of_rescan {net : Network} (hnet : net.Regular) {i : Nat}
    (hi : i < net.graph.size) (hrecursive : net.RecursiveAt i) (hbroken : (net.rescan i).1 ≠ none) :
    ∃ a, Relation.TransGen (fun c d => if c = i then net.Refers i d else net.graph.Edge c d) a a := by
  obtain ⟨hfit, _, hedge⟩ := scan_spec hnet.fitting hi
  have hcyclic : ¬ (net.scan i).graph.Acyclic := fun hacyclic => by
    have hnone : (net.scan i).cycle? = none :=
      (Digraph.cycle?_eq_none_iff fun a b h => hfit.consistent.target_lt h).mpr hacyclic
    exact hbroken (by rw [rescan_of_none hnone])
  obtain ⟨a, hwalk⟩ := not_forall_not.mp hcyclic
  refine ⟨a, Relation.TransGen.mono (fun c d h => ?_) a a hwalk⟩
  by_cases hc : c = i
  · subst hc
    simpa using (edge_scan_self hnet.fitting hi hrecursive d).mp h
  · simpa [hc] using (hedge c d hc).mp h

/-- A placeholder that closed a cycle refers to something. -/
theorem exists_refers_of_rescan {net : Network} (hnet : net.Regular) {i : Nat}
    (hi : i < net.graph.size) (hrecursive : net.RecursiveAt i) (hbroken : (net.rescan i).1 ≠ none) :
    ∃ j, net.Refers i j := by
  refine not_forall_not.mp fun hnone => ?_
  obtain ⟨a, hwalk⟩ := exists_cycle_of_rescan hnet hi hrecursive hbroken
  refine hnet.acyclic a (Relation.TransGen.mono (fun c d h => ?_) a a hwalk)
  by_cases hc : c = i
  · exact absurd (by simpa [hc] using h) (hnone d)
  · simpa [hc] using h

/-! ## 3. Building -/

/-- What is known after some positions have been scanned in turn, and what their scans have told. -/
structure Scanned (net after : Network) (errors : List GraphError) (l : List Nat) : Prop where
  told : ∀ e ∈ errors, ∃ i ∈ l, ∃ cycle, e = .cycleDetected (net.nameAt i) cycle
  edge_iff : ∀ i ∈ l, ∀ j, after.graph.Edge i j ↔
    net.Refers i j ∧ errors.any (·.tellsOf (net.nameAt i)) = false
  elsewhere : ∀ i, i ∉ l → ∀ j, after.graph.Edge i j ↔ net.graph.Edge i j
  refers : ∀ i ∈ l, errors.any (·.tellsOf (net.nameAt i)) = true → ∃ j, net.Refers i j

/-- The errors of other positions do not tell of a name. -/
theorem Scanned.any_tellsOf_eq_false {net after : Network} {errors : List GraphError} {l : List Nat}
    (h : Scanned net after errors l) (hdistinct : net.registry.names.Nodup)
    (hl : ∀ j ∈ l, j < net.registry.size) {i : Nat} (hi : i < net.registry.size) (hnot : i ∉ l) :
    errors.any (·.tellsOf (net.nameAt i)) = false := by
  refine List.any_eq_false.mpr fun e he => ?_
  obtain ⟨j, hj, cycle, rfl⟩ := h.told e he
  simp only [GraphError.tellsOf, beq_iff_eq]
  intro hname
  exact hnot (nameAt_inj hdistinct (hl j hj) hi hname ▸ hj)

/-- What a single scan tells is about its own position. -/
theorem any_tellsOf_rescan {net : Network} (hdistinct : net.registry.names.Nodup) {i k : Nat}
    (hi : i < net.registry.size) (hk : k < net.registry.size) :
    (net.rescan i).1.toList.any (·.tellsOf (net.nameAt k)) = true ↔
      k = i ∧ (net.rescan i).1 ≠ none := by
  rcases net.rescan_cases i with hnone | ⟨cycle, hbroken⟩
  · simp [hnone]
  · have hname : net.nameAt i = net.nameAt k ↔ k = i :=
      ⟨fun h => nameAt_inj hdistinct hk hi h.symm, fun h => h ▸ rfl⟩
    simp [hbroken, GraphError.tellsOf, hname]

/-- One more position in front. -/
theorem Scanned.cons {net after : Network} {errors : List GraphError} {l : List Nat} {i : Nat}
    (hnet : net.Regular) (hdistinct : net.registry.names.Nodup)
    (hl : ∀ j ∈ i :: l, j < net.graph.size) (hi : i ∉ l) (hrecursive : net.RecursiveAt i)
    (h : Scanned (net.rescan i).2 after errors l) :
    Scanned net after ((net.rescan i).1.toList ++ errors) (i :: l) := by
  obtain ⟨hlt, hl⟩ := List.forall_mem_cons.mp hl
  obtain ⟨_, _, halike, hother⟩ := regular_rescan hnet hlt
  have hself := edge_rescan_self hnet hlt hrecursive
  have hcause := exists_refers_of_rescan hnet hlt hrecursive
  have hname := nameAt_congr halike.names_eq
  have hrefers := refers_of_alikeTo halike
  rw [hnet.size_eq] at hlt hl
  have hfirst : ∀ k, k < net.registry.size → _ := fun k hk => any_tellsOf_rescan hdistinct hlt hk
  -- the scans of the rest say nothing of the first position, and its scan nothing of the rest
  have hlast : errors.any (·.tellsOf (net.nameAt i)) = false := by
    rw [← hname]
    exact h.any_tellsOf_eq_false (halike.names_eq ▸ hdistinct) (halike.size_eq ▸ hl)
      (halike.size_eq ▸ hlt) hi
  have hrest : ∀ k ∈ l, (net.rescan i).1.toList.any (·.tellsOf (net.nameAt k)) = false :=
    fun k hk => Bool.eq_false_iff.mpr fun htold => hi (((hfirst k (hl k hk)).mp htold).1 ▸ hk)
  refine ⟨fun e he => ?_, fun k hk j => ?_, fun k hk j => ?_, fun k hk htold => ?_⟩
  · rcases List.mem_append.mp he with he | he
    · rcases net.rescan_cases i with hnone | ⟨cycle, hbroken⟩
      · rw [hnone] at he
        exact absurd he List.not_mem_nil
      · rw [hbroken] at he
        exact ⟨i, List.mem_cons_self, cycle, List.mem_singleton.mp he⟩
    · obtain ⟨j, hj, cycle, heq⟩ := h.told e he
      exact ⟨j, List.mem_cons_of_mem i hj, cycle, hname j ▸ heq⟩
  · rw [List.any_append]
    rcases List.mem_cons.mp hk with rfl | hk
    · rw [h.elsewhere k hi, hself, hlast, Bool.or_false, ← Bool.not_eq_true, hfirst k hlt]
      simp
    · rw [h.edge_iff k hk, hrefers, hname, hrest k hk, Bool.false_or]
  · obtain ⟨hki, hk⟩ := not_or.mp (mt List.mem_cons.mpr hk)
    rw [h.elsewhere k hk, hother k j hki]
  · rw [List.any_append] at htold
    rcases List.mem_cons.mp hk with rfl | hk
    · rw [hlast, Bool.or_false, hfirst k hlt] at htold
      exact hcause htold.2
    · rw [hrest k hk, Bool.false_or, ← hname] at htold
      obtain ⟨j, hj⟩ := h.refers k hk htold
      exact ⟨j, (hrefers k j).mp hj⟩

/-- **Positions without edges, scanned in turn, get the edges to all they refer to**, but for those that
    close a cycle. -/
theorem scanned_scanAll {net : Network} (hnet : net.Regular) (hdistinct : net.registry.names.Nodup)
    {l : List Nat} (hl : ∀ i ∈ l, i < net.graph.size) (hnodup : l.Nodup)
    (hnone : ∀ i ∈ l, ∀ j, ¬ net.graph.Edge i j) :
    Scanned net (net.scanAll l).1 (net.scanAll l).2 l := by
  induction l generalizing net with
  | nil =>
      exact ⟨fun e he => absurd he List.not_mem_nil, fun i hi => absurd hi List.not_mem_nil,
        fun _ _ _ => Iff.rfl, fun i hi => absurd hi List.not_mem_nil⟩
  | cons i l ih =>
      obtain ⟨hfirst, hrest⟩ := List.nodup_cons.mp hnodup
      have hrecursive : net.RecursiveAt i := fun j h => absurd h (hnone i List.mem_cons_self j)
      obtain ⟨hregular, hsize, halike, hother⟩ := regular_rescan hnet (hl i List.mem_cons_self)
      refine Scanned.cons hnet hdistinct hl hfirst hrecursive (ih hregular ?_ ?_ hrest ?_)
      · exact halike.names_eq ▸ hdistinct
      · exact fun j hj => hsize ▸ hl j (List.mem_cons_of_mem i hj)
      · intro j hj k hedge
        have hji : j ≠ i := fun hji => hfirst (hji ▸ hj)
        exact hnone j (List.mem_cons_of_mem i hj) k ((hother j k hji).mp hedge)

/-! ## 4. Runs -/

/-- What an assignment answers. -/
def assigned (net : Network) (name value : String) : Except GraphError Unit :=
  ((net.withRegistry (rawWritten name value)).valueChanged name).1

/-- Whether an answer tells of a cycle that the value of a name closed. -/
def tellsOf (name : String) : Except GraphError Unit → Bool
  | .ok () => false
  | .error e => e.tellsOf name

/-- Of which names the latest scan has closed a cycle, after several assignments. The answer to an
    assignment decides that for its name. -/
def brokenAfter (net : Network) (broken : String → Bool) : List (String × String) → String → Bool
  | [] => broken
  | (name, value) :: edits =>
    (net.assign name value).brokenAfter
      (fun other => if other = name then tellsOf name (net.assigned name value) else broken other)
      edits

/-- Whether the latest scan of a name has closed a cycle: its turn when the network was built, or the last
    assignment to it. -/
def isBroken (r : Registry) (edits : List (String × String)) : String → Bool :=
  (build r).1.brokenAfter (fun name => (build r).2.any (·.tellsOf name)) edits

/-- Edges are the references, but for the placeholders that have closed a cycle. These have no edges,
    although they refer to something. -/
structure Referring (net : Network) (broken : String → Bool) : Prop where
  regular : net.Regular
  distinct : net.registry.names.Nodup
  edge_iff : ∀ i j, net.graph.Edge i j ↔ net.Refers i j ∧ broken (net.nameAt i) = false
  refers : ∀ i, i < net.registry.size → broken (net.nameAt i) = true → ∃ j, net.Refers i j

theorem Referring.recursiveAt {net : Network} {broken : String → Bool} (h : net.Referring broken)
    (i : Nat) : net.RecursiveAt i := by
  intro j hedge
  obtain ⟨⟨_, p, _, hp, _, hrecursive, _⟩, _⟩ := (h.edge_iff i j).mp hedge
  exact ⟨p, hp, hrecursive⟩

/-- What is kept of names that the registry does not know does not matter. -/
theorem Referring.congr {net : Network} {broken other : String → Bool} (h : net.Referring broken)
    (heq : ∀ i, i < net.registry.size → other (net.nameAt i) = broken (net.nameAt i)) :
    net.Referring other := by
  refine ⟨h.regular, h.distinct, fun i j => ?_, fun i hi hbroken => h.refers i hi (heq i hi ▸ hbroken)⟩
  exact (h.edge_iff i j).trans (and_congr_right fun hrefers => by rw [heq i hrefers.source_lt])

/-- Bringing expanded values up to date changes neither edges nor references. -/
theorem Referring.foldl_recomputeAt {net : Network} {broken : String → Bool} (h : net.Referring broken)
    (l : List Nat) : (l.foldl recomputeAt net).Referring broken := by
  have halike := net.alikeTo_foldl_recomputeAt l
  have hname := nameAt_congr halike.names_eq
  have hrefers := refers_of_alikeTo halike
  refine ⟨regular_foldl_recomputeAt h.regular l, halike.names_eq ▸ h.distinct, fun i j => ?_,
    fun i hi hbroken => ?_⟩
  · rw [graph_foldl_recomputeAt, hrefers, hname]
    exact h.edge_iff i j
  · obtain ⟨j, hj⟩ := h.refers i (halike.size_eq ▸ hi) (hname i ▸ hbroken)
    exact ⟨j, (hrefers i j).mpr hj⟩

/-- **When a network has been built, its edges are the references.** -/
theorem referring_build {r : Registry} (hdistinct : r.names.Nodup) :
    (build r).1.Referring fun name => (build r).2.any (·.tellsOf name) := by
  obtain ⟨order, _, heq⟩ := build_eq r
  obtain ⟨hregular, halike⟩ := regular_scanned r
  let blank : Network := ⟨r, .discrete r.size⟩
  have hscanned : Scanned blank (scanned r).1 (scanned r).2 (List.range r.size) :=
    scanned_scanAll (regular_discrete r) hdistinct (fun i hi => by simpa using hi) List.nodup_range
      fun i _ j => Digraph.not_edge_discrete r.size i j
  have hname := @nameAt_congr blank _ halike.names_eq
  have hrefers := @refers_of_alikeTo blank _ halike
  rw [heq]
  refine Referring.foldl_recomputeAt ⟨hregular, halike.names_eq ▸ hdistinct, fun i j => ?_,
    fun i hi hbroken => ?_⟩ order
  · rw [hname, hrefers]
    by_cases hi : i < r.size
    · exact hscanned.edge_iff i (List.mem_range.mpr hi) j
    · refine iff_of_false (fun hedge => hi ?_) fun h => hi h.1.source_lt
      exact halike.size_eq ▸ hregular.size_eq ▸ hedge.source_lt
  · rw [hname] at hbroken
    obtain ⟨j, hj⟩ := hscanned.refers i (List.mem_range.mpr (halike.size_eq ▸ hi)) hbroken
    exact ⟨j, (hrefers i j).mpr hj⟩

/-- What following a change comes to, as far as edges are concerned: one position is scanned. -/
theorem valueChanged_spec {net : Network} (hnet : net.Regular) {name : String} {i : Nat}
    (hi : net.position name = .ok i) :
    (net.valueChanged name).2.graph = (net.rescan i).2.graph ∧
      tellsOf name (net.valueChanged name).1 = (net.rescan i).1.isSome := by
  obtain ⟨order, _, heq, hanswer⟩ := valueChanged_of_ok hnet hi
  refine ⟨by rw [heq, graph_foldl_recomputeAt], ?_⟩
  rw [hanswer]
  obtain ⟨p, hp, hname⟩ := exists_at_position hi
  rcases net.rescan_cases i with hnone | ⟨cycle, hbroken⟩
  · rw [hnone]
    rfl
  · rw [hbroken]
    simp [tellsOf, GraphError.tellsOf, nameAt_eq hp, hname]

/-- Following a change leaves the edges of all other positions as they are. -/
theorem edge_valueChanged_of_ne {net : Network} (hnet : net.Regular) {name : String} {i : Nat}
    (hi : net.position name = .ok i) {k : Nat} (hk : k ≠ i) (j : Nat) :
    (net.valueChanged name).2.graph.Edge k j ↔ net.graph.Edge k j := by
  rw [(valueChanged_spec hnet hi).1]
  exact (regular_rescan hnet (hnet.size_eq ▸ position_lt hi)).2.2.2 k j hk

/-- The edges of all positions but one are the references, unless they have closed a cycle. -/
structure ReferringBut (net : Network) (broken : String → Bool) (i : Nat) : Prop where
  regular : net.Regular
  distinct : net.registry.names.Nodup
  recursiveAt : net.RecursiveAt i
  edge_iff : ∀ k, k ≠ i → ∀ j,
    (net.graph.Edge k j ↔ net.Refers k j ∧ broken (net.nameAt k) = false)
  refers : ∀ k, k ≠ i → k < net.registry.size → broken (net.nameAt k) = true → ∃ j, net.Refers k j

/-- **Following the change of a position makes its edges the references, too.** -/
theorem ReferringBut.valueChanged {net : Network} {broken : String → Bool} {name : String} {i : Nat}
    (h : net.ReferringBut broken i) (hi : net.position name = .ok i) :
    (net.valueChanged name).2.Referring fun other =>
      if other = name then tellsOf name (net.valueChanged name).1 else broken other := by
  obtain ⟨hgraph, htells⟩ := valueChanged_spec h.regular hi
  obtain ⟨hregular, halike⟩ := regular_valueChanged h.regular name
  have hlt : i < net.graph.size := h.regular.size_eq ▸ position_lt hi
  have hname := nameAt_congr halike.names_eq
  have hrefers := refers_of_alikeTo halike
  have hnamed := fun k hk => nameAt_eq_iff h.distinct hi (k := k) hk
  refine ⟨hregular, halike.names_eq ▸ h.distinct, fun k j => ?_, fun k hk htold => ?_⟩
  · rw [hrefers, hname]
    by_cases hki : k = i
    · subst hki
      rw [if_pos ((hnamed k (position_lt hi)).mpr rfl), hgraph, htells,
        edge_rescan_self h.regular hlt h.recursiveAt, Option.isSome_eq_false_iff,
        Option.isNone_iff_eq_none]
    · rw [edge_valueChanged_of_ne h.regular hi hki, h.edge_iff k hki]
      exact and_congr_right fun href => by rw [if_neg (mt (hnamed k href.source_lt).mp hki)]
  · rw [halike.size_eq] at hk
    rw [hname] at htold
    simp only [hrefers]
    by_cases hki : k = i
    · subst hki
      rw [if_pos ((hnamed k hk).mpr rfl), htells] at htold
      refine exists_refers_of_rescan h.regular hlt h.recursiveAt fun hnone => ?_
      rw [hnone] at htold
      cases htold
    · rw [if_neg (mt (hnamed k hk).mp hki)] at htold
      exact h.refers k hki hk htold

/-- A raw value that is written disturbs nothing but the edges of its own placeholder. -/
theorem Referring.rawWritten {net : Network} {broken : String → Bool} (h : net.Referring broken)
    {name : String} {i : Nat} (hindex : net.registry.indexOf? name = some i) (value : String) :
    (net.withRegistry (rawWritten name value)).ReferringBut broken i := by
  obtain ⟨hregular, _, hnames, hself, hat⟩ := rawWritten_spec h.regular hindex value
  have hname := nameAt_congr hnames
  have hrefers : ∀ k, k ≠ i → ∀ j,
      ((net.withRegistry (Network.rawWritten name value)).Refers k j ↔ net.Refers k j) := by
    intro k hk j
    refine refers_congr (by rw [hat k hk]) ?_
    by_cases hj : j = i
    · rw [hj, hself, Option.map_map]
      rfl
    · rw [hat j hj]
  refine ⟨hregular, hnames ▸ h.distinct, fun j hedge => ?_, fun k hk j => ?_, fun k hk hlt htold => ?_⟩
  · obtain ⟨p, hp, hrecursive⟩ := h.recursiveAt i j hedge
    rw [hself, hp]
    exact ⟨_, rfl, hrecursive⟩
  · rw [hrefers k hk, hname]
    exact h.edge_iff k j
  · simp only [hrefers k hk]
    exact h.refers k (Registry.size_eq_of_names_eq hnames ▸ hlt) (hname k ▸ htold)

/-- **An assignment keeps edges and references in step.** -/
theorem Referring.assign {net : Network} {broken : String → Bool} (h : net.Referring broken)
    (name value : String) :
    (net.assign name value).Referring fun other =>
      if other = name then tellsOf name (net.assigned name value) else broken other := by
  cases hindex : net.registry.indexOf? name with
  | none =>
      rw [assign_of_unknown hindex]
      refine h.congr fun i hi => if_neg ?_
      rintro rfl
      exact Registry.indexOf?_eq_none_iff.mp hindex (nameAt_mem hi)
  | some i =>
      exact (h.rawWritten hindex value).valueChanged (rawWritten_spec h.regular hindex value).2.1

/-- **An assignment leaves the edges of all other placeholders as they are.** -/
theorem edge_assign_of_ne {net : Network} (hnet : net.Regular) {name : String} (value : String)
    {i : Nat} (hi : net.nameAt i ≠ name) (j : Nat) :
    (net.assign name value).graph.Edge i j ↔ net.graph.Edge i j := by
  cases hindex : net.registry.indexOf? name with
  | none => rw [assign_of_unknown hindex]
  | some k =>
      obtain ⟨hregular, hposition, hnames, _, _⟩ := rawWritten_spec hnet hindex value
      refine edge_valueChanged_of_ne hregular hposition (fun hik => hi ?_) j
      obtain ⟨p, hp, hname⟩ := exists_at_position (position_eq_ok_iff.mpr hindex)
      rw [hik, nameAt_eq hp, hname]

theorem Referring.assignAll {net : Network} {broken : String → Bool} (h : net.Referring broken)
    (edits : List (String × String)) :
    (net.assignAll edits).Referring (net.brokenAfter broken edits) := by
  induction edits generalizing net broken with
  | nil => exact h
  | cons edit edits ih => exact ih (h.assign edit.1 edit.2)

theorem referring_assignAll {r : Registry} (hdistinct : r.names.Nodup)
    (edits : List (String × String)) :
    ((build r).1.assignAll edits).Referring (isBroken r edits) :=
  (referring_build hdistinct).assignAll edits

/-- **At any point of any run the edges of a placeholder are what its value refers to**, unless its latest
    scan has closed a cycle; then it has none. Assigning a value once more changes the edges of no other
    placeholder. -/
theorem edge_iff_refers {r : Registry} (hdistinct : r.names.Nodup) (edits : List (String × String)) :
    let net := (build r).1.assignAll edits
    (∀ i p, net.at? i = some p → ∀ j, net.graph.Edge i j ↔
      isBroken r edits p.name = false ∧ p.allowRecursive = true ∧ j ≠ i ∧
        ∃ q, net.at? j = some q ∧ ∃ c, (q.tokens.get c).literal.toList <:+: p.currentValue.toList) ∧
    ∀ name value i p, net.at? i = some p → p.name ≠ name → ∀ j,
      (net.assign name value).graph.Edge i j ↔ net.graph.Edge i j := by
  intro net
  have h := referring_assignAll hdistinct edits
  refine ⟨fun i p hp j => ?_, fun name value i p hp hname => ?_⟩
  · rw [h.edge_iff, nameAt_eq hp, And.comm]
    refine and_congr_right fun _ => ⟨?_, ?_⟩
    · rintro ⟨hne, p', q, hp', hq, hrecursive, hoccurs⟩
      obtain rfl := Option.some.inj (hp.symm.trans hp')
      exact ⟨hrecursive, Ne.symm hne, q, hq, hoccurs⟩
    · rintro ⟨hrecursive, hne, q, hq, hoccurs⟩
      exact ⟨Ne.symm hne, p, q, hp, hq, hrecursive, hoccurs⟩
  · exact edge_assign_of_ne h.regular value (nameAt_eq hp ▸ hname)

/-- Two textboxes, one of which refers to the other. -/
def looped : Registry :=
  let textbox (name value : String) := Placeholder.ofKind name (.textbox ⟨.fixed value, []⟩) {}
  ⟨[textbox "A" "a(xBx)", textbox "B" "b"], {}, .empty⟩

theorem edge_iff_refers_of_looped :
    let net := (build looped).1.assignAll [("B", "b(xAx)")]
    looped.names.Nodup ∧ isBroken looped [("B", "b(xAx)")] "A" = false ∧ net.graph.Edge 0 1 ∧
      isBroken looped [("B", "b(xAx)")] "B" = true ∧ (∀ j, ¬ net.graph.Edge 1 j) ∧
      ∀ j, (net.assign "B" "b").graph.Edge 0 j ↔ net.graph.Edge 0 j := by
  intro net
  have hdistinct : looped.names.Nodup := by decide
  obtain ⟨hedges, hothers⟩ := edge_iff_refers hdistinct [("B", "b(xAx)")]
  have hsaid : ∀ i, i < 2 → (net.at? i).map (fun p => (p.name, p.currentValue, p.allowRecursive)) =
      [("A", "a(xBx)", true), ("B", "b(xAx)", true)][i]? := by decide +kernel
  have htoken : (net.at? 1).map (fun q => (q.tokens.get .normal).literal) = some "xBx" := by
    decide +kernel
  have hscans : isBroken looped [("B", "b(xAx)")] "A" = false ∧
      isBroken looped [("B", "b(xAx)")] "B" = true := by decide +kernel
  obtain ⟨p, hp, hpsaid⟩ := Option.map_eq_some_iff.mp (hsaid 0 (by decide))
  obtain ⟨q, hq, hqsaid⟩ := Option.map_eq_some_iff.mp (hsaid 1 (by decide))
  simp only [Prod.mk.injEq] at hpsaid hqsaid
  refine ⟨hdistinct, hscans.1, (hedges 0 p hp 1).mpr ⟨?_, hpsaid.2.2, by decide, q, hq, .normal, ?_⟩,
    hscans.2, fun j hedge => ?_, hothers "B" "b" 0 p hp ?_⟩
  · rw [hpsaid.1]
    exact hscans.1
  · have hliteral : (q.tokens.get .normal).literal = "xBx" := by simpa [hq] using htoken
    rw [hliteral, hpsaid.2.1]
    decide
  · have hbroken := ((hedges 1 q hq j).mp hedge).1
    rw [hqsaid.1, hscans.2] at hbroken
    cases hbroken
  · rw [hpsaid.1]
    decide

end Network

end Placeholders
