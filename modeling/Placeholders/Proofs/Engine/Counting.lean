import Placeholders.Proofs.Engine.InPlace

/-!
# Counts go along

Counting the tokens of a page touches two fields of a placeholder, and these are read by reports only. So
whatever is done with a registry in which more has been counted, it is the same as without, and what has
been counted goes along.

* `Network.counting` and `Engine.counting` say what it is to have counted more. Every operation of a
  network commutes with it.
* So does every call (`Action.apply_counting`) and every run (`outcomes_counting`), but for the reloads
  that outcomes ask for: those are asked for in addition that the counted tokens need
  (`Outcome.reloading`).
-/

namespace Placeholders

open Placeholders.Storage

/-! ## 1. Counting in a registry -/

section Tally

variable (p : Placeholder) (i : Nat) (replaced more : List Target)

theorem Placeholder.tally_nil : p.tally i [] = p := by
  simp [Placeholder.tally]

theorem Placeholder.tally_comm :
    (p.tally i replaced).tally i more = (p.tally i more).tally i replaced := by
  simp only [Placeholder.tally, Nat.add_right_comm, Bool.or_right_comm]

theorem Placeholder.isUsed_tally :
    (p.tally i replaced).isUsed = (p.isUsed || replaced.any fun t => t.source == i) := by
  have hlength : 0 < (replaced.filter fun t => t.source == i).length ↔
      (replaced.any fun t => t.source == i) = true := by
    rw [List.length_pos_iff_exists_mem, List.any_eq_true]
    simp only [List.mem_filter]
  rw [Bool.eq_iff_iff, Bool.or_eq_true, ← hlength]
  change decide (0 < p.countOnPage + (replaced.filter fun t => t.source == i).length) = true ↔
    decide (0 < p.countOnPage) = true ∨ _
  rw [decide_eq_true_iff, decide_eq_true_iff]
  omega

theorem Placeholder.reloadOnChange_tally_eq : (p.tally i replaced).reloadOnChange =
    (p.reloadOnChange || replaced.any fun t => t.source == i && t.tokenClass.needsReload) := by
  simp only [Placeholder.tally, List.any_filter]

end Tally

namespace Registry

variable (r : Registry) (replaced more : List Target)

theorem tally_nil : r.tally [] = r := by
  have hlist : (r.tally []).placeholders = r.placeholders := by
    refine List.ext_getElem? fun i => ?_
    rw [Engine.getElem?_tally]
    cases r.placeholders[i]? with
    | none => rfl
    | some p => exact congrArg some (p.tally_nil i)
  exact congrArg (fun ps => (⟨ps, r.settings, r.catalog⟩ : Registry)) hlist

theorem tally_comm : (r.tally replaced).tally more = (r.tally more).tally replaced := by
  have hlist : ((r.tally replaced).tally more).placeholders =
      ((r.tally more).tally replaced).placeholders := by
    refine List.ext_getElem? fun i => ?_
    simp only [Engine.getElem?_tally, Option.map_map]
    exact congrArg (Option.map · _) (funext fun p => p.tally_comm i replaced more)
  exact congrArg (fun ps => (⟨ps, r.settings, r.catalog⟩ : Registry)) hlist

theorem indexOf?_tally (name : String) : (r.tally replaced).indexOf? name = r.indexOf? name :=
  indexOf?_congr (Engine.names_tally r replaced) name

theorem get?_tally (name : String) : (r.tally replaced).get? name =
    (r.get? name).map fun p => p.tally ((r.indexOf? name).getD 0) replaced := by
  cases hindex : r.indexOf? name with
  | some i =>
      have hcounted := (r.indexOf?_tally replaced name).trans hindex
      rw [← getElem?_of_indexOf? hcounted, ← getElem?_of_indexOf? hindex, Engine.getElem?_tally]
      rfl
  | none =>
      have hunknown : name ∉ r.names := indexOf?_eq_none_iff.mp hindex
      have hnone : ∀ s : Registry, s.names = r.names → s.get? name = none := by
        intro s hs
        rw [← Option.not_isSome_iff_eq_none]
        exact fun hsome => hunknown (hs ▸ contains_iff.mp hsome)
      rw [hnone _ (Engine.names_tally r replaced), hnone r rfl]
      rfl

/-- What is written at a position commutes with counting if it leaves the counts alone. -/
theorem modifyAt_tally {i : Nat} {f : Placeholder → Placeholder}
    (hf : ∀ p, f (p.tally i replaced) = (f p).tally i replaced) :
    (r.tally replaced).modifyAt i f = (r.modifyAt i f).tally replaced := by
  have hlist : ((r.tally replaced).modifyAt i f).placeholders =
      ((r.modifyAt i f).tally replaced).placeholders := by
    refine List.ext_getElem? fun j => ?_
    rw [getElem?_modifyAt, Engine.getElem?_tally, Engine.getElem?_tally, getElem?_modifyAt]
    split
    · rename_i hij
      subst hij
      rw [Option.map_map, Option.map_map]
      exact congrArg (Option.map · _) (funext hf)
    · rfl
  exact congrArg (fun ps => (⟨ps, r.settings, r.catalog⟩ : Registry)) hlist

theorem modify_tally (name : String) {f : Placeholder → Placeholder}
    (hf : ∀ i p, f (p.tally i replaced) = (f p).tally i replaced) :
    (r.tally replaced).modify name f = (r.modify name f).tally replaced := by
  unfold modify
  rw [indexOf?_tally]
  split
  · exact r.modifyAt_tally replaced (hf _)
  · rfl

theorem resetToDefaults_tally :
    (r.tally replaced).resetToDefaults = r.resetToDefaults.tally replaced := by
  have hlist : (r.tally replaced).resetToDefaults.placeholders =
      (r.resetToDefaults.tally replaced).placeholders := by
    refine List.ext_getElem? fun i => ?_
    rw [Engine.getElem?_tally]
    simp only [resetToDefaults, map, List.getElem?_map, Engine.getElem?_tally, Option.map_map]
    rfl
  exact congrArg (fun ps => (⟨ps, r.settings, r.catalog⟩ : Registry)) hlist

/-- Counting has no influence on which tokens are looked for, nor on what they stand for. -/
theorem targets_tally : (r.tally replaced).targets = r.targets := by
  rw [targets_eq_of_marks_eq (Engine.marks_tally r replaced).symm]
  cases htargets : r.targets with
  | error e => rfl
  | ok lexicon =>
      refine congrArg Except.ok (Engine.mapTargets_valuedBy_eq htargets fun i p hp => ?_)
      exact ⟨p.tally i replaced, by rw [Engine.getElem?_tally, hp]; rfl, rfl⟩

end Registry

/-! ## 2. Counting in a network -/

namespace Network

variable (net : Network) (replaced : List Target)

/-- The network with more tokens counted. -/
def counting : Network := net.withRegistry (·.tally replaced)

theorem at?_counting (i : Nat) :
    (net.counting replaced).at? i = (net.at? i).map fun p => p.tally i replaced :=
  Engine.getElem?_tally net.registry replaced i

theorem nameAt_counting (i : Nat) : (net.counting replaced).nameAt i = net.nameAt i :=
  nameAt_congr (Engine.names_tally net.registry replaced) i

theorem position_counting (name : String) :
    (net.counting replaced).position name = net.position name :=
  position_congr (Engine.names_tally net.registry replaced) name

theorem namesAt_counting (positions : List Nat) :
    (net.counting replaced).namesAt positions = net.namesAt positions :=
  List.map_congr_left fun i _ => net.nameAt_counting replaced i

theorem cycleError_counting (i : Nat) (cycle : List Nat) :
    (net.counting replaced).cycleError i cycle = net.cycleError i cycle := by
  simp only [cycleError, nameAt_counting, namesAt_counting]

theorem dependents_counting (name : String) :
    (net.counting replaced).dependents name = net.dependents name := by
  unfold dependents
  rw [position_counting]
  exact congrArg (Except.map · _) (funext fun i => net.namesAt_counting replaced _)

theorem referredBy_counting (i : Nat) (value : String) :
    (net.counting replaced).referredBy i value = net.referredBy i value := by
  refine List.filter_congr fun j _ => ?_
  rw [at?_counting, Option.any_map]
  rfl

theorem scan_counting (i : Nat) :
    (net.counting replaced).scan i = (net.scan i).counting replaced := by
  unfold scan
  rw [at?_counting]
  cases net.at? i with
  | none => rfl
  | some p =>
      have hsame : (p.tally i replaced).allowRecursive = p.allowRecursive := rfl
      simp only [Option.map_some, hsame, referredBy_counting]
      split <;> rfl

theorem isolate_counting (i : Nat) :
    (net.counting replaced).isolate i = (net.isolate i).counting replaced :=
  congrArg (fun r => (⟨r, net.graph.clearTargets i⟩ : Network))
    (net.registry.modifyAt_tally replaced fun _ => rfl)

/-- Whether a scan closes a cycle has nothing to do with counts. -/
theorem rescan_counting (i : Nat) : (net.counting replaced).rescan i =
    ((net.rescan i).1, (net.rescan i).2.counting replaced) := by
  unfold rescan
  rw [scan_counting]
  have hcycle : ((net.scan i).counting replaced).cycle? = (net.scan i).cycle? := rfl
  dsimp only
  rw [hcycle]
  split
  · rw [cycleError_counting, isolate_counting]
  · rfl

/-- What references stand for is found in the expanded values alone. -/
theorem expand_counting (positions : List Nat) (value : String) :
    Reference.expand (positions.filterMap (net.counting replaced).at?) value =
      Reference.expand (positions.filterMap net.at?) value := by
  have hlexicon : ∀ lexicon, (positions.filterMap (net.counting replaced).at?).foldl
      Reference.addTokens lexicon = (positions.filterMap net.at?).foldl Reference.addTokens lexicon := by
    induction positions with
    | nil => exact fun _ => rfl
    | cons i rest ih =>
        intro lexicon
        rw [List.filterMap_cons, List.filterMap_cons, at?_counting]
        cases net.at? i with
        | none => exact ih lexicon
        | some p => exact ih _
  simp only [Reference.expand, Reference.lexicon, hlexicon]

theorem recomputeAt_counting (i : Nat) :
    (net.counting replaced).recomputeAt i = (net.recomputeAt i).counting replaced := by
  unfold recomputeAt
  have hgraph : (net.counting replaced).graph = net.graph := rfl
  simp only [hgraph, expand_counting]
  exact congrArg (fun r => (⟨r, net.graph⟩ : Network))
    (net.registry.modifyAt_tally replaced fun _ => rfl)

theorem foldl_recomputeAt_counting (positions : List Nat) :
    positions.foldl recomputeAt (net.counting replaced) =
      (positions.foldl recomputeAt net).counting replaced := by
  induction positions generalizing net with
  | nil => rfl
  | cons i rest ih => rw [List.foldl_cons, recomputeAt_counting, ih, List.foldl_cons]

theorem order_counting : (net.counting replaced).order = net.order := by
  unfold order
  have hgraph : (net.counting replaced).graph = net.graph := rfl
  rw [hgraph]
  split
  · rfl
  · simp only [cycleError_counting]

theorem recomputeWhere_counting (stale : Nat → Bool) :
    (net.counting replaced).recomputeWhere stale =
      (net.recomputeWhere stale).map (counting · replaced) := by
  unfold recomputeWhere
  rw [order_counting]
  cases net.order with
  | error e => rfl
  | ok positions => exact congrArg Except.ok (net.foldl_recomputeAt_counting replaced _)

/-- **Following a change commutes with counting.** -/
theorem valueChanged_counting (name : String) : (net.counting replaced).valueChanged name =
    ((net.valueChanged name).1, (net.valueChanged name).2.counting replaced) := by
  unfold valueChanged
  rw [position_counting]
  cases net.position name with
  | error e => rfl
  | ok i =>
      dsimp only
      rw [rescan_counting]
      obtain ⟨broken, next⟩ := net.rescan i
      have haffected : (next.counting replaced).isAffectedBy i = next.isAffectedBy i := rfl
      dsimp only
      rw [haffected, recomputeWhere_counting]
      cases next.recomputeWhere (next.isAffectedBy i) with
      | error e => rfl
      | ok done => cases broken <;> rfl

theorem scanAll_counting (positions : List Nat) : (net.counting replaced).scanAll positions =
    ((net.scanAll positions).1.counting replaced, (net.scanAll positions).2) := by
  induction positions generalizing net with
  | nil => rfl
  | cons i rest ih =>
      rw [scanAll, rescan_counting]
      dsimp only
      rw [ih]
      rfl

/-- **A network is built in the same way, whatever has been counted.** -/
theorem build_tally (r : Registry) :
    build (r.tally replaced) = ((build r).1.counting replaced, (build r).2) := by
  have hsize : (r.tally replaced).size = r.size :=
    Registry.size_eq_of_names_eq (Engine.names_tally r replaced)
  unfold build
  rw [hsize]
  have hstart : (⟨r.tally replaced, .discrete r.size⟩ : Network) =
      (⟨r, .discrete r.size⟩ : Network).counting replaced := rfl
  dsimp only
  rw [hstart, scanAll_counting]
  obtain ⟨scanned, errors⟩ := (⟨r, .discrete r.size⟩ : Network).scanAll (List.range r.size)
  dsimp only
  rw [recomputeWhere_counting]
  cases scanned.recomputeWhere fun _ => true <;> rfl

end Network


/-! ## 3. Outcomes -/

/-- Whether some of the counted tokens are of a name and need a reload. -/
def needReload (replaced : List Target) (name : String) : Bool :=
  replaced.any fun t => t.name == name && t.tokenClass.needsReload

/-- The outcome if certain tokens have been counted, too. -/
def Outcome.reloading (replaced : List Target) (o : Outcome) : Outcome :=
  { o with needsReload := o.needsReload || o.affected.any (needReload replaced) }

namespace Engine

/-- The answer if certain tokens have been counted, too. -/
def reloading (replaced : List Target) :
    Except EngineError Outcome → Except EngineError Outcome
  | .ok o => .ok (o.reloading replaced)
  | .error (.cycleRepaired source o) => .error (.cycleRepaired source (o.reloading replaced))
  | .error err => .error err

theorem outcome?_reloading (replaced : List Target) (answer : Except EngineError Outcome) :
    outcome? (reloading replaced answer) = (outcome? answer).map (Outcome.reloading replaced) := by
  cases answer with
  | ok o => rfl
  | error err => cases err <;> rfl

theorem reloading_error {replaced : List Target} {err : EngineError} (h : err.outcome? = none) :
    reloading replaced (.error err) = .error err := by
  cases err <;> first | rfl | cases h

/-- Every counted token is of the placeholder at its position. -/
def Counted (r : Registry) (replaced : List Target) : Prop :=
  ∀ t ∈ replaced, r.names[t.source]? = some t.name

theorem Counted.congr {r s : Registry} {replaced : List Target} (h : Counted r replaced)
    (hnames : s.names = r.names) : Counted s replaced := by
  unfold Counted
  rw [hnames]
  exact h

/-- Where names are distinct, a token is of the position of its name. -/
theorem Counted.source_iff {r : Registry} {replaced : List Target} (h : Counted r replaced)
    (hdistinct : r.names.Nodup) {t : Target} (ht : t ∈ replaced) {i : Nat} {name : String}
    (hi : r.names[i]? = some name) : t.source = i ↔ t.name = name := by
  have hsource := h t ht
  refine ⟨fun heq => ?_, fun heq => ?_⟩
  · rw [heq, hi] at hsource
    exact (Option.some.inj hsource).symm
  · have hlt : t.source < r.names.length := (List.getElem?_eq_some_iff.mp hsource).1
    exact (List.getElem?_inj hlt hdistinct).mp (by rw [hsource, hi, heq])

/-- What was counted at a position was counted of the name there. -/
theorem Counted.any_source {r : Registry} {replaced : List Target} (h : Counted r replaced)
    (hdistinct : r.names.Nodup) {i : Nat} {name : String} (hi : r.names[i]? = some name)
    (q : Target → Bool) :
    (replaced.any fun t => t.source == i && q t) = replaced.any fun t => t.name == name && q t := by
  rw [Bool.eq_iff_iff, List.any_eq_true, List.any_eq_true]
  refine exists_congr fun t => and_congr_right fun ht => ?_
  simp only [Bool.and_eq_true, beq_iff_eq, h.source_iff hdistinct ht hi]

theorem any_filterMap_get? (r : Registry) (names : List String) (q : Placeholder → Bool) :
    (names.filterMap r.get?).any q = names.any fun name => (r.get? name).any q := by
  induction names with
  | nil => rfl
  | cons name rest ih =>
      rw [List.filterMap_cons, List.any_cons, ← ih]
      cases r.get? name <;> rfl

theorem any_get?_tally {r : Registry} {replaced : List Target} (h : Counted r replaced)
    (hdistinct : r.names.Nodup) (name : String) :
    ((r.tally replaced).get? name).any (·.reloadOnChange) =
      ((r.get? name).any (·.reloadOnChange) || needReload replaced name) := by
  cases hindex : r.indexOf? name with
  | none =>
      have hunknown : name ∉ r.names := Registry.indexOf?_eq_none_iff.mp hindex
      have hnone : r.get? name = none := by
        rw [← Option.not_isSome_iff_eq_none]
        exact mt Registry.contains_iff.mp hunknown
      have hcounted : needReload replaced name = false := by
        refine List.any_eq_false.mpr fun t ht hneeds => hunknown ?_
        have hname : t.name = name := by
          rw [Bool.and_eq_true, beq_iff_eq] at hneeds
          exact hneeds.1
        exact hname ▸ List.mem_of_getElem? (h t ht)
      rw [Registry.get?_tally, hnone, hcounted]
      rfl
  | some i =>
      have hat := Registry.getElem?_of_indexOf? hindex
      rw [Registry.get?_tally, hindex, ← hat]
      cases hp : r.placeholders[i]? with
      | none =>
          have hlt := Registry.indexOf?_lt hindex
          rw [List.getElem?_eq_none_iff] at hp
          exact absurd hlt (Nat.not_lt.mpr hp)
      | some p =>
          have hname : p.name = name := (Registry.exists_at_of_get? (hat.symm.trans hp)).1
          have hi : r.names[i]? = some name := by
            rw [Registry.names_getElem?, hp, ← hname]
            rfl
          simp only [Option.map_some, Option.any_some, Option.getD_some,
            Placeholder.reloadOnChange_tally_eq, needReload, h.any_source hdistinct hi]

/-- **Whether a reload is needed**, if more has been counted. -/
theorem needsReload_tally {r : Registry} {replaced : List Target} (h : Counted r replaced)
    (hdistinct : r.names.Nodup) (names : List String) :
    needsReload (r.tally replaced) names =
      (needsReload r names || names.any (needReload replaced)) := by
  unfold needsReload
  rw [any_filterMap_get?, any_filterMap_get?]
  induction names with
  | nil => rfl
  | cons name rest ih =>
      rw [List.any_cons, List.any_cons, List.any_cons, ih, any_get?_tally h hdistinct]
      simp only [Bool.or_assoc, Bool.or_left_comm]

/-! ## 4. Counting in an engine -/

/-- The engine with more tokens counted. -/
def counting (e : Engine) (replaced : List Target) : Engine :=
  { e with network := e.network.counting replaced }

/-- Bringing bindings up to date has nothing to do with counts. -/
theorem refresh_tally (doc : Document) (bindings : Bindings) (r : Registry) (replaced : List Target)
    (names : List String) :
    doc.refresh bindings (r.tally replaced) names = doc.refresh bindings r names := by
  induction names generalizing doc with
  | nil => rfl
  | cons name rest ih =>
      rw [Document.refresh, Document.refresh, Registry.get?_tally]
      cases r.get? name with
      | none => rfl
      | some p =>
          have hsame : Document.refreshElement (p.tally ((r.indexOf? name).getD 0) replaced) =
              Document.refreshElement p := rfl
          simp only [Option.map_some, hsame, ih]

section Counting

variable {e : Engine} {replaced : List Target}

theorem refreshPage_counting (names : List String) : (e.counting replaced).refreshPage names =
    ((e.refreshPage names).1, (e.refreshPage names).2.counting replaced) := by
  unfold refreshPage
  have hpage : (e.counting replaced).page = e.page := rfl
  have hregistry : (e.counting replaced).registry = e.registry.tally replaced := rfl
  rw [hpage, hregistry]
  cases e.page with
  | none => rfl
  | some page =>
      dsimp only
      rw [refresh_tally]
      rfl

theorem propagate_counting (he : e.Sound) (h : Counted e.registry replaced) (names : List String) :
    (e.counting replaced).propagate names =
      (reloading replaced (e.propagate names).1, (e.propagate names).2.counting replaced) := by
  have hregistry : (e.refreshPage names).2.registry = e.registry := by
    unfold refreshPage
    split <;> rfl
  have hcounted : ((e.refreshPage names).2.counting replaced).registry = e.registry.tally replaced :=
    congrArg (Registry.tally · replaced) hregistry
  unfold propagate
  rw [refreshPage_counting]
  dsimp only
  rw [hcounted, hregistry, needsReload_tally h he.distinct]
  cases hresult : (e.refreshPage names).1 with
  | ok count => rfl
  | error err =>
      have hnone : err.outcome? = none := by
        unfold refreshPage at hresult
        split at hresult
        · cases hresult
        · rename_i page _
          dsimp only at hresult
          cases hrefresh : (page.document.refresh page.bindings e.registry names).1 with
          | ok count =>
              rw [hrefresh] at hresult
              cases hresult
          | error source =>
              rw [hrefresh] at hresult
              cases hresult
              rfl
      refine congrArg (·, _) ?_
      exact (reloading_error hnone).symm

theorem repairedCycle_error {result : Except GraphError Unit} {err : EngineError}
    (h : repairedCycle result = .error err) : err.outcome? = none := by
  unfold repairedCycle at h
  split at h <;> cases h
  rfl

theorem names_valueChanged (he : e.Sound) (name : String) :
    (e.network.valueChanged name).2.registry.names = e.registry.names :=
  (Network.regular_valueChanged he.regular name).2.names_eq

/-- **Following a change in the engine commutes with counting.** -/
theorem commit_counting (he : e.Sound) (h : Counted e.registry replaced) (name : String) :
    (e.counting replaced).commit name =
      (reloading replaced (e.commit name).1, (e.commit name).2.counting replaced) := by
  have hregular := (Network.regular_valueChanged he.regular name).1
  have hnames := names_valueChanged he name
  unfold commit
  have hnetwork : (e.counting replaced).network = e.network.counting replaced := rfl
  rw [hnetwork, Network.valueChanged_counting]
  generalize hnext : e.network.valueChanged name = next at hregular hnames ⊢
  obtain ⟨result, network⟩ := next
  have hsound : ({ e with network } : Engine).Sound := by
    refine ⟨hregular, ?_⟩
    change network.registry.names.Nodup
    rw [hnames]
    exact he.distinct
  have hcounted : Counted ({ e with network } : Engine).registry replaced := h.congr hnames
  have hafter : ({ e.counting replaced with network := network.counting replaced } : Engine) =
      ({ e with network } : Engine).counting replaced := rfl
  have hdependents : (({ e with network } : Engine).counting replaced).dependents name =
      ({ e with network } : Engine).dependents name :=
    congrArg (Except.mapError EngineError.graph) (network.dependents_counting replaced name)
  dsimp only
  rw [hafter, hdependents]
  cases hcycle : repairedCycle result with
  | error err => exact congrArg (·, _) (reloading_error (repairedCycle_error hcycle)).symm
  | ok cycle =>
      cases hnames : ({ e with network } : Engine).dependents name with
      | error err =>
          have hnone : err.outcome? = none := by
            unfold dependents at hnames
            cases hgraph : network.dependents name with
            | ok names =>
                rw [hgraph] at hnames
                cases hnames
            | error source =>
                rw [hgraph] at hnames
                cases hnames
                rfl
          exact congrArg (·, _) (reloading_error hnone).symm
      | ok dependents =>
          dsimp only
          rw [propagate_counting hsound hcounted]
          obtain ⟨answer, shown⟩ := ({ e with network } : Engine).propagate (name :: dependents)
          cases answer with
          | ok outcome => cases cycle <;> rfl
          | error err => cases cycle <;> cases err <;> rfl

@[simp] theorem kind_tally (p : Placeholder) (i : Nat) (replaced : List Target) :
    (p.tally i replaced).kind = p.kind := rfl

/-- The same placeholder is found, but for its counts. -/
theorem find_counting (e : Engine) (replaced : List Target) (name : String) :
    (∃ err, e.find name = .error err ∧ (e.counting replaced).find name = .error err ∧
      reloading replaced (.error err) = .error err) ∨
    ∃ p i, e.find name = .ok p ∧ (e.counting replaced).find name = .ok (p.tally i replaced) := by
  have hregistry : (e.counting replaced).registry = e.registry.tally replaced := rfl
  unfold find
  rw [hregistry, Registry.get?_tally]
  cases e.registry.get? name with
  | none => exact .inl ⟨_, rfl, rfl, rfl⟩
  | some p => exact .inr ⟨p, _, rfl, rfl⟩

theorem changeable_counting (e : Engine) (replaced : List Target) (name : String) :
    (∃ err, e.changeable name = .error err ∧ (e.counting replaced).changeable name = .error err ∧
      reloading replaced (.error err) = .error err) ∨
    ∃ p i, e.changeable name = .ok p ∧
      (e.counting replaced).changeable name = .ok (p.tally i replaced) := by
  unfold changeable
  rcases find_counting e replaced name with
    ⟨err, heq, heq', hsame⟩ | ⟨p, i, heq, heq'⟩
  · rw [heq, heq']
    exact .inl ⟨err, rfl, rfl, hsame⟩
  · have hreadOnly : (p.tally i replaced).readOnly = p.readOnly := rfl
    rw [heq, heq']
    dsimp only
    rw [hreadOnly]
    split
    · exact .inl ⟨_, rfl, rfl, rfl⟩
    · exact .inr ⟨p, i, rfl, rfl⟩

/-- What is stored and written commutes with counting if it leaves the counts alone. -/
theorem storeThenCommit_counting (he : e.Sound) (h : Counted e.registry replaced) (name : String)
    (write : Store → Except StorageError Unit × Store) {f : Placeholder → Placeholder}
    (hf : ∀ i p, f (p.tally i replaced) = (f p).tally i replaced) (hname : ∀ p, (f p).name = p.name) :
    (e.counting replaced).storeThenCommit name write f =
      (reloading replaced (e.storeThenCommit name write f).1,
        (e.storeThenCommit name write f).2.counting replaced) := by
  unfold storeThenCommit
  have hstore : (e.counting replaced).store = e.store := rfl
  rw [hstore]
  rcases write e.store with ⟨_ | _, store⟩
  · rfl
  · have hnames : (e.registry.modify name f).names = e.registry.names := by
      unfold Registry.modify
      split
      · exact e.registry.names_modifyAt _ hname
      · rfl
    have hsound : ((e.storing store).writing name f).Sound := (he.storing store).withRegistry hnames
    have hwritten : ((e.counting replaced).storing store).writing name f =
        ((e.storing store).writing name f).counting replaced :=
      congrArg (fun r => ({ e.storing store with network := ⟨r, e.network.graph⟩ } : Engine))
        (e.registry.modify_tally replaced name hf)
    have hcommit := commit_counting hsound (h.congr hnames) name
    rw [← hwritten] at hcommit
    exact hcommit

/-! ## 5. Calls -/

theorem setText_counting (he : e.Sound) (h : Counted e.registry replaced) (name value : String) :
    (e.counting replaced).setText name value =
      (reloading replaced (e.setText name value).1, (e.setText name value).2.counting replaced) := by
  unfold setText
  rcases changeable_counting e replaced name with
    ⟨err, heq, heq', hsame⟩ | ⟨p, i, heq, heq'⟩
  · rw [heq, heq', hsame]
  · have haccepts : (p.tally i replaced).accepts value = p.accepts value := rfl
    rw [heq, heq']
    dsimp only
    rw [kind_tally, haccepts]
    split
    · split
      · exact storeThenCommit_counting he h name _ (fun _ _ => rfl) fun _ => rfl
      · rfl
    · rfl

theorem setChecked_counting (he : e.Sound) (h : Counted e.registry replaced) (name : String)
    (checked : Bool) : (e.counting replaced).setChecked name checked =
      (reloading replaced (e.setChecked name checked).1,
        (e.setChecked name checked).2.counting replaced) := by
  unfold setChecked
  rcases changeable_counting e replaced name with
    ⟨err, heq, heq', hsame⟩ | ⟨p, i, heq, heq'⟩
  · rw [heq, heq', hsame]
  · rw [heq, heq']
    dsimp only
    rw [kind_tally]
    split
    · exact storeThenCommit_counting he h name _ (fun _ _ => rfl) fun _ => rfl
    · rfl

theorem selectIndex_counting (he : e.Sound) (h : Counted e.registry replaced) (name : String)
    (index : Nat) : (e.counting replaced).selectIndex name index =
      (reloading replaced (e.selectIndex name index).1,
        (e.selectIndex name index).2.counting replaced) := by
  unfold selectIndex
  rcases changeable_counting e replaced name with
    ⟨err, heq, heq', hsame⟩ | ⟨p, i, heq, heq'⟩
  · rw [heq, heq', hsame]
  · rw [heq, heq']
    dsimp only
    rw [kind_tally]
    split
    · exact storeThenCommit_counting he h name _ (fun _ _ => rfl) fun _ => rfl
    · rfl

theorem toggle_counting (he : e.Sound) (h : Counted e.registry replaced) (name : String) :
    (e.counting replaced).toggle name =
      (reloading replaced (e.toggle name).1, (e.toggle name).2.counting replaced) := by
  unfold toggle
  rcases find_counting e replaced name with
    ⟨err, heq, heq', hsame⟩ | ⟨p, i, heq, heq'⟩
  · rw [heq, heq', hsame]
  · rw [heq, heq']
    dsimp only
    rw [kind_tally]
    split
    · exact setChecked_counting he h name _
    · rfl

theorem cycleIndex_counting (he : e.Sound) (h : Counted e.registry replaced) (name : String)
    (delta : Int) : (e.counting replaced).cycleIndex name delta =
      (reloading replaced (e.cycleIndex name delta).1,
        (e.cycleIndex name delta).2.counting replaced) := by
  unfold cycleIndex
  rcases find_counting e replaced name with
    ⟨err, heq, heq', hsame⟩ | ⟨p, i, heq, heq'⟩
  · rw [heq, heq', hsame]
  · rw [heq, heq']
    dsimp only
    rw [kind_tally]
    split
    · exact selectIndex_counting he h name _
    · rfl

theorem placeholderChanged_counting (he : e.Sound) (h : Counted e.registry replaced) (name : String) :
    (e.counting replaced).placeholderChanged name =
      (reloading replaced (e.placeholderChanged name).1,
        (e.placeholderChanged name).2.counting replaced) := by
  have hcontains : (e.counting replaced).registry.contains name = e.registry.contains name := by
    change (e.registry.tally replaced).contains name = _
    rw [Registry.contains, Registry.get?_tally, Option.isSome_map]
    rfl
  unfold placeholderChanged
  rw [hcontains]
  split
  · exact commit_counting he h name
  · rfl

/-- A change commutes with counting. -/
theorem change_counting (he : e.Sound) (h : Counted e.registry replaced) (c : Change) :
    c.apply (e.counting replaced) =
      (reloading replaced (c.apply e).1, (c.apply e).2.counting replaced) := by
  cases c with
  | setText name value => exact setText_counting he h name value
  | setChecked name checked => exact setChecked_counting he h name checked
  | toggle name => exact toggle_counting he h name
  | selectIndex name index => exact selectIndex_counting he h name index
  | cycleIndex name delta => exact cycleIndex_counting he h name delta
  | placeholderChanged name => exact placeholderChanged_counting he h name

/-- A pass over another page replaces the same, and adds what it counts. -/
theorem attach_counting (page : Page) :
    ((e.counting replaced).attach page).2 = (e.attach page).2.counting replaced := by
  have hregistry : (e.counting replaced).registry = e.registry.tally replaced := rfl
  unfold Engine.attach expandPage Document.expand
  rw [hregistry, Registry.targets_tally]
  cases page.document.contains page.root with
  | false => rfl
  | true =>
      cases e.registry.targets with
      | error source => rfl
      | ok lexicon =>
          simp only [Bool.not_true, Bool.false_eq_true, if_false]
          exact congrArg (fun r => ({ e with
            network := ⟨r, e.network.graph⟩
            page := some { page with
              document := (page.document.expandBelow lexicon page.root).1
              bindings := Bindings.scan (page.document.expandBelow lexicon page.root).1 page.root } } :
              Engine))
            (e.registry.tally_comm replaced (page.document.expandBelow lexicon page.root).2)

theorem rerun_counting : (e.counting replaced).rerun.2 = e.rerun.2.counting replaced := by
  unfold Engine.rerun
  have hpage : (e.counting replaced).page = e.page := rfl
  rw [hpage]
  cases e.page with
  | none => rfl
  | some page => exact attach_counting page

theorem setToggle_counting (t : Toggle) (on : Bool) :
    ((e.counting replaced).setToggle t on).2 = (e.setToggle t on).2.counting replaced := by
  unfold setToggle
  have hstore : (e.counting replaced).store = e.store := rfl
  rw [hstore]
  rcases e.store.storeToggle t.key on with ⟨_ | _, store⟩ <;> rfl

theorem names_byDefault (e : Engine) (store : Store) :
    (e.byDefault store).registry.names = e.registry.names :=
  (Network.regular_build e.registry.resetToDefaults).2.names_eq.trans
    (Registry.names_resetToDefaults e.registry)

theorem byDefault_counting (store : Store) :
    (e.counting replaced).byDefault store = (e.byDefault store).counting replaced := by
  have hbuild : Network.build (e.counting replaced).registry.resetToDefaults =
      ((Network.build e.registry.resetToDefaults).1.counting replaced,
        (Network.build e.registry.resetToDefaults).2) := by
    rw [← Network.build_tally, ← Registry.resetToDefaults_tally]
    rfl
  unfold byDefault
  rw [hbuild]
  rfl

theorem reset_counting (he : e.Sound) (h : Counted e.registry replaced) :
    (e.counting replaced).reset =
      (reloading replaced e.reset.1, e.reset.2.counting replaced) := by
  have herror : ∀ (other : Engine) {source store}, other.store.clearPlaceholders = (.error source, store) →
      other.reset = (.error (.persistence source), other.storing store) := by
    intro other source store hclear
    unfold reset
    rw [hclear]
    rfl
  have hdone : ∀ (other : Engine) {removed store}, other.store.clearPlaceholders = (.ok removed, store) →
      other.reset = (other.byDefault store).propagate (other.byDefault store).registry.names := by
    intro other removed store hclear
    unfold reset
    rw [hclear]
    rfl
  rcases hclear : e.store.clearPlaceholders with ⟨source | removed, store⟩
  · rw [herror e hclear, herror (e.counting replaced) hclear]
    rfl
  · have hcounted : Counted (e.byDefault store).registry replaced := h.congr (names_byDefault e store)
    have hnames : ((e.byDefault store).counting replaced).registry.names =
        (e.byDefault store).registry.names := names_tally _ replaced
    rw [hdone e hclear, hdone (e.counting replaced) hclear, byDefault_counting, hnames,
      propagate_counting (he.byDefault store) hcounted]

/-- **Every call does the same if more has been counted**, but for the reloads that its outcome asks
    for. -/
theorem Action.apply_counting (he : e.Sound) (h : Counted e.registry replaced) (a : Action) :
    a.apply (e.counting replaced) =
      ((a.apply e).1.map (Outcome.reloading replaced), (a.apply e).2.counting replaced) := by
  cases a with
  | change c =>
      simp only [Action.apply, change_counting he h, outcome?_reloading]
  | attach page => exact congrArg (none, ·) (attach_counting page)
  | rerun => exact congrArg (none, ·) rerun_counting
  | detach => rfl
  | setToggle t on => exact congrArg (none, ·) (setToggle_counting t on)
  | reset => simp only [Action.apply, reset_counting he h, outcome?_reloading]
  | takeDiagnostics => rfl

/-! ## 6. Runs -/

theorem names_attach (e : Engine) (page : Page) :
    (e.attach page).2.registry.names = e.registry.names := by
  rcases e.attach_cases page with heq | ⟨replaced, attached, heq⟩
  · rw [heq]
  · rw [heq]
    exact names_tally _ _

/-- No call changes a name, or the order of placeholders. -/
theorem Action.names_apply (he : e.Sound) (a : Action) :
    (a.apply e).2.registry.names = e.registry.names := by
  cases a with
  | change c =>
      rcases followed_answer he (c.answer_apply e) with
        ⟨_, store, heq⟩ | ⟨o, name, store, f, _, hf, hfollowed⟩
      · exact congrArg (·.registry.names) heq
      · exact hfollowed.alike.names_eq.trans (names_modify e.registry name hf)
  | attach page => exact names_attach e page
  | rerun =>
      rcases e.rerun_cases with heq | ⟨page, heq⟩
      · exact congrArg (·.registry.names) heq
      · exact (congrArg (·.registry.names) heq).trans (names_attach e page)
  | detach => rfl
  | setToggle t on =>
      change (e.setToggle t on).2.registry.names = _
      unfold Engine.setToggle
      split <;> rfl
  | reset =>
      rcases e.reset_cases with ⟨_, store, _, heq⟩ | ⟨_, store, _, _, heq⟩
      · exact congrArg (·.registry.names) (congrArg Prod.snd heq)
      · exact (congrArg (·.registry.names) (congrArg Prod.snd heq)).trans (names_byDefault e store)
  | takeDiagnostics => rfl

/-- **Every run has the same outcomes if more has been counted**, but for the reloads that they ask
    for. -/
theorem outcomes_counting (he : e.Sound) (h : Counted e.registry replaced) (actions : List Action) :
    (e.counting replaced).outcomes actions =
      (e.outcomes actions).map (Outcome.reloading replaced) := by
  induction actions generalizing e with
  | nil => rfl
  | cons a rest ih =>
      rw [outcomes, outcomes, a.apply_counting he h, List.map_append,
        ih (he.apply a) (h.congr (a.names_apply he))]
      cases (a.apply e).1 <;> rfl

end Counting

end Engine

end Placeholders
