import Placeholders.Proofs.Validation.Imports
import Placeholders.Proofs.Validation.Repetition

/-!
# What a catalog is compiled to

Compilation has two phases: first the own rules of every specification, then imports. Here is what comes
of the two, id by id.

* `ownSource?` is what an id stands for before imports are followed: the first specification with that id if
  its own rules compile, and else the built-in rule-set. That is what the first phase collects
  (`get?_draftFrom`), whatever the order.
* `IsJoin` is a rule-set that holds the rules of all that a source reaches. The second phase makes one of
  each specification that is left, unless something reached is unknown (`join_cases`).
* `get?_compile` puts both together.
* `conjunction_of_imports`: a joined rule-set accepts what the own rules of all it reaches accept.
-/

namespace Placeholders.Validation

/-! ## 1. Own rules -/

/-- The source that a specification comes to, if its own rules compile. -/
def RuleSetSpec.source? (spec : RuleSetSpec) (host : Host) : Option Source :=
  match spec.ownRules host with
  | .ok rules => some ⟨spec.displayName, rules, spec.imports⟩
  | .error _ => none

/-- The source of the first specification with an id. -/
def customSource? (host : Host) (specs : List RuleSetSpec) (id : String) : Option Source :=
  (specs.find? fun spec => spec.id == id).bind fun spec => spec.source? host

/-- The source of a built-in rule-set. -/
def builtInSource? (id : String) : Option Source :=
  (Catalog.builtIn.get? id).map fun set => ⟨set.displayName, set.rules, []⟩

/-- What an id stands for before imports are followed. -/
def ownSource? (host : Host) (specs : List RuleSetSpec) (id : String) : Option Source :=
  (customSource? host specs id).or (builtInSource? id)

section Own

variable {host : Host} {specs : List RuleSetSpec}

theorem RuleSetSpec.source?_eq_some {spec : RuleSetSpec} {source : Source}
    (h : spec.source? host = some source) :
    spec.ownRules host = .ok source.rules ∧ source.displayName = spec.displayName := by
  unfold source? at h
  split at h
  · rename_i rules hrules
    cases h
    exact ⟨hrules, rfl⟩
  · cases h

theorem RuleSetSpec.source?_eq_none_iff {spec : RuleSetSpec} :
    spec.source? host = none ↔ ∃ e, spec.ownRules host = .error e := by
  unfold source?
  cases spec.ownRules host <;> simp

theorem exists_of_customSource? {id : String} {source : Source}
    (h : customSource? host specs id = some source) :
    ∃ spec ∈ specs, spec.id = id ∧ spec.source? host = some source := by
  obtain ⟨spec, hfind, hsource⟩ := Option.bind_eq_some_iff.mp h
  have hid : spec.id = id := by simpa using List.find?_some hfind
  exact ⟨spec, List.mem_of_find?_eq_some hfind, hid, hsource⟩

theorem customSource?_cons (spec : RuleSetSpec) (id : String) :
    customSource? host (spec :: specs) id =
      if spec.id = id then spec.source? host else customSource? host specs id := by
  unfold customSource?
  rw [List.find?_cons]
  by_cases hid : spec.id = id
  · rw [if_pos hid, show (spec.id == id) = true by simpa using hid]
    rfl
  · rw [if_neg hid, show (spec.id == id) = false by simpa using hid]

theorem mem_of_get?_foldl_insert {sets : List RuleSet} {catalog : Catalog} {id : String} {set : RuleSet}
    (h : (sets.foldl Catalog.insert catalog).get? id = some set) :
    set ∈ sets ∨ catalog.get? id = some set := by
  induction sets generalizing catalog with
  | nil => exact .inr h
  | cons first sets ih =>
      rcases ih h with hmem | hget
      · exact .inl (List.mem_cons_of_mem _ hmem)
      · have hinsert : (catalog.sets.insert first.id first).get? id = some set := hget
        rw [Keyed.get?_insert] at hinsert
        split at hinsert
        · cases hinsert
          exact .inl List.mem_cons_self
        · exact .inr hinsert

/-- The rule-set that an error is about. -/
def RuleError.subject : RuleError → String
  | emptyRuleSet id | invalidPattern id _ | ambiguousTest id _ | unknownPredicate id _
  | unknownImport id _ | unknownRuleSet id | duplicateRuleSet id => id

/-- An error of an own rule is about the rule-set that it stands in, and not about imports. -/
def RuleError.IsOwn (id : String) (e : RuleError) : Prop :=
  e.subject = id ∧ ∀ unknown, e ≠ .unknownImport id unknown

theorem RuleSpec.isOwn_of_compile {spec : RuleSpec} {id : String} {index : Nat} {e : RuleError}
    (h : spec.compile host id index = .error e) : e.IsOwn id := by
  unfold RuleSpec.compile at h
  split at h
  · cases h
  · rename_i htest
    cases h
    unfold RuleSpec.test at htest
    dsimp only at htest
    split at htest
    · rename_i source _ _
      split at htest
      · cases htest
        exact ⟨rfl, nofun⟩
      · cases hread : Test.ofPattern id source with
        | ok test =>
            rw [hread] at htest
            cases htest
        | error e =>
            rw [hread] at htest
            cases htest
            unfold Test.ofPattern at hread
            split at hread
            · cases hread
            · cases hread
              exact ⟨rfl, nofun⟩
    · split at htest
      · cases htest
        exact ⟨rfl, nofun⟩
      · split at htest
        · cases htest
        · cases htest
          exact ⟨rfl, nofun⟩
    · cases htest
      exact ⟨rfl, nofun⟩

theorem isOwn_of_compileRules {id : String} {index : Nat} {rules : List RuleSpec} {e : RuleError}
    (h : compileRules host id index rules = .error e) : e.IsOwn id := by
  induction rules generalizing index with
  | nil => cases h
  | cons rule rules ih =>
      rw [compileRules] at h
      split at h
      · rename_i hrule
        cases h
        exact RuleSpec.isOwn_of_compile hrule
      · split at h
        · rename_i hrest
          cases h
          exact ih hrest
        · cases h

theorem RuleSetSpec.isOwn_of_ownRules {spec : RuleSetSpec} {e : RuleError}
    (h : spec.ownRules host = .error e) : e.IsOwn spec.id := by
  unfold ownRules at h
  split at h
  · cases h
    exact ⟨rfl, nofun⟩
  · exact isOwn_of_compileRules h

/-- All that an id can stand for has genuine rules. -/
theorem genuine_of_ownSource? {id : String} {source : Source}
    (h : ownSource? host specs id = some source) : ∀ r ∈ source.rules, r.Genuine host := by
  rcases Option.or_eq_some_iff.mp h with hcustom | ⟨_, hbuiltIn⟩
  · obtain ⟨spec, _, _, hsource⟩ := exists_of_customSource? hcustom
    exact (RuleSetSpec.ownRules_spec (RuleSetSpec.source?_eq_some hsource).1).2
  · obtain ⟨set, hset, rfl⟩ := Option.map_eq_some_iff.mp hbuiltIn
    rcases mem_of_get?_foldl_insert hset with hmem | hempty
    · exact genuine_of_mem_builtIn hmem
    · cases hempty

end Own

/-! ## 2. The first phase -/

namespace Catalog

section Draft

variable {host : Host}

/-- **The first phase collects what ids stand for.** -/
theorem get?_draftFrom (seen : List String) (draft : Draft) (specs : List RuleSetSpec) (id : String) :
    (draftFrom host seen draft specs).sources.get? id =
      if id ∈ seen then draft.sources.get? id
      else (customSource? host specs id).or (draft.sources.get? id) := by
  induction specs generalizing seen draft with
  | nil => simp [draftFrom, customSource?]
  | cons spec specs ih =>
      rw [draftFrom, customSource?_cons]
      split
      · rename_i hseen
        have hmem : spec.id ∈ seen := by simpa using hseen
        rw [ih]
        by_cases hid : id ∈ seen
        · rw [if_pos hid, if_pos hid]
        · have hne : spec.id ≠ id := fun h => hid (h ▸ hmem)
          rw [if_neg hid, if_neg hid, if_neg hne]
      · rename_i hnew
        have hmem : spec.id ∉ seen := by simpa using hnew
        by_cases heq : spec.id = id
        · -- The first specification with the id: none of the later ones is looked at.
          subst heq
          rw [if_neg hmem, if_pos rfl]
          split
          · rename_i e hrules
            rw [ih, if_pos List.mem_cons_self, RuleSetSpec.source?_eq_none_iff.mpr ⟨e, hrules⟩,
              Option.none_or]
          · rename_i rules hrules
            have hsource : spec.source? host = some ⟨spec.displayName, rules, spec.imports⟩ := by
              rw [RuleSetSpec.source?, hrules]
            rw [ih, if_pos List.mem_cons_self, hsource, Keyed.get?_insert_self, Option.some_or]
        · have hiff : id ∈ spec.id :: seen ↔ id ∈ seen := by
            rw [List.mem_cons, or_iff_right (Ne.symm heq)]
          rw [if_neg heq]
          split
          · rw [ih]
            simp only [hiff]
          · rw [ih]
            simp only [hiff, Keyed.get?_insert, if_neg heq]

theorem mem_ids_draftFrom (seen : List String) (draft : Draft) (specs : List RuleSetSpec) (id : String) :
    id ∈ (draftFrom host seen draft specs).ids ↔
      id ∈ draft.ids ∨ id ∉ seen ∧ (customSource? host specs id).isSome = true := by
  induction specs generalizing seen draft with
  | nil => simp [draftFrom, customSource?]
  | cons spec specs ih =>
      rw [draftFrom, customSource?_cons]
      split
      · rename_i hseen
        have hmem : spec.id ∈ seen := by simpa using hseen
        rw [ih]
        refine or_congr_right (and_congr_right fun hid => ?_)
        have hne : spec.id ≠ id := fun h => hid (h ▸ hmem)
        rw [if_neg hne]
      · rename_i hnew
        have hmem : spec.id ∉ seen := by simpa using hnew
        split
        · rename_i e hrules
          rw [ih, List.mem_cons, not_or]
          by_cases heq : spec.id = id
          · subst heq
            simp [RuleSetSpec.source?, hrules]
          · simp [heq, Ne.symm heq]
        · rename_i rules hrules
          rw [ih, List.mem_cons, not_or, List.mem_append, List.mem_singleton]
          by_cases heq : spec.id = id
          · subst heq
            simp [RuleSetSpec.source?, hrules, hmem]
          · simp [heq, Ne.symm heq]

end Draft

/-- What is left of the specifications over the built-in rule-sets. -/
def drafted (host : Host) (specs : List RuleSetSpec) : Draft :=
  draftFrom host [] ⟨builtInSources, [], []⟩ specs

theorem get?_foldl_source {sets : List RuleSet} {sources : Sources} {catalog : Catalog} {id : String}
    (h : sources.get? id = (catalog.get? id).map fun set => ⟨set.displayName, set.rules, []⟩) :
    ((sets.map fun set => (set.id, (⟨set.displayName, set.rules, []⟩ : Source))).foldl
        (fun m pair => m.insert pair.1 pair.2) sources).get? id =
      ((sets.foldl insert catalog).get? id).map fun set => ⟨set.displayName, set.rules, []⟩ := by
  induction sets generalizing sources catalog with
  | nil => exact h
  | cons set sets ih =>
      refine ih ?_
      have hget : (catalog.insert set).get? id = if set.id = id then some set else catalog.get? id :=
        Keyed.get?_insert
      rw [Keyed.get?_insert, hget]
      split
      · rfl
      · exact h

theorem get?_builtInSources (id : String) : builtInSources.get? id = builtInSource? id := by
  unfold builtInSources builtInSource? builtIn Keyed.ofList
  -- The built-in rule-sets are not to be looked into.
  generalize Presets.builtIn = sets
  exact get?_foldl_source rfl

/-- **What the first phase knows is what ids stand for.** -/
theorem get?_drafted (host : Host) (specs : List RuleSetSpec) :
    (drafted host specs).sources.get? = ownSource? host specs := by
  funext id
  rw [drafted, get?_draftFrom, if_neg List.not_mem_nil, get?_builtInSources]
  rfl

theorem mem_ids_drafted (host : Host) (specs : List RuleSetSpec) (id : String) :
    id ∈ (drafted host specs).ids ↔ (customSource? host specs id).isSome = true := by
  rw [drafted, mem_ids_draftFrom]
  simp

end Catalog

/-! ## 3. Joining -/

/-- The own rules of several ids, in order. -/
def rulesIn (own : String → Option Source) (order : List String) : List Rule :=
  order.flatMap fun id => ((own id).map (·.rules)).getD []

theorem mem_rulesIn {own : String → Option Source} {order : List String} {r : Rule} :
    r ∈ rulesIn own order ↔ ∃ j ∈ order, ∃ source, own j = some source ∧ r ∈ source.rules := by
  refine List.mem_flatMap.trans (exists_congr fun j => and_congr_right fun _ => ?_)
  cases own j <;> simp

/-- A rule-set of the own rules of all that an id reaches, depth first and without repetitions. -/
structure IsJoin (own : String → Option Source) (id displayName : String) (set : RuleSet) : Prop where
  id_eq : set.id = id
  displayName_eq : set.displayName = displayName
  rules : ∃ order, DepthFirst own [] [id] order ∧ WithoutRepeats [] (rulesIn own order) set.rules

namespace IsJoin

variable {own : String → Option Source} {id displayName : String} {set : RuleSet}

/-- All that is reached is known. -/
theorem known (h : IsJoin own id displayName set) {j : String} (hj : Reaches own id j) :
    (own j).isSome = true := by
  obtain ⟨order, horder, _⟩ := h.rules
  exact (horder.reaches ((horder.mem_iff j).mpr hj)).1

theorem mem_rules_iff (h : IsJoin own id displayName set) (r : Rule) :
    r ∈ set.rules ↔ ∃ j source, Reaches own id j ∧ own j = some source ∧ r ∈ source.rules := by
  obtain ⟨order, horder, hrules⟩ := h.rules
  have hmem := hrules.mem_iff r
  simp only [List.not_mem_nil, false_or] at hmem
  rw [hmem, mem_rulesIn]
  constructor
  · rintro ⟨j, hj, source, hsource, hr⟩
    exact ⟨j, source, (horder.mem_iff j).mp hj, hsource, hr⟩
  · rintro ⟨j, source, hj, hsource, hr⟩
    exact ⟨j, (horder.mem_iff j).mpr hj, source, hsource, hr⟩

/-- **A joined rule-set accepts what all it reaches accept**: no own rule of error severity rejects it. -/
theorem accepts_iff (h : IsJoin own id displayName set) (value : String) :
    set.accepts value = true ↔ ∀ j source, Reaches own id j → own j = some source →
      ∀ r ∈ source.rules, r.severity = .error → r.rejects value = false := by
  have haccepts : set.accepts value = true ↔
      ∀ r ∈ set.rules, r.severity = .error → r.rejects value = false := by
    simp [RuleSet.accepts, ← Decidable.imp_iff_not_or]
  rw [haccepts]
  constructor
  · exact fun hset j source hj hsource r hr =>
      hset r ((h.mem_rules_iff r).mpr ⟨j, source, hj, hsource, hr⟩)
  · intro hown r hr
    obtain ⟨j, source, hj, hsource, hr⟩ := (h.mem_rules_iff r).mp hr
    exact hown j source hj hsource r hr

/-- **A value is clean for a joined rule-set if no own rule of what it reaches rejects it.** -/
theorem isClean_iff (h : IsJoin own id displayName set) (value : String) :
    (set.check value).isClean = true ↔ ∀ j source, Reaches own id j → own j = some source →
      ∀ r ∈ source.rules, r.rejects value = false := by
  have hclean : (set.check value).isClean = true ↔ ∀ r ∈ set.rules, r.rejects value = false := by
    simp [RuleSet.isClean_check, RuleSet.clears]
  rw [hclean]
  constructor
  · exact fun hset j source hj hsource r hr =>
      hset r ((h.mem_rules_iff r).mpr ⟨j, source, hj, hsource, hr⟩)
  · intro hown r hr
    obtain ⟨j, source, hj, hsource, hr⟩ := (h.mem_rules_iff r).mp hr
    exact hown j source hj hsource r hr

/-- Rule-sets that reach each other agree about every value. -/
theorem agree {other otherName : String} {set' : RuleSet} (h : IsJoin own id displayName set)
    (h' : IsJoin own other otherName set') (hthere : Reaches own id other)
    (hback : Reaches own other id) (value : String) :
    set'.accepts value = set.accepts value ∧ (set'.check value).isClean = (set.check value).isClean := by
  have hreaches : ∀ j, Reaches own other j ↔ Reaches own id j := fun j =>
    ⟨hthere.trans, hback.trans⟩
  constructor
  · rw [Bool.eq_iff_iff, h'.accepts_iff, h.accepts_iff]
    simp only [hreaches]
  · rw [Bool.eq_iff_iff, h'.isClean_iff, h.isClean_iff]
    simp only [hreaches]

end IsJoin

namespace Catalog

section Join

variable {host : Host} {specs : List RuleSetSpec}

/-- **What a specification is joined to**: a rule-set with the rules of all it reaches, or an error that
    names something unknown among it. -/
theorem join_cases {id : String} {source : Source} (h : customSource? host specs id = some source) :
    (∃ set, join (drafted host specs).sources id = .ok set ∧
      IsJoin (ownSource? host specs) id source.displayName set) ∨
    ∃ unknown, join (drafted host specs).sources id = .error (.unknownImport id unknown) ∧
      ownSource? host specs unknown = none ∧ Reaches (ownSource? host specs) id unknown := by
  have hget := get?_drafted host specs
  generalize drafted host specs = draft at hget ⊢
  have hown : ownSource? host specs id = some source := by rw [ownSource?, h, Option.some_or]
  unfold join
  rcases importOrder_cases draft.sources id with ⟨order, horder, hdepth⟩ | ⟨unknown, horder, hnone, hreaches⟩
  · rw [hget] at hdepth
    have hrules : rulesOf draft.sources order = rulesIn (ownSource? host specs) order := by
      rw [← hget]
      unfold rulesOf rulesIn
      congr 1
      funext j
      cases draft.sources.get? j <;> rfl
    have hgenuine : ∀ r ∈ rulesIn (ownSource? host specs) order, r.Genuine host := by
      intro r hr
      obtain ⟨j, _, source, hsource, hr⟩ := mem_rulesIn.mp hr
      exact genuine_of_ownSource? hsource r hr
    -- The own rules of the id itself are among them, so there is at least one.
    have hne : rulesIn (ownSource? host specs) order ≠ [] := by
      obtain ⟨spec, _, _, hspec⟩ := exists_of_customSource? h
      obtain ⟨r, hr⟩ := List.exists_mem_of_ne_nil _
        (RuleSetSpec.ownRules_spec (RuleSetSpec.source?_eq_some hspec).1).1
      have hself : id ∈ order := (hdepth.mem_iff id).mpr .refl
      exact List.ne_nil_of_mem (mem_rulesIn.mpr ⟨id, hself, source, hown, hr⟩)
    have hsome : ¬ (distinctRules (rulesIn (ownSource? host specs) order)).isEmpty = true := by
      simpa using distinctRules_ne_nil hne
    refine .inl ⟨⟨id, source.displayName, distinctRules (rulesIn (ownSource? host specs) order)⟩, ?_, rfl,
      rfl, order, hdepth, withoutRepeats_distinctRules hgenuine⟩
    rw [horder, hget, hown]
    dsimp only
    rw [hrules]
    exact if_neg hsome
  · rw [hget] at hnone hreaches
    exact .inr ⟨unknown, by rw [horder], hnone, hreaches⟩

/-- The error that an id leaves in the second phase. -/
def joinError? (sources : Sources) (id : String) : Option RuleError :=
  match join sources id with
  | .ok _ => none
  | .error e => some e

theorem errors_joinAll (sources : Sources) (catalog : Catalog) (errors : List RuleError)
    (ids : List String) :
    (joinAll sources catalog errors ids).2 = errors ++ ids.filterMap (joinError? sources) := by
  induction ids generalizing catalog errors with
  | nil => simp [joinAll]
  | cons id ids ih =>
      rw [joinAll, List.filterMap_cons]
      cases hjoin : join sources id with
      | ok set => simp only [joinError?, hjoin, ih]
      | error e => simp only [joinError?, hjoin, ih, List.append_assoc, List.singleton_append]

theorem id_of_join {sources : Sources} {id : String} {set : RuleSet} (h : join sources id = .ok set) :
    set.id = id := by
  unfold join at h
  split at h
  · cases h
  · unfold RuleSet.ofRules at h
    dsimp only at h
    split at h
    · cases h
    · cases h
      rfl

/-- The second phase puts in what can be joined, and leaves all else alone. -/
theorem get?_joinAll (sources : Sources) (catalog : Catalog) (errors : List RuleError)
    (ids : List String) (id : String) :
    (joinAll sources catalog errors ids).1.get? id =
      if id ∈ ids then (join sources id).toOption.or (catalog.get? id) else catalog.get? id := by
  induction ids generalizing catalog errors with
  | nil => simp [joinAll]
  | cons first ids ih =>
      rw [joinAll]
      cases hjoin : join sources first with
      | ok set =>
          have hget : (catalog.insert set).get? id = if first = id then some set else catalog.get? id := by
            rw [← id_of_join hjoin]
            exact Keyed.get?_insert
          simp only [ih, hget, List.mem_cons]
          by_cases heq : first = id
          · subst heq
            simp [hjoin, Except.toOption]
          · simp [heq, Ne.symm heq]
      | error e =>
          simp only [ih, List.mem_cons]
          by_cases heq : first = id
          · subst heq
            simp [hjoin, Except.toOption]
          · simp [Ne.symm heq]

end Join

/-! ## 4. Both phases -/

theorem compile_eq (host : Host) (specs : List RuleSetSpec) : compile host specs =
    joinAll (drafted host specs).sources builtIn (drafted host specs).errors (drafted host specs).ids := rfl

/-- The first phase complains of what is defined again and of own rules that do not compile. -/
theorem mem_errors_draftFrom {host : Host} {seen : List String} {draft : Draft}
    {specs : List RuleSetSpec} {e : RuleError} (h : e ∈ (draftFrom host seen draft specs).errors) :
    e ∈ draft.errors ∨ ∃ spec ∈ specs, e = .duplicateRuleSet spec.id ∨ spec.ownRules host = .error e := by
  induction specs generalizing seen draft with
  | nil => exact .inl h
  | cons spec specs ih =>
      have hlater : (∃ other ∈ specs, e = .duplicateRuleSet other.id ∨ other.ownRules host = .error e) →
          ∃ other ∈ spec :: specs, e = .duplicateRuleSet other.id ∨ other.ownRules host = .error e :=
        fun ⟨other, hother, he⟩ => ⟨other, List.mem_cons_of_mem _ hother, he⟩
      rw [draftFrom] at h
      split at h
      · rcases ih h with hmem | hmem
        · rcases List.mem_append.mp hmem with hmem | hmem
          · exact .inl hmem
          · exact .inr ⟨spec, List.mem_cons_self, .inl (List.mem_singleton.mp hmem)⟩
        · exact .inr (hlater hmem)
      · split at h
        · rename_i e' hrules
          rcases ih h with hmem | hmem
          · rcases List.mem_append.mp hmem with hmem | hmem
            · exact .inl hmem
            · obtain rfl := List.mem_singleton.mp hmem
              exact .inr ⟨spec, List.mem_cons_self, .inr hrules⟩
          · exact .inr (hlater hmem)
        · exact (ih h).imp_right hlater

section Compile

variable {host : Host} {specs : List RuleSetSpec} {id : String} {source : Source}

/-- Only what can be imported names imports. -/
theorem isSome_customSource?_of_imports {a b : String} (h : Imports (ownSource? host specs) a b) :
    (customSource? host specs a).isSome = true := by
  obtain ⟨source, hsource, hb⟩ := h
  rcases Option.or_eq_some_iff.mp hsource with hcustom | ⟨_, hbuiltIn⟩
  · rw [hcustom]
    rfl
  · obtain ⟨set, _, rfl⟩ := Option.map_eq_some_iff.mp hbuiltIn
    cases hb

/-- A specification that can be joined is what the catalog has under its id. -/
theorem get?_compile_of_known (h : customSource? host specs id = some source)
    (hknown : ∀ j, Reaches (ownSource? host specs) id j → (ownSource? host specs j).isSome = true) :
    ∃ set, (compile host specs).1.get? id = some set ∧
      IsJoin (ownSource? host specs) id source.displayName set := by
  have hid : id ∈ (drafted host specs).ids := (mem_ids_drafted host specs id).mpr (by rw [h]; rfl)
  rcases join_cases h with ⟨set, hjoin, hset⟩ | ⟨unknown, _, hnone, hreaches⟩
  · refine ⟨set, ?_, hset⟩
    rw [compile_eq, get?_joinAll, if_pos hid, hjoin, Except.toOption, Option.some_or]
  · have hsome := hknown unknown hreaches
    rw [hnone] at hsome
    cases hsome

/-- Of a specification that cannot be joined there is an error, and the catalog has what was there before. -/
theorem get?_compile_of_unknown (h : customSource? host specs id = some source) {j : String}
    (hj : Reaches (ownSource? host specs) id j) (hnone : ownSource? host specs j = none) :
    (compile host specs).1.get? id = builtIn.get? id ∧
      ∃ unknown, RuleError.unknownImport id unknown ∈ (compile host specs).2 := by
  have hid : id ∈ (drafted host specs).ids := (mem_ids_drafted host specs id).mpr (by rw [h]; rfl)
  rcases join_cases h with ⟨set, _, hset⟩ | ⟨unknown, hjoin, _, _⟩
  · have hsome := hset.known hj
    rw [hnone] at hsome
    cases hsome
  · constructor
    · rw [compile_eq, get?_joinAll, if_pos hid, hjoin, Except.toOption, Option.none_or]
    · refine ⟨unknown, ?_⟩
      rw [compile_eq, errors_joinAll]
      refine List.mem_append_right _ (List.mem_filterMap.mpr ⟨id, hid, ?_⟩)
      rw [joinError?, hjoin]

/-- An error about an import names something unknown that is reached. -/
theorem reaches_of_unknownImport {unknown : String}
    (h : RuleError.unknownImport id unknown ∈ (compile host specs).2) :
    Reaches (ownSource? host specs) id unknown ∧ ownSource? host specs unknown = none := by
  rw [compile_eq, errors_joinAll] at h
  rcases List.mem_append.mp h with hdraft | hjoin
  · rcases mem_errors_draftFrom hdraft with hnil | ⟨spec, _, hduplicate | hown⟩
    · cases hnil
    · cases hduplicate
    · have hisOwn := RuleSetSpec.isOwn_of_ownRules hown
      obtain rfl : id = spec.id := hisOwn.1
      exact absurd rfl (hisOwn.2 unknown)
  · obtain ⟨other, hother, he⟩ := List.mem_filterMap.mp hjoin
    obtain ⟨source, hsource⟩ := Option.isSome_iff_exists.mp ((mem_ids_drafted host specs other).mp hother)
    rcases join_cases hsource with ⟨set, heq, _⟩ | ⟨found, heq, hnone, hreaches⟩
    · rw [joinError?, heq] at he
      cases he
    · rw [joinError?, heq] at he
      cases he
      exact ⟨hreaches, hnone⟩

end Compile

/-- **Imports mean conjunction over everything reached.** The own rules of a specification, the first of its
    id, compile. If all that it reaches is a built-in rule-set or a specification whose own rules compile,
    the catalog has a rule-set of it: its rules are those of all it reaches, depth first and without
    repetitions. It accepts a value exactly if no own rule of error severity of anything reached rejects
    it, and the value is clean exactly if no own rule of anything reached rejects it. Rule-sets that
    reach each other agree. Otherwise, and only then, there is an error about its imports, and the catalog
    has nothing of it. -/
theorem conjunction_of_imports (host : Host) (specs : List RuleSetSpec) {id : String} {source : Source}
    (h : customSource? host specs id = some source) :
    let own := ownSource? host specs
    let catalog := (compile host specs).1
    let errors := (compile host specs).2
    ((∀ j, Reaches own id j → (own j).isSome = true) →
      ∃ set, catalog.get? id = some set ∧ IsJoin own id source.displayName set ∧
        (∀ value, set.accepts value = true ↔ ∀ j reached, Reaches own id j → own j = some reached →
          ∀ r ∈ reached.rules, r.severity = .error → r.rejects value = false) ∧
        (∀ value, (set.check value).isClean = true ↔ ∀ j reached, Reaches own id j →
          own j = some reached → ∀ r ∈ reached.rules, r.rejects value = false) ∧
        ∀ other, Reaches own id other → Reaches own other id →
          ∃ set', catalog.get? other = some set' ∧ ∀ value, set'.accepts value = set.accepts value ∧
            (set'.check value).isClean = (set.check value).isClean) ∧
    ((∃ j, Reaches own id j ∧ own j = none) ↔
      ∃ unknown, RuleError.unknownImport id unknown ∈ errors) ∧
    ((∃ j, Reaches own id j ∧ own j = none) → catalog.get? id = builtIn.get? id) := by
  intro own catalog errors
  refine ⟨fun hknown => ?_, ⟨?_, ?_⟩, ?_⟩
  · obtain ⟨set, hset, hjoin⟩ := get?_compile_of_known h hknown
    refine ⟨set, hset, hjoin, hjoin.accepts_iff, hjoin.isClean_iff, fun other hthere hback => ?_⟩
    rcases Relation.ReflTransGen.cases_head hback with rfl | ⟨next, himports, _⟩
    · exact ⟨set, hset, fun value => ⟨rfl, rfl⟩⟩
    · obtain ⟨source', hsource'⟩ :=
        Option.isSome_iff_exists.mp (isSome_customSource?_of_imports himports)
      obtain ⟨set', hset', hjoin'⟩ :=
        get?_compile_of_known hsource' fun j hj => hknown j (hthere.trans hj)
      exact ⟨set', hset', hjoin.agree hjoin' hthere hback⟩
  · rintro ⟨j, hj, hnone⟩
    exact (get?_compile_of_unknown h hj hnone).2
  · rintro ⟨unknown, hmem⟩
    exact ⟨unknown, reaches_of_unknownImport hmem⟩
  · rintro ⟨j, hj, hnone⟩
    exact (get?_compile_of_unknown h hj hnone).1

/-- A host that can tell whether a text is short. -/
def measuring : Host where
  predicates := [("short", fun value => some (decide (value.length < 3)))]

/-- Two rule-sets that import each other, and one that imports what there is not. -/
def entangled : List RuleSetSpec := [
  ⟨"a", "A", [⟨.warning, none, some "short", false, some "too short"⟩], ["b"]⟩,
  ⟨"b", "B", [⟨.error, none, some "short", true, some "too long"⟩], ["a"]⟩,
  ⟨"c", "C", [⟨.error, none, some "short", true, none⟩], ["b", "?"]⟩]

/-- The two that import each other are joined and agree. The error of one of them is an error of the
    other. -/
theorem conjunction_of_imports_of_entangled :
    ∃ set set', (compile measuring entangled).1.get? "a" = some set ∧
      (compile measuring entangled).1.get? "b" = some set' ∧
      (∀ value, set'.accepts value = set.accepts value) ∧ set.accepts "long" = false := by
  have ha : ownSource? measuring entangled "a" =
      some ⟨"A", [⟨.warning, .predicate "short" fun value => some (decide (value.length < 3)), false,
        "too short"⟩], ["b"]⟩ := rfl
  have hb : ownSource? measuring entangled "b" =
      some ⟨"B", [⟨.error, .predicate "short" fun value => some (decide (value.length < 3)), true,
        "too long"⟩], ["a"]⟩ := rfl
  have hthere : Reaches (ownSource? measuring entangled) "a" "b" :=
    .single ⟨_, ha, List.mem_singleton_self _⟩
  have hback : Reaches (ownSource? measuring entangled) "b" "a" :=
    .single ⟨_, hb, List.mem_singleton_self _⟩
  have hreached : ∀ j, Reaches (ownSource? measuring entangled) "a" j → j = "a" ∨ j = "b" := by
    intro j hj
    induction hj with
    | refl => exact .inl rfl
    | tail _ himports ih =>
        obtain ⟨source, hsource, hmem⟩ := himports
        rcases ih with rfl | rfl
        · obtain rfl := Option.some.inj (ha.symm.trans hsource)
          exact .inr (List.mem_singleton.mp hmem)
        · obtain rfl := Option.some.inj (hb.symm.trans hsource)
          exact .inl (List.mem_singleton.mp hmem)
  have hcustom : customSource? measuring entangled "a" =
      some ⟨"A", [⟨.warning, .predicate "short" fun value => some (decide (value.length < 3)), false,
        "too short"⟩], ["b"]⟩ := rfl
  obtain ⟨hkept, _⟩ := conjunction_of_imports measuring entangled hcustom
  obtain ⟨set, hset, _, haccepts, _, hagree⟩ := hkept fun j hj => by
    rcases hreached j hj with rfl | rfl
    · rw [ha]
      rfl
    · rw [hb]
      rfl
  obtain ⟨set', hset', hsame⟩ := hagree "b" hthere hback
  refine ⟨set, set', hset, hset', fun value => (hsame value).1, ?_⟩
  refine Bool.eq_false_iff.mpr fun htrue => ?_
  have hlong := (haccepts "long").mp htrue "b" _ hthere hb _ List.mem_cons_self rfl
  exact absurd hlong (by decide +kernel)

end Catalog

end Placeholders.Validation
