import Mathlib.Data.List.Find
import Mathlib.Data.List.Nodup
import Placeholders.Proofs.Fates
import Placeholders.Proofs.Validation.Compilation

/-!
# What becomes of each specification

Compilation accounts for every specification of a list, and the order of the list does not matter where
the ids are distinct.

* `IsCompiled` is a specification that the catalog has a rule-set of. `fate?` is the error that any other
  leaves (`fate?_eq_none_iff`).
* The errors of both phases together are those of the specifications one by one (`errors_compile_perm`).
* Specifications with distinct ids are found wherever they stand, so what their ids stand for, the catalog
  and the errors do not depend on the order (`fst_compile_perm`, `snd_compile_perm`).
-/

namespace Placeholders.Validation

variable {host : Host} {specs others : List RuleSetSpec}

/-! ## 1. The first of its id -/

theorem take_append_cons_drop {i : Nat} {spec : RuleSetSpec} (hspec : specs[i]? = some spec) :
    specs.take i ++ spec :: specs.drop (i + 1) = specs := by
  obtain ⟨hi, rfl⟩ := List.getElem?_eq_some_iff.mp hspec
  rw [List.getElem_cons_drop, List.take_append_drop]

/-- Where no earlier specification has the id of one, that is the one that is found. -/
theorem customSource?_of_first {i : Nat} {spec : RuleSetSpec} (hspec : specs[i]? = some spec)
    (hfirst : spec.id ∉ (specs.take i).map (·.id)) :
    customSource? host specs spec.id = spec.source? host := by
  have hbefore : (specs.take i).find? (fun other => other.id == spec.id) = none := by
    refine List.find?_eq_none.mpr fun other hother hid => hfirst ?_
    exact List.mem_map.mpr ⟨other, hother, by simpa using hid⟩
  have hfind : specs.find? (fun other => other.id == spec.id) = some spec := by
    rw [← take_append_cons_drop hspec, List.find?_append, hbefore, Option.none_or,
      List.find?_cons_of_pos (by simp)]
  rw [customSource?, hfind, Option.bind_some]

/-- What is found is the first with its id. -/
theorem exists_first_of_customSource? {id : String} {source : Source}
    (h : customSource? host specs id = some source) :
    ∃ i spec, specs[i]? = some spec ∧ spec.id ∉ (specs.take i).map (·.id) ∧ spec.id = id ∧
      spec.source? host = some source := by
  obtain ⟨spec, hfind, hsource⟩ := Option.bind_eq_some_iff.mp h
  obtain ⟨hid, before, after, rfl, hbefore⟩ := List.find?_eq_some_iff_append.mp hfind
  have hkey : spec.id = id := by simpa using hid
  refine ⟨before.length, spec, by simp, ?_, hkey, hsource⟩
  rw [List.take_left, List.mem_map]
  rintro ⟨other, hother, heq⟩
  have hne : other.id ≠ id := by simpa using hbefore other hother
  exact hne (heq.trans hkey)

/-- Where ids are distinct, every specification is the first of its id. -/
theorem not_mem_take_of_nodup (hids : (specs.map (·.id)).Nodup) {i : Nat} {spec : RuleSetSpec}
    (hspec : specs[i]? = some spec) : spec.id ∉ (specs.take i).map (·.id) := by
  rw [← take_append_cons_drop hspec, List.map_append, List.map_cons] at hids
  exact fun hmem => (List.nodup_append.mp hids).2.2 _ hmem _ List.mem_cons_self rfl

/-- Specifications with distinct ids are found in any order. -/
theorem customSource?_perm (hids : (specs.map (·.id)).Nodup) (hperm : specs.Perm others) :
    customSource? host specs = customSource? host others := by
  funext id
  have hfind : specs.find? (fun spec => spec.id == id) = others.find? fun spec => spec.id == id := by
    refine List.find?_eq_find?_of_perm hperm fun a ha b hb => ?_
    have hkeys : a.id = b.id := by
      rw [show a.id = id by simpa using ha.2, show b.id = id by simpa using hb.2]
    exact List.inj_on_of_nodup_map hids ha.1 hb.1 hkeys
  rw [customSource?, hfind, customSource?]

namespace Catalog

/-! ## 2. One by one -/

/-- A specification that counts: it is the first of its id, its own rules compile, and the catalog has
    under its id the rules of all that it reaches. -/
structure IsCompiled (host : Host) (specs : List RuleSetSpec) (i : Nat) (spec : RuleSetSpec) : Prop where
  first : spec.id ∉ (specs.take i).map (·.id)
  own : ∃ rules, spec.ownRules host = .ok rules
  joined : ∃ set, (compile host specs).1.get? spec.id = some set ∧
    IsJoin (ownSource? host specs) spec.id spec.displayName set

/-- The error that a specification leaves, given those before it. -/
def fate? (host : Host) (sources : Sources) (before : List RuleSetSpec) (spec : RuleSetSpec) :
    Option RuleError :=
  if spec.id ∈ before.map (·.id) then some (.duplicateRuleSet spec.id)
  else
    match spec.ownRules host with
    | .error e => some e
    | .ok _ => joinError? sources spec.id

/-- A specification whose own rules compile leaves no error exactly if all that it reaches is known. -/
theorem joinError?_eq_none_iff {id : String} {source : Source}
    (h : customSource? host specs id = some source) :
    joinError? (drafted host specs).sources id = none ↔
      ∀ j, Reaches (ownSource? host specs) id j → (ownSource? host specs j).isSome = true := by
  rcases join_cases h with ⟨set, hjoin, hset⟩ | ⟨unknown, hjoin, hnone, hreaches⟩
  · refine iff_of_true ?_ fun j hj => hset.known hj
    rw [joinError?, hjoin]
  · refine iff_of_false ?_ fun hknown => ?_
    · rw [joinError?, hjoin]
      exact Option.some_ne_none _
    · have hsome := hknown unknown hreaches
      rw [hnone] at hsome
      cases hsome

/-- **A specification leaves an error or is compiled.** -/
theorem fate?_eq_none_iff {i : Nat} {spec : RuleSetSpec} (hspec : specs[i]? = some spec) :
    fate? host (drafted host specs).sources (specs.take i) spec = none ↔ IsCompiled host specs i spec := by
  unfold fate?
  by_cases hfirst : spec.id ∈ (specs.take i).map (·.id)
  · rw [if_pos hfirst]
    exact iff_of_false (Option.some_ne_none _) fun h => h.first hfirst
  rw [if_neg hfirst]
  cases hrules : spec.ownRules host with
  | error e =>
      refine iff_of_false (Option.some_ne_none _) fun h => ?_
      obtain ⟨rules, hok⟩ := h.own
      rw [hrules] at hok
      cases hok
  | ok rules =>
      have hsource : spec.source? host = some ⟨spec.displayName, rules, spec.imports⟩ := by
        rw [RuleSetSpec.source?, hrules]
      have hcustom := (customSource?_of_first hspec hfirst).trans hsource
      show joinError? (drafted host specs).sources spec.id = none ↔ _
      rw [joinError?_eq_none_iff hcustom]
      constructor
      · exact fun hknown => ⟨hfirst, ⟨rules, hrules⟩, get?_compile_of_known hcustom hknown⟩
      · intro h
        obtain ⟨set, _, hset⟩ := h.joined
        exact fun j hj => hset.known hj

theorem subject_of_join {sources : Sources} {id : String} {e : RuleError}
    (h : join sources id = .error e) : e.subject = id := by
  unfold join at h
  split at h
  · cases h
    rfl
  · unfold RuleSet.ofRules at h
    dsimp only at h
    split at h
    · cases h
      rfl
    · cases h

/-- The error of a specification is about its id. -/
theorem subject_of_fate? {sources : Sources} {before : List RuleSetSpec} {spec : RuleSetSpec}
    {e : RuleError} (h : fate? host sources before spec = some e) : e.subject = spec.id := by
  unfold fate? at h
  split at h
  · cases h
    rfl
  · split at h
    · rename_i hrules
      cases h
      exact (RuleSetSpec.isOwn_of_ownRules hrules).1
    · unfold joinError? at h
      split at h
      · cases h
      · rename_i hjoin
        cases h
        exact subject_of_join hjoin

/-- The errors of both phases, where some specifications have been drafted. -/
theorem errors_draftFrom_perm (sources : Sources) {seen : List String} {draft : Draft}
    {before : List RuleSetSpec} (hseen : ∀ id, id ∈ seen ↔ id ∈ before.map (·.id)) :
    ((draftFrom host seen draft specs).errors ++
        (draftFrom host seen draft specs).ids.filterMap (joinError? sources)).Perm
      (draft.errors ++ draft.ids.filterMap (joinError? sources) ++
        (fatesFrom (fate? host sources) before specs).reduceOption) := by
  induction specs generalizing seen draft before with
  | nil => simp [draftFrom, fatesFrom]
  | cons spec specs ih =>
      have hnext : ∀ id, id ∈ spec.id :: seen ↔ id ∈ (before ++ [spec]).map (·.id) := by
        intro id
        simp [hseen, or_comm]
      have hmove : ∀ (e : RuleError) (later : List RuleError),
          (draft.errors ++ [e] ++ draft.ids.filterMap (joinError? sources) ++ later).Perm
            (draft.errors ++ draft.ids.filterMap (joinError? sources) ++ e :: later) := by
        intro e later
        simp only [List.append_assoc, List.singleton_append]
        exact List.perm_middle.symm.append_left _
      rw [draftFrom, fatesFrom]
      by_cases hmem : spec.id ∈ seen
      · have hfate : fate? host sources before spec = some (.duplicateRuleSet spec.id) :=
          if_pos ((hseen spec.id).mp hmem)
        -- Its id has been seen, so nothing is added to what has been seen.
        have hsame : ∀ id, id ∈ seen ↔ id ∈ (before ++ [spec]).map (·.id) := by
          intro id
          rw [← hnext, List.mem_cons]
          refine ⟨.inr, ?_⟩
          rintro (rfl | hid)
          · exact hmem
          · exact hid
        rw [if_pos (by simpa using hmem), hfate, List.reduceOption_cons_of_some]
        exact (ih hsame).trans (hmove _ _)
      · have hnew : spec.id ∉ before.map (·.id) := fun h => hmem ((hseen spec.id).mpr h)
        rw [if_neg (by simpa using hmem)]
        cases hrules : spec.ownRules host with
        | error e =>
            have hfate : fate? host sources before spec = some e := by
              rw [fate?, if_neg hnew, hrules]
            rw [hfate, List.reduceOption_cons_of_some]
            exact (ih hnext).trans (hmove _ _)
        | ok rules =>
            have hfate : fate? host sources before spec = joinError? sources spec.id := by
              rw [fate?, if_neg hnew, hrules]
            rw [hfate]
            refine (ih hnext).trans (.of_eq ?_)
            cases hjoin : joinError? sources spec.id <;> simp [hjoin]

/-- **The errors of compilation are those of the specifications one by one.** -/
theorem errors_compile_perm (host : Host) (specs : List RuleSetSpec) : (compile host specs).2.Perm
    (fatesFrom (fate? host (drafted host specs).sources) [] specs).reduceOption := by
  rw [compile_eq, errors_joinAll]
  exact @errors_draftFrom_perm host specs _ [] ⟨builtInSources, [], []⟩ [] fun _ => Iff.rfl

/-! ## 3. Order -/

theorem ext_get? {a b : Catalog} (h : ∀ id, a.get? id = b.get? id) : a = b := by
  cases a
  cases b
  exact congrArg mk (Keyed.ext_get? h)

theorem sources_perm (hids : (specs.map (·.id)).Nodup) (hperm : specs.Perm others) :
    (drafted host specs).sources = (drafted host others).sources := by
  refine Keyed.ext_get? fun id => ?_
  rw [get?_drafted, get?_drafted, ownSource?, ownSource?, customSource?_perm hids hperm]

/-- **The order of specifications with distinct ids does not matter to the catalog.** -/
theorem fst_compile_perm (hids : (specs.map (·.id)).Nodup) (hperm : specs.Perm others) :
    (compile host specs).1 = (compile host others).1 := by
  have hmem : ∀ id, id ∈ (drafted host specs).ids ↔ id ∈ (drafted host others).ids := by
    intro id
    rw [mem_ids_drafted, mem_ids_drafted, customSource?_perm hids hperm]
  refine ext_get? fun id => ?_
  rw [compile_eq, compile_eq, get?_joinAll, get?_joinAll, sources_perm hids hperm]
  simp only [hmem]

/-- Where ids are distinct, what becomes of a specification does not depend on those before it. -/
theorem fatesFrom_of_nodup (hids : (specs.map (·.id)).Nodup) (sources : Sources) :
    fatesFrom (fate? host sources) [] specs = specs.map (fate? host sources []) := by
  refine fatesFrom_eq_map fun i spec hspec => ?_
  rw [fate?, fate?, if_neg (not_mem_take_of_nodup hids hspec), List.map_nil, if_neg List.not_mem_nil]

/-- **Nor does it matter to the errors, up to their order.** -/
theorem snd_compile_perm (hids : (specs.map (·.id)).Nodup) (hperm : specs.Perm others) :
    (compile host specs).2.Perm (compile host others).2 := by
  have hothers : (others.map (·.id)).Nodup := (hperm.map _).nodup_iff.mp hids
  have hspecs := errors_compile_perm host specs
  rw [fatesFrom_of_nodup hids, sources_perm hids hperm] at hspecs
  have hlater := errors_compile_perm host others
  rw [fatesFrom_of_nodup hothers] at hlater
  exact hspecs.trans (((hperm.map _).filterMap id).trans hlater.symm)

/-! ## 4. Accounts -/

/-- One entry for each specification: an error about it, or none if the catalog has what it is compiled
    to. Nothing else leaves an error. -/
structure Accounts (host : Host) (specs : List RuleSetSpec) (fates : List (Option RuleError)) : Prop where
  length_eq : fates.length = specs.length
  errors : (compile host specs).2.Perm fates.reduceOption
  compiled_iff : ∀ {i : Nat} {spec : RuleSetSpec}, specs[i]? = some spec →
    (fates[i]? = some none ↔ IsCompiled host specs i spec)
  subject : ∀ {i : Nat} {spec : RuleSetSpec} {e : RuleError}, specs[i]? = some spec →
    fates[i]? = some (some e) → e.subject = spec.id

theorem accounts_fatesFrom (host : Host) (specs : List RuleSetSpec) :
    Accounts host specs (fatesFrom (fate? host (drafted host specs).sources) [] specs) where
  length_eq := length_fatesFrom
  errors := errors_compile_perm host specs
  compiled_iff {i spec} hspec := by
    rw [← fate?_eq_none_iff hspec, getElem?_fatesFrom, hspec]
    simp
  subject {i spec e} hspec hfate := by
    rw [getElem?_fatesFrom, hspec] at hfate
    exact subject_of_fate? (Option.some.inj hfate)

/-- The catalog has what was built in wherever no specification is compiled. -/
theorem get?_compile_of_not_compiled {id : String}
    (h : ∀ i spec, specs[i]? = some spec → IsCompiled host specs i spec → spec.id ≠ id) :
    (compile host specs).1.get? id = builtIn.get? id := by
  cases hcustom : customSource? host specs id with
  | none =>
      have hids : id ∉ (drafted host specs).ids := by
        rw [mem_ids_drafted, hcustom]
        exact Bool.false_ne_true
      rw [compile_eq, get?_joinAll, if_neg hids]
  | some source =>
      obtain ⟨i, spec, hspec, hfirst, rfl, hsource⟩ := exists_first_of_customSource? hcustom
      obtain ⟨hrules, hname⟩ := RuleSetSpec.source?_eq_some hsource
      rcases join_cases hcustom with ⟨set, _, hset⟩ | ⟨unknown, _, hnone, hreaches⟩
      · have hkept := get?_compile_of_known hcustom fun j hj => hset.known hj
        rw [hname] at hkept
        exact absurd rfl (h i spec hspec ⟨hfirst, ⟨_, hrules⟩, hkept⟩)
      · exact (get?_compile_of_unknown hcustom hreaches hnone).1

/-- **Compilation does not depend on the order and loses nothing.** Specifications with distinct ids are
    compiled to the same catalog in any order, with the same errors up to order. Of any specifications
    whatever, each is the one that the catalog has under its id, or leaves exactly one error. So there are
    as many specifications as errors and rule-sets compiled from them, which have distinct ids. Under any
    other id the catalog has what is built in. -/
theorem compile_loses_nothing (host : Host) (specs : List RuleSetSpec) :
    (∀ others, (specs.map (·.id)).Nodup → specs.Perm others →
      (compile host specs).1 = (compile host others).1 ∧
        (compile host specs).2.Perm (compile host others).2) ∧
    ∃ fates, Accounts host specs fates ∧
      ((kept specs fates).map (·.id)).Nodup ∧
      (∀ id ∉ (kept specs fates).map (·.id), (compile host specs).1.get? id = builtIn.get? id) ∧
      (compile host specs).2.length + (kept specs fates).length = specs.length := by
  refine ⟨fun others hids hperm => ⟨fst_compile_perm hids hperm, snd_compile_perm hids hperm⟩, ?_⟩
  have haccounts := accounts_fatesFrom host specs
  refine ⟨_, haccounts, ?_, fun id hid => ?_, ?_⟩
  · refine (nodup_map_kept fun before spec hfate => ?_).1
    intro hmem
    rw [fate?, if_pos hmem] at hfate
    cases hfate
  · refine get?_compile_of_not_compiled fun i spec hspec hcompiled hkey => hid ?_
    have hkept := mem_kept.mpr ⟨i, hspec, (haccounts.compiled_iff hspec).mpr hcompiled⟩
    exact List.mem_map.mpr ⟨spec, hkept, hkey⟩
  · rw [haccounts.errors.length_eq, length_kept haccounts.length_eq]

end Catalog

end Placeholders.Validation
