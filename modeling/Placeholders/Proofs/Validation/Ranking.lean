import Mathlib.Data.List.Forall2
import Mathlib.Order.Nat
import Placeholders.Proofs.Validation.Acceptance

/-!
# The rank of a verdict

Rule-sets are alternatives, and the rules of one are conditions. So a status is the best of what the
rule-sets find, and a rule-set finds the worst of what its rules do.

* `Status.rank` and `Rule.rank` put a number on both: nothing found, a warning, an error.
* `rank_status_le_iff` is the rule above, said of every bound.
* It knows nothing of the order of rule-sets and rules. More rule-sets can only make the best better, and
  more rules the worst worse; `status_rank_laws` draws these conclusions.
-/

namespace Placeholders.Validation

/-! ## 1. Ranks -/

/-- How bad a status is. Without rule-sets there is nothing to find. -/
def Status.rank : Status → Nat
  | .noValidator | .good => 0
  | .warning => 1
  | .error => 2

/-- How bad it is that a rule of a severity rejects a value. -/
def Severity.rank : Severity → Nat
  | .warning => 1
  | .error => 2

/-- How bad a rule finds a value. -/
def Rule.rank (r : Rule) (value : String) : Nat := if r.rejects value then r.severity.rank else 0

/-- The rules are the same ones in some order; the name to show may be another one. -/
def RuleSet.Rearranges (set other : RuleSet) : Prop := set.rules.Perm other.rules

/-- The rule-sets are the same ones in some order, and so are the rules of each. -/
def Rearranged (sets others : List RuleSet) : Prop :=
  ∃ middle, sets.Perm middle ∧ List.Forall₂ RuleSet.Rearranges middle others

variable {sets : List RuleSet} {set : RuleSet} {value : String}

theorem RuleSet.clears_iff : set.clears value = true ↔ ∀ r ∈ set.rules, r.rank value ≤ 0 := by
  rw [clears, List.all_eq_true]
  refine forall₂_congr fun r _ => ?_
  unfold Rule.rank
  cases r.rejects value <;> cases r.severity <;> simp [Severity.rank]

theorem RuleSet.accepts_iff : set.accepts value = true ↔ ∀ r ∈ set.rules, r.rank value ≤ 1 := by
  rw [accepts, List.all_eq_true]
  refine forall₂_congr fun r _ => ?_
  unfold Rule.rank
  cases r.rejects value <;> cases r.severity <;> simp [Severity.rank]

/-! ## 2. Verdicts -/

/-- The status of rule-sets, by whether one of them clears the value and whether one accepts it. -/
theorem status_evaluate_cases (hsets : sets ≠ []) (value : String) :
    ((∃ set ∈ sets, set.clears value = true) ∧ (evaluate sets value).status = .good) ∨
    ((∀ set ∈ sets, ¬ set.clears value = true) ∧ (∃ set ∈ sets, set.accepts value = true) ∧
      (evaluate sets value).status = .warning) ∨
    ((∀ set ∈ sets, ¬ set.accepts value = true) ∧ (evaluate sets value).status = .error) := by
  obtain ⟨_, hgood, hwarning, herror⟩ := status_ofReports_cases (sets.map fun set => set.check value)
  simp only [List.mem_map, exists_exists_and_eq_and, forall_exists_index, and_imp,
    forall_apply_eq_imp_iff₂, RuleSet.isClean_check, RuleSet.hasErrors_check, Bool.not_eq_eq_eq_not,
    Bool.not_true, Bool.not_false] at hgood hwarning herror
  by_cases hclear : ∃ set ∈ sets, set.clears value = true
  · obtain ⟨set, hset, hclears⟩ := hclear
    exact .inl ⟨⟨set, hset, hclears⟩, hgood set hset hclears⟩
  · have hnone : ∀ set ∈ sets, set.clears value = false := by simpa using hclear
    by_cases haccept : ∃ set ∈ sets, set.accepts value = true
    · obtain ⟨set, hset, haccepts⟩ := haccept
      exact .inr (.inl ⟨by simpa using hclear, ⟨set, hset, haccepts⟩, hwarning set hset haccepts hnone⟩)
    · have hrefused : ∀ set ∈ sets, set.accepts value = false := by simpa using haccept
      exact .inr (.inr ⟨by simpa using haccept, herror (by simpa using hsets) hrefused⟩)

/-- **A status is the best of what the rule-sets find, and each finds the worst of what its rules do.** -/
theorem rank_status_le_iff (hsets : sets ≠ []) (value : String) {n : Nat} :
    (evaluate sets value).status.rank ≤ n ↔
      2 ≤ n ∨ ∃ set ∈ sets, ∀ r ∈ set.rules, r.rank value ≤ n := by
  rcases status_evaluate_cases hsets value with
    ⟨⟨set, hset, hclears⟩, hstatus⟩ | ⟨hclears, ⟨set, hset, haccepts⟩, hstatus⟩ | ⟨haccepts, hstatus⟩
  · refine hstatus ▸ iff_of_true (Nat.zero_le n) (.inr ⟨set, hset, fun r hr => ?_⟩)
    exact (RuleSet.clears_iff.mp hclears r hr).trans (Nat.zero_le n)
  · rw [hstatus]
    constructor
    · exact fun hn => .inr ⟨set, hset, fun r hr => (RuleSet.accepts_iff.mp haccepts r hr).trans hn⟩
    · rintro (hn | ⟨other, hother, hrules⟩)
      · exact Nat.le_of_succ_le hn
      · refine Nat.one_le_iff_ne_zero.mpr ?_
        rintro rfl
        exact hclears other hother (RuleSet.clears_iff.mpr hrules)
  · rw [hstatus]
    refine ⟨.inl, ?_⟩
    rintro (hn | ⟨other, hother, hrules⟩)
    · exact hn
    · by_contra hn
      refine haccepts other hother (RuleSet.accepts_iff.mpr fun r hr => (hrules r hr).trans ?_)
      exact Nat.le_of_lt_succ (Nat.not_le.mp hn)

theorem status_ne_noValidator (hsets : sets ≠ []) (value : String) :
    (evaluate sets value).status ≠ .noValidator := by
  rcases status_evaluate_cases hsets value with ⟨_, h⟩ | ⟨_, _, h⟩ | ⟨_, h⟩ <;> rw [h] <;> exact nofun

/-- The good status: one of the rule-sets clears the value. -/
theorem status_evaluate_eq_good_iff (hsets : sets ≠ []) (value : String) :
    (evaluate sets value).status = .good ↔ ∃ set ∈ sets, set.clears value = true := by
  have hrank : (evaluate sets value).status = .good ↔ (evaluate sets value).status.rank ≤ 0 := by
    have hsome := status_ne_noValidator hsets value
    cases hstatus : (evaluate sets value).status <;> simp_all [Status.rank]
  rw [hrank, rank_status_le_iff hsets]
  simp [RuleSet.clears_iff]

/-- Of statuses that say something no two have one rank. -/
theorem Status.eq_of_rank_eq {a b : Status} (ha : a ≠ .noValidator) (hb : b ≠ .noValidator)
    (h : a.rank = b.rank) : a = b := by
  cases a <;> cases b <;> first | rfl | contradiction

/-! ## 3. What order and number do -/

/-- Rearranged lists have the same rules next to each other. -/
theorem Rearranged.exists_iff {others : List RuleSet} (h : Rearranged sets others) {q : Rule → Prop} :
    (∃ set ∈ others, ∀ r ∈ set.rules, q r) ↔ ∃ set ∈ sets, ∀ r ∈ set.rules, q r := by
  obtain ⟨middle, hperm, hpairs⟩ := h
  have hsame : (∃ set ∈ middle, ∀ r ∈ set.rules, q r) ↔ ∃ set ∈ others, ∀ r ∈ set.rules, q r := by
    induction hpairs generalizing sets with
    | nil => rfl
    | cons hpair _ ih =>
        simp only [List.exists_mem_cons_iff]
        refine or_congr (forall_congr' fun r => ?_) ?_
        · rw [hpair.mem_iff]
        · exact ih (.refl _)
  rw [← hsame]
  exact exists_congr fun set => and_congr_left fun _ => hperm.mem_iff.symm

theorem Rearranged.ne_nil {others : List RuleSet} (h : Rearranged sets others) (hsets : sets ≠ []) :
    others ≠ [] := by
  obtain ⟨middle, hperm, hpairs⟩ := h
  rintro rfl
  cases hpairs
  exact hsets hperm.eq_nil

/-- **What order and number of rule-sets and rules do to a status.** In whatever order they stand, it is the
    same. One more rule-set never makes it worse, and one more rule in a rule-set never better. Rules may ask
    predicates of the host, and these may fail to answer. -/
theorem status_rank_laws (hsets : sets ≠ []) (value : String) :
    (evaluate sets value).status ≠ .noValidator ∧
    (∀ others, Rearranged sets others →
      (evaluate others value).status = (evaluate sets value).status) ∧
    (∀ set more, List.Perm more (set :: sets) →
      (evaluate more value).status.rank ≤ (evaluate sets value).status.rank) ∧
    ∀ front back set rule stricter, sets = front ++ set :: back →
      stricter.rules.Perm (rule :: set.rules) →
      (evaluate sets value).status.rank ≤ (evaluate (front ++ stricter :: back) value).status.rank := by
  refine ⟨status_ne_noValidator hsets value, fun others hothers => ?_, fun set more hmore => ?_,
    fun front back set rule stricter heq hrules => ?_⟩
  · have hne := hothers.ne_nil hsets
    refine Status.eq_of_rank_eq (status_ne_noValidator hne value) (status_ne_noValidator hsets value)
      (eq_of_forall_ge_iff fun n => ?_)
    rw [rank_status_le_iff hne, rank_status_le_iff hsets, hothers.exists_iff]
  · have hne : more ≠ [] := fun hnil => List.cons_ne_nil set sets (hnil ▸ hmore).symm.eq_nil
    rw [rank_status_le_iff hne]
    refine ((rank_status_le_iff hsets value).mp le_rfl).imp_right ?_
    rintro ⟨other, hother, hranks⟩
    exact ⟨other, hmore.mem_iff.mpr (List.mem_cons_of_mem set hother), hranks⟩
  · rw [rank_status_le_iff hsets]
    refine ((rank_status_le_iff (by simp) value).mp le_rfl).imp_right ?_
    rintro ⟨other, hother, hranks⟩
    -- the rule-set that finds best is the stricter one, or stands in both lists
    rcases List.mem_append.mp hother with hfront | hback
    · exact ⟨other, heq ▸ List.mem_append_left _ hfront, hranks⟩
    · rcases List.mem_cons.mp hback with rfl | hback
      · refine ⟨set, heq ▸ List.mem_append_right _ List.mem_cons_self, fun r hr => hranks r ?_⟩
        exact hrules.mem_iff.mpr (List.mem_cons_of_mem rule hr)
      · exact ⟨other, heq ▸ List.mem_append_right _ (List.mem_cons_of_mem set hback), hranks⟩

/-- A rule whose predicate does not answer. -/
def silent (severity : Severity) : Rule := ⟨severity, .predicate "silent" fun _ => none, false, "no"⟩

theorem status_rank_laws_of_silent :
    let lenient : RuleSet := ⟨"b", "B", [silent .warning]⟩
    let sets : List RuleSet := [⟨"a", "A", [silent .error, silent .warning]⟩, lenient]
    let others : List RuleSet := [lenient, ⟨"a", "A", [silent .warning, silent .error]⟩]
    let free : RuleSet := ⟨"c", "C", [⟨.error, .predicate "yes" fun _ => some true, true, "no"⟩]⟩
    let stricter : RuleSet := ⟨"b", "B", [silent .warning, silent .error]⟩
    sets ≠ [] ∧ Rearranged sets others ∧
    (evaluate others "x").status = (evaluate sets "x").status ∧
    (evaluate sets "x").status = .warning ∧
    (evaluate (free :: sets) "x").status.rank ≤ (evaluate sets "x").status.rank ∧
    (evaluate (free :: sets) "x").status = .good ∧
    stricter.rules.Perm (silent .error :: lenient.rules) ∧
    (evaluate sets "x").status.rank ≤
      (evaluate [⟨"a", "A", [silent .error, silent .warning]⟩, stricter] "x").status.rank ∧
    (evaluate [⟨"a", "A", [silent .error, silent .warning]⟩, stricter] "x").status = .error := by
  intro lenient sets others free stricter
  have hsets : sets ≠ [] := List.cons_ne_nil _ _
  have hothers : Rearranged sets others :=
    ⟨[lenient, ⟨"a", "A", [silent .error, silent .warning]⟩], .swap _ _ _,
      .cons (.refl _) (.cons (.swap _ _ _) .nil)⟩
  have hstricter : stricter.rules.Perm (silent .error :: lenient.rules) := .swap _ _ _
  obtain ⟨_, hsame, hmore, hfewer⟩ := status_rank_laws hsets "x"
  exact ⟨hsets, hothers, hsame others hothers, by decide, hmore free _ (.refl _), by decide, hstricter,
    hfewer [⟨"a", "A", [silent .error, silent .warning]⟩] [] lenient _ stricter rfl hstricter, by decide⟩

end Placeholders.Validation
