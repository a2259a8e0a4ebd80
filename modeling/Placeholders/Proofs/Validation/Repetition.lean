import Placeholders.Validation.Catalog

/-!
# Rules that stand twice

Rules are told apart by a text, and of several with one text the first is kept. That drops repetitions and
nothing else.

* A rule is `Genuine` for a host if its pattern is what its text is read as, or its predicate is what the
  host has under its name. All rules that are compiled are genuine, and so are the built-in ones.
* Genuine rules with one identity are equal (`Rule.Genuine.eq_of_identity_eq`).
* Hence `distinctRules` gives the rules without those that stand before (`withoutRepeats_distinctRules`).
-/

namespace Placeholders.Validation

/-! ## 1. Genuine rules -/

/-- A test is what its text stands for. -/
def Test.Genuine (host : Host) : Test → Prop
  | .pattern source p => Pattern.read? source.toList = some p
  | .predicate name ask => host.predicate? name = some ask

/-- The test of a rule is what its text stands for. -/
def Rule.Genuine (host : Host) (r : Rule) : Prop := r.test.Genuine host

variable {host : Host}

theorem Test.Genuine.eq_of_source_eq {t u : Test} (ht : t.Genuine host) (hu : u.Genuine host)
    (h : t.source = u.source) : t = u := by
  have htext := congrArg String.toList h
  cases t with
  | pattern source p =>
      cases u with
      | pattern other q =>
          have hsource : source = other := by simpa [Test.source] using h
          subst hsource
          have hsame : some p = some q := ht.symm.trans hu
          rw [Option.some.inj hsame]
      | predicate name ask => simp [Test.source] at htext
  | predicate name ask =>
      cases u with
      | pattern other q => simp [Test.source] at htext
      | predicate other reply =>
          have hname : name = other := by simpa [Test.source] using h
          subst hname
          have hsame : some ask = some reply := ht.symm.trans hu
          rw [Option.some.inj hsame]

/-- **Rules with one identity are one rule**, whatever their texts are. -/
theorem Rule.Genuine.eq_of_identity_eq {r q : Rule} (hr : r.Genuine host) (hq : q.Genuine host)
    (h : r.identity = q.identity) : r = q := by
  obtain ⟨severity, test, polarity, message⟩ := r
  obtain ⟨severity', test', polarity', message'⟩ := q
  simp only [identity, Prod.mk.injEq] at h
  obtain ⟨rfl, hsource, rfl, rfl⟩ := h
  have htest : test = test' := Test.Genuine.eq_of_source_eq hr hq hsource
  rw [htest]

theorem Test.genuine_ofPattern {id source : String} {test : Test}
    (h : Test.ofPattern id source = .ok test) : test.Genuine host := by
  unfold ofPattern at h
  split at h
  · rename_i p hp
    cases h
    exact hp
  · cases h

/-! ## 2. Compiled rules -/

theorem RuleSpec.genuine_test {spec : RuleSpec} {id standard : String} {index : Nat} {test : Test}
    (h : spec.test host id index = .ok (test, standard)) : test.Genuine host := by
  unfold RuleSpec.test at h
  dsimp only at h
  split at h
  · rename_i source _ _
    split at h
    · cases h
    · cases hread : Test.ofPattern id source with
      | error e =>
          rw [hread] at h
          cases h
      | ok made =>
          rw [hread] at h
          cases h
          exact Test.genuine_ofPattern hread
  · rename_i name _ _
    split at h
    · cases h
    · split at h
      · rename_i ask hask
        cases h
        exact hask
      · cases h
  · cases h

theorem RuleSpec.genuine_compile {spec : RuleSpec} {id : String} {index : Nat} {r : Rule}
    (h : spec.compile host id index = .ok r) : r.Genuine host := by
  unfold RuleSpec.compile at h
  split at h
  · rename_i test standard htest
    cases h
    exact genuine_test htest
  · cases h

/-- Compiling rules gives one genuine rule for each. -/
theorem compileRules_spec {id : String} {index : Nat} {specs : List RuleSpec} {rules : List Rule}
    (h : compileRules host id index specs = .ok rules) :
    rules.length = specs.length ∧ ∀ r ∈ rules, r.Genuine host := by
  induction specs generalizing index rules with
  | nil =>
      cases h
      exact ⟨rfl, fun r hr => nomatch hr⟩
  | cons spec specs ih =>
      rw [compileRules] at h
      split at h
      · cases h
      · rename_i rule hrule
        split at h
        · cases h
        · rename_i rest hrest
          cases h
          obtain ⟨hlength, hgenuine⟩ := ih hrest
          refine ⟨by simp [hlength], fun r hr => ?_⟩
          rcases List.mem_cons.mp hr with rfl | hr
          · exact RuleSpec.genuine_compile hrule
          · exact hgenuine r hr

/-- The own rules of a rule-set are genuine, and there is one. -/
theorem RuleSetSpec.ownRules_spec {spec : RuleSetSpec} {rules : List Rule}
    (h : spec.ownRules host = .ok rules) : rules ≠ [] ∧ ∀ r ∈ rules, r.Genuine host := by
  unfold ownRules at h
  split at h
  · cases h
  · rename_i hsome
    obtain ⟨hlength, hgenuine⟩ := compileRules_spec h
    refine ⟨?_, hgenuine⟩
    rintro rfl
    have hempty : spec.rules = [] := List.length_eq_zero_iff.mp hlength.symm
    rw [hempty] at hsome
    exact hsome rfl

/-! ## 3. Built-in rules -/

section BuiltIn

variable {α β : Type}

/-- What an answer is like, if there is one. -/
def Answers (P : α → Prop) (x : Except RuleError α) : Prop := ∀ a, x = .ok a → P a

theorem Answers.pure {P : α → Prop} {a : α} (h : P a) : Answers P (Pure.pure a) := by
  intro _ heq
  cases heq
  exact h

theorem Answers.bind {P : α → Prop} {Q : β → Prop} {x : Except RuleError α}
    {f : α → Except RuleError β} (hx : Answers P x) (hf : ∀ a, P a → Answers Q (f a)) :
    Answers Q (x >>= f) := by
  intro b hb
  cases hanswer : x with
  | error e =>
      rw [hanswer] at hb
      cases hb
  | ok a =>
      rw [hanswer] at hb
      exact hf a (hx a hanswer) b hb

/-- Every rule of a rule-set is genuine. -/
def RuleSet.Genuine (host : Host) (set : RuleSet) : Prop := ∀ r ∈ set.rules, r.Genuine host

theorem answers_ofPattern (host : Host) (severity : Severity) (polarity : Bool) (source message : String) :
    Answers (Rule.Genuine host) (Rule.ofPattern severity polarity source message) := by
  intro r hr
  unfold Rule.ofPattern at hr
  cases hread : Test.ofPattern standaloneId source with
  | error e =>
      rw [hread] at hr
      cases hr
  | ok test =>
      rw [hread] at hr
      cases hr
      exact Test.genuine_ofPattern hread

theorem answers_ofRules (host : Host) {id displayName : String} {rules : List Rule}
    (h : ∀ r ∈ rules, r.Genuine host) :
    Answers (RuleSet.Genuine host) (RuleSet.ofRules id displayName rules) := by
  intro set hset
  unfold RuleSet.ofRules at hset
  split at hset
  · cases hset
  · cases hset
    exact h

theorem answers_domainRules (host : Host) :
    Answers (fun rules => ∀ r ∈ rules, r.Genuine host) Presets.domainRules := by
  unfold Presets.domainRules mustMatch shouldNotMatch
  iterate 4 refine Answers.bind (answers_ofPattern host _ _ _ _) fun _ _ => ?_
  refine .pure ?_
  simp [*]

/-- Every built-in rule-set is genuine. -/
theorem answers_builtIn? (host : Host) :
    Answers (fun sets => ∀ set ∈ sets, set.Genuine host) Presets.builtIn? := by
  unfold Presets.builtIn? Presets.urlWithoutBlanks Presets.notEmpty Presets.warnOfBlanks mustMatch
    mustNotMatch shouldMatch shouldNotMatch
  -- The patterns must not be read here: nothing may be unfolded.
  repeat
    first
      | with_reducible refine Answers.bind (answers_ofPattern host _ _ _ _) fun _ _ => ?_
      | with_reducible refine Answers.bind (answers_domainRules host) fun _ _ => ?_
      | with_reducible refine Answers.bind (answers_ofRules host ?_) fun _ _ => ?_
        · simp +contextual [or_imp, *]
  with_reducible refine Answers.pure ?_
  simp only [List.forall_mem_cons, *, true_and]
  exact nofun

theorem genuine_of_mem_builtIn {set : RuleSet} (h : set ∈ Presets.builtIn) : set.Genuine host := by
  unfold Presets.builtIn at h
  generalize hanswer : Presets.builtIn? = answer at h
  cases answer with
  | ok sets => exact answers_builtIn? host sets hanswer set h
  | error e => cases h

end BuiltIn

/-! ## 4. Without repetitions -/

/-- The rules of a list that stand neither before it nor earlier in it, in order. -/
inductive WithoutRepeats : (before rules kept : List Rule) → Prop
  | nil {before : List Rule} : WithoutRepeats before [] []
  | again {before rules kept : List Rule} {r : Rule} (hr : r ∈ before)
    (hrules : WithoutRepeats before rules kept) : WithoutRepeats before (r :: rules) kept
  | first {before rules kept : List Rule} {r : Rule} (hr : r ∉ before)
    (hrules : WithoutRepeats (before ++ [r]) rules kept) : WithoutRepeats before (r :: rules) (r :: kept)

/-- No rule is lost. -/
theorem WithoutRepeats.mem_iff {before rules kept : List Rule} (h : WithoutRepeats before rules kept)
    (r : Rule) : r ∈ before ∨ r ∈ kept ↔ r ∈ before ∨ r ∈ rules := by
  induction h with
  | nil => exact Iff.rfl
  | @again before rules kept q hq _ ih =>
      rw [ih, List.mem_cons]
      constructor
      · exact fun h => h.imp_right .inr
      · rintro (h | rfl | h)
        · exact .inl h
        · exact .inl hq
        · exact .inr h
  | first _ _ ih =>
      simp only [List.mem_append, List.mem_singleton] at ih
      simp only [List.mem_cons, ← or_assoc]
      exact ih

/-- Telling rules apart by identity is telling them apart, where rules with one identity are equal. -/
theorem withoutRepeats_distinctRulesFrom {before rules : List Rule}
    {seen : List (Severity × String × Bool × String)}
    (hseen : ∀ i, i ∈ seen ↔ i ∈ before.map Rule.identity)
    (hinj : ∀ r ∈ before ++ rules, ∀ q ∈ before ++ rules, r.identity = q.identity → r = q) :
    WithoutRepeats before rules (distinctRulesFrom seen rules) := by
  induction rules generalizing before seen with
  | nil => exact .nil
  | cons r rules ih =>
      have hsame : before ++ [r] ++ rules = before ++ r :: rules := by simp
      rw [distinctRulesFrom]
      split
      · rename_i hmem
        have hidentity : r.identity ∈ before.map Rule.identity := (hseen _).mp (by simpa using hmem)
        obtain ⟨q, hq, heq⟩ := List.mem_map.mp hidentity
        have hqr : q = r := hinj q (by simp [hq]) r (by simp) heq
        refine .again (hqr ▸ hq) (ih hseen fun a ha b hb => ?_)
        refine hinj a ?_ b ?_
        · exact List.mem_append.mpr ((List.mem_append.mp ha).imp_right (List.mem_cons_of_mem _))
        · exact List.mem_append.mpr ((List.mem_append.mp hb).imp_right (List.mem_cons_of_mem _))
      · rename_i hnew
        refine .first (fun hr => hnew ?_) (ih (fun i => ?_) (hsame ▸ hinj))
        · have hidentity : r.identity ∈ seen := (hseen _).mpr (List.mem_map_of_mem hr)
          simpa using hidentity
        · rw [List.mem_cons, hseen]
          simp [or_comm]

/-- **Joined rules are kept without their repetitions.** -/
theorem withoutRepeats_distinctRules {rules : List Rule} (h : ∀ r ∈ rules, r.Genuine host) :
    WithoutRepeats [] rules (distinctRules rules) := by
  refine withoutRepeats_distinctRulesFrom (fun i => Iff.rfl) ?_
  intro r hr q hq heq
  exact (h r hr).eq_of_identity_eq (h q hq) heq

theorem distinctRules_ne_nil {rules : List Rule} (h : rules ≠ []) : distinctRules rules ≠ [] := by
  cases rules with
  | nil => exact absurd rfl h
  | cons r rules => exact List.cons_ne_nil _ _

end Placeholders.Validation
