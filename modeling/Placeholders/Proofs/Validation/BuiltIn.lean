import Placeholders.Proofs.Pattern.Language
import Placeholders.Proofs.Validation.Ranking
import Placeholders.Validation.Presets

/-!
# What built-in rule-sets ask

The built-in rule-sets are made from texts. If one of these were no pattern, none of the rule-sets would be
there.

* A `Demand` is what a rule says without its message. It is met or not, whichever rule makes it.
* `gives_builtIn?` goes through the making of the rule-sets and reads every text.
* `Prescribes` is what is left of that for a single rule-set: its demands. `Prescribes.good_iff` and
  `Prescribes.error_iff` are its verdict in terms of them.
-/

namespace Placeholders.Validation

/-! ## 1. Demands -/

/-- Whether a pattern should occur in a value, and how bad it is otherwise. -/
structure Demand where
  severity : Severity
  wanted : Bool
  source : String

/-- The pattern occurs in the value, or not, as is wanted. -/
def Demand.Met (d : Demand) (value : String) : Prop :=
  ∃ p, Pattern.read? d.source.toList = some p ∧ p.occurs value.toList = d.wanted

/-- The rule makes the demand. -/
def Rule.Makes (d : Demand) (r : Rule) : Prop :=
  r.severity = d.severity ∧ ∀ value, r.rejects value = false ↔ d.Met value

section Met

variable {severity : Severity} {wanted : Bool} {source value : String}

theorem met_iff {p : Pattern} (h : Pattern.read? source.toList = some p) :
    Demand.Met ⟨severity, wanted, source⟩ value ↔ p.occurs value.toList = wanted := by
  unfold Demand.Met
  rw [h]
  simp only [Option.some.injEq, exists_eq_left']

/-- A pattern that asks for both ends. -/
theorem met_whole {p : Pattern} (h : Pattern.read? source.toList = some (.seq (.look .textStart) p))
    (hp : p.isClosing = true) : Demand.Met ⟨severity, true, source⟩ value ↔ value.toList ∈ p.language :=
  (met_iff h).trans (Pattern.occurs_whole hp)

/-- A pattern of nothing but signs of a set. -/
theorem met_allOf {set : Text.CharSet} (h : Pattern.read? source.toList = some (.allOf set)) :
    Demand.Met ⟨severity, true, source⟩ value ↔
      value ≠ "" ∧ ∀ c ∈ value.toList, set.contains c = true := by
  rw [met_iff h, Pattern.occurs_allOf, Ne, String.toList_eq_nil_iff]

end Met

/-! ## 2. Answers -/

section Answers

variable {α β : Type}

/-- There is an answer, and what it is like. -/
def Gives (P : α → Prop) (x : Except RuleError α) : Prop := ∃ a, x = .ok a ∧ P a

theorem Gives.pure {P : α → Prop} {a : α} (h : P a) : Gives P (Pure.pure a) := ⟨a, rfl, h⟩

theorem Gives.bind {P : α → Prop} {Q : β → Prop} {x : Except RuleError α}
    {f : α → Except RuleError β} (hx : Gives P x) (hf : ∀ a, P a → Gives Q (f a)) :
    Gives Q (x >>= f) := by
  obtain ⟨a, rfl, ha⟩ := hx
  exact hf a ha

theorem gives_ofPattern {severity : Severity} {wanted : Bool} {source message : String}
    (h : (Pattern.read? source.toList).isSome = true) :
    Gives (Rule.Makes ⟨severity, wanted, source⟩) (Rule.ofPattern severity wanted source message) := by
  obtain ⟨p, hp⟩ := Option.isSome_iff_exists.mp h
  refine ⟨⟨severity, .pattern source p, wanted, message⟩, ?_, rfl, fun value => ?_⟩
  · rw [Rule.ofPattern, Test.ofPattern, hp]
    rfl
  · rw [met_iff hp]
    simp [Rule.rejects, Test.answer?]

theorem gives_ofRules {id displayName : String} {r : Rule} {rules : List Rule} :
    Gives (· = ⟨id, displayName, r :: rules⟩) (RuleSet.ofRules id displayName (r :: rules)) :=
  ⟨_, rfl, rfl⟩

end Answers

/-! ## 3. The texts -/

/-- Of some rule-sets, the first one with an id makes the demands, rule by rule. -/
def Prescribes (sets : List RuleSet) (id : String) (demands : List Demand) : Prop :=
  ∃ set, sets.find? (fun set => set.id == id) = some set ∧ List.Forall₂ Rule.Makes demands set.rules

namespace Presets

-- The kernel reads a list of characters fast, but is slow to make a text one: hence the rewriting.

theorem gives_domainRules : Gives (fun rules => ∃ r rest, rules = r :: rest) domainRules := by
  unfold domainRules mustMatch shouldNotMatch
  iterate 4
    with_reducible refine Gives.bind (gives_ofPattern ?_) fun _ _ => ?_
    · try simp only [counted, String.toList_append]
      repeat rewrite [String.toList_ofList]
      decide +kernel
  exact .pure ⟨_, _, rfl⟩

/-- **There are built-in rule-sets**, and those for addresses and ports make these demands. -/
theorem gives_builtIn? :
    Gives (fun sets =>
      Prescribes sets "ipv4_address" [
        ⟨.error, true, "^[0-9.]+$"⟩,
        ⟨.warning, true, whole ipv4Address⟩] ∧
      Prescribes sets "ipv4_range_cidr" [
        ⟨.error, true, "^[0-9./]+$"⟩,
        ⟨.error, false, "/.*/"⟩,
        ⟨.error, true, cidrSuffix ++ "$"⟩,
        ⟨.warning, true, whole (ipv4Address ++ "/[0-9]+")⟩] ∧
      Prescribes sets "ipv6_address" [
        ⟨.error, true, "^[0-9a-fA-F:.\\[\\]]+$"⟩,
        ⟨.warning, true, whole ipv6Shape⟩,
        ⟨.warning, false, whole ipv4Address⟩] ∧
      Prescribes sets "port_number" [
        ⟨.error, true, "^[0-9]+$"⟩,
        ⟨.warning, true, portShape⟩])
      builtIn? := by
  unfold builtIn? urlWithoutBlanks notEmpty warnOfBlanks mustMatch mustNotMatch shouldMatch shouldNotMatch
  -- One bind after the other: a rule from its text, the rules of host names, or a rule-set from its rules.
  repeat
    first
      | with_reducible refine Gives.bind (gives_ofPattern ?_) fun _ _ => ?_
        · try simp only [whole, cidrSuffix, ipv4Segment, counted, ipv4Address, ipv4Span, ipv4Spans, ipv6Group,
            ipv6Leading, ipv6Trailing, ipv6Octet, ipv6Quad, ipv6Forms, ipv6Shape, urlShape, portForms,
            portShape, macShape, uuidGroup, uuidShape, String.toList_append, String.toList_intercalate,
            List.map_cons, List.map_nil]
          repeat rewrite [String.toList_ofList]
          decide +kernel
      | with_reducible refine Gives.bind gives_domainRules ?_
        rintro _ ⟨_, _, rfl⟩
      | with_reducible refine Gives.bind gives_ofRules ?_
        rintro _ rfl
  refine .pure ⟨⟨_, rfl, ?_⟩, ⟨_, rfl, ?_⟩, ⟨_, rfl, ?_⟩, ⟨_, rfl, ?_⟩⟩
  all_goals
    repeat with_reducible refine .cons ‹_› ?_
    exact .nil

end Presets

/-! ## 4. Verdicts -/

/-- What is asked of paired members is asked of the one list or of the other. -/
theorem forall_mem_iff_of_forall₂ {α β : Type} {R : α → β → Prop} {p : α → Prop} {q : β → Prop}
    {as : List α} {bs : List β} (h : List.Forall₂ R as bs) (hpq : ∀ a b, R a b → (p a ↔ q b)) :
    (∀ a ∈ as, p a) ↔ ∀ b ∈ bs, q b := by
  induction h with
  | nil => simp
  | cons hab _ ih => rw [List.forall_mem_cons, List.forall_mem_cons, hpq _ _ hab, ih]

variable {demands : List Demand} {set : RuleSet}

theorem clears_iff_of_makes (h : List.Forall₂ Rule.Makes demands set.rules) {value : String} :
    set.clears value = true ↔ ∀ d ∈ demands, d.Met value := by
  rw [RuleSet.clears, List.all_eq_true]
  refine (forall_mem_iff_of_forall₂ h fun d r hmakes => ?_).symm
  simpa using (hmakes.2 value).symm

theorem accepts_iff_of_makes (h : List.Forall₂ Rule.Makes demands set.rules) {value : String} :
    set.accepts value = true ↔ ∀ d ∈ demands, d.severity = .error → d.Met value := by
  rw [RuleSet.accepts, List.all_eq_true]
  refine (forall_mem_iff_of_forall₂ h fun d r hmakes => ?_).symm
  rw [← hmakes.1, ← hmakes.2 value]
  cases r.severity <;> simp

/-- **The verdict of a built-in rule-set by itself.** It is good if the demands are met, and an error if one
    is not that has this severity. -/
theorem Prescribes.verdict {sets : List RuleSet} {id : String} (h : Prescribes sets id demands)
    (hsets : Presets.builtIn? = .ok sets) :
    ∃ set, Presets.find? id = some set ∧ ∀ value,
      ((evaluate [set] value).status = .good ↔ ∀ d ∈ demands, d.Met value) ∧
      ((evaluate [set] value).status = .error ↔ ∃ d ∈ demands, d.severity = .error ∧ ¬ d.Met value) := by
  obtain ⟨set, hfound, hmakes⟩ := h
  refine ⟨set, ?_, fun value => ⟨?_, ?_⟩⟩
  · rw [Presets.find?, Presets.builtIn, hsets]
    exact hfound
  · rw [← clears_iff_of_makes hmakes]
    simpa using status_evaluate_eq_good_iff (List.cons_ne_nil set []) value
  · rw [status_evaluate_eq_error_iff]
    have haccepts : set.accepts value = true ↔ _ := accepts_iff_of_makes hmakes
    simpa using haccepts.not

end Placeholders.Validation
