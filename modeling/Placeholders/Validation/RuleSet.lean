import Placeholders.Validation.Rule

/-!
# Rule-sets

An ordered collection of rules with an id and a name to show.

* `RuleSet.ofRules` refuses to make a rule-set without rules.
* `RuleSet.check` runs every rule and sorts the messages of those that reject by severity.
* `RuleSet.accepts` looks at rules of error severity only.
* `distinctRules` keeps the first of several rules with one identity.
-/

namespace Placeholders.Validation

/-! ## 1. Rule-sets -/

/-- Rules under an id. -/
structure RuleSet where
  id : String
  displayName : String
  rules : List Rule

/-- A rule-set of at least one rule. -/
def RuleSet.ofRules (id displayName : String) (rules : List Rule) : Except RuleError RuleSet :=
  if rules.isEmpty then .error (.emptyRuleSet id) else .ok ⟨id, displayName, rules⟩

/-- The rules whose identity is not among those already seen, each identity once. -/
def distinctRulesFrom (seen : List (Severity × String × Bool × String)) : List Rule → List Rule
  | [] => []
  | r :: rules =>
    if seen.contains r.identity then distinctRulesFrom seen rules
    else r :: distinctRulesFrom (r.identity :: seen) rules

/-- The rules without later ones that repeat an identity. -/
def distinctRules (rules : List Rule) : List Rule :=
  distinctRulesFrom [] rules

/-! ## 2. Checking -/

/-- What one rule-set says about a value. -/
structure Report where
  id : String
  displayName : String
  /-- Messages of the warnings that reject the value. -/
  warnings : List String
  /-- Messages of the errors that reject the value. -/
  errors : List String
  deriving DecidableEq, Repr

/-- No rule rejects the value. -/
def Report.isClean (report : Report) : Bool :=
  report.warnings.isEmpty && report.errors.isEmpty

/-- Some rule of error severity rejects the value. -/
def Report.hasErrors (report : Report) : Bool :=
  !report.errors.isEmpty

/-- The messages of the rules of a severity that reject a value, in order. -/
def RuleSet.rejections (set : RuleSet) (severity : Severity) (value : String) : List String :=
  (set.rules.filter fun r => r.severity == severity && r.rejects value).map (·.message)

/-- Runs every rule. -/
def RuleSet.check (set : RuleSet) (value : String) : Report :=
  { id := set.id
    displayName := set.displayName
    warnings := set.rejections .warning value
    errors := set.rejections .error value }

/-- No rule of error severity rejects the value. -/
def RuleSet.accepts (set : RuleSet) (value : String) : Bool :=
  set.rules.all fun r => r.severity != .error || !r.rejects value

/-- No rule rejects the value. -/
def RuleSet.clears (set : RuleSet) (value : String) : Bool :=
  set.rules.all fun r => !r.rejects value

theorem RuleSet.hasErrors_check (set : RuleSet) (value : String) :
    (set.check value).hasErrors = !set.accepts value := by
  simp only [Report.hasErrors, check, rejections, accepts]
  induction set.rules with
  | nil => rfl
  | cons r rules ih =>
    cases hs : r.severity <;> cases hr : r.rejects value <;>
      simp_all

theorem RuleSet.isClean_check (set : RuleSet) (value : String) :
    (set.check value).isClean = set.clears value := by
  simp only [Report.isClean, check, rejections, clears]
  induction set.rules with
  | nil => rfl
  | cons r rules ih =>
    cases hs : r.severity <;> cases hr : r.rejects value <;>
      simp_all

end Placeholders.Validation
