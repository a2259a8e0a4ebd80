import Placeholders.Pattern.Reader

/-!
# Rules

One test of a value, the answer it should give, and what to say if it does not.

* A test is a pattern that should occur in the value, or a predicate of the host.
* A predicate may fail to answer. Then the rule rejects the value, whatever answer it wants.
* `Rule.identity` is what makes two rules the same rule when rule-sets are joined.
* `RuleError` names everything that can be wrong with rules and rule-sets.
-/

namespace Placeholders.Validation

/-! ## 1. Errors -/

/-- What can be wrong with a rule or a rule-set. -/
inductive RuleError where
  | emptyRuleSet (id : String)
  | invalidPattern (id source : String)
  | ambiguousTest (id : String) (index : Nat)
  | unknownPredicate (id name : String)
  | unknownImport (id imported : String)
  | unknownRuleSet (id : String)
  | duplicateRuleSet (id : String)
  deriving DecidableEq, Repr

/-- The wording of an error. -/
def RuleError.message : RuleError → String
  | .emptyRuleSet id => s!"rule-set '{id}' needs at least one rule, but received an empty list"
  | .invalidPattern id source => s!"invalid regular expression '{source}' in rule-set '{id}'"
  | .ambiguousTest id index =>
    s!"rule {index} of rule-set '{id}' must define exactly one of 'regex' and 'match_function'"
  | .unknownPredicate id name => s!"rule-set '{id}' references unknown predicate '{name}'"
  | .unknownImport id imported =>
    s!"rule-set '{id}' imports rules from unknown rule-set '{imported}'"
  | .unknownRuleSet id => s!"no rule-set named '{id}'"
  | .duplicateRuleSet id => s!"rule-set '{id}' is defined more than once"

/-! ## 2. Rules -/

/-- How much a rejection matters: a warning never blocks a value. -/
inductive Severity where
  | warning | error
  deriving DecidableEq, Repr

/-- The name of a severity. -/
def Severity.name : Severity → String
  | .warning => "warning"
  | .error => "error"

/-- A test the host provides. It answers `none` when it fails. -/
abbrev Predicate := String → Option Bool

/-- A test of a value. -/
inductive Test where
  /-- The pattern, with the text it was read from, occurs somewhere in the value. -/
  | pattern (source : String) (p : Pattern)
  | predicate (name : String) (ask : Predicate)

/-- The answer of a test, if it gives one. -/
def Test.answer? : Test → String → Option Bool
  | .pattern _ p, value => some (p.occurs value.toList)
  | .predicate _ ask, value => ask value

/-- A text that tells tests apart. -/
def Test.source : Test → String
  | .pattern source _ => "regex:" ++ source
  | .predicate name _ => "fn:" ++ name

/-- One validation rule. -/
structure Rule where
  severity : Severity
  test : Test
  /-- The answer that the test should give. -/
  shouldMatch : Bool
  message : String

/-- What tells rules apart: severity, test, wanted answer and message. -/
def Rule.identity (r : Rule) : Severity × String × Bool × String :=
  (r.severity, r.test.source, r.shouldMatch, r.message)

/-- Whether the rule rejects a value: its test gives the unwanted answer or none. -/
def Rule.rejects (r : Rule) (value : String) : Bool :=
  match r.test.answer? value with
  | some answer => answer != r.shouldMatch
  | none => true

/-! ## 3. Pattern rules -/

/-- The test of a pattern. The name of the rule-set is for the error. -/
def Test.ofPattern (id source : String) : Except RuleError Test :=
  match Pattern.read? source.toList with
  | some p => .ok (.pattern source p)
  | none => .error (.invalidPattern id source)

/-- The name that stands for the rule-set of rules that are made on their own. -/
def standaloneId : String := "<builtin>"

/-- A rule of a pattern that belongs to no rule-set yet. -/
def Rule.ofPattern (severity : Severity) (shouldMatch : Bool) (source message : String) :
    Except RuleError Rule :=
  (Test.ofPattern standaloneId source).map fun test => ⟨severity, test, shouldMatch, message⟩

/-- Rejects with an error what the pattern does not match. -/
def mustMatch : String → String → Except RuleError Rule := Rule.ofPattern .error true

/-- Rejects with an error what the pattern matches. -/
def mustNotMatch : String → String → Except RuleError Rule := Rule.ofPattern .error false

/-- Warns of what the pattern does not match. -/
def shouldMatch : String → String → Except RuleError Rule := Rule.ofPattern .warning true

/-- Warns of what the pattern matches. -/
def shouldNotMatch : String → String → Except RuleError Rule := Rule.ofPattern .warning false

end Placeholders.Validation
