import Placeholders.Validation.RuleSet

/-!
# Verdicts

What several rule-sets together say about a value. They are alternatives: the value only has to
satisfy one of them.

* One clean rule-set is enough for `good`.
* Otherwise rule-sets without errors, if there are any, decide for `warning`; else it is `error`.
* Without rule-sets there is nothing to say, and every value is accepted.
-/

namespace Placeholders.Validation

/-! ## 1. Statuses -/

/-- The outcome of an evaluation. -/
inductive Status where
  | good | warning | error | noValidator
  deriving DecidableEq, Repr

/-- The word for a status that readers are shown. -/
def Status.label : Status → String
  | .good => "good"
  | .warning => "warning"
  | .error => "error"
  | .noValidator => "no validator"

/-- The end of the style class for a status. -/
def Status.styleSuffix : Status → String
  | .good => "ok"
  | .warning => "warn"
  | .error => "error"
  | .noValidator => "none"

/-- Only an error keeps a value out. -/
def Status.isAcceptable (status : Status) : Bool :=
  status != .error

/-- A status and the lines that explain it. -/
structure Verdict where
  status : Status
  message : String
  deriving DecidableEq, Repr

/-! ## 2. Evaluation -/

/-- Lines joined by line feeds. -/
def joinLines (lines : List String) : String :=
  String.intercalate "\n" lines

/-- The messages of a report, each after the name of its rule-set. -/
def Report.lines (report : Report) (messages : List String) : List String :=
  messages.map fun message => s!"{report.displayName}: {message}"

/-- The verdict on what the rule-sets report. -/
def Verdict.ofReports (reports : List Report) : Verdict :=
  if reports.isEmpty then ⟨.noValidator, "No validators defined"⟩
  else
    let clean := reports.filter Report.isClean
    let tolerant := reports.filter fun report => !report.hasErrors
    if !clean.isEmpty then
      ⟨.good, "Matches " ++ String.intercalate ", " (clean.map (·.displayName))⟩
    else if !tolerant.isEmpty then
      ⟨.warning, joinLines (tolerant.flatMap fun report => report.lines report.warnings)⟩
    else
      ⟨.error, joinLines (reports.flatMap fun report => report.lines report.errors)⟩

/-- The verdict of several rule-sets on a value. -/
def evaluate (sets : List RuleSet) (value : String) : Verdict :=
  Verdict.ofReports (sets.map fun set => set.check value)

/-- Whether some rule-set accepts the value, or there is none. -/
def accepts (sets : List RuleSet) (value : String) : Bool :=
  sets.isEmpty || sets.any fun set => set.accepts value

end Placeholders.Validation
