import Placeholders.Host
import Placeholders.Keyed
import Placeholders.Validation.Presets

/-!
# The catalog of rule-sets

The built-in rule-sets together with those of a descriptor.

* `RuleSpec` and `RuleSetSpec` are what a descriptor says; `RuleSpec.compile` makes a rule of it.
* The first rule-set of an id is the one that counts, also when it turns out broken; it takes the
  place of a built-in one. Each rule-set that is left out adds one error.
* A rule-set imports the rules of others, and what those import. `importOrder` lists all ids that are
  reached, each once, at its first visit depth first; loops do no harm. Imports are looked up among
  all rule-sets whose own rules compile, whatever becomes of their own imports.
-/

namespace Placeholders.Validation

/-! ## 1. Specifications -/

/-- A rule as a descriptor states it. -/
structure RuleSpec where
  severity : Severity
  regex : Option String
  matchFunction : Option String
  shouldMatch : Bool
  errorMessage : Option String
  deriving DecidableEq, Repr

/-- A rule-set as a descriptor states it. -/
structure RuleSetSpec where
  id : String
  displayName : String
  rules : List RuleSpec
  imports : List String
  deriving DecidableEq, Repr

/-- The test of a rule and the message it has if none is given. There must be exactly one test, and
    it must not be empty. -/
def RuleSpec.test (spec : RuleSpec) (host : Host) (id : String) (index : Nat) :
    Except RuleError (Test × String) :=
  let verb := if spec.shouldMatch then "Should" else "Should not"
  match spec.regex, spec.matchFunction with
  | some source, none =>
    if source.isEmpty then .error (.ambiguousTest id index)
    else
      (Test.ofPattern id source).map fun test =>
        (test, s!"{verb} match the regular expression '{source}'")
  | none, some name =>
    if name.isEmpty then .error (.ambiguousTest id index)
    else
      match host.predicate? name with
      | some ask =>
        .ok (.predicate name ask, s!"{verb} return true when passed to the function '{name}'")
      | none => .error (.unknownPredicate id name)
  | _, _ => .error (.ambiguousTest id index)

/-- The rule that a specification states. An empty message counts as none. -/
def RuleSpec.compile (spec : RuleSpec) (host : Host) (id : String) (index : Nat) :
    Except RuleError Rule :=
  match spec.test host id index with
  | .ok (test, standard) =>
    let message := (spec.errorMessage.filter fun m => !m.isEmpty).getD standard
    .ok ⟨spec.severity, test, spec.shouldMatch, message⟩
  | .error e => .error e

/-- The rules of specifications from an index on, or the first error in them. -/
def compileRules (host : Host) (id : String) (index : Nat) :
    List RuleSpec → Except RuleError (List Rule)
  | [] => .ok []
  | spec :: specs =>
    match spec.compile host id index with
    | .error e => .error e
    | .ok rule =>
      match compileRules host id (index + 1) specs with
      | .error e => .error e
      | .ok rules => .ok (rule :: rules)

/-- The rules of a rule-set that stand in it itself. -/
def RuleSetSpec.ownRules (spec : RuleSetSpec) (host : Host) : Except RuleError (List Rule) :=
  if spec.rules.isEmpty then .error (.emptyRuleSet spec.id)
  else compileRules host spec.id 0 spec.rules

/-! ## 2. Imports -/

/-- A rule-set whose imports have not been followed yet. -/
structure Source where
  displayName : String
  rules : List Rule
  imports : List String

/-- The rule-sets that can be imported, by id. -/
abbrev Sources := Keyed Source

/-- The built-in rule-sets as sources. -/
def builtInSources : Sources :=
  Keyed.ofList (Presets.builtIn.map fun set => (set.id, ⟨set.displayName, set.rules, []⟩))

/-- Visits the ids on a stack depth first. `visited` lists the ids met before, latest first; an id
    that no source has ends the walk. -/
def visitImports (sources : Sources) : (fuel : Nat) → (visited stack : List String) →
    Except String (List String)
  | 0, visited, _ => .ok visited.reverse
  | _ + 1, visited, [] => .ok visited.reverse
  | fuel + 1, visited, id :: stack =>
    if visited.contains id then visitImports sources fuel visited stack
    else
      match sources.get? id with
      | none => .error id
      | some source => visitImports sources fuel (id :: visited) (source.imports ++ stack)

/-- More than the number of steps that a walk over the sources can take: every source puts its
    imports on the stack at most once. -/
def importBound (sources : Sources) : Nat :=
  (sources.entries.flatMap fun entry => entry.2.imports).length + 2

/-- All ids reached from one, itself first, or the first unknown id met. -/
def importOrder (sources : Sources) (root : String) : Except String (List String) :=
  visitImports sources (importBound sources) [] [root]

/-- The rules that stand in the sources of several ids, in order. -/
def rulesOf (sources : Sources) (ids : List String) : List Rule :=
  ids.flatMap fun id =>
    match sources.get? id with
    | some source => source.rules
    | none => []

/-! ## 3. The catalog -/

/-- Rule-sets by id. -/
structure Catalog where
  sets : Keyed RuleSet

namespace Catalog

/-- A catalog without rule-sets. -/
def empty : Catalog := ⟨.empty⟩

/-- Adds a rule-set, in place of one with the same id. -/
def insert (catalog : Catalog) (set : RuleSet) : Catalog :=
  ⟨catalog.sets.insert set.id set⟩

/-- The catalog of the built-in rule-sets. -/
def builtIn : Catalog :=
  Presets.builtIn.foldl insert empty

/-- The rule-set of an id. -/
def get? (catalog : Catalog) (id : String) : Option RuleSet :=
  catalog.sets.get? id

/-- The number of rule-sets. -/
def size (catalog : Catalog) : Nat := catalog.sets.size

/-- The ids, in ascending order. -/
def ids (catalog : Catalog) : List String := catalog.sets.keys

/-- The rule-sets of several ids, in order, or the first unknown id. -/
def resolve (catalog : Catalog) : List String → Except RuleError (List RuleSet)
  | [] => .ok []
  | id :: ids =>
    match catalog.get? id with
    | none => .error (.unknownRuleSet id)
    | some set => (catalog.resolve ids).map (set :: ·)

/-! ## 4. Compilation -/

/-- What is left of the specifications after their own rules have been compiled. -/
structure Draft where
  sources : Sources
  /-- The ids whose first rule-set compiled, in order. -/
  ids : List String
  errors : List RuleError

/-- Compiles the own rules of every specification. `seen` lists the ids met so far. -/
def draftFrom (host : Host) (seen : List String) (draft : Draft) : List RuleSetSpec → Draft
  | [] => draft
  | spec :: specs =>
    let fail (e : RuleError) : Draft := { draft with errors := draft.errors ++ [e] }
    if seen.contains spec.id then draftFrom host seen (fail (.duplicateRuleSet spec.id)) specs
    else
      match spec.ownRules host with
      | .error e => draftFrom host (spec.id :: seen) (fail e) specs
      | .ok rules =>
        draftFrom host (spec.id :: seen)
          { draft with
            sources := draft.sources.insert spec.id ⟨spec.displayName, rules, spec.imports⟩
            ids := draft.ids ++ [spec.id] }
          specs

/-- The rule-set of an id with everything it imports. -/
def join (sources : Sources) (id : String) : Except RuleError RuleSet :=
  match importOrder sources id with
  | .error unknown => .error (.unknownImport id unknown)
  | .ok order =>
    let displayName := ((sources.get? id).map (·.displayName)).getD ""
    RuleSet.ofRules id displayName (distinctRules (rulesOf sources order))

/-- Adds the rule-sets of several ids; those that cannot be joined leave an error instead. -/
def joinAll (sources : Sources) (catalog : Catalog) (errors : List RuleError) :
    List String → Catalog × List RuleError
  | [] => (catalog, errors)
  | id :: ids =>
    match join sources id with
    | .ok set => joinAll sources (catalog.insert set) errors ids
    | .error e => joinAll sources catalog (errors ++ [e]) ids

/-- The built-in rule-sets and those of the specifications, and the errors of what was left out. -/
def compile (host : Host) (specs : List RuleSetSpec) : Catalog × List RuleError :=
  let draft := draftFrom host [] ⟨builtInSources, [], []⟩ specs
  joinAll draft.sources builtIn draft.errors draft.ids

end Catalog

end Placeholders.Validation
