import Placeholders.Descriptor.Basic
import Placeholders.Data.Json
import Placeholders.Data.Yaml.Meaning

/-!
# Reading descriptors

From documents to descriptors, in whatever notation.

* A column that is missing has a standard value, or the document is refused. Unknown columns are passed
  over, except in a rule. A column given twice, or under two of its names, is refused.
* An entry of the list of placeholders is settled first, so that repeated fields in it do no harm.
-/

namespace Placeholders.Descriptor

open Placeholders.Data Placeholders.Text

section

variable {ν : Type} [Askable ν]

/-! ## 1. Rule-sets -/

/-- The severity of a name. -/
def severityNamed? (name : String) : Option Validation.Severity :=
  if name == "warning" || name == "warn" then some .warning
  else if name == "error" then some .error
  else none

/-- A severity. -/
def severityOf (v : ν) : Asking Validation.Severity := do
  liftM (severityNamed? (← Askable.choice v))

/-- The columns of a rule. -/
def ruleColumns : List (List String) :=
  [["severity"], ["regex"], ["match_function"], ["should_match"], ["error_message"]]

/-- A rule. -/
def ruleOf (v : ν) : Asking Validation.RuleSpec := do
  match ← Askable.columns true ruleColumns v with
  | [level, regex, function, shouldMatch, message] =>
    return {
      severity := ← optional .error severityOf level
      regex := ← maybe Askable.text regex
      matchFunction := ← maybe Askable.text function
      shouldMatch := ← required Askable.truth shouldMatch
      errorMessage := ← maybe Askable.text message }
  | _ => failure

/-- The columns of a rule-set. -/
def ruleSetColumns : List (List String) :=
  [["id"], ["display_name", "name"], ["rules"], ["import_rules_from"]]

/-- A rule-set. -/
def ruleSetOf (v : ν) : Asking Validation.RuleSetSpec := do
  match ← Askable.columns false ruleSetColumns v with
  | [id, name, rules, imports] =>
    return {
      id := ← required Askable.text id
      displayName := ← required Askable.text name
      rules := ← required (listOf ruleOf) rules
      imports := ← optional [] (listOf Askable.text) imports }
  | _ => failure

/-! ## 2. Settings -/

/-- The columns of the settings. -/
def settingsColumns : List (List String) :=
  [["debug"], ["delay_millis"], ["normal_prefix"], ["normal_suffix"], ["static_prefix"],
    ["static_suffix"], ["html_prefix"], ["html_suffix"], ["dynamic_prefix"], ["dynamic_suffix"],
    ["editable_prefix"], ["editable_suffix"], ["inline_editors"], ["inline_editor_icons"],
    ["apply_change_on_focus_change"], ["storage_prefix"]]

/-- The affixes in two columns. -/
def affixesOf (standard : Affixes) (opening closing : Option ν) : Asking Affixes := do
  return ⟨← optional standard.opening Askable.text opening,
    ← optional standard.closing Askable.text closing⟩

/-- The settings. -/
def settingsOf (v : ν) : Asking Settings := do
  let standard : Settings := {}
  match ← Askable.columns false settingsColumns v with
  | [debug, delay, normalA, normalB, staticA, staticB, htmlA, htmlB, dynamicA, dynamicB, editableA,
      editableB, editors, icons, onFocusChange, keySpace] =>
    return {
      debug := ← optional standard.debug Askable.truth debug
      delayMillis := ← optional standard.delayMillis (Askable.whole (-signedBound) signedBound) delay
      normal := ← affixesOf standard.normal normalA normalB
      static := ← affixesOf standard.static staticA staticB
      html := ← affixesOf standard.html htmlA htmlB
      dynamic := ← affixesOf standard.dynamic dynamicA dynamicB
      editable := ← affixesOf standard.editable editableA editableB
      inlineEditors := ← optional standard.inlineEditors Askable.truth editors
      inlineEditorIcons := ← optional standard.inlineEditorIcons Askable.truth icons
      applyChangeOnFocusChange :=
        ← optional standard.applyChangeOnFocusChange Askable.truth onFocusChange
      keySpace := ← optional standard.keySpace Askable.text keySpace }
  | _ => failure

/-! ## 3. Descriptors -/

/-- A descriptor. The entries of its list are settled, but not read any further. -/
def descriptorOf (v : ν) : Asking Descriptor := do
  match ← Askable.columns false [["settings"], ["validators"], ["placeholder_list"]] v with
  | [options, validators, entries] =>
    return {
      settings := ← optional {} settingsOf options
      validators := ← optional [] (listOf ruleSetOf) validators
      entries := ← optional [] (listOf (Askable.settled 2)) entries }
  | _ => failure

end

/-- The descriptor that a data tree holds. -/
def ofDatum? (d : Datum) : Option Descriptor := (descriptorOf d).answer? 0

/-- The descriptor that a JSON document holds. -/
def ofJson? (source : String) : Option Descriptor := (Json.read? source).bind ofDatum?

/-- The descriptor that a YAML document holds. -/
def ofYaml? (source : String) : Option Descriptor := Yaml.ask? source descriptorOf

/-! ## 4. Entries -/

/-- One choice of a dropdown. -/
def choiceOf (d : Datum) : Asking Choice := do
  match ← Askable.columns false [["display_name"], ["value"]] d with
  | [name, value] => return ⟨← required Askable.text name, ← required Askable.text value⟩
  | _ => failure

/-- The kind of an entry, by its name or by its position among the kinds. -/
def kindTag? : Datum → Option Nat
  | .text "textbox" | .whole 0 => some 0
  | .text "checkbox" | .whole 1 => some 1
  | .text "dropdown" | .whole 2 => some 2
  | _ => none

/-- What an entry with these fields says about its kind. -/
def kindOf (fields : List (String × Datum)) : Asking KindSpec := do
  let column (name : String) : Asking (Option Datum) := liftM (column? fields [name])
  match ← required (fun d => liftM (kindTag? d)) (← column "type") with
  | 0 =>
    return .textbox (← maybe Askable.text (← column "default_value"))
      (← maybe Askable.text (← column "default_function"))
      (← optional [] (listOf Askable.text) (← column "validators"))
  | 1 =>
    return .checkbox (← required Askable.text (← column "value_checked"))
      (← required Askable.text (← column "value_unchecked"))
      (← optional false Askable.truth (← column "checked_by_default"))
  | _ =>
    return .dropdown (← required (listOf choiceOf) (← column "options"))
      (← optional 0 (Askable.whole 0 wordBound) (← column "default_index")).toNat

/-- An entry with these fields. -/
def entryOf (fields : List (String × Datum)) : Asking PlaceholderSpec := do
  let column (names : List String) : Asking (Option Datum) := liftM (column? fields names)
  return {
    name := ← required Askable.text (← column ["name"])
    description := ← optional "" Askable.text (← column ["description"])
    readOnly := ← optional false Askable.truth (← column ["read_only"])
    allowInnerHtml :=
      ← optional false Askable.truth (← column ["allow_inner_html", "replace_everywhere"])
    allowRecursive :=
      ← optional true Askable.truth (← column ["allow_nested", "allow_recursive"])
    kind := ← kindOf fields }

/-- An entry of the list of placeholders. -/
def placeholder? : Datum → Option PlaceholderSpec
  | .record fields => (entryOf fields).answer? 0
  | _ => none

end Placeholders.Descriptor
