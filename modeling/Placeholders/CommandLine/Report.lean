import Placeholders.CommandLine.Directory
import Placeholders.CommandLine.Manual
import Placeholders.Descriptor.Reader
import Placeholders.Engine.Change
import Placeholders.Engine.Summary
import Placeholders.Text.Numeral

/-!
# Reports

What a call of the program comes to: how it ends, what it prints, and the one file that it may write.

* The descriptor is read first, then the file of values, then what the command needs. The first thing
  that is wrong ends the call.
* Values of a checkbox may be given by the texts of its states or by common words for on and off; the
  texts win. Options of a dropdown may be given by position, value or displayed name; a number is always
  a position.
* A change that had to open a cycle has been made, and counts as done.
* A verdict is printed before it is acted upon.
-/

namespace Placeholders.CommandLine

open Placeholders.Data Placeholders.Storage

/-! ## 1. Reports -/

/-- How a call ends. -/
inductive Ending where
  | done
  | failed (complaint : String)
  /-- The arguments are no complete command. -/
  | misused
  deriving DecidableEq, Repr

/-- The exit code of an ending. -/
def Ending.code : Ending → Nat
  | done => 0
  | failed _ => 1
  | misused => 2

/-- What a call comes to. -/
structure Report where
  ending : Ending := .done
  output : String := ""
  /-- The path and the new text of the file that is written. -/
  written : Option (String × String) := none
  deriving DecidableEq, Repr

/-- The report on a failure that leaves everything as it is. -/
def Report.failure (complaint : String) : Report := { ending := .failed complaint }

/-! ## 2. Starting -/

/-- Reads a descriptor, as JSON if its path says so and as YAML otherwise. -/
def readDescriptor? (path source : String) : Option Descriptor :=
  if isJsonPath path then Descriptor.ofJson? source else Descriptor.ofYaml? source

/-- Opens the file of values, or memory where none is named. -/
def openStorage (look : String → Place) : Option String → Except String Backend
  | none => .ok (.ofEntries [])
  | some path =>
    let file? := match look path with
      | .text content => File.openContent (some content)
      | .vacant obstacle => File.openContent none (Faults.always {} obstacle.isSome)
      | .unreadable => .error .unreadableFile
    match file? with
    | .ok file => .ok (.file file)
    | .error _ => .error s!"opening state file {path}"

/-- The engine that a call works with. -/
def startEngine (look : String → Place) (inv : Invocation) : Except String Engine :=
  match (look inv.descriptor).text?.bind (readDescriptor? inv.descriptor) with
  | none => .error s!"reading descriptor {inv.descriptor}"
  | some descriptor =>
    (openStorage look inv.state).map fun backend => Engine.start .bare descriptor backend

/-- Reads a page and expands it. -/
def expandPage (look : String → Place) (e : Engine) (path : String) : Except String Engine :=
  match (look path).text? with
  | none => .error s!"reading page {path}"
  | some source =>
    match e.attach { document := Document.parse source } with
    | (.ok _, e) => .ok e
    | (.error err, _) => .error err.message

/-- What is said if a file of values cannot be written. -/
def stateComplaint (path : String) (obstacle : Obstacle) : String :=
  s!"{(EngineError.persistence .writeFailed).message} {path}: {obstacle.message}"

/-- What is said about an error. -/
def complaintOn (look : String → Place) (state : Option String) (err : EngineError) : String :=
  match err, state.map fun path => (path, (look path).obstacle?) with
  | .persistence .writeFailed, some (path, some obstacle) => stateComplaint path obstacle
  | _, _ => err.message

/-! ## 3. Changing values -/

/-- Common words for a checked box. -/
def onWords : List String := ["1", "true", "on", "yes", "checked"]

/-- Common words for an unchecked box. -/
def offWords : List String := ["0", "false", "off", "no", "unchecked"]

/-- The state of a checkbox that a text means. -/
def checkedOf? (box : Checkbox) (value : String) : Option Bool :=
  if value = box.checkedValue then some true
  else if value = box.uncheckedValue then some false
  else if value ∈ onWords then some true
  else if value ∈ offWords then some false
  else none

/-- The position in a dropdown that a text means. -/
def indexOf? (menu : Dropdown) (value : String) : Option Nat :=
  (Text.unsigned? 10 Text.wordBound value.toList).orElse fun _ =>
    menu.choices.findIdx? fun choice => choice.value == value || choice.displayName == value

/-- Changes a placeholder as a text says. -/
def change (e : Engine) (name value : String) :
    Except String (Except EngineError Outcome × Engine) :=
  match (e.registry.get? name).map Placeholder.kind with
  | none => .error (EngineError.unknownPlaceholder name).message
  | some (.textbox _) => .ok (e.setText name value)
  | some (.checkbox box) =>
    match checkedOf? box value with
    | some checked => .ok (e.setChecked name checked)
    | none => .error s!"'{value}' is neither '{box.checkedValue}' nor '{box.uncheckedValue}'"
  | some (.dropdown menu) =>
    match indexOf? menu value with
    | some index => .ok (e.selectIndex name index)
    | none => .error s!"'{value}' is not an option of {name}"

/-- The line that tells the value of a placeholder. -/
def valueLine (e : Engine) (name : String) : String :=
  match e.expandedValue name with
  | .ok value => s!"{name} = {value}\n"
  | .error _ => ""

/-- The lines that tell what a change has brought about. -/
def changeLines (e : Engine) (name : String) (outcome : Outcome) : String :=
  valueLine e name ++ "".intercalate (outcome.affected.tail.map fun other => "  " ++ valueLine e other)

/-- What is reported on a change, apart from the file of values. Errors are put into words by `say`. -/
def reportChange (say : EngineError → String) (e : Engine) (name : String) :
    Except EngineError Outcome → Report
  | .ok outcome => { output := changeLines e name outcome }
  | .error err =>
    if err.isRepaired then
      { output := (err.outcome?.map (changeLines e name)).getD "" }
    else .failure (say err)

/-! ## 4. Carrying out -/

/-- The report on an expanded page. -/
def reportPage (look : String → Place) (e : Engine) (output : Option String) : Report :=
  let markup := (e.page.map fun page => page.document.toHtml).getD ""
  match output with
  | none => { output := markup ++ "\n" }
  | some path =>
    match (look path).obstacle? with
    | none => { written := some (path, markup) }
    | some _ => .failure s!"writing {path}"

/-- The report on a verdict. -/
def reportVerdict (e : Engine) (name value : String) : Report :=
  match e.find name with
  | .error err => .failure err.message
  | .ok p =>
    let verdict := p.evaluate value
    { ending := if p.accepts value then .done else .failed s!"value rejected for {name}"
      output := s!"{verdict.status.label}: {verdict.message}\n" }

/-- Carries a command out. Answers the report, apart from the file of values, and the engine. Errors
    are put into words by `say`. -/
def Command.run (look : String → Place) (say : EngineError → String) (e : Engine) :
    Command → Report × Engine
  | render page output =>
    match expandPage look e page with
    | .ok e => (reportPage look e output, e)
    | .error complaint => (.failure complaint, e)
  | summary page =>
    match expandPage look e page with
    | .ok e => ({ output := Json.pretty "" e.summaryDatum ++ "\n" }, e)
    | .error complaint => (.failure complaint, e)
  | set name value =>
    match change e name value with
    | .ok (result, e) => (reportChange say e name result, e)
    | .error complaint => (.failure complaint, e)
  | reset =>
    match e.reset with
    | (.ok outcome, e) =>
      ({ output := s!"Reset {outcome.affected.length} placeholder(s) to their defaults\n" }, e)
    | (.error err, e) => (.failure (say err), e)
  | graph => ({ output := e.network.describe ++ "\n" }, e)
  | validate name value => (reportVerdict e name value, e)

/-- The text of the file that a storage keeps values in. -/
def fileContent? : Backend → Option String
  | .file f => f.content
  | .memory _ => none

/-- The file of values, if a call has changed it. -/
def changedState (look : String → Place) (inv : Invocation) (e : Engine) : Option (String × String) := do
  let path ← inv.state
  let content ← fileContent? e.store.backend
  if look path = .text content then none else some (path, content)

/-- Carries an invocation out among files. -/
def Invocation.run (look : String → Place) (inv : Invocation) : Report :=
  match startEngine look inv with
  | .error complaint => .failure complaint
  | .ok e =>
    let (report, e) := inv.command.run look (complaintOn look inv.state) e
    { report with written := report.written.or (changedState look inv e) }

/-- What is said if the file that an invocation writes cannot be written after all. -/
def Invocation.writeComplaint (inv : Invocation) (path : String) (obstacle : Option Obstacle) :
    String :=
  match inv.command, obstacle with
  | .render _ (some path), _ => s!"writing {path}"
  | _, some obstacle => stateComplaint path obstacle
  | _, none => (EngineError.persistence .writeFailed).message

/-! ## 5. Calls -/

/-- The report on arguments that are no complete command. -/
def Stop.report : Stop → Report
  | help topic => { output := topic.text }
  | version => { output := versionLine }
  | misuse => { ending := .misused }

/-- Calls the program among files. -/
def call (look : String → Place) (args : List String) : Report :=
  match Invocation.ofArguments args with
  | .ok inv => inv.run look
  | .error stop => stop.report

/-- Calls the program in a directory. Answers the report and the directory afterwards. -/
def Directory.call (d : Directory) (args : List String) : Report × Directory :=
  let report := CommandLine.call d.look args
  match report.written with
  | some (path, content) => (report, d.write path content)
  | none => (report, d)

end Placeholders.CommandLine
