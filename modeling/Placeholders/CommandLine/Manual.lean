import Placeholders.CommandLine.Arguments

/-!
# The manual

The texts that tell how the program is called.

* A page of the manual has up to four parts, divided by blank lines: what the topic is about, how it is
  called, and what may be given, in two columns.
* The right column begins two places behind the longest entry of the left one.
-/

namespace Placeholders.CommandLine

/-! ## 1. What things are for -/

/-- The name of the program. -/
def programName : String := "docvar"

/-- The version of the program. -/
def programVersion : String := "0.1.0"

/-- What an option is for. -/
def Opt.about : Opt → String
  | descriptor => "Placeholder descriptor (YAML or JSON)"
  | page => "HTML page to expand"
  | state => "JSON file holding persisted values"
  | output => "Write the HTML here instead of stdout"
  | logJson => "Write logs as JSON lines"
  | help => "Print help"
  | version => "Print version"

/-- What a command does. -/
def Verb.about : Verb → String
  | render => "Expand a page and print the resulting HTML"
  | summary => "Print the editable placeholders used on a page as JSON"
  | set => "Validate and persist a placeholder value"
  | reset => "Forget every persisted placeholder value"
  | graph => "Print the dependency graph"
  | validate => "Evaluate a value against the rule-sets of a placeholder"

/-- What an operand of a command is. -/
def Verb.aboutOperand : Verb → Operand → String
  | _, .name => "Placeholder name"
  | set, .value => "Text, checkbox state or dropdown option"
  | _, .value => "Candidate value"

/-! ## 2. Columns -/

/-- An entry of a list with its explanation. -/
abbrev Entry := String × String

/-- A text with blanks behind it, up to a width. -/
def padded (width : Nat) (s : String) : String :=
  s ++ String.ofList (List.replicate (width - s.length) ' ')

/-- A list of entries under a heading. -/
def columns (heading : String) (entries : List Entry) : String :=
  let width := (entries.map fun entry => entry.1.length).foldl max 0
  "\n".intercalate (heading :: entries.map fun entry => s!"  {padded width entry.1}  {entry.2}")

/-- A word in angle brackets. -/
def bracketed (word : String) : String := s!"<{word}>"

/-- An option with its value, by its word. -/
def Opt.long (o : Opt) : String :=
  s!"--{o.word}" ++ if o.takesPath then " " ++ bracketed o.word else ""

/-- An option in the left column. -/
def Opt.entry (o : Opt) : Entry :=
  ((match o.letter? with
    | some letter => s!"-{letter}, "
    | none => "    ") ++ o.long, o.about)

/-! ## 3. Pages -/

/-- The lines that show how a command is called. -/
def Verb.usage (v : Verb) : String :=
  " ".intercalate (["Usage:", programName, v.word, "[OPTIONS]"] ++ v.required.map Opt.long
    ++ v.operands.map fun operand => bracketed operand.word)

/-- The entry of the command that prints help. -/
def helpEntry : Entry :=
  (Invocation.helpWord, "Print this message or the help of the given subcommand(s)")

/-- The parts of the page on the program. -/
def programParts : List String :=
  ["Expand user-configurable placeholders in documentation pages",
    s!"Usage: {programName} [OPTIONS] <COMMAND>",
    columns "Commands:" (Verb.all.map (fun v => (v.word, v.about)) ++ [helpEntry]),
    columns "Options:" (Grammar.program.options.map Opt.entry)]

/-- The parts of the page on a command. -/
def Verb.parts (v : Verb) : List String :=
  [v.about, v.usage]
    ++ (if v.operands.isEmpty then []
      else [columns "Arguments:"
        (v.operands.map fun operand => (bracketed operand.word, v.aboutOperand operand))])
    ++ [columns "Options:" (v.options.map Opt.entry)]

/-- The parts of the page on the command that prints help. -/
def helpParts : List String :=
  [helpEntry.2, s!"Usage: {programName} {Invocation.helpWord} [COMMAND]...",
    columns "Arguments:" [("[COMMAND]...", "Print help for the subcommand(s)")]]

/-- The parts of a page. -/
def Topic.parts : Topic → List String
  | program => programParts
  | verb v => v.parts
  | help => helpParts

/-- A page of the manual. -/
def Topic.text (topic : Topic) : String := "\n\n".intercalate topic.parts ++ "\n"

/-- The line that tells the version. -/
def versionLine : String := s!"{programName} {programVersion}\n"

end Placeholders.CommandLine
