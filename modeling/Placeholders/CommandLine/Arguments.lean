/-!
# Command-line arguments

What can be asked of the program, and how a list of arguments says it.

* A command comes first, then its options and operands in any order. Options that every command has may
  also stand before it.
* An option is written as a word after two dashes or as a letter after one. Its value is the next
  argument, or follows at once, after an equals sign or, behind a letter, without one. Letters may share
  a dash. No option may be given twice, and no value of an option is empty.
* After two dashes that stand alone everything is an operand.
* An operand that may begin with a dash takes what is no option of the command. So does, then, an option
  that waits for its value.
* Reading stops at what asks for help or for the version, and at the first thing that is wrong.
-/

namespace Placeholders.CommandLine

/-! ## 1. What there is -/

/-- An option. -/
inductive Opt where
  | descriptor | page | state | output | logJson | help | version
  deriving DecidableEq, Repr

namespace Opt

/-- The word of an option. -/
def word : Opt → String
  | descriptor => "descriptor"
  | page => "page"
  | state => "state"
  | output => "output"
  | logJson => "log-json"
  | help => "help"
  | version => "version"

/-- The letter of an option. -/
def letter? : Opt → Option Char
  | descriptor => some 'd'
  | page => some 'p'
  | state => some 's'
  | output => some 'o'
  | logJson => none
  | help => some 'h'
  | version => some 'V'

/-- Whether an option has a value; all values are paths. -/
def takesPath : Opt → Bool
  | descriptor | page | state | output => true
  | logJson | help | version => false

end Opt

/-- What stands without an option. -/
inductive Operand where
  | name | value
  deriving DecidableEq, Repr

namespace Operand

/-- The word for an operand. -/
def word : Operand → String
  | name => "name"
  | value => "value"

/-- Whether an operand may begin with a dash. -/
def mayBeginWithDash : Operand → Bool
  | name => false
  | value => true

end Operand

/-- A command. -/
inductive Verb where
  | render | summary | set | reset | graph | validate
  deriving DecidableEq, Repr

namespace Verb

/-- All commands. -/
def all : List Verb := [render, summary, set, reset, graph, validate]

theorem mem_all (v : Verb) : v ∈ all := by cases v <;> decide

/-- The word of a command. -/
def word : Verb → String
  | render => "render"
  | summary => "summary"
  | set => "set"
  | reset => "reset"
  | graph => "graph"
  | validate => "validate"

/-- The command of a word. -/
def ofWord? (word : String) : Option Verb := all.find? fun v => v.word == word

theorem ofWord?_word (v : Verb) : ofWord? v.word = some v := by cases v <;> rfl

/-- The options that a command must have. -/
def required : Verb → List Opt
  | render | summary => [.descriptor, .page]
  | set | reset => [.descriptor, .state]
  | graph | validate => [.descriptor]

/-- The options that a command may have, in the order of the manual. -/
def options : Verb → List Opt
  | render => [.descriptor, .logJson, .page, .state, .output, .help]
  | summary => [.descriptor, .logJson, .page, .state, .help]
  | set | reset | graph => [.descriptor, .logJson, .state, .help]
  | validate => [.descriptor, .logJson, .help]

/-- The operands of a command, all of which it must have. -/
def operands : Verb → List Operand
  | set | validate => [.name, .value]
  | _ => []

theorem required_subset_options (v : Verb) : ∀ o ∈ v.required, o ∈ v.options := by
  cases v <;> decide

end Verb

/-- What help can be asked about. -/
inductive Topic where
  | program
  | verb (v : Verb)
  /-- The command that prints help. -/
  | help
  deriving DecidableEq, Repr

/-- Why reading stops before a command is complete. -/
inductive Stop where
  | help (topic : Topic)
  | version
  | misuse
  deriving DecidableEq, Repr

/-- What may stand at some place of the arguments. -/
structure Grammar where
  topic : Topic
  options : List Opt
  operands : List Operand
  deriving DecidableEq, Repr

namespace Grammar

/-- What may stand before the command. -/
def program : Grammar := ⟨.program, [.logJson, .help, .version], []⟩

/-- What may stand after a command. -/
def ofVerb (v : Verb) : Grammar := ⟨.verb v, v.options, v.operands⟩

/-- The option of a word. -/
def ofWord? (g : Grammar) (word : String) : Option Opt := g.options.find? fun o => o.word == word

/-- The option of a letter. -/
def ofLetter? (g : Grammar) (letter : Char) : Option Opt :=
  g.options.find? fun o => o.letter? == some letter

end Grammar

/-! ## 2. Reading one argument -/

/-- What has been read so far. -/
structure Reading where
  /-- The options with their values; those without a value have the empty one. -/
  given : List (Opt × String) := []
  operands : List String := []
  /-- The option whose value comes next. -/
  awaited : Option Opt := none
  /-- Whether all that follows are operands. -/
  operandsOnly : Bool := false
  deriving DecidableEq, Repr

namespace Reading

/-- The value of an option. -/
def value? (r : Reading) (o : Opt) : Option String := r.given.lookup o

/-- Whether the next operand may begin with a dash. -/
def dashFits (r : Reading) (g : Grammar) : Bool :=
  (g.operands[r.operands.length]?).any Operand.mayBeginWithDash

/-- Gives an option a value. -/
def give (r : Reading) (o : Opt) (value : String) : Except Stop Reading :=
  if (r.value? o).isSome || (o.takesPath && value.isEmpty) then .error .misuse
  else .ok { r with given := r.given ++ [(o, value)], awaited := none }

/-- Takes an option without a value. -/
def raise (r : Reading) (topic : Topic) (o : Opt) : Except Stop Reading :=
  if r.awaited.isSome then .error .misuse
  else
    match o with
    | .help => .error (.help topic)
    | .version => .error .version
    | _ => r.give o ""

/-- Takes an option whose value is attached to it or comes next. -/
def take (r : Reading) (o : Opt) (attached : Option String) : Except Stop Reading :=
  if r.awaited.isSome then .error .misuse
  else
    match attached with
    | some value => r.give o value
    | none => .ok { r with awaited := some o }

/-- Takes an operand. -/
def takeOperand (r : Reading) (g : Grammar) (arg : String) : Except Stop Reading :=
  if r.operands.length < g.operands.length then .ok { r with operands := r.operands ++ [arg] }
  else .error .misuse

/-- Takes an argument that is no option: a value that is waited for, or an operand. -/
def takePlain (r : Reading) (g : Grammar) (arg : String) : Except Stop Reading :=
  match r.awaited with
  | some o => r.give o arg
  | none => r.takeOperand g arg

/-- The value that is attached to a letter. -/
def attachedTo : List Char → Option String
  | [] => none
  | '=' :: value => some (String.ofList value)
  | value => some (String.ofList value)

/-- Takes letters that share a dash. -/
def takeLetters (g : Grammar) (r : Reading) : List Char → Except Stop Reading
  | [] => .ok r
  | c :: rest =>
    match g.ofLetter? c with
    | none => .error .misuse
    | some o =>
      if o.takesPath then r.take o (attachedTo rest)
      else
        match r.raise g.topic o with
        | .error stop => .error stop
        | .ok r => takeLetters g r rest

/-- The word and the value of what stands behind two dashes. -/
def splitWord (s : List Char) : String × Option String :=
  (String.ofList (s.takeWhile (· != '=')),
    match s.dropWhile (· != '=') with
    | [] => none
    | _ :: value => some (String.ofList value))

/-- Without an equals sign everything is the word. -/
theorem splitWord_of_forall_ne {s : List Char} (h : ∀ c ∈ s, c ≠ '=') :
    splitWord s = (String.ofList s, none) := by
  have parts : s.takeWhile (· != '=') = s ∧ s.dropWhile (· != '=') = [] := by
    induction s with
    | nil => exact ⟨rfl, rfl⟩
    | cons c s ih =>
      obtain ⟨taken, left⟩ := ih fun d hd => h d (List.mem_cons_of_mem c hd)
      have hc : (c != '=') = true := by simpa using h c List.mem_cons_self
      exact ⟨by rw [List.takeWhile_cons, if_pos hc, taken], by rw [List.dropWhile_cons, if_pos hc, left]⟩
  rw [splitWord, parts.1, parts.2]

/-- Takes one argument. -/
def read (r : Reading) (g : Grammar) (arg : String) : Except Stop Reading :=
  if r.operandsOnly then r.takeOperand g arg
  else
    match arg.toList with
    | ['-', '-'] =>
      if r.awaited.isSome then .error .misuse else .ok { r with operandsOnly := true }
    | '-' :: '-' :: rest =>
      let (word, value?) := splitWord rest
      match g.ofWord? word with
      | some o =>
        if o.takesPath then r.take o value?
        else if value?.isSome then .error .misuse
        else r.raise g.topic o
      | none => if r.dashFits g then r.takePlain g arg else .error .misuse
    | '-' :: c :: letters =>
      if r.dashFits g && (c :: letters).any (fun c => (g.ofLetter? c).isNone) then r.takePlain g arg
      else takeLetters g r (c :: letters)
    | _ => r.takePlain g arg

/-- Takes all arguments. -/
def readAll (r : Reading) (g : Grammar) (args : List String) : Except Stop Reading :=
  args.foldlM (fun r arg => r.read g arg) r

end Reading

/-! ## 3. Invocations -/

/-- What is to be done with an engine. -/
inductive Command where
  /-- Expand a page, and write it to a file or print it. -/
  | render (page : String) (output : Option String)
  /-- Print what the readers of a page may change. -/
  | summary (page : String)
  /-- Change a placeholder. -/
  | set (name value : String)
  /-- Go back to the defaults. -/
  | reset
  /-- Print what depends on what. -/
  | graph
  /-- Print the verdict on a value. -/
  | validate (name value : String)
  deriving DecidableEq, Repr

/-- A complete command. -/
structure Invocation where
  /-- The path of the descriptor. -/
  descriptor : String
  /-- The path of the file where values are kept. -/
  state : Option String := none
  command : Command
  deriving DecidableEq, Repr

namespace Command

/-- The command that has been read. -/
def ofReading? (v : Verb) (r : Reading) : Option Command :=
  match v, r.operands with
  | .render, _ => (r.value? .page).map fun page => .render page (r.value? .output)
  | .summary, _ => (r.value? .page).map .summary
  | .set, [name, value] => some (.set name value)
  | .reset, _ => some .reset
  | .graph, _ => some .graph
  | .validate, [name, value] => some (.validate name value)
  | _, _ => none

end Command

namespace Invocation

/-- The invocation that has been read, if nothing is missing. -/
def ofReading? (v : Verb) (r : Reading) : Option Invocation := do
  guard (r.awaited.isNone && v.required.all fun o => (r.value? o).isSome)
  let descriptor ← r.value? .descriptor
  let command ← Command.ofReading? v r
  pure { descriptor, state := r.value? .state, command }

/-- The invocation that the arguments behind a command make. -/
def ofOperands (v : Verb) (args : List String) : Except Stop Invocation := do
  let r ← Reading.readAll {} (.ofVerb v) args
  match ofReading? v r with
  | some invocation => .ok invocation
  | none => .error .misuse

/-- The word that asks for help. -/
def helpWord : String := "help"

/-- What the arguments behind the word for help ask for. -/
def helpOn : List String → Stop
  | [] => .help .program
  | [word] =>
    if word = helpWord then .help .help
    else
      match Verb.ofWord? word with
      | some v => .help (.verb v)
      | none => .misuse
  | _ => .misuse

/-- The invocation that arguments make, after what has been read of them. -/
def ofArgumentsFrom (r : Reading) : List String → Except Stop Invocation
  | [] => .error .misuse
  | arg :: rest =>
    if !r.operandsOnly && arg = helpWord then .error (helpOn rest)
    else
      match if r.operandsOnly then none else Verb.ofWord? arg with
      | some v => ofOperands v rest
      | none =>
        match r.read .program arg with
        | .ok r => ofArgumentsFrom r rest
        | .error stop => .error stop

/-- The invocation that arguments make. -/
def ofArguments (args : List String) : Except Stop Invocation := ofArgumentsFrom {} args

/-- The paths of the files that an invocation reads. -/
def inputs (inv : Invocation) : List String :=
  [inv.descriptor] ++ inv.state.toList ++
    match inv.command with
    | .render page _ | .summary page => [page]
    | _ => []

end Invocation

end Placeholders.CommandLine
