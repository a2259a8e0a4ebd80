import Placeholders.Data.Yaml.Token

/-!
# Events of YAML

The nodes of a document in the order of writing: scalars, aliases, and the beginnings and ends of
sequences and mappings.

* `Expect` is something that has to come; what is still expected is kept in a list, the next one
  first. `Expect.step?` fulfils the first expectation with the next tokens.
* A node that is left out, before a value or after it, is an empty plain scalar.
* A text holds one document; more than one is refused.
-/

namespace Placeholders.Data.Yaml

/-! ## 1. Events -/

/-- What may stand before a node: a name for it, and a tag. -/
structure Properties where
  anchor : Option String := none
  tag : Option Tag := none
  deriving DecidableEq, Repr

/-- An event of a document. -/
inductive Event where
  | alias (name : String)
  | scalar (properties : Properties) (style : Style) (text : String)
  | sequenceStart (properties : Properties)
  | sequenceEnd
  | mappingStart (properties : Properties)
  | mappingEnd
  deriving DecidableEq, Repr

/-- A node that is left out. -/
def Event.absent : Event := .scalar {} .plain ""

/-- Something that has to come. -/
inductive Expect where
  /-- A node; `block` says whether it may be a block, `loose` whether it may be a sequence that is
      not indented further than the mapping around it. -/
  | node (block loose : Bool)
  /-- An entry of a block sequence, or its end. -/
  | dash
  /-- An entry of a sequence that is not indented, or what follows it. -/
  | looseDash
  /-- A key of a block mapping, or its end. -/
  | key
  /-- The value of a key in a block mapping. -/
  | value
  /-- An item in brackets, or their end; the first one has no comma before it. -/
  | item (first : Bool)
  /-- The key of a pair that is an item in brackets. -/
  | pairKey
  /-- The value of such a pair. -/
  | pairValue
  /-- The end of such a pair. -/
  | pairEnd
  /-- A key in braces, or their end; the first one has no comma before it. -/
  | braceKey (first : Bool)
  /-- The value of a key in braces. -/
  | braceValue
  /-- The absent value of a key in braces that has no sign and no colon. -/
  | noValue
  deriving DecidableEq, Repr

/-! ## 2. Nodes -/

/-- The tag before a node. -/
def tagBefore? (handles : Handles) : List Token → Option (Option Tag × List Token)
  | .tag handle suffix :: rest => (handles.tag? handle suffix).map fun tag => (some tag, rest)
  | tokens => some (none, tokens)

/-- The anchor before a node. -/
def anchorBefore : List Token → Option String × List Token
  | .anchor name :: rest => (some name, rest)
  | tokens => (none, tokens)

/-- The properties before a node, in either order. -/
def properties? (handles : Handles) (tokens : List Token) : Option (Properties × List Token) := do
  match anchorBefore tokens with
  | (some anchor, rest) =>
    let (tag, rest) ← tagBefore? handles rest
    return ({ anchor := some anchor, tag }, rest)
  | (none, _) =>
    let (tag, rest) ← tagBefore? handles tokens
    match tag with
    | some _ =>
      let (anchor, rest) := anchorBefore rest
      return ({ anchor, tag }, rest)
    | none => return ({}, tokens)

/-- What a step leads to: an event, what is to come before all other expectations, and the tokens
    that are left. -/
structure Step where
  event : Option Event := none
  expects : List Expect := []
  rest : List Token

/-- A node. -/
def node? (handles : Handles) (block loose : Bool) (tokens : List Token) : Option Step :=
  match tokens with
  | .alias name :: rest => some { event := some (.alias name), rest }
  | _ => do
    let (properties, tokens) ← properties? handles tokens
    let sequence := some (Event.sequenceStart properties)
    let mapping := some (Event.mappingStart properties)
    match tokens with
    | .scalar style text :: rest => return { event := some (.scalar properties style text), rest }
    | .bracketOpen :: rest => return { event := sequence, expects := [.item true], rest }
    | .braceOpen :: rest => return { event := mapping, expects := [.braceKey true], rest }
    | token :: rest =>
      if loose && token == .dash then
        return { event := sequence, expects := [.looseDash], rest := tokens }
      else if block && token == .sequenceStart then
        return { event := sequence, expects := [.dash], rest }
      else if block && token == .mappingStart then
        return { event := mapping, expects := [.key], rest }
      else if properties != {} then
        return { event := some (.scalar properties .plain ""), rest := tokens }
      else none
    | [] =>
      if properties != {} then return { event := some (.scalar properties .plain ""), rest := [] }
      else none

/-- A node, or an absent one before some tokens. -/
def nodeUnless (block loose : Bool) (ends : List Token) (next : Expect) (tokens : List Token) : Step :=
  if tokens.head?.any ends.contains then
    { event := some .absent, expects := [next], rest := tokens }
  else { expects := [.node block loose, next], rest := tokens }

/-! ## 3. Expectations -/

/-- The tokens after a comma, unless none is needed. -/
def afterComma? (first : Bool) : List Token → Option (List Token)
  | .comma :: rest => if first then some (.comma :: rest) else some rest
  | tokens => if first then some tokens else none

/-- Fulfils an expectation with the next tokens. -/
def Expect.step? (handles : Handles) : Expect → List Token → Option Step
  | .node block loose, tokens => node? handles block loose tokens
  | .dash, .dash :: rest => some (nodeUnless true false [.dash, .blockEnd] .dash rest)
  | .dash, .blockEnd :: rest => some { event := some .sequenceEnd, rest }
  | .dash, _ => none
  | .looseDash, .dash :: rest =>
    some (nodeUnless true false [.dash, .key, .value, .blockEnd] .looseDash rest)
  | .looseDash, rest => some { event := some .sequenceEnd, rest }
  | .key, .key :: rest => some (nodeUnless true true [.key, .value, .blockEnd] .value rest)
  | .key, .blockEnd :: rest => some { event := some .mappingEnd, rest }
  | .key, _ => none
  | .value, .value :: rest => some (nodeUnless true true [.key, .value, .blockEnd] .key rest)
  | .value, rest => some { event := some .absent, expects := [.key], rest }
  | .item _, .bracketClose :: rest => some { event := some .sequenceEnd, rest }
  | .item first, tokens =>
    (afterComma? first tokens).map fun
      | .key :: rest => { event := some (.mappingStart {}), expects := [.pairKey], rest }
      | .bracketClose :: rest => { event := some .sequenceEnd, rest }
      | rest => { expects := [.node false false, .item false], rest }
  | .pairKey, tokens =>
    if tokens.head?.any [Token.value, .comma, .bracketClose].contains then
      some { event := some .absent, expects := [.pairValue], rest := tokens.drop 1 }
    else some { expects := [.node false false, .pairValue], rest := tokens }
  | .pairValue, .value :: rest =>
    some (nodeUnless false false [.comma, .bracketClose] .pairEnd rest)
  | .pairValue, rest => some { event := some .absent, expects := [.pairEnd], rest }
  | .pairEnd, rest => some { event := some .mappingEnd, expects := [.item false], rest }
  | .braceKey _, .braceClose :: rest => some { event := some .mappingEnd, rest }
  | .braceKey first, tokens =>
    (afterComma? first tokens).map fun
      | .key :: rest => nodeUnless false false [.value, .comma, .braceClose] .braceValue rest
      | .braceClose :: rest => { event := some .mappingEnd, rest }
      | rest => { expects := [.node false false, .noValue], rest }
  | .braceValue, .value :: rest =>
    some (nodeUnless false false [.comma, .braceClose] (.braceKey false) rest)
  | .braceValue, rest => some { event := some .absent, expects := [.braceKey false], rest }
  | .noValue, rest => some { event := some .absent, expects := [.braceKey false], rest }

/-- Fulfils all expectations: the events, after those before in reverse, and the tokens that are
    left. -/
def fulfil? (handles : Handles) : (fuel : Nat) → (before : List Event) → List Expect → List Token →
    Option (List Event × List Token)
  | 0, _, _, _ => none
  | _ + 1, before, [], tokens => some (before.reverse, tokens)
  | fuel + 1, before, expect :: expects, tokens =>
    match expect.step? handles tokens with
    | none => none
    | some step =>
      fulfil? handles fuel (step.event.toList ++ before) (step.expects ++ expects) step.rest

/-! ## 4. Documents -/

/-- The directives at the beginning of a document, and what follows them. -/
def takeDirectives : List Token → List Directive × List Token
  | .directive d :: rest =>
    let (found, rest) := takeDirectives rest
    (d :: found, rest)
  | tokens => ([], tokens)

/-- Whether a token ends a document, or comes before one. -/
def Token.isOutside : Token → Bool
  | .directive _ | .documentStart | .documentEnd => true
  | _ => false

/-- The events of the only document, if there is one at all. Every expectation takes a token, or has
    had one taken for it. -/
def Event.ofTokens? (tokens : List Token) : Option (List Event) := do
  let (found, tokens) := takeDirectives tokens
  let handles ← directives? false [] found
  let fuel := 5 * (tokens.length + 2)
  match tokens with
  | [] => if found.isEmpty then return [] else none
  | .documentStart :: rest =>
    let isEmpty := rest.head?.all Token.isOutside
    let (events, rest) ←
      if isEmpty then some ([.absent], rest)
      else fulfil? handles fuel [] [.node true false] rest
    if rest.all (· == .documentEnd) then return events else none
  | _ =>
    if !found.isEmpty then none
    let (events, rest) ← fulfil? handles fuel [] [.node true false] tokens
    if rest.all (· == .documentEnd) then return events else none

/-- The events of a text of one document. -/
def Event.ofText? (source : String) : Option (List Event) :=
  (Token.ofText? source).bind Event.ofTokens?

end Placeholders.Data.Yaml
