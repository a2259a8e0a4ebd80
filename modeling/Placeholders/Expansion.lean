import Placeholders.Document.Binding
import Placeholders.Registry

/-!
# Expansion of pages

Values take the place of tokens on a page.

* The tokens of all placeholders are looked for together, one text or attribute value at a time. What
  is written there is sealed, and no later pass looks at it.
* A token is replaced as text, or in attribute values too, or by a binding; its class decides.
* Bindings and what is in them are left alone. Where no markup is read, no bindings are put in.
* `Document.refresh` brings bindings up to date without another pass.
-/

namespace Placeholders

open Placeholders.Markup Placeholders.Text

/-! ## 1. Strategies -/

/-- What a token is replaced by. -/
inductive Strategy where
  /-- Text. -/
  | direct
  /-- Text, also in attribute values. -/
  | escapedMarkup
  /-- A binding, which may ask for an editor. -/
  | liveBound (editor : Bool)
  deriving DecidableEq, Repr

namespace Strategy

/-- What readers are told about a strategy. -/
def label : Strategy → String
  | direct => "direct"
  | escapedMarkup => "escaped markup"
  | liveBound _ => "live-bound"

/-- The strategy for a class of tokens. -/
def ofClass : TokenClass → Strategy
  | .normal | .static => direct
  | .html => escapedMarkup
  | .dynamic => liveBound false
  | .editable => liveBound true

end Strategy

/-- Whether replaced tokens of a class cannot be brought up to date in place. -/
def TokenClass.needsReload : TokenClass → Bool
  | .normal | .html => true
  | _ => false

/-- What can be wrong with an expansion. -/
inductive ExpandError where
  | token (source : TokenError)
  | unknownPlaceholder (name : String)
  | unknownNode (id : Nat)
  deriving DecidableEq, Repr

/-- The wording of an error. -/
def ExpandError.message : ExpandError → String
  | .token source => source.message
  | .unknownPlaceholder name => s!"unknown placeholder: {name}"
  | .unknownNode id => s!"node {id} does not exist in this document"

/-! ## 2. Targets -/

/-- What a token stands for. -/
structure Target where
  /-- The position of the placeholder. -/
  source : Nat
  name : String
  value : String
  tokenClass : TokenClass
  deriving DecidableEq, Repr

namespace Target

/-- The strategy for a token. -/
def strategy (t : Target) : Strategy := .ofClass t.tokenClass

/-- Whether the token is looked for in attribute values. -/
def isMarkup (t : Target) : Bool := t.strategy == .escapedMarkup

end Target

/-- The classes of tokens that are looked for. -/
def Placeholder.tokenClasses (p : Placeholder) : List TokenClass :=
  TokenClass.all.filter fun c => p.allowInnerHtml || Strategy.ofClass c != .escapedMarkup

/-- Adds a token of the placeholder at a position. The first placeholder that offers a token keeps
    it, and empty tokens are not looked for. -/
def addTarget (i : Nat) (p : Placeholder) (lexicon : Lexicon Target) (c : TokenClass) :
    Except TokenError (Lexicon Target) :=
  let token := p.tokens.get c
  if !token.isGlobal then .error (.notGlobal token.literal)
  else if token.literal.isEmpty then .ok lexicon
  else .ok (lexicon.offer token.literal.toList ⟨i, p.name, p.expandedValue, c⟩)

/-- Adds the tokens of the placeholders from a position on. -/
def addTargets (lexicon : Lexicon Target) (i : Nat) : List Placeholder →
    Except TokenError (Lexicon Target)
  | [] => .ok lexicon
  | p :: rest =>
    match p.tokenClasses.foldlM (addTarget i p) lexicon with
    | .ok lexicon => addTargets lexicon (i + 1) rest
    | .error e => .error e

/-- All tokens that are looked for. -/
def Registry.targets (r : Registry) : Except TokenError (Lexicon Target) :=
  addTargets [] 0 r.placeholders

/-! ## 3. Parts of a text -/

/-- What a part of a text becomes. -/
inductive Part where
  | plain (text : List Char)
  | value (text : String)
  | binding (target : Target) (editor : Bool)
  deriving DecidableEq, Repr

/-- What a token becomes; `raw` says that no markup is read where it stands. Nothing means that the
    token stays. -/
def Target.part? (t : Target) (raw : Bool) : Option Part :=
  match t.strategy with
  | .direct => some (.value t.value)
  | .escapedMarkup =>
    some (.value (if raw then String.ofList (escape t.value.toList) else t.value))
  | .liveBound editor => if raw then none else some (.binding t editor)

/-- Puts plain text before parts. -/
def Part.consPlain (text : List Char) (parts : List Part) : List Part :=
  if text.isEmpty then parts else .plain text :: parts

/-- The parts of pieces after some plain text, which has its last character first, and the tokens that
    are replaced. -/
def partsFrom (raw : Bool) (before : List Char) : List (Piece Target) → List Part × List Target
  | [] => (Part.consPlain before.reverse [], [])
  | .plain c :: rest => partsFrom raw (c :: before) rest
  | .hit literal t :: rest =>
    match t.part? raw with
    | none => partsFrom raw (literal.reverse ++ before) rest
    | some part =>
      let (parts, replaced) := partsFrom raw [] rest
      (Part.consPlain before.reverse (part :: parts), t :: replaced)

namespace Document

/-- Whether no markup is read in a node. -/
def isRawElement (doc : Document) (id : Nat) : Bool := (doc.tag? id).any isRaw

/-- Creates the node of a part; answers its number. -/
def createPart (doc : Document) : Part → Document × Nat
  | .plain text => doc.create (.text (String.ofList text))
  | .value text =>
    let (doc, id) := doc.create (.text text)
    (doc.sealText id, id)
  | .binding t editor =>
    let classes := if editor then s!"{Binding.valueClass} {Binding.requestClass}" else Binding.valueClass
    let (doc, id) := doc.create (.element "span"
      [(Attributes.classAttribute, classes), (Binding.nameAttribute, t.name)])
    (if t.value.isEmpty then doc else doc.appendNew id (.text t.value), id)

/-- Puts the node of a part before another node. -/
def insertPart (doc : Document) (reference : Nat) (part : Part) : Document :=
  let (doc, id) := doc.createPart part
  (doc.insertBefore? reference id).getD doc

/-- Replaces the tokens in a text; answers which they were. -/
def expandText (doc : Document) (lexicon : Lexicon Target) (id : Nat) : Document × List Target :=
  let raw := (doc.parent? id).any doc.isRawElement
  let text := (doc.text? id).getD ""
  match partsFrom raw [] (cut lexicon text.toList) with
  | (_, []) => (doc, [])
  | (parts, replaced) => ((parts.foldl (fun doc part => doc.insertPart id part) doc).detach id, replaced)

/-- Replaces the tokens in an attribute value; answers which they were. -/
def expandAttribute (doc : Document) (lexicon : Lexicon Target) (id : Nat) (name value : String) :
    Document × List Target :=
  if doc.isSealedAttribute id name then (doc, [])
  else
    match hits lexicon value.toList with
    | [] => (doc, [])
    | replaced =>
      let text := String.ofList (replaceAll lexicon (fun t => t.value.toList) value.toList)
      ((doc.setAttribute id name text).sealAttribute id name, replaced)

/-! ## 4. The pass -/

/-- The nodes below a node that are in no binding, no deeper than `depth`. What is below a text does
    not count, nor do bindings themselves. -/
def unboundTo (doc : Document) : (depth id : Nat) → List Nat
  | 0, _ => []
  | depth + 1, id =>
    (doc.children id).flatMap fun child =>
      if (doc.text? child).isSome then [child]
      else if doc.isBinding child then []
      else child :: doc.unboundTo depth child

/-- The nodes below a node that are in no binding, in the order of the page. -/
def unbound (doc : Document) (id : Nat) : List Nat := doc.unboundTo doc.size id

/-- Replaces the tokens in several texts, except sealed ones. -/
def expandTexts (doc : Document) (lexicon : Lexicon Target) : List Nat → Document × List Target
  | [] => (doc, [])
  | id :: rest =>
    let (doc, replaced) := if doc.isSealedText id then (doc, []) else doc.expandText lexicon id
    let (doc, more) := doc.expandTexts lexicon rest
    (doc, replaced ++ more)

/-- Replaces the tokens in several attribute values of several elements. -/
def expandAttributes (doc : Document) (lexicon : Lexicon Target) :
    List (Nat × String × String) → Document × List Target
  | [] => (doc, [])
  | (id, name, value) :: rest =>
    let (doc, replaced) := doc.expandAttribute lexicon id name value
    let (doc, more) := doc.expandAttributes lexicon rest
    (doc, replaced ++ more)

/-- All attributes of several nodes. -/
def attributesOf (doc : Document) (ids : List Nat) : List (Nat × String × String) :=
  ids.flatMap fun id => (doc.attributes id).map fun entry => (id, entry)

/-- Replaces all tokens below a node; answers which they were. -/
def expandBelow (doc : Document) (lexicon : Lexicon Target) (root : Nat) :
    Document × List Target :=
  let ids := doc.unbound root
  let (doc, replaced) := doc.expandTexts lexicon (ids.filter fun id => (doc.text? id).isSome)
  let (doc, more) := doc.expandAttributes (lexicon.filter fun entry => entry.2.isMarkup)
    (doc.attributesOf (ids.filter doc.isElement))
  (doc, replaced ++ more)

end Document

/-- Counts the replaced tokens of the placeholder at a position. -/
def Placeholder.tally (p : Placeholder) (i : Nat) (replaced : List Target) : Placeholder :=
  let own := replaced.filter fun t => t.source == i
  { p with
    countOnPage := p.countOnPage + own.length
    reloadOnChange := p.reloadOnChange || own.any fun t => t.tokenClass.needsReload }

/-- Counts the replaced tokens of all placeholders. -/
def Registry.tally (r : Registry) (replaced : List Target) : Registry :=
  { r with placeholders := r.placeholders.mapIdx fun i p => p.tally i replaced }

/-- What a pass has found. -/
structure Findings where
  /-- The names of the placeholders found on pages so far, in order. -/
  used : List String
  bindings : Bindings

/-- Replaces all tokens below a node and counts them. -/
def Document.expand (doc : Document) (root : Nat) (r : Registry) :
    Except ExpandError (Document × Registry × Findings) :=
  if !doc.contains root then .error (.unknownNode root)
  else
    match r.targets with
    | .error e => .error (.token e)
    | .ok lexicon =>
      let (doc, replaced) := doc.expandBelow lexicon root
      let r := r.tally replaced
      let bindings := Bindings.scan doc root
      let used := r.placeholders.filter fun p => p.isUsed || bindings.contains p.name
      .ok (doc, r, ⟨used.map (·.name), bindings⟩)

/-! ## 5. Refreshing -/

namespace Document

/-- Brings a binding up to date. -/
def refreshElement (p : Placeholder) (doc : Document) (id : Nat) : Document :=
  (doc.setTextContent id p.expandedValue).showState id p

/-- Brings the bindings of several names up to date, up to the first unknown one. Answers how many
    elements that were. -/
def refresh (doc : Document) (bindings : Bindings) (r : Registry) :
    List String → Except ExpandError Nat × Document
  | [] => (.ok 0, doc)
  | name :: rest =>
    match r.get? name with
    | none => (.error (.unknownPlaceholder name), doc)
    | some p =>
      let ids := bindings.elements name
      let (result, doc) := (ids.foldl (refreshElement p) doc).refresh bindings r rest
      (result.map (ids.length + ·), doc)

end Document

end Placeholders
