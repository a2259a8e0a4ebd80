import Placeholders.Markup.Tree

/-!
# Documents

Nodes under numbers. Number zero is the root; every new node takes the next number and keeps it, also
when it is no longer part of the page.

* Every node knows its parent and its children. `detach` only takes a node out of its parent, so that
  it can come back with everything below it.
* `descendants` lists what is below a node, in the order of the page.
* `tree` is the markup of a node and what is below it.
* Texts and attribute values that stand for a value are sealed; they are not looked at again.
-/

namespace Placeholders

open Placeholders.Markup

/-! ## 1. Nodes -/

/-- What a node is. -/
inductive Payload where
  | root
  | doctype (declaration : String)
  | comment (body : String)
  | text (content : String)
  | element (tag : String) (attributes : Attributes)
  deriving DecidableEq, Repr

/-- Changes the attributes of an element. -/
def Payload.mapAttributes (f : Attributes → Attributes) : Payload → Payload
  | .element tag attributes => .element tag (f attributes)
  | payload => payload

/-- A node with its place. -/
structure Node where
  payload : Payload
  parent : Option Nat := none
  children : List Nat := []
  deriving DecidableEq, Repr

/-- A page. -/
structure Document where
  nodes : Array Node
  /-- Texts that stand for a value. -/
  sealedTexts : List Nat := []
  /-- Attributes whose values stand for a value. -/
  sealedAttributes : List (Nat × String) := []
  deriving DecidableEq, Repr

namespace Document

/-- A page that holds nothing but its root. -/
def empty : Document := { nodes := #[{ payload := .root }] }

/-- The number of the root. -/
def root : Nat := 0

/-- The number of nodes there have been so far. -/
def size (doc : Document) : Nat := doc.nodes.size

/-- Whether there is a node of a number. -/
def contains (doc : Document) (id : Nat) : Bool := decide (id < doc.size)

/-- What a node is. -/
def payload? (doc : Document) (id : Nat) : Option Payload := (doc.nodes[id]?).map (·.payload)

/-- The parent of a node. -/
def parent? (doc : Document) (id : Nat) : Option Nat := (doc.nodes[id]?).bind (·.parent)

/-- The children of a node. -/
def children (doc : Document) (id : Nat) : List Nat :=
  match doc.nodes[id]? with
  | some node => node.children
  | none => []

/-- Changes a node. -/
def modify (doc : Document) (id : Nat) (f : Node → Node) : Document :=
  { doc with nodes := doc.nodes.modify id f }

/-- A new node that has no place yet, and its number. -/
def create (doc : Document) (payload : Payload) : Document × Nat :=
  ({ doc with nodes := doc.nodes.push { payload } }, doc.size)

/-! ## 2. Places -/

/-- Takes a node out of its parent. -/
def detach (doc : Document) (id : Nat) : Document :=
  match doc.parent? id with
  | none => doc
  | some parent =>
    (doc.modify id fun node => { node with parent := none }).modify parent fun node =>
      { node with children := node.children.filter (· != id) }

/-- Makes a node the last child of another. -/
def append (doc : Document) (parent child : Nat) : Document :=
  ((doc.detach child).modify child fun node => { node with parent := some parent }).modify parent
    fun node => { node with children := node.children ++ [child] }

/-- Puts a node before another one, which must have a parent. -/
def insertBefore? (doc : Document) (reference child : Nat) : Option Document :=
  (doc.parent? reference).map fun parent =>
    ((doc.detach child).modify child fun node => { node with parent := some parent }).modify parent
      fun node =>
        { node with children := node.children.insertIdx (node.children.idxOf reference) child }

/-- Puts a node where another one is, and takes that out. -/
def replace? (doc : Document) (old replacement : Nat) : Option Document :=
  (doc.insertBefore? old replacement).map fun doc => doc.detach old

/-- Takes all children out. -/
def clearChildren (doc : Document) (id : Nat) : Document :=
  (doc.children id).foldl (fun doc child => doc.modify child fun node => { node with parent := none })
    (doc.modify id fun node => { node with children := [] })

/-! ## 3. What is below a node -/

/-- What is below a node, no deeper than `depth`. -/
def descendantsTo (doc : Document) : (depth id : Nat) → List Nat
  | 0, _ => []
  | depth + 1, id => (doc.children id).flatMap fun child => child :: doc.descendantsTo depth child

/-- What is below a node, in the order of the page. -/
def descendants (doc : Document) (id : Nat) : List Nat :=
  doc.descendantsTo doc.size id

/-- The markup of a node, no deeper than `depth`. -/
def treeTo (doc : Document) : (depth id : Nat) → Tree
  | 0, _ => .fragment []
  | depth + 1, id =>
    match doc.payload? id with
    | some (.doctype declaration) => .doctype declaration
    | some (.comment body) => .comment body
    | some (.text content) => .text content
    | some (.element tag attributes) =>
      .element tag attributes ((doc.children id).map (doc.treeTo depth))
    | some .root => .fragment ((doc.children id).map (doc.treeTo depth))
    | none => .fragment []

/-- The markup of a node and what is below it. -/
def tree (doc : Document) (id : Nat) : Tree :=
  doc.treeTo doc.size id

/-! ## 4. Elements -/

/-- The tag of an element. -/
def tag? (doc : Document) (id : Nat) : Option String :=
  match doc.payload? id with
  | some (.element tag _) => some tag
  | _ => none

/-- Whether a node is an element. -/
def isElement (doc : Document) (id : Nat) : Bool := (doc.tag? id).isSome

/-- The attributes of an element; other nodes have none. -/
def attributes (doc : Document) (id : Nat) : Attributes :=
  match doc.payload? id with
  | some (.element _ attributes) => attributes
  | _ => []

/-- The value of an attribute. -/
def attribute? (doc : Document) (id : Nat) (name : String) : Option String :=
  (doc.attributes id).get? name

/-- Whether an element is of a class. -/
def hasClass (doc : Document) (id : Nat) (name : String) : Bool :=
  (doc.attributes id).hasClass name

/-- Changes the attributes of an element; other nodes stay as they are. -/
def mapAttributes (doc : Document) (id : Nat) (f : Attributes → Attributes) : Document :=
  doc.modify id fun node => { node with payload := node.payload.mapAttributes f }

/-- Sets an attribute. -/
def setAttribute (doc : Document) (id : Nat) (name value : String) : Document :=
  doc.mapAttributes id (·.set name value)

/-- Takes an attribute away. -/
def removeAttribute (doc : Document) (id : Nat) (name : String) : Document :=
  doc.mapAttributes id (·.remove name)

/-- Adds a class. -/
def addClass (doc : Document) (id : Nat) (name : String) : Document :=
  doc.mapAttributes id (·.addClass name)

/-- Removes a class. -/
def removeClass (doc : Document) (id : Nat) (name : String) : Document :=
  doc.mapAttributes id (·.removeClass name)

/-- The elements below a node, in the order of the page. -/
def elements (doc : Document) (id : Nat) : List Nat :=
  (doc.descendants id).filter doc.isElement

/-! ## 5. Texts -/

/-- The content of a text. -/
def text? (doc : Document) (id : Nat) : Option String :=
  match doc.payload? id with
  | some (.text content) => some content
  | _ => none

/-- Sets the content of a text; other nodes stay as they are. -/
def setText (doc : Document) (id : Nat) (content : String) : Document :=
  doc.modify id fun node =>
    match node.payload with
    | .text _ => { node with payload := .text content }
    | _ => node

/-- The content of a text, or of all texts below another node. -/
def textContent (doc : Document) (id : Nat) : String :=
  (doc.text? id).getD (String.join ((doc.descendants id).filterMap doc.text?))

/-- Creates a node as the last child of another. -/
def appendNew (doc : Document) (parent : Nat) (payload : Payload) : Document :=
  let (doc, id) := doc.create payload
  doc.append parent id

/-- Makes a text the only content of a node. -/
def setTextContent (doc : Document) (id : Nat) (content : String) : Document :=
  if (doc.text? id).isSome then doc.setText id content
  else
    let doc := doc.clearChildren id
    if content.isEmpty then doc else doc.appendNew id (.text content)

/-! ## 6. Seals -/

/-- Seals a text. -/
def sealText (doc : Document) (id : Nat) : Document :=
  { doc with sealedTexts := id :: doc.sealedTexts }

/-- Seals the value of an attribute. -/
def sealAttribute (doc : Document) (id : Nat) (name : String) : Document :=
  { doc with sealedAttributes := (id, name) :: doc.sealedAttributes }

/-- Whether a text is sealed. -/
def isSealedText (doc : Document) (id : Nat) : Bool := doc.sealedTexts.contains id

/-- Whether the value of an attribute is sealed. -/
def isSealedAttribute (doc : Document) (id : Nat) (name : String) : Bool :=
  doc.sealedAttributes.contains (id, name)

/-! ## 7. Markup -/

mutual

/-- Appends a tree to a node. Numbers are given in the order of the page. -/
def appendTree (doc : Document) (parent : Nat) : Tree → Document
  | .doctype declaration => doc.appendNew parent (.doctype declaration)
  | .comment body => doc.appendNew parent (.comment body)
  | .text content => doc.appendNew parent (.text content)
  | .element tag attributes children =>
    appendTrees (doc.appendNew parent (.element tag attributes)) doc.size children
  | .fragment children => appendTrees doc parent children

/-- Appends several trees to a node. -/
def appendTrees (doc : Document) (parent : Nat) : List Tree → Document
  | [] => doc
  | tree :: rest => appendTrees (appendTree doc parent tree) parent rest

end

/-- The page of some markup. -/
def parse (markup : String) : Document :=
  empty.appendTrees root (Tree.parse markup.toList)

/-- Makes markup the only content of a node. -/
def setInnerHtml (doc : Document) (id : Nat) (markup : String) : Document :=
  (doc.clearChildren id).appendTrees id (Tree.parse markup.toList)

/-- The markup of what is in a node. -/
def innerHtml (doc : Document) (id : Nat) : String :=
  String.ofList (Tree.renderAll ((doc.tag? id).any isRaw) ((doc.children id).map doc.tree))

/-- The markup of a node. -/
def outerHtml (doc : Document) (id : Nat) : String :=
  String.ofList (doc.tree id).render

/-- The markup of the page. -/
def toHtml (doc : Document) : String := doc.innerHtml root

end Document

end Placeholders
