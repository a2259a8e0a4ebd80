import Placeholders.Data.Yaml.Event

/-!
# Nodes of YAML

A document as a tree whose leaves are scalars and aliases.

* An anchor gives a node a number, and an alias is kept as the number of its anchor. The number of an
  anchor is how many names there have been before it, so an anchor that takes a name anew may share
  its number with a later one. An alias stands for the last node of its number in the document, which
  may also be one that comes after the alias, or one around it.
-/

namespace Placeholders.Data.Yaml

/-! ## 1. Trees -/

/-- A node of a document. -/
inductive Node where
  | scalar (tag : Option Tag) (style : Style) (text : String)
  | sequence (tag : Option Tag) (items : List Node)
  | mapping (tag : Option Tag) (pairs : List (Node × Node))
  | alias (number : Nat)
  deriving Inhabited

/-- The node of an anchor, once it is complete, and the place of its first event. -/
structure Anchor where
  start : Nat
  node : Option Node := none

/-- A document: its outermost node, the anchors by number, and the number of its events. -/
structure Document where
  root : Node
  anchors : Array Anchor
  size : Nat

namespace Document

/-- The node that an alias stands for. -/
def node? (document : Document) (number : Nat) : Option Node :=
  document.anchors[number]?.bind Anchor.node

/-! ## 2. Building -/

/-- A sequence or mapping that has not ended yet. -/
structure Frame where
  isMapping : Bool
  tag : Option Tag
  /-- The number of its anchor, and the place of its first event. -/
  anchor : Option (Nat × Nat)
  /-- Its nodes, last one first; keys and values in turns. -/
  nodes : List Node := []

/-- A document that is being built. -/
structure Builder where
  /-- The number of events so far. -/
  size : Nat := 0
  frames : List Frame := []
  /-- The number of the latest anchor of each name. -/
  names : List (String × Nat) := []
  anchors : Array Anchor := #[]
  root : Option Node := none

/-- Keys and values in turns, last one first, as pairs in front of others. -/
def pairsOnto (pairs : List (Node × Node)) : List Node → List (Node × Node)
  | value :: key :: before => pairsOnto ((key, value) :: pairs) before
  | _ => pairs

/-- The node of a frame. -/
def Frame.node (frame : Frame) : Node :=
  if frame.isMapping then .mapping frame.tag (pairsOnto [] frame.nodes)
  else .sequence frame.tag frame.nodes.reverse

namespace Builder

/-- Sets an anchor at the present event, if there is one to set; answers its number and its place. -/
def define (b : Builder) : Option String → Builder × Option (Nat × Nat)
  | none => (b, none)
  | some name =>
    let number := b.names.length
    let names := (name, number) :: b.names.filter fun known => known.1 != name
    let anchor : Anchor := { start := b.size }
    let anchors :=
      if number < b.anchors.size then b.anchors.setIfInBounds number anchor else b.anchors.push anchor
    ({ b with names, anchors }, some (number, b.size))

/-- Keeps the node of an anchor, unless a later anchor has taken its number. -/
def complete (b : Builder) (node : Node) : Option (Nat × Nat) → Builder
  | none => b
  | some (number, start) =>
    if b.anchors[number]?.any fun anchor => anchor.start == start then
      { b with anchors := b.anchors.setIfInBounds number { start, node := some node } }
    else b

/-- Puts a node into the innermost frame. -/
def place (b : Builder) (node : Node) : Builder :=
  match b.frames with
  | [] => { b with root := some node }
  | frame :: frames => { b with frames := { frame with nodes := node :: frame.nodes } :: frames }

/-- The effect of an event on a document that counts it already. -/
def receive? (b : Builder) : Event → Option Builder
  | .alias name => (b.names.lookup name).map fun number => b.place (.alias number)
  | .scalar properties style text =>
    let (b, anchor) := b.define properties.anchor
    let node := Node.scalar properties.tag style text
    some ((b.complete node anchor).place node)
  | .sequenceStart properties =>
    let (b, anchor) := b.define properties.anchor
    some { b with frames := { isMapping := false, tag := properties.tag, anchor } :: b.frames }
  | .mappingStart properties =>
    let (b, anchor) := b.define properties.anchor
    some { b with frames := { isMapping := true, tag := properties.tag, anchor } :: b.frames }
  | .sequenceEnd | .mappingEnd =>
    match b.frames with
    | [] => none
    | frame :: frames =>
      let node := frame.node
      some (({ b with frames }.complete node frame.anchor).place node)

/-- The document after all events. -/
def build? (b : Builder) : List Event → Option Builder
  | [] => some b
  | event :: events =>
    match b.receive? event with
    | some b => build? { b with size := b.size + 1 } events
    | none => none

end Builder

/-- The document of a list of events. One without any node is an absent scalar. -/
def ofEvents? (events : List Event) : Option Document :=
  (Builder.build? {} events).map fun b =>
    { root := b.root.getD (.scalar none .plain ""), anchors := b.anchors, size := max 1 b.size }

/-- The document of a text. -/
def ofText? (source : String) : Option Document := (Event.ofText? source).bind ofEvents?

end Document

end Placeholders.Data.Yaml
