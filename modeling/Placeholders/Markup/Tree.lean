import Placeholders.Markup.Token

/-!
# Trees of markup

Markup as a tree, its written form, and how it is read back.

* `Tree.render` writes a tree. The text of a raw element is written as it is; void elements have no
  content and no closing tag.
* `Tree.parse` builds trees from tokens. Text that follows text is one node. A closing tag closes the
  innermost open element of its name and everything in it; if there is none, it is passed over. What
  is open at the end is closed there.
* What stands around a text does not change how it is read.
-/

namespace Placeholders.Markup

/-! ## 1. Trees -/

/-- A piece of markup. -/
inductive Tree where
  | doctype (declaration : String)
  | comment (body : String)
  | text (content : String)
  | element (tag : String) (attributes : Attributes) (children : List Tree)
  /-- Several pieces that stand together, with nothing around them. -/
  | fragment (children : List Tree)
  deriving Repr, Inhabited

namespace Tree

/-! ## 2. Writing -/

/-- An attribute in a tag. -/
def renderAttribute (entry : String × String) : List Char :=
  ' ' :: entry.1.toList ++ '=' :: '"' :: escapeAttribute entry.2.toList ++ ['"']

/-- The tag that opens an element. -/
def renderOpening (tag : String) (attributes : Attributes) : List Char :=
  '<' :: tag.toList ++ attributes.flatMap renderAttribute ++ ['>']

/-- The tag that closes an element. -/
def renderClosing (tag : String) : List Char :=
  '<' :: '/' :: tag.toList ++ ['>']

/-- The declaration of a document type. -/
def renderDoctype (declaration : String) : List Char :=
  let text := if declaration.isEmpty then [] else ' ' :: declaration.toList
  ['<', '!', 'D', 'O', 'C', 'T', 'Y', 'P', 'E'] ++ text ++ ['>']

/-- A comment. -/
def renderComment (body : String) : List Char :=
  ['<', '!', '-', '-'] ++ body.toList ++ ['-', '-', '>']

mutual

/-- The written form of a tree. -/
def render : Tree → List Char
  | doctype declaration => renderDoctype declaration
  | comment body => renderComment body
  | text content => escapeText content.toList
  | element tag attributes children =>
    renderOpening tag attributes
      ++ if isVoid tag then [] else renderAll (isRaw tag) children ++ renderClosing tag
  | fragment children => renderAll false children

/-- The written forms of several trees; `raw` says that their texts are written as they are. -/
def renderAll (raw : Bool) : List Tree → List Char
  | [] => []
  | text content :: rest =>
    (if raw then content.toList else escapeText content.toList) ++ renderAll raw rest
  | tree :: rest => render tree ++ renderAll raw rest

end

/-! ## 3. Reading -/

/-- An element that is open: its content so far has the last piece first. -/
structure Frame where
  tag : String
  attributes : Attributes
  content : List Tree

/-- Trees under construction: finished ones, last first, and open elements, innermost first. -/
structure Draft where
  finished : List Tree
  frames : List Frame

/-- Puts a piece before others, which have the last piece first. Text joins text. -/
def join (tree : Tree) (content : List Tree) : List Tree :=
  match tree, content with
  | text new, text old :: rest => text (old ++ new) :: rest
  | _, _ => tree :: content

namespace Draft

/-- Adds a piece to the innermost open element. -/
def add (d : Draft) (tree : Tree) : Draft :=
  match d.frames with
  | [] => { d with finished := join tree d.finished }
  | frame :: frames => { d with frames := { frame with content := join tree frame.content } :: frames }

/-- Opens an element with some content. -/
def openElement (d : Draft) (tag : String) (attributes : Attributes) (content : List Tree) : Draft :=
  { d with frames := ⟨tag, attributes, content⟩ :: d.frames }

/-- Closes the innermost open element. -/
def closeInnermost (d : Draft) : Draft :=
  match d.frames with
  | [] => d
  | frame :: frames =>
    { d with frames }.add (element frame.tag frame.attributes frame.content.reverse)

/-- Closes so many of the open elements. -/
def close (d : Draft) : Nat → Draft
  | 0 => d
  | n + 1 => d.closeInnermost.close n

/-- Takes in the next token. -/
def step (d : Draft) : Token → Draft
  | .comment body => d.add (comment body)
  | .doctype declaration => d.add (doctype declaration)
  | .text content => d.add (text content)
  | .opening tag attributes => d.openElement tag attributes []
  | .leaf tag attributes => d.add (element tag attributes [])
  | .raw tag attributes body =>
    d.openElement tag attributes (if body.isEmpty then [] else [text body])
  | .closing tag =>
    match d.frames.findIdx? fun frame => frame.tag == tag with
    | some depth => d.close (depth + 1)
    | none => d

/-- The finished trees after everything that is open has been closed. -/
def finish (d : Draft) : List Tree :=
  (d.close d.frames.length).finished.reverse

end Draft

/-- The trees of a list of tokens. -/
def ofTokens (l : List Token) : List Tree :=
  (l.foldl Draft.step ⟨[], []⟩).finish

/-- The trees of a text of markup. -/
def parse (s : List Char) : List Tree :=
  ofTokens (tokens s)

end Tree

end Placeholders.Markup
