import Placeholders.Engine.Change

/-!
# Editors on the page

Bindings that ask for it become editors. Every editor has a listener, through which a reader's doings
reach the engine.

* A hub owns the listeners of one generation. Unregistering ends the generation: its listeners may
  still be held somewhere, but they do nothing any more.
* An element has at most one listener of a hub. Placeholders that are read-only get none.
* Unregistering takes everything away again that registering and the changes since then have put on the
  elements. That needs the elements to be there: those of an earlier page may be missing.
-/

namespace Placeholders

open Placeholders.Validation

/-! ## 1. Listeners -/

/-- The kind of an editor. -/
inductive EditorKind where
  | textbox | checkbox | dropdown
  deriving DecidableEq, Repr

namespace EditorKind

/-- The editor for a kind of placeholder. -/
def ofKind : Kind → EditorKind
  | .textbox _ => textbox
  | .checkbox _ => checkbox
  | .dropdown _ => dropdown

/-- The class of an active editor. -/
def styleClass : EditorKind → String
  | textbox => Binding.textboxClass
  | checkbox => Binding.checkboxClass
  | dropdown => Binding.dropdownClass

end EditorKind

/-- What a reader does with an editor. -/
inductive EditorEvent where
  /-- Confirms a text. -/
  | confirm (text : String)
  /-- Leaves a text. -/
  | focusLost (text : String)
  | toggle
  /-- Goes so many choices further. -/
  | step (delta : Int)
  deriving DecidableEq, Repr

/-- What listens to one editor. -/
structure Listener where
  placeholder : String
  element : Nat
  kind : EditorKind
  generation : Nat
  deriving DecidableEq, Repr

/-! ## 2. Hubs -/

/-- The owner of editors. -/
structure Hub where
  generation : Nat := 0
  listeners : List Listener := []
  deriving DecidableEq, Repr

namespace Hub

/-- Whether a listener that the hub handed out is of the present generation. -/
def isActive (hub : Hub) (l : Listener) : Bool := l.generation == hub.generation

/-- The listener of an element. -/
def listenerFor? (hub : Hub) (element : Nat) : Option Listener :=
  hub.listeners.find? fun l => l.element == element

/-! ## 3. Events -/

/-- Sets a text, unless it is the present one. -/
def confirmText (e : Engine) (name text : String) : Except EngineError (Option Outcome) × Engine :=
  if (e.registry.get? name).any fun p => p.currentValue == text then (.ok none, e)
  else
    let (result, e) := e.setText name text
    (result.map some, e)

/-- Passes an event on to the engine. Nothing happens if the listener is not active, the event does
    not fit the editor, or the text is the present one. -/
def dispatch (hub : Hub) (e : Engine) (l : Listener) (event : EditorEvent) :
    Except EngineError (Option Outcome) × Engine :=
  if !hub.isActive l then (.ok none, e)
  else
    match l.kind, event with
    | .textbox, .confirm text => confirmText e l.placeholder text
    | .textbox, .focusLost text =>
      if e.settings.applyChangeOnFocusChange then confirmText e l.placeholder text else (.ok none, e)
    | .checkbox, .toggle =>
      let (result, e) := e.toggle l.placeholder
      (result.map some, e)
    | .dropdown, .step delta =>
      let (result, e) := e.cycleIndex l.placeholder delta
      (result.map some, e)
    | _, _ => (.ok none, e)

/-! ## 4. Registering -/

/-- The class of a page whose editors have icons. -/
def iconsClass : String := "inline-editor-icons"

/-- The class of a page whose editors have none. -/
def simpleClass : String := "inline-editor-simple"

/-- Shows on the body of a page whether editors have icons. -/
def styleBody (doc : Document) (icons : Bool) : Document :=
  match (doc.elements Document.root).find? fun id => doc.tag? id == some "body" with
  | none => doc
  | some body =>
    if icons then (doc.addClass body iconsClass).removeClass body simpleClass
    else (doc.addClass body simpleClass).removeClass body iconsClass

/-- Makes an element an editor. -/
def dress (doc : Document) (id : Nat) (p : Placeholder) : Document :=
  let kind := EditorKind.ofKind p.kind
  let doc := ((doc.addClass id Binding.editorClass).addClass id kind.styleClass).setAttribute id
    "tabindex" "0"
  let doc := if kind = .textbox then doc.setAttribute id "contenteditable" "true" else doc
  doc.showState id p

/-- The bindings of a page that ask for an editor and have no listener, with their names. -/
def requests (hub : Hub) (page : Page) : List (String × Nat) :=
  page.bindings.all.filter fun entry =>
    page.document.hasClass entry.2 Binding.requestClass && (hub.listenerFor? entry.2).isNone

/-- Makes an element an editor and listens to it, if its placeholder may be changed. -/
def register (r : Registry) (state : Hub × Document) (request : String × Nat) : Hub × Document :=
  match r.get? request.1 with
  | none => state
  | some p =>
    if p.readOnly then state
    else
      let l : Listener := ⟨request.1, request.2, .ofKind p.kind, state.1.generation⟩
      ({ state.1 with listeners := state.1.listeners ++ [l] }, dress state.2 request.2 p)

/-- Makes editors of the bindings that ask for it, unless editors are switched off. Answers how many
    there are now in addition. -/
def registerAll (hub : Hub) (e : Engine) : Except EngineError Nat × Hub × Engine :=
  match e.page with
  | none => (.error .noPage, hub, e)
  | some page =>
    let page := { page with document := styleBody page.document e.settings.inlineEditorIcons }
    if e.settings.inlineEditors then
      let (registered, document) :=
        (hub.requests page).foldl (register e.registry) (hub, page.document)
      (.ok (registered.listeners.length - hub.listeners.length), registered,
        { e with page := some { page with document } })
    else (.ok 0, hub, { e with page := some page })

/-! ## 5. Unregistering -/

/-- The attributes of an active editor. -/
def editorAttributes : List String := ["title", "tabindex", "contenteditable"]

/-- The classes of an active editor. -/
def editorClasses : List String :=
  [Binding.editorClass, Binding.textboxClass, Binding.checkboxClass, Binding.dropdownClass]
    ++ Binding.statusClasses

/-- Makes an editor a plain element again. -/
def strip (doc : Document) (id : Nat) : Document :=
  editorAttributes.foldl (fun doc name => doc.removeAttribute id name)
    (editorClasses.foldl (fun doc name => doc.removeClass id name) doc)

/-- The element of an earlier page that the present page does not have. -/
structure MissingElement where
  id : Nat
  deriving DecidableEq, Repr

/-- Ends the generation: takes all editors away and answers how many there were. -/
def unregisterAll (hub : Hub) (e : Engine) : Except MissingElement (Nat × Hub × Engine) :=
  let ended : Hub := { generation := hub.generation + 1 }
  match e.page with
  | none => .ok (hub.listeners.length, ended, e)
  | some page =>
    match hub.listeners.find? fun l => !page.document.contains l.element with
    | some l => .error ⟨l.element⟩
    | none =>
      let document := hub.listeners.foldl (fun doc l => strip doc l.element) page.document
      .ok (hub.listeners.length, ended, { e with page := some { page with document } })

end Hub

end Placeholders
