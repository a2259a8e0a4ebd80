import Placeholders.Storage.Store
import Placeholders.Token

/-!
# Settings

What a descriptor fixes for all placeholders: how tokens are written, when the first pass runs, how
editors behave, and where values are kept.

* Three toggles may be overridden by the reader of a page. Overrides are kept in the store and win
  over the descriptor.
* `Trigger.ofDelay` says when the first pass runs.
-/

namespace Placeholders

open Placeholders.Storage

/-! ## 1. Settings -/

/-- What a token begins and ends with. -/
structure Affixes where
  opening : String
  closing : String
  deriving DecidableEq, Repr

/-- The same text at both ends. -/
def Affixes.both (text : String) : Affixes := ⟨text, text⟩

/-- The settings of a descriptor. -/
structure Settings where
  debug : Bool := false
  /-- When the first pass runs. -/
  delayMillis : Int := 0
  normal : Affixes := .both "x"
  static : Affixes := .both "s"
  html : Affixes := .both "i"
  dynamic : Affixes := .both "d"
  editable : Affixes := .both "e"
  inlineEditors : Bool := true
  inlineEditorIcons : Bool := true
  applyChangeOnFocusChange : Bool := true
  keySpace : String := standardKeySpace
  deriving DecidableEq, Repr

namespace Settings

/-- The affixes of a class. -/
def affixes (settings : Settings) : TokenClass → Affixes
  | .normal => settings.normal
  | .static => settings.static
  | .html => settings.html
  | .dynamic => settings.dynamic
  | .editable => settings.editable

/-- The tokens of a name. -/
def tokens (settings : Settings) (name : String) : Tokens :=
  .ofFunction fun c => .ofAffixes (settings.affixes c).opening name (settings.affixes c).closing

end Settings

/-! ## 2. Toggles -/

/-- A setting that the reader of a page may override. -/
inductive Toggle where
  /-- Editors on bound elements. -/
  | inlineEditors
  /-- Icons beside the editors. -/
  | inlineEditorIcons
  /-- An edit counts when the focus leaves the editor. -/
  | applyChangeOnFocusChange
  deriving DecidableEq, Repr

namespace Toggle

/-- All toggles. -/
def all : List Toggle := [.inlineEditors, .inlineEditorIcons, .applyChangeOnFocusChange]

/-- The key of a toggle among the settings of the store. -/
def key : Toggle → String
  | .inlineEditors => "INLINE_EDITORS"
  | .inlineEditorIcons => "INLINE_EDITOR_ICONS"
  | .applyChangeOnFocusChange => "APPLY_CHANGE_ON_FOCUS_CHANGE"

end Toggle

namespace Settings

/-- The state of a toggle. -/
def toggle (settings : Settings) : Toggle → Bool
  | .inlineEditors => settings.inlineEditors
  | .inlineEditorIcons => settings.inlineEditorIcons
  | .applyChangeOnFocusChange => settings.applyChangeOnFocusChange

/-- The settings with one toggle changed. -/
def withToggle (settings : Settings) (t : Toggle) (on : Bool) : Settings :=
  match t with
  | .inlineEditors => { settings with inlineEditors := on }
  | .inlineEditorIcons => { settings with inlineEditorIcons := on }
  | .applyChangeOnFocusChange => { settings with applyChangeOnFocusChange := on }

@[simp] theorem toggle_withToggle (settings : Settings) (t u : Toggle) (on : Bool) :
    (settings.withToggle t on).toggle u = if t = u then on else settings.toggle u := by
  cases t <;> cases u <;> rfl

/-- The settings with one toggle as the store has it, if the store has it. -/
def applyOverride (store : Store) (settings : Settings) (t : Toggle) : Settings :=
  match store.loadToggle? t.key with
  | some on => settings.withToggle t on
  | none => settings

/-- The settings with all toggles as the store has them. -/
def applyOverrides (settings : Settings) (store : Store) : Settings :=
  Toggle.all.foldl (applyOverride store) settings

end Settings

/-! ## 3. The first pass -/

/-- When the first pass runs. -/
inductive Trigger where
  /-- Without waiting for the page. -/
  | immediate
  /-- When the page has loaded. -/
  | onLoad
  /-- So many milliseconds after the page has loaded. -/
  | onLoadDelayed (millis : Nat)
  deriving DecidableEq, Repr

/-- Negative delays do not wait for the page at all. -/
def Trigger.ofDelay (millis : Int) : Trigger :=
  if millis < 0 then .immediate
  else if millis = 0 then .onLoad
  else .onLoadDelayed millis.toNat

end Placeholders
