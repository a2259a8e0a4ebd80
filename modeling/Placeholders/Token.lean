import Placeholders.Text.Cut

/-!
# Tokens

A token is the name of a placeholder between an opening and a closing text; it stands for the value.

* There is one token per class. The class decides how an occurrence on a page is treated.
* Occurrences are found from left to right and do not overlap. An empty token occurs at every place
  between characters and at both ends.
* A token that is not global may be looked for but not replaced.
-/

namespace Placeholders

/-! ## 1. Classes -/

/-- What becomes of an occurrence on a page. -/
inductive TokenClass where
  /-- Replaced as text; a change needs a reload. -/
  | normal
  /-- Replaced as text; keeps the value of the first pass. -/
  | static
  /-- Replaced inside markup too, after escaping; a change needs a reload. -/
  | html
  /-- Bound, so that a change shows at once. -/
  | dynamic
  /-- Bound, and asking for an editor. -/
  | editable
  deriving DecidableEq, Repr

namespace TokenClass

/-- All classes, in the order in which they are tried. -/
def all : List TokenClass := [.dynamic, .editable, .html, .static, .normal]

/-- The name of a class. -/
def name : TokenClass → String
  | .normal => "normal"
  | .static => "static"
  | .html => "html"
  | .dynamic => "dynamic"
  | .editable => "editable"

theorem mem_all (c : TokenClass) : c ∈ all := by cases c <;> decide

end TokenClass

/-! ## 2. Tokens -/

/-- A text that stands for a value. -/
structure Token where
  literal : String
  /-- Whether it may be replaced, not only looked for. -/
  isGlobal : Bool := true
  deriving DecidableEq, Repr

/-- What can be wrong with the use of a token. -/
inductive TokenError where
  | notGlobal (literal : String)
  deriving DecidableEq, Repr

/-- The wording of an error. -/
def TokenError.message : TokenError → String
  | .notGlobal literal =>
    s!"token pattern '{literal}' is not global and cannot be used for substitution"

namespace Token

/-- The token of a name between two texts. -/
def ofAffixes (opening name closing : String) : Token := ⟨opening ++ name ++ closing, true⟩

/-- The same token, to be looked for only. -/
def firstOnly (token : Token) : Token := { token with isGlobal := false }

/-- The lexicon of the token alone. -/
def lexicon (token : Token) : Text.Lexicon Unit := [(token.literal.toList, ())]

/-- Whether the token occurs in a text. -/
def occursIn (token : Token) (text : String) : Bool :=
  Text.occursIn token.literal.toList text.toList

/-- The number of occurrences in a text. -/
def count (token : Token) (text : String) : Nat :=
  (Text.hits token.lexicon text.toList).length

/-- The text with every occurrence replaced, and how many there were. -/
def replaceAll (token : Token) (text replacement : String) : Except TokenError (String × Nat) :=
  if token.isGlobal then
    .ok (String.ofList (Text.replaceAll token.lexicon (fun _ => replacement.toList) text.toList),
      token.count text)
  else .error (.notGlobal token.literal)

end Token

/-! ## 3. The tokens of a placeholder -/

/-- One token for every class. -/
structure Tokens where
  normal : Token
  static : Token
  html : Token
  dynamic : Token
  editable : Token
  deriving DecidableEq, Repr

namespace Tokens

/-- The token of a class. -/
def get (tokens : Tokens) : TokenClass → Token
  | .normal => tokens.normal
  | .static => tokens.static
  | .html => tokens.html
  | .dynamic => tokens.dynamic
  | .editable => tokens.editable

/-- The tokens that a function gives each class. -/
def ofFunction (f : TokenClass → Token) : Tokens :=
  ⟨f .normal, f .static, f .html, f .dynamic, f .editable⟩

@[simp] theorem get_ofFunction (f : TokenClass → Token) (c : TokenClass) :
    (ofFunction f).get c = f c := by cases c <;> rfl

/-- Whether any of the tokens occurs in a text. -/
def occurIn (tokens : Tokens) (text : String) : Bool :=
  TokenClass.all.any fun c => (tokens.get c).occursIn text

end Tokens

end Placeholders
