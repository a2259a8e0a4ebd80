/-!
# Cutting a text at literals

One left-to-right pass that finds the places where some literal of a lexicon stands.

* `Lexicon` pairs each literal with what it stands for.
* Where several literals start at one place, the longest is taken; of equal ones, the first.
* Found literals do not overlap, and the search goes on right after the one found.
* An empty literal is found at every place where nothing else is, except right after a literal.
* `Piece.source` gives back the text, `Piece.render` the text with the literals replaced.
-/

namespace Placeholders.Text

variable {α : Type}

/-! ## 1. Lexicons -/

/-- Literals and what each of them stands for. -/
abbrev Lexicon (α : Type) := List (List Char × α)

/-- Adds a literal unless the lexicon has it already. -/
def Lexicon.offer (lexicon : Lexicon α) (literal : List Char) (target : α) : Lexicon α :=
  if lexicon.any (·.1 == literal) then lexicon else lexicon ++ [(literal, target)]

/-- Adds a literal; what the lexicon had for it is forgotten. -/
def Lexicon.assign (lexicon : Lexicon α) (literal : List Char) (target : α) : Lexicon α :=
  lexicon.filter (fun entry => !(entry.1 == literal)) ++ [(literal, target)]

/-- The longest literal that the text starts with, and what it stands for. -/
def Lexicon.startOf? : Lexicon α → List Char → Option (List Char × α)
  | [], _ => none
  | entry :: rest, s =>
    match Lexicon.startOf? rest s with
    | none => if entry.1.isPrefixOf s then some entry else none
    | some best =>
      if entry.1.isPrefixOf s && decide (best.1.length ≤ entry.1.length) then some entry
      else some best

/-! ## 2. Pieces -/

/-- A part of a cut text: one character that belongs to no literal, or a literal. -/
inductive Piece (α : Type) where
  | plain (c : Char)
  | hit (literal : List Char) (target : α)
  deriving DecidableEq, Repr

/-- The text a piece was cut from. -/
def Piece.source : Piece α → List Char
  | .plain c => [c]
  | .hit literal _ => literal

/-- The text of a piece with its literal replaced. -/
def Piece.render (value : α → List Char) : Piece α → List Char
  | .plain c => [c]
  | .hit _ target => value target

/-- What the literal of a piece stands for. -/
def Piece.target? : Piece α → Option α
  | .plain _ => none
  | .hit _ target => some target

/-! ## 3. The pass -/

/-- The pieces of the rest of a text. The next `skip` characters belong to the literal found last,
    and `ended` says that a literal ends at or before them. -/
def cutFrom (lexicon : Lexicon α) : (skip : Nat) → (ended : Bool) → List Char → List (Piece α)
  | _, ended, [] =>
    match lexicon.startOf? [] with
    | some (literal, target) => if ended then [] else [.hit literal target]
    | none => []
  | 0, ended, c :: s =>
    match lexicon.startOf? (c :: s) with
    | none => .plain c :: cutFrom lexicon 0 false s
    | some ([], target) =>
      if ended then .plain c :: cutFrom lexicon 0 false s
      else .hit [] target :: .plain c :: cutFrom lexicon 0 false s
    | some (d :: rest, target) => .hit (d :: rest) target :: cutFrom lexicon rest.length true s
  | skip + 1, _, _ :: s => cutFrom lexicon skip true s

/-- The pieces of a text. -/
def cut (lexicon : Lexicon α) (s : List Char) : List (Piece α) :=
  cutFrom lexicon 0 false s

/-- The text with every literal replaced. -/
def replaceAll (lexicon : Lexicon α) (value : α → List Char) (s : List Char) : List Char :=
  (cut lexicon s).flatMap (Piece.render value)

/-- What the literals found in the text stand for, in order. -/
def hits (lexicon : Lexicon α) (s : List Char) : List α :=
  (cut lexicon s).filterMap Piece.target?

/-! ## 4. Presence -/

/-- Whether a literal stands somewhere in the text. -/
def occursIn (literal : List Char) : List Char → Bool
  | [] => literal.isEmpty
  | c :: s => literal.isPrefixOf (c :: s) || occursIn literal s

/-- Presence is being an infix. -/
theorem occursIn_iff {literal s : List Char} : occursIn literal s = true ↔ literal <:+: s := by
  induction s with
  | nil => simp [occursIn]
  | cons c s ih => simp [occursIn, ih, List.infix_cons_iff]

/-- Cutting at no literals leaves every character plain. -/
@[simp] theorem cutFrom_nil (ended : Bool) (s : List Char) :
    cutFrom ([] : Lexicon α) 0 ended s = s.map .plain := by
  induction s generalizing ended with
  | nil => cases ended <;> rfl
  | cons c s ih => simp [cutFrom, Lexicon.startOf?, ih]

end Placeholders.Text
