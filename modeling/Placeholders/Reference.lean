import Placeholders.Placeholder

/-!
# References in values

A value refers to a placeholder by any of its tokens.

* All tokens are replaced in one pass, so that text which a replacement brings in is not looked at
  again.
* Where tokens overlap, the longest one counts. A token that several placeholders share stands for the
  last of them.
-/

namespace Placeholders

/-- Whether a value refers to a placeholder. -/
def Placeholder.isReferencedIn (p : Placeholder) (value : String) : Bool :=
  p.tokens.occurIn value

namespace Reference

open Placeholders.Text

/-- Adds the tokens of a placeholder; they stand for its expanded value. -/
def addTokens (lexicon : Lexicon String) (p : Placeholder) : Lexicon String :=
  TokenClass.all.foldl
    (fun lexicon c => lexicon.assign (p.tokens.get c).literal.toList p.expandedValue) lexicon

/-- The tokens of several placeholders. -/
def lexicon (ps : List Placeholder) : Lexicon String :=
  ps.foldl addTokens []

/-- The value with all references to some placeholders replaced. -/
def expand (ps : List Placeholder) (value : String) : String :=
  String.ofList (replaceAll (lexicon ps) String.toList value.toList)

theorem expand_nil (value : String) : expand [] value = value := by
  have h : ∀ s : List Char, (s.map (Piece.plain (α := String))).flatMap
      (Piece.render String.toList) = s := by
    intro s
    induction s with
    | nil => rfl
    | cons c s ih => simp [Piece.render, ih]
  simp [expand, lexicon, replaceAll, cut, h]

end Reference

end Placeholders
