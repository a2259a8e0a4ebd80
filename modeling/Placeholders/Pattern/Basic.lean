import Placeholders.Text.Property

/-!
# Patterns and what they match

Regular expressions over characters, with assertions about the place between two characters.

* `Pattern` is what is left of an expression once its flags have been worked into its parts. Which
  of several matches an engine would prefer does not matter here, so there is no greediness.
* `Look.holds` says when an assertion holds between two neighbours.
* `Pattern.Matches p w i j` says that `p` matches the part of `w` from place `i` to place `j`; the
  places of a word are numbered from zero to its length.
* `Pattern.Occurs p w` says that `p` matches some part of `w`.
-/

namespace Placeholders

open Placeholders.Text (CharSet)

/-! ## 1. Expressions -/

/-- What an assertion about word characters asks. -/
inductive Pattern.WordEdge where
  | boundary | inside | start | finish | startHalf | finishHalf
  deriving DecidableEq, Repr

/-- An assertion about the place between two characters. -/
inductive Pattern.Look where
  | textStart | textEnd | lineStart | lineEnd
  /-- Line edges where a carriage return ends a line too, and a line feed right after it does not
      end another. -/
  | anyLineStart | anyLineEnd
  | word (edge : Pattern.WordEdge) (ascii : Bool)
  deriving DecidableEq, Repr

/-- A regular expression. -/
inductive Pattern where
  | empty
  | char (set : CharSet)
  | look (assertion : Pattern.Look)
  | seq (first second : Pattern)
  | alt (left right : Pattern)
  /-- At least `least` times, and at most `most` times if that is given. -/
  | repeated (least : Nat) (most : Option Nat) (body : Pattern)
  deriving DecidableEq, Repr

namespace Pattern

/-- The expressions one after the other. -/
def sequence (parts : List Pattern) : Pattern :=
  match parts with
  | [] => .empty
  | [p] => p
  | p :: rest => .seq p (sequence rest)

/-- Any one of the expressions. -/
def choice (first : Pattern) (others : List Pattern) : Pattern :=
  match others with
  | [] => first
  | p :: rest => .alt first (choice p rest)

/-! ## 2. Assertions -/

/-- ASCII word characters: figures, letters and the low line. -/
def asciiWord : CharSet := ⟨[⟨0x30, 0x39⟩, ⟨0x41, 0x5A⟩, ⟨0x5F, 0x5F⟩, ⟨0x61, 0x7A⟩]⟩

/-- Whether a neighbour is there and is a word character. -/
def isWord (ascii : Bool) : Option Char → Bool
  | some c => if ascii then asciiWord.contains c else Text.Property.word.contains c
  | none => false

/-- What an edge asks of the two sides of a place. -/
def WordEdge.holds (edge : WordEdge) (before after : Bool) : Bool :=
  match edge with
  | .boundary => before != after
  | .inside => before == after
  | .start => !before && after
  | .finish => before && !after
  | .startHalf => !before
  | .finishHalf => !after

/-- Whether an assertion holds between two neighbours; `none` is the end of the text. -/
def Look.holds (look : Look) (before after : Option Char) : Bool :=
  match look with
  | .textStart => before.isNone
  | .textEnd => after.isNone
  | .lineStart => before.isNone || before == some '\n'
  | .lineEnd => after.isNone || after == some '\n'
  | .anyLineStart =>
    before.isNone || before == some '\n' || (before == some '\x0d' && after != some '\n')
  | .anyLineEnd =>
    after.isNone || after == some '\x0d' || (after == some '\n' && before != some '\x0d')
  | .word edge ascii => edge.holds (isWord ascii before) (isWord ascii after)

/-- The character before a place. -/
def before (w : List Char) : Nat → Option Char
  | 0 => none
  | i + 1 => w[i]?

/-! ## 3. Matching -/

/-- `count` steps of a relation from one place to another. -/
def Steps (step : Nat → Nat → Prop) : Nat → Nat → Nat → Prop
  | 0, i, j => i = j
  | count + 1, i, j => ∃ k, step i k ∧ Steps step count k j

/-- The pattern matches the part of the word between two places. -/
def Matches : Pattern → List Char → Nat → Nat → Prop
  | .empty, w, i, j => i = j ∧ i ≤ w.length
  | .char set, w, i, j => j = i + 1 ∧ ∃ c, w[i]? = some c ∧ set.contains c = true
  | .look assertion, w, i, j =>
    i = j ∧ i ≤ w.length ∧ assertion.holds (Pattern.before w i) w[i]? = true
  | .seq first second, w, i, j => ∃ k, first.Matches w i k ∧ second.Matches w k j
  | .alt left right, w, i, j => left.Matches w i j ∨ right.Matches w i j
  | .repeated least most body, w, i, j =>
    i ≤ w.length ∧
      ∃ count, least ≤ count ∧ (∀ bound ∈ most, count ≤ bound) ∧
        Steps (fun a b => body.Matches w a b) count i j

/-- The pattern matches some part of the word. -/
def Occurs (p : Pattern) (w : List Char) : Prop :=
  ∃ i j, p.Matches w i j

/-- Steps that stay inside the word and do not go backwards never do. -/
theorem Steps.bounds {step : Nat → Nat → Prop} {n : Nat}
    (h : ∀ a b, step a b → a ≤ b ∧ b ≤ n) {count i j : Nat} (hi : i ≤ n)
    (hsteps : Steps step count i j) : i ≤ j ∧ j ≤ n := by
  induction count generalizing i with
  | zero => cases hsteps; exact ⟨Nat.le_refl _, hi⟩
  | succ count ih =>
    obtain ⟨k, hk, hrest⟩ := hsteps
    have h₁ := h i k hk
    have h₂ := ih h₁.2 hrest
    omega

/-- A match lies inside the word and does not go backwards. -/
theorem Matches.bounds {p : Pattern} {w : List Char} {i j : Nat} (h : p.Matches w i j) :
    i ≤ j ∧ j ≤ w.length := by
  induction p generalizing i j with
  | empty => obtain ⟨rfl, hi⟩ := h; exact ⟨Nat.le_refl _, hi⟩
  | char set =>
    obtain ⟨rfl, c, hc, _⟩ := h
    have := (List.getElem?_eq_some_iff.mp hc).1
    omega
  | look assertion => obtain ⟨rfl, hi, _⟩ := h; exact ⟨Nat.le_refl _, hi⟩
  | seq first second ih₁ ih₂ =>
    obtain ⟨k, h₁, h₂⟩ := h
    have := ih₁ h₁
    have := ih₂ h₂
    omega
  | alt left right ih₁ ih₂ =>
    rcases h with h | h
    · exact ih₁ h
    · exact ih₂ h
  | repeated least most body ih =>
    obtain ⟨hi, count, _, _, hsteps⟩ := h
    exact Steps.bounds (fun _ _ => ih) hi hsteps

end Pattern

end Placeholders
