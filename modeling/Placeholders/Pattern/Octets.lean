import Placeholders.Text.CharSet

/-!
# Characters as octets

How the characters of a set look in UTF-8.

* A `Chain` is a list of ranges of octets: it stands for all characters whose octets lie in these
  ranges, one after the other.
* `pieces` cuts a span so that the characters of each part are exactly those of one chain. Such a part
  holds no surrogates, its characters have equally many octets, and where two of them differ in an
  octet, the octets after it take all their values.
* `chains` lists the chains of a set in ascending order.
-/

namespace Placeholders.Pattern

open Placeholders.Text (Span CharSet)

/-- A range of octets. -/
structure Octets where
  first : Nat
  last : Nat
  deriving DecidableEq, Repr

/-- Ranges of octets, one for each octet of a character. -/
abbrev Chain := List Octets

/-- The octets of a code point. -/
def octets (n : Nat) : List Nat :=
  if n < 0x80 then [n]
  else if n < 0x800 then [0xC0 + n / 64, 0x80 + n % 64]
  else if n < 0x10000 then [0xE0 + n / 4096, 0x80 + n / 64 % 64, 0x80 + n % 64]
  else [0xF0 + n / 262144, 0x80 + n / 4096 % 64, 0x80 + n / 64 % 64, 0x80 + n % 64]

/-- Cuts a span after a code point, if that leaves something on both sides. -/
def cutAfter? (n : Nat) (s : Span) : Option (Span × Span) :=
  if s.first ≤ n ∧ n < s.last then some (⟨s.first, n⟩, ⟨n + 1, s.last⟩) else none

/-- Cuts the surrogates out of a span. -/
def cutSurrogates? (s : Span) : Option (Span × Span) :=
  if s.first < 0xE000 ∧ 0xD7FF < s.last then some (⟨s.first, 0xD7FF⟩, ⟨0xE000, s.last⟩) else none

/-- Cuts a span that goes over several blocks of a size where its first or its last block is not
    whole. -/
def cutBlocks? (size : Nat) (s : Span) : Option (Span × Span) :=
  if s.first / size == s.last / size then none
  else if s.first % size != 0 then cutAfter? (s.first / size * size + size - 1) s
  else if s.last % size != size - 1 then cutAfter? (s.last / size * size - 1) s
  else none

/-- The first cut that a span needs. -/
def cut? (s : Span) : Option (Span × Span) :=
  cutSurrogates? s
    <|> cutAfter? 0x7F s <|> cutAfter? 0x7FF s <|> cutAfter? 0xFFFF s
    <|> (if s.last < 0x80 then none
      else cutBlocks? 64 s <|> cutBlocks? 4096 s <|> cutBlocks? 262144 s)

/-- The parts of a span that are one chain each. No span needs more than a few cuts one inside the
    other. -/
def pieces : (fuel : Nat) → Span → List Span
  | 0, s => [s]
  | fuel + 1, s =>
    match cut? s with
    | some (a, b) => pieces fuel a ++ pieces fuel b
    | none => [s]

/-- The chains of a span. -/
def chainsOf (s : Span) : List Chain :=
  ((pieces 32 s).filter fun part => decide (part.first ≤ part.last)).map fun part =>
    List.zipWith Octets.mk (octets part.first) (octets part.last)

/-- The chains of a set. -/
def chains (set : CharSet) : List Chain := set.spans.flatMap chainsOf

/-- Whether a set has ASCII characters only. -/
def isAscii (set : CharSet) : Bool := set.spans.all fun s => decide (s.last < 0x80)

end Placeholders.Pattern
