import Placeholders.Pattern.Basic

/-!
# Searching a text for a pattern

All matches are followed at once: a list of marks holds, for every place of the text, whether some
match that began anywhere has got there.

* `reach` carries marks from the places where a pattern may begin to those where it may end. It
  takes every branch, so the time does not depend on how a pattern is written, only on its size.
* A repetition without a bound is a closure: rounds are added until none brings a new place, and
  there are no more rounds than places.
* `occurs` marks every place as a beginning and asks whether any end is marked.
-/

namespace Placeholders.Pattern

open Placeholders.Text (CharSet)

/-! ## 1. Marks -/

/-- One mark for every place of a text, in order. -/
abbrev Marks := List Bool

/-- Places marked in either list. -/
def merge (a b : Marks) : Marks :=
  List.zipWith (· || ·) a b

/-- Moves every mark over the next character, where that is in the set. -/
def advance (set : CharSet) (w : List Char) (marks : Marks) : Marks :=
  false :: List.zipWith (fun c here => here && set.contains c) w marks

/-- Keeps the marks where an assertion holds; `left` is the character before the first place. -/
def guardPlaces (look : Look) (left : Option Char) : List Char → Marks → Marks
  | _, [] => []
  | [], here :: _ => [here && look.holds left none]
  | c :: w, here :: marks =>
    (here && look.holds left (some c)) :: guardPlaces look (some c) w marks

/-- Applies a move a number of times, or until it changes nothing any more. -/
def moveTimes (move : Marks → Marks) : Nat → Marks → Marks
  | 0, marks => marks
  | count + 1, marks =>
    let next := move marks
    if next == marks then marks else moveTimes move count next

/-- The places reached by at most so many moves, added up until nothing new comes. -/
def closure (move : Marks → Marks) : Nat → Marks → Marks
  | 0, marks => marks
  | rounds + 1, marks =>
    let next := merge marks (move marks)
    if next == marks then marks else closure move rounds next

/-! ## 2. The search -/

/-- The places where a match may end that begins at a marked place. -/
def reach : Pattern → List Char → Marks → Marks
  | .empty, _, marks => marks
  | .char set, w, marks => advance set w marks
  | .look assertion, w, marks => guardPlaces assertion none w marks
  | .seq first second, w, marks => second.reach w (first.reach w marks)
  | .alt left right, w, marks => merge (left.reach w marks) (right.reach w marks)
  | .repeated least most body, w, marks =>
    match most with
    | none => closure (body.reach w) w.length (moveTimes (body.reach w) least marks)
    | some most =>
      if most < least then marks.map fun _ => false
      else closure (body.reach w) (most - least) (moveTimes (body.reach w) least marks)

/-- Whether the pattern matches some part of the text. -/
def occurs (p : Pattern) (w : List Char) : Bool :=
  (p.reach w (List.replicate (w.length + 1) true)).any id

end Placeholders.Pattern
