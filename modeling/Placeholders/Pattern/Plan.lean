import Placeholders.Pattern.Basic

/-!
# Plans

A plan is a pattern in the shape in which it is laid out as a machine: groups, preferences and all
else that the machine tells apart is still there, and what a simpler plan does as well is gone.

* The functions of section 4 make a plan from the plans of its parts. Parts in a row are one list,
  with neighbouring characters joined to one text and nothing empty between them; alternatives are
  one list too, a set if each is a single character, and what all of them begin with comes first.
* `shortest?`, `isEmptyOnly` and `fromStart` are what the layout asks of a plan, and `mirror` turns a
  plan round for a machine that reads backwards.
-/

namespace Placeholders.Pattern

open Placeholders.Text (CharSet)

/-! ## 1. Plans -/

/-- A pattern in the shape in which it is laid out. -/
inductive Plan where
  | empty
  | text (chars : List Char)
  | set (members : CharSet)
  | look (assertion : Look)
  | repeated (least : Nat) (most : Option Nat) (greedy : Bool) (body : Plan)
  | group (number : Nat) (body : Plan)
  | seq (parts : List Plan)
  | alt (branches : List Plan)

namespace Plan

mutual

/-- Whether two plans are the same. -/
def same : Plan → Plan → Bool
  | .empty, .empty => true
  | .text a, .text b => a == b
  | .set a, .set b => a == b
  | .look a, .look b => a == b
  | .repeated least most greedy a, .repeated least' most' greedy' b =>
    least == least' && most == most' && greedy == greedy' && a.same b
  | .group n a, .group m b => n == m && a.same b
  | .seq as, .seq bs => sameAll as bs
  | .alt as, .alt bs => sameAll as bs
  | _, _ => false

/-- Whether two lists of plans are the same. -/
def sameAll : List Plan → List Plan → Bool
  | [], [] => true
  | a :: as, b :: bs => a.same b && sameAll as bs
  | _, _ => false

end

/-! ## 2. Lengths -/

mutual

/-- The length of a shortest match, if there is a match at all. A set counts one, whatever its
    members take in octets. -/
def shortest? : Plan → Option Nat
  | .empty | .look _ => some 0
  | .text chars => some chars.length
  | .set members => if members.spans.isEmpty then none else some 1
  | .repeated least _ _ body => body.shortest?.map (· * least)
  | .group _ body => body.shortest?
  | .seq parts => shortestSum? parts
  | .alt branches => shortestOf? branches

/-- The lengths of shortest matches added up. -/
def shortestSum? : List Plan → Option Nat
  | [] => some 0
  | p :: ps =>
    match p.shortest?, shortestSum? ps with
    | some a, some b => some (a + b)
    | _, _ => none

/-- The least length, if every alternative has a match. -/
def shortestOf? : List Plan → Option Nat
  | [] => none
  | [p] => p.shortest?
  | p :: ps =>
    match p.shortest?, shortestOf? ps with
    | some a, some b => some (min a b)
    | _, _ => none

end

mutual

/-- Whether the plan is sure to match nothing but the empty text. -/
def isEmptyOnly : Plan → Bool
  | .empty | .look _ => true
  | .text chars => chars.isEmpty
  | .set _ => false
  | .repeated _ most _ body => most.isSome && body.isEmptyOnly
  | .group _ body => body.isEmptyOnly
  | .seq parts => areEmptyOnly parts
  | .alt branches => areEmptyOnly branches

/-- Whether all plans of a list are sure to match nothing but the empty text. -/
def areEmptyOnly : List Plan → Bool
  | [] => true
  | p :: ps => p.isEmptyOnly && areEmptyOnly ps

end

/-! ## 3. Edges and direction -/

mutual

/-- Whether a match can only begin where the text begins. -/
def fromStart : Plan → Bool
  | .look assertion => assertion == .textStart
  | .repeated least _ _ body => decide (0 < least) && body.fromStart
  | .group _ body => body.fromStart
  | .seq parts => rowFromStart parts
  | .alt branches => !branches.isEmpty && allFromStart branches
  | .empty | .text _ | .set _ => false

/-- Whether one of the parts asks for the beginning, up to the first one that may take characters. -/
def rowFromStart : List Plan → Bool
  | [] => false
  | p :: ps => p.fromStart || (p.isEmptyOnly && rowFromStart ps)

/-- Whether all alternatives ask for the beginning. -/
def allFromStart : List Plan → Bool
  | [] => true
  | p :: ps => p.fromStart && allFromStart ps

end

/-- An assertion about a text that is read backwards. -/
def mirrorLook : Look → Look
  | .textStart => .textEnd
  | .textEnd => .textStart
  | .lineStart => .lineEnd
  | .lineEnd => .lineStart
  | .anyLineStart => .anyLineEnd
  | .anyLineEnd => .anyLineStart
  | .word edge ascii => .word edge ascii

mutual

/-- The plan for reading backwards, which needs no groups. -/
def mirror : Plan → Plan
  | .empty => .empty
  | .text chars => .text chars.reverse
  | .set members => .set members
  | .look assertion => .look (mirrorLook assertion)
  | .repeated least most greedy body => .repeated least most greedy body.mirror
  | .group _ body => body.mirror
  | .seq parts => .seq (mirrorAll parts).reverse
  | .alt branches => .alt (mirrorAll branches)

/-- The plans of a list for reading backwards. -/
def mirrorAll : List Plan → List Plan
  | [] => []
  | p :: ps => p.mirror :: mirrorAll ps

end

/-! ## 4. Making plans -/

/-- The plan of a set. -/
def ofSet (set : CharSet) : Plan :=
  match set.only? with
  | some n => .text [Char.ofNat n]
  | none => .set set

/-- The plan of a repetition. More than one round of nothing is one round of it. -/
def rounds (least : Nat) (most : Option Nat) (greedy : Bool) (body : Plan) : Plan :=
  let (least, most) :=
    if body.isEmptyOnly then (min least 1, some (min (most.getD 1) 1)) else (least, most)
  if most == some 0 then .empty
  else if least == 1 && most == some 1 then body
  else .repeated least most greedy body

/-- Puts a part before a row of parts that is in order. -/
def putBefore (p : Plan) (row : List Plan) : List Plan :=
  match p, row with
  | .empty, _ => row
  | .text a, .text b :: row => .text (a ++ b) :: row
  | _, _ => p :: row

/-- The plan of parts in a row. -/
def inRow (parts : List Plan) : Plan :=
  let flat := parts.flatMap fun
    | .seq inner => inner
    | p => [p]
  match flat.foldr putBefore [] with
  | [] => .empty
  | [p] => p
  | row => .seq row

/-- The set of a plan that matches single characters and no more. -/
def set? : Plan → Option CharSet
  | .set members => some members
  | .text [c] => some (.single c)
  | _ => none

/-- The plan of alternatives, without a search for what they begin with. -/
def eitherPlain (branches : List Plan) : Plan :=
  let flat := branches.flatMap fun
    | .alt inner => inner
    | p => [p]
  match flat with
  | [] => .set .nothing
  | [p] => p
  | _ =>
    match flat.mapM set? with
    | some sets => ofSet (.unions sets)
    | none => .alt flat

/-- How many plans two rows have in common at their beginnings. -/
def commonLength : List Plan → List Plan → Nat
  | a :: as, b :: bs => if a.same b then commonLength as bs + 1 else 0
  | _, _ => 0

/-- The parts of a plan that is a row. -/
def row? : Plan → Option (List Plan)
  | .seq parts => some parts
  | _ => none

/-- The plan of alternatives. If all of them are rows with the same beginning, that comes first. -/
def either (branches : List Plan) : Plan :=
  match eitherPlain branches with
  | .alt flat =>
    match flat.mapM row? with
    | some (first :: others) =>
      let common := (others.map (commonLength first)).foldl min first.length
      if common == 0 then .alt flat
      else
        let rests := (first :: others).map fun row => inRow (row.drop common)
        inRow (first.take common ++ [eitherPlain rests])
    | _ => .alt flat
  | p => p

end Plan

end Placeholders.Pattern
