import Placeholders.Pattern.Octets
import Placeholders.Pattern.Plan
import Std.Data.TreeMap.Basic

/-!
# The room that a pattern takes

A pattern is laid out as two machines that read octets, one forwards and one backwards; if either
takes too much room, the pattern is refused.

* `Layout` counts states, arcs and branches; `room` is what they take together. A state of a chain or
  an assertion has one way on, a state with arcs has one for each range of octets, a fork has
  branches.
* A plan is laid out part by part. Each part ends in one state; if that is a fork, going on from there
  is one more of its branches. `lay` answers whether it is.
* Equal states of one set are shared as far as a table of bounded size remembers them. Where a state
  is kept depends on the numbers of those it leads to, so states are numbered as they are laid out.
* `fits` is the test. Long repetitions are laid out round by round, and no further than the room goes.
-/

namespace Placeholders.Pattern

open Placeholders.Text (CharSet)

/-! ## 1. Room -/

/-- What has been laid out so far. -/
structure Layout where
  states : Nat := 0
  arcs : Nat := 0
  branches : Nat := 0
  deriving DecidableEq, Repr

/-- The room that a layout takes. -/
def Layout.room (l : Layout) : Nat := 32 * l.states + 8 * l.arcs + 4 * l.branches

/-- No machine may take more room than this. -/
def roomLimit : Nat := 10485760

/-- Work on a layout, which comes to nothing once the room is used up. -/
abbrev Laying := StateT Layout Option

/-- Lays out more, and answers the number of the first new state. -/
def place (states arcs branches : Nat) : Laying Nat := fun l =>
  let l' : Layout := ⟨l.states + states, l.arcs + arcs, l.branches + branches⟩
  if l'.room ≤ roomLimit then some (l.states, l') else none

/-- Branches out of a fork that is there already. -/
def branch (count : Nat) : Laying Unit := do
  let _ ← place 0 0 count

/-- Goes on from the end of a part: a branch more if that is a fork. -/
def goOn (fork : Bool) : Laying Unit := branch (if fork then 1 else 0)

/-! ## 2. Sets, forwards -/

/-- A way from a state to another on a range of octets. -/
structure Arc where
  octets : Octets
  target : Nat
  deriving DecidableEq, Repr

/-- A state that is still open: its arcs so far, and the octets of the arc that leads on. -/
structure Knot where
  arcs : List Arc
  leading : Option Octets
  deriving DecidableEq, Repr

/-- States that have been laid out, with their numbers, by their places in the table. The last one
    laid out at a place stays there. -/
abbrev Known (α : Type) := Std.TreeMap Nat (α × Nat)

/-- The number of a state that is remembered at a place. -/
def remembered? {α : Type} [BEq α] (known : Known α) (slot : Nat) (state : α) : Option Nat :=
  match known[slot]? with
  | some (found, number) => if found == state then some number else none
  | none => none

/-- One step of the hash that says where a state is kept. -/
def mix (hash : UInt64) (n : Nat) : UInt64 := (hash ^^^ n.toUInt64) * 1099511628211

/-- The place of a state in a table of some size. -/
def slotOf (size : Nat) (key : List Nat) : Nat :=
  (key.foldl mix 14695981039346656037).toNat % size

/-- The numbers that an arc is told by. -/
def Arc.key (a : Arc) : List Nat := [a.octets.first, a.octets.last, a.target]

/-- Work on the states of one set. -/
abbrev Weaving := StateT (Known (List Arc)) Laying

/-- The number of the state with these arcs, laid out anew unless it is remembered. -/
def weave (arcs : List Arc) : Weaving Nat := do
  let slot := slotOf 10000 (arcs.flatMap Arc.key)
  let known ← get
  match remembered? known slot arcs with
  | some number => return number
  | none =>
    let number ← place 1 arcs.length 0
    set (known.insert slot (arcs, number))
    return number

/-- A knot whose open arc leads to a state. -/
def Knot.tie (k : Knot) (target : Nat) : Knot :=
  match k.leading with
  | some octets => ⟨k.arcs ++ [⟨octets, target⟩], none⟩
  | none => k

/-- Lays out the knots of a row, the last one first, and answers where the row begins. -/
def weaveRow (finish : Nat) : List Knot → Weaving Nat
  | [] => return finish
  | k :: ks => do
    let target ← weaveRow finish ks
    weave (k.tie target).arcs

/-- Lays out the knots of a row but the first `kept`, and ties the last of these. -/
def weaveAfter (finish : Nat) : (kept : Nat) → List Knot → Weaving (List Knot)
  | 0, ks => do
    let _ ← weaveRow finish ks
    return []
  | 1, k :: ks => do return [k.tie (← weaveRow finish ks)]
  | kept + 1, k :: ks => do return k :: (← weaveAfter finish kept ks)
  | _ + 1, [] => return []

/-- How many octets of a chain the open arcs of a row have already. -/
def sharedLength : List Knot → Chain → Nat
  | k :: ks, o :: os => if k.leading == some o then sharedLength ks os + 1 else 0
  | _, _ => 0

/-- Opens arcs for the octets of a chain from the last knot of a row on. -/
def extendRow : List Knot → Chain → List Knot
  | [k], o :: os => ⟨k.arcs, some o⟩ :: os.map fun o => ⟨[], some o⟩
  | k :: ks, os => k :: extendRow ks os
  | [], _ => []

/-- Lays out a chain after the chains before it. -/
def weaveChain (finish : Nat) (row : List Knot) (chain : Chain) : Weaving (List Knot) := do
  let shared := sharedLength row chain
  let row ← weaveAfter finish (shared + 1) row
  return extendRow row (chain.drop shared)

/-- Lays out a set for reading forwards. -/
def layForwards (members : CharSet) : Laying Unit := do
  let finish ← place 1 0 0
  let weaving : Weaving Unit := do
    let row ← (chains members).foldlM (weaveChain finish) [⟨[], none⟩]
    let _ ← weaveRow finish row
  let _ ← weaving.run ∅

/-! ## 3. Sets, backwards -/

/-- Lays out a chain backwards: a state for each octet, unless the way from there on is remembered. -/
def layLinks (known : Known Arc) (target : Nat) : Chain → Laying (Known Arc)
  | [] => return known
  | o :: os => do
    let arc : Arc := ⟨o, target⟩
    let slot := slotOf 1000 [target, o.first, o.last]
    match remembered? known slot arc with
    | some number => layLinks known number os
    | none =>
      let number ← place 1 0 0
      layLinks (known.insert slot (arc, number)) number os

/-- Lays out a set for reading backwards: a fork with a branch for every chain. -/
def layBackwards (members : CharSet) : Laying Unit := do
  let _ ← place 1 0 0
  let finish ← place 1 0 0
  let layChain (known : Known Arc) (chain : Chain) : Laying (Known Arc) := do
    let known ← layLinks known finish chain
    branch 1
    return known
  let _ ← (chains members).foldlM layChain ∅

/-- Lays out a set. -/
def laySet (back : Bool) (members : CharSet) : Laying Unit :=
  if isAscii members then do
    let _ ← place 2 members.spans.length 0
  else if back then layBackwards members
  else layForwards members

/-! ## 4. Alternatives of texts -/

/-- The octets of a text in the order in which a machine reads them. -/
def octetsOf (back : Bool) (chars : List Char) : List Nat :=
  chars.flatMap fun c => if back then (octets c.toNat).reverse else octets c.toNat

/-- The texts of plans that are all texts, in octets. -/
def texts? (back : Bool) (branches : List Plan) : Option (List (List Nat)) :=
  branches.mapM fun
    | .text chars => some (octetsOf back chars)
    | _ => none

/-- Words up to each word that ends here, and the words after the last one of these. Words that end
    here before any other word count once. -/
def sections (words : List (List Nat)) : List (List (List Nat)) :=
  let words := match words with
    | [] :: rest => [] :: rest.dropWhile List.isEmpty
    | _ => words
  words.splitBy fun a _ => !a.isEmpty

/-- Lays out words that begin alike as one tree. Each round reads one octet of every word. -/
def layTree : (fuel : Nat) → List (List Nat) → Laying Unit
  | 0, _ => return
  | fuel + 1, words => do
    let parts := sections words
    for part in parts do
      let going := part.filter (!·.isEmpty)
      let heads := (going.filterMap List.head?).eraseDups
      for head in heads do
        let tails := (going.filter (·.head? == some head)).map List.tail
        if tails.any (!·.isEmpty) then layTree fuel tails
      if !heads.isEmpty then
        let _ ← place 1 (if heads.length == 1 then 0 else heads.length) 1
    let ends := (parts.filter (·.getLast? == some [])).length
    let _ ← place 1 0 ends

/-! ## 5. Plans -/

/-- Lays out rounds of a part one after the other, and answers whether the last one ends in a fork;
    no rounds are one empty state. -/
def layRounds (one : Laying Bool) : Nat → Laying Bool
  | 0 => do
    let _ ← place 1 0 0
    return false
  | 1 => one
  | count + 1 => do
    goOn (← one)
    layRounds one count

/-- Lays out rounds that may be left out: a fork before each of them leads past all the others. -/
def layOptional (one : Laying Bool) (fork : Bool) : Nat → Laying Unit
  | 0 => goOn fork
  | count + 1 => do
    let _ ← place 1 0 2
    goOn fork
    layOptional one (← one) count

/-- Lays out a repetition of a part. -/
def layRepeated (one : Laying Bool) (takesSome : Bool) (least : Nat) (most : Option Nat) :
    Laying Bool :=
  match least, most with
  | 0, some 1 => do
    let _ ← place 1 0 2
    goOn (← one)
    let _ ← place 1 0 0
    return false
  | 0, none =>
    if takesSome then do
      let _ ← place 1 0 1
      goOn (← one)
      return true
    else do
      goOn (← one)
      let _ ← place 3 0 4
      return false
  | least, none => do
    if 1 < least then goOn (← layRounds one (least - 1))
    goOn (← one)
    let _ ← place 1 0 1
    return true
  | least, some most => do
    let fork ← layRounds one least
    if most ≤ least then return fork
    let _ ← place 1 0 0
    layOptional one fork (most - least)
    return false

mutual

/-- Lays out a plan, and answers whether it ends in a fork. -/
def lay (back : Bool) : Plan → Laying Bool
  | .empty | .look _ => do
    let _ ← place 1 0 0
    return false
  | .text chars => do
    let _ ← place (octetsOf back chars).length 0 0
    return false
  | .set members => do
    laySet back members
    return false
  | .repeated least most _ body =>
    layRepeated (lay back body) (body.shortest?.any (0 < ·)) least most
  | .group _ body => do
    let _ ← place 1 0 0
    goOn (← lay back body)
    let _ ← place 1 0 0
    return false
  | .seq parts => layRow back parts
  | .alt branches =>
    match texts? back branches with
    | some words => do
      let _ ← place 1 0 0
      layTree ((words.map List.length).foldl max 0 + 1) words
      return false
    | none => do
      layBranches back 0 branches
      return false

/-- Lays out parts in a row. -/
def layRow (back : Bool) : List Plan → Laying Bool
  | [] => do
    let _ ← place 1 0 0
    return false
  | [p] => lay back p
  | p :: ps => do
    goOn (← lay back p)
    layRow back ps

/-- Lays out alternatives. The fork before them and the state after them come with the second one. -/
def layBranches (back : Bool) (before : Nat) : List Plan → Laying Unit
  | [] => return
  | p :: ps => do
    goOn (← lay back p)
    let _ ← place (if before == 1 then 2 else 0) 0 1
    layBranches back (before + 1) ps

end

/-! ## 6. Machines -/

/-- Lays out the machine of a plan. Unless a match can only begin at the start of the text, a loop
    before it passes over anything. A machine that reads forwards notes where the match begins and
    where it ends. -/
def layMachine (back : Bool) (plan : Plan) : Laying Unit := do
  if plan.fromStart then
    let _ ← place 1 0 0
  else
    let _ ← place 3 1 2
  let fork ← lay back (if back then plan else .group 0 plan)
  goOn fork
  let _ ← place 1 0 0

/-- Whether both machines of a plan fit into the room there is. -/
def fits (plan : Plan) : Bool :=
  ((layMachine false plan).run {}).isSome && ((layMachine true plan.mirror).run {}).isSome

end Placeholders.Pattern
