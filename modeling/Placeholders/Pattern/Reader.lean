import Placeholders.Pattern.Bracket
import Placeholders.Pattern.Layout
import Placeholders.Pattern.Search

/-!
# Reading patterns

The written form of regular expressions.

* Reading is one pass from left to right. `Progress` holds the alternatives and items read so far
  and a stack of the groups that are still open; every step takes at least one character.
* Flags hold from where they are set to the end of the group, over the bars in it too. With the
  flag `x`, blanks and comments between the signs are skipped.
* There is no look-around and no back-reference; a repetition needs something to repeat, a range
  must not be empty, a group name must be new, and nesting and room are limited.
* Of every part three things are kept together in a `Node`: what it matches, how it is laid out, and
  the height of its written form.
-/

namespace Placeholders.Pattern

open Placeholders.Text

/-! ## 1. Nodes -/

/-- A part of a pattern that has been read. -/
structure Node where
  pattern : Pattern
  plan : Plan
  height : Nat

/-- A part that matches one character of a set. -/
def Node.ofSet (set : CharSet) (height : Nat) : Node := ⟨.char set, .ofSet set, height⟩

/-- A part that asserts something. -/
def Node.ofLook (assertion : Look) : Node := ⟨.look assertion, .look assertion, 0⟩

/-- A part repeated. -/
def Node.repeated (node : Node) (least : Nat) (most : Option Nat) (greedy : Bool) : Node :=
  ⟨.repeated least most node.pattern, .rounds least most greedy node.plan, node.height + 1⟩

/-- The greatest height in a list. -/
def greatestHeight (nodes : List Node) : Nat := nodes.foldl (fun h node => max h node.height) 0

/-! ## 2. Items, branches and groups -/

/-- Something in a branch: a part, or a group that only set flags. -/
abbrev Item := Option Node

/-- A group that is still open: what was read around it, the flags to go back to, and its number if
    it has one. -/
structure OpenGroup where
  items : List Item
  branches : List Node
  flags : Flags
  number : Option Nat

/-- What has been read so far. Items and branches are listed latest first. -/
structure Progress where
  outer : List OpenGroup := []
  items : List Item := []
  branches : List Node := []
  flags : Flags := {}
  names : List (List Char) := []
  groups : Nat := 0

/-- The node of a branch. -/
def branchOf (items : List Item) : Node :=
  let nodes := items.reverse.filterMap id
  ⟨sequence (nodes.map (·.pattern)), .inRow (nodes.map (·.plan)),
    if items.length ≤ 1 then greatestHeight nodes else greatestHeight nodes + 1⟩

/-- The node of everything read since the group around it was opened. -/
def Progress.body (p : Progress) : Node :=
  match (branchOf p.items :: p.branches).reverse with
  | [] => ⟨.empty, .empty, 0⟩
  | [only] => only
  | first :: others =>
    ⟨choice first.pattern (others.map (·.pattern)),
      .either ((first :: others).map (·.plan)), greatestHeight (first :: others) + 1⟩

/-- Adds a part to the branch. -/
def Progress.push (p : Progress) (node : Node) : Progress :=
  { p with items := some node :: p.items }

/-- Repeats the part read last. A lazy mark turns the preference round. -/
def Progress.repeatLast? (p : Progress) (least : Nat) (most : Option Nat) (reluctant : Bool) :
    Option Progress :=
  match p.items with
  | some node :: items =>
    some { p with items := some (node.repeated least most (p.flags.reluctant == reluctant)) :: items }
  | _ => none

/-- Opens a group whose inside has its own flags. -/
def Progress.openGroup (p : Progress) (flags : Flags) : Progress :=
  { p with
    outer := ⟨p.items, p.branches, p.flags, none⟩ :: p.outer, items := [], branches := [], flags }

/-- Opens a group that is numbered. -/
def Progress.openNumbered (p : Progress) : Progress :=
  { p with
    outer := ⟨p.items, p.branches, p.flags, some (p.groups + 1)⟩ :: p.outer
    items := [], branches := [], groups := p.groups + 1 }

/-- Closes the innermost group. -/
def Progress.closeGroup? (p : Progress) : Option Progress :=
  match p.outer with
  | [] => none
  | group :: outer =>
    let body := p.body
    let plan := match group.number with
      | some number => Plan.group number body.plan
      | none => body.plan
    some { p with
      outer, items := some ⟨body.pattern, plan, body.height + 1⟩ :: group.items,
      branches := group.branches, flags := group.flags }

/-! ## 3. Group openings -/

/-- Whether a character may stand in a group name. -/
def isNameChar (first : Bool) (c : Char) : Bool :=
  c == '_' || Property.alphabetic.contains c
    || (!first && (c == '.' || c == '[' || c == ']' || Category.number.contains c))

/-- A group name up to its closing angle bracket. It must be well formed and new. -/
def readName? (names : List (List Char)) (s : List Char) : Option (List Char × List Char) :=
  let name := s.takeWhile (· != '>')
  match name, s.dropWhile (· != '>') with
  | c :: cs, _ :: rest =>
    if isNameChar true c && cs.all (isNameChar false) && !names.contains name then some (name, rest)
    else none
  | _, _ => none

/-- Flags up to a closing parenthesis or a colon; answers the flags, whether any sign was read, and
    the sign that ended them with the rest. -/
def readFlags? (seen : List Char) (dangling on : Bool) (flags : Flags) :
    List Char → Option (Flags × Bool × Char × List Char)
  | [] => none
  | c :: s =>
    if c == ')' || c == ':' then
      if dangling then none else some (flags, !seen.isEmpty, c, s)
    else if seen.contains c then none
    else if c == '-' then readFlags? (c :: seen) true false flags s
    else
      match flags.switch? c on with
      | some flags => readFlags? (c :: seen) false on flags s
      | none => none

/-- What follows an opening parenthesis. -/
def readGroup? (p : Progress) (s : List Char) : Option (Progress × List Char) :=
  let s := p.flags.space s
  let named (rest : List Char) : Option (Progress × List Char) :=
    (readName? p.names rest).map fun (name, rest) =>
      ({ p.openNumbered with names := name :: p.names }, rest)
  match s with
  | '?' :: '=' :: _ | '?' :: '!' :: _ | '?' :: '<' :: '=' :: _ | '?' :: '<' :: '!' :: _ => none
  | '?' :: 'P' :: '<' :: rest | '?' :: '<' :: rest => named rest
  | '?' :: rest =>
    match readFlags? [] false true p.flags rest with
    | some (flags, _, ':', rest) => some (p.openGroup flags, rest)
    | some (flags, true, _, rest) => some ({ p with flags, items := none :: p.items }, rest)
    | _ => none
  | _ => some (p.openNumbered, s)

/-! ## 4. Repetition counts -/

/-- A decimal count with blanks around it; `none` if there are no digits or too large a number. -/
def readCount? (flags : Flags) (s : List Char) : Option (Nat × List Char) :=
  let rec digits (fuel : Nat) (soFar : List Char) (s : List Char) : List Char × List Char :=
    match fuel, s with
    | fuel + 1, c :: rest =>
      if c.isDigit then digits fuel (c :: soFar) (flags.space rest) else (soFar.reverse, s)
    | _, s => (soFar.reverse, s)
  let (found, rest) := digits s.length [] (s.dropWhile isBlank)
  match unsigned? 10 halfWordBound found with
  | some n => some (n, rest.dropWhile isBlank)
  | none => none

/-- Whether a lazy mark follows on a repetition, and the rest after it. -/
def readLazy (s : List Char) : Bool × List Char :=
  match s with
  | '?' :: rest => (true, rest)
  | _ => (false, s)

/-- The rest of a counted repetition: least and greatest count, and the rest after the brace. -/
def readCounts? (flags : Flags) (s : List Char) : Option (Nat × Option Nat × List Char) :=
  match readCount? flags (flags.space s) with
  | none => none
  | some (least, s) =>
    match s with
    | ',' :: s =>
      match flags.space s with
      | '\x7d' :: s => some (least, none, flags.space s)
      | s =>
        match readCount? flags s with
        | some (most, '\x7d' :: s) =>
          if least ≤ most then some (least, some most, flags.space s) else none
        | _ => none
    | '\x7d' :: s => some (least, some least, flags.space s)
    | _ => none

/-! ## 5. The pass -/

/-- A character that stands for itself. Without Unicode only ASCII letters have two cases. -/
def Flags.literal (flags : Flags) (c : Char) : Node :=
  .ofSet (flags.foldSet (.single c)) 0

/-- What an escape outside brackets stands for. -/
def Escape.node? (flags : Flags) : Escape → Option Node
  | .literal c byte =>
    if !flags.unicode && byte && c.toNat ≥ 128 then none else some (flags.literal c)
  | .set members => some (.ofSet members 0)
  | .look assertion => some (.ofLook assertion)

/-- Repeats what was read last, with a lazy mark or without. -/
def repeatStep? (p : Progress) (least : Nat) (most : Option Nat) (s : List Char) :
    Option (Progress × List Char) :=
  (p.repeatLast? least most (readLazy s).1).map fun p => (p, (readLazy s).2)

/-- Reads one sign and what belongs to it. -/
def step? (p : Progress) (c : Char) (s : List Char) : Option (Progress × List Char) :=
  match c with
  | '(' => readGroup? p s
  | ')' => p.closeGroup?.map fun p => (p, s)
  | '|' => some ({ p with items := [], branches := branchOf p.items :: p.branches }, s)
  | '[' =>
    match openSet p.flags s with
    | some (level, s) =>
      (readSet p.flags (s.length + 1) [] level s).map fun (node, s) =>
        (p.push (.ofSet node.set node.height), s)
    | none => none
  | '?' => repeatStep? p 0 (some 1) s
  | '*' => repeatStep? p 0 none s
  | '+' => repeatStep? p 1 none s
  | '\x7b' =>
    match readCounts? p.flags s with
    | some (least, most, s) => repeatStep? p least most s
    | none => none
  | '\\' =>
    match readEscape p.flags s with
    | some (escape, s) => (escape.node? p.flags).map fun node => (p.push node, s)
    | none => none
  | '.' => p.flags.dot?.map fun set => (p.push (.ofSet set 0), s)
  | '^' => some (p.push (.ofLook p.flags.lineStart), s)
  | '$' => some (p.push (.ofLook p.flags.lineEnd), s)
  | _ => some (p.push (p.flags.literal c), s)

/-- Reads signs until the text ends. -/
def readFrom (p : Progress) : (fuel : Nat) → List Char → Option Progress
  | 0, _ => none
  | fuel + 1, s =>
    match p.flags.space s with
    | [] => some p
    | c :: s =>
      match step? p c s with
      | some (p, s) => readFrom p fuel s
      | none => none

/-- Trees higher than this are refused. -/
def heightLimit : Nat := 250

/-- The pattern that a text denotes, if it denotes one. -/
def read? (source : List Char) : Option Pattern :=
  match readFrom {} (source.length + 1) source with
  | some p =>
    let node := p.body
    if p.outer.isEmpty && decide (node.height ≤ heightLimit) && fits node.plan then
      some node.pattern
    else none
  | none => none

/-- Whether some part of a text matches the pattern that another text denotes. -/
def test? (source text : String) : Option Bool :=
  (read? source.toList).map fun p => p.occurs text.toList

end Placeholders.Pattern
