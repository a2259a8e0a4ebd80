import Placeholders.Pattern.Escape

/-!
# Bracketed sets

The written form of sets of characters: members and ranges between brackets, sets within sets, and
operators between them.

* Reading keeps a stack of the brackets that are open. A `SetOperand` is what stands between two
  operators, or between an operator and a bracket.
* The operators bind from left to right, and all of them less than the union of what stands side by
  side. Both sides of an operator are folded before it is applied, and a bracket's set before it is
  negated.
* `height` counts the levels of the written form: a bracket, an operator, and a union of more than one
  member each make one more.
-/

namespace Placeholders.Pattern

open Placeholders.Text

/-! ## 1. Operands -/

/-- How two operands of a bracketed set are joined. -/
inductive SetOperator where
  | intersection | difference | symmetricDifference
  deriving DecidableEq, Repr

/-- Joins two sets. -/
def SetOperator.apply (operator : SetOperator) (a b : CharSet) : CharSet :=
  match operator with
  | .intersection => a.inter b
  | .difference => a.minus b
  | .symmetricDifference => a.symmDiff b

/-- A set with the height of its written form. -/
structure SetNode where
  set : CharSet
  height : Nat
  deriving DecidableEq, Repr

/-- Members that stand side by side: their union, how many they are, and the greatest height. -/
structure SetOperand where
  union : CharSet := .nothing
  count : Nat := 0
  height : Nat := 0
  deriving DecidableEq, Repr

/-- Adds a member. -/
def SetOperand.add (operand : SetOperand) (member : SetNode) : SetOperand :=
  ⟨operand.union.union member.set, operand.count + 1, max operand.height member.height⟩

/-- The members as one set. -/
def SetOperand.node (operand : SetOperand) : SetNode :=
  ⟨operand.union, if operand.count ≤ 1 then operand.height else operand.height + 1⟩

/-- A bracketed set that is being read: the operand being read, and the operator before it with what
    stands before that. -/
structure OpenSet where
  negated : Bool
  operand : SetOperand := {}
  pending : Option (SetOperator × SetNode) := none
  deriving DecidableEq, Repr

/-- Adds a member to the operand. -/
def OpenSet.add (level : OpenSet) (member : SetNode) : OpenSet :=
  { level with operand := level.operand.add member }

/-- What has been read so far, as one set. -/
def OpenSet.node (level : OpenSet) (flags : Flags) : SetNode :=
  let right := level.operand.node
  match level.pending with
  | some (operator, left) =>
    ⟨operator.apply (flags.foldSet left.set) (flags.foldSet right.set),
      max left.height right.height + 1⟩
  | none => right

/-- Starts a new operand after an operator. -/
def OpenSet.operate (level : OpenSet) (flags : Flags) (operator : SetOperator) : OpenSet :=
  { level with operand := {}, pending := some (operator, level.node flags) }

/-- The set of a level once its bracket is closed. -/
def OpenSet.close? (level : OpenSet) (flags : Flags) : Option SetNode :=
  let inner := level.node flags
  (flags.foldNegate? level.negated inner.set).map fun set => ⟨set, inner.height + 1⟩

/-! ## 2. Openings -/

/-- Dashes at the very beginning of a bracketed set stand for themselves. -/
def takeDashes (flags : Flags) : (fuel : Nat) → OpenSet → List Char → OpenSet × List Char
  | 0, level, s => (level, s)
  | fuel + 1, level, s =>
    match s with
    | '-' :: rest => takeDashes flags fuel (level.add ⟨.single '-', 0⟩) (flags.space rest)
    | _ => (level, s)

/-- The beginning of a bracketed set, after its bracket: a negation, dashes, and a closing bracket
    that stands for itself because the set would be empty. -/
def openSet (flags : Flags) (s : List Char) : Option (OpenSet × List Char) :=
  let s := flags.space s
  let (negated, s) := match s with
    | '^' :: rest => (true, flags.space rest)
    | _ => (false, s)
  let (level, s) := takeDashes flags (s.length + 1) { negated } s
  match s with
  | [] => none
  | ']' :: rest =>
    if level.operand.count != 0 then some (level, s)
    else if (flags.space rest).isEmpty then none
    else some (level.add ⟨.single ']', 0⟩, flags.space rest)
  | _ => some (level, s)

/-! ## 3. Members -/

/-- The POSIX classes, which know ASCII only. -/
def posix? (name : String) : Option CharSet :=
  match name with
  | "alnum" => some (.ofText "30-39 41-5A 61-7A")
  | "alpha" => some (.ofText "41-5A 61-7A")
  | "ascii" => some (.ofText "0-7F")
  | "blank" => some (.ofText "9 20")
  | "cntrl" => some (.ofText "0-1F 7F")
  | "digit" => some asciiDigit
  | "graph" => some (.ofText "21-7E")
  | "lower" => some (.ofText "61-7A")
  | "print" => some (.ofText "20-7E")
  | "punct" => some (.ofText "21-2F 3A-40 5B-60 7B-7E")
  | "space" => some asciiBlank
  | "upper" => some (.ofText "41-5A")
  | "word" => some asciiWord
  | "xdigit" => some (.ofText "30-39 41-46 61-66")
  | _ => none

/-- The name of a POSIX class after its opening bracket, such as `:alpha:]`: whether it is negated,
    and the set. -/
def readPosix? (s : List Char) : Option (Bool × CharSet × List Char) :=
  match s with
  | ':' :: s =>
    let (negated, s) := match s with
      | '^' :: rest => (true, rest)
      | _ => (false, s)
    match s.dropWhile (· != ':') with
    | ':' :: ']' :: rest =>
      (posix? (String.ofList (s.takeWhile (· != ':')))).map fun set => (negated, set, rest)
    | _ => none
  | _ => none

/-- One member of a bracketed set. -/
def readMember (flags : Flags) : List Char → Option (Escape × List Char)
  | [] => none
  | '\\' :: s => readEscape flags s
  | c :: s => some (.literal c false, s)

/-- The character of a member, where only a character will do. Without Unicode it has to be in
    ASCII. -/
def Escape.boundary? (flags : Flags) : Escape → Option Char
  | .literal c _ => if flags.unicode || c.toNat < 128 then some c else none
  | _ => none

/-- The set of a member. -/
def Escape.member? (flags : Flags) : Escape → Option CharSet
  | .set members => some members
  | .look _ => none
  | escape => (escape.boundary? flags).map .single

/-- The sign that shows whether a dash makes a range. With the flag `x` that is the next one that is
    no blank, but for the number sign of a comment; the comment itself is not passed over. -/
def Flags.signAhead? (flags : Flags) (s : List Char) : Option Char :=
  if flags.verbose then
    let ahead := match s.dropWhile isBlank with
      | '#' :: comment => comment.dropWhile isBlank
      | ahead => ahead
    ahead.head? <|> s.head?
  else s.head?

/-- One member or one range of a bracketed set. A dash right before a closing bracket or another dash
    makes no range. -/
def readRange (flags : Flags) (s : List Char) : Option (CharSet × List Char) :=
  match readMember flags s with
  | none => none
  | some (first, s) =>
    let alone := (first.member? flags).map fun set => (set, flags.space s)
    match flags.space s with
    | [] => none
    | '-' :: rest =>
      if flags.signAhead? rest == some ']' || flags.signAhead? rest == some '-' then alone
      else
        match readMember flags (flags.space rest) with
        | some (last, s) =>
          match first.boundary? flags, last.boundary? flags with
          | some a, some b => if a ≤ b then some (.range a.toNat b.toNat, s) else none
          | _, _ => none
        | none => none
    | _ => alone

/-! ## 4. The pass -/

/-- The rest of a bracketed set, with the brackets that are open around the innermost one. -/
def readSet (flags : Flags) : (fuel : Nat) → (outer : List OpenSet) → (level : OpenSet) →
    List Char → Option (SetNode × List Char)
  | 0, _, _, _ => none
  | fuel + 1, outer, level, s =>
    match flags.space s with
    | [] => none
    | '[' :: rest =>
      match readPosix? rest with
      | some (negated, set, rest) =>
        match flags.foldNegate? negated set with
        | some set => readSet flags fuel outer (level.add ⟨set, 0⟩) rest
        | none => none
      | none =>
        match openSet flags rest with
        | some (inner, rest) => readSet flags fuel (level :: outer) inner rest
        | none => none
    | ']' :: rest =>
      match level.close? flags, outer with
      | some node, [] => some (node, rest)
      | some node, around :: outer => readSet flags fuel outer (around.add node) rest
      | none, _ => none
    | '&' :: '&' :: rest => readSet flags fuel outer (level.operate flags .intersection) rest
    | '-' :: '-' :: rest => readSet flags fuel outer (level.operate flags .difference) rest
    | '~' :: '~' :: rest =>
      readSet flags fuel outer (level.operate flags .symmetricDifference) rest
    | s =>
      match readRange flags s with
      | some (set, rest) => readSet flags fuel outer (level.add ⟨set, 0⟩) rest
      | none => none

end Placeholders.Pattern
