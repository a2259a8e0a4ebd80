/-!
# Numerals

Reading whole numbers strictly: digits only, at least one of them, an optional sign in front, and a
value that fits the range asked for. There are no separators, no blanks and no empty numerals.
-/

namespace Placeholders.Text

/-! ## 1. Digits -/

/-- The value of a digit in bases up to sixteen; letters count in either case. -/
def digitValue? (c : Char) : Option Nat :=
  if '0' ≤ c ∧ c ≤ '9' then some (c.toNat - '0'.toNat)
  else if 'a' ≤ c ∧ c ≤ 'f' then some (c.toNat - 'a'.toNat + 10)
  else if 'A' ≤ c ∧ c ≤ 'F' then some (c.toNat - 'A'.toNat + 10)
  else none

/-- The value of a run of digits after what was read before it; `none` if one is no digit of the
    base. -/
def digitsFrom (base : Nat) (value : Nat) : List Char → Option Nat
  | [] => some value
  | c :: s =>
    match digitValue? c with
    | some d => if d < base then digitsFrom base (value * base + d) s else none
    | none => none

/-- The value of a non-empty run of digits. -/
def digits? (base : Nat) (s : List Char) : Option Nat :=
  if s.isEmpty then none else digitsFrom base 0 s

/-! ## 2. Signed numerals -/

/-- A number below `bound`: digits, with at most one plus sign before them. -/
def unsigned? (base bound : Nat) (s : List Char) : Option Nat :=
  let value? := match s with
    | '+' :: rest => digits? base rest
    | _ => digits? base s
  value?.filter (· < bound)

/-- A number from `-bound` to `bound - 1`: digits, with at most one sign before them. -/
def signed? (base bound : Nat) (s : List Char) : Option Int :=
  match s with
  | '-' :: rest => ((digits? base rest).filter (· ≤ bound)).map fun n => -(n : Int)
  | _ => (unsigned? base bound s).map fun n => (n : Int)

/-- Numbers that a position in a list may have: below two to the sixty-fourth. -/
def wordBound : Nat := 0x10000000000000000

/-- The size of the negative half of the signed sixty-four bit numbers. -/
def signedBound : Nat := 0x8000000000000000

/-- Numbers of thirty-two bits are below this. -/
def halfWordBound : Nat := 0x100000000

end Placeholders.Text
