import Placeholders.Text.Numeral

/-!
# Sets of characters

A set of characters is a list of spans of code points.

* The spans stand in ascending order, and no two of them touch. Every operation here keeps that.
* The code points of surrogates are no characters: what follows on U+D7FF is U+E000 (`following`), and
  what comes before U+E000 is U+D7FF (`preceding`).
* `CharSet.contains` is the meaning of a set; `CharSet.contains_union` says what becomes of it.
* `CharSet.ofText` reads the tables of the modules about Unicode.
-/

namespace Placeholders.Text

/-! ## 1. Spans -/

/-- The code points from `first` to `last`. -/
structure Span where
  first : Nat
  last : Nat
  deriving DecidableEq, Repr

/-- The greatest code point. -/
def lastCode : Nat := 0x10FFFF

/-- The code point of the next character. -/
def following (n : Nat) : Nat := if n == 0xD7FF then 0xE000 else n + 1

/-- The code point of the character before. -/
def preceding (n : Nat) : Nat := if n == 0xE000 then 0xD7FF else n - 1

namespace Span

/-- Whether a code point lies in a span. -/
def contains (s : Span) (n : Nat) : Bool := decide (s.first ≤ n) && decide (n ≤ s.last)

/-- The span with these two ends, whichever comes first. -/
def between (a b : Nat) : Span := ⟨min a b, max a b⟩

/-- Puts a span before the first one that begins after it; `rest` does the same for the spans that
    follow on it. -/
def mergeOne (s : Span) (rest : List Span → List Span) : List Span → List Span
  | [] => s :: rest []
  | t :: ts => if t.first < s.first then t :: mergeOne s rest ts else s :: rest (t :: ts)

/-- The spans of two lists in ascending order. -/
def merge : List Span → List Span → List Span
  | [], ts => ts
  | s :: ss, ts => mergeOne s (merge ss) ts

/-- Joins a span with those after it that it overlaps or touches. -/
def joinOne (s : Span) : List Span → List Span
  | [] => [s]
  | t :: ts =>
    if t.first ≤ s.last + 1 ∧ s.first ≤ t.first then joinOne ⟨s.first, max s.last t.last⟩ ts
    else s :: joinOne t ts

/-- Joins spans that overlap or touch. -/
def join : List Span → List Span
  | [] => []
  | s :: ss => joinOne s ss

/-- The spans between those of a list, and the one after the last. If nothing but surrogates lies
    between two spans, the two code points at the edges of that gap take its place. -/
def gapsAfter (s : Span) : List Span → List Span
  | [] => if s.last < lastCode then [⟨following s.last, lastCode⟩] else []
  | t :: ts => .between (following s.last) (preceding t.first) :: gapsAfter t ts

/-- The spans that a list leaves out. -/
def gaps : List Span → List Span
  | [] => [⟨0, lastCode⟩]
  | s :: ss => (if 0 < s.first then [⟨0, preceding s.first⟩] else []) ++ gapsAfter s ss

/-- What two lists of spans have in common. -/
def meet : List Span → List Span → List Span
  | [], _ => []
  | _, [] => []
  | s :: ss, t :: ts =>
    let rest := if s.last < t.last then meet ss (t :: ts) else meet (s :: ss) ts
    if max s.first t.first ≤ min s.last t.last then
      ⟨max s.first t.first, min s.last t.last⟩ :: rest
    else rest
termination_by ss ts => ss.length + ts.length

/-- What the first list of spans has and the second has not. -/
def minus : List Span → List Span → List Span
  | [], _ => []
  | ss, [] => ss
  | s :: ss, t :: ts =>
    if s.last < t.first then s :: minus ss (t :: ts)
    else if t.last < s.first then minus (s :: ss) ts
    else
      (if s.first < t.first then [⟨s.first, preceding t.first⟩] else []) ++
        (if t.last < s.last then minus (⟨following t.last, s.last⟩ :: ss) ts
        else minus ss (t :: ts))
termination_by ss ts => ss.length + ts.length

end Span

/-! ## 2. Sets -/

/-- A set of characters. -/
structure CharSet where
  spans : List Span
  deriving DecidableEq, Repr

namespace CharSet

/-- Whether a code point is in a set. -/
def has (a : CharSet) (n : Nat) : Bool := a.spans.any (·.contains n)

/-- Whether a character is in a set. -/
def contains (a : CharSet) (c : Char) : Bool := a.has c.toNat

/-- The empty set. -/
def nothing : CharSet := ⟨[]⟩

/-- The set of all characters. -/
def everything : CharSet := ⟨[⟨0, lastCode⟩]⟩

/-- The characters from one code point to another. -/
def range (first last : Nat) : CharSet := ⟨[⟨first, last⟩]⟩

/-- The set of one character. -/
def single (c : Char) : CharSet := .range c.toNat c.toNat

/-- What is in either set. -/
def union (a b : CharSet) : CharSet := ⟨Span.join (Span.merge a.spans b.spans)⟩

/-- What is in any of several sets. -/
def unions (sets : List CharSet) : CharSet := sets.foldr union nothing

/-- What is not in a set. -/
def complement (a : CharSet) : CharSet := ⟨Span.gaps a.spans⟩

/-- What is in both sets. -/
def inter (a b : CharSet) : CharSet := ⟨Span.meet a.spans b.spans⟩

/-- What is in the first set and not in the second. -/
def minus (a b : CharSet) : CharSet := ⟨Span.minus a.spans b.spans⟩

/-- What is in exactly one of two sets. -/
def symmDiff (a b : CharSet) : CharSet := (a.union b).minus (a.inter b)

/-- The set of the code points in a list. -/
def ofCodes (codes : List Nat) : CharSet :=
  ⟨Span.join ((codes.mergeSort (· ≤ ·)).map fun n => ⟨n, n⟩)⟩

/-- The only code point of a set, if it has just one. -/
def only? (a : CharSet) : Option Nat :=
  match a.spans with
  | [s] => if s.first == s.last then some s.first else none
  | _ => none

/-! ## 3. Tables -/

/-- A part of a table that has been read: the code points from `first` to the one before, every one
    or every second one. -/
def entry (first : Option (Nat × Bool)) (code : Nat) : List Span :=
  match first with
  | none => [⟨code, code⟩]
  | some (first, false) => [⟨first, code⟩]
  | some (first, true) =>
    (List.range ((code - first) / 2 + 1)).map fun i => ⟨first + 2 * i, first + 2 * i⟩

/-- Reads the rest of a table after the beginning of an entry. -/
def readTable (first : Option (Nat × Bool)) (code : Option Nat) : List Char → List Span
  | [] => (code.map (entry first)).getD []
  | c :: s =>
    match digitValue? c with
    | some d => readTable first (some (code.getD 0 * 16 + d)) s
    | none =>
      match code, c with
      | some n, '-' => readTable (some (n, false)) none s
      | some n, '~' => readTable (some (n, true)) none s
      | some n, _ => entry first n ++ readTable none none s
      | none, _ => readTable first none s

/-- Reads a table: code points in hexadecimal in ascending order with blanks between them, `a-b` for
    all from one to another, and `a~b` for every second one. -/
def ofText (text : String) : CharSet := ⟨readTable none none text.toList⟩

/-! ## 4. Meaning -/

@[simp] theorem contains_single {c d : Char} : (single c).contains d = decide (d = c) := by
  simp only [single, contains, has, range, List.any_cons, List.any_nil, Span.contains,
    Bool.or_false, ← Bool.decide_and]
  exact decide_eq_decide.mpr ⟨fun h => Char.toNat_inj.mp (Nat.le_antisymm h.2 h.1), fun h => by simp [h]⟩

@[simp] theorem contains_nothing {c : Char} : nothing.contains c = false := rfl

theorem any_mergeOne {s : Span} {rest : List Span → List Span} {n : Nat} {known : Bool}
    (h : ∀ ts, (rest ts).any (·.contains n) = (known || ts.any (·.contains n))) (ts : List Span) :
    (Span.mergeOne s rest ts).any (·.contains n)
      = (s.contains n || known || ts.any (·.contains n)) := by
  induction ts with
  | nil => simp [Span.mergeOne, h]
  | cons t ts ih =>
    unfold Span.mergeOne
    split
    · simp only [List.any_cons, ih]
      cases t.contains n <;> simp
    · rw [List.any_cons, h (t :: ts), Bool.or_assoc]

theorem any_merge (ss ts : List Span) (n : Nat) :
    (Span.merge ss ts).any (·.contains n) = (ss.any (·.contains n) || ts.any (·.contains n)) := by
  induction ss generalizing ts with
  | nil => simp [Span.merge]
  | cons s ss ih =>
    rw [Span.merge, any_mergeOne ih, List.any_cons]

theorem any_joinOne (s : Span) (ts : List Span) (n : Nat) :
    (Span.joinOne s ts).any (·.contains n) = (s.contains n || ts.any (·.contains n)) := by
  induction ts generalizing s with
  | nil => simp [Span.joinOne]
  | cons t ts ih =>
    unfold Span.joinOne
    split
    · rename_i h
      rw [ih, List.any_cons, ← Bool.or_assoc]
      congr 1
      simp only [Span.contains, ← Bool.decide_and, ← Bool.decide_or]
      exact decide_eq_decide.mpr (by omega)
    · rw [List.any_cons, ih, List.any_cons]

theorem any_join (ss : List Span) (n : Nat) :
    (Span.join ss).any (·.contains n) = ss.any (·.contains n) := by
  cases ss with
  | nil => rfl
  | cons s ss => exact any_joinOne s ss n

/-- A character is in the union of two sets if it is in either. -/
@[simp] theorem contains_union {a b : CharSet} {c : Char} :
    (a.union b).contains c = (a.contains c || b.contains c) := by
  simp only [union, contains, has, any_join, any_merge]

end CharSet

end Placeholders.Text
