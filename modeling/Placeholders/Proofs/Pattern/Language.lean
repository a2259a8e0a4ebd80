import Mathlib.Computability.Language
import Placeholders.Proofs.Pattern.Search

/-!
# The texts that patterns match

A pattern without assertions matches a part of a text whatever stands around it. So it has a language, and
to search is to look for a part that is in it.

* `Takes` is a match with the text cut at its two ends. It goes by the parts of a pattern, and so does
  `language`; `takes_iff_of_isPlain` says that they agree.
* An edge of the text at an end of a pattern says what may stand there: nothing (`takes_iff_of_isClosing`).
* `occurs_plain`, `occurs_closing` and `occurs_whole` are what a search comes to, by the edges that the
  pattern asks for; `occurs_allOf` is the case of texts that have only some signs.
-/

namespace Placeholders.Pattern

open Placeholders.Text (CharSet)

/-! ## 1. Languages -/

/-- The texts that a pattern matches, leaving its assertions out of account. -/
def language : Pattern → Language Char
  | .empty | .look _ => 1
  | .char set => {w | ∃ c, w = [c] ∧ set.contains c = true}
  | .seq first second => first.language * second.language
  | .alt left right => left.language + right.language
  | .repeated least most body =>
    {w | ∃ count, least ≤ count ∧ (∀ bound ∈ most, count ≤ bound) ∧ w ∈ body.language ^ count}

/-- Nothing is asserted. -/
def isPlain : Pattern → Bool
  | .empty | .char _ => true
  | .look _ => false
  | .seq first second | .alt first second => first.isPlain && second.isPlain
  | .repeated _ _ body => body.isPlain

/-- Plain parts in a row, and the end of the text after them. -/
def isClosing : Pattern → Bool
  | .look assertion => assertion == .textEnd
  | .seq first second => first.isPlain && second.isClosing
  | .empty | .char _ | .alt _ _ | .repeated _ _ _ => false

section Members

variable {p q : Pattern} {set : CharSet} {w : List Char}

theorem contains_range {a b : Nat} {c : Char} :
    (CharSet.range a b).contains c = true ↔ a ≤ c.toNat ∧ c.toNat ≤ b := by
  simp [CharSet.contains, CharSet.has, CharSet.range, Text.Span.contains]

theorem contains_single {c d : Char} : (CharSet.single d).contains c = true ↔ c = d := by
  unfold CharSet.single
  rw [contains_range, ← Char.toNat_inj]
  omega

theorem mem_language_char : w ∈ (char set).language ↔ ∃ c, w = [c] ∧ set.contains c = true := Iff.rfl

theorem mem_language_look {assertion : Look} : w ∈ (look assertion).language ↔ w = [] := Iff.rfl

theorem language_look {assertion : Look} : (look assertion).language = 1 := rfl

theorem language_seq : (seq p q).language = p.language * q.language := rfl

theorem language_alt : (alt p q).language = p.language + q.language := rfl

theorem mem_language_alt : w ∈ (alt p q).language ↔ w ∈ p.language ∨ w ∈ q.language := Iff.rfl

theorem mem_language_seq :
    w ∈ (seq p q).language ↔ ∃ a b, w = a ++ b ∧ a ∈ p.language ∧ b ∈ q.language := by
  refine Language.mem_mul.trans ⟨?_, ?_⟩
  · rintro ⟨a, ha, b, hb, rfl⟩
    exact ⟨a, b, rfl, ha, hb⟩
  · rintro ⟨a, b, rfl, ha, hb⟩
    exact ⟨a, ha, b, hb, rfl⟩

theorem mem_language_textEnd : w ∈ (seq p (look .textEnd)).language ↔ w ∈ p.language := by
  rw [language_seq, language_look, mul_one]

/-- A sign and then something. -/
theorem mem_language_char_seq :
    w ∈ (seq (char set) q).language ↔ ∃ c b, w = c :: b ∧ set.contains c = true ∧ b ∈ q.language := by
  rw [mem_language_seq]
  constructor
  · rintro ⟨_, b, rfl, ⟨c, rfl, hc⟩, hb⟩
    exact ⟨c, b, rfl, hc, hb⟩
  · rintro ⟨c, b, rfl, hc, hb⟩
    exact ⟨[c], b, rfl, ⟨c, rfl, hc⟩, hb⟩

theorem mem_language_repeated {least : Nat} {most : Option Nat} :
    w ∈ (repeated least most p).language ↔
      ∃ count, least ≤ count ∧ (∀ bound ∈ most, count ≤ bound) ∧ w ∈ p.language ^ count := Iff.rfl

/-- Something that may be left out. -/
theorem language_optional : (repeated 0 (some 1) p).language = 1 + p.language := by
  ext w
  rw [mem_language_repeated, Language.mem_add, Language.mem_one]
  constructor
  · rintro ⟨count, _, hcount, hw⟩
    rcases Nat.le_one_iff_eq_zero_or_eq_one.mp (hcount 1 rfl) with rfl | rfl
    · exact .inl (by simpa using hw)
    · exact .inr (by simpa using hw)
  · rintro (rfl | hw)
    · exact ⟨0, Nat.le_refl 0, by simp, by simp⟩
    · exact ⟨1, Nat.zero_le 1, by simp, by simpa using hw⟩

/-- Something a given number of times. -/
theorem language_times {n : Nat} : (repeated n (some n) p).language = p.language ^ n := by
  ext w
  rw [mem_language_repeated]
  constructor
  · rintro ⟨count, hleast, hmost, hw⟩
    rwa [Nat.le_antisymm hleast (hmost n rfl)]
  · exact fun hw => ⟨n, Nat.le_refl n, by simp, hw⟩

theorem mem_language_char_pow {n : Nat} :
    w ∈ (char set).language ^ n ↔ w.length = n ∧ ∀ c ∈ w, set.contains c = true := by
  induction n generalizing w with
  | zero =>
      rw [pow_zero, Language.mem_one, List.length_eq_zero_iff]
      exact ⟨fun h => ⟨h, h ▸ List.forall_mem_nil _⟩, And.left⟩
  | succ n ih =>
      rw [pow_succ', Language.mem_mul]
      constructor
      · rintro ⟨_, hfirst, b, hb, rfl⟩
        obtain ⟨c, rfl, hc⟩ := mem_language_char.mp hfirst
        obtain ⟨hlength, hall⟩ := ih.mp hb
        exact ⟨by simp [hlength], List.forall_mem_cons.mpr ⟨hc, hall⟩⟩
      · rintro ⟨hlength, hall⟩
        obtain ⟨c, b, rfl⟩ := List.exists_cons_of_length_eq_add_one hlength
        obtain ⟨hc, hb⟩ := List.forall_mem_cons.mp hall
        exact ⟨[c], ⟨c, rfl, hc⟩, b, ih.mpr ⟨Nat.succ.inj hlength, hb⟩, rfl⟩

/-- Signs of a set, by their number. -/
theorem mem_language_char_repeated {least : Nat} {most : Option Nat} :
    w ∈ (repeated least most (char set)).language ↔
      least ≤ w.length ∧ (∀ bound ∈ most, w.length ≤ bound) ∧ ∀ c ∈ w, set.contains c = true := by
  rw [mem_language_repeated]
  simp only [mem_language_char_pow]
  constructor
  · rintro ⟨_, hleast, hmost, rfl, hall⟩
    exact ⟨hleast, hmost, hall⟩
  · rintro ⟨hleast, hmost, hall⟩
    exact ⟨w.length, hleast, hmost, rfl, hall⟩

end Members

/-! ## 2. Matches in a text that is cut -/

/-- The pattern matches `y` where `x` stands before it and `z` after it. -/
def Takes (p : Pattern) (x y z : List Char) : Prop :=
  p.Matches (x ++ (y ++ z)) x.length (x.length + y.length)

section Cutting

variable {p q : Pattern} {x y z : List Char}

/-- A place between the ends of a part cuts the part in two. -/
theorem exists_cut {first second : Nat → Nat → Prop}
    (h : ∀ k, first x.length k → second k (x.length + y.length) →
      x.length ≤ k ∧ k ≤ x.length + y.length) :
    (∃ k, first x.length k ∧ second k (x.length + y.length)) ↔
      ∃ a b, y = a ++ b ∧ first x.length (x.length + a.length) ∧
        second (x ++ a).length ((x ++ a).length + b.length) := by
  constructor
  · rintro ⟨k, hfirst, hsecond⟩
    obtain ⟨hlow, hhigh⟩ := h k hfirst hsecond
    have hcut : x.length + (y.take (k - x.length)).length = k := by
      rw [List.length_take]
      omega
    have hwhole : (x ++ y.take (k - x.length)).length + (y.drop (k - x.length)).length =
        x.length + y.length := by
      rw [List.length_append, hcut, List.length_drop]
      omega
    refine ⟨y.take (k - x.length), y.drop (k - x.length), (List.take_append_drop _ _).symm, ?_, ?_⟩
    · rwa [hcut]
    · rwa [hwhole, List.length_append, hcut]
  · rintro ⟨a, b, rfl, hfirst, hsecond⟩
    refine ⟨x.length + a.length, hfirst, ?_⟩
    rw [List.length_append, Nat.add_assoc] at hsecond
    rwa [List.length_append]

theorem takes_seq : (seq p q).Takes x y z ↔
    ∃ a b, y = a ++ b ∧ p.Takes x a (b ++ z) ∧ q.Takes (x ++ a) b z := by
  unfold Takes
  refine (exists_cut fun k hfirst hsecond => ⟨hfirst.bounds.1, hsecond.bounds.1⟩).trans ?_
  refine exists_congr fun a => exists_congr fun b => and_congr_right fun hy => ?_
  subst hy
  simp only [List.append_assoc]

theorem takes_alt : (alt p q).Takes x y z ↔ p.Takes x y z ∨ q.Takes x y z := Iff.rfl

theorem takes_empty : Pattern.empty.Takes x y z ↔ y = [] := by
  unfold Takes Matches
  rw [← List.length_eq_zero_iff, List.length_append]
  omega

theorem takes_char {set : CharSet} :
    (char set).Takes x y z ↔ ∃ c, y = [c] ∧ set.contains c = true := by
  unfold Takes Matches
  rw [Nat.add_left_cancel_iff, List.length_eq_one_iff, ← exists_and_right]
  refine exists_congr fun c => and_congr_right ?_
  rintro rfl
  simp

theorem takes_textStart : (look .textStart).Takes x y z ↔ x = [] ∧ y = [] := by
  unfold Takes Matches
  cases x with
  | nil => simp [Look.holds, Pattern.before, eq_comm]
  | cons c x =>
      refine iff_of_false ?_ fun h => List.cons_ne_nil c x h.1
      rintro ⟨_, _, hholds⟩
      have hnone : (c :: x ++ (y ++ z))[x.length]? = none := Option.isNone_iff_eq_none.mp hholds
      have hlength := List.getElem?_eq_none_iff.mp hnone
      rw [List.length_append, List.length_cons] at hlength
      omega

theorem takes_textEnd : (look .textEnd).Takes x y z ↔ z = [] ∧ y = [] := by
  unfold Takes Matches
  cases y with
  | nil => cases z <;> simp [Look.holds]
  | cons c y => simp

/-- Several matches, one after the other. -/
theorem steps_iff_mem_pow {L : Language Char} (h : ∀ x y z, p.Takes x y z ↔ y ∈ L) {count : Nat} :
    Steps (p.Matches (x ++ (y ++ z))) count x.length (x.length + y.length) ↔ y ∈ L ^ count := by
  induction count generalizing x y with
  | zero =>
      rw [pow_zero, Language.mem_one, ← List.length_eq_zero_iff, Steps]
      omega
  | succ count ih =>
      rw [pow_succ', Language.mem_mul, Steps]
      refine (exists_cut fun k hfirst hrest => ⟨hfirst.bounds.1, ?_⟩).trans ?_
      · exact (hrest.bounds (fun _ _ => Matches.bounds) hfirst.bounds.2).1
      constructor
      · rintro ⟨a, b, rfl, hfirst, hrest⟩
        rw [List.append_assoc] at hfirst
        rw [List.append_assoc, ← List.append_assoc x] at hrest
        exact ⟨a, (h x a (b ++ z)).mp hfirst, b, ih.mp hrest, rfl⟩
      · rintro ⟨a, ha, b, hb, rfl⟩
        refine ⟨a, b, rfl, ?_, ?_⟩
        · rw [List.append_assoc]
          exact (h x a (b ++ z)).mpr ha
        · rw [List.append_assoc, ← List.append_assoc x]
          exact ih.mpr hb

/-- **What a plain pattern matches does not depend on what stands around it.** -/
theorem takes_iff_of_isPlain (hp : p.isPlain = true) : p.Takes x y z ↔ y ∈ p.language := by
  induction p generalizing x y z with
  | empty => exact takes_empty
  | char set => exact takes_char
  | look assertion => exact nomatch hp
  | seq first second ih₁ ih₂ =>
      obtain ⟨hfirst, hsecond⟩ := Bool.and_eq_true_iff.mp hp
      rw [takes_seq, mem_language_seq]
      simp only [ih₁ hfirst, ih₂ hsecond]
  | alt left right ih₁ ih₂ =>
      obtain ⟨hleft, hright⟩ := Bool.and_eq_true_iff.mp hp
      rw [takes_alt, mem_language_alt, ih₁ hleft, ih₂ hright]
  | repeated least most body ih =>
      have hx : x.length ≤ (x ++ (y ++ z)).length := by simp
      have hbody : ∀ x y z, body.Takes x y z ↔ y ∈ body.language := fun _ _ _ => ih hp
      refine (and_iff_right hx).trans (exists_congr fun count => ?_)
      exact and_congr_right fun _ => and_congr_right fun _ => steps_iff_mem_pow hbody

/-- **A pattern that asks for the end of the text matches what it does and leaves nothing.** -/
theorem takes_iff_of_isClosing (hp : p.isClosing = true) :
    p.Takes x y z ↔ z = [] ∧ y ∈ p.language := by
  induction p generalizing x y z with
  | look assertion =>
      obtain rfl : assertion = .textEnd := by simpa [isClosing] using hp
      exact takes_textEnd
  | seq first second _ ih =>
      obtain ⟨hfirst, hsecond⟩ := Bool.and_eq_true_iff.mp hp
      rw [takes_seq, mem_language_seq]
      simp only [takes_iff_of_isPlain hfirst, ih hsecond]
      constructor
      · rintro ⟨a, b, hy, ha, hz, hb⟩
        exact ⟨hz, a, b, hy, ha, hb⟩
      · rintro ⟨hz, a, b, hy, ha, hb⟩
        exact ⟨a, b, hy, ha, hz, hb⟩
  | empty | char set | alt left right | repeated least most body => exact nomatch hp

end Cutting

/-! ## 3. Searches -/

section Searches

variable {p : Pattern} {w : List Char}

/-- A match is somewhere in a text. -/
theorem occurs_iff_takes : p.occurs w = true ↔ ∃ x y z, w = x ++ (y ++ z) ∧ p.Takes x y z := by
  rw [occurs_iff]
  constructor
  · rintro ⟨i, j, hmatch⟩
    obtain ⟨hij, hj⟩ := hmatch.bounds
    have hw : w.take i ++ ((w.drop i).take (j - i) ++ (w.drop i).drop (j - i)) = w := by
      rw [List.take_append_drop, List.take_append_drop]
    refine ⟨_, _, _, hw.symm, ?_⟩
    have hi : (w.take i).length = i := by
      rw [List.length_take]
      omega
    have hend : i + ((w.drop i).take (j - i)).length = j := by
      rw [List.length_take, List.length_drop]
      omega
    unfold Takes
    rwa [hw, hi, hend]
  · rintro ⟨x, y, z, rfl, htakes⟩
    exact ⟨_, _, htakes⟩

/-- **A plain pattern is found where a part of the text is in its language.** -/
theorem occurs_plain (hp : p.isPlain = true) :
    p.occurs w = true ↔ ∃ x y z, w = x ++ (y ++ z) ∧ y ∈ p.language := by
  rw [occurs_iff_takes]
  simp only [takes_iff_of_isPlain hp]

/-- **A pattern that asks for the end is found where the end of the text is in its language.** -/
theorem occurs_closing (hp : p.isClosing = true) :
    p.occurs w = true ↔ ∃ x y, w = x ++ y ∧ y ∈ p.language := by
  rw [occurs_iff_takes]
  simp only [takes_iff_of_isClosing hp]
  constructor
  · rintro ⟨x, y, z, rfl, rfl, hy⟩
    exact ⟨x, y, by rw [List.append_nil], hy⟩
  · rintro ⟨x, y, rfl, hy⟩
    exact ⟨x, y, [], by rw [List.append_nil], rfl, hy⟩

/-- **A pattern that asks for both ends is found in the texts of its language.** -/
theorem occurs_whole (hp : p.isClosing = true) :
    (seq (look .textStart) p).occurs w = true ↔ w ∈ p.language := by
  rw [occurs_iff_takes]
  simp only [takes_seq, takes_textStart, takes_iff_of_isClosing hp]
  constructor
  · rintro ⟨x, y, z, rfl, a, b, rfl, ⟨rfl, rfl⟩, rfl, hb⟩
    simpa using hb
  · intro hw
    exact ⟨[], w, [], by simp, [], w, rfl, ⟨rfl, rfl⟩, rfl, hw⟩

/-- A text of nothing but signs of a set, one of them at least. -/
def allOf (set : CharSet) : Pattern :=
  sequence [.look .textStart, .repeated 1 none (.char set), .look .textEnd]

theorem occurs_allOf {set : CharSet} :
    (allOf set).occurs w = true ↔ w ≠ [] ∧ ∀ c ∈ w, set.contains c = true := by
  unfold allOf sequence sequence sequence
  rw [occurs_whole rfl, mem_language_textEnd, mem_language_char_repeated, Nat.one_le_iff_ne_zero,
    Ne, List.length_eq_zero_iff]
  simp

end Searches

end Placeholders.Pattern
