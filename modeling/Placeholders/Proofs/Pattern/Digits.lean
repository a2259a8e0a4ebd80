import Placeholders.Proofs.Pattern.Language
import Placeholders.Proofs.Text.Decimal

/-!
# Patterns of digits

* `numerals` are the texts of so many digits that write a number of a range.
* A first digit that is fixed leaves a range what it is, and where all the other digits are free the first
  one may be of a range itself. `numerals_mul` has both cases; so forms that go digit by digit come to ranges.
-/

namespace Placeholders.Pattern

open Placeholders.Text

/-- The texts of `n` digits that write a number from `low` to `high`. -/
def numerals (n low high : Nat) : Language Char :=
  {w | (∀ c ∈ w, c.isDigit = true) ∧ w.length = n ∧ low ≤ decimal w ∧ decimal w ≤ high}

/-- A digit of a range. -/
def digit (a b : Nat) : Pattern := .char (.range (48 + a) (48 + b))

variable {a b n low high : Nat} {w : List Char}

theorem mem_numerals : w ∈ numerals n low high ↔
    (∀ c ∈ w, c.isDigit = true) ∧ w.length = n ∧ low ≤ decimal w ∧ decimal w ≤ high := Iff.rfl

/-- The usual digits of a number. -/
theorem toDigits_mem_numerals {m : Nat} (hm : m < 10 ^ n) (hn : n ≠ 0) (hfirst : n = 1 ∨ 10 ^ (n - 1) ≤ m)
    (hlow : low ≤ m) (hhigh : m ≤ high) : Nat.toDigits 10 m ∈ numerals n low high := by
  have hle : (Nat.toDigits 10 m).length ≤ n :=
    (Nat.length_toDigits_le_iff (by decide) (Nat.pos_of_ne_zero hn)).mpr hm
  have hge : n ≤ (Nat.toDigits 10 m).length := by
    rcases hfirst with rfl | hfirst
    · exact Nat.length_toDigits_pos
    · by_contra hlt
      have hshort := decimal_lt (isDigit_of_mem_toDigits (n := m))
      rw [decimal_toDigits] at hshort
      have hpow : 10 ^ (Nat.toDigits 10 m).length ≤ 10 ^ (n - 1) :=
        Nat.pow_le_pow_right (by decide) (by omega)
      omega
  exact ⟨isDigit_of_mem_toDigits, Nat.le_antisymm hle hge, by rwa [decimal_toDigits],
    by rwa [decimal_toDigits]⟩

/-- **A digit before a range.** Either it is fixed, or the range is all there is. -/
theorem numerals_mul (hb : b < 10) (hhigh : high < 10 ^ n)
    (hfree : a = b ∨ low = 0 ∧ high + 1 = 10 ^ n) :
    numerals 1 a b * numerals n low high =
      numerals (n + 1) (10 ^ n * a + low) (10 ^ n * b + high) := by
  ext w
  rw [Language.mem_mul]
  simp only [mem_numerals]
  constructor
  · rintro ⟨v, ⟨hv, hone, hav, hvb⟩, r, ⟨hr, rfl, hlow, hhigh⟩, rfl⟩
    obtain ⟨c, rfl⟩ := List.length_eq_one_iff.mp hone
    obtain ⟨k, hk, rfl⟩ := isDigit_iff.mp (hv c (by simp))
    rw [decimal_singleton hk] at hav hvb
    have hlower : 10 ^ r.length * a ≤ 10 ^ r.length * k := Nat.mul_le_mul_left _ hav
    have hupper : 10 ^ r.length * k ≤ 10 ^ r.length * b := Nat.mul_le_mul_left _ hvb
    refine ⟨List.forall_mem_append.mpr ⟨hv, hr⟩, rfl, ?_⟩
    rw [List.singleton_append, decimal_cons hk]
    omega
  · rintro ⟨hw, hlength, hlow, hhigh'⟩
    obtain ⟨c, r, rfl⟩ := List.exists_cons_of_length_eq_add_one hlength
    obtain ⟨hc, hr⟩ := List.forall_mem_cons.mp hw
    obtain ⟨k, hk, rfl⟩ := isDigit_iff.mp hc
    obtain rfl : r.length = n := Nat.succ.inj hlength
    have hrest := decimal_lt hr
    rw [decimal_cons hk] at hlow hhigh'
    have hak : a < k + 1 := Nat.lt_of_mul_lt_mul_left (a := 10 ^ r.length) (by rw [Nat.mul_succ]; omega)
    have hkb : k < b + 1 := Nat.lt_of_mul_lt_mul_left (a := 10 ^ r.length) (by rw [Nat.mul_succ]; omega)
    rw [Nat.lt_succ_iff] at hak hkb
    refine ⟨[k.digitChar], ⟨by simpa using hc, rfl, ?_⟩, r, ⟨hr, rfl, ?_⟩, rfl⟩
    · rw [decimal_singleton hk]
      exact ⟨hak, hkb⟩
    · rcases hfree with rfl | ⟨rfl, hall⟩
      · obtain rfl := Nat.le_antisymm hak hkb
        omega
      · omega

theorem language_digit (hb : b < 10) : (digit a b).language = numerals 1 a b := by
  ext w
  unfold digit
  rw [mem_language_char, mem_numerals, List.length_eq_one_iff]
  simp only [contains_range, ← exists_digitChar_iff hb]
  constructor
  · rintro ⟨_, rfl, k, hak, hkb, rfl⟩
    have hk : k < 10 := by omega
    simp [decimal_singleton hk, Nat.isDigit_digitChar, hk, hak, hkb]
  · rintro ⟨hw, ⟨c, rfl⟩, hlow, hhigh⟩
    obtain ⟨k, hk, rfl⟩ := isDigit_iff.mp (hw c (by simp))
    rw [decimal_singleton hk] at hlow hhigh
    exact ⟨_, rfl, k, hlow, hhigh, rfl⟩

/-- Digits, by their number. -/
theorem mem_language_digits {least : Nat} {most : Option Nat} :
    w ∈ (repeated least most (digit 0 9)).language ↔
      least ≤ w.length ∧ (∀ bound ∈ most, w.length ≤ bound) ∧ ∀ c ∈ w, c.isDigit = true := by
  unfold digit
  rw [mem_language_char_repeated]
  simp only [contains_range, isDigit_iff_toNat, Nat.add_zero, Nat.reduceAdd]

/-- A given number of digits, which may be any. -/
theorem language_digits : (repeated n (some n) (digit 0 9)).language = numerals n 0 (10 ^ n - 1) := by
  ext w
  rw [mem_language_digits, mem_numerals]
  constructor
  · rintro ⟨hleast, hmost, hw⟩
    obtain rfl := Nat.le_antisymm hleast (hmost n rfl)
    exact ⟨hw, rfl, Nat.zero_le _, Nat.le_sub_one_of_lt (decimal_lt hw)⟩
  · rintro ⟨hw, rfl, _, _⟩
    exact ⟨Nat.le_refl _, by simp, hw⟩

/-- A numeral that does not begin with a zero, or has nothing else, is the usual one. -/
theorem toDigits_decimal (h : w ∈ numerals n low high) (hn : n ≠ 0) (hfirst : n = 1 ∨ 10 ^ (n - 1) ≤ low) :
    Nat.toDigits 10 (decimal w) = w := by
  obtain ⟨hw, rfl, hlow, hhigh⟩ := h
  obtain ⟨hdigits, hlength, _⟩ := toDigits_mem_numerals (decimal_lt hw) hn
    (hfirst.imp_right fun hpow => Nat.le_trans hpow hlow) hlow hhigh
  exact eq_of_decimal_eq hdigits hw hlength (decimal_toDigits _)

end Placeholders.Pattern
