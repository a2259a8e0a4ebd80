import Placeholders.Text.Blank
import Placeholders.Text.Numeral

/-!
# Numerals that are read back

The decimal digits of a number are read as that number, as long as it is in the range that is asked for.
-/

namespace Placeholders.Text

theorem range_of_isDigit {c : Char} (h : c.isDigit = true) : '0' ≤ c ∧ c ≤ '9' := by
  rw [Char.isDigit, Bool.and_eq_true, decide_eq_true_iff, decide_eq_true_iff] at h
  exact h

theorem toNat_of_isDigit {c : Char} (h : c.isDigit = true) : 48 ≤ c.toNat ∧ c.toNat ≤ 57 :=
  range_of_isDigit h

theorem isBlank_of_isDigit {c : Char} (h : c.isDigit = true) : isBlank c = false := by
  obtain ⟨hlow, hhigh⟩ := toNat_of_isDigit h
  rw [← Bool.not_eq_true]
  simp only [isBlank, Bool.or_eq_true, Bool.and_eq_true, decide_eq_true_eq, beq_iff_eq]
  omega

theorem digitValue?_of_isDigit {c : Char} (h : c.isDigit = true) :
    digitValue? c = some (c.toNat - '0'.toNat) ∧ c.toNat - '0'.toNat < 10 := by
  have hzero : '0'.toNat = 48 := rfl
  have hrange := toNat_of_isDigit h
  exact ⟨if_pos (range_of_isDigit h), by omega⟩

theorem digitsFrom_of_isDigit {s : List Char} (h : ∀ c ∈ s, c.isDigit = true) (value : Nat) :
    digitsFrom 10 value s = some (Nat.ofDigitChars 10 s value) := by
  induction s generalizing value with
  | nil => rfl
  | cons c s ih =>
      obtain ⟨hc, hs⟩ := List.forall_mem_cons.mp h
      obtain ⟨hvalue, hlt⟩ := digitValue?_of_isDigit hc
      rw [digitsFrom, hvalue]
      simp only [hlt, if_true]
      rw [ih hs, Nat.ofDigitChars_cons, Nat.mul_comm]

theorem isDigit_of_mem_toDigits {n : Nat} : ∀ c ∈ Nat.toDigits 10 n, c.isDigit = true := fun _ hc =>
  Nat.isDigit_of_mem_toDigits (by decide) (by decide) hc

/-- **Decimal digits are read as the number they write.** -/
theorem unsigned?_toDigits {n bound : Nat} (h : n < bound) :
    unsigned? 10 bound (Nat.toDigits 10 n) = some n := by
  obtain ⟨c, s, hcons⟩ := List.exists_cons_of_ne_nil (Nat.toDigits_ne_nil (b := 10) (n := n))
  have hread : digits? 10 (Nat.toDigits 10 n) = some n := by
    rw [digits?, hcons]
    simp only [List.isEmpty_cons, Bool.false_eq_true, if_false]
    rw [← hcons, digitsFrom_of_isDigit isDigit_of_mem_toDigits,
      Nat.ofDigitChars_toDigits (by decide) (by decide)]
  have hplus : c ≠ '+' := by
    rintro rfl
    exact absurd (isDigit_of_mem_toDigits (n := n) '+' (by simp [hcons])) (by decide)
  unfold unsigned?
  split
  · rename_i heq
    rw [hcons] at heq
    exact absurd (List.cons.inj heq).1 hplus
  · rw [hread]
    simp [h]

end Placeholders.Text
