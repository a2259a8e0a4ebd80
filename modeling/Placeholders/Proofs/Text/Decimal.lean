import Mathlib.Tactic.Ring
import Placeholders.Proofs.Text.Numeral

/-!
# Decimal digits and what they write

* Every digit is the digit of a number below ten, so it can be counted with (`isDigit_iff`).
* `decimal` is the number that digits write. The first one counts by its place (`decimal_cons`), and the
  number keeps to the bound that all of them being the greatest of them gives (`decimal_bound`).
-/

namespace Placeholders.Text

/-- The number that decimal digits write. -/
def decimal (w : List Char) : Nat := Nat.ofDigitChars 10 w 0

variable {c : Char} {w : List Char} {k : Nat}

theorem isDigit_iff_toNat : c.isDigit = true ↔ 48 ≤ c.toNat ∧ c.toNat ≤ 57 := by
  refine ⟨toNat_of_isDigit, fun ⟨hlow, hhigh⟩ => ?_⟩
  rw [Char.isDigit, Bool.and_eq_true, decide_eq_true_iff, decide_eq_true_iff]
  exact ⟨hlow, hhigh⟩

/-- The digits of a range. -/
theorem exists_digitChar_iff {a b : Nat} (hb : b < 10) :
    (∃ k, a ≤ k ∧ k ≤ b ∧ c = k.digitChar) ↔ 48 + a ≤ c.toNat ∧ c.toNat ≤ 48 + b := by
  constructor
  · rintro ⟨k, hak, hkb, rfl⟩
    rw [Nat.toNat_digitChar_of_lt_ten (by omega)]
    omega
  · rintro ⟨hlow, hhigh⟩
    refine ⟨c.toNat - 48, by omega, by omega, Char.toNat_inj.mp ?_⟩
    rw [Nat.toNat_digitChar_of_lt_ten (by omega)]
    omega

theorem isDigit_iff : c.isDigit = true ↔ ∃ k < 10, c = k.digitChar := by
  rw [isDigit_iff_toNat, ← exists_digitChar_iff (a := 0) (b := 9) (by decide)]
  simp [Nat.lt_succ_iff]

theorem decimal_cons (hk : k < 10) : decimal (k.digitChar :: w) = 10 ^ w.length * k + decimal w := by
  unfold decimal
  rw [Nat.ofDigitChars_cons_digitChar_of_lt_ten hk, Nat.ofDigitChars_eq_ofDigitChars_zero]
  simp

@[simp] theorem decimal_nil : decimal [] = 0 := rfl

theorem decimal_singleton (hk : k < 10) : decimal [k.digitChar] = k := by
  rw [decimal_cons hk, decimal_nil, List.length_nil, Nat.pow_zero, Nat.one_mul, Nat.add_zero]

theorem decimal_toDigits (n : Nat) : decimal (Nat.toDigits 10 n) = n :=
  Nat.ofDigitChars_toDigits (by decide) (by decide)

/-- Digits up to a bound write no more than the bound does that often. -/
theorem decimal_bound (hk : k < 10) (h : ∀ c ∈ w, ∃ j ≤ k, c = j.digitChar) :
    9 * decimal w + k ≤ k * 10 ^ w.length := by
  induction w with
  | nil => simp
  | cons c w ih =>
      obtain ⟨⟨j, hj, rfl⟩, hw⟩ := List.forall_mem_cons.mp h
      have hrest := ih hw
      have hfirst : 10 ^ w.length * j ≤ 10 ^ w.length * k := Nat.mul_le_mul_left _ hj
      have hplace : k * 10 ^ (w.length + 1) = 9 * (10 ^ w.length * k) + k * 10 ^ w.length := by ring
      rw [decimal_cons (by omega), List.length_cons, hplace]
      omega

/-- Digits write no more than nines do. -/
theorem decimal_lt (h : ∀ c ∈ w, c.isDigit = true) : decimal w < 10 ^ w.length := by
  have hbound := decimal_bound (k := 9) (by decide) fun c hc => by
    obtain ⟨j, hj, rfl⟩ := isDigit_iff.mp (h c hc)
    exact ⟨j, Nat.le_of_lt_succ hj, rfl⟩
  omega

/-- Of digits that are as many, no two rows write one number. -/
theorem eq_of_decimal_eq {v : List Char} (hv : ∀ c ∈ v, c.isDigit = true) (hw : ∀ c ∈ w, c.isDigit = true)
    (hlength : v.length = w.length) (h : decimal v = decimal w) : v = w := by
  induction v generalizing w with
  | nil => exact (List.length_eq_zero_iff.mp hlength.symm).symm
  | cons c v ih =>
      obtain ⟨d, w, rfl⟩ := List.exists_cons_of_length_eq_add_one hlength.symm
      obtain ⟨hc, hvs⟩ := List.forall_mem_cons.mp hv
      obtain ⟨hd, hws⟩ := List.forall_mem_cons.mp hw
      obtain ⟨j, hj, rfl⟩ := isDigit_iff.mp hc
      obtain ⟨k, hk, rfl⟩ := isDigit_iff.mp hd
      have hsame : v.length = w.length := Nat.succ.inj hlength
      have hvlt := decimal_lt hvs
      have hwlt := decimal_lt hws
      rw [decimal_cons hj, decimal_cons hk, hsame] at h
      rw [hsame] at hvlt
      have hpos : 0 < 10 ^ w.length := Nat.pow_pos (by decide)
      have hjk : j = k := by
        have hdiv := congrArg (· / 10 ^ w.length) h
        simpa [Nat.mul_add_div hpos, Nat.div_eq_of_lt hvlt, Nat.div_eq_of_lt hwlt] using hdiv
      rw [hjk] at h ⊢
      rw [ih hvs hws hsame (Nat.add_left_cancel h)]

end Placeholders.Text
