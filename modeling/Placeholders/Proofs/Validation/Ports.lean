import Placeholders.Proofs.Pattern.Digits
import Placeholders.Proofs.Validation.BuiltIn

/-!
# Port numbers

The shape of a port number goes by the place where the number first falls below 65535. It has a form of its
own for up to five digits that are none above five, and these may begin with zeros.

* `language_ports` are the forms, most of them as ranges of numbers.
* No form goes beyond the bound (`decimal_le_of_mem_ports`), and the usual digits of every number up to the
  bound have a form (`toDigits_mem_ports`).
-/

namespace Placeholders.Validation

open Placeholders.Pattern Placeholders.Text

/-! ## 1. Forms -/

/-- The forms of a port number. -/
def ports : Pattern :=
  choice (Pattern.sequence [digit 6 6, digit 5 5, digit 5 5, digit 3 3, digit 0 5]) [
    Pattern.sequence [digit 6 6, digit 5 5, digit 5 5, digit 0 2, digit 0 9],
    Pattern.sequence [digit 6 6, digit 5 5, digit 0 4, .repeated 2 (some 2) (digit 0 9)],
    Pattern.sequence [digit 6 6, digit 0 4, .repeated 3 (some 3) (digit 0 9)],
    Pattern.sequence [digit 1 5, .repeated 4 (some 4) (digit 0 9)],
    .repeated 0 (some 5) (digit 0 5),
    .repeated 1 (some 4) (digit 0 9)]

/-- What the texts of the rule-set are read as. -/
theorem read?_ports :
    Pattern.read? "^[0-9]+$".toList = some (allOf (.range 48 57)) ∧
    Pattern.read? Presets.portShape.toList =
      some (Pattern.sequence [.look .textStart, ports, .look .textEnd]) := by
  simp only [Presets.portShape, Presets.portForms, Presets.counted, String.toList_append,
    String.toList_intercalate, List.map_cons, List.map_nil]
  repeat rewrite [String.toList_ofList]
  decide +kernel

theorem language_ports : ports.language =
    numerals 5 65530 65535 + (numerals 5 65500 65529 + (numerals 5 65000 65499 +
      (numerals 5 60000 64999 + (numerals 5 10000 59999 +
        ((Pattern.repeated 0 (some 5) (digit 0 5)).language +
          (Pattern.repeated 1 (some 4) (digit 0 9)).language))))) := by
  unfold ports
  simp (disch := decide) only [choice, Pattern.sequence, language_alt, language_seq, language_digit,
    language_digits, numerals_mul, Nat.reducePow, Nat.reduceSub, Nat.reduceMul, Nat.reduceAdd]

/-! ## 2. Numbers -/

variable {w : List Char}

theorem decimal_le_of_mem_ports (h : w ∈ ports.language) : decimal w ≤ 65535 := by
  rw [language_ports] at h
  simp only [Language.mem_add, mem_numerals] at h
  rcases h with h | h | h | h | h | h | h
  · exact h.2.2.2
  · exact h.2.2.2.trans (by decide)
  · exact h.2.2.2.trans (by decide)
  · exact h.2.2.2.trans (by decide)
  · exact h.2.2.2.trans (by decide)
  · obtain ⟨_, hlength, hw⟩ := mem_language_char_repeated.mp h
    have hbound := decimal_bound (w := w) (k := 5) (by decide) fun c hc => by
      have hrange := contains_range.mp (hw c hc)
      obtain ⟨j, _, hj, hcj⟩ := (exists_digitChar_iff (a := 0) (b := 5) (by decide)).mpr hrange
      exact ⟨j, hj, hcj⟩
    have hpow : 10 ^ w.length ≤ 10 ^ 5 := Nat.pow_le_pow_right (by decide) (hlength 5 rfl)
    omega
  · obtain ⟨_, hlength, hw⟩ := mem_language_digits.mp h
    have hlt := decimal_lt hw
    have hpow : 10 ^ w.length ≤ 10 ^ 4 := Nat.pow_le_pow_right (by decide) (hlength 4 rfl)
    omega

theorem toDigits_mem_ports {n : Nat} (hn : n ≤ 65535) : Nat.toDigits 10 n ∈ ports.language := by
  have hfive : ∀ {low high : Nat}, 10000 ≤ n → low ≤ n → n ≤ high →
      Nat.toDigits 10 n ∈ numerals 5 low high := fun hlong =>
    toDigits_mem_numerals (by omega) (by decide) (.inr hlong)
  rw [language_ports]
  simp only [Language.mem_add]
  by_cases hshort : n < 10 ^ 4
  · refine .inr (.inr (.inr (.inr (.inr (.inr (mem_language_digits.mpr ⟨?_, ?_, ?_⟩))))))
    · exact Nat.length_toDigits_pos
    · simpa using (Nat.length_toDigits_le_iff (by decide) (by decide)).mpr hshort
    · exact isDigit_of_mem_toDigits
  · have hlong : 10000 ≤ n := Nat.not_lt.mp hshort
    rcases Nat.lt_or_ge n 60000 with h | h
    · exact .inr (.inr (.inr (.inr (.inl (hfive hlong hlong (Nat.le_of_lt_succ h))))))
    rcases Nat.lt_or_ge n 65000 with h' | h'
    · exact .inr (.inr (.inr (.inl (hfive hlong h (Nat.le_of_lt_succ h')))))
    rcases Nat.lt_or_ge n 65500 with h | h
    · exact .inr (.inr (.inl (hfive hlong h' (Nat.le_of_lt_succ h))))
    rcases Nat.lt_or_ge n 65530 with h' | h'
    · exact .inr (.inl (hfive hlong h (Nat.le_of_lt_succ h')))
    · exact .inl (hfive hlong h' hn)

/-- Five digits may begin with zeros, but then none of them is above five. -/
example :
    let shape := Pattern.sequence [.look .textStart, ports, .look .textEnd]
    shape.occurs ['0', '0', '0', '0', '5'] = true ∧ shape.occurs ['0', '0', '0', '0', '6'] = false := by
  decide

/-! ## 3. Verdicts -/

variable {value : String}

theorem met_figures {severity : Severity} : Demand.Met ⟨severity, true, "^[0-9]+$"⟩ value ↔
    value ≠ "" ∧ ∀ c ∈ value.toList, c.isDigit = true := by
  refine (met_allOf read?_ports.1).trans ?_
  simp only [contains_range, isDigit_iff_toNat]

theorem met_portShape {severity : Severity} : Demand.Met ⟨severity, true, Presets.portShape⟩ value ↔
    value.toList ∈ ports.language :=
  (met_whole read?_ports.2 rfl).trans mem_language_textEnd

/-- **The built-in rule-set for ports.** What it finds good are digits of a number up to 65535, and it finds
    the usual digits of all of these good. It finds an error where there is nothing, or something else than
    digits. -/
theorem port_number_verdict :
    ∃ set, Presets.find? "port_number" = some set ∧ ∀ value,
      ((evaluate [set] value).status = .good → value ≠ "" ∧ (∀ c ∈ value.toList, c.isDigit = true) ∧
        decimal value.toList ≤ 65535) ∧
      (∀ n ≤ 65535, value = toString n → (evaluate [set] value).status = .good) ∧
      ((evaluate [set] value).status = .error ↔ value = "" ∨ ∃ c ∈ value.toList, c.isDigit = false) := by
  obtain ⟨sets, hsets, _, _, _, hports⟩ := Presets.gives_builtIn?
  obtain ⟨set, hfound, hverdict⟩ := hports.verdict hsets
  refine ⟨set, hfound, fun value => ?_⟩
  obtain ⟨hgood, herror⟩ := hverdict value
  simp only [List.forall_mem_cons, List.not_mem_nil, false_imp_iff, implies_true, and_true, met_figures,
    met_portShape] at hgood
  simp only [List.exists_mem_cons_iff, List.not_mem_nil, false_and, exists_false, or_false, true_and,
    reduceCtorEq, met_figures] at herror
  rw [hgood, herror]
  refine ⟨fun ⟨⟨hsome, hdigits⟩, hshape⟩ => ⟨hsome, hdigits, decimal_le_of_mem_ports hshape⟩, ?_, ?_⟩
  · rintro n hn rfl
    rw [Ne, ← String.toList_eq_nil_iff, Nat.toString_eq_repr, Nat.toList_repr]
    exact ⟨⟨Nat.toDigits_ne_nil, isDigit_of_mem_toDigits⟩, toDigits_mem_ports hn⟩
  · rw [not_and_or, Ne, not_not]
    simp

end Placeholders.Validation
