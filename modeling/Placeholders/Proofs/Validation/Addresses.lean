import Placeholders.Proofs.Pattern.Digits
import Placeholders.Proofs.Validation.BuiltIn

/-!
# Addresses and ranges of addresses

An address is four numbers up to 255 with dots between them, and a range is an address with the length of a
mask. The built-in rule-sets for them have patterns of their own for the signs, for the end and for the whole.

* `IsSegment` and `IsQuad` are the notation. `mem_segment_iff` and `mem_quad_iff` say that the patterns know
  nothing else.
* `mem_mask_iff` does so for masks. A mask is looked for at the end and an address at the beginning; that they
  meet at one slash is because neither has any (`range_met_iff`).
-/

namespace Placeholders.Validation

open Placeholders.Pattern Placeholders.Text

/-! ## 1. Notation -/

/-- One to three digits that write a number up to 255. -/
def IsSegment (w : List Char) : Prop :=
  (1 ≤ w.length ∧ w.length ≤ 3) ∧ (∀ c ∈ w, c.isDigit = true) ∧ decimal w ≤ 255

/-- Four segments with dots between them. -/
def IsQuad (w : List Char) : Prop :=
  ∃ a b c d, w = a ++ '.' :: (b ++ '.' :: (c ++ '.' :: d)) ∧
    IsSegment a ∧ IsSegment b ∧ IsSegment c ∧ IsSegment d

/-! ## 2. Patterns -/

/-- The forms of a segment. -/
def segment : Pattern :=
  choice (Pattern.sequence [digit 2 2, digit 5 5, digit 0 5]) [
    Pattern.sequence [digit 2 2, digit 0 4, digit 0 9],
    Pattern.sequence [.repeated 0 (some 1) (digit 0 1), digit 0 9, .repeated 0 (some 1) (digit 0 9)]]

/-- A segment and the dot before it. -/
def dotted : Pattern := .seq (.char (.single '.')) segment

/-- The forms of the length of a mask. -/
def mask : Pattern :=
  .alt (.seq (digit 3 3) (digit 0 2)) (.seq (.repeated 0 (some 1) (digit 1 2)) (digit 0 9))

/-- What the texts of the two rule-sets are read as. -/
theorem read?_ipv4 :
    Pattern.read? "^[0-9.]+$".toList = some (allOf ⟨[⟨46, 46⟩, ⟨48, 57⟩]⟩) ∧
    Pattern.read? (Presets.whole Presets.ipv4Address).toList =
      some (Pattern.sequence [.look .textStart, segment, .repeated 3 (some 3) dotted, .look .textEnd]) ∧
    Pattern.read? "^[0-9./]+$".toList = some (allOf (.range 46 57)) ∧
    Pattern.read? "/.*/".toList =
      some (Pattern.sequence [.char (.single '/'), .repeated 0 none (.char ⟨[⟨0, 9⟩, ⟨11, lastCode⟩]⟩),
        .char (.single '/')]) ∧
    Pattern.read? (Presets.cidrSuffix ++ "$").toList =
      some (Pattern.sequence [.char (.single '/'), mask, .look .textEnd]) ∧
    Pattern.read? (Presets.whole (Presets.ipv4Address ++ "/[0-9]+")).toList =
      some (Pattern.sequence [.look .textStart, segment, .repeated 3 (some 3) dotted, .char (.single '/'),
        .repeated 1 none (digit 0 9), .look .textEnd]) := by
  simp only [Presets.whole, Presets.ipv4Address, Presets.ipv4Segment, Presets.cidrSuffix, Presets.counted,
    String.toList_append]
  repeat rewrite [String.toList_ofList]
  decide +kernel

/-! ## 3. What the patterns match -/

section Forms

variable {w : List Char}

theorem language_segment : segment.language =
    numerals 3 250 255 + (numerals 3 200 249 +
      (numerals 1 0 9 + numerals 2 0 19 + (numerals 2 0 99 + numerals 3 0 199))) := by
  unfold segment
  simp (disch := decide) only [choice, Pattern.sequence, language_alt, language_seq, language_digit,
    language_optional, add_mul, mul_add, one_mul, mul_one, numerals_mul, Nat.reducePow, Nat.reduceMul,
    Nat.reduceAdd]

theorem mem_segment_iff : w ∈ segment.language ↔ IsSegment w := by
  rw [language_segment]
  simp only [Language.mem_add, mem_numerals, IsSegment]
  constructor
  · rintro (h | h | (h | h) | h | h) <;> exact ⟨by omega, h.1, by omega⟩
  · rintro ⟨⟨hsome, hthree⟩, hw, hmax⟩
    have hlt := decimal_lt hw
    obtain hlength | hlength | hlength : w.length = 1 ∨ w.length = 2 ∨ w.length = 3 := by omega
    all_goals
      rw [hlength] at hlt
      simp only [and_iff_right hw, hlength, true_and]
      omega

/-- Segments and dots have nothing else in them. -/
theorem IsQuad.signs {w : List Char} (h : IsQuad w) : ∀ c ∈ w, c.isDigit = true ∨ c = '.' := by
  obtain ⟨a, b, c, d, rfl, ha, hb, hc, hd⟩ := h
  intro s hs
  simp only [List.mem_append, List.mem_cons] at hs
  rcases hs with hs | rfl | hs | rfl | hs | rfl | hs
  · exact .inl (ha.2.1 s hs)
  · exact .inr rfl
  · exact .inl (hb.2.1 s hs)
  · exact .inr rfl
  · exact .inl (hc.2.1 s hs)
  · exact .inr rfl
  · exact .inl (hd.2.1 s hs)

theorem mem_dotted_iff : w ∈ dotted.language ↔ ∃ a, w = '.' :: a ∧ IsSegment a := by
  unfold dotted
  rw [mem_language_char_seq]
  simp only [contains_single, mem_segment_iff]
  constructor
  · rintro ⟨_, a, rfl, rfl, ha⟩
    exact ⟨a, rfl, ha⟩
  · rintro ⟨a, rfl, ha⟩
    exact ⟨_, a, rfl, rfl, ha⟩

theorem mem_quad_iff : w ∈ segment.language * dotted.language ^ 3 ↔ IsQuad w := by
  simp only [pow_succ', pow_zero, mul_one, Language.mem_mul, mem_segment_iff, mem_dotted_iff]
  constructor
  · rintro ⟨a, ha, _, ⟨_, ⟨b, rfl, hb⟩, _, ⟨_, ⟨c, rfl, hc⟩, _, ⟨d, rfl, hd⟩, rfl⟩, rfl⟩, rfl⟩
    exact ⟨a, b, c, d, by simp, ha, hb, hc, hd⟩
  · rintro ⟨a, b, c, d, rfl, ha, hb, hc, hd⟩
    exact ⟨a, ha, _, ⟨_, ⟨b, rfl, hb⟩, _, ⟨_, ⟨c, rfl, hc⟩, _, ⟨d, rfl, hd⟩, rfl⟩, rfl⟩, by simp⟩

theorem mem_mask_iff : w ∈ mask.language ↔ ∃ n ≤ 32, w = Nat.toDigits 10 n := by
  have hmask : mask.language = numerals 2 30 32 + (numerals 1 0 9 + numerals 2 10 29) := by
    unfold mask
    simp (disch := decide) only [language_alt, language_seq, language_digit, language_optional, add_mul,
      one_mul, numerals_mul, Nat.reducePow, Nat.reduceMul, Nat.reduceAdd]
  rw [hmask]
  simp only [Language.mem_add]
  constructor
  · rintro (h | h | h)
    · exact ⟨decimal w, h.2.2.2, (toDigits_decimal h (by decide) (.inr (by decide))).symm⟩
    · exact ⟨decimal w, h.2.2.2.trans (by decide), (toDigits_decimal h (by decide) (.inl rfl)).symm⟩
    · exact ⟨decimal w, h.2.2.2.trans (by decide),
        (toDigits_decimal h (by decide) (.inr (by decide))).symm⟩
  · rintro ⟨n, hn, rfl⟩
    rcases Nat.lt_or_ge n 10 with hone | htwo
    · exact .inr (.inl (toDigits_mem_numerals hone (by decide) (.inl rfl) (Nat.zero_le n)
        (Nat.le_of_lt_succ hone)))
    rcases Nat.lt_or_ge n 30 with h | h
    · exact .inr (.inr (toDigits_mem_numerals (by omega) (by decide) (.inr htwo) htwo
        (Nat.le_of_lt_succ h)))
    · exact .inl (toDigits_mem_numerals (by omega) (by decide) (.inr htwo) h hn)

theorem mem_address_iff :
    w ∈ (Pattern.sequence [segment, .repeated 3 (some 3) dotted, .look .textEnd]).language ↔ IsQuad w := by
  unfold Pattern.sequence Pattern.sequence Pattern.sequence
  rw [language_seq, language_seq, language_times, language_look, mul_one, mem_quad_iff]

theorem mem_range_iff :
    w ∈ (Pattern.sequence [segment, .repeated 3 (some 3) dotted, .char (.single '/'),
      .repeated 1 none (digit 0 9), .look .textEnd]).language ↔
    ∃ quad figures, w = quad ++ '/' :: figures ∧ IsQuad quad ∧ figures ≠ [] ∧
      ∀ c ∈ figures, c.isDigit = true := by
  unfold Pattern.sequence Pattern.sequence Pattern.sequence Pattern.sequence Pattern.sequence
  rw [language_seq, language_seq, language_times, ← mul_assoc, Language.mem_mul]
  simp only [mem_quad_iff, mem_language_char_seq, contains_single, mem_language_textEnd, mem_language_digits]
  constructor
  · rintro ⟨quad, hquad, _, ⟨_, figures, rfl, rfl, hsome, _, hfigures⟩, rfl⟩
    exact ⟨quad, figures, rfl, hquad, List.length_pos_iff.mp hsome, hfigures⟩
  · rintro ⟨quad, figures, rfl, hquad, hsome, hfigures⟩
    exact ⟨quad, hquad, _, ⟨_, figures, rfl, rfl, List.length_pos_iff.mpr hsome, by simp, hfigures⟩, rfl⟩

theorem mem_cidrSuffix_iff :
    w ∈ (Pattern.sequence [.char (.single '/'), mask, .look .textEnd]).language ↔
      ∃ n ≤ 32, w = '/' :: Nat.toDigits 10 n := by
  unfold Pattern.sequence Pattern.sequence Pattern.sequence
  simp only [mem_language_char_seq, contains_single, mem_language_textEnd, mem_mask_iff]
  constructor
  · rintro ⟨_, _, rfl, rfl, n, hn, rfl⟩
    exact ⟨n, hn, rfl⟩
  · rintro ⟨n, hn, rfl⟩
    exact ⟨_, _, rfl, rfl, n, hn, rfl⟩

end Forms

/-! ## 4. Demands -/

section Demands

variable {severity : Severity} {value : String}

theorem met_figuresDots : Demand.Met ⟨severity, true, "^[0-9.]+$"⟩ value ↔
    value ≠ "" ∧ ∀ c ∈ value.toList, c.isDigit = true ∨ c = '.' := by
  refine (met_allOf read?_ipv4.1).trans (and_congr_right fun _ => forall₂_congr fun c _ => ?_)
  rw [isDigit_iff_toNat, ← Char.toNat_inj]
  simp [CharSet.contains, CharSet.has, Span.contains]
  omega

theorem met_ipv4Address : Demand.Met ⟨severity, true, Presets.whole Presets.ipv4Address⟩ value ↔
    IsQuad value.toList :=
  (met_whole read?_ipv4.2.1 rfl).trans mem_address_iff

theorem met_figuresDotsSlashes : Demand.Met ⟨severity, true, "^[0-9./]+$"⟩ value ↔
    value ≠ "" ∧ ∀ c ∈ value.toList, c.isDigit = true ∨ c = '.' ∨ c = '/' := by
  refine (met_allOf read?_ipv4.2.2.1).trans (and_congr_right fun _ => forall₂_congr fun c _ => ?_)
  rw [contains_range, isDigit_iff_toNat, ← Char.toNat_inj, ← Char.toNat_inj]
  simp only [Char.reduceToNat]
  omega

/-- Where no slash follows on another, there are no two. -/
theorem met_twoSlashes (h : ∀ before between after,
    value.toList ≠ before ++ '/' :: (between ++ '/' :: after)) :
    Demand.Met ⟨severity, false, "/.*/"⟩ value := by
  rw [met_iff read?_ipv4.2.2.2.1, ← Bool.not_eq_true, occurs_plain rfl]
  unfold Pattern.sequence Pattern.sequence Pattern.sequence
  simp only [mem_language_seq, mem_language_char, contains_single]
  rintro ⟨before, _, after, heq, _, _, rfl, ⟨_, rfl, rfl⟩, between, _, rfl, _, _, rfl, rfl⟩
  exact h before between after (by simpa using heq)

theorem met_cidrSuffix : Demand.Met ⟨severity, true, Presets.cidrSuffix ++ "$"⟩ value ↔
    ∃ before, ∃ n ≤ 32, value.toList = before ++ '/' :: Nat.toDigits 10 n := by
  refine ((met_iff read?_ipv4.2.2.2.2.1).trans (occurs_closing rfl)).trans (exists_congr fun before => ?_)
  simp only [mem_cidrSuffix_iff]
  constructor
  · rintro ⟨_, heq, n, hn, rfl⟩
    exact ⟨n, hn, heq⟩
  · rintro ⟨n, hn, heq⟩
    exact ⟨_, heq, n, hn, rfl⟩

theorem met_ipv4Range : Demand.Met ⟨severity, true, Presets.whole (Presets.ipv4Address ++ "/[0-9]+")⟩ value ↔
    ∃ quad figures, value.toList = quad ++ '/' :: figures ∧ IsQuad quad ∧ figures ≠ [] ∧
      ∀ c ∈ figures, c.isDigit = true :=
  (met_whole read?_ipv4.2.2.2.2.2 rfl).trans mem_range_iff

end Demands

/-! ## 5. Verdicts -/

theorem slash_notMem_of_isDigit {w : List Char} (h : ∀ c ∈ w, c.isDigit = true) : '/' ∉ w :=
  fun hmem => absurd (h '/' hmem) (by decide)

theorem IsQuad.notMem {w : List Char} (h : IsQuad w) {c : Char} (hc : ¬ (c.isDigit = true ∨ c = '.')) :
    c ∉ w :=
  fun hmem => hc (h.signs c hmem)

/-- **An address, one slash and the length of a mask.** -/
theorem range_met_iff {value : String} :
    Demand.Met ⟨.error, true, "^[0-9./]+$"⟩ value ∧ Demand.Met ⟨.error, false, "/.*/"⟩ value ∧
      Demand.Met ⟨.error, true, Presets.cidrSuffix ++ "$"⟩ value ∧
      Demand.Met ⟨.warning, true, Presets.whole (Presets.ipv4Address ++ "/[0-9]+")⟩ value ↔
    ∃ quad, IsQuad quad ∧ ∃ n ≤ 32, value.toList = quad ++ '/' :: Nat.toDigits 10 n := by
  rw [met_figuresDotsSlashes, met_cidrSuffix, met_ipv4Range]
  constructor
  · rintro ⟨_, _, ⟨before, n, hn, hend⟩, quad, figures, hwhole, hquad, _, hfigures⟩
    -- both slashes are the only one there is
    obtain ⟨_, _, rfl⟩ := (List.append_cons_inj_of_notMem (hquad.notMem (by decide))
      (slash_notMem_of_isDigit hfigures)).mp (hwhole.symm.trans hend)
    exact ⟨quad, hquad, n, hn, hwhole⟩
  · rintro ⟨quad, hquad, n, hn, heq⟩
    refine ⟨⟨?_, ?_⟩, met_twoSlashes ?_, ⟨quad, n, hn, heq⟩, quad, _, heq, hquad, Nat.toDigits_ne_nil,
      isDigit_of_mem_toDigits⟩
    · rintro rfl
      simp at heq
    · rw [heq]
      refine List.forall_mem_append.mpr ⟨fun c hc => ?_, List.forall_mem_cons.mpr ⟨.inr (.inr rfl), ?_⟩⟩
      · exact (hquad.signs c hc).imp_right .inl
      · exact fun c hc => .inl (isDigit_of_mem_toDigits c hc)
    · intro before between after htwo
      obtain ⟨_, _, hrest⟩ := (List.append_cons_inj_of_notMem (hquad.notMem (by decide))
        (slash_notMem_of_isDigit isDigit_of_mem_toDigits)).mp (heq.symm.trans htwo)
      refine slash_notMem_of_isDigit (isDigit_of_mem_toDigits (n := n)) ?_
      rw [hrest]
      exact List.mem_append_right _ List.mem_cons_self

/-- **The built-in rule-sets for addresses.** -/
theorem ipv4_verdicts :
    ∃ addresses ranges, Presets.find? "ipv4_address" = some addresses ∧
      Presets.find? "ipv4_range_cidr" = some ranges ∧ ∀ value,
        ((evaluate [addresses] value).status = .good ↔ IsQuad value.toList) ∧
        ((evaluate [addresses] value).status = .error ↔
          value = "" ∨ ∃ c ∈ value.toList, c.isDigit = false ∧ c ≠ '.') ∧
        ((evaluate [ranges] value).status = .good ↔
          ∃ quad, IsQuad quad ∧ ∃ n ≤ 32, value.toList = quad ++ '/' :: Nat.toDigits 10 n) := by
  obtain ⟨sets, hsets, haddresses, hranges, _⟩ := Presets.gives_builtIn?
  obtain ⟨addresses, hfound, hverdict⟩ := haddresses.verdict hsets
  obtain ⟨ranges, hfound', hverdict'⟩ := hranges.verdict hsets
  refine ⟨addresses, ranges, hfound, hfound', fun value => ?_⟩
  obtain ⟨hgood, herror⟩ := hverdict value
  have hgood' := (hverdict' value).1
  simp only [List.forall_mem_cons, List.not_mem_nil, false_imp_iff, implies_true, and_true, met_figuresDots,
    met_ipv4Address] at hgood
  simp only [List.exists_mem_cons_iff, List.not_mem_nil, false_and, exists_false, or_false, true_and,
    reduceCtorEq, met_figuresDots] at herror
  simp only [List.forall_mem_cons, List.not_mem_nil, false_imp_iff, implies_true, and_true] at hgood'
  rw [hgood, herror, hgood', range_met_iff]
  refine ⟨and_iff_right_of_imp fun hquad => ⟨?_, hquad.signs⟩, ?_, Iff.rfl⟩
  · rintro rfl
    obtain ⟨a, b, c, d, heq, _⟩ := hquad
    simp at heq
  · rw [not_and_or, Ne, not_not]
    simp

end Placeholders.Validation
