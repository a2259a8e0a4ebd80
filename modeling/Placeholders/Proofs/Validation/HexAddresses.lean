import Placeholders.Proofs.Markup.Delimiters
import Placeholders.Proofs.Pattern.Signs
import Placeholders.Proofs.Validation.Addresses

/-!
# Addresses in groups of hexadecimal figures

The built-in rule-set for these addresses has three rules: one for the signs, one for the shape, and one that
warns of the other kind of address. The shape is one of twelve forms.

* `read?_ipv6` are the forms, as the text of the shape is read.
* `Pattern.hasOnly` sees from a form that the first rule lets pass whatever has it. Only one form has other
  signs: the one of addresses with a zone (`IsScoped`, `mem_zoned_iff`).
* Every form has a colon (`Pattern.needs`), so that the third rule never speaks where the second one is
  content.
-/

namespace Placeholders.Validation

open Placeholders.Pattern Placeholders.Text

/-! ## 1. Forms -/

/-- Hexadecimal figures. -/
def figures : CharSet := ⟨[⟨48, 57⟩, ⟨65, 70⟩, ⟨97, 102⟩]⟩

/-- Figures and letters. -/
def figuresLetters : CharSet := ⟨[⟨48, 57⟩, ⟨65, 90⟩, ⟨97, 122⟩]⟩

/-- What the first rule lets pass: figures, colons, dots and square brackets. -/
def addressSigns : CharSet := ⟨[⟨46, 46⟩, ⟨48, 58⟩, ⟨65, 70⟩, ⟨91, 91⟩, ⟨93, 93⟩, ⟨97, 102⟩]⟩

/-- One given sign. -/
def sign (c : Char) : Pattern := .char (.single c)

/-- One to four figures. -/
def group : Pattern := .repeated 1 (some 4) (.char figures)

/-- Groups with a colon after each. -/
def leading (least most : Nat) : Pattern := .repeated least (some most) (.seq group (sign ':'))

/-- Groups with a colon before each. -/
def trailing (least most : Nat) : Pattern := .repeated least (some most) (.seq (sign ':') group)

/-- A number up to 255 as it stands in these addresses. -/
def octet : Pattern :=
  .alt (Pattern.sequence [digit 2 2, digit 5 5, digit 0 5])
    (.seq
      (.repeated 0 (some 1)
        (.alt (.seq (digit 2 2) (digit 0 4)) (.seq (.repeated 0 (some 1) (digit 1 1)) (digit 0 9))))
      (digit 0 9))

/-- The first three of four numbers. -/
def octets : Pattern := .repeated 3 (some 3) (.seq octet (sign '.'))

/-- A link-local address with a zone. -/
def zoned : Pattern :=
  Pattern.sequence [sign 'f', sign 'e', sign '8', sign '0', sign ':',
    .repeated 0 (some 4) (.seq (sign ':') (.repeated 0 (some 4) (.char figures))),
    sign '%', .repeated 1 none (.char figuresLetters)]

/-- All eight groups. -/
def inFull : Pattern := .seq (leading 7 7) group

/-- The forms where groups of zeros are left out, and those with a zone or with four numbers at the end. -/
def otherForms : List Pattern := [
  .seq (leading 1 7) (sign ':'),
  .seq (leading 1 6) (.seq (sign ':') group),
  .seq (leading 1 5) (trailing 1 2),
  .seq (leading 1 4) (trailing 1 3),
  .seq (leading 1 3) (trailing 1 4),
  .seq (leading 1 2) (trailing 1 5),
  .seq group (.seq (sign ':') (trailing 1 6)),
  .seq (sign ':') (.alt (trailing 1 7) (sign ':')),
  zoned,
  Pattern.sequence [sign ':', sign ':',
    .repeated 0 (some 1) (Pattern.sequence [sign 'f', sign 'f', sign 'f', sign 'f',
      .repeated 0 (some 1) (.seq (sign ':') (.repeated 1 (some 4) (sign '0'))), sign ':']),
    octets, octet],
  Pattern.sequence [leading 1 4, sign ':', octets, octet]]

/-- What the texts of the rule-set are read as. -/
theorem read?_ipv6 :
    Pattern.read? "^[0-9a-fA-F:.\\[\\]]+$".toList = some (allOf addressSigns) ∧
    Pattern.read? (Presets.whole Presets.ipv6Shape).toList =
      some (Pattern.sequence [.look .textStart, choice inFull otherForms, .look .textEnd]) := by
  simp only [Presets.whole, Presets.ipv6Shape, Presets.ipv6Forms, Presets.ipv6Leading, Presets.ipv6Trailing,
    Presets.ipv6Group, Presets.ipv6Quad, Presets.ipv6Octet, Presets.counted, String.toList_append,
    String.toList_intercalate, List.map_cons, List.map_nil]
  repeat rewrite [String.toList_ofList]
  decide +kernel

/-! ## 2. Zones -/

/-- A colon and up to four hexadecimal figures. -/
def IsShortGroup (w : List Char) : Prop :=
  ∃ g, w = ':' :: g ∧ g.length ≤ 4 ∧
    ∀ c ∈ g, c.isDigit = true ∨ ('A' ≤ c ∧ c ≤ 'F') ∨ ('a' ≤ c ∧ c ≤ 'f')

/-- A link-local address with a zone: up to four groups, and figures and letters after a percent sign. -/
def IsScoped (w : List Char) : Prop :=
  ∃ (groups : List (List Char)) (zone : List Char),
    w = ['f', 'e', '8', '0', ':'] ++ (groups.flatten ++ '%' :: zone) ∧ groups.length ≤ 4 ∧
    (∀ g ∈ groups, IsShortGroup g) ∧ zone ≠ [] ∧ ∀ c ∈ zone, c.isAlphanum = true

section Zones

variable {c : Char} {w : List Char}

theorem contains_figures :
    figures.contains c = true ↔ c.isDigit = true ∨ ('A' ≤ c ∧ c ≤ 'F') ∨ ('a' ≤ c ∧ c ≤ 'f') := by
  rw [isDigit_iff_toNat]
  simp only [figures, CharSet.contains, CharSet.has, Span.contains, List.any_cons, List.any_nil,
    Bool.or_eq_true, Bool.and_eq_true, decide_eq_true_eq, Bool.false_eq_true, or_false]
  rfl

theorem contains_figuresLetters : figuresLetters.contains c = true ↔ c.isAlphanum = true := by
  have hdef : c.isAlphanum = (c.isUpper || c.isLower || c.isDigit) := rfl
  rw [hdef, Bool.or_eq_true, Bool.or_eq_true, Markup.isUpper_iff, Markup.isLower_iff, isDigit_iff_toNat,
    or_comm]
  simp only [figuresLetters, CharSet.contains, CharSet.has, Span.contains, List.any_cons, List.any_nil,
    Bool.or_eq_true, Bool.and_eq_true, decide_eq_true_eq, Bool.false_eq_true, or_false]
  rfl

theorem mem_language_sign_seq {q : Pattern} :
    w ∈ (Pattern.seq (sign c) q).language ↔ ∃ b, w = c :: b ∧ b ∈ q.language := by
  unfold sign
  rw [mem_language_char_seq]
  simp only [contains_single]
  constructor
  · rintro ⟨_, b, rfl, rfl, hb⟩
    exact ⟨b, rfl, hb⟩
  · rintro ⟨b, rfl, hb⟩
    exact ⟨c, b, rfl, rfl, hb⟩

theorem mem_shortGroup_iff :
    w ∈ (Pattern.seq (sign ':') (.repeated 0 (some 4) (.char figures))).language ↔ IsShortGroup w := by
  rw [mem_language_sign_seq]
  simp only [mem_language_char_repeated, contains_figures, Nat.zero_le, true_and, Option.mem_some_iff,
    forall_eq']
  rfl

theorem mem_zone_iff : w ∈ (Pattern.seq (sign '%') (.repeated 1 none (.char figuresLetters))).language ↔
    ∃ zone, w = '%' :: zone ∧ zone ≠ [] ∧ ∀ c ∈ zone, c.isAlphanum = true := by
  rw [mem_language_sign_seq]
  simp only [mem_language_char_repeated, contains_figuresLetters, Nat.one_le_iff_ne_zero, Ne,
    List.length_eq_zero_iff, Option.not_mem_none, false_imp_iff, implies_true, true_and]

theorem mem_zoned_iff : w ∈ zoned.language ↔ IsScoped w := by
  unfold zoned
  simp only [Pattern.sequence, mem_language_sign_seq]
  constructor
  · rintro ⟨_, rfl, _, rfl, _, rfl, _, rfl, _, rfl, h⟩
    obtain ⟨_, _, rfl, hgroups, hzone⟩ := mem_language_seq.mp h
    obtain ⟨groups, rfl, _, hfour, hgroups⟩ := mem_language_repeated_iff_parts.mp hgroups
    obtain ⟨zone, rfl, hsome, hzone⟩ := mem_zone_iff.mp hzone
    exact ⟨groups, zone, rfl, hfour 4 rfl, fun g hg => mem_shortGroup_iff.mp (hgroups g hg), hsome, hzone⟩
  · rintro ⟨groups, zone, rfl, hfour, hgroups, hzone⟩
    refine ⟨_, rfl, _, rfl, _, rfl, _, rfl, _, rfl,
      mem_language_seq.mpr ⟨groups.flatten, '%' :: zone, rfl, ?_, ?_⟩⟩
    · exact mem_language_repeated_iff_parts.mpr ⟨groups, rfl, Nat.zero_le _, by simpa using hfour,
        fun g hg => mem_shortGroup_iff.mpr (hgroups g hg)⟩
    · exact mem_zone_iff.mpr ⟨zone, rfl, hzone⟩

/-- The first rule does not let the percent sign pass. -/
theorem IsScoped.notMem_addressSigns (h : IsScoped w) : ¬ ∀ c ∈ w, addressSigns.contains c = true := by
  obtain ⟨groups, zone, rfl, _⟩ := h
  exact fun hsigns => absurd (hsigns '%' (by simp)) (by decide)

end Zones

/-! ## 3. Demands -/

section Demands

variable {severity : Severity} {value : String} {w : List Char}

/-- **The forms but one have only signs that the first rule lets pass.** -/
theorem signs_of_mem_forms (h : w ∈ (choice inFull otherForms).language) :
    IsScoped w ∨ ∀ c ∈ w, addressSigns.contains c = true := by
  have hsigns : ∀ form ∈ inFull :: otherForms, form = zoned ∨ form.hasOnly addressSigns = true := by
    decide
  obtain ⟨form, hform, hw⟩ := mem_language_choice.mp h
  rcases hsigns form hform with rfl | hsigns
  · exact .inl (mem_zoned_iff.mp hw)
  · exact .inr (forall_mem_of_hasOnly hsigns hw)

/-- Every form has a colon. -/
theorem colon_mem_of_mem_forms (h : w ∈ (choice inFull otherForms).language) : ':' ∈ w := by
  have hneeds : (choice inFull otherForms).needs (.single ':') = true := by decide
  obtain ⟨c, hc, hcolon⟩ := exists_mem_of_needs hneeds h
  rwa [contains_single.mp hcolon] at hc

theorem mem_forms_of_isScoped (h : IsScoped w) : w ∈ (choice inFull otherForms).language :=
  mem_language_choice.mpr ⟨zoned, by decide, mem_zoned_iff.mpr h⟩

theorem met_addressSigns : Demand.Met ⟨severity, true, "^[0-9a-fA-F:.\\[\\]]+$"⟩ value ↔
    value ≠ "" ∧ ∀ c ∈ value.toList, addressSigns.contains c = true :=
  met_allOf read?_ipv6.1

theorem met_ipv6Shape : Demand.Met ⟨severity, true, Presets.whole Presets.ipv6Shape⟩ value ↔
    value.toList ∈ (choice inFull otherForms).language :=
  (met_whole read?_ipv6.2 rfl).trans mem_language_textEnd

theorem met_otherThanIpv4 : Demand.Met ⟨severity, false, Presets.whole Presets.ipv4Address⟩ value ↔
    ¬ IsQuad value.toList := by
  have haddress := @met_ipv4Address severity value
  rw [met_iff read?_ipv4.2.1] at haddress
  rw [met_iff read?_ipv4.2.1, ← haddress, Bool.not_eq_true]

end Demands

/-! ## 4. Verdicts -/

/-- The verdict by the three rules. -/
theorem ipv6_verdict_by_rules :
    ∃ set, Presets.find? "ipv6_address" = some set ∧ ∀ value,
      ((evaluate [set] value).status = .good ↔
        (value ≠ "" ∧ ∀ c ∈ value.toList, addressSigns.contains c = true) ∧
          value.toList ∈ (choice inFull otherForms).language ∧ ¬ IsQuad value.toList) ∧
      ((evaluate [set] value).status = .error ↔
        ¬ (value ≠ "" ∧ ∀ c ∈ value.toList, addressSigns.contains c = true)) := by
  obtain ⟨sets, hsets, _, _, haddresses, _⟩ := Presets.gives_builtIn?
  obtain ⟨set, hfound, hverdict⟩ := haddresses.verdict hsets
  refine ⟨set, hfound, fun value => ?_⟩
  simpa only [List.forall_mem_cons, List.exists_mem_cons_iff, List.not_mem_nil, false_imp_iff, implies_true,
    and_true, false_and, exists_false, or_false, true_and, reduceCtorEq, met_addressSigns, met_ipv6Shape,
    met_otherThanIpv4] using hverdict value

/-- **The built-in rule-set for these addresses.** It finds good what has the shape, but for the addresses with
    a zone: these have the shape too, and their percent sign makes them an error. -/
theorem ipv6_verdict (value : String) :
    ∃ set, Presets.find? "ipv6_address" = some set ∧
      ((evaluate [set] value).status = .good ↔
        Demand.Met ⟨.warning, true, Presets.whole Presets.ipv6Shape⟩ value ∧ ¬ IsScoped value.toList) ∧
      (IsScoped value.toList →
        Demand.Met ⟨.warning, true, Presets.whole Presets.ipv6Shape⟩ value ∧
          (evaluate [set] value).status = .error) := by
  obtain ⟨set, hfound, hverdict⟩ := ipv6_verdict_by_rules
  obtain ⟨hgood, herror⟩ := hverdict value
  refine ⟨set, hfound, ?_⟩
  rw [hgood, herror, met_ipv6Shape]
  refine ⟨⟨?_, ?_⟩, fun hscoped => ⟨mem_forms_of_isScoped hscoped, fun hsigns => ?_⟩⟩
  · rintro ⟨⟨_, hsigns⟩, hform, _⟩
    exact ⟨hform, fun hscoped => hscoped.notMem_addressSigns hsigns⟩
  · -- the colon of each form keeps the third rule silent
    rintro ⟨hform, hscoped⟩
    have hcolon := colon_mem_of_mem_forms hform
    have hsigns := (signs_of_mem_forms hform).resolve_left hscoped
    refine ⟨⟨?_, hsigns⟩, hform, fun hquad => hquad.notMem (by decide) hcolon⟩
    rintro rfl
    exact List.not_mem_nil hcolon
  · exact hscoped.notMem_addressSigns hsigns.2

/-- An address of a network card has the shape and is an error. -/
theorem zone_is_refused :
    ¬ ∀ set, Presets.find? "ipv6_address" = some set → ∀ value,
      Demand.Met ⟨.warning, true, Presets.whole Presets.ipv6Shape⟩ value →
        (evaluate [set] value).status = .good := by
  intro hclaim
  obtain ⟨set, hfound, hverdict⟩ := ipv6_verdict_by_rules
  have hgroup : IsShortGroup [':', '1'] :=
    ⟨['1'], rfl, by decide, List.forall_mem_singleton.mpr (.inl rfl)⟩
  have hscoped : IsScoped "fe80::1%eth0".toList :=
    ⟨[[':', '1']], ['e', 't', 'h', '0'], rfl, by decide, List.forall_mem_singleton.mpr hgroup, by decide,
      List.all_eq_true.mp rfl⟩
  have hgood := hclaim set hfound _ (met_ipv6Shape.mpr (mem_forms_of_isScoped hscoped))
  exact hscoped.notMem_addressSigns ((hverdict _).1.mp hgood).1.2

end Placeholders.Validation
