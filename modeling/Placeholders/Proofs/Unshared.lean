import Mathlib.Data.List.Nodup
import Placeholders.Proofs.Reference
import Placeholders.Proofs.Registry

/-!
# Tokens of one placeholder only

* A registry is `Unshared` if its tokens may be replaced, none is empty, and none is of two placeholders.
  One placeholder may write several classes of tokens alike.
* Standard tokens are told apart by their first character and the name between the affixes
  (`Unshared.of_standard`).
* In an unshared registry no two placeholders are confused where values refer to them
  (`Unshared.unambiguous`).
-/

namespace Placeholders

open Placeholders.Text

/-! ## 1. Unshared registries -/

namespace Registry

/-- Tokens may be replaced, none is empty, and none is of two placeholders. -/
structure Unshared (r : Registry) : Prop where
  isGlobal : ∀ p ∈ r.placeholders, ∀ c, (p.tokens.get c).isGlobal = true
  nonempty : ∀ p ∈ r.placeholders, ∀ c, (p.tokens.get c).literal ≠ ""
  apart : ∀ {i j : Nat} {p q : Placeholder}, r.placeholders[i]? = some p →
    r.placeholders[j]? = some q → ∀ c d,
      (p.tokens.get c).literal = (q.tokens.get d).literal → i = j

/-- All tokens are written with the standard affixes. -/
def StandardTokens (r : Registry) : Prop :=
  ∀ p ∈ r.placeholders, p.tokens = ({} : Settings).tokens p.name

instance (r : Registry) : Decidable r.StandardTokens :=
  inferInstanceAs (Decidable (∀ p ∈ r.placeholders, p.tokens = ({} : Settings).tokens p.name))

/-- A token of two placeholders is of one, which stands at two positions. -/
theorem Unshared.eq_of_literal_eq {r : Registry} (h : r.Unshared) {p q : Placeholder}
    (hp : p ∈ r.placeholders) (hq : q ∈ r.placeholders) {c d : TokenClass}
    (heq : (p.tokens.get c).literal = (q.tokens.get d).literal) : p = q := by
  obtain ⟨i, hi⟩ := List.mem_iff_getElem?.mp hp
  obtain ⟨j, hj⟩ := List.mem_iff_getElem?.mp hq
  obtain rfl := h.apart hi hj c d heq
  exact Option.some.inj (hi.symm.trans hj)

theorem Unshared.unambiguous {r : Registry} (h : r.Unshared) :
    Reference.Unambiguous r.placeholders := fun _ hp _ hq _ _ heq =>
  congrArg Placeholder.expandedValue (h.eq_of_literal_eq hp hq heq)

theorem Unshared.toList_ne_nil {r : Registry} (h : r.Unshared) {p : Placeholder}
    (hp : p ∈ r.placeholders) (c : TokenClass) : (p.tokens.get c).literal.toList ≠ [] := fun hnil =>
  h.nonempty p hp c (String.toList_eq_nil_iff.mp hnil)

end Registry

/-! ## 2. Standard tokens -/

/-- The character at both ends of a standard token. -/
def TokenClass.standardMark : TokenClass → Char
  | .normal => 'x'
  | .static => 's'
  | .html => 'i'
  | .dynamic => 'd'
  | .editable => 'e'

theorem TokenClass.standardMark_inj {c d : TokenClass} (h : c.standardMark = d.standardMark) :
    c = d := by
  cases c <;> cases d <;> first | rfl | exact absurd h (by decide)

/-- A standard token is the name between two marks. -/
theorem toList_literal_standard (name : String) (c : TokenClass) :
    ((({} : Settings).tokens name).get c).literal.toList =
      c.standardMark :: (name.toList ++ [c.standardMark]) := by
  have hboth : ∀ mark : String, (mark ++ name ++ mark).toList =
      mark.toList ++ (name.toList ++ mark.toList) := fun mark => by
    rw [String.toList_append, String.toList_append, List.append_assoc]
  simp only [Settings.tokens, Tokens.get_ofFunction, Token.ofAffixes]
  cases c <;> exact hboth _

/-- **Standard tokens tell class and name.** -/
theorem eq_of_literal_standard_eq {name other : String} {c d : TokenClass}
    (h : ((({} : Settings).tokens name).get c).literal = ((({} : Settings).tokens other).get d).literal) :
    c = d ∧ name = other := by
  have hchars := congrArg String.toList h
  rw [toList_literal_standard, toList_literal_standard] at hchars
  obtain ⟨hmark, hrest⟩ := List.cons.inj hchars
  obtain rfl := TokenClass.standardMark_inj hmark
  exact ⟨rfl, String.toList_inj.mp (List.append_cancel_right hrest)⟩

/-- **Standard tokens of distinct names are unshared.** -/
theorem Registry.Unshared.of_standard {r : Registry} (hnames : r.names.Nodup) (h : r.StandardTokens) :
    r.Unshared where
  isGlobal p hp c := by
    rw [h p hp, Settings.tokens, Tokens.get_ofFunction]
    rfl
  nonempty p hp c hempty := by
    have hchars := toList_literal_standard p.name c
    rw [← h p hp, hempty] at hchars
    cases hchars
  apart {i j p q} hi hj c d heq := by
    rw [h p (List.mem_of_getElem? hi), h q (List.mem_of_getElem? hj)] at heq
    have hname : r.names[i]? = r.names[j]? := by
      rw [Registry.names, List.getElem?_map, List.getElem?_map, hi, hj]
      exact congrArg some (eq_of_literal_standard_eq heq).2
    have hlt : i < r.names.length := by
      rw [Registry.names, List.length_map]
      exact (List.getElem?_eq_some_iff.mp hi).1
    exact (List.getElem?_inj hlt hnames).mp hname

end Placeholders
