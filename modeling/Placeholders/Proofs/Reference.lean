import Placeholders.Proofs.Text.Lexicon
import Placeholders.Reference

/-!
# References and their order

`Reference.expand` is given placeholders in some order, which matters where several of them share a token:
it stands for the last one. `expand_congr` says that nothing else matters but which of them the value
refers to.
-/

namespace Placeholders

open Placeholders.Text

/-- A value refers to a placeholder if one of its tokens occurs there. -/
theorem Placeholder.isReferencedIn_iff {p : Placeholder} {value : String} :
    p.isReferencedIn value = true ↔ ∃ c, (p.tokens.get c).literal.toList <:+: value.toList := by
  simp [isReferencedIn, Tokens.occurIn, Token.occursIn, Text.occursIn_iff, TokenClass.mem_all]

namespace Reference

/-- Placeholders that share a token have the same expanded value. -/
def Unambiguous (ps : List Placeholder) : Prop :=
  ∀ p ∈ ps, ∀ q ∈ ps, ∀ c d, (p.tokens.get c).literal = (q.tokens.get d).literal →
    p.expandedValue = q.expandedValue

theorem unambiguous_of_length_le_one {ps : List Placeholder} (h : ps.length ≤ 1) :
    Unambiguous ps := by
  intro p hp q hq c d _
  cases ps with
  | nil => exact absurd hp List.not_mem_nil
  | cons only rest =>
      obtain rfl : rest = [] := by simpa using h
      rw [List.mem_singleton.mp hp, List.mem_singleton.mp hq]

/-- The tokens of a placeholder with what they stand for. -/
def tokenEntries (p : Placeholder) : List (List Char × String) :=
  TokenClass.all.map fun c => ((p.tokens.get c).literal.toList, p.expandedValue)

theorem mem_tokenEntries {p : Placeholder} {e : List Char × String} :
    e ∈ tokenEntries p ↔ ∃ c, e = ((p.tokens.get c).literal.toList, p.expandedValue) := by
  simp only [tokenEntries, List.mem_map, TokenClass.mem_all, true_and, eq_comm]

theorem lexicon_eq_assignAll (ps : List Placeholder) :
    lexicon ps = Lexicon.assignAll [] (ps.flatMap tokenEntries) := by
  unfold lexicon Lexicon.assignAll
  rw [List.foldl_flatMap]
  rfl

theorem functional_lexicon (ps : List Placeholder) : (lexicon ps).Functional := by
  rw [lexicon_eq_assignAll]
  exact Lexicon.Functional.assignAll (fun e he => absurd he List.not_mem_nil) _

theorem Unambiguous.functional {ps : List Placeholder} (h : Unambiguous ps) :
    Lexicon.Functional (ps.flatMap tokenEntries) := by
  intro e he f hf heq
  obtain ⟨p, hp, hpe⟩ := List.mem_flatMap.mp he
  obtain ⟨q, hq, hqf⟩ := List.mem_flatMap.mp hf
  obtain ⟨c, rfl⟩ := mem_tokenEntries.mp hpe
  obtain ⟨d, rfl⟩ := mem_tokenEntries.mp hqf
  have hvalue := h p hp q hq c d (String.toList_inj.mp heq)
  rw [Prod.mk.injEq]
  exact ⟨heq, hvalue⟩

theorem Unambiguous.mem_lexicon {ps : List Placeholder} (h : Unambiguous ps)
    {e : List Char × String} : e ∈ lexicon ps ↔ ∃ p ∈ ps, e ∈ tokenEntries p := by
  rw [lexicon_eq_assignAll, Lexicon.mem_assignAll h.functional, List.nil_append, List.mem_flatMap]

/-- **Expanding a value depends on the placeholders only that it refers to**, and on their order only if
    two of them share a token and differ in value. -/
theorem expand_congr {ps qs : List Placeholder} (hps : Unambiguous ps) (hqs : Unambiguous qs)
    {value : String} (h : ∀ p : Placeholder, p.isReferencedIn value = true → (p ∈ ps ↔ p ∈ qs)) :
    expand ps value = expand qs value := by
  unfold expand
  rw [replaceAll_congr fun t ht => Lexicon.startOf?_congr_of_occurs (functional_lexicon ps)
    (functional_lexicon qs) (fun e he => ?_) ht]
  rw [hps.mem_lexicon, hqs.mem_lexicon]
  refine exists_congr fun p => and_congr_left fun hentry => ?_
  obtain ⟨c, rfl⟩ := mem_tokenEntries.mp hentry
  exact h p (Placeholder.isReferencedIn_iff.mpr ⟨c, he⟩)

/-- The order of references matters only if two of them share a token and differ in value. -/
theorem expand_perm {ps qs : List Placeholder} (hperm : ps.Perm qs) (h : Unambiguous ps)
    (value : String) : expand ps value = expand qs value :=
  expand_congr h (fun p hp q hq => h p (hperm.mem_iff.mpr hp) q (hperm.mem_iff.mpr hq))
    fun _ _ => hperm.mem_iff

/-- Placeholders that a value does not refer to play no part in expanding it. -/
theorem expand_filter {ps : List Placeholder} (h : Unambiguous ps) (value : String) :
    expand (ps.filter fun p => p.isReferencedIn value) value = expand ps value :=
  expand_congr (fun p hp q hq => h p (List.mem_filter.mp hp).1 q (List.mem_filter.mp hq).1) h
    fun _ hreferenced => List.mem_filter.trans (and_iff_left hreferenced)

end Reference

end Placeholders
