import Placeholders.Proofs.Pattern.Language

/-!
# The signs of what a pattern matches

Two questions about the texts of a pattern that its form alone answers, without a look at any text.

* `hasOnly` asks whether their signs are all of a set, and `needs` whether each of them has one.
* Both go by the parts of a pattern, and so does what they are worth: `forall_mem_of_hasOnly` and
  `exists_mem_of_needs`.
-/

namespace Placeholders

/-! ## 1. Sets in sets -/

/-- Each span of the first set lies in one of the second. -/
def Text.CharSet.within (a b : Text.CharSet) : Bool :=
  a.spans.all fun s => b.spans.any fun t => decide (t.first ≤ s.first) && decide (s.last ≤ t.last)

theorem Text.CharSet.contains_of_within {a b : Text.CharSet} {c : Char} (h : a.within b = true)
    (hc : a.contains c = true) : b.contains c = true := by
  obtain ⟨s, hs, hcs⟩ := List.any_eq_true.mp hc
  obtain ⟨t, ht, hst⟩ := List.any_eq_true.mp (List.all_eq_true.mp h s hs)
  refine List.any_eq_true.mpr ⟨t, ht, ?_⟩
  simp only [Text.Span.contains, Bool.and_eq_true, decide_eq_true_eq] at hcs hst ⊢
  omega

namespace Pattern

open Placeholders.Text (CharSet)

/-! ## 2. Several texts, several patterns -/

variable {p : Pattern} {w : List Char}

/-- Something repeated, part by part. -/
theorem mem_language_repeated_iff_parts {least : Nat} {most : Option Nat} :
    w ∈ (repeated least most p).language ↔
      ∃ parts : List (List Char), w = parts.flatten ∧ least ≤ parts.length ∧
        (∀ bound ∈ most, parts.length ≤ bound) ∧ ∀ part ∈ parts, part ∈ p.language := by
  rw [mem_language_repeated]
  simp only [Language.mem_pow]
  constructor
  · rintro ⟨_, hleast, hmost, parts, rfl, rfl, hparts⟩
    exact ⟨parts, rfl, hleast, hmost, hparts⟩
  · rintro ⟨parts, rfl, hleast, hmost, hparts⟩
    exact ⟨parts.length, hleast, hmost, parts, rfl, rfl, hparts⟩

theorem mem_language_choice {others : List Pattern} :
    w ∈ (choice p others).language ↔ ∃ q ∈ p :: others, w ∈ q.language := by
  induction others generalizing p with
  | nil => simp [choice]
  | cons q others ih => rw [choice, mem_language_alt, ih, List.exists_mem_cons_iff _ p]

/-! ## 3. Signs -/

/-- Nothing but signs of the set can be matched. -/
def hasOnly (set : CharSet) : Pattern → Bool
  | .empty | .look _ => true
  | .char own => own.within set
  | .seq first second | .alt first second => first.hasOnly set && second.hasOnly set
  | .repeated _ _ body => body.hasOnly set

/-- Nothing can be matched without a sign of the set. -/
def needs (set : CharSet) : Pattern → Bool
  | .empty | .look _ => false
  | .char own => own.within set
  | .seq first second => first.needs set || second.needs set
  | .alt left right => left.needs set && right.needs set
  | .repeated least _ body => decide (0 < least) && body.needs set

variable {set : CharSet}

theorem forall_mem_of_hasOnly (hp : p.hasOnly set = true) (hw : w ∈ p.language) :
    ∀ c ∈ w, set.contains c = true := by
  induction p generalizing w with
  | empty | look assertion =>
      obtain rfl : w = [] := hw
      exact List.forall_mem_nil _
  | char own =>
      obtain ⟨c, rfl, hc⟩ := hw
      exact List.forall_mem_singleton.mpr (CharSet.contains_of_within hp hc)
  | seq first second ih₁ ih₂ =>
      obtain ⟨hfirst, hsecond⟩ := Bool.and_eq_true_iff.mp hp
      obtain ⟨a, b, rfl, ha, hb⟩ := mem_language_seq.mp hw
      exact List.forall_mem_append.mpr ⟨ih₁ hfirst ha, ih₂ hsecond hb⟩
  | alt left right ih₁ ih₂ =>
      obtain ⟨hleft, hright⟩ := Bool.and_eq_true_iff.mp hp
      exact (mem_language_alt.mp hw).elim (ih₁ hleft) (ih₂ hright)
  | repeated least most body ih =>
      obtain ⟨parts, rfl, _, _, hparts⟩ := mem_language_repeated_iff_parts.mp hw
      intro c hc
      obtain ⟨part, hpart, hcpart⟩ := List.mem_flatten.mp hc
      exact ih hp (hparts part hpart) c hcpart

theorem exists_mem_of_needs (hp : p.needs set = true) (hw : w ∈ p.language) :
    ∃ c ∈ w, set.contains c = true := by
  induction p generalizing w with
  | empty | look assertion => exact nomatch hp
  | char own =>
      obtain ⟨c, rfl, hc⟩ := hw
      exact ⟨c, List.mem_singleton_self c, CharSet.contains_of_within hp hc⟩
  | seq first second ih₁ ih₂ =>
      obtain ⟨a, b, rfl, ha, hb⟩ := mem_language_seq.mp hw
      rcases Bool.or_eq_true_iff.mp hp with hfirst | hsecond
      · obtain ⟨c, hc, hset⟩ := ih₁ hfirst ha
        exact ⟨c, List.mem_append_left b hc, hset⟩
      · obtain ⟨c, hc, hset⟩ := ih₂ hsecond hb
        exact ⟨c, List.mem_append_right a hc, hset⟩
  | alt left right ih₁ ih₂ =>
      obtain ⟨hleft, hright⟩ := Bool.and_eq_true_iff.mp hp
      exact (mem_language_alt.mp hw).elim (ih₁ hleft) (ih₂ hright)
  | repeated least most body ih =>
      obtain ⟨hleast, hbody⟩ := Bool.and_eq_true_iff.mp hp
      obtain ⟨parts, rfl, hsome, _, hparts⟩ := mem_language_repeated_iff_parts.mp hw
      -- one part is there, and that has the sign
      obtain ⟨part, hpart⟩ :=
        List.exists_mem_of_length_pos (Nat.lt_of_lt_of_le (of_decide_eq_true hleast) hsome)
      obtain ⟨c, hc, hset⟩ := ih hbody (hparts part hpart)
      exact ⟨c, List.mem_flatten.mpr ⟨part, hpart, hc⟩, hset⟩

end Pattern

end Placeholders
