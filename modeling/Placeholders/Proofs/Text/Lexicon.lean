import Mathlib.Data.List.Infix
import Placeholders.Text.Cut

/-!
# What a lexicon finds

Cutting looks at a lexicon through `startOf?` only, which answers the longest literal that a text starts
with.

* A lexicon is `Functional` if each literal stands for one thing. Then the answer depends on nothing but
  which entries there are, and neither does a cut text.
* A lexicon made by `assign` is functional. It has all pairs that it was made of as long as no literal
  stands for two things in them.
-/

namespace Placeholders.Text

variable {α β : Type}

namespace Lexicon

/-! ## 1. The longest literal -/

/-- A literal stands for one thing only. -/
def Functional (lexicon : Lexicon α) : Prop :=
  ∀ e ∈ lexicon, ∀ f ∈ lexicon, e.1 = f.1 → e = f

/-- The first entry is found if its literal starts the text and no entry after it is found that is
    longer. -/
theorem startOf?_cons (entry : List Char × α) (rest : Lexicon α) (s : List Char) :
    startOf? (entry :: rest) s =
      if entry.1 <+: s ∧ ∀ best, startOf? rest s = some best → best.1.length ≤ entry.1.length
      then some entry else startOf? rest s := by
  rw [startOf?]
  cases startOf? rest s with
  | none => simp [List.isPrefixOf_iff_prefix]
  | some best => simp [List.isPrefixOf_iff_prefix]

theorem startOf?_eq_none_iff {lexicon : Lexicon α} {s : List Char} :
    lexicon.startOf? s = none ↔ ∀ e ∈ lexicon, ¬ e.1 <+: s := by
  induction lexicon with
  | nil => simp [startOf?]
  | cons entry rest ih =>
      rw [startOf?_cons, List.forall_mem_cons]
      by_cases hfront : entry.1 <+: s
      · refine iff_of_false (fun h => ?_) fun h => h.1 hfront
        split at h
        · cases h
        · rename_i hwins
          simp [hfront, h] at hwins
      · rw [if_neg fun h => hfront h.1, ih]
        exact (and_iff_right hfront).symm

/-- **What is found is an entry, its literal starts the text, and no longer one does.** -/
theorem startOf?_spec {lexicon : Lexicon α} {s : List Char} {e : List Char × α}
    (h : lexicon.startOf? s = some e) :
    e ∈ lexicon ∧ e.1 <+: s ∧ ∀ f ∈ lexicon, f.1 <+: s → f.1.length ≤ e.1.length := by
  induction lexicon generalizing e with
  | nil => simp [startOf?] at h
  | cons entry rest ih =>
      rw [startOf?_cons] at h
      split at h
      · rename_i hwins
        cases h
        refine ⟨List.mem_cons_self, hwins.1, List.forall_mem_cons.mpr ⟨fun _ => Nat.le_refl _, ?_⟩⟩
        intro f hf hs
        cases hrest : startOf? rest s with
        | none => exact absurd hs (startOf?_eq_none_iff.mp hrest f hf)
        | some best => exact ((ih hrest).2.2 f hf hs).trans (hwins.2 best hrest)
      · rename_i hloses
        obtain ⟨hmem, hfront, hlongest⟩ := ih h
        refine ⟨List.mem_cons_of_mem _ hmem, hfront, List.forall_mem_cons.mpr ⟨fun hs => ?_, hlongest⟩⟩
        refine Nat.le_of_not_le fun hle => hloses ⟨hs, fun best hbest => ?_⟩
        rw [h] at hbest
        cases hbest
        exact hle

/-- Two prefixes of one text that are equally long are equal. -/
theorem eq_of_prefix_of_length_eq {a b s : List Char} (ha : a <+: s) (hb : b <+: s)
    (h : a.length = b.length) : a = b :=
  (List.prefix_of_prefix_length_le ha hb h.le).eq_of_length h

/-- What a functional lexicon finds is the only entry of its kind. -/
theorem startOf?_eq_some_iff {lexicon : Lexicon α} (hlexicon : lexicon.Functional) {s : List Char}
    {e : List Char × α} :
    lexicon.startOf? s = some e ↔
      e ∈ lexicon ∧ e.1 <+: s ∧ ∀ f ∈ lexicon, f.1 <+: s → f.1.length ≤ e.1.length := by
  refine ⟨startOf?_spec, fun ⟨hmem, hfront, hlongest⟩ => ?_⟩
  cases hfound : lexicon.startOf? s with
  | none => exact absurd hfront (startOf?_eq_none_iff.mp hfound e hmem)
  | some f =>
      obtain ⟨hmem', hfront', hlongest'⟩ := startOf?_spec hfound
      have hlength := (hlongest' e hmem hfront).antisymm (hlongest f hmem' hfront')
      rw [hlexicon f hmem' e hmem (eq_of_prefix_of_length_eq hfront' hfront hlength.symm)]

/-- Functional lexicons find the same in a text if they have the same entries among the literals that
    occur in it. -/
theorem startOf?_congr_of_occurs {l k : Lexicon α} (hl : l.Functional) (hk : k.Functional)
    {s : List Char} (h : ∀ e : List Char × α, e.1 <:+: s → (e ∈ l ↔ e ∈ k)) {t : List Char}
    (ht : t <:+ s) : l.startOf? t = k.startOf? t := by
  have hoccurs : ∀ {u : List Char}, u <+: t → u <:+: s := fun hu => hu.isInfix.trans ht.isInfix
  apply Option.ext
  intro e
  rw [startOf?_eq_some_iff hl, startOf?_eq_some_iff hk]
  constructor
  · rintro ⟨hmem, hfront, hlongest⟩
    exact ⟨(h e (hoccurs hfront)).mp hmem, hfront, fun f hf hft =>
      hlongest f ((h f (hoccurs hft)).mpr hf) hft⟩
  · rintro ⟨hmem, hfront, hlongest⟩
    exact ⟨(h e (hoccurs hfront)).mpr hmem, hfront, fun f hf hft =>
      hlongest f ((h f (hoccurs hft)).mp hf) hft⟩

/-- Functional lexicons with the same entries find the same. -/
theorem startOf?_congr {l k : Lexicon α} (hl : l.Functional) (h : ∀ e, e ∈ l ↔ e ∈ k)
    (s : List Char) : l.startOf? s = k.startOf? s := by
  have hk : k.Functional := fun e he f hf => hl e ((h e).mpr he) f ((h f).mpr hf)
  exact startOf?_congr_of_occurs hl hk (fun e _ => h e) List.suffix_rfl

/-! ## 2. Assigning -/

theorem mem_assign {lexicon : Lexicon α} {literal : List Char} {target : α} {e : List Char × α} :
    e ∈ lexicon.assign literal target ↔ (e ∈ lexicon ∧ e.1 ≠ literal) ∨ e = (literal, target) := by
  simp [assign]

theorem Functional.assign {lexicon : Lexicon α} (h : lexicon.Functional) (literal : List Char)
    (target : α) : (lexicon.assign literal target).Functional := by
  intro e he f hf heq
  rcases mem_assign.mp he with ⟨he, hne⟩ | rfl <;> rcases mem_assign.mp hf with ⟨hf, hnf⟩ | rfl
  · exact h e he f hf heq
  · exact absurd heq hne
  · exact absurd heq.symm hnf
  · rfl

/-- Assigns one pair after the other. -/
def assignAll (lexicon : Lexicon α) (pairs : List (List Char × α)) : Lexicon α :=
  pairs.foldl (fun lexicon e => lexicon.assign e.1 e.2) lexicon

theorem Functional.assignAll {lexicon : Lexicon α} (h : lexicon.Functional)
    (pairs : List (List Char × α)) : (lexicon.assignAll pairs).Functional := by
  induction pairs generalizing lexicon with
  | nil => exact h
  | cons e pairs ih => exact ih (h.assign e.1 e.2)

/-- **Nothing is forgotten as long as no literal stands for two things**, whatever adds the pairs. -/
theorem mem_foldl_of_functional {add : Lexicon α → List Char × α → Lexicon α}
    (hadd : ∀ (lexicon : Lexicon α) pair, Functional (lexicon ++ [pair]) →
      ∀ e, e ∈ add lexicon pair ↔ e ∈ lexicon ∨ e = pair)
    {lexicon : Lexicon α} {pairs : List (List Char × α)} (h : Functional (lexicon ++ pairs))
    {e : List Char × α} : e ∈ pairs.foldl add lexicon ↔ e ∈ lexicon ++ pairs := by
  induction pairs generalizing lexicon with
  | nil => simp
  | cons pair pairs ih =>
      have hfirst : Functional (lexicon ++ [pair]) := by
        rw [List.append_cons] at h
        exact fun f hf g hg => h f (List.mem_append_left pairs hf) g (List.mem_append_left pairs hg)
      have hmem : ∀ f, f ∈ add lexicon pair ++ pairs ↔ f ∈ lexicon ++ pair :: pairs := by
        intro f
        simp only [List.mem_append, hadd lexicon pair hfirst, List.mem_cons, or_assoc]
      have hnext : Functional (add lexicon pair ++ pairs) := fun f hf g hg =>
        h f ((hmem f).mp hf) g ((hmem g).mp hg)
      exact (ih hnext).trans (hmem e)

theorem mem_assignAll {lexicon : Lexicon α} {pairs : List (List Char × α)}
    (h : Functional (lexicon ++ pairs)) {e : List Char × α} :
    e ∈ lexicon.assignAll pairs ↔ e ∈ lexicon ++ pairs := by
  refine mem_foldl_of_functional (fun lexicon pair hfirst e => ?_) h
  rw [mem_assign]
  by_cases he : e.1 = pair.1
  · constructor
    · exact fun hmem => .inr (hmem.resolve_left fun hne => hne.2 he)
    · rintro (hmem | rfl)
      · exact .inr (hfirst e (List.mem_append_left _ hmem) pair (by simp) he)
      · exact .inr rfl
  · exact or_congr_left (and_iff_left he)

end Lexicon

/-! ## 3. Cutting -/

/-- Lexicons cut a text alike if they find the same at the start of each of its ends. -/
theorem cutFrom_congr {l k : Lexicon α} {s : List Char}
    (h : ∀ t, t <:+ s → l.startOf? t = k.startOf? t) (skip : Nat) (ended : Bool) :
    cutFrom l skip ended s = cutFrom k skip ended s := by
  induction s generalizing skip ended with
  | nil => cases skip <;> simp only [cutFrom, h [] List.suffix_rfl]
  | cons c s ih =>
      have hrest := ih fun t ht => h t (ht.trans (List.suffix_cons c s))
      cases skip <;> simp only [cutFrom, h _ List.suffix_rfl, hrest]

theorem replaceAll_congr {l k : Lexicon α} {s : List Char}
    (h : ∀ t, t <:+ s → l.startOf? t = k.startOf? t) (value : α → List Char) :
    replaceAll l value s = replaceAll k value s := by
  unfold replaceAll cut
  rw [cutFrom_congr h]

end Placeholders.Text
