import Mathlib.Data.List.DropRight
import Placeholders.Text.Blank

/-!
# What trimming leaves alone

* A text without blanks is trimmed already, and so is one that has been trimmed (`trim_trim`).
* What ends in no blank is not trimmed at its end, whatever stands before it, and blanks around a text do
  not matter (`trim_dropWhile`, `trim_trimEnd`).
-/

namespace Placeholders.Text

theorem dropWhile_eq_self {p : Char → Bool} {s : List Char} (h : ∀ c ∈ s, p c = false) :
    s.dropWhile p = s := by
  cases s with
  | nil => rfl
  | cons c s => exact List.dropWhile_cons_of_neg (by simp [h c List.mem_cons_self])

theorem trim_eq_self {s : List Char} (h : ∀ c ∈ s, isBlank c = false) : trim s = s := by
  have hreverse : ∀ c ∈ s.reverse, isBlank c = false := fun c hc => h c (List.mem_reverse.mp hc)
  rw [trim, trimEnd, dropWhile_eq_self h, dropWhile_eq_self hreverse, List.reverse_reverse]

theorem prefix_trimEnd (s : List Char) : trimEnd s <+: s := List.rdropWhile_prefix isBlank s

theorem trim_subset (s : List Char) : trim s ⊆ s :=
  List.Subset.trans (prefix_trimEnd _).subset (List.dropWhile_suffix isBlank).subset

/-- Nothing is left of blanks only. -/
theorem isBlank_of_trim_eq_nil {s : List Char} (h : trim s = []) : ∀ c ∈ s, isBlank c = true := by
  refine List.dropWhile_eq_nil_iff.mp ?_
  cases hdrop : s.dropWhile isBlank with
  | nil => rfl
  | cons c rest =>
      have hc : isBlank c = false := by simpa [hdrop] using List.head?_dropWhile_not isBlank s
      rw [trim, hdrop] at h
      have hblank : isBlank c = true := List.rdropWhile_eq_nil_iff.mp h c List.mem_cons_self
      rw [hc] at hblank
      cases hblank

/-- The first character left is one that stood there, and no blank, so that nothing is cut off again. -/
theorem trim_trim (s : List Char) : trim (trim s) = trim s := by
  have hstart : (trim s).dropWhile isBlank = trim s := by
    cases htrim : trim s with
    | nil => rfl
    | cons c t =>
        obtain ⟨u, hu⟩ := prefix_trimEnd (s.dropWhile isBlank)
        rw [show trimEnd (s.dropWhile isBlank) = c :: t from htrim, List.cons_append] at hu
        have hc := List.head?_dropWhile_not isBlank s
        rw [← hu, List.head?_cons] at hc
        exact List.dropWhile_cons_of_neg (by simpa using hc)
  rw [show trim (trim s) = trimEnd ((trim s).dropWhile isBlank) from rfl, hstart]
  exact List.rdropWhile_idempotent isBlank _

/-- A trimmed text ends in no blank. -/
theorem trimEnd_of_trim {s : List Char} (h : trim s = s) : trimEnd s = s := by
  have hend : (trimEnd (s.dropWhile isBlank)).length ≤ (s.dropWhile isBlank).length := by
    have := (List.dropWhile_sublist isBlank (l := (s.dropWhile isBlank).reverse)).length_le
    simpa [trimEnd] using this
  have hstart : s.dropWhile isBlank = s := by
    refine (List.dropWhile_suffix isBlank).eq_of_length
      (Nat.le_antisymm (List.dropWhile_sublist isBlank).length_le ?_)
    calc s.length = (trim s).length := by rw [h]
      _ ≤ (s.dropWhile isBlank).length := hend
  rwa [trim, hstart] at h

/-- Only blanks are cut off at the end, so that what stands before a text is reached after it. -/
theorem trimEnd_append_eq (front s : List Char) :
    trimEnd (front ++ s) = if trimEnd s = [] then trimEnd front else front ++ trimEnd s := by
  unfold trimEnd
  rw [List.reverse_append, List.dropWhile_append]
  by_cases hempty : s.reverse.dropWhile isBlank = []
  · simp [hempty]
  · simp [hempty]

/-- What is before a text that ends in no blank is not trimmed at its end. -/
theorem trimEnd_append {s : List Char} (hs : trimEnd s = s) (hne : s ≠ []) (front : List Char) :
    trimEnd (front ++ s) = front ++ s := by
  rw [trimEnd_append_eq, hs, if_neg hne]

theorem trimEnd_eq_nil {s : List Char} (h : ∀ c ∈ s, isBlank c = true) : trimEnd s = [] :=
  List.rdropWhile_eq_nil_iff.mpr h

/-- Blanks before a text do not matter. -/
theorem trim_dropWhile (s : List Char) : trim (s.dropWhile isBlank) = trim s := by
  rw [trim, trim, List.dropWhile_idempotent]

/-- Blanks after a text do not matter. -/
theorem trim_trimEnd (s : List Char) : trim (trimEnd s) = trim s := by
  have hsplit : trimEnd s ++ s.rtakeWhile isBlank = s := List.rdropWhile_append_rtakeWhile
  have hblank : ∀ c ∈ s.rtakeWhile isBlank, isBlank c = true := fun c hc => List.mem_rtakeWhile_imp hc
  conv_rhs => rw [← hsplit, trim, List.dropWhile_append]
  rw [trim]
  split
  · rename_i hempty
    rw [List.isEmpty_iff.mp hempty, List.dropWhile_eq_nil_iff.mpr hblank]
  · rw [trimEnd_append_eq, if_pos (trimEnd_eq_nil hblank)]

end Placeholders.Text
