import Mathlib.Data.List.Infix
import Placeholders.Markup.Tree
import Placeholders.Proofs.Text.Trimming

/-!
# Delimiters

Every piece of markup is ended by a delimiter. Read back, it ends at the delimiter that was written after
it, because that is the first one there.

* A marker without a border cannot begin inside the text before it and end inside itself, so that only
  the text has to be looked at: `cutAt?_append` and `cutBefore_append`.
* What is escaped does not hold the delimiter of its place, and reads as what it was written for,
  whatever follows it (`decode_escapeText_append`).
-/

namespace Placeholders.Markup

open Placeholders.Text

/-! ## 1. Markers -/

/-- No end of a marker is its beginning, apart from the whole. -/
def Unbordered (marker : List Char) : Prop :=
  ∀ n < marker.length, 0 < n → ¬ marker.drop n <+: marker

instance (marker : List Char) : Decidable (Unbordered marker) :=
  inferInstanceAs (Decidable (∀ n < marker.length, 0 < n → ¬ marker.drop n <+: marker))

/-- A marker that begins in the text before it stands in that text. -/
theorem not_isPrefix_append {marker body : List Char} (hmarker : Unbordered marker)
    (hbody : ¬ marker <:+: body) (hne : body ≠ []) (rest : List Char) :
    ¬ marker <+: body ++ (marker ++ rest) := by
  intro h
  by_cases hle : marker.length ≤ body.length
  · exact hbody (List.prefix_of_prefix_length_le h (List.prefix_append ..) hle).isInfix
  · have hlt : body.length < marker.length := Nat.lt_of_not_le hle
    obtain ⟨tail, rfl⟩ : body <+: marker :=
      List.prefix_of_prefix_length_le (List.prefix_append ..) h hlt.le
    have htail : tail <+: body ++ tail := by
      rw [List.append_assoc body tail rest, List.prefix_append_right_inj,
        ← List.append_assoc] at h
      exact List.prefix_of_prefix_length_le h (List.prefix_append ..) (by simp)
    refine hmarker body.length hlt (List.length_pos_of_ne_nil hne) ?_
    rwa [List.drop_left]

/-- **What is before a marker is cut off as it is**, if the marker does not stand in it. -/
theorem cutAt?_append {marker body : List Char} (hmarker : Unbordered marker) (hne : marker ≠ [])
    (hbody : ¬ marker <:+: body) (rest : List Char) :
    cutAt? marker (body ++ (marker ++ rest)) = some (body, rest) := by
  induction body with
  | nil =>
      obtain ⟨c, m, rfl⟩ := List.exists_cons_of_ne_nil hne
      simp only [List.nil_append, List.cons_append, cutAt?]
      rw [if_pos (List.isPrefixOf_iff_prefix.mpr (by simp))]
      simp
  | cons c body ih =>
      have hnot : ¬ marker.isPrefixOf (c :: (body ++ (marker ++ rest))) = true := fun h =>
        not_isPrefix_append hmarker hbody (List.cons_ne_nil _ _) rest (List.isPrefixOf_iff_prefix.mp h)
      have hinner : ¬ marker <:+: body := fun h => hbody (h.trans (List.suffix_cons c body).isInfix)
      rw [List.cons_append, cutAt?, if_neg hnot, ih hinner]
      rfl

/-- Where a text is cut, the marker stands, and before it there is none. -/
theorem cutAt?_eq_some {marker s front rest : List Char} (hne : marker ≠ [])
    (h : cutAt? marker s = some (front, rest)) :
    s = front ++ (marker ++ rest) ∧ ¬ marker <:+: front := by
  induction s generalizing front with
  | nil => cases h
  | cons c s ih =>
      unfold cutAt? at h
      split at h
      · rename_i hstarts
        obtain ⟨m, marker, rfl⟩ := List.exists_cons_of_ne_nil hne
        obtain ⟨t, ht⟩ := List.isPrefixOf_iff_prefix.mp hstarts
        obtain ⟨rfl, rfl⟩ := List.cons.inj ht
        cases h
        exact ⟨by simp, by simp⟩
      · rename_i hstarts
        obtain ⟨⟨inner, after⟩, hcut, heq⟩ := Option.map_eq_some_iff.mp h
        cases heq
        obtain ⟨rfl, hinner⟩ := ih hcut
        refine ⟨rfl, fun hin => ?_⟩
        rcases List.infix_cons_iff.mp hin with hfirst | hin
        · refine hstarts (List.isPrefixOf_iff_prefix.mpr (hfirst.trans ?_))
          exact ⟨marker ++ rest, by simp⟩
        · exact hinner hin

theorem not_infix_of_cutAt?_eq_none {marker s : List Char} (hne : marker ≠ [])
    (h : cutAt? marker s = none) : ¬ marker <:+: s := by
  induction s with
  | nil => simpa using hne
  | cons c s ih =>
      unfold cutAt? at h
      split at h
      · cases h
      · rename_i hstarts
        intro hin
        rcases List.infix_cons_iff.mp hin with hfirst | hin
        · exact hstarts (List.isPrefixOf_iff_prefix.mpr hfirst)
        · exact ih (Option.map_eq_none_iff.mp h) hin

theorem not_infix_cutAt {marker : List Char} (hne : marker ≠ []) (s : List Char) :
    ¬ marker <:+: (cutAt marker s).1 := by
  unfold cutAt
  cases hcut : cutAt? marker s with
  | none => exact not_infix_of_cutAt?_eq_none hne hcut
  | some pair => exact (cutAt?_eq_some hne hcut).2

theorem cutAt_append {marker body : List Char} (hmarker : Unbordered marker) (hne : marker ≠ [])
    (hbody : ¬ marker <:+: body) (rest : List Char) :
    cutAt marker (body ++ (marker ++ rest)) = (body, rest) := by
  rw [cutAt, cutAt?_append hmarker hne hbody]
  rfl

/-- Like `cutAt?_append`, for a marker of a single character. -/
theorem cutAt?_singleton_append {c : Char} {body : List Char} (h : c ∉ body) (rest : List Char) :
    cutAt? [c] (body ++ c :: rest) = some (body, rest) := by
  refine cutAt?_append (fun n hn hpos => ?_) (List.cons_ne_nil _ _) ?_ rest
  · simp only [List.length_singleton] at hn
    omega
  · rwa [List.singleton_infix_iff]

theorem lower_append (s t : List Char) : lower (s ++ t) = lower s ++ lower t := List.map_append

theorem take_beq_iff {marker s : List Char} :
    ((s.take marker.length).map Char.toLower == marker) = true ↔ marker <+: lower s := by
  rw [beq_iff_eq, List.map_take, List.prefix_iff_eq_take, eq_comm, lower]

/-- **What is before a marker is cut off as it is**, if the marker does not stand in it with capital
    letters or small ones. -/
theorem cutBefore_append {marker body : List Char} (hmarker : Unbordered marker)
    (hlower : lower marker = marker) (hne : marker ≠ []) (hbody : ¬ marker <:+: lower body)
    (rest : List Char) : cutBefore marker (body ++ (marker ++ rest)) = (body, marker ++ rest) := by
  induction body with
  | nil =>
      obtain ⟨c, m, rfl⟩ := List.exists_cons_of_ne_nil hne
      simp only [List.nil_append, List.cons_append, cutBefore]
      rw [if_pos]
      rw [take_beq_iff, ← List.cons_append, lower_append, hlower]
      exact List.prefix_append ..
  | cons c body ih =>
      have hnot : ¬ ((c :: (body ++ (marker ++ rest))).take marker.length).map Char.toLower == marker := by
        rw [take_beq_iff, ← List.cons_append, lower_append, lower_append, hlower]
        exact not_isPrefix_append hmarker hbody (by simp [lower]) _
      have hinner : ¬ marker <:+: lower body := fun h =>
        hbody (h.trans (List.suffix_cons c.toLower (lower body)).isInfix)
      rw [List.cons_append, cutBefore, if_neg hnot, ih hinner]

/-- A text in which a marker stands is cut there, whatever follows it. -/
theorem exists_cutBefore_append {marker s : List Char} (hne : marker ≠ []) (h : marker <:+: lower s) :
    ∃ front back, s = front ++ back ∧ marker <+: lower back ∧
      ∀ rest, cutBefore marker (s ++ rest) = (front, back ++ rest) := by
  induction s with
  | nil => exact absurd (List.infix_nil.mp h) hne
  | cons c s ih =>
      by_cases hstarts : marker <+: lower (c :: s)
      · refine ⟨[], c :: s, rfl, hstarts, fun rest => ?_⟩
        rw [List.cons_append, cutBefore, if_pos]
        rw [take_beq_iff, ← List.cons_append, lower_append]
        exact hstarts.trans (List.prefix_append ..)
      · have hin : marker <:+: lower s := (List.infix_cons_iff.mp h).resolve_left hstarts
        obtain ⟨front, back, rfl, hback, hcut⟩ := ih hin
        refine ⟨c :: front, back, rfl, hback, fun rest => ?_⟩
        rw [List.cons_append, cutBefore, if_neg, hcut rest]
        -- there is room for the marker before what follows
        rw [take_beq_iff, ← List.cons_append, lower_append]
        intro hacross
        refine hstarts (List.prefix_of_prefix_length_le hacross (List.prefix_append ..) ?_)
        have hle := hin.length_le
        simp only [lower, List.length_map, List.length_cons] at hle ⊢
        omega

/-! ## 2. Escapes -/

/-- Reading undoes any way of writing that escapes ampersands, whatever is written behind it. -/
theorem decode_flatMap_append {f : Char → List Char}
    (h : ∀ c, f c = escapeChar c ∨ f c = [c] ∧ c ≠ '&') (s t : List Char) :
    decode (s.flatMap f ++ t) = s ++ decode t := by
  induction s with
  | nil => rfl
  | cons c s ih =>
      rw [List.flatMap_cons, List.append_assoc]
      rcases h c with hc | ⟨hc, hne⟩
      · rw [hc, decode_escapeChar_append, ih, List.cons_append]
      · rw [hc, List.singleton_append, decode, if_neg (by simpa using hne), ih, List.cons_append]

theorem decode_escapeText_append (s t : List Char) : decode (escapeText s ++ t) = s ++ decode t := by
  refine decode_flatMap_append (fun c => ?_) s t
  unfold escapeTextChar
  split
  · exact .inl rfl
  · rename_i hc
    exact .inr ⟨rfl, fun hamp => hc (by simp [hamp])⟩

theorem decode_escapeText (s : List Char) : decode (escapeText s) = s := by
  simpa [decode] using decode_escapeText_append s []

theorem decode_escapeAttribute (s : List Char) : decode (escapeAttribute s) = s := by
  have happend := decode_flatMap_append (f := escapeAttributeChar) (fun c => ?_) s []
  · simpa [decode, escapeAttribute] using happend
  · unfold escapeAttributeChar
    split
    · exact .inl rfl
    · rename_i hc
      exact .inr ⟨rfl, fun hamp => hc (by simp [hamp])⟩

theorem lt_not_mem_escapeText (s : List Char) : '<' ∉ escapeText s := by
  intro h
  obtain ⟨c, _, hc⟩ := List.mem_flatMap.mp h
  unfold escapeTextChar at hc
  split at hc
  · rename_i hspecial
    simp only [Bool.or_eq_true, beq_iff_eq] at hspecial
    rcases hspecial with (rfl | rfl) | rfl <;> exact absurd hc (by decide)
  · rename_i hplain
    exact hplain (by simp [← List.mem_singleton.mp hc])

theorem quote_not_mem_escapeAttribute (s : List Char) : '"' ∉ escapeAttribute s := by
  intro h
  obtain ⟨c, _, hc⟩ := List.mem_flatMap.mp h
  unfold escapeAttributeChar at hc
  split at hc
  · rename_i hspecial
    simp only [Bool.or_eq_true, beq_iff_eq] at hspecial
    rcases hspecial with rfl | rfl <;> exact absurd hc (by decide)
  · rename_i hplain
    exact hplain (by simp [← List.mem_singleton.mp hc])

theorem escapeChar_ne_nil (c : Char) : escapeChar c ≠ [] := by
  unfold escapeChar
  split <;> exact List.cons_ne_nil _ _

theorem escapeText_ne_nil {s : List Char} (h : s ≠ []) : escapeText s ≠ [] := by
  obtain ⟨c, s, rfl⟩ := List.exists_cons_of_ne_nil h
  rw [escapeText, List.flatMap_cons]
  refine List.append_ne_nil_of_left_ne_nil ?_ _
  unfold escapeTextChar
  split
  · exact escapeChar_ne_nil c
  · exact List.cons_ne_nil _ _

/-! ## 3. Classes of characters -/

/-- What is read of a class of characters ends at the first other one. -/
theorem takeWhile_append_cons {p : Char → Bool} {s : List Char} (h : ∀ c ∈ s, p c = true) {c : Char}
    (hc : p c = false) (rest : List Char) : (s ++ c :: rest).takeWhile p = s := by
  rw [List.takeWhile_append_of_pos h, List.takeWhile_cons_of_neg (by simp [hc]), List.append_nil]

theorem dropWhile_append_cons {p : Char → Bool} {s : List Char} (h : ∀ c ∈ s, p c = true) {c : Char}
    (hc : p c = false) (rest : List Char) : (s ++ c :: rest).dropWhile p = c :: rest := by
  rw [List.dropWhile_append_of_pos h, List.dropWhile_cons_of_neg (by simp [hc])]

theorem isLower_iff {c : Char} : c.isLower = true ↔ 97 ≤ c.val.toNat ∧ c.val.toNat ≤ 122 := by
  have hdef : c.isLower = (decide ('a'.val ≤ c.val) && decide (c.val ≤ 'z'.val)) := rfl
  rw [hdef, Bool.and_eq_true, decide_eq_true_iff, decide_eq_true_iff]
  rfl

theorem isUpper_iff {c : Char} : c.isUpper = true ↔ 65 ≤ c.val.toNat ∧ c.val.toNat ≤ 90 := by
  have hdef : c.isUpper = decide (c.val ≥ 'A'.val ∧ c.val ≤ 'Z'.val) := rfl
  rw [hdef, decide_eq_true_iff]
  rfl

theorem isUpper_of_isLower {c : Char} (h : c.isLower = true) : c.isUpper = false := by
  rw [isLower_iff] at h
  rw [← Bool.not_eq_true, isUpper_iff]
  omega

theorem toLower_cases (c : Char) :
    c.toLower = c ∧ c.isUpper = false ∨ c.toLower.isLower = true := by
  by_cases h : c.isUpper = true
  · right
    obtain ⟨hge, hle⟩ := isUpper_iff.mp h
    have hstep : ('a'.val - 'A'.val).toNat = 32 := rfl
    have hval : c.toLower.val.toNat = c.val.toNat + 32 := by
      unfold Char.toLower
      rw [dif_pos (of_decide_eq_true h), UInt32.toNat_add, hstep]
      omega
    rw [isLower_iff, hval]
    omega
  · exact .inl ⟨dif_neg fun hupper => h (decide_eq_true hupper), Bool.eq_false_iff.mpr h⟩

/-- What holds of the characters of a text and of small letters, holds of the text in small letters. -/
theorem forall_mem_lower {p : Char → Bool} (hp : ∀ c, c.isLower = true → p c = true) {s : List Char}
    (h : ∀ c ∈ s, p c = true) : ∀ c ∈ lower s, c.isUpper = false ∧ p c = true := by
  intro d hd
  obtain ⟨c, hc, rfl⟩ := List.mem_map.mp hd
  rcases toLower_cases c with ⟨heq, hupper⟩ | hlower
  · rw [heq]
    exact ⟨hupper, h c hc⟩
  · exact ⟨isUpper_of_isLower hlower, hp _ hlower⟩

/-- Only letters are changed. -/
theorem eq_of_toLower_eq {c d : Char} (hd : d.isLower = false) (h : c.toLower = d) : c = d := by
  rcases toLower_cases c with ⟨heq, _⟩ | hlower
  · exact heq.symm.trans h
  · rw [h, hd] at hlower
    cases hlower

/-- The beginning of a closing tag has no letters in it. -/
theorem exists_of_closing_isPrefix_lower {tag s : List Char} (h : '<' :: '/' :: tag <+: lower s) :
    ∃ more, s = '<' :: '/' :: more := by
  obtain ⟨rest, hrest⟩ := h
  obtain ⟨c, inner, rfl, hc, hinner⟩ := List.map_eq_cons_iff.mp hrest.symm
  obtain ⟨d, more, rfl, hd, _⟩ := List.map_eq_cons_iff.mp hinner
  rw [eq_of_toLower_eq (by decide) hc, eq_of_toLower_eq (by decide) hd]
  exact ⟨more, rfl⟩

/-- Without capital letters, a text is in small letters. -/
theorem lower_eq_self {s : List Char} (h : ∀ c ∈ s, c.isUpper = false) : lower s = s := by
  refine (List.map_congr_left fun c hc => ?_).trans (List.map_id s)
  exact dif_neg (of_decide_eq_false (h c hc))

end Placeholders.Markup
