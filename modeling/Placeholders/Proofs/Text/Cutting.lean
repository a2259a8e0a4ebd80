import Placeholders.Proofs.Text.Lexicon

/-!
# Cutting without empty literals

As long as no literal is empty, cutting is one step after the other: a character that no literal starts
at, or the longest literal.

* `cut_cons_of_none` and `cut_append_of_some` are the two steps, and `cut_induction` follows them.
* Nothing is lost (`flatMap_source_cut`), and no literal is missed (`not_infix_of_hits_eq_nil`).
* What literals stand for plays no part in where a text is cut (`cut_mapTargets`).
* The longest literal of a text is still the longest where the text is broken off later
  (`startOf?_of_prefix`).
-/

namespace Placeholders.Text

variable {α β : Type}

/-- No literal is empty. -/
def Lexicon.Proper (lexicon : Lexicon α) : Prop := ∀ e ∈ lexicon, e.1 ≠ []

/-! ## 1. Steps -/

theorem Lexicon.Proper.startOf?_nil {lexicon : Lexicon α} (h : lexicon.Proper) :
    lexicon.startOf? [] = none := by
  rw [Lexicon.startOf?_eq_none_iff]
  intro e he hfront
  exact h e he (List.prefix_nil.mp hfront)

/-- What is found starts the text and is not empty. -/
theorem Lexicon.Proper.exists_of_startOf? {lexicon : Lexicon α} (h : lexicon.Proper)
    {s literal : List Char} {target : α} (hfound : lexicon.startOf? s = some (literal, target)) :
    literal ≠ [] ∧ ∃ rest, s = literal ++ rest := by
  obtain ⟨hmem, ⟨rest, hrest⟩, _⟩ := Lexicon.startOf?_spec hfound
  exact ⟨h _ hmem, rest, hrest.symm⟩

/-- Without empty literals it does not matter whether a literal has just ended. -/
theorem Lexicon.Proper.cutFrom_eq_cut {lexicon : Lexicon α} (h : lexicon.Proper) (ended : Bool)
    (s : List Char) : cutFrom lexicon 0 ended s = cut lexicon s := by
  unfold cut
  cases s with
  | nil => simp [cutFrom, h.startOf?_nil]
  | cons c s =>
      simp only [cutFrom]
      cases hfound : lexicon.startOf? (c :: s) with
      | none => rfl
      | some e =>
          obtain ⟨literal, target⟩ := e
          cases literal with
          | nil => exact absurd rfl (h.exists_of_startOf? hfound).1
          | cons d rest => rfl

theorem Lexicon.Proper.cutFrom_skip {lexicon : Lexicon α} (h : lexicon.Proper) (front s : List Char) :
    cutFrom lexicon front.length true (front ++ s) = cut lexicon s := by
  induction front with
  | nil => exact h.cutFrom_eq_cut true s
  | cons c front ih => exact ih

theorem Lexicon.Proper.cut_nil {lexicon : Lexicon α} (h : lexicon.Proper) : cut lexicon [] = [] := by
  simp [cut, cutFrom, h.startOf?_nil]

theorem Lexicon.Proper.cut_cons_of_none {lexicon : Lexicon α} (h : lexicon.Proper) {c : Char}
    {s : List Char} (hnone : lexicon.startOf? (c :: s) = none) :
    cut lexicon (c :: s) = .plain c :: cut lexicon s := by
  rw [cut, cutFrom, hnone]
  simp only [h.cutFrom_eq_cut]

theorem Lexicon.Proper.cut_append_of_some {lexicon : Lexicon α} (h : lexicon.Proper)
    {literal s : List Char} {target : α}
    (hfound : lexicon.startOf? (literal ++ s) = some (literal, target)) :
    cut lexicon (literal ++ s) = .hit literal target :: cut lexicon s := by
  cases literal with
  | nil => exact absurd rfl (h.exists_of_startOf? hfound).1
  | cons d rest =>
      rw [List.cons_append] at hfound ⊢
      rw [cut, cutFrom, hfound]
      simp only [h.cutFrom_skip]

/-- Induction along the steps of cutting. -/
theorem Lexicon.Proper.cut_induction {lexicon : Lexicon α} (h : lexicon.Proper)
    {motive : List Char → Prop} (nil : motive [])
    (plain : ∀ c s, lexicon.startOf? (c :: s) = none → motive s → motive (c :: s))
    (hit : ∀ literal target s, lexicon.startOf? (literal ++ s) = some (literal, target) →
      motive s → motive (literal ++ s))
    (s : List Char) : motive s := by
  induction hlength : s.length using Nat.strong_induction_on generalizing s with
  | h n ih =>
      cases s with
      | nil => exact nil
      | cons c s =>
          cases hfound : lexicon.startOf? (c :: s) with
          | none => exact plain c s hfound (ih s.length (by simp [← hlength]) s rfl)
          | some e =>
              obtain ⟨literal, target⟩ := e
              obtain ⟨hne, rest, hrest⟩ := h.exists_of_startOf? hfound
              rw [hrest] at hfound hlength ⊢
              have hpos := List.length_pos_of_ne_nil hne
              rw [List.length_append] at hlength
              exact hit literal target rest hfound (ih rest.length (by omega) rest rfl)

theorem Lexicon.Proper.hits_nil {lexicon : Lexicon α} (h : lexicon.Proper) :
    hits lexicon [] = [] := by
  rw [hits, h.cut_nil]
  rfl

theorem Lexicon.Proper.hits_cons_of_none {lexicon : Lexicon α} (h : lexicon.Proper) {c : Char}
    {s : List Char} (hnone : lexicon.startOf? (c :: s) = none) :
    hits lexicon (c :: s) = hits lexicon s := by
  rw [hits, h.cut_cons_of_none hnone]
  rfl

theorem Lexicon.Proper.hits_append_of_some {lexicon : Lexicon α} (h : lexicon.Proper)
    {literal s : List Char} {target : α}
    (hfound : lexicon.startOf? (literal ++ s) = some (literal, target)) :
    hits lexicon (literal ++ s) = target :: hits lexicon s := by
  rw [hits, h.cut_append_of_some hfound]
  rfl

theorem Lexicon.Proper.replaceAll_nil {lexicon : Lexicon α} (h : lexicon.Proper)
    (value : α → List Char) : replaceAll lexicon value [] = [] := by
  rw [replaceAll, h.cut_nil]
  rfl

theorem Lexicon.Proper.replaceAll_cons_of_none {lexicon : Lexicon α} (h : lexicon.Proper) {c : Char}
    {s : List Char} (hnone : lexicon.startOf? (c :: s) = none) (value : α → List Char) :
    replaceAll lexicon value (c :: s) = c :: replaceAll lexicon value s := by
  rw [replaceAll, h.cut_cons_of_none hnone]
  rfl

/-- Where nothing is found nothing is replaced. -/
theorem Lexicon.Proper.replaceAll_eq_self {lexicon : Lexicon α} (h : lexicon.Proper) {s : List Char}
    (hnone : hits lexicon s = []) (value : α → List Char) : replaceAll lexicon value s = s := by
  induction s using h.cut_induction with
  | nil => exact h.replaceAll_nil value
  | plain c s hplain ih =>
      rw [h.hits_cons_of_none hplain] at hnone
      rw [h.replaceAll_cons_of_none hplain, ih hnone]
  | hit literal target s hfound =>
      rw [h.hits_append_of_some hfound] at hnone
      cases hnone

/-- **Cutting loses nothing**: the pieces are the text, one after the other. -/
theorem Lexicon.Proper.flatMap_source_cut {lexicon : Lexicon α} (h : lexicon.Proper) (s : List Char) :
    (cut lexicon s).flatMap Piece.source = s := by
  induction s using h.cut_induction with
  | nil => rw [h.cut_nil, List.flatMap_nil]
  | plain c s hnone ih =>
      rw [h.cut_cons_of_none hnone, List.flatMap_cons, ih]
      rfl
  | hit literal target s hfound ih =>
      rw [h.cut_append_of_some hfound, List.flatMap_cons, ih]
      rfl

/-- **Where nothing is found no literal occurs.** -/
theorem Lexicon.Proper.not_infix_of_hits_eq_nil {lexicon : Lexicon α} (h : lexicon.Proper)
    {s : List Char} (hnone : hits lexicon s = []) {e : List Char × α} (he : e ∈ lexicon) :
    ¬ e.1 <:+: s := by
  induction s using h.cut_induction with
  | nil => exact fun hoccurs => h e he (List.infix_nil.mp hoccurs)
  | plain c s hplain ih =>
      rw [h.hits_cons_of_none hplain] at hnone
      rw [List.infix_cons_iff, not_or]
      exact ⟨Lexicon.startOf?_eq_none_iff.mp hplain e he, ih hnone⟩
  | hit literal target s hfound =>
      rw [h.hits_append_of_some hfound] at hnone
      cases hnone

/-! ## 2. What literals stand for -/

/-- The same literals, standing for something else. -/
def Lexicon.mapTargets (f : α → β) (lexicon : Lexicon α) : Lexicon β :=
  lexicon.map fun e => (e.1, f e.2)

/-- The same piece, its literal standing for something else. -/
def Piece.map (f : α → β) : Piece α → Piece β
  | .plain c => .plain c
  | .hit literal target => .hit literal (f target)

theorem Lexicon.startOf?_mapTargets (f : α → β) (lexicon : Lexicon α) (s : List Char) :
    (lexicon.mapTargets f).startOf? s = (lexicon.startOf? s).map fun e => (e.1, f e.2) := by
  induction lexicon with
  | nil => rfl
  | cons entry rest ih =>
      rw [mapTargets, List.map_cons, startOf?_cons, startOf?_cons]
      change startOf? (rest.map fun e => (e.1, f e.2)) s = _ at ih
      rw [ih]
      split
      · rename_i hwins
        rw [if_pos ⟨hwins.1, fun best hbest => hwins.2 (best.1, f best.2) (by rw [hbest]; rfl)⟩]
        rfl
      · rename_i hloses
        rw [if_neg fun hwins => hloses ⟨hwins.1, fun best hbest => ?_⟩]
        obtain ⟨e, he, rfl⟩ := Option.map_eq_some_iff.mp hbest
        exact hwins.2 e he

/-- **Where a text is cut depends on the literals only.** -/
theorem cutFrom_mapTargets (f : α → β) (lexicon : Lexicon α) (skip : Nat) (ended : Bool)
    (s : List Char) :
    cutFrom (lexicon.mapTargets f) skip ended s =
      (cutFrom lexicon skip ended s).map (Piece.map f) := by
  induction s generalizing skip ended with
  | nil =>
      cases skip <;> simp only [cutFrom, Lexicon.startOf?_mapTargets] <;>
        cases lexicon.startOf? [] <;> cases ended <;> rfl
  | cons c s ih =>
      cases skip with
      | succ skip => exact ih skip true
      | zero =>
          simp only [cutFrom, Lexicon.startOf?_mapTargets]
          cases lexicon.startOf? (c :: s) with
          | none => simp [ih, Piece.map]
          | some e =>
              obtain ⟨literal, target⟩ := e
              cases literal with
              | nil => cases ended <;> simp [ih, Piece.map]
              | cons d rest => simp [ih, Piece.map]

theorem cut_mapTargets (f : α → β) (lexicon : Lexicon α) (s : List Char) :
    cut (lexicon.mapTargets f) s = (cut lexicon s).map (Piece.map f) :=
  cutFrom_mapTargets f lexicon 0 false s

theorem hits_mapTargets (f : α → β) (lexicon : Lexicon α) (s : List Char) :
    hits (lexicon.mapTargets f) s = (hits lexicon s).map f := by
  unfold hits
  rw [cut_mapTargets, List.filterMap_map, List.map_filterMap]
  congr 1
  funext piece
  cases piece <;> rfl

/-- A literal that is found is one of the lexicon, and it occurs in the text. -/
theorem Lexicon.Proper.mem_of_hit_mem_cut {lexicon : Lexicon α} (h : lexicon.Proper) {s literal : List Char}
    {target : α} (hpiece : .hit literal target ∈ cut lexicon s) :
    (literal, target) ∈ lexicon ∧ literal <:+: s := by
  induction s using h.cut_induction with
  | nil =>
      rw [h.cut_nil] at hpiece
      cases hpiece
  | plain c s hnone ih =>
      rw [h.cut_cons_of_none hnone] at hpiece
      obtain ⟨hmem, hoccurs⟩ := ih ((List.mem_cons.mp hpiece).resolve_left nofun)
      exact ⟨hmem, hoccurs.trans (List.suffix_cons c s).isInfix⟩
  | hit found other s hfound ih =>
      rw [h.cut_append_of_some hfound] at hpiece
      rcases List.mem_cons.mp hpiece with heq | hpiece
      · cases heq
        exact ⟨(Lexicon.startOf?_spec hfound).1, (List.prefix_append literal s).isInfix⟩
      · obtain ⟨hmem, hoccurs⟩ := ih hpiece
        exact ⟨hmem, hoccurs.trans (List.suffix_append found s).isInfix⟩

/-- What is found in a text is a literal of the lexicon. -/
theorem Lexicon.Proper.mem_of_mem_hits {lexicon : Lexicon α} (h : lexicon.Proper) {s : List Char}
    {target : α} (ht : target ∈ hits lexicon s) : ∃ literal, (literal, target) ∈ lexicon := by
  obtain ⟨piece, hpiece, htarget⟩ := List.mem_filterMap.mp ht
  cases piece with
  | plain c => cases htarget
  | hit literal found =>
      cases htarget
      exact ⟨literal, (h.mem_of_hit_mem_cut hpiece).1⟩

/-- A text with its literals replaced is the same if the literals that are found in it stand for the
    same. -/
theorem replaceAll_mapTargets {f : α → β} {lexicon : Lexicon α} {value : α → List Char}
    {value' : β → List Char} {s : List Char} (h : ∀ t ∈ hits lexicon s, value' (f t) = value t) :
    replaceAll (lexicon.mapTargets f) value' s = replaceAll lexicon value s := by
  unfold replaceAll
  rw [cut_mapTargets, List.flatMap_map]
  refine List.flatMap_congr fun piece hpiece => ?_
  cases piece with
  | plain c => rfl
  | hit literal t => exact h t (List.mem_filterMap.mpr ⟨_, hpiece, rfl⟩)

/-! ## 3. Texts that are broken off -/

theorem Lexicon.startOf?_eq_none_of_prefix {lexicon : Lexicon α} {s t : List Char}
    (hs : lexicon.startOf? s = none) (hfront : t <+: s) : lexicon.startOf? t = none := by
  rw [startOf?_eq_none_iff] at hs ⊢
  exact fun e he het => hs e he (het.trans hfront)

/-- A literal that is found in a text is found wherever the text goes on at least up to its end. -/
theorem Lexicon.Functional.startOf?_of_prefix {lexicon : Lexicon α} (h : lexicon.Functional)
    {s t literal : List Char} {target : α}
    (hs : lexicon.startOf? (literal ++ s) = some (literal, target)) (hfront : t <+: s) :
    lexicon.startOf? (literal ++ t) = some (literal, target) := by
  rw [startOf?_eq_some_iff h] at hs ⊢
  have hall : literal ++ t <+: literal ++ s := (List.prefix_append_right_inj literal).mpr hfront
  exact ⟨hs.1, List.prefix_append literal t, fun f hf hft => hs.2.2 f hf (hft.trans hall)⟩

end Placeholders.Text
