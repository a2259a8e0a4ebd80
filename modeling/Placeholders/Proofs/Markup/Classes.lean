import Placeholders.Markup.Attributes
import Placeholders.Proofs.Text.Trimming

/-!
# Classes

What adding and removing classes does to the list that an attribute `class` holds.

* A text is cut into words at its blanks, and words with blanks between them are cut into themselves
  (`words_intercalate`).
* Removing a class leaves all others (`hasClass_removeClass`). Adding one keeps all others, too, but trims
  the list, at more kinds of blanks than the list is cut at. So it keeps those that have no such blanks in
  them (`Attributes.hasClass_addClass_of_hasClass`).
* Where nothing but proper names is listed, one blank apart, both come to what they are for lists
  (`addClass_listing`, `removeClass_listing`).
* Any list is written anew with one blank between its words when a class is removed from it. Trimming
  leaves such a list so, and of its words no more than some blanks at its ends are lost
  (`exists_trim_intercalate`, `removeClass_eq`, `addClass_withClasses`).
-/

namespace Placeholders

open Placeholders.Text

namespace Text

/-! ## 1. Words -/

/-- A text that is one word, and has no other blanks in it either. -/
structure Solid (w : List Char) : Prop where
  ne_nil : w ≠ []
  no_blank : ∀ c ∈ w, isBlank c = false

theorem not_isEmpty_and_all_iff {p : Char → Bool} {w : List Char} :
    (!w.isEmpty && w.all fun c => !p c) = true ↔ w ≠ [] ∧ ∀ c ∈ w, p c = false := by
  rw [Bool.and_eq_true, Bool.not_eq_true', List.isEmpty_eq_false_iff, List.all_eq_true]
  simp only [Bool.not_eq_true', Ne]

theorem solid_iff {w : List Char} : (!w.isEmpty && w.all fun c => !isBlank c) = true ↔ Solid w :=
  not_isEmpty_and_all_iff.trans ⟨fun h => ⟨h.1, h.2⟩, fun h => ⟨h.1, h.2⟩⟩

instance (w : List Char) : Decidable (Solid w) := decidable_of_iff _ solid_iff

theorem not_isAsciiBlank_of_not_isBlank {c : Char} (h : isBlank c = false) : isAsciiBlank c = false := by
  by_contra hne
  rw [isBlank_of_isAsciiBlank (by simpa using hne)] at h
  cases h

/-- A blank ends a word. -/
theorem wordsFrom_append_blank {b : Char} (hb : isAsciiBlank b = true) (word s t : List Char) :
    wordsFrom word (s ++ b :: t) = wordsFrom word s ++ words t := by
  induction s generalizing word with
  | nil =>
      simp only [List.nil_append, wordsFrom, hb, if_true]
      split <;> rfl
  | cons c s ih =>
      rw [List.cons_append, wordsFrom, wordsFrom]
      split
      · split
        · exact ih []
        · rw [ih, List.cons_append]
      · exact ih (c :: word)

theorem words_append_blank {b : Char} (hb : isAsciiBlank b = true) (s t : List Char) :
    words (s ++ b :: t) = words s ++ words t :=
  wordsFrom_append_blank hb [] s t

/-- Without blanks a text is one word. -/
theorem wordsFrom_of_no_blank {w : List Char} (h : ∀ c ∈ w, isAsciiBlank c = false) (word : List Char)
    (hne : word ++ w ≠ []) : wordsFrom word w = [word.reverse ++ w] := by
  induction w generalizing word with
  | nil =>
      rw [List.append_nil] at hne ⊢
      rw [wordsFrom, if_neg (by simpa using hne)]
  | cons c w ih =>
      obtain ⟨hc, hw⟩ := List.forall_mem_cons.mp h
      rw [wordsFrom, if_neg (by simp [hc]), ih hw _ (by simp), List.reverse_cons]
      simp

/-- What is a word has no blanks in it and is not empty. -/
theorem of_mem_wordsFrom {word s w : List Char} (hword : ∀ c ∈ word, isAsciiBlank c = false)
    (h : w ∈ wordsFrom word s) : w ≠ [] ∧ ∀ c ∈ w, isAsciiBlank c = false := by
  induction s generalizing word with
  | nil =>
      rw [wordsFrom] at h
      split at h
      · cases h
      · rename_i hne
        obtain rfl := List.mem_singleton.mp h
        exact ⟨by simpa using hne, fun c hc => hword c (List.mem_reverse.mp hc)⟩
  | cons c s ih =>
      rw [wordsFrom] at h
      split at h
      · split at h
        · exact ih (by simp) h
        · rename_i hne
          rcases List.mem_cons.mp h with rfl | h
          · exact ⟨by simpa using hne, fun c hc => hword c (List.mem_reverse.mp hc)⟩
          · exact ih (by simp) h
      · rename_i hc
        exact ih (List.forall_mem_cons.mpr ⟨by simpa using hc, hword⟩) h

theorem intercalate_cons_cons (w v : List Char) (rest : List (List Char)) :
    [' '].intercalate (w :: v :: rest) = w ++ ' ' :: [' '].intercalate (v :: rest) := by
  simp [List.intercalate, List.intersperse]

theorem intercalate_concat {ws : List (List Char)} (h : ws ≠ []) (v : List Char) :
    [' '].intercalate ws ++ ' ' :: v = [' '].intercalate (ws ++ [v]) := by
  induction ws with
  | nil => exact absurd rfl h
  | cons w ws ih =>
      cases ws with
      | nil => simp [List.intercalate, List.intersperse]
      | cons u ws =>
          rw [intercalate_cons_cons, List.append_assoc, List.cons_append, ih (List.cons_ne_nil u ws)]
          exact (intercalate_cons_cons w u (ws ++ [v])).symm

/-- **Words with a blank between them are cut into themselves.** -/
theorem words_intercalate {ws : List (List Char)}
    (h : ∀ w ∈ ws, w ≠ [] ∧ ∀ c ∈ w, isAsciiBlank c = false) : words ([' '].intercalate ws) = ws := by
  induction ws with
  | nil => rfl
  | cons w rest ih =>
      obtain ⟨⟨hne, hw⟩, hrest⟩ := List.forall_mem_cons.mp h
      have hone : words w = [w] := wordsFrom_of_no_blank hw [] hne
      cases rest with
      | nil => simpa [List.intercalate] using hone
      | cons v rest =>
          rw [intercalate_cons_cons, words_append_blank rfl, hone, ih hrest]
          rfl

/-! ## 2. Words of trimmed texts -/

/-- A word without blanks stands after a blank, so that it is not lost with what is before the blank. -/
theorem mem_wordsFrom_of_blank {w : List Char} (hw : Solid w) {word s : List Char}
    (hword : ∃ c ∈ word, isBlank c = true) (h : w ∈ wordsFrom word s) (other : List Char) :
    w ∈ wordsFrom other s := by
  have hnot : w ≠ word.reverse := by
    rintro rfl
    obtain ⟨c, hc, hblank⟩ := hword
    rw [hw.no_blank c (List.mem_reverse.mpr hc)] at hblank
    cases hblank
  have hne : word.isEmpty = false := by
    obtain ⟨c, hc, _⟩ := hword
    cases word with
    | nil => cases hc
    | cons _ _ => rfl
  induction s generalizing word other with
  | nil =>
      rw [wordsFrom, hne] at h
      exact absurd (List.mem_singleton.mp h) hnot
  | cons c s ih =>
      rw [wordsFrom, hne] at h
      rw [wordsFrom]
      split at h
      · rename_i hc
        have hmem : w ∈ wordsFrom [] s := (List.mem_cons.mp h).resolve_left hnot
        rw [if_pos hc]
        split
        · exact hmem
        · exact List.mem_cons_of_mem _ hmem
      · rename_i hc
        obtain ⟨b, hb, hblank⟩ := hword
        rw [if_neg hc]
        refine ih ⟨b, List.mem_cons_of_mem c hb, hblank⟩ h (c :: other) ?_ rfl
        rintro rfl
        rw [hw.no_blank b (by simp [hb])] at hblank
        cases hblank

theorem mem_words_dropWhile {w : List Char} (hw : Solid w) {s : List Char} (h : w ∈ words s) :
    w ∈ words (s.dropWhile isBlank) := by
  induction s with
  | nil => exact h
  | cons c s ih =>
      cases hc : isBlank c with
      | false => rwa [List.dropWhile_cons_of_neg (by simp [hc])]
      | true =>
          rw [List.dropWhile_cons_of_pos hc]
          refine ih ?_
          rw [words, wordsFrom] at h
          split at h
          · exact h
          · exact mem_wordsFrom_of_blank hw ⟨c, List.mem_singleton_self c, hc⟩ h []

/-- A word without blanks stands before a blank. -/
theorem mem_wordsFrom_of_append_blank {w : List Char} (hw : Solid w) {word s : List Char} {c : Char}
    (hc : isBlank c = true) (h : w ∈ wordsFrom word (s ++ [c])) : w ∈ wordsFrom word s := by
  induction s generalizing word with
  | nil =>
      by_cases hascii : isAsciiBlank c = true
      · rw [wordsFrom_append_blank hascii] at h
        exact (List.mem_append.mp h).resolve_right List.not_mem_nil
      · rw [List.nil_append, wordsFrom, if_neg hascii, wordsFrom] at h
        obtain rfl := List.mem_singleton.mp h
        have hblank := hw.no_blank c (by simp)
        rw [hc] at hblank
        cases hblank
  | cons d s ih =>
      rw [List.cons_append, wordsFrom] at h
      rw [wordsFrom]
      split at h
      · rename_i hd
        rw [if_pos hd]
        split at h
        · rename_i hempty
          rw [if_pos hempty]
          exact ih h
        · rename_i hempty
          rw [if_neg hempty]
          exact (List.mem_cons.mp h).elim (fun heq => heq ▸ List.mem_cons_self)
            fun h => List.mem_cons_of_mem _ (ih h)
      · rename_i hd
        rw [if_neg hd]
        exact ih h

theorem mem_words_trimEnd {w : List Char} (hw : Solid w) {s : List Char} (h : w ∈ words s) :
    w ∈ words (trimEnd s) := by
  induction s using List.reverseRecOn with
  | nil => exact h
  | append_singleton s c ih =>
      have hend : trimEnd (s ++ [c]) = if isBlank c then trimEnd s else s ++ [c] :=
        List.rdropWhile_concat isBlank s c
      rw [hend]
      split
      · rename_i hc
        exact ih (mem_wordsFrom_of_append_blank hw hc h)
      · exact h

/-- **Trimming takes no word away that has no blanks in it.** -/
theorem mem_words_trim {w : List Char} (hw : Solid w) {s : List Char} (h : w ∈ words s) :
    w ∈ words (trim s) :=
  mem_words_trimEnd hw (mem_words_dropWhile hw h)

section Solid

variable {ws : List (List Char)} (h : ∀ w ∈ ws, Solid w)

include h

theorem words_intercalate_of_solid : words ([' '].intercalate ws) = ws :=
  words_intercalate fun w hw =>
    ⟨(h w hw).ne_nil, fun c hc => not_isAsciiBlank_of_not_isBlank ((h w hw).no_blank c hc)⟩

theorem dropWhile_intercalate : ([' '].intercalate ws).dropWhile isBlank = [' '].intercalate ws := by
  have hstart : ∀ w t : List Char, Solid w → (w ++ t).dropWhile isBlank = w ++ t := by
    intro w t hw
    cases w with
    | nil => exact absurd rfl hw.ne_nil
    | cons c w => exact List.dropWhile_cons_of_neg (by simp [hw.no_blank c List.mem_cons_self])
  cases ws with
  | nil => rfl
  | cons w rest =>
      have hw := h w List.mem_cons_self
      cases rest with
      | nil => simpa [List.intercalate] using hstart w [] hw
      | cons v rest =>
          rw [intercalate_cons_cons]
          exact hstart w _ hw

theorem trimEnd_intercalate : trimEnd ([' '].intercalate ws) = [' '].intercalate ws := by
  induction ws with
  | nil => rfl
  | cons w rest ih =>
      obtain ⟨hw, hrest⟩ := List.forall_mem_cons.mp h
      cases rest with
      | nil => simpa [List.intercalate] using trimEnd_of_trim (trim_eq_self hw.no_blank)
      | cons v rest =>
          have hne : [' '].intercalate (v :: rest) ≠ [] := fun hnil => by
            have hwords := words_intercalate_of_solid hrest
            rw [hnil] at hwords
            cases hwords
          rw [intercalate_cons_cons, List.append_cons]
          exact trimEnd_append (ih hrest) hne _

theorem trim_intercalate : trim ([' '].intercalate ws) = [' '].intercalate ws := by
  rw [trim, dropWhile_intercalate h, trimEnd_intercalate h]

end Solid

/-! ## 3. What trimming leaves of words -/

/-- What can stand between blanks. -/
def IsWord (w : List Char) : Prop := w ≠ [] ∧ ∀ c ∈ w, isAsciiBlank c = false

instance (w : List Char) : Decidable (IsWord w) := decidable_of_iff _ not_isEmpty_and_all_iff

theorem Solid.isWord {w : List Char} (h : Solid w) : IsWord w :=
  ⟨h.ne_nil, fun c hc => not_isAsciiBlank_of_not_isBlank (h.no_blank c hc)⟩

theorem isWord_of_mem_words {s w : List Char} (h : w ∈ words s) : IsWord w :=
  of_mem_wordsFrom (fun _ hc => absurd hc List.not_mem_nil) h

/-- Words that are left of others. -/
def LeftOf (ws vs : List (List Char)) : Prop := ∀ v ∈ vs, IsWord v ∧ ∃ w ∈ ws, trim w = trim v

namespace LeftOf

variable {us vs ws : List (List Char)}

theorem refl (h : ∀ w ∈ ws, IsWord w) : LeftOf ws ws := fun w hw => ⟨h w hw, w, hw, rfl⟩

theorem trans (h : LeftOf us vs) (h' : LeftOf vs ws) : LeftOf us ws := by
  intro w hw
  obtain ⟨hword, v, hv, heq⟩ := h' w hw
  obtain ⟨_, u, hu, heq'⟩ := h v hv
  exact ⟨hword, u, hu, heq'.trans heq⟩

theorem mono (h : LeftOf us ws) (hsub : us ⊆ vs) : LeftOf vs ws := fun w hw =>
  ⟨(h w hw).1, (h w hw).2.imp fun _ hu => ⟨hsub hu.1, hu.2⟩⟩

end LeftOf

/-- Between a word and those after it there are only blanks. -/
theorem exists_gap_cons (rest : List (List Char)) : ∃ gap, (∀ c ∈ gap, isBlank c = true) ∧
    ∀ w, [' '].intercalate (w :: rest) = w ++ (gap ++ [' '].intercalate rest) := by
  cases rest with
  | nil => exact ⟨[], by simp, fun w => by simp [List.intercalate]⟩
  | cons v rest =>
      exact ⟨[' '], List.forall_mem_singleton.mpr rfl, fun w => intercalate_cons_cons w v rest⟩

theorem exists_gap_concat (front : List (List Char)) : ∃ gap, (∀ c ∈ gap, isBlank c = true) ∧
    ∀ w, [' '].intercalate (front ++ [w]) = [' '].intercalate front ++ (gap ++ w) := by
  by_cases hne : front = []
  · exact ⟨[], by simp, fun w => by simp [List.intercalate, hne]⟩
  · exact ⟨[' '], List.forall_mem_singleton.mpr rfl, fun w => (intercalate_concat hne w).symm⟩

section Ends

variable {ws : List (List Char)} (h : ∀ w ∈ ws, IsWord w)

include h

theorem exists_dropWhile_intercalate :
    ∃ vs, LeftOf ws vs ∧ ([' '].intercalate ws).dropWhile isBlank = [' '].intercalate vs := by
  induction ws with
  | nil => exact ⟨[], .refl h, rfl⟩
  | cons w rest ih =>
      obtain ⟨hw, hrest⟩ := List.forall_mem_cons.mp h
      obtain ⟨gap, hgap, hcons⟩ := exists_gap_cons rest
      by_cases hnil : w.dropWhile isBlank = []
      · obtain ⟨vs, hvs, heq⟩ := ih hrest
        refine ⟨vs, hvs.mono (List.subset_cons_self w rest), ?_⟩
        rw [hcons, List.dropWhile_append_of_pos (List.dropWhile_eq_nil_iff.mp hnil),
          List.dropWhile_append_of_pos hgap, heq]
      · have hword : IsWord (w.dropWhile isBlank) :=
          ⟨hnil, fun c hc => hw.2 c ((List.dropWhile_suffix isBlank).subset hc)⟩
        refine ⟨w.dropWhile isBlank :: rest, List.forall_mem_cons.mpr ⟨?_, ?_⟩, ?_⟩
        · exact ⟨hword, w, List.mem_cons_self, (trim_dropWhile w).symm⟩
        · exact (LeftOf.refl hrest).mono (List.subset_cons_self w rest)
        · rw [hcons, hcons, List.dropWhile_append, if_neg (by simpa using hnil)]

theorem exists_trimEnd_intercalate :
    ∃ vs, LeftOf ws vs ∧ trimEnd ([' '].intercalate ws) = [' '].intercalate vs := by
  induction ws using List.reverseRecOn with
  | nil => exact ⟨[], .refl h, rfl⟩
  | append_singleton front w ih =>
      obtain ⟨hfront, hw⟩ := List.forall_mem_append.mp h
      have hsub : front ⊆ front ++ [w] := List.subset_append_left front [w]
      obtain ⟨gap, hgap, hconcat⟩ := exists_gap_concat front
      by_cases hnil : trimEnd w = []
      · obtain ⟨vs, hvs, heq⟩ := ih hfront
        refine ⟨vs, hvs.mono hsub, ?_⟩
        have hrest : trimEnd (gap ++ w) = [] := by
          rw [trimEnd_append_eq, if_pos hnil, trimEnd_eq_nil hgap]
        rw [hconcat, trimEnd_append_eq, if_pos hrest, heq]
      · have hword : IsWord (trimEnd w) :=
          ⟨hnil, fun c hc => (hw w (by simp)).2 c ((prefix_trimEnd w).subset hc)⟩
        refine ⟨front ++ [trimEnd w], List.forall_mem_append.mpr ⟨?_, ?_⟩, ?_⟩
        · exact (LeftOf.refl hfront).mono hsub
        · exact List.forall_mem_singleton.mpr ⟨hword, w, by simp, (trim_trimEnd w).symm⟩
        · have hrest : trimEnd (gap ++ w) = gap ++ trimEnd w := by
            rw [trimEnd_append_eq, if_neg hnil]
          rw [hconcat, hconcat, trimEnd_append_eq, hrest, if_neg (by simp [hnil])]

/-- **Of words with a blank between them trimming leaves words with a blank between them**, each of which
    is one of the former without the blanks around it. -/
theorem exists_trim_intercalate :
    ∃ vs, LeftOf ws vs ∧ trim ([' '].intercalate ws) = [' '].intercalate vs := by
  obtain ⟨us, hus, hstart⟩ := exists_dropWhile_intercalate h
  obtain ⟨vs, hvs, hend⟩ := exists_trimEnd_intercalate fun u hu => (hus u hu).1
  exact ⟨vs, hus.trans hvs, by rw [trim, hstart, hend]⟩

end Ends

end Text

namespace Markup.Attributes

variable (attributes : Attributes)

/-! ## 4. Other attributes -/

theorem classes_congr {a b : Attributes} (h : a.get? classAttribute = b.get? classAttribute) :
    a.classes = b.classes := by
  unfold classes
  rw [h]

theorem hasClass_set {name : String} (h : name ≠ classAttribute) (value c : String) :
    (attributes.set name value).hasClass c = attributes.hasClass c := by
  unfold hasClass
  rw [classes_congr ((get?_set _ _ _ _).trans (if_neg h))]

/-! ## 5. Removing and adding -/

theorem classes_removeClass (name : String) :
    (attributes.removeClass name).classes = attributes.classes.filter (· != name.toList) := by
  unfold removeClass
  cases hvalue : attributes.get? classAttribute with
  | none => simp [classes, hvalue]
  | some value =>
      have hclasses : attributes.classes = words value.toList := by simp [classes, hvalue]
      dsimp only
      rw [hclasses]
      split
      · rename_i hempty
        rw [classes, get?_remove, if_pos rfl]
        exact (List.isEmpty_iff.mp hempty).symm
      · rw [classes, get?_set, if_pos rfl]
        dsimp only
        rw [String.toList_ofList]
        exact words_intercalate fun w hw => isWord_of_mem_words (List.mem_filter.mp hw).1

/-- **Removing a class leaves all others.** -/
theorem hasClass_removeClass (name c : String) :
    (attributes.removeClass name).hasClass c = (attributes.hasClass c && c != name) := by
  unfold hasClass
  rw [classes_removeClass, Bool.eq_iff_iff]
  simp [String.toList_inj]

/-- What the attribute `class` holds after a class has been added to it. -/
theorem classes_addClass {name : String} (hname : IsWord name.toList)
    (hnew : attributes.hasClass name = false) : (attributes.addClass name).classes =
      words (trim ((attributes.get? classAttribute).getD "").toList) ++ [name.toList] := by
  have hone : words name.toList = [name.toList] := wordsFrom_of_no_blank hname.2 [] hname.1
  have htrimmed : (trimmed ((attributes.get? classAttribute).getD "")).toList =
      trim ((attributes.get? classAttribute).getD "").toList := String.toList_ofList
  unfold addClass
  rw [hnew]
  simp only [Bool.false_eq_true, if_false]
  rw [classes, get?_set, if_pos rfl]
  dsimp only
  rw [← htrimmed]
  split
  · rename_i hempty
    rw [String.isEmpty_iff] at hempty
    rw [hone, hempty]
    rfl
  · rw [String.toList_append, String.toList_append, List.append_assoc]
    change words (_ ++ ' ' :: name.toList) = _
    rw [words_append_blank rfl, hone]

theorem hasClass_addClass_self {name : String} (hname : IsWord name.toList) :
    (attributes.addClass name).hasClass name = true := by
  cases hnew : attributes.hasClass name with
  | true =>
      unfold addClass
      rwa [hnew]
  | false =>
      unfold hasClass
      rw [classes_addClass _ hname hnew]
      simp

/-- **Adding a class keeps all others** that have no blanks in them. -/
theorem hasClass_addClass_of_hasClass {name c : String} (hname : Solid name.toList)
    (hc : Solid c.toList) (h : attributes.hasClass c = true) :
    (attributes.addClass name).hasClass c = true := by
  cases hnew : attributes.hasClass name with
  | true =>
      unfold addClass
      rwa [hnew]
  | false =>
      have hmem : c.toList ∈ words ((attributes.get? classAttribute).getD "").toList := by
        unfold hasClass classes at h
        cases hvalue : attributes.get? classAttribute with
        | none =>
            rw [hvalue] at h
            cases h
        | some value =>
            rw [hvalue] at h
            exact List.contains_iff_mem.mp h
      unfold hasClass
      rw [classes_addClass _ hname.isWord hnew]
      exact List.contains_iff_mem.mpr (List.mem_append_left _ (mem_words_trim hc hmem))

/-! ## 6. Listings -/

/-- Names, one blank apart. -/
def listing (names : List String) : String :=
  String.ofList ([' '].intercalate (names.map String.toList))

section Listing

variable {names : List String} (h : ∀ name ∈ names, Solid name.toList) (rest : Attributes)

include h

theorem solid_of_mem_map {w : List Char} (hw : w ∈ names.map String.toList) : Solid w := by
  obtain ⟨name, hname, rfl⟩ := List.mem_map.mp hw
  exact h name hname

theorem words_listing : words (listing names).toList = names.map String.toList := by
  rw [listing, String.toList_ofList]
  exact words_intercalate_of_solid fun w hw => solid_of_mem_map h hw

/-- The classes of a listing are the names. -/
theorem hasClass_listing (c : String) :
    Attributes.hasClass ((classAttribute, listing names) :: rest) c = names.contains c := by
  have hclasses : Attributes.classes ((classAttribute, listing names) :: rest) =
      names.map String.toList := by
    simp only [classes, get?, if_true, words_listing h]
  unfold hasClass
  rw [hclasses, Bool.eq_iff_iff, List.contains_iff_mem, List.contains_iff_mem, List.mem_map]
  constructor
  · rintro ⟨name, hname, heq⟩
    exact String.toList_inj.mp heq ▸ hname
  · exact fun hc => ⟨c, hc, rfl⟩

/-- A listing has no blanks at its ends. -/
theorem trimmed_listing : trimmed (listing names) = listing names := by
  rw [trimmed, listing, String.toList_ofList, trim_intercalate fun w hw => solid_of_mem_map h hw]

/-- **Adding a class to a listing** adds a name at its end, unless it is there. -/
theorem addClass_listing (hne : names ≠ []) (c : String) :
    Attributes.addClass ((classAttribute, listing names) :: rest) c =
      (classAttribute, listing (if names.contains c then names else names ++ [c])) :: rest := by
  have hget : Attributes.get? ((classAttribute, listing names) :: rest) classAttribute =
      some (listing names) := by
    simp only [get?, if_true]
  have hfull : (listing names).isEmpty = false := by
    by_contra hempty
    have hnil : listing names = "" := String.isEmpty_iff.mp (by simpa using hempty)
    have hwords := words_listing h
    rw [hnil] at hwords
    exact hne (List.map_eq_nil_iff.mp hwords.symm)
  have hadded : listing names ++ " " ++ c = listing (names ++ [c]) := by
    refine String.toList_inj.mp ?_
    have hsome : names.map String.toList ≠ [] := by simpa using hne
    have hconcat := intercalate_concat hsome c.toList
    simpa [listing] using hconcat
  unfold addClass
  rw [hasClass_listing h]
  split
  · rfl
  · dsimp only
    rw [hget, Option.getD_some, trimmed_listing h, hfull]
    simp only [Bool.false_eq_true, if_false, set, if_true, hadded]

/-- **Removing a class from a listing** takes the name out, if another one is left. -/
theorem removeClass_listing {c : String} (hleft : names.filter (· != c) ≠ []) :
    Attributes.removeClass ((classAttribute, listing names) :: rest) c =
      (classAttribute, listing (names.filter (· != c))) :: rest := by
  have hothers : (names.map String.toList).filter (· != c.toList) =
      (names.filter (· != c)).map String.toList := by
    rw [List.filter_map]
    refine congrArg (List.map String.toList) (List.filter_congr fun name _ => ?_)
    rw [Function.comp, Bool.eq_iff_iff, bne_iff_ne, bne_iff_ne, ne_eq, ne_eq, String.toList_inj]
  have hsome : ((names.filter (· != c)).map String.toList).isEmpty = false := by
    simpa using hleft
  unfold removeClass
  simp only [get?, if_true, words_listing h, hothers, hsome, Bool.false_eq_true, if_false, set]
  rfl

end Listing

/-! ## 7. Classes written anew -/

theorem set_set (attributes : Attributes) (name value other : String) :
    (attributes.set name value).set name other = attributes.set name other := by
  induction attributes with
  | nil => simp [set]
  | cons entry rest ih =>
      rw [set]
      split
      · rename_i heq
        simp [set, heq]
      · rename_i hne
        simp [set, hne, ih]

/-- Setting a value that is there already changes nothing. -/
theorem set_eq_self {attributes : Attributes} {name value : String}
    (h : attributes.get? name = some value) : attributes.set name value = attributes := by
  induction attributes with
  | nil => cases h
  | cons entry rest ih =>
      rw [get?] at h
      rw [set]
      split
      · rename_i heq
        rw [if_pos heq] at h
        rw [← Option.some.inj h]
      · rename_i hne
        rw [if_neg hne] at h
        rw [ih h]

/-- With a list of classes, one blank apart. -/
def withClasses (attributes : Attributes) (ws : List (List Char)) : Attributes :=
  attributes.set classAttribute (String.ofList ([' '].intercalate ws))

section WithClasses

variable {attributes : Attributes} {ws : List (List Char)}

theorem get?_withClasses : (attributes.withClasses ws).get? classAttribute =
    some (String.ofList ([' '].intercalate ws)) :=
  (get?_set _ _ _ _).trans (if_pos rfl)

theorem classes_withClasses (h : ∀ w ∈ ws, IsWord w) : (attributes.withClasses ws).classes = ws := by
  rw [classes, get?_withClasses]
  dsimp only
  rw [String.toList_ofList]
  exact words_intercalate h

theorem withClasses_withClasses (vs : List (List Char)) :
    (attributes.withClasses ws).withClasses vs = attributes.withClasses vs :=
  set_set _ _ _ _

/-- What lists these classes already stays as it is. -/
theorem withClasses_eq_self
    (h : attributes.get? classAttribute = some (String.ofList ([' '].intercalate ws))) :
    attributes.withClasses ws = attributes :=
  set_eq_self h

theorem isWord_of_mem_classes {w : List Char} (h : w ∈ attributes.classes) : IsWord w := by
  unfold classes at h
  split at h
  · exact isWord_of_mem_words h
  · cases h

theorem hasClass_iff {c : String} : attributes.hasClass c = true ↔ c.toList ∈ attributes.classes :=
  List.contains_iff_mem

/-- Removing a class writes the others anew, if there are any. -/
theorem removeClass_eq {name : String} (h : attributes.classes.filter (· != name.toList) ≠ []) :
    attributes.removeClass name =
      attributes.withClasses (attributes.classes.filter (· != name.toList)) := by
  unfold removeClass classes at *
  split
  · rename_i hnone
    simp [hnone] at h
  · rename_i value hvalue
    rw [hvalue] at h ⊢
    dsimp only at h ⊢
    rw [if_neg (by simpa using h)]
    rfl

/-- Adding a class writes the others anew, as far as trimming leaves them. -/
theorem addClass_withClasses {name : String} {vs : List (List Char)} (hws : ∀ w ∈ ws, IsWord w)
    (hvs : ∀ v ∈ vs, IsWord v) (htrim : trim ([' '].intercalate ws) = [' '].intercalate vs)
    (hleft : vs ≠ []) (hnew : name.toList ∉ ws) :
    (attributes.withClasses ws).addClass name = attributes.withClasses (vs ++ [name.toList]) := by
  have hnot : ¬ (attributes.withClasses ws).hasClass name = true := by
    rw [hasClass_iff, classes_withClasses hws]
    exact hnew
  have hvalue : trimmed (String.ofList ([' '].intercalate ws)) = String.ofList ([' '].intercalate vs) := by
    rw [trimmed, String.toList_ofList, htrim]
  have hfull : ¬ (String.ofList ([' '].intercalate vs)).isEmpty = true := by
    intro hempty
    have hwords := words_intercalate hvs
    rw [← String.toList_ofList (l := [' '].intercalate vs), String.isEmpty_iff.mp hempty] at hwords
    exact hleft hwords.symm
  have hadded : String.ofList ([' '].intercalate vs) ++ " " ++ name =
      String.ofList ([' '].intercalate (vs ++ [name.toList])) := by
    refine String.toList_inj.mp ?_
    rw [← intercalate_concat hleft]
    simp
  unfold addClass
  rw [if_neg hnot, get?_withClasses, Option.getD_some, hvalue]
  dsimp only
  rw [if_neg hfull, hadded]
  exact set_set _ _ _ _

end WithClasses

end Markup.Attributes

end Placeholders
