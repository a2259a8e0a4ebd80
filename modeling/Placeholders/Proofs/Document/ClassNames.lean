import Placeholders.Proofs.Editors.Outfits

/-!
# Names of classes

An element has the classes that its attribute lists, and adding and removing should come to a set of names.

* A list is cut at the blanks of markup, but before a name is added to it, it is trimmed at more blanks than
  these. `words_trim` says when its names do not mind: where neither the first begins nor the last ends with
  a blank (`Attributes.Flush`).
* `hasClass_addClass` says exactly which names there are after one has been added, whatever the list is.
* `class_names` is what the two changes come to for an element.
-/

namespace Placeholders

open Placeholders.Markup

namespace Text

/-! ## 1. Names at the ends of a list -/

/-- What has been read of a word is the beginning of the first one. -/
theorem exists_wordsFrom_eq_cons {word : List Char} (hword : word ≠ []) (s : List Char) :
    ∃ t rest, wordsFrom word s = (word.reverse ++ t) :: rest := by
  induction s generalizing word with
  | nil => exact ⟨[], [], by simp [wordsFrom, hword]⟩
  | cons c s ih =>
      rw [wordsFrom]
      split
      · exact ⟨[], wordsFrom [] s, by simp [hword]⟩
      · obtain ⟨t, rest, heq⟩ := ih (List.cons_ne_nil c word)
        exact ⟨c :: t, rest, by rw [heq, List.reverse_cons, List.append_assoc]; rfl⟩

/-- A last character that is no blank of markup is the last one of the last word. -/
theorem exists_wordsFrom_eq_concat {c : Char} (hc : isAsciiBlank c = false) (word s : List Char) :
    ∃ front t, wordsFrom word (s ++ [c]) = front ++ [t ++ [c]] := by
  induction s generalizing word with
  | nil => exact ⟨[], word.reverse, by simp [wordsFrom, hc]⟩
  | cons d s ih =>
      rw [List.cons_append, wordsFrom]
      split
      · obtain ⟨front, t, heq⟩ := ih []
        split
        · exact ⟨front, t, heq⟩
        · exact ⟨word.reverse :: front, t, by rw [heq, List.cons_append]⟩
      · exact ih (d :: word)

theorem words_dropWhile {s : List Char} (h : ∀ w ∈ (words s).head?, w.dropWhile isBlank = w) :
    words (s.dropWhile isBlank) = words s := by
  induction s with
  | nil => rfl
  | cons c s ih =>
      by_cases hblank : isBlank c = true
      · rw [List.dropWhile_cons_of_pos hblank]
        by_cases hascii : isAsciiBlank c = true
        · have hrest : words (c :: s) = words s := words_append_blank hascii [] s
          rw [hrest] at h ⊢
          exact ih h
        · -- the first name begins with this blank
          obtain ⟨t, rest, heq⟩ := exists_wordsFrom_eq_cons (List.cons_ne_nil c []) s
          have hfirst : words (c :: s) = (c :: t) :: rest := by
            rw [words, wordsFrom, if_neg hascii, heq]
            rfl
          rw [hfirst] at h
          have hkept := h (c :: t) rfl
          rw [List.dropWhile_cons_of_pos hblank] at hkept
          have hshorter := (List.dropWhile_sublist isBlank (l := t)).length_le
          rw [hkept, List.length_cons] at hshorter
          omega
      · rw [List.dropWhile_cons_of_neg hblank]

theorem words_trimEnd {s : List Char} (h : ∀ w ∈ (words s).getLast?, trimEnd w = w) :
    words (trimEnd s) = words s := by
  induction s using List.reverseRecOn with
  | nil => rfl
  | append_singleton s c ih =>
      have hend : ∀ t, trimEnd (t ++ [c]) = if isBlank c then trimEnd t else t ++ [c] :=
        fun t => List.rdropWhile_concat isBlank t c
      by_cases hblank : isBlank c = true
      · rw [hend, if_pos hblank]
        by_cases hascii : isAsciiBlank c = true
        · have hrest : words (s ++ [c]) = words s := by
            rw [words_append_blank hascii, words_nil, List.append_nil]
          rw [hrest] at h ⊢
          exact ih h
        · -- the last name ends with this blank
          obtain ⟨front, t, heq⟩ := exists_wordsFrom_eq_concat (Bool.eq_false_iff.mpr hascii) [] s
          have hkept := h (t ++ [c]) (by rw [words, heq]; simp)
          rw [hend, if_pos hblank] at hkept
          have hshorter := (prefix_trimEnd t).length_le
          rw [hkept, List.length_append, List.length_singleton] at hshorter
          omega
      · rw [hend, if_neg hblank]

/-- **Trimming leaves the words of a text** if the blanks at its ends belong to none of them. -/
theorem words_trim {s : List Char} (hfirst : ∀ w ∈ (words s).head?, w.dropWhile isBlank = w)
    (hlast : ∀ w ∈ (words s).getLast?, trimEnd w = w) : words (trim s) = words s := by
  have hstart := words_dropWhile hfirst
  rw [trim, words_trimEnd (by rwa [hstart]), hstart]

end Text

open Placeholders.Text

namespace Markup.Attributes

/-! ## 2. Adding and removing -/

variable {own : Attributes} {c d : String}

/-- The first name that is listed begins with no blank, and the last one ends with none. -/
structure Flush (own : Attributes) : Prop where
  first : ∀ w ∈ own.classes.head?, w.dropWhile isBlank = w
  last : ∀ w ∈ own.classes.getLast?, trimEnd w = w

/-- What is listed when the blanks around the list have been cut off. -/
def trimmedClasses (own : Attributes) : List (List Char) :=
  words (trim ((own.get? classAttribute).getD "").toList)

theorem classes_eq_words : own.classes = words ((own.get? classAttribute).getD "").toList := by
  unfold classes
  cases own.get? classAttribute <;> rfl

theorem Flush.trimmedClasses_eq (h : own.Flush) : own.trimmedClasses = own.classes := by
  have hfirst := h.first
  have hlast := h.last
  rw [classes_eq_words] at hfirst hlast
  rw [classes_eq_words]
  exact words_trim hfirst hlast

/-- **What there is besides a name that has been added.** -/
theorem hasClass_addClass (hc : IsWord c.toList) (hne : d ≠ c) : (own.addClass c).hasClass d =
    if own.hasClass c then own.hasClass d else own.trimmedClasses.contains d.toList := by
  split
  · rename_i hthere
    rw [addClass, if_pos hthere]
  · rename_i hnew
    rw [hasClass, classes_addClass own hc (Bool.eq_false_iff.mpr hnew)]
    have hother : d.toList ≠ c.toList := fun heq => hne (String.toList_inj.mp heq)
    simp [trimmedClasses, hother]

theorem Flush.hasClass_addClass (h : own.Flush) (hc : IsWord c.toList) (hne : d ≠ c) :
    (own.addClass c).hasClass d = own.hasClass d := by
  rw [Attributes.hasClass_addClass hc hne, h.trimmedClasses_eq]
  exact ite_self _

/-- What is left where a name that was not there has been added and removed again. -/
theorem hasClass_removeClass_addClass (hc : IsWord c.toList) (hnew : own.hasClass c = false) :
    ((own.addClass c).removeClass c).hasClass d = (own.trimmedClasses.contains d.toList && d != c) := by
  rw [hasClass_removeClass]
  by_cases heq : d = c
  · simp [heq]
  · rw [hasClass_addClass hc heq, hnew]
    rfl

theorem Flush.hasClass_removeClass_addClass (h : own.Flush) (hc : IsWord c.toList)
    (hnew : own.hasClass c = false) :
    ((own.addClass c).removeClass c).hasClass d = own.hasClass d := by
  rw [Attributes.hasClass_removeClass_addClass hc hnew, h.trimmedClasses_eq]
  by_cases heq : d = c
  · simpa [heq] using hnew.symm
  · simp [heq, hasClass]

end Markup.Attributes

namespace Document

/-! ## 3. Elements -/

section Elements

variable {doc : Document} {id : Nat} (hid : doc.isElement id = true) {c d : String}

include hid

theorem attributes_mapAttributes (f : Attributes → Attributes) :
    (doc.mapAttributes id f).attributes id = f (doc.attributes id) := by
  rw [(doc.wears_mapAttributes id f id).attributes_eq hid, if_pos rfl]

theorem hasClass_addClass_eq (name : String) :
    (doc.addClass id c).hasClass id name = ((doc.attributes id).addClass c).hasClass name := by
  rw [addClass, hasClass, attributes_mapAttributes hid]

theorem hasClass_removeClass_eq (name : String) :
    (doc.removeClass id c).hasClass id name = ((doc.attributes id).removeClass c).hasClass name := by
  rw [removeClass, hasClass, attributes_mapAttributes hid]

theorem hasClass_removeClass_addClass_eq (name : String) :
    ((doc.addClass id c).removeClass id c).hasClass id name =
      (((doc.attributes id).addClass c).removeClass c).hasClass name := by
  have hstill : (doc.addClass id c).isElement id = true :=
    (doc.wears_mapAttributes id (·.addClass c) id).isElement_eq.trans hid
  rw [hasClass_removeClass_eq hstill, addClass, attributes_mapAttributes hid]

/-- **The classes of an element are names that come and go** by adding and removing them. A name that has been
    added is there, one that has been removed is not, and removing it leaves all others. Adding a name that was
    not there leaves the others as trimming the list does: where its first name begins with no blank and its
    last one ends with none, they are what they were, and when the name is removed again the same names are
    there. -/
theorem class_names (hc : IsWord c.toList) (hne : d ≠ c) :
    (doc.addClass id c).hasClass id c = true ∧
    (doc.removeClass id c).hasClass id c = false ∧
    (doc.removeClass id c).hasClass id d = doc.hasClass id d ∧
    (doc.addClass id c).hasClass id d = (if doc.hasClass id c then doc.hasClass id d
      else (doc.attributes id).trimmedClasses.contains d.toList) ∧
    ((doc.attributes id).Flush →
      (doc.addClass id c).hasClass id d = doc.hasClass id d ∧
      (doc.hasClass id c = false → ∀ name,
        ((doc.addClass id c).removeClass id c).hasClass id name = doc.hasClass id name)) := by
  simp only [hasClass_addClass_eq hid, hasClass_removeClass_eq hid, hasClass_removeClass_addClass_eq hid]
  refine ⟨Attributes.hasClass_addClass_self _ hc, ?_, ?_, Attributes.hasClass_addClass hc hne, fun hflush =>
    ⟨hflush.hasClass_addClass hc hne, fun hnew _ => hflush.hasClass_removeClass_addClass hc hnew⟩⟩
  · simp [Attributes.hasClass_removeClass]
  · simp [Attributes.hasClass_removeClass, hne, hasClass]

end Elements

/-- A paragraph with a class or two. -/
def paragraph (list : String) : Document :=
  { nodes := #[{ payload := .root, children := [1] },
      { payload := .element "p" [(Attributes.classAttribute, list)], parent := some 0 }] }

theorem class_names_of_paragraph :
    (paragraph "a  b").isElement 1 = true ∧ IsWord "c".toList ∧ "a" ≠ "c" ∧
      (paragraph "a  b").hasClass 1 "c" = false ∧
      (((paragraph "a  b").addClass 1 "c").removeClass 1 "c").hasClass 1 "a" = true := by
  have hflush : ((paragraph "a  b").attributes 1).Flush := ⟨by decide, by decide⟩
  have hnew : (paragraph "a  b").hasClass 1 "c" = false := by decide
  refine ⟨rfl, by decide, by decide, hnew, ?_⟩
  have helement : (paragraph "a  b").isElement 1 = true := rfl
  have hother : "a" ≠ "c" := by decide
  obtain ⟨_, _, _, _, hnames⟩ := class_names helement (c := "c") (by decide) hother
  rw [(hnames hflush).2 hnew]
  decide

/-- A no-break space is part of a name, but at the end of a list it is trimmed off when a name is added. -/
theorem name_changed_by_another :
    ¬ ∀ (doc : Document) (id : Nat), doc.isElement id = true → ∀ c d : String, IsWord c.toList →
      IsWord d.toList → d ≠ c → (doc.addClass id c).hasClass id d = doc.hasClass id d := by
  intro hclaim
  have hkept := hclaim (paragraph "a\u00a0") 1 rfl "c" "a\u00a0" (by decide) (by decide) (by decide)
  exact absurd hkept (by decide)

end Document

end Placeholders
