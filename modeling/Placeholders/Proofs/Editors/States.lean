import Placeholders.Proofs.Editors.Outfits

/-!
# A state that is shown twice

Showing a state on an element on which it is shown already changes nothing (`shown_shown`).

* For a box this is so of all elements.
* A status takes the place of the former one. That is not found if there is a blank beside it at which
  classes are not parted. But such a blank may be cut off when the new status is added, so that the former
  one is found the next time. Where this does not happen (`PlainlyMarked`), a status stays. It never
  happens where no class is that of a status but for blanks around it (`plainlyMarked_of_trim`).
-/

namespace Placeholders.Markup.Attributes

open Placeholders.Text

variable {own : Attributes} {ws : List (List Char)}

/-! ## 1. Classes that have been removed -/

/-- A list of classes without some. -/
def without (names : List String) (ws : List (List Char)) : List (List Char) :=
  ws.filter fun w => names.all fun name => w != name.toList

theorem mem_without {names : List String} {w : List Char} :
    w ∈ without names ws ↔ w ∈ ws ∧ ∀ name ∈ names, w ≠ name.toList := by
  simp [without]

theorem without_cons (name : String) (names : List String) (ws : List (List Char)) :
    without (name :: names) ws = without names (without [name] ws) := by
  unfold without
  rw [List.filter_filter]
  refine List.filter_congr fun w _ => ?_
  simp [Bool.and_comm]

theorem without_eq_self {names : List String} (h : ∀ w ∈ ws, ∀ name ∈ names, w ≠ name.toList) :
    without names ws = ws :=
  List.filter_eq_self.mpr fun w hw => (List.mem_filter.mp (mem_without.mpr ⟨hw, h w hw⟩)).2

theorem removeClass_eq_without {name : String} (h : without [name] own.classes ≠ []) :
    own.removeClass name = own.withClasses (without [name] own.classes) := by
  have hsame : without [name] own.classes = own.classes.filter (· != name.toList) :=
    List.filter_congr fun w _ => Bool.and_true _
  rw [hsame] at h ⊢
  exact removeClass_eq h

section Words

variable (hws : ∀ w ∈ ws, IsWord w)

include hws

/-- **Removing several classes** from a list that has one blank between its words. -/
theorem foldl_removeClass_withClasses {names : List String} (hleft : without names ws ≠ []) :
    names.foldl removeClass (own.withClasses ws) = own.withClasses (without names ws) := by
  induction names generalizing ws with
  | nil => rw [without_eq_self fun _ _ _ h => absurd h List.not_mem_nil, List.foldl_nil]
  | cons name rest ih =>
      have hclasses : (own.withClasses ws).classes = ws := classes_withClasses hws
      rw [without_cons] at hleft ⊢
      have hfirst : without [name] ws ≠ [] := by
        intro hnil
        rw [hnil] at hleft
        exact hleft rfl
      rw [List.foldl_cons, removeClass_eq_without (hclasses.symm ▸ hfirst), hclasses,
        withClasses_withClasses]
      exact ih (fun w hw => hws w (mem_without.mp hw).1) hleft

end Words

/-! ## 2. Boxes -/

/-- What has been removed is not there to be removed again. -/
theorem removeClass_removeClass {name : String} (h : without [name] own.classes ≠ []) :
    (own.removeClass name).removeClass name = own.removeClass name := by
  have hwords : ∀ w ∈ without [name] own.classes, IsWord w := fun w hw =>
    isWord_of_mem_classes (mem_without.mp hw).1
  have hagain : without [name] (without [name] own.classes) = without [name] own.classes :=
    without_eq_self fun w hw => (mem_without.mp hw).2
  rw [removeClass_eq_without h]
  conv_rhs => rw [← hagain]
  exact foldl_removeClass_withClasses hwords (hagain.symm ▸ h)

/-- A class that has taken the place of another one stays. -/
theorem exchange_exchange {name other : String} (hname : Solid name.toList) (hne : name ≠ other) :
    (((own.addClass name).removeClass other).addClass name).removeClass other =
      (own.addClass name).removeClass other := by
  have hadded := hasClass_addClass_self own hname.isWord
  have hkept : ((own.addClass name).removeClass other).hasClass name = true := by
    rw [hasClass_removeClass, hadded]
    simpa using hne
  have hleft : without [other] (own.addClass name).classes ≠ [] := by
    refine List.ne_nil_of_mem (a := name.toList) (mem_without.mpr ⟨hasClass_iff.mp hadded, ?_⟩)
    simpa [String.toList_inj] using hne
  have hsame : ((own.addClass name).removeClass other).addClass name =
      (own.addClass name).removeClass other := by
    rw [addClass, if_pos hkept]
  rw [hsame, removeClass_removeClass hleft]

theorem flagged_flagged (own : Attributes) (checked : Bool) :
    (own.flagged checked).flagged checked = own.flagged checked := by
  unfold flagged
  cases checked
  · exact exchange_exchange (by decide) (by decide)
  · exact exchange_exchange (by decide) (by decide)

/-! ## 3. Verdicts -/

/-- What a textbox lists besides its status after a verdict has been shown on it. -/
def unjudged (own : Attributes) : List (List Char) :=
  words (trim ([' '].intercalate (without Binding.statusClasses own.classes)))

/-- Trimming the list of a textbox without the classes of a status brings no such class to light. -/
def PlainlyMarked (own : Attributes) : Prop :=
  own.hasClass Binding.textboxClass = true →
    ∀ name ∈ Binding.statusClasses, name.toList ∉ own.unjudged

instance (own : Attributes) : Decidable own.PlainlyMarked :=
  inferInstanceAs (Decidable (_ → _))

section Textbox

variable (h : own.hasClass Binding.textboxClass = true)

include h

theorem textbox_mem_without :
    Binding.textboxClass.toList ∈ without Binding.statusClasses own.classes :=
  mem_without.mpr ⟨hasClass_iff.mp h, by decide⟩

theorem unmarked_eq :
    own.unmarked = own.withClasses (without Binding.statusClasses own.classes) := by
  have htextbox := textbox_mem_without h
  have hstatus : Binding.statusClasses = "validation-ok" :: Binding.statusClasses.tail := rfl
  rw [hstatus, without_cons] at htextbox ⊢
  have hfirst := List.ne_nil_of_mem (mem_without.mp htextbox).1
  rw [unmarked, hstatus, List.foldl_cons, removeClass_eq_without hfirst]
  exact foldl_removeClass_withClasses
    (fun w hw => isWord_of_mem_classes (mem_without.mp hw).1) (List.ne_nil_of_mem htextbox)

/-- The list of a textbox has one blank between its words, and comes from the words listed before. -/
theorem unjudged_spec :
    LeftOf (without Binding.statusClasses own.classes) own.unjudged ∧
      trim ([' '].intercalate (without Binding.statusClasses own.classes)) =
        [' '].intercalate own.unjudged ∧
      Binding.textboxClass.toList ∈ own.unjudged := by
  have hwords : ∀ w ∈ without Binding.statusClasses own.classes, IsWord w := fun w hw =>
    isWord_of_mem_classes (mem_without.mp hw).1
  obtain ⟨vs, hleft, heq⟩ := exists_trim_intercalate hwords
  have hvs : own.unjudged = vs := by
    rw [unjudged, heq]
    exact words_intercalate fun v hv => (hleft v hv).1
  refine ⟨hvs ▸ hleft, hvs ▸ heq, mem_words_trim (by decide) ?_⟩
  rw [words_intercalate hwords]
  exact textbox_mem_without h

/-- **A verdict on a textbox** writes its list anew, with the status at the end. -/
theorem judged_eq (verdict : Validation.Verdict) : own.judged verdict =
    (own.withClasses (own.unjudged ++ [(Binding.statusClass verdict.status).toList])).set
      "title" verdict.message := by
  obtain ⟨hleft, htrim, htextbox⟩ := unjudged_spec h
  have hnew : (Binding.statusClass verdict.status).toList ∉
      without Binding.statusClasses own.classes := fun hmem =>
    (mem_without.mp hmem).2 _ (Binding.statusClass_mem verdict.status) rfl
  rw [judged, unmarked_eq h, addClass_withClasses
    (fun w hw => isWord_of_mem_classes (mem_without.mp hw).1) (fun v hv => (hleft v hv).1) htrim
    (List.ne_nil_of_mem htextbox) hnew]

theorem isWord_unjudged_concat (verdict : Validation.Verdict) :
    ∀ w ∈ own.unjudged ++ [(Binding.statusClass verdict.status).toList], IsWord w := by
  have hsolid : ∀ name ∈ Binding.statusClasses, Solid name.toList := by decide
  refine List.forall_mem_append.mpr ⟨fun w hw => ((unjudged_spec h).1 w hw).1, ?_⟩
  exact List.forall_mem_singleton.mpr (hsolid _ (Binding.statusClass_mem verdict.status)).isWord

theorem get?_judged (verdict : Validation.Verdict) : (own.judged verdict).get? classAttribute =
    some (String.ofList ([' '].intercalate
      (own.unjudged ++ [(Binding.statusClass verdict.status).toList]))) := by
  rw [judged_eq h, get?_set, if_neg (by decide), get?_withClasses]

theorem classes_judged (verdict : Validation.Verdict) : (own.judged verdict).classes =
    own.unjudged ++ [(Binding.statusClass verdict.status).toList] := by
  rw [classes_congr (b := own.withClasses _) ((get?_judged h verdict).trans get?_withClasses.symm),
    classes_withClasses (isWord_unjudged_concat h verdict)]

theorem unjudged_judged (hplain : own.PlainlyMarked) (verdict : Validation.Verdict) :
    (own.judged verdict).unjudged = own.unjudged := by
  have hwithout : without Binding.statusClasses (own.judged verdict).classes = own.unjudged := by
    have hstatus : without Binding.statusClasses [(Binding.statusClass verdict.status).toList] = [] := by
      cases verdict.status <;> decide
    rw [classes_judged h, without, List.filter_append]
    change without _ _ ++ without _ _ = _
    rw [hstatus, List.append_nil, without_eq_self]
    rintro v hv name hname rfl
    exact hplain h name hname hv
  obtain ⟨hleft, htrim, _⟩ := unjudged_spec h
  rw [unjudged, hwithout, ← htrim, trim_trim, htrim]
  exact words_intercalate fun v hv => (hleft v hv).1

/-- **A verdict that is shown again changes nothing** on a plainly marked textbox. -/
theorem judged_judged (hplain : own.PlainlyMarked) (verdict : Validation.Verdict) :
    (own.judged verdict).judged verdict = own.judged verdict := by
  have htextbox : (own.judged verdict).hasClass Binding.textboxClass = true :=
    hasClass_iff.mpr (classes_judged h verdict ▸ List.mem_append_left _ (unjudged_spec h).2.2)
  have htitle : (own.judged verdict).get? "title" = some verdict.message := by
    rw [judged_eq h, get?_set, if_pos rfl]
  rw [judged_eq htextbox, unjudged_judged h hplain, withClasses_eq_self (get?_judged h verdict),
    set_eq_self htitle]

end Textbox

/-- A textbox is plainly marked if none of its classes is that of a status but for blanks around it. -/
theorem plainlyMarked_of_trim (h : ∀ w ∈ own.classes, ∀ name ∈ Binding.statusClasses,
    trim w = name.toList → w = name.toList) : own.PlainlyMarked := by
  intro htextbox name hname hmem
  have hsolid : ∀ name ∈ Binding.statusClasses, Solid name.toList := by decide
  obtain ⟨_, w, hw, heq⟩ := (unjudged_spec htextbox).1 _ hmem
  obtain ⟨hlisted, hnot⟩ := mem_without.mp hw
  rw [trim_eq_self (hsolid name hname).no_blank] at heq
  exact hnot name hname (h w hlisted name hname heq)

/-! ## 4. States -/

/-- **A state that is shown again changes nothing.** -/
theorem shown_shown (hplain : own.PlainlyMarked) (p : Placeholder) :
    (own.shown p).shown p = own.shown p := by
  cases hkind : p.kind with
  | textbox box =>
      by_cases h : own.hasClass Binding.textboxClass = true
      · have hkept := hasClass_shown (by decide) h (by decide) p
        have hshown : ∀ other : Attributes, other.hasClass Binding.textboxClass = true →
            other.shown p = other.judged (p.evaluate p.currentValue) := fun other hother => by
          simp only [shown, hkind, hother, if_true]
        rw [hshown _ hkept, hshown _ h, judged_judged h hplain]
      · have hsame : own.shown p = own := by simp only [shown, hkind, if_neg h]
        rw [hsame, hsame]
  | checkbox box =>
      by_cases h : own.hasClass Binding.checkboxClass = true
      · have hkept := hasClass_shown (by decide) h (by decide) p
        have hshown : ∀ other : Attributes, other.hasClass Binding.checkboxClass = true →
            other.shown p = other.flagged box.isChecked := fun other hother => by
          simp only [shown, hkind, hother, if_true]
        rw [hshown _ hkept, hshown _ h, flagged_flagged]
      · have hsame : own.shown p = own := by simp only [shown, hkind, if_neg h]
        rw [hsame, hsame]
  | dropdown box => simp only [shown, hkind]

section Foldl

variable {p : Placeholder} {ps : List Placeholder} (hps : ∀ q ∈ ps, q = p)

include hps

/-- A state that is shown already may be shown any number of times. -/
theorem foldl_shown_eq_self (hshown : own.shown p = own) : ps.foldl shown own = own := by
  induction ps with
  | nil => rfl
  | cons q rest ih =>
      obtain ⟨rfl, hrest⟩ := List.forall_mem_cons.mp hps
      rw [List.foldl_cons, hshown, ih hrest]

/-- However often a state is shown, it comes to showing it once. -/
theorem foldl_shown (hplain : own.PlainlyMarked) (hne : ps ≠ []) : ps.foldl shown own = own.shown p := by
  cases ps with
  | nil => exact absurd rfl hne
  | cons q rest =>
      obtain ⟨rfl, hrest⟩ := List.forall_mem_cons.mp hps
      exact foldl_shown_eq_self hrest (shown_shown hplain q)

end Foldl

end Placeholders.Markup.Attributes
