import Placeholders.Proofs.Editors.Outfits

/-!
# What is under an outfit

A binding that the engine has made lists its classes one blank apart and then names its placeholder. What
it wears as an editor comes on top and comes off again.

* `Over` says that attributes are those of such a binding with an outfit over them. Everything that
  editors do to attributes keeps it (`Over.clad`, `Over.judged`).
* Stripping leaves the binding as it was (`Over.stripped_eq`). One thing does not come off: the class that
  shows the state of a box. It is therefore counted among what is under the outfit (`Over.flagged`).
-/

namespace Placeholders

open Placeholders.Text

/-- The state of a box that shows when a placeholder has been shown on its editor. -/
def Placeholder.flagOn (p : Placeholder) (flag : Option Bool) : Option Bool :=
  match p.kind with
  | .checkbox box => some box.isChecked
  | _ => flag

theorem Placeholder.flagOn_flagOn {p q : Placeholder}
    (h : EditorKind.ofKind q.kind = EditorKind.ofKind p.kind) (flag : Option Bool) :
    q.flagOn (p.flagOn flag) = q.flagOn flag := by
  unfold flagOn
  cases hq : q.kind with
  | checkbox box => rfl
  | _ =>
      rw [hq] at h
      cases hp : p.kind with
      | checkbox box => rw [hp] at h; cases h
      | _ => rfl

theorem Placeholder.flagOn_eq_self {p : Placeholder}
    (h : EditorKind.ofKind p.kind ≠ .checkbox) (flag : Option Bool) : p.flagOn flag = flag := by
  unfold flagOn
  cases hp : p.kind with
  | checkbox box => exact absurd (congrArg EditorKind.ofKind hp) h
  | _ => rfl

namespace Markup.Attributes

/-! ## 1. Bindings that are no editors -/

/-- The class that shows the state of a box. -/
def flagClass (checked : Bool) : String :=
  if checked then Binding.checkedClass else Binding.uncheckedClass

theorem solid_flagClass (checked : Bool) : Solid (flagClass checked).toList := by
  cases checked <;> decide

theorem flagClass_ne_not (checked : Bool) : flagClass checked ≠ flagClass !checked := by
  cases checked <;> decide

/-- The classes of a binding that is no editor, with the state of a box if it has been one for a
    checkbox. -/
def plainClasses (base : List String) (flag : Option Bool) : List String :=
  base ++ (flag.map flagClass).toList

/-- The attributes of a binding that is no editor. -/
def plain (base : List String) (name : String) (flag : Option Bool) : Attributes :=
  [(classAttribute, listing (plainClasses base flag)), (Binding.nameAttribute, name)]

/-- What becomes of names when the state of a box is shown among them. -/
def flagNames (checked : Bool) (names : List String) : List String :=
  (if names.contains (flagClass checked) then names else names ++ [flagClass checked]).filter
    (· != flagClass !checked)

/-- Classes that are not part of an outfit. -/
def isLasting (c : String) : Bool := !Hub.editorClasses.contains c

theorem solid_of_mem_editorClasses : ∀ c ∈ Hub.editorClasses, Solid c.toList := by decide

theorem isLasting_flagClass (checked : Bool) : isLasting (flagClass checked) = true := by
  cases checked <;> decide

theorem filter_flagNames (checked : Bool) (names : List String) :
    (flagNames checked names).filter isLasting = flagNames checked (names.filter isLasting) := by
  have hcontains : (names.filter isLasting).contains (flagClass checked) =
      names.contains (flagClass checked) := by
    rw [Bool.eq_iff_iff, List.contains_iff_mem, List.contains_iff_mem, List.mem_filter]
    exact and_iff_left (isLasting_flagClass checked)
  unfold flagNames
  rw [hcontains, List.filter_filter]
  simp only [Bool.and_comm (isLasting _)]
  rw [← List.filter_filter]
  split
  · rfl
  · rw [List.filter_append, List.filter_cons_of_pos (isLasting_flagClass checked), List.filter_nil]

/-- **The state of a box takes the place of the one before.** -/
theorem flagNames_plainClasses {base : List String} (hbase : ∀ checked, flagClass checked ∉ base)
    (flag : Option Bool) (checked : Bool) :
    flagNames checked (plainClasses base flag) = plainClasses base (some checked) := by
  have hkept : base.filter (· != flagClass !checked) = base :=
    List.filter_eq_self.mpr fun c hc => bne_iff_ne.mpr fun heq => hbase _ (heq ▸ hc)
  have hself : [flagClass checked].filter (· != flagClass !checked) = [flagClass checked] :=
    List.filter_cons_of_pos (bne_iff_ne.mpr (flagClass_ne_not checked))
  unfold flagNames plainClasses
  cases flag with
  | none =>
      have hnew : (base ++ ((none : Option Bool).map flagClass).toList).contains (flagClass checked) =
          false := by
        simpa using hbase checked
      rw [hnew]
      simp only [Bool.false_eq_true, if_false, Option.map_none, Option.toList_none, List.append_nil,
        List.filter_append, hkept, hself, Option.map_some, Option.toList_some]
  | some before =>
      by_cases hsame : before = checked
      · subst hsame
        have hold : (base ++ ((some before).map flagClass).toList).contains (flagClass before) = true := by
          simp
        rw [if_pos hold]
        simp only [Option.map_some, Option.toList_some, List.filter_append, hkept, hself]
      · obtain rfl : before = !checked := by
          simpa using Bool.eq_not_of_ne hsame
        have hnew : (base ++ ((some !checked).map flagClass).toList).contains (flagClass checked) =
            false := by
          simp [hbase checked, flagClass_ne_not checked]
        rw [hnew]
        simp [List.filter_append, hkept, hself]

/-! ## 2. Listings -/

/-- Names that list what is under an outfit, and what belongs to the outfit. -/
structure Fitting (base : List String) (flag : Option Bool) (names : List String) : Prop where
  solid : ∀ c ∈ names, Solid c.toList
  under : names.filter isLasting = plainClasses base flag
  some_base : base ≠ []
  unflagged : ∀ checked, flagClass checked ∉ base

namespace Fitting

variable {base names : List String} {flag : Option Bool} {c : String}

theorem ne_nil (h : Fitting base flag names) : names ≠ [] := by
  rintro rfl
  have hnil := h.under.symm
  rw [List.filter_nil, plainClasses, List.append_eq_nil_iff] at hnil
  exact h.some_base hnil.1

theorem not_isLasting (hc : c ∈ Hub.editorClasses) : isLasting c = false := by
  rw [isLasting, List.contains_iff_mem.mpr hc]
  rfl

theorem add (h : Fitting base flag names) (hc : c ∈ Hub.editorClasses) :
    Fitting base flag (if names.contains c then names else names ++ [c]) := by
  split
  · exact h
  · refine ⟨fun d hd => ?_, ?_, h.some_base, h.unflagged⟩
    · rcases List.mem_append.mp hd with hd | hd
      · exact h.solid d hd
      · exact List.mem_singleton.mp hd ▸ solid_of_mem_editorClasses c hc
    · have hnone : [c].filter isLasting = [] :=
        List.filter_cons_of_neg (by rw [not_isLasting hc]; exact Bool.false_ne_true)
      rw [List.filter_append, hnone, List.append_nil, h.under]

theorem drop (h : Fitting base flag names) (hc : c ∈ Hub.editorClasses) :
    Fitting base flag (names.filter (· != c)) := by
  refine ⟨fun d hd => h.solid d (List.mem_filter.mp hd).1, ?_, h.some_base, h.unflagged⟩
  rw [List.filter_filter, ← h.under]
  refine List.filter_congr fun d _ => ?_
  cases hlasting : isLasting d with
  | false => rfl
  | true =>
      have hne : d ≠ c := by
        rintro rfl
        rw [not_isLasting hc] at hlasting
        cases hlasting
      rw [bne_iff_ne.mpr hne]
      rfl

theorem showFlag (h : Fitting base flag names) (checked : Bool) :
    Fitting base (some checked) (flagNames checked names) := by
  refine ⟨fun d hd => ?_, ?_, h.some_base, h.unflagged⟩
  · have hd' := (List.mem_filter.mp hd).1
    split at hd'
    · exact h.solid d hd'
    · rcases List.mem_append.mp hd' with hd' | hd'
      · exact h.solid d hd'
      · exact List.mem_singleton.mp hd' ▸ solid_flagClass checked
  · rw [filter_flagNames, h.under, flagNames_plainClasses h.unflagged]

end Fitting

/-- Showing the state of a box in a listing. -/
theorem flagged_listing {base names : List String} {flag : Option Bool} (h : Fitting base flag names)
    (rest : Attributes) (checked : Bool) :
    flagged ((classAttribute, listing names) :: rest) checked =
      (classAttribute, listing (flagNames checked names)) :: rest := by
  have hshown := h.showFlag checked
  have hadded : ∀ c ∈ (if names.contains (flagClass checked) then names
      else names ++ [flagClass checked]), Solid c.toList := by
    intro c hc
    split at hc
    · exact h.solid c hc
    · rcases List.mem_append.mp hc with hc | hc
      · exact h.solid c hc
      · exact List.mem_singleton.mp hc ▸ solid_flagClass checked
  have hboth : (addClass ((classAttribute, listing names) :: rest) (flagClass checked)).removeClass
      (flagClass !checked) = (classAttribute, listing (flagNames checked names)) :: rest := by
    rw [addClass_listing h.solid rest h.ne_nil, removeClass_listing hadded rest hshown.ne_nil]
    rfl
  rw [← hboth]
  cases checked <;> rfl

/-! ## 3. Outfits -/

/-- The attributes of a binding of a name that has an outfit over them. -/
def Over (base : List String) (name : String) (flag : Option Bool) (own : Attributes) : Prop :=
  ∃ names extras, own = (classAttribute, listing names) :: (Binding.nameAttribute, name) :: extras ∧
    Fitting base flag names ∧ ∀ entry ∈ extras, entry.1 ∈ Hub.editorAttributes

namespace Over

variable {base : List String} {name : String} {flag : Option Bool} {own : Attributes}

theorem addClass (h : Over base name flag own) {c : String} (hc : c ∈ Hub.editorClasses) :
    Over base name flag (own.addClass c) := by
  obtain ⟨names, extras, rfl, hfit, hextras⟩ := h
  rw [addClass_listing hfit.solid _ hfit.ne_nil]
  exact ⟨_, _, rfl, hfit.add hc, hextras⟩

theorem removeClass (h : Over base name flag own) {c : String} (hc : c ∈ Hub.editorClasses) :
    Over base name flag (own.removeClass c) := by
  obtain ⟨names, extras, rfl, hfit, hextras⟩ := h
  rw [removeClass_listing hfit.solid _ (hfit.drop hc).ne_nil]
  exact ⟨_, _, rfl, hfit.drop hc, hextras⟩

theorem ne_of_mem_editorAttributes {key : String} (hkey : key ∈ Hub.editorAttributes) :
    classAttribute ≠ key ∧ Binding.nameAttribute ≠ key := by
  revert key
  decide

theorem set (h : Over base name flag own) {key : String} (hkey : key ∈ Hub.editorAttributes)
    (value : String) : Over base name flag (own.set key value) := by
  obtain ⟨names, extras, rfl, hfit, hextras⟩ := h
  obtain ⟨hclass, hname⟩ := ne_of_mem_editorAttributes hkey
  refine ⟨names, Attributes.set extras key value, ?_, hfit, ?_⟩
  · simp only [Attributes.set, if_neg hclass, if_neg hname]
  · intro entry hentry
    have hset : ∀ attributes : Attributes, entry ∈ attributes.set key value →
        entry.1 = key ∨ entry ∈ attributes := by
      intro attributes
      induction attributes with
      | nil => exact fun hmem => .inl (congrArg (·.1) (List.mem_singleton.mp hmem))
      | cons first rest ih =>
          unfold Attributes.set
          split
          · rename_i hfirst
            intro hmem
            rcases List.mem_cons.mp hmem with rfl | hmem
            · exact .inl hfirst
            · exact .inr (List.mem_cons_of_mem _ hmem)
          · intro hmem
            rcases List.mem_cons.mp hmem with rfl | hmem
            · exact .inr List.mem_cons_self
            · exact (ih hmem).imp_right (List.mem_cons_of_mem _)
    rcases hset extras hentry with heq | hmem
    · rwa [heq]
    · exact hextras entry hmem

theorem flagged (h : Over base name flag own) (checked : Bool) :
    Over base name (some checked) (own.flagged checked) := by
  obtain ⟨names, extras, rfl, hfit, hextras⟩ := h
  rw [flagged_listing hfit]
  exact ⟨_, _, rfl, hfit.showFlag checked, hextras⟩

theorem foldl_removeClass (h : Over base name flag own) {cs : List String}
    (hcs : ∀ c ∈ cs, c ∈ Hub.editorClasses) :
    Over base name flag (cs.foldl Attributes.removeClass own) := by
  induction cs generalizing own with
  | nil => exact h
  | cons c rest ih =>
      obtain ⟨hc, hrest⟩ := List.forall_mem_cons.mp hcs
      exact ih (h.removeClass hc) hrest

/-- **A verdict is part of an outfit.** -/
theorem judged (h : Over base name flag own) (verdict : Validation.Verdict) :
    Over base name flag (own.judged verdict) := by
  have hunmarked : Over base name flag own.unmarked :=
    h.foldl_removeClass fun c hc => List.mem_append_right _ hc
  refine (hunmarked.addClass ?_).set (by decide) _
  exact List.mem_append_right _ (Binding.statusClass_mem _)

theorem clad (h : Over base name flag own) (kind : EditorKind) : Over base name flag (own.clad kind) := by
  have hstyle : kind.styleClass ∈ Hub.editorClasses := by cases kind <;> decide
  have hset : Over base name flag
      (((own.addClass Binding.editorClass).addClass kind.styleClass).set "tabindex" "0") :=
    ((h.addClass (by decide)).addClass hstyle).set (by decide) _
  unfold Attributes.clad
  dsimp only
  split
  · exact hset.set (by decide) _
  · exact hset

/-! ## 4. Stripping -/

theorem foldl_removeClass_listing {names : List String} (hsolid : ∀ c ∈ names, Solid c.toList)
    (rest : Attributes) {cs : List String} (hleft : names.filter (fun c => !cs.contains c) ≠ []) :
    cs.foldl Attributes.removeClass ((classAttribute, listing names) :: rest) =
      (classAttribute, listing (names.filter fun c => !cs.contains c)) :: rest := by
  induction cs generalizing names with
  | nil => simp
  | cons c more ih =>
      have hsplit : names.filter (fun d => !(c :: more).contains d) =
          (names.filter (· != c)).filter fun d => !more.contains d := by
        rw [List.filter_filter]
        refine List.filter_congr fun d _ => ?_
        rw [List.contains_cons, Bool.not_or, Bool.and_comm]
        rfl
      rw [hsplit] at hleft ⊢
      have hfirst : names.filter (· != c) ≠ [] := fun hnil => hleft (by rw [hnil]; rfl)
      rw [List.foldl_cons, removeClass_listing hsolid rest hfirst]
      exact ih (fun d hd => hsolid d (List.mem_filter.mp hd).1) hleft

theorem foldl_remove (keys : List String) (own : Attributes) :
    keys.foldl Attributes.remove own = own.filter fun entry => !keys.contains entry.1 := by
  induction keys generalizing own with
  | nil => simp
  | cons key rest ih =>
      rw [List.foldl_cons, ih, Attributes.remove, List.filter_filter]
      refine List.filter_congr fun entry _ => ?_
      rw [List.contains_cons, Bool.not_or, Bool.and_comm]
      rfl

/-- **Stripping takes the outfit off**, and nothing else. -/
theorem stripped_eq (h : Over base name flag own) : own.stripped = plain base name flag := by
  obtain ⟨names, extras, rfl, hfit, hextras⟩ := h
  have hleft : names.filter (fun c => !Hub.editorClasses.contains c) = plainClasses base flag :=
    hfit.under
  have hne : plainClasses base flag ≠ [] := fun hnil =>
    hfit.some_base (List.append_eq_nil_iff.mp hnil).1
  have hgone : extras.filter (fun entry => !Hub.editorAttributes.contains entry.1) = [] := by
    refine List.filter_eq_nil_iff.mpr fun entry hentry => ?_
    rw [List.contains_iff_mem.mpr (hextras entry hentry)]
    exact Bool.false_ne_true
  have hclass : (!Hub.editorAttributes.contains classAttribute) = true := by decide
  have hname : (!Hub.editorAttributes.contains Binding.nameAttribute) = true := by decide
  unfold stripped
  rw [foldl_removeClass_listing hfit.solid _ (hleft ▸ hne), hleft, foldl_remove]
  simp only [List.filter_cons, hclass, hname, hgone, if_true]
  rfl

theorem fitting_plainClasses (h : Over base name flag own) :
    Fitting base flag (plainClasses base flag) := by
  obtain ⟨names, extras, _, hfit, _⟩ := h
  refine ⟨fun c hc => ?_, ?_, hfit.some_base, hfit.unflagged⟩
  · exact hfit.solid c (List.mem_filter.mp (hfit.under ▸ hc)).1
  · rw [← hfit.under, List.filter_filter]
    simp

/-- What is under an outfit is a binding without one. -/
theorem plain (h : Over base name flag own) : Over base name flag (plain base name flag) :=
  ⟨_, [], rfl, h.fitting_plainClasses, fun _ hentry => absurd hentry List.not_mem_nil⟩

theorem stripped (h : Over base name flag own) : Over base name flag own.stripped := by
  rw [h.stripped_eq]
  exact h.plain

/-- Showing the state of a box on a binding that is no editor. -/
theorem flagged_plain (h : Over base name flag own) (checked : Bool) :
    (Attributes.plain base name flag).flagged checked = Attributes.plain base name (some checked) := by
  have hfit := h.fitting_plainClasses
  refine (flagged_listing hfit _ checked).trans ?_
  rw [flagNames_plainClasses hfit.unflagged]
  rfl

/-- A binding that is no editor has none of the classes of an editor. -/
theorem hasClass_plain (h : Over base name flag own) {c : String} (hc : c ∈ Hub.editorClasses) :
    (Attributes.plain base name flag).hasClass c = false := by
  have hfit := h.fitting_plainClasses
  refine (hasClass_listing hfit.solid _ c).trans ?_
  rw [← hfit.under]
  simp [Fitting.not_isLasting hc]

/-! ## 5. Showing states -/

/-- **Showing a placeholder on its editor** changes the state of a box at most. -/
theorem shown (h : Over base name flag own) {p : Placeholder}
    (hclass : own.hasClass (EditorKind.ofKind p.kind).styleClass = true) :
    Over base name (p.flagOn flag) (own.shown p) := by
  obtain ⟨pname, description, kind, _⟩ := p
  cases kind with
  | textbox box =>
      have hshown : own.hasClass Binding.textboxClass = true := hclass
      simp only [Attributes.shown, hshown, if_true]
      exact h.judged _
  | checkbox box =>
      have hshown : own.hasClass Binding.checkboxClass = true := hclass
      simp only [Attributes.shown, hshown, if_true]
      exact h.flagged _
  | dropdown menu => exact h

/-- Whatever is shown on an outfit, it is one. -/
theorem exists_shown (h : Over base name flag own) (p : Placeholder) :
    ∃ shownFlag, Over base name shownFlag (own.shown p) := by
  unfold Attributes.shown
  split
  · split
    · exact ⟨_, h.judged _⟩
    · exact ⟨_, h⟩
  · split
    · exact ⟨_, h.flagged _⟩
    · exact ⟨_, h⟩
  · exact ⟨_, h⟩

/-- **An editor is an outfit over the binding that it was**, and shows the state of a box. -/
theorem dressed (h : Over base name flag own) (p : Placeholder) :
    Over base name (p.flagOn flag) (own.dressed p) :=
  (h.clad _).shown (hasClass_editor_clad own _).2

/-- Nothing is shown on a binding that is no editor. -/
theorem shown_plain (h : Over base name flag own) (p : Placeholder) :
    (Attributes.plain base name flag).shown p = Attributes.plain base name flag := by
  have htextbox := h.hasClass_plain (c := Binding.textboxClass) (by decide)
  have hcheckbox := h.hasClass_plain (c := Binding.checkboxClass) (by decide)
  unfold Attributes.shown
  rw [htextbox, hcheckbox]
  cases p.kind <;> rfl

theorem foldl_shown_plain (h : Over base name flag own) (ps : List Placeholder) :
    ps.foldl Attributes.shown (Attributes.plain base name flag) = Attributes.plain base name flag := by
  induction ps with
  | nil => rfl
  | cons p rest ih => rw [List.foldl_cons, h.shown_plain, ih]

/-- **An editor shows the state of its placeholder** after a refresh, if the refresh has come to the
    placeholder or left its kind as it was. -/
theorem foldl_shown {p q : Placeholder} (h : Over base name (p.flagOn flag) own)
    (hkind : EditorKind.ofKind q.kind = EditorKind.ofKind p.kind)
    (hclass : own.hasClass (EditorKind.ofKind q.kind).styleClass = true) {ps : List Placeholder}
    (hps : ∀ r ∈ ps, r = q) (hsome : q ∈ ps ∨ q.kind = p.kind) :
    Over base name (q.flagOn flag) (ps.foldl Attributes.shown own) := by
  induction ps generalizing own p with
  | nil =>
      have hsame := hsome.resolve_left List.not_mem_nil
      have hflag : q.flagOn flag = p.flagOn flag := by
        unfold Placeholder.flagOn
        rw [hsame]
      rw [hflag]
      exact h
  | cons r rest ih =>
      obtain ⟨rfl, hrest⟩ := List.forall_mem_cons.mp hps
      have hshown := h.shown hclass
      rw [Placeholder.flagOn_flagOn hkind] at hshown
      exact ih hshown rfl (keeps_shown r own _ (EditorKind.solid_styleClass _)
        (EditorKind.styleClass_not_passing _) hclass) hrest (.inr rfl)

/-- **A binding that becomes an editor** of a placeholder, however often that is. -/
theorem foldl_dressed (h : Over base name flag own) {p : Placeholder} {ps : List Placeholder}
    (hp : p ∈ ps) (hps : ∀ q ∈ ps, q = p) :
    Over base name (p.flagOn flag) (ps.foldl Attributes.dressed own) := by
  -- what is dressed once more shows what it has shown before
  have hagain : ∀ (rest : List Placeholder) {own : Attributes}, Over base name (p.flagOn flag) own →
      (∀ q ∈ rest, q = p) → Over base name (p.flagOn flag) (rest.foldl Attributes.dressed own) := by
    intro rest
    induction rest with
    | nil => exact fun hown _ => hown
    | cons q rest ih =>
        intro own hown hall
        obtain ⟨rfl, hrest⟩ := List.forall_mem_cons.mp hall
        have hdressed := hown.dressed q
        rw [Placeholder.flagOn_flagOn rfl] at hdressed
        exact ih hdressed hrest
  cases ps with
  | nil => exact absurd hp List.not_mem_nil
  | cons q rest =>
      obtain ⟨rfl, hrest⟩ := List.forall_mem_cons.mp hps
      exact hagain rest (h.dressed q) hrest

end Over

/-! ## 6. Editors and others -/

/-- The attributes of a binding that has an outfit over them if it is an editor, and none otherwise. -/
structure Garment (base : List String) (name : String) (flag : Option Bool) (own : Attributes) :
    Prop where
  outfit : Over base name flag own
  bare : own.hasClass Binding.editorClass = false → own = plain base name flag

namespace Garment

variable {base : List String} {name : String} {flag : Option Bool} {own : Attributes}

theorem exists_shown (h : Garment base name flag own) (p : Placeholder) :
    ∃ shownFlag, Garment base name shownFlag (own.shown p) := by
  cases hbefore : own.hasClass Binding.editorClass with
  | false =>
      refine ⟨flag, ?_⟩
      rw [h.bare hbefore, h.outfit.shown_plain]
      exact ⟨h.outfit.plain, fun _ => rfl⟩
  | true =>
      obtain ⟨shownFlag, hover⟩ := h.outfit.exists_shown p
      refine ⟨shownFlag, hover, fun hnone => ?_⟩
      rw [hasClass_shown (by decide) hbefore (by decide)] at hnone
      cases hnone

theorem dressed (h : Garment base name flag own) (p : Placeholder) :
    Garment base name (p.flagOn flag) (own.dressed p) := by
  refine ⟨h.outfit.dressed p, fun hnone => ?_⟩
  rw [(hasClass_editor_dressed own p).1] at hnone
  cases hnone

theorem stripped (h : Garment base name flag own) : Garment base name flag own.stripped :=
  ⟨h.outfit.stripped, fun _ => h.outfit.stripped_eq⟩

/-- There is nothing to be taken off what is no editor. -/
theorem stripped_eq_self (h : Garment base name flag own)
    (hnone : own.hasClass Binding.editorClass = false) : own.stripped = own :=
  h.outfit.stripped_eq.trans (h.bare hnone).symm

end Garment

end Markup.Attributes

end Placeholders
