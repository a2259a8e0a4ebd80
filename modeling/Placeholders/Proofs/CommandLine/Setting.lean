import Placeholders.CommandLine.Report
import Placeholders.Proofs.Engine.Refusal
import Placeholders.Proofs.Engine.Reload

/-!
# Values by text

What the command that sets a value makes of the text that it is given.

* `asked?` is the value that a text asks for: itself, that of a state of a checkbox, or that of a choice.
  It is what the placeholder has afterwards (`gives_iff`).
* A placeholder should be given every value that it can take by the text of that value. This is so
  (`gives_self_iff`) but for values of a dropdown that the command reads as something else, which `Reads`
  says: digits are a position, and the name that an earlier choice is displayed under is that choice.
-/

namespace Placeholders

open Placeholders.Storage Placeholders.Text

/-- The values that a placeholder can take: texts that its rule-sets accept, the values of the two states,
    or those of the choices. -/
def Placeholder.CanTake (p : Placeholder) (value : String) : Prop :=
  match p.kind with
  | .textbox _ => p.accepts value = true
  | .checkbox box => value = box.checkedValue ∨ value = box.uncheckedValue
  | .dropdown menu => ∃ choice ∈ menu.choices, choice.value = value

/-- The text of a value is read as a choice of that value. A number is read as a position; any other text
    must not be what an earlier choice is displayed under. -/
def Dropdown.Reads (menu : Dropdown) (value : String) : Prop :=
  match unsigned? 10 wordBound value.toList with
  | some i => ∃ choice, menu.choices[i]? = some choice ∧ choice.value = value
  | none => ∃ before choice after, menu.choices = before ++ choice :: after ∧ choice.value = value ∧
      ∀ other ∈ before, other.displayName ≠ value

/-- The menu of a dropdown. -/
def Kind.menu? : Kind → Option Dropdown
  | .dropdown menu => some menu
  | _ => none

theorem Kind.eq_of_menu? {kind : Kind} {menu : Dropdown} (h : kind.menu? = some menu) :
    kind = .dropdown menu := by
  cases kind with
  | textbox | checkbox => cases h
  | dropdown own => exact congrArg Kind.dropdown (Option.some.inj h)

namespace CommandLine

open Placeholders.Engine

/-! ## 1. What a text asks for -/

/-- The value that a text asks for, if it asks for any. -/
def asked? (p : Placeholder) (text : String) : Option String :=
  match p.kind with
  | .textbox _ => if p.accepts text then some text else none
  | .checkbox box => (checkedOf? box text).map box.valueFor
  | .dropdown menu => (indexOf? menu text).bind fun i => (menu.choices[i]?).map (·.value)

/-- The texts of the two states are read before any common words. -/
theorem valueFor_of_checkedOf? {box : Checkbox} {value : String}
    (h : value = box.checkedValue ∨ value = box.uncheckedValue) :
    (checkedOf? box value).map box.valueFor = some value := by
  unfold checkedOf?
  by_cases hchecked : value = box.checkedValue
  · rw [if_pos hchecked]
    exact congrArg some hchecked.symm
  · have hunchecked : value = box.uncheckedValue := h.resolve_left hchecked
    rw [if_neg hchecked, if_pos hunchecked]
    exact congrArg some hunchecked.symm

/-- Of a text that is no number, the first choice counts that has it as its value or its name. -/
theorem indexOf?_of_not_number {menu : Dropdown} {value : String}
    (hnumber : unsigned? 10 wordBound value.toList = none) :
    indexOf? menu value =
      menu.choices.findIdx? fun choice => choice.value == value || choice.displayName == value := by
  rw [indexOf?, hnumber]
  rfl

/-- A value that is no number is found if a choice has it. -/
theorem exists_indexOf? {menu : Dropdown} {choice : Choice} (hmem : choice ∈ menu.choices)
    (hnumber : unsigned? 10 wordBound choice.value.toList = none) :
    ∃ i, indexOf? menu choice.value = some i ∧ i < menu.choices.length := by
  have hsome : (menu.choices.findIdx? fun other =>
      other.value == choice.value || other.displayName == choice.value).isSome := by
    rw [List.findIdx?_isSome]
    refine List.any_eq_true.mpr ⟨choice, hmem, ?_⟩
    simp
  obtain ⟨i, hfound⟩ := Option.isSome_iff_exists.mp hsome
  obtain ⟨hlt, _⟩ := List.findIdx?_eq_some_iff_getElem.mp hfound
  exact ⟨i, (indexOf?_of_not_number hnumber).trans hfound, hlt⟩

theorem indexOf?_of_number {menu : Dropdown} {value : String} {i : Nat}
    (hnumber : unsigned? 10 wordBound value.toList = some i) : indexOf? menu value = some i := by
  rw [indexOf?, hnumber]
  rfl

/-- **The text of a value asks for that value exactly if it is read so.** -/
theorem asked?_dropdown_iff {p : Placeholder} {menu : Dropdown} (hkind : p.kind = .dropdown menu)
    (value : String) : asked? p value = some value ↔ menu.Reads value := by
  simp only [asked?, hkind]
  unfold Dropdown.Reads
  cases hnumber : unsigned? 10 wordBound value.toList with
  | some i =>
      rw [indexOf?_of_number hnumber, Option.bind_some, Option.map_eq_some_iff]
  | none =>
      rw [indexOf?_of_not_number hnumber]
      constructor
      · intro h
        obtain ⟨i, hfound, hvalue⟩ := Option.bind_eq_some_iff.mp h
        obtain ⟨choice, hchoice, hvalue⟩ := Option.map_eq_some_iff.mp hvalue
        obtain ⟨hlt, rfl⟩ := List.getElem?_eq_some_iff.mp hchoice
        obtain ⟨_, _, hbefore⟩ := List.findIdx?_eq_some_iff_getElem.mp hfound
        refine ⟨menu.choices.take i, menu.choices[i], menu.choices.drop (i + 1), ?_, hvalue, ?_⟩
        · rw [← List.drop_eq_getElem_cons hlt, List.take_append_drop]
        · intro other hother
          obtain ⟨j, hj, rfl⟩ := List.mem_take_iff_getElem.mp hother
          have hnot := hbefore j (by omega)
          simp only [Bool.or_eq_true, beq_iff_eq, not_or] at hnot
          exact hnot.2
      · intro h
        obtain ⟨before, choice, after, hchoices, hvalue, hbefore⟩ := h
        have hlt : before.length < menu.choices.length := by
          rw [hchoices]
          simp
        have hsome : menu.choices[before.length]? = some choice := by
          rw [hchoices]
          simp
        subst hvalue
        obtain ⟨i, hfound, _⟩ := exists_indexOf? (List.mem_of_getElem? hsome) hnumber
        rw [indexOf?_of_not_number hnumber] at hfound
        obtain ⟨hi, hreads, hfirst⟩ := List.findIdx?_eq_some_iff_getElem.mp hfound
        rw [hfound, Option.bind_some, List.getElem?_eq_getElem hi, Option.map_some]
        refine congrArg some ?_
        -- the choice that is found is this one, or an earlier one, which is not displayed under the text
        rcases Nat.lt_trichotomy i before.length with hearlier | heq | hlater
        · have hmem : menu.choices[i] ∈ before := by
            have hat : menu.choices[i] = before[i] := by
              simp only [hchoices, List.getElem_append_left hearlier]
            rw [hat]
            exact List.getElem_mem hearlier
          simpa [hbefore _ hmem] using hreads
        · subst heq
          rw [List.getElem?_eq_getElem hi] at hsome
          rw [Option.some.inj hsome]
        · have hnot := hfirst before.length hlater
          rw [List.getElem?_eq_getElem hlt] at hsome
          rw [Option.some.inj hsome] at hnot
          simp at hnot

/-- The text of a choice asks for something, unless it is the number of no choice. -/
theorem exists_index_of_asked?_eq_none {p : Placeholder} {menu : Dropdown}
    (hkind : p.kind = .dropdown menu) {value : String} (hvalue : p.CanTake value)
    (hasked : asked? p value = none) :
    ∃ i, unsigned? 10 wordBound value.toList = some i ∧ menu.choices[i]? = none := by
  simp only [Placeholder.CanTake, hkind] at hvalue
  simp only [asked?, hkind, Option.bind_eq_none_iff, Option.map_eq_none_iff] at hasked
  cases hnumber : unsigned? 10 wordBound value.toList with
  | some i => exact ⟨i, rfl, hasked i (indexOf?_of_number hnumber)⟩
  | none =>
      obtain ⟨choice, hmem, rfl⟩ := hvalue
      obtain ⟨i, hindex, hlt⟩ := exists_indexOf? hmem hnumber
      have hnone := hasked i hindex
      rw [List.getElem?_eq_getElem hlt] at hnone
      cases hnone

/-- A value that a placeholder can take is asked for by its text, if that is not read otherwise. -/
theorem asked?_self_iff {p : Placeholder} {value : String} (hvalue : p.CanTake value) :
    asked? p value = some value ↔ ∀ menu, p.kind = .dropdown menu → menu.Reads value := by
  cases hkind : p.kind with
  | textbox box =>
      simp only [Placeholder.CanTake, hkind] at hvalue
      refine iff_of_true ?_ fun _ h => by cases h
      simp only [asked?, hkind, hvalue, if_true]
  | checkbox box =>
      simp only [Placeholder.CanTake, hkind] at hvalue
      refine iff_of_true ?_ fun _ h => by cases h
      simp only [asked?, hkind]
      exact valueFor_of_checkedOf? hvalue
  | dropdown menu =>
      rw [asked?_dropdown_iff hkind]
      refine ⟨fun h other heq => ?_, fun h => h menu rfl⟩
      cases heq
      exact h

/-! ## 2. What the command does -/

/-- A text gives a placeholder a value: the change is made, perhaps with a cycle opened on the way, and
    the raw value is that one. -/
def Gives (e : Engine) (name text value : String) : Prop :=
  ∃ answer after o, change e name text = .ok (answer, after) ∧ outcome? answer = some o ∧
    (after.registry.get? name).map (·.currentValue) = some value

theorem Gives.unique {e : Engine} {name text value other : String} (h : Gives e name text value)
    (h' : Gives e name text other) : value = other := by
  obtain ⟨answer, after, _, hchange, _, hvalue⟩ := h
  obtain ⟨answer', after', _, hchange', _, hvalue'⟩ := h'
  obtain ⟨rfl, rfl⟩ := Prod.mk.inj (Except.ok.inj (hchange.symm.trans hchange'))
  exact Option.some.inj (hvalue.symm.trans hvalue')

section Change

variable {e : Engine} {name text : String} {p : Placeholder}

/-- The raw value that is written is still there after the change has been followed. -/
theorem exists_written (he : e.Sound) (hp : e.registry.get? name = some p) (edit : Edit)
    (store : Store) :
    ∃ o, outcome? (((e.storing store).writing name edit.on).commit name).1 = some o ∧
      ((((e.storing store).writing name edit.on).commit name).2.registry.get? name).map
        (·.currentValue) = some (edit.on p).currentValue := by
  obtain ⟨o, ho, hfollowed⟩ := commit_writing he (Registry.contains_of_get? hp) store edit.writes_on
  refine ⟨o, ho, ?_⟩
  obtain ⟨rfl, i, hi⟩ := Registry.exists_at_of_get? hp
  have hwritten : ((e.storing store).writing p.name edit.on).registry.placeholders[i]? =
      some (edit.on p) := by
    show (e.registry.modify p.name edit.on).placeholders[i]? = _
    rw [getElem?_modify he.distinct, hi, Option.map_some, if_pos rfl]
  obtain ⟨q, hq, hraw⟩ := hfollowed.alike.symm.exists_at hwritten
  obtain ⟨hname, _, hvalue⟩ := Placeholder.of_raw_eq hraw
  obtain ⟨kind, value, hon⟩ := edit.writes_on p
  have hfound := Registry.get?_eq_some hfollowed.sound.distinct hq
  rw [hname, hon] at hfound
  rw [hfound, Option.map_some, hvalue]

/-- **A text that asks for a value is stored and written as that value.** -/
theorem exists_edit_of_asked? (hp : e.registry.get? name = some p) (hopen : p.readOnly = false)
    (hworks : e.store.backend.faults.next = false) {value : String}
    (hasked : asked? p text = some value) :
    ∃ (edit : Edit) (store : Store), (edit.on p).currentValue = value ∧
      change e name text = .ok (((e.storing store).writing name edit.on).commit name) := by
  have hchangeable : e.changeable name = .ok p := by
    simp only [changeable, find, hp, hopen, Bool.false_eq_true, if_false]
  unfold change
  rw [hp, Option.map_some]
  cases hkind : p.kind with
  | textbox box =>
      simp only [asked?, hkind, Option.ite_none_right_eq_some, Option.some.injEq] at hasked
      obtain ⟨haccepts, rfl⟩ := hasked
      obtain ⟨store, hput⟩ := Store.exists_put_ok hworks (e.store.textKey name) text
      refine ⟨.text text, store, by simp only [Edit.on, hkind], congrArg Except.ok ?_⟩
      simp only [setText, hchangeable, hkind, haccepts, if_true]
      exact storeThenCommit_of_put hp hput (by simp only [Edit.on, hkind])
  | checkbox box =>
      simp only [asked?, hkind] at hasked
      obtain ⟨checked, hchecked, rfl⟩ := Option.map_eq_some_iff.mp hasked
      obtain ⟨store, hput⟩ :=
        Store.exists_put_ok hworks (e.store.checkedKey name) (Store.writeFlag checked)
      refine ⟨.flag checked, store, by simp only [Edit.on, hkind], ?_⟩
      simp only [hchecked, setChecked, hchangeable, hkind]
      refine congrArg Except.ok (storeThenCommit_of_put hp hput ?_)
      simp only [Edit.on, hkind]
      rfl
  | dropdown menu =>
      simp only [asked?, hkind] at hasked
      obtain ⟨i, hindex, hchoice⟩ := Option.bind_eq_some_iff.mp hasked
      obtain ⟨choice, hat, rfl⟩ := Option.map_eq_some_iff.mp hchoice
      have hlt : i < menu.choices.length := (List.getElem?_eq_some_iff.mp hat).1
      obtain ⟨store, hput⟩ := Store.exists_put_ok hworks (e.store.indexKey name) (toString i)
      refine ⟨.index i, store, by simp only [Edit.on, hkind, Dropdown.valueAt, hat], ?_⟩
      simp only [hindex, selectIndex, hchangeable, hkind]
      refine congrArg Except.ok (storeThenCommit_of_put hp ?_ ?_)
      · rw [Store.storeIndex, if_pos hlt, hput]
      · simp only [Edit.on, hkind]
        rfl

/-- A position that no choice has is refused by the store. -/
theorem change_eq_of_getElem?_eq_none (hp : e.registry.get? name = some p)
    (hopen : p.readOnly = false) {menu : Dropdown} (hkind : p.kind = .dropdown menu) {i : Nat}
    (hindex : indexOf? menu text = some i) (hnone : menu.choices[i]? = none) :
    change e name text =
      .ok (.error (.persistence (.indexOutOfRange name i menu.choices.length)), e) := by
  have hchangeable : e.changeable name = .ok p := by
    simp only [changeable, find, hp, hopen, Bool.false_eq_true, if_false]
  have hout : ¬ i < menu.choices.length := Nat.not_lt.mpr (List.getElem?_eq_none_iff.mp hnone)
  have hselect : e.selectIndex name i =
      (.error (.persistence (.indexOutOfRange name i menu.choices.length)), e) := by
    simp only [selectIndex, hchangeable, hkind, storeThenCommit, Store.storeIndex, if_neg hout]
  unfold change
  rw [hp, Option.map_some, hkind]
  show (match indexOf? menu text with
    | some index => Except.ok (e.selectIndex name index)
    | none => Except.error s!"'{text}' is not an option of {name}") = _
  rw [hindex]
  exact congrArg Except.ok hselect

/-- A text that asks for nothing is no change. -/
theorem outcome?_eq_none_of_asked? (hp : e.registry.get? name = some p)
    (hopen : p.readOnly = false) (hasked : asked? p text = none)
    {answer : Except EngineError Outcome} {after : Engine}
    (hchange : change e name text = .ok (answer, after)) : outcome? answer = none := by
  have hchangeable : e.changeable name = .ok p := by
    simp only [changeable, find, hp, hopen, Bool.false_eq_true, if_false]
  cases hkind : p.kind with
  | textbox box =>
      simp only [asked?, hkind, ite_eq_right_iff, reduceCtorEq, imp_false] at hasked
      simp only [change, hp, Option.map_some, hkind, setText, hchangeable, if_neg hasked] at hchange
      obtain ⟨rfl, _⟩ := Prod.mk.inj (Except.ok.inj hchange)
      rfl
  | checkbox box =>
      simp only [asked?, hkind, Option.map_eq_none_iff] at hasked
      simp only [change, hp, Option.map_some, hkind, hasked] at hchange
      cases hchange
  | dropdown menu =>
      simp only [asked?, hkind, Option.bind_eq_none_iff, Option.map_eq_none_iff] at hasked
      cases hindex : indexOf? menu text with
      | none =>
          simp only [change, hp, Option.map_some, hkind, hindex] at hchange
          cases hchange
      | some i =>
          rw [change_eq_of_getElem?_eq_none hp hopen hkind hindex (hasked i hindex)] at hchange
          obtain ⟨rfl, _⟩ := Prod.mk.inj (Except.ok.inj hchange)
          rfl

/-- **A text gives a placeholder the value that it asks for, and no other.** -/
theorem gives_iff (he : e.Sound) (hp : e.registry.get? name = some p) (hopen : p.readOnly = false)
    (hworks : e.store.backend.faults.next = false) {value : String} :
    Gives e name text value ↔ asked? p text = some value := by
  have hgives : ∀ v, asked? p text = some v → Gives e name text v := by
    intro v hasked
    obtain ⟨edit, store, hedit, hchange⟩ := exists_edit_of_asked? hp hopen hworks hasked
    obtain ⟨o, ho, hvalue⟩ := exists_written he hp edit store
    exact ⟨_, _, o, hchange, ho, hvalue.trans (congrArg some hedit)⟩
  refine ⟨fun h => ?_, hgives value⟩
  cases hasked : asked? p text with
  | some other => rw [h.unique (hgives other hasked)]
  | none =>
      obtain ⟨answer, after, o, hchange, ho, _⟩ := h
      have hnone := outcome?_eq_none_of_asked? hp hopen hasked hchange
      exact absurd (hnone.symm.trans ho) nofun

end Change

/-! ## 3. Every value by its own text -/

/-- **Which values a placeholder is given by their own texts.** A value that an open placeholder can take
    is set by its text, if it is a text or the value of a state, and if it is the value of a choice
    exactly when the text is read as a choice of that value. Otherwise the text is a number that no
    choice has as its position, and nothing is changed, or a choice of another value is selected. -/
theorem gives_self_iff {e : Engine} (he : e.Attainable) {name : String} {p : Placeholder}
    (hp : e.registry.get? name = some p) (hopen : p.readOnly = false)
    (hworks : e.store.backend.faults.next = false) {value : String} (hvalue : p.CanTake value) :
    (Gives e name value value ↔ ∀ menu, p.kind = .dropdown menu → menu.Reads value) ∧
    ∀ menu, p.kind = .dropdown menu → ¬ menu.Reads value →
      (∃ i, unsigned? 10 wordBound value.toList = some i ∧ menu.choices.length ≤ i ∧
        change e name value =
          .ok (.error (.persistence (.indexOutOfRange name i menu.choices.length)), e)) ∨
      ∃ choice ∈ menu.choices, choice.value ≠ value ∧ Gives e name value choice.value := by
  refine ⟨?_, fun menu hkind hreads => ?_⟩
  · rw [gives_iff he.sound hp hopen hworks, asked?_self_iff hvalue]
  · rw [← asked?_dropdown_iff hkind] at hreads
    cases hasked : asked? p value with
    | some other =>
        refine .inr ?_
        have hchosen := hasked
        simp only [asked?, hkind] at hchosen
        obtain ⟨i, _, hchoice⟩ := Option.bind_eq_some_iff.mp hchosen
        obtain ⟨choice, hat, rfl⟩ := Option.map_eq_some_iff.mp hchoice
        refine ⟨choice, List.mem_of_getElem? hat, fun heq => hreads (heq ▸ hasked), ?_⟩
        exact (gives_iff he.sound hp hopen hworks).mpr hasked
    | none =>
        obtain ⟨i, hindex, hnone⟩ := exists_index_of_asked?_eq_none hkind hvalue hasked
        refine .inl ⟨i, hindex, List.getElem?_eq_none_iff.mp hnone, ?_⟩
        exact change_eq_of_getElem?_eq_none hp hopen hkind (indexOf?_of_number hindex) hnone

/-- A dropdown of two ports and a star. -/
def ports : Descriptor where
  entries := [.record [("name", .text "PORT"), ("type", .text "dropdown"), ("options", .list [
    .record [("display_name", .text "Default"), ("value", .text "443")],
    .record [("display_name", .text "Alternative"), ("value", .text "8443")],
    .record [("display_name", .text "Any"), ("value", .text "*")]])]]

/-- The dropdown as it starts. -/
theorem exists_menu_of_ports :
    ∃ p, (start .bare ports (.ofEntries [])).registry.get? "PORT" = some p ∧ p.readOnly = false ∧
      p.kind = .dropdown ⟨[⟨"Default", "443"⟩, ⟨"Alternative", "8443"⟩, ⟨"Any", "*"⟩], 0, 0⟩ := by
  have hfacts : ((start .bare ports (.ofEntries [])).registry.get? "PORT").map
      (fun p => (p.kind.menu?, p.readOnly)) =
        some (some ⟨[⟨"Default", "443"⟩, ⟨"Alternative", "8443"⟩, ⟨"Any", "*"⟩], 0, 0⟩, false) := by
    decide +kernel
  obtain ⟨p, hp, heq⟩ := Option.map_eq_some_iff.mp hfacts
  obtain ⟨hmenu, hopen⟩ := Prod.mk.inj heq
  exact ⟨p, hp, hopen, Kind.eq_of_menu? hmenu⟩

/-- The star is set by its text, and the second port is taken for a position. -/
theorem gives_self_iff_of_ports :
    let e := start .bare ports (.ofEntries [])
    Gives e "PORT" "*" "*" ∧ ¬ Gives e "PORT" "8443" "8443" ∧
      change e "PORT" "8443" = .ok (.error (.persistence (.indexOutOfRange "PORT" 8443 3)), e) := by
  intro e
  obtain ⟨p, hp, hopen, hkind⟩ := exists_menu_of_ports
  have htake : ∀ value ∈ ["443", "8443", "*"], p.CanTake value := by
    simp only [Placeholder.CanTake, hkind]
    decide
  obtain ⟨hstar, _⟩ := gives_self_iff (.start _ _ _) hp hopen rfl (htake "*" (by decide))
  obtain ⟨hport, hother⟩ := gives_self_iff (.start _ _ _) hp hopen rfl (htake "8443" (by decide))
  have hword : unsigned? 10 wordBound "*".toList = none := by decide +kernel
  have hnumber : unsigned? 10 wordBound "8443".toList = some 8443 := by decide +kernel
  have hmisread : ∀ menu, p.kind = .dropdown menu → menu.choices.length = 3 →
      ¬ menu.Reads "8443" := by
    intro menu _ hlength
    simp only [Dropdown.Reads, hnumber, not_exists, not_and]
    intro choice hchoice
    have hlt := (List.getElem?_eq_some_iff.mp hchoice).1
    omega
  refine ⟨hstar.mpr fun menu hmenu => ?_, fun hgives => ?_, ?_⟩
  · cases hkind.symm.trans hmenu
    simp only [Dropdown.Reads, hword]
    exact ⟨[⟨"Default", "443"⟩, ⟨"Alternative", "8443"⟩], ⟨"Any", "*"⟩, [], rfl, rfl, by decide⟩
  · exact hmisread _ hkind rfl (hport.mp hgives _ hkind)
  · rcases hother _ hkind (hmisread _ hkind rfl) with ⟨i, hi, _, hchange⟩ | ⟨choice, _, _, hgives⟩
    · cases hnumber.symm.trans hi
      exact hchange
    · have hasked := (gives_iff (Attainable.start _ _ _).sound hp hopen rfl).mp hgives
      simp only [asked?, hkind, indexOf?_of_number hnumber] at hasked
      cases hasked

/-- **A value need not be set by its own text.** The first port is one of the choices, and its text is
    taken for a position. -/
theorem port_is_no_position :
    ¬ ∀ (e : Engine) (name : String) (p : Placeholder) (value : String), e.Attainable →
      e.registry.get? name = some p → p.readOnly = false →
        e.store.backend.faults.next = false → p.CanTake value → Gives e name value value := by
  intro hall
  obtain ⟨p, hp, hopen, hkind⟩ := exists_menu_of_ports
  have htake : p.CanTake "443" := by
    simp only [Placeholder.CanTake, hkind]
    decide
  have hgives := hall _ _ p "443" (.start _ _ _) hp hopen rfl htake
  have hnumber : unsigned? 10 wordBound "443".toList = some 443 := by decide +kernel
  have hasked := (gives_iff (Attainable.start _ _ _).sound hp hopen rfl).mp hgives
  simp only [asked?, hkind, indexOf?_of_number hnumber] at hasked
  cases hasked

end CommandLine

end Placeholders
