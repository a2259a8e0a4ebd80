import Placeholders.Proofs.Fates
import Placeholders.Proofs.Registry

/-!
# Broken entries

Reading a descriptor leaves out what is broken, and that has no effect on the others.

* `Kind.WellMade` says what every kind that is built has: a fixed default that the rule-sets accept, or a
  default among the choices.
* `entryError?` is the error that an entry leaves, by the entries before it. Only the names of what they
  are built to matter (`entryError?_eq_none_iff`).
* `addEntries_eq` says what comes of adding entries: those that leave no error are built and numbered, the
  errors of the others are collected.
* `broken_entries_without_effect`: without the broken entries the registry is the same.
-/

namespace Placeholders

open Placeholders.Data Placeholders.Validation

/-! ## 1. Kinds -/

/-- The rule-sets of a textbox accept a fixed default, and a dropdown has a default among its choices. -/
def Kind.WellMade : Kind → Prop
  | .textbox box => ∀ value, box.default = .fixed value → Validation.accepts box.validators value = true
  | .checkbox _ => True
  | .dropdown menu => menu.choices ≠ [] ∧ menu.defaultIndex < menu.choices.length

section Build

variable {host : Host} {catalog : Catalog} {settings : Settings}

theorem wellMade_textbox {name : String} {fixed function : Option String} {ids : List String}
    {box : Textbox} (h : Textbox.build host catalog name fixed function ids = .ok box) :
    (Kind.textbox box).WellMade := by
  intro value hfixed
  unfold Textbox.build at h
  cases hdefault : textDefault host name fixed function with
  | error e =>
      rw [hdefault] at h
      cases h
  | ok default =>
      cases hresolve : catalog.resolve ids with
      | error e =>
          rw [hdefault, hresolve] at h
          cases h
      | ok sets =>
          rw [hdefault, hresolve] at h
          cases default with
          | produced function made =>
              cases h
              cases hfixed
          | fixed v =>
              change (if Validation.accepts sets v = true then Except.ok (⟨.fixed v, sets⟩ : Textbox)
                else _) = _ at h
              split at h
              · rename_i haccepts
                cases h
                cases hfixed
                exact haccepts
              · cases h

theorem wellMade_dropdown {name : String} {choices : List Choice} {defaultIndex : Nat}
    {menu : Dropdown} (h : Dropdown.build name choices defaultIndex = .ok menu) :
    (Kind.dropdown menu).WellMade := by
  unfold Dropdown.build at h
  split at h
  · cases h
  · rename_i hsome
    split at h
    · cases h
    · rename_i hrange
      cases h
      have hne : choices ≠ [] := by simpa using hsome
      exact ⟨hne, Nat.lt_of_not_le hrange⟩

theorem exists_of_map_ok {ε α β : Type} {f : α → β} {made : Except ε α} {b : β}
    (h : made.map f = .ok b) : ∃ a, made = .ok a ∧ f a = b := by
  cases made with
  | error e => cases h
  | ok a => exact ⟨a, rfl, Except.ok.inj h⟩

theorem KindSpec.wellMade_build {spec : KindSpec} {name : String} {kind : Kind}
    (h : spec.build host catalog name = .ok kind) : kind.WellMade := by
  cases spec with
  | textbox fixed function ids =>
      obtain ⟨box, hbox, rfl⟩ := exists_of_map_ok h
      exact wellMade_textbox hbox
  | checkbox checked unchecked checkedByDefault =>
      cases h
      trivial
  | dropdown choices defaultIndex =>
      obtain ⟨menu, hmenu, rfl⟩ := exists_of_map_ok h
      exact wellMade_dropdown hmenu

/-- **What is built has a default that may stand.** -/
theorem PlaceholderSpec.wellMade_build {spec : PlaceholderSpec} {p : Placeholder}
    (h : spec.build host catalog settings = .ok p) : p.kind.WellMade := by
  unfold build at h
  split at h
  · cases h
  · rename_i kind hkind
    cases h
    have hmade := KindSpec.wellMade_build hkind
    cases kind <;> exact hmade

end Build

/-! ## 2. One by one -/

section Entries

variable (host : Host) (catalog : Catalog) (settings : Settings)

/-- The placeholder that an entry describes, taken by itself. -/
def built? (entry : Datum) : Option Placeholder :=
  (Descriptor.placeholder? entry).bind fun spec => (spec.build host catalog settings).toOption

/-- The names of the placeholders that some entries describe. -/
def builtNames (entries : List Datum) : List String :=
  (entries.filterMap (built? host catalog settings)).map (·.name)

/-- The error that an entry leaves, given those before it. -/
def entryError? (before : List Datum) (entry : Datum) : Option ParseError :=
  match Descriptor.placeholder? entry with
  | none => some (.invalidPlaceholder before.length)
  | some spec =>
    match spec.build host catalog settings with
    | .error e => some e
    | .ok p =>
      if p.name ∈ builtNames host catalog settings before then some (.duplicateName p.name) else none

/-- The placeholders of entries, numbered from a place on. -/
def madeFrom (n : Nat) : List Datum → List Placeholder
  | [] => []
  | entry :: entries =>
    match built? host catalog settings entry with
    | some p => { p with orderIndex := n } :: madeFrom (n + 1) entries
    | none => madeFrom n entries

variable {host catalog settings} {before entries : List Datum} {entry : Datum}

theorem exists_spec_of_built? {p : Placeholder} (h : built? host catalog settings entry = some p) :
    ∃ spec, Descriptor.placeholder? entry = some spec ∧ spec.build host catalog settings = .ok p := by
  obtain ⟨spec, hspec, hbuild⟩ := Option.bind_eq_some_iff.mp h
  refine ⟨spec, hspec, ?_⟩
  cases hmade : spec.build host catalog settings with
  | error e =>
      rw [hmade] at hbuild
      cases hbuild
  | ok made =>
      rw [hmade] at hbuild
      rw [Option.some.inj hbuild]

theorem wellMade_of_built? {p : Placeholder} (h : built? host catalog settings entry = some p) :
    p.kind.WellMade := by
  obtain ⟨spec, _, hbuild⟩ := exists_spec_of_built? h
  exact PlaceholderSpec.wellMade_build hbuild

theorem mem_builtNames {name : String} : name ∈ builtNames host catalog settings entries ↔
    ∃ entry ∈ entries, ∃ p, built? host catalog settings entry = some p ∧ p.name = name := by
  simp only [builtNames, List.mem_map, List.mem_filterMap]
  constructor
  · rintro ⟨p, ⟨entry, hentry, hbuilt⟩, hname⟩
    exact ⟨entry, hentry, p, hbuilt, hname⟩
  · rintro ⟨entry, hentry, p, hbuilt, hname⟩
    exact ⟨p, ⟨entry, hentry, hbuilt⟩, hname⟩

theorem mem_builtNames_concat {name : String} :
    name ∈ builtNames host catalog settings (before ++ [entry]) ↔
      name ∈ builtNames host catalog settings before ∨
        ∃ p, built? host catalog settings entry = some p ∧ p.name = name := by
  simp only [mem_builtNames, List.mem_append, List.mem_singleton, or_and_right, exists_or, exists_eq_left]

/-- **An entry is taken in if it can be built and its name is not that of an earlier one that can.** -/
theorem entryError?_eq_none_iff : entryError? host catalog settings before entry = none ↔
    ∃ p, built? host catalog settings entry = some p ∧ p.name ∉ builtNames host catalog settings before := by
  unfold entryError? built?
  cases Descriptor.placeholder? entry with
  | none => simp
  | some spec =>
      cases hbuild : spec.build host catalog settings with
      | error e => simp [hbuild, Except.toOption]
      | ok p => simp [hbuild, Except.toOption]

/-- With fewer entries before it, an entry that is taken in is taken in, too. -/
theorem entryError?_eq_none_of_subset {fewer : List Datum} (hsub : fewer ⊆ before)
    (h : entryError? host catalog settings before entry = none) :
    entryError? host catalog settings fewer entry = none := by
  obtain ⟨p, hbuilt, hnew⟩ := entryError?_eq_none_iff.mp h
  refine entryError?_eq_none_iff.mpr ⟨p, hbuilt, fun hmem => hnew ?_⟩
  obtain ⟨earlier, hearlier, hsame⟩ := mem_builtNames.mp hmem
  exact mem_builtNames.mpr ⟨earlier, hsub hearlier, hsame⟩

theorem length_madeFrom {n : Nat}
    (h : ∀ entry ∈ entries, (built? host catalog settings entry).isSome = true) :
    (madeFrom host catalog settings n entries).length = entries.length := by
  induction entries generalizing n with
  | nil => rfl
  | cons entry entries ih =>
      obtain ⟨p, hp⟩ := Option.isSome_iff_exists.mp (h entry List.mem_cons_self)
      simp [madeFrom, hp, ih fun e he => h e (List.mem_cons_of_mem _ he)]

theorem getElem?_madeFrom {n i : Nat}
    (h : ∀ entry ∈ entries, (built? host catalog settings entry).isSome = true) {q : Placeholder}
    (hq : (madeFrom host catalog settings n entries)[i]? = some q) :
    ∃ entry p, entries[i]? = some entry ∧ built? host catalog settings entry = some p ∧
      q = { p with orderIndex := n + i } := by
  induction entries generalizing n i with
  | nil => cases hq
  | cons entry entries ih =>
      obtain ⟨p, hp⟩ := Option.isSome_iff_exists.mp (h entry List.mem_cons_self)
      rw [madeFrom, hp] at hq
      cases i with
      | zero => exact ⟨entry, p, rfl, hp, (Option.some.inj hq).symm⟩
      | succ i =>
          obtain ⟨later, made, hlater, hmade, rfl⟩ := ih (fun e he => h e (List.mem_cons_of_mem _ he)) hq
          have hplace : n + 1 + i = n + (i + 1) := by omega
          exact ⟨later, made, hlater, hmade, by rw [hplace]⟩

end Entries

/-! ## 3. All of them -/

namespace Registry

/-- A registry that was filled from some entries has the names of what they are built to. -/
def Filled (host : Host) (before : List Datum) (r : Registry) : Prop :=
  ∀ name, name ∈ r.names ↔ name ∈ builtNames host r.catalog r.settings before

/-- A registry with a placeholder added at the end. -/
def extended (r : Registry) (p : Placeholder) : Registry :=
  { r with placeholders := r.placeholders ++ [{ p with orderIndex := r.size }] }

theorem size_extended (r : Registry) (p : Placeholder) : (r.extended p).size = r.size + 1 :=
  List.length_append

theorem mem_names_extended {r : Registry} {p : Placeholder} {name : String} :
    name ∈ (r.extended p).names ↔ name ∈ r.names ∨ p.name = name := by
  simp [names, extended, eq_comm]

section Fill

variable {host : Host} {r : Registry} {before : List Datum} {entry : Datum}

/-- An entry that leaves an error changes nothing. -/
theorem addEntry_of_error (h : r.Filled host before) {e : ParseError}
    (he : entryError? host r.catalog r.settings before entry = some e) :
    r.addEntry host before.length entry = .error e := by
  unfold entryError? at he
  unfold addEntry
  cases hspec : Descriptor.placeholder? entry with
  | none =>
      rw [hspec] at he
      cases he
      rfl
  | some spec =>
      rw [hspec] at he
      cases hbuild : spec.build host r.catalog r.settings with
      | error e' =>
          simp only [hbuild] at he ⊢
          cases he
          rfl
      | ok p =>
          simp only [hbuild] at he ⊢
          split at he
          · rename_i hmem
            cases he
            exact if_pos (contains_iff.mpr ((h p.name).mpr hmem))
          · cases he

/-- Any other is built and put at the end. -/
theorem addEntry_of_built (h : r.Filled host before) {p : Placeholder}
    (hbuilt : built? host r.catalog r.settings entry = some p)
    (hnew : p.name ∉ builtNames host r.catalog r.settings before) :
    r.addEntry host before.length entry = .ok (r.extended p) := by
  obtain ⟨spec, hspec, hok⟩ := exists_spec_of_built? hbuilt
  have hfree : ¬ r.contains p.name = true := fun hmem => hnew ((h p.name).mp (contains_iff.mp hmem))
  simp only [addEntry, hspec, hok]
  exact if_neg hfree

theorem Filled.refused (h : r.Filled host before)
    (he : entryError? host r.catalog r.settings before entry ≠ none) :
    r.Filled host (before ++ [entry]) := by
  intro name
  rw [mem_builtNames_concat, h name, iff_self_or]
  rintro ⟨p, hbuilt, rfl⟩
  by_contra hnew
  exact he (entryError?_eq_none_iff.mpr ⟨p, hbuilt, hnew⟩)

theorem Filled.extended (h : r.Filled host before) {p : Placeholder}
    (hbuilt : built? host r.catalog r.settings entry = some p) :
    (r.extended p).Filled host (before ++ [entry]) := by
  intro name
  have hsame : (∃ q, built? host r.catalog r.settings entry = some q ∧ q.name = name) ↔
      p.name = name := by
    simp [hbuilt]
  rw [mem_names_extended, h name, ← hsame]
  exact mem_builtNames_concat.symm

/-- **What comes of adding entries.** -/
theorem addEntries_eq (h : r.Filled host before) (errors : List ParseError) (entries : List Datum) :
    let fates := fatesFrom (entryError? host r.catalog r.settings) before entries
    addEntries host r errors before.length entries =
      ({ r with placeholders :=
          r.placeholders ++ madeFrom host r.catalog r.settings r.size (kept entries fates) },
        errors ++ fates.reduceOption) := by
  intro fates
  induction entries generalizing r errors before with
  | nil => simp [addEntries, fates, fatesFrom, kept, madeFrom]
  | cons entry entries ih =>
      have hplace : before.length + 1 = (before ++ [entry]).length := by simp
      have hfates : fates = entryError? host r.catalog r.settings before entry ::
          fatesFrom (entryError? host r.catalog r.settings) (before ++ [entry]) entries := rfl
      cases he : entryError? host r.catalog r.settings before entry with
      | some e =>
          have hfilled : r.Filled host (before ++ [entry]) := h.refused (by simp [he])
          rw [addEntries, addEntry_of_error h he, hfates, he, kept, List.reduceOption_cons_of_some,
            hplace]
          simpa using ih hfilled (errors ++ [e])
      | none =>
          obtain ⟨p, hbuilt, hnew⟩ := entryError?_eq_none_iff.mp he
          have hfilled : (r.extended p).Filled host (before ++ [entry]) := h.extended hbuilt
          rw [addEntries, addEntry_of_built h hbuilt hnew, hfates, he, kept,
            List.reduceOption_cons_of_none, hplace]
          refine (ih hfilled errors).trans ?_
          rw [madeFrom, hbuilt, size_extended]
          simp [Registry.extended]

end Fill

end Registry

/-! ## 4. Descriptors -/

/-- The errors that the rule-sets of a descriptor leave. -/
def Descriptor.ruleErrors (host : Host) (d : Descriptor) : List ParseError :=
  (Catalog.compile host d.validators).2.map (.validator none)

/-- What an entry of a descriptor is built to, taken by itself. -/
def Descriptor.built? (host : Host) (d : Descriptor) : Datum → Option Placeholder :=
  Placeholders.built? host (Catalog.compile host d.validators).1 d.settings

/-- The error that each entry of a descriptor leaves, if any. -/
def Descriptor.entryErrors (host : Host) (d : Descriptor) : List (Option ParseError) :=
  fatesFrom (entryError? host (Catalog.compile host d.validators).1 d.settings) [] d.entries

/-- A descriptor without the entries that leave an error. -/
def Descriptor.withoutBroken (host : Host) (d : Descriptor) : Descriptor :=
  { d with entries := kept d.entries (d.entryErrors host) }

namespace Registry

section Parse

variable (host : Host) (d : Descriptor)

/-- **What a descriptor is read to.** -/
theorem parse_eq : parse host d =
    (⟨madeFrom host (Catalog.compile host d.validators).1 d.settings 0 (d.withoutBroken host).entries,
      d.settings, (Catalog.compile host d.validators).1⟩,
      d.ruleErrors host ++ (d.entryErrors host).reduceOption) := by
  have hadd : parse host d = addEntries host ⟨[], d.settings, (Catalog.compile host d.validators).1⟩
      (d.ruleErrors host) 0 d.entries := by
    unfold parse Descriptor.ruleErrors
    -- The rule-sets are not to be looked into.
    generalize Catalog.compile host d.validators = compiled
    rfl
  have hfilled : Filled host [] ⟨[], d.settings, (Catalog.compile host d.validators).1⟩ :=
    fun _ => Iff.rfl
  exact hadd.trans (addEntries_eq hfilled (d.ruleErrors host) d.entries)

variable {host d}

theorem entryErrors_eq_none_iff {i : Nat} {entry : Datum} (hentry : d.entries[i]? = some entry) :
    (d.entryErrors host)[i]? = some none ↔ ∃ p, d.built? host entry = some p ∧
      ∀ earlier ∈ d.entries.take i, ∀ q, d.built? host earlier = some q → q.name ≠ p.name := by
  rw [Descriptor.entryErrors, getElem?_fatesFrom, hentry, List.nil_append, Option.map_some,
    Option.some_inj, entryError?_eq_none_iff]
  refine exists_congr fun p => and_congr_right fun _ => ?_
  rw [mem_builtNames]
  push Not
  rfl

theorem isSome_built?_of_mem {entry : Datum} (h : entry ∈ (d.withoutBroken host).entries) :
    (d.built? host entry).isSome = true := by
  obtain ⟨i, hi, hfate⟩ := mem_kept.mp h
  obtain ⟨p, hp, _⟩ := (entryErrors_eq_none_iff hi).mp hfate
  rw [hp]
  rfl

/-- **Without its broken entries a descriptor is read to the same registry.** -/
theorem parse_withoutBroken :
    parse host (d.withoutBroken host) = ((parse host d).1, d.ruleErrors host) := by
  obtain ⟨hkept, herrors⟩ := @kept_kept Datum ParseError
    (entryError? host (Catalog.compile host d.validators).1 d.settings)
    (fun hsub h => entryError?_eq_none_of_subset hsub h) [] [] d.entries (List.Subset.refl [])
  have hentries : ((d.withoutBroken host).withoutBroken host).entries = (d.withoutBroken host).entries :=
    hkept
  have hnone : ((d.withoutBroken host).entryErrors host).reduceOption = [] := herrors
  rw [parse_eq, parse_eq, hentries, hnone, List.append_nil]
  rfl

theorem size_parse : (parse host d).1.size = (d.withoutBroken host).entries.length := by
  rw [parse_eq]
  exact length_madeFrom fun entry hentry => isSome_built?_of_mem hentry

/-- **A placeholder is what the entry at its place is built to.** -/
theorem exists_entry_of_parse {i : Nat} {p : Placeholder}
    (hp : (parse host d).1.placeholders[i]? = some p) :
    ∃ entry made, (d.withoutBroken host).entries[i]? = some entry ∧ d.built? host entry = some made ∧
      p = { made with orderIndex := i } := by
  rw [parse_eq] at hp
  obtain ⟨entry, made, hentry, hmade, heq⟩ := getElem?_madeFrom (fun e he => isSome_built?_of_mem he) hp
  rw [Nat.zero_add] at heq
  exact ⟨entry, made, hentry, hmade, heq⟩

theorem wellMade_parse {i : Nat} {p : Placeholder} (hp : (parse host d).1.placeholders[i]? = some p) :
    p.kind.WellMade := by
  obtain ⟨entry, made, _, hmade, rfl⟩ := exists_entry_of_parse hp
  have hwellMade : made.kind.WellMade := wellMade_of_built? hmade
  exact hwellMade

end Parse

/-- **A broken entry has no effect on the others.** An entry is taken in if it can be built and its name is
    not that of an earlier one that can, and leaves exactly one error otherwise. Without the broken entries
    a descriptor is read to the same registry, with no errors but those of rule-sets. Each placeholder is
    what an entry that is taken in is built to, in order and with its place. Names are distinct, rule-sets
    accept fixed defaults, and dropdowns have a default among their choices. -/
theorem broken_entries_without_effect (host : Host) (d : Descriptor) :
    let registry := (parse host d).1
    let fates := d.entryErrors host
    fates.length = d.entries.length ∧
    (∀ i entry, d.entries[i]? = some entry → (fates[i]? = some none ↔
      ∃ p, d.built? host entry = some p ∧ ∀ earlier ∈ d.entries.take i, ∀ q,
        d.built? host earlier = some q → q.name ≠ p.name)) ∧
    (parse host d).2 = d.ruleErrors host ++ fates.reduceOption ∧
    registry.size + fates.reduceOption.length = d.entries.length ∧
    parse host { d with entries := kept d.entries fates } = (registry, d.ruleErrors host) ∧
    registry.size = (kept d.entries fates).length ∧
    registry.names.Nodup ∧
    ∀ i p, registry.placeholders[i]? = some p → p.orderIndex = i ∧ p.kind.WellMade ∧
      ∃ entry made, (kept d.entries fates)[i]? = some entry ∧ d.built? host entry = some made ∧
        p = { made with orderIndex := i } := by
  intro registry fates
  have hlength : fates.length = d.entries.length := length_fatesFrom
  refine ⟨hlength, fun i entry hentry => entryErrors_eq_none_iff hentry, ?_, ?_, parse_withoutBroken,
    size_parse, nodup_names_parse host d, fun i p hp => ?_⟩
  · rw [parse_eq]
  · have hsum := length_kept hlength
    have hsize : registry.size = (kept d.entries fates).length := size_parse
    omega
  · obtain ⟨entry, made, hentry, hmade, heq⟩ := exists_entry_of_parse hp
    exact ⟨congrArg Placeholder.orderIndex heq, wellMade_parse hp, entry, made, hentry, hmade, heq⟩

end Registry

end Placeholders
