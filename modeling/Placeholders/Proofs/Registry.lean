import Mathlib.Data.List.Nodup
import Placeholders.Registry

/-!
# Distinct names

* The names of a registry that is read from a descriptor are distinct (`nodup_names_parse`).
* Loading and resetting states leave names alone.
-/

namespace Placeholders

open Placeholders.Data Placeholders.Storage Placeholders.Validation

@[simp] theorem Placeholder.name_resetToDefault (p : Placeholder) : p.resetToDefault.name = p.name := rfl

@[simp] theorem Placeholder.name_loadState (p : Placeholder) (store : Store) :
    (p.loadState store).name = p.name := by
  unfold loadState
  split <;> rfl

namespace Registry

theorem names_map (r : Registry) {f : Placeholder → Placeholder} (hf : ∀ p, (f p).name = p.name) :
    (r.map f).names = r.names := by
  rw [names, names, map, List.map_map]
  exact List.map_congr_left fun p _ => hf p

@[simp] theorem names_loadState (r : Registry) (store : Store) : (r.loadState store).names = r.names :=
  r.names_map fun p => p.name_loadState store

@[simp] theorem names_resetToDefaults (r : Registry) : r.resetToDefaults.names = r.names :=
  r.names_map fun p => p.name_resetToDefault

theorem size_eq_of_names_eq {r s : Registry} (h : s.names = r.names) : s.size = r.size := by
  simpa [names, size] using congrArg List.length h

theorem contains_of_get? {r : Registry} {name : String} {p : Placeholder} (h : r.get? name = some p) :
    r.contains name = true := by
  rw [contains, h]
  rfl

theorem contains_iff {r : Registry} {name : String} : r.contains name = true ↔ name ∈ r.names := by
  simp [contains, get?, names]

theorem indexOf?_eq_none_iff {r : Registry} {name : String} :
    r.indexOf? name = none ↔ name ∉ r.names := by
  simp [indexOf?, names]

/-- At the position of a name stands the placeholder of that name. -/
theorem getElem?_of_indexOf? {r : Registry} {name : String} {i : Nat} (h : r.indexOf? name = some i) :
    r.placeholders[i]? = r.get? name := by
  rw [get?, List.find?_eq_getElem?_findIdx, (List.findIdx?_eq_some_iff_findIdx_eq.mp h).2]

theorem nodup_names_insert {r after : Registry} (h : r.names.Nodup) {p : Placeholder}
    (hafter : r.insert p = .ok after) : after.names.Nodup := by
  unfold insert at hafter
  split at hafter
  · cases hafter
  · rename_i hnew
    cases hafter
    have hnames : names ⟨r.placeholders ++ [{ p with orderIndex := r.size }], r.settings, r.catalog⟩ =
        r.names ++ [p.name] := by
      simp [names]
    rw [hnames, List.nodup_append]
    refine ⟨h, List.nodup_singleton _, fun a ha b hb => ?_⟩
    rw [List.mem_singleton.mp hb]
    rintro rfl
    exact hnew (contains_iff.mpr ha)

theorem nodup_names_addEntry {r after : Registry} (h : r.names.Nodup) {host : Host} {index : Nat}
    {entry : Datum} (hafter : r.addEntry host index entry = .ok after) : after.names.Nodup := by
  unfold addEntry at hafter
  split at hafter
  · cases hafter
  · split at hafter
    · cases hafter
    · exact nodup_names_insert h hafter

theorem nodup_names_addEntries {r : Registry} (h : r.names.Nodup) (host : Host)
    (errors : List ParseError) (index : Nat) (entries : List Datum) :
    (addEntries host r errors index entries).1.names.Nodup := by
  induction entries generalizing r errors index with
  | nil => exact h
  | cons entry entries ih =>
      rw [addEntries]
      cases hadded : r.addEntry host index entry with
      | error e => exact ih h _ _
      | ok next => exact ih (nodup_names_addEntry h hadded) _ _

theorem settings_addEntries (host : Host) (r : Registry) (errors : List ParseError) (index : Nat)
    (entries : List Datum) : (addEntries host r errors index entries).1.settings = r.settings := by
  induction entries generalizing r errors index with
  | nil => rfl
  | cons entry entries ih =>
      rw [addEntries]
      cases hadded : r.addEntry host index entry with
      | error e => exact ih _ _ _
      | ok next =>
          refine (ih _ _ _).trans ?_
          unfold addEntry at hadded
          split at hadded
          · cases hadded
          · split at hadded
            · cases hadded
            · unfold insert at hadded
              split at hadded
              · cases hadded
              · cases hadded
                rfl

@[simp] theorem settings_parse (host : Host) (d : Descriptor) :
    (parse host d).1.settings = d.settings :=
  settings_addEntries host _ _ 0 d.entries

/-- **The names of a registry that is read from a descriptor are distinct.** -/
theorem nodup_names_parse (host : Host) (d : Descriptor) : (parse host d).1.names.Nodup := by
  refine nodup_names_addEntries ?_ host _ 0 d.entries
  exact List.nodup_nil

end Registry

end Placeholders
