import Placeholders.Proofs.Engine.Overrides

/-!
# What a change reaches

`local_of_outcome` says what a change of a value answers and what it leaves alone.

* A change that answers an outcome has been stored, written into one placeholder and followed
  (`Change.made_of_outcome`). All else comes from these three steps.
* Following names the changed placeholder and then what depends on it in the graph that there is by then,
  also when a cycle has been opened on the way (`affected_of_commit`).
* What is not named is as it was, and of what is named only the changed placeholder differs in more than
  its expanded value (`Followed.exists_kept`). Storing concerns one key.
-/

namespace Placeholders.Engine

open Placeholders.Storage Relation

/-! ## 1. The changed placeholder -/

/-- The placeholder whose value a call changes. -/
def Change.edited? : Change → Option String
  | setText name _ => some name
  | setChecked name _ => some name
  | toggle name => some name
  | selectIndex name _ => some name
  | cycleIndex name _ => some name
  | placeholderChanged _ => none

/-- The edit that is asked for is one of the changed placeholder. -/
theorem Change.edited?_of_edit? {e : Engine} {c : Change} {name : String} {edit : Edit}
    (h : c.edit? e = some (name, edit)) : c.edited? = some name := by
  cases c with
  | setText | setChecked | selectIndex =>
      cases h
      rfl
  | toggle | cycleIndex =>
      simp only [edit?] at h
      split at h
      · cases h
        rfl
      · cases h
  | placeholderChanged => cases h

/-- **A change of a value that answers an outcome has been stored, written and followed.** -/
theorem Change.made_of_outcome {e : Engine} {c : Change} {name : String} (hc : c.edited? = some name)
    {o : Outcome} (ho : outcome? (c.apply e).1 = some o) :
    ∃ (edit : Edit) (p : Placeholder) (store : Store), e.registry.get? name = some p ∧
      edit.Fits p.kind ∧
      e.store.put (edit.key e.store name) edit.written = (.ok (), store) ∧
      c.apply e = ((e.storing store).writing name edit.on).commit name := by
  have hcourse := c.course_apply e
  generalize c.apply e = answer at *
  cases hcourse with
  | refused hnone =>
      change EngineError.outcome? _ = some o at ho
      rw [hnone] at ho
      cases ho
  | unstored => cases ho
  | @made other edit p store hasked hp hfits hput =>
      obtain rfl : other = name := Option.some.inj ((edited?_of_edit? hasked).symm.trans hc)
      exact ⟨edit, p, store, hp, hfits, hput, rfl⟩
  | noticed hnoticed =>
      rw [hnoticed] at hc
      cases hc

/-! ## 2. What is affected -/

/-- **What following a change affects**: the changed placeholder and then, each once and in order, those
    that depend on it by then. -/
theorem affected_of_commit {e : Engine} (he : e.Sound) {name : String}
    (hname : e.registry.contains name = true) {o : Outcome}
    (ho : outcome? (e.commit name).1 = some o) :
    ∃ i js, (e.commit name).2.network.position name = .ok i ∧ js.Pairwise (· < ·) ∧
      (∀ j, j ∈ js ↔ TransGen (e.commit name).2.network.graph.Edge j i) ∧
      o.affected = name :: (e.commit name).2.network.namesAt js := by
  obtain ⟨i, hi⟩ := Network.exists_position (Registry.contains_iff.mp hname)
  obtain ⟨hregular, halike⟩ := Network.regular_valueChanged he.regular name
  have hposition := (Network.position_congr halike.names_eq name).trans hi
  obtain ⟨js, hjs, hascending, hmem⟩ := Network.dependents_eq hregular hposition
  obtain ⟨names, answer, count, hnames, heq, houtcome⟩ := commit_eq he hname
  obtain rfl : _ = names := Except.ok.inj (hjs.symm.trans hnames)
  rw [heq] at ho ⊢
  obtain rfl := Option.some.inj (houtcome.symm.trans ho)
  exact ⟨i, js, hposition, hascending, hmem, rfl⟩

/-! ## 3. What stays -/

/-- **A placeholder that is written into and followed**: what is not affected is as it was, and what is not
    written into differs in its expanded value at most. -/
theorem Followed.exists_kept {e after : Engine} {store : Store} {name : String}
    {f : Placeholder → Placeholder} {o : Outcome}
    (h : Followed ((e.storing store).writing name f) after o) (hdistinct : e.registry.names.Nodup)
    (hname : name ∈ o.affected) {j : Nat} {p : Placeholder}
    (hp : e.registry.placeholders[j]? = some p) :
    ∃ q, after.registry.placeholders[j]? = some q ∧ (p.name ∉ o.affected → q = p) ∧
      (p.name ≠ name → q = { p with expandedValue := q.expandedValue }) := by
  have hwritten : ((e.storing store).writing name f).registry.placeholders[j]? =
      some (if p.name = name then f p else p) := by
    change (e.registry.modify name f).placeholders[j]? = _
    rw [getElem?_modify hdistinct, hp]
    rfl
  obtain ⟨q, hq, hraw⟩ := h.alike.symm.exists_at hwritten
  refine ⟨q, hq, fun hnot => ?_, fun hne => ?_⟩
  · have hne : p.name ≠ name := fun heq => hnot (heq ▸ hname)
    rw [if_neg hne] at hwritten
    exact Option.some.inj (hq.symm.trans (h.unaffected j p hwritten hnot))
  · rw [if_neg hne] at hraw
    exact Placeholder.eq_of_raw_eq (p := { p with expandedValue := q.expandedValue }) hraw rfl

/-- **The change of a value is local.** A call that changes the value of a placeholder answers an outcome,
    perhaps with the error of an opened cycle. The outcome names that placeholder and then, each once and
    in order, those that depend on it in the graph that there is by then. Every placeholder that the
    outcome does not name is as it was; every other one than the changed one differs in its expanded
    value at most; and of the entries of the storage, only that of the changed placeholder may differ. -/
theorem local_of_outcome {e : Engine} (he : e.Attainable) {c : Change} {name : String}
    (hc : c.edited? = some name) {o : Outcome} (ho : outcome? (c.apply e).1 = some o) :
    let after := (c.apply e).2
    (∃ i js, after.network.position name = .ok i ∧ js.Pairwise (· < ·) ∧
      (∀ j, j ∈ js ↔ TransGen after.network.graph.Edge j i) ∧
      o.affected = name :: after.network.namesAt js) ∧
    o.affected.Nodup ∧
    after.registry.names = e.registry.names ∧
    (∀ (j : Nat) (p : Placeholder), e.registry.placeholders[j]? = some p →
      ∃ q, after.registry.placeholders[j]? = some q ∧ (p.name ∉ o.affected → q = p) ∧
        (p.name ≠ name → q = { p with expandedValue := q.expandedValue })) ∧
    ∃ p, e.registry.get? name = some p ∧ ∀ key, key ≠ p.stateKey e.store →
      after.store.backend.get? key = e.store.backend.get? key := by
  intro after
  have hsound := he.sound
  obtain ⟨edit, p, store, hp, hfits, hput, heq⟩ := Change.made_of_outcome hc ho
  have hknown := Registry.contains_of_get? hp
  obtain ⟨o', ho', hfollowed⟩ := commit_writing hsound hknown store edit.writes_on
  rw [heq] at ho
  obtain rfl := Option.some.inj (ho'.symm.trans ho)
  obtain ⟨i, js, hi, hascending, hmem, haffected⟩ :=
    affected_of_commit ((hsound.storing store).writing name edit.writes_on)
      (contains_writing hknown store edit.writes_on) ho
  have hstore := store_commit ((e.storing store).writing name edit.on) name
  rw [← heq] at hi hmem haffected hfollowed hstore
  have hself : name ∈ o'.affected := haffected ▸ List.mem_cons_self
  refine ⟨⟨i, js, hi, hascending, hmem, haffected⟩, ?_, ?_,
    fun j q hq => hfollowed.exists_kept hsound.distinct hself hq, p, hp, fun key hkey => ?_⟩
  · rw [haffected]
    exact Network.nodup_cons_namesAt hfollowed.sound.regular hfollowed.sound.distinct hi
      (hascending.imp Nat.ne_of_lt) fun j hj => (hmem j).mp hj
  · exact hfollowed.alike.names_eq.trans (names_modify e.registry name edit.writes_on)
  · have hput' : after.store = store := hstore
    rw [hput', Store.get?_put hput, if_neg]
    rw [← (Registry.exists_at_of_get? hp).1, Edit.key_eq hfits]
    exact hkey.symm

/-- Two textboxes, and between them one that refers to the first. -/
def echoing : Descriptor where
  entries := [
    .record [("name", .text "A"), ("type", .text "textbox"), ("default_value", .text "1")],
    .record [("name", .text "B"), ("type", .text "textbox"), ("default_value", .text "(xAx)")],
    .record [("name", .text "C"), ("type", .text "textbox"), ("default_value", .text "3")]]

theorem local_of_outcome_of_echoing :
    let e := start .bare echoing (.ofEntries [("other", "kept")])
    let answer := (Change.setText "A" "2").apply e
    ∃ o p, outcome? answer.1 = some o ∧ o.affected = ["A", "B"] ∧ o.affected.Nodup ∧
      e.registry.placeholders[2]? = some p ∧ answer.2.registry.placeholders[2]? = some p ∧
      answer.2.store.backend.get? "other" = some "kept" := by
  intro e answer
  have haffected : (outcome? answer.1).map (·.affected) = some ["A", "B"] := by decide +kernel
  obtain ⟨o, ho, hnames⟩ := Option.map_eq_some_iff.mp haffected
  obtain ⟨_, hnodup, _, hkept, p, hp, hstored⟩ :=
    local_of_outcome (e := e) (.start .bare echoing (.ofEntries [("other", "kept")]))
      (c := .setText "A" "2") rfl ho
  have hthird : (e.registry.placeholders[2]?).map (·.name) = some "C" := by decide +kernel
  obtain ⟨third, hat, hname⟩ := Option.map_eq_some_iff.mp hthird
  obtain ⟨q, hq, hsame, _⟩ := hkept 2 third hat
  have hnot : third.name ∉ o.affected := by
    rw [hname, hnames]
    decide
  have hfirst : (e.registry.get? "A").map (·.stateKey e.store) = some "PLACEHOLDER_A_TEXT" := by
    decide +kernel
  have hkey : p.stateKey e.store = "PLACEHOLDER_A_TEXT" := by
    rw [hp] at hfirst
    exact Option.some.inj hfirst
  have hother : "other" ≠ p.stateKey e.store := by
    rw [hkey]
    decide
  obtain rfl := hsame hnot
  refine ⟨o, q, ?_, hnames, hnodup, ?_, ?_, ?_⟩
  · exact ho
  · exact hat
  · exact hq
  · rw [hstored "other" hother]
    decide +kernel

end Placeholders.Engine
