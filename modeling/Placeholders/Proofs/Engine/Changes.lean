import Placeholders.Proofs.Engine.Calls
import Placeholders.Proofs.Expansion.Targets
import Placeholders.Proofs.Network.Affected

/-!
# Changes and what they lead to

* An engine is `Sound` if its network is regular and its names are distinct. Following a change then never
  fails but by a cycle that it opens (`commit_spec`).
* As far as pages are concerned a change does one thing to a placeholder: its value may change, if the
  outcome says that it is affected (`Followed.exists_at`).
-/

namespace Placeholders

open Placeholders.Storage

theorem Registry.AlikeTo.marks_eq {r s : Registry} (h : r.AlikeTo s) :
    s.placeholders.map Placeholder.marks = r.placeholders.map Placeholder.marks := by
  have hmarks : ∀ t : Registry, t.placeholders.map Placeholder.marks =
      (t.placeholders.map Placeholder.raw).map Placeholder.marks := by
    intro t
    rw [List.map_map]
    rfl
  rw [hmarks, hmarks, h.raw]

namespace Engine

/-! ## 1. Sound engines -/

/-- The network is regular, and names are distinct. -/
structure Sound (e : Engine) : Prop where
  regular : e.network.Regular
  distinct : e.registry.names.Nodup

theorem Sound.storing {e : Engine} (h : e.Sound) (store : Store) : (e.storing store).Sound :=
  ⟨h.regular, h.distinct⟩

/-- An engine stays sound when its registry is exchanged for one with the same names. -/
theorem Sound.withRegistry {e : Engine} (h : e.Sound) {f : Registry → Registry}
    (hf : (f e.registry).names = e.registry.names) :
    ({ e with network := e.network.withRegistry f } : Engine).Sound := by
  exact ⟨h.regular.withRegistry (Registry.size_eq_of_names_eq hf), hf ▸ h.distinct⟩

theorem names_modify (r : Registry) (name : String) {f : Placeholder → Placeholder} (hf : Writes f) :
    (r.modify name f).names = r.names := by
  unfold Registry.modify
  split
  · refine r.names_modifyAt _ fun p => ?_
    obtain ⟨kind, value, hp⟩ := hf p
    rw [hp]
  · rfl

/-- Where names are distinct, one placeholder is written into. -/
theorem getElem?_modify {r : Registry} (h : r.names.Nodup) (name : String)
    (f : Placeholder → Placeholder) (j : Nat) :
    (r.modify name f).placeholders[j]? =
      (r.placeholders[j]?).map fun p => if p.name = name then f p else p := by
  unfold Registry.modify
  cases hp : r.placeholders[j]? with
  | none => split <;> simp [Registry.getElem?_modifyAt, hp]
  | some p =>
      cases hindex : r.indexOf? name with
      | none =>
          have hne : p.name ≠ name := by
            simpa using List.findIdx?_eq_none_iff.mp hindex p (List.mem_of_getElem? hp)
          simp [hp, hne]
      | some i =>
          have hat := Registry.getElem?_of_indexOf? hindex
          have hiff : i = j ↔ p.name = name := by
            refine ⟨fun hij => ?_, fun hname => ?_⟩
            · rw [hij, hp] at hat
              simpa using List.find?_some hat.symm
            · rw [← hname, Registry.get?_eq_some h hp] at hat
              have hlt : i < r.names.length := by
                simpa [Registry.names] using (List.getElem?_eq_some_iff.mp hat).1
              exact (List.getElem?_inj hlt h).mp (by simp [Registry.names, hat, hp])
          simp only [Registry.getElem?_modifyAt, hp, hiff, Option.map_some]
          split <;> rfl

theorem Sound.writing {e : Engine} (h : e.Sound) (name : String) {f : Placeholder → Placeholder}
    (hf : Writes f) : (e.writing name f).Sound :=
  h.withRegistry (names_modify e.registry name hf)

/-! ## 2. Following a change -/

/-- The page with the bindings of certain names brought up to date. -/
def refreshed (r : Registry) (names : List String) (page : Page) : Page :=
  { page with document := (page.document.refresh page.bindings r names).2 }

/-- What following a change leads to. -/
structure Followed (e after : Engine) (o : Outcome) : Prop where
  sound : after.Sound
  alike : e.registry.AlikeTo after.registry
  known : ∀ name ∈ o.affected, name ∈ after.registry.names
  unaffected : ∀ (j : Nat) (p : Placeholder), e.registry.placeholders[j]? = some p →
    p.name ∉ o.affected → after.registry.placeholders[j]? = some p
  needsReload : o.needsReload = Engine.needsReload after.registry o.affected
  page : after.page = e.page.map (refreshed after.registry o.affected)

theorem exists_refresh_ok (doc : Document) (bindings : Bindings) {r : Registry} {names : List String}
    (h : ∀ name ∈ names, name ∈ r.names) :
    ∃ count, (doc.refresh bindings r names).1 = .ok count := by
  induction names generalizing doc with
  | nil => exact ⟨0, rfl⟩
  | cons name rest ih =>
      obtain ⟨hname, hrest⟩ := List.forall_mem_cons.mp h
      obtain ⟨p, hp⟩ := Option.isSome_iff_exists.mp (Registry.contains_iff.mpr hname)
      obtain ⟨count, hcount⟩ := ih _ hrest
      rw [Document.refresh, hp]
      dsimp only
      rw [hcount]
      exact ⟨_, rfl⟩

theorem exists_propagate_ok (e : Engine) {names : List String}
    (h : ∀ name ∈ names, name ∈ e.registry.names) :
    ∃ count, e.propagate names = (.ok ⟨names, needsReload e.registry names, count⟩,
      { e with page := e.page.map (refreshed e.registry names) }) := by
  unfold propagate refreshPage
  cases hpage : e.page with
  | none =>
      refine ⟨0, ?_⟩
      obtain ⟨network, store, page, diagnostics⟩ := e
      cases hpage
      rfl
  | some page =>
      obtain ⟨count, hcount⟩ := exists_refresh_ok page.document page.bindings h
      refine ⟨count, ?_⟩
      simp only [hcount]
      rfl

/-- The only error of following a change is that of a cycle that has been opened. -/
theorem exists_repairedCycle {net : Network} (hnet : net.Regular) {name : String} {i : Nat}
    (hi : net.position name = .ok i) :
    ∃ cycle, repairedCycle (net.valueChanged name).1 = .ok cycle := by
  obtain ⟨_, _, _, hresult⟩ := Network.valueChanged_of_ok hnet hi
  rw [hresult]
  cases hcycle : (net.scan i).cycle? with
  | none =>
      rw [Network.rescan_of_none hcycle]
      exact ⟨none, rfl⟩
  | some cycle =>
      rw [Network.rescan_of_some hcycle]
      exact ⟨some ((net.scan i).cycleError i cycle), rfl⟩

/-- **Following a change of a known name always answers an outcome**: it affects the name and its
    dependents, as they are by then. -/
theorem commit_eq {e : Engine} (he : e.Sound) {name : String}
    (hname : e.registry.contains name = true) :
    ∃ names answer count, (e.network.valueChanged name).2.dependents name = .ok names ∧
      e.commit name = (answer,
        { e with
          network := (e.network.valueChanged name).2
          page := e.page.map (refreshed (e.network.valueChanged name).2.registry (name :: names)) }) ∧
      outcome? answer = some ⟨name :: names,
        needsReload (e.network.valueChanged name).2.registry (name :: names), count⟩ := by
  obtain ⟨i, hi⟩ := Network.exists_position (Registry.contains_iff.mp hname)
  obtain ⟨_, halike⟩ := Network.regular_valueChanged he.regular name
  obtain ⟨names, hnames, hknown, _⟩ := Network.unaffected_valueChanged he.regular hi
  obtain ⟨cycle, hcycle⟩ := exists_repairedCycle he.regular hi
  generalize hnet : (e.network.valueChanged name).2 = net at *
  obtain ⟨count, hpropagate⟩ := exists_propagate_ok ({ e with network := net } : Engine)
    fun other hother => halike.names_eq.symm ▸ hknown other hother
  have hdependents : ({ e with network := net } : Engine).dependents name = .ok names := by
    rw [dependents, hnames]
    rfl
  unfold commit
  rw [show e.network.valueChanged name = ((e.network.valueChanged name).1, net) by rw [← hnet]]
  dsimp only
  rw [hcycle, hdependents]
  dsimp only
  rw [hpropagate]
  cases cycle with
  | none => exact ⟨names, _, count, hnames, rfl, rfl⟩
  | some source => exact ⟨names, _, count, hnames, rfl, rfl⟩

/-- What following a change of a known name leads to. -/
theorem commit_spec {e : Engine} (he : e.Sound) {name : String}
    (hname : e.registry.contains name = true) :
    ∃ o, outcome? (e.commit name).1 = some o ∧ Followed e (e.commit name).2 o := by
  obtain ⟨i, hi⟩ := Network.exists_position (Registry.contains_iff.mp hname)
  obtain ⟨hregular, halike⟩ := Network.regular_valueChanged he.regular name
  obtain ⟨names, hnames, hknown, hunaffected⟩ := Network.unaffected_valueChanged he.regular hi
  obtain ⟨names', answer, count, hnames', heq, houtcome⟩ := commit_eq he hname
  obtain rfl : names' = names := Except.ok.inj (hnames'.symm.trans hnames)
  rw [heq]
  refine ⟨_, houtcome, ⟨hregular, ?_⟩, halike, fun other hother => ?_, hunaffected, rfl, rfl⟩
  · change (e.network.valueChanged name).2.registry.names.Nodup
    rw [halike.names_eq]
    exact he.distinct
  · exact halike.names_eq.symm ▸ hknown other hother

theorem contains_writing {e : Engine} {name : String} (hname : e.registry.contains name = true)
    (store : Store) {f : Placeholder → Placeholder} (hf : Writes f) :
    ((e.storing store).writing name f).registry.contains name = true := by
  rw [Registry.contains_iff] at hname ⊢
  change name ∈ (e.registry.modify name f).names
  rwa [names_modify e.registry name hf]

/-- **Something that is written into a known placeholder is followed**, and that answers an outcome. -/
theorem commit_writing {e : Engine} (he : e.Sound) {name : String}
    (hname : e.registry.contains name = true) (store : Store) {f : Placeholder → Placeholder}
    (hf : Writes f) :
    ∃ o, outcome? (((e.storing store).writing name f).commit name).1 = some o ∧
      Followed ((e.storing store).writing name f) (((e.storing store).writing name f).commit name).2 o :=
  commit_spec ((he.storing store).writing name hf) (contains_writing hname store hf)

/-- What following a written change leads to. -/
theorem followed_answer {e : Engine} (he : e.Sound) {answer : Except EngineError Outcome × Engine}
    (h : Change.Answer e answer) :
    (outcome? answer.1 = none ∧ ∃ store, answer.2 = e.storing store) ∨
      ∃ o name store f, outcome? answer.1 = some o ∧ Writes f ∧
        Followed ((e.storing store).writing name f) answer.2 o := by
  cases h with
  | refused hnone store => exact .inl ⟨hnone, store, rfl⟩
  | @followed name hname store f hf =>
      obtain ⟨o, ho, hfollowed⟩ := commit_writing he hname store hf
      exact .inr ⟨o, name, store, f, ho, hf, hfollowed⟩

/-! ## 3. What a change does to a registry -/

theorem Writes.marks {f : Placeholder → Placeholder} (hf : Writes f) (p : Placeholder) :
    (f p).marks = p.marks := by
  obtain ⟨kind, value, hp⟩ := hf p
  rw [hp]
  rfl

theorem Writes.expandedValue {f : Placeholder → Placeholder} (hf : Writes f) (p : Placeholder) :
    (f p).expandedValue = p.expandedValue := by
  obtain ⟨kind, value, hp⟩ := hf p
  rw [hp]

theorem Writes.reloadOnChange {f : Placeholder → Placeholder} (hf : Writes f) (p : Placeholder) :
    (f p).reloadOnChange = p.reloadOnChange := by
  obtain ⟨kind, value, hp⟩ := hf p
  rw [hp]

/-- Writing into a placeholder shows nowhere before the change is followed. -/
theorem exists_at_modify (r : Registry) (name : String) {f : Placeholder → Placeholder}
    (hf : Writes f) {j : Nat} {p : Placeholder} (hp : r.placeholders[j]? = some p) :
    ∃ q, (r.modify name f).placeholders[j]? = some q ∧ q.marks = p.marks ∧
      q.expandedValue = p.expandedValue ∧ q.reloadOnChange = p.reloadOnChange := by
  unfold Registry.modify
  split
  · rename_i i _
    rw [Registry.getElem?_modifyAt, hp]
    split
    · exact ⟨f p, rfl, hf.marks p, hf.expandedValue p, hf.reloadOnChange p⟩
    · exact ⟨p, rfl, rfl, rfl, rfl⟩
  · exact ⟨p, hp, rfl, rfl, rfl⟩

theorem marks_modify (r : Registry) (name : String) {f : Placeholder → Placeholder} (hf : Writes f) :
    (r.modify name f).placeholders.map Placeholder.marks = r.placeholders.map Placeholder.marks := by
  unfold Registry.modify
  split
  · rename_i i _
    refine List.ext_getElem? fun j => ?_
    rw [List.getElem?_map, List.getElem?_map, Registry.getElem?_modifyAt]
    split
    · rw [Option.map_map]
      exact congrArg (Option.map · _) (funext hf.marks)
    · rfl
  · rfl

section Followed

variable {e after : Engine} {o : Outcome} {store : Storage.Store} {name : String}
  {f : Placeholder → Placeholder}

theorem Followed.marks_eq (h : Followed ((e.storing store).writing name f) after o) (hf : Writes f) :
    after.registry.placeholders.map Placeholder.marks =
      e.registry.placeholders.map Placeholder.marks :=
  h.alike.marks_eq.trans (marks_modify e.registry name hf)

/-- **What a change does to a placeholder as far as pages are concerned**: its value may change, if the
    outcome says that it is affected. -/
theorem Followed.exists_at (h : Followed ((e.storing store).writing name f) after o) (hf : Writes f)
    {j : Nat} {p : Placeholder} (hp : e.registry.placeholders[j]? = some p) :
    ∃ q, after.registry.placeholders[j]? = some q ∧ q.name = p.name ∧
      q.reloadOnChange = p.reloadOnChange ∧
      (p.name ∉ o.affected → q.expandedValue = p.expandedValue) := by
  obtain ⟨w, hw, hmarks, hvalue, hreload⟩ := exists_at_modify e.registry name hf hp
  have hname : w.name = p.name := congrArg (·.1) hmarks
  obtain ⟨q, hq, hraw⟩ := h.alike.symm.exists_at hw
  have hname' := congrArg Placeholder.name hraw
  have hreload' := congrArg Placeholder.reloadOnChange hraw
  refine ⟨q, hq, hname'.trans hname, hreload'.trans hreload, fun hnot => ?_⟩
  have hsame := h.unaffected j w hw (hname ▸ hnot)
  obtain rfl := Option.some.inj (hq.symm.trans hsame)
  exact hvalue

end Followed

end Engine

end Placeholders
