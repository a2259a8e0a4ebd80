import Placeholders.Expansion
import Placeholders.Proofs.Text.Cutting

/-!
# The tokens that are looked for

`Registry.targets` is a lexicon in which no literal is empty and none stands for two things.

* Its literals are the tokens of the classes that are looked for, except empty ones: it has no others
  (`offers_of_mem_targets`), and none is missing (`exists_mem_targets`).
* Its literals, and which placeholder and class each is of, depend on nothing but the `marks` of the
  placeholders: name, tokens, and whether the value may stand inside markup.
* Registries with the same marks therefore have the same targets, but for the values
  (`targets_eq_of_marks_eq`).
-/

namespace Placeholders

open Placeholders.Text

/-! ## 1. Offering -/

namespace Text.Lexicon

variable {α β : Type}

theorem mem_of_mem_offer {lexicon : Lexicon α} {literal : List Char} {target : α}
    {e : List Char × α} (h : e ∈ lexicon.offer literal target) :
    e ∈ lexicon ∨ (e = (literal, target) ∧ ∀ f ∈ lexicon, f.1 ≠ literal) := by
  unfold offer at h
  split at h
  · exact .inl h
  · rename_i hnew
    have hfresh : ∀ f ∈ lexicon, f.1 ≠ literal := by
      rintro f hf rfl
      exact hnew (List.any_eq_true.mpr ⟨f, hf, beq_self_eq_true f.1⟩)
    rcases List.mem_append.mp h with h | h
    · exact .inl h
    · exact .inr ⟨List.mem_singleton.mp h, hfresh⟩

/-- What a lexicon has it keeps when a literal is offered. -/
theorem mem_offer_of_mem {lexicon : Lexicon α} {e : List Char × α} (h : e ∈ lexicon)
    (literal : List Char) (target : α) : e ∈ lexicon.offer literal target := by
  unfold offer
  split
  · exact h
  · exact List.mem_append_left _ h

/-- A literal that has been offered is in the lexicon. -/
theorem exists_mem_offer (lexicon : Lexicon α) (literal : List Char) (target : α) :
    ∃ e ∈ lexicon.offer literal target, e.1 = literal := by
  unfold offer
  split
  · rename_i hknown
    obtain ⟨e, he, hliteral⟩ := List.any_eq_true.mp hknown
    exact ⟨e, he, beq_iff_eq.mp hliteral⟩
  · exact ⟨(literal, target), List.mem_append_right _ (List.mem_singleton_self _), rfl⟩

theorem Functional.offer {lexicon : Lexicon α} (h : lexicon.Functional) (literal : List Char)
    (target : α) : (lexicon.offer literal target).Functional := by
  intro e he f hf heq
  rcases mem_of_mem_offer he with he | ⟨rfl, hnew⟩ <;> rcases mem_of_mem_offer hf with hf | ⟨rfl, hnew'⟩
  · exact h e he f hf heq
  · exact absurd heq (hnew' e he)
  · exact absurd heq.symm (hnew f hf)
  · rfl

theorem Proper.offer {lexicon : Lexicon α} (h : lexicon.Proper) {literal : List Char}
    (hne : literal ≠ []) (target : α) : (lexicon.offer literal target).Proper := by
  intro e he
  rcases mem_of_mem_offer he with he | ⟨rfl, _⟩
  · exact h e he
  · exact hne

theorem offer_mapTargets (f : α → β) (lexicon : Lexicon α) (literal : List Char) (target : α) :
    (lexicon.mapTargets f).offer literal (f target) = (lexicon.offer literal target).mapTargets f := by
  have hany : (lexicon.mapTargets f).any (·.1 == literal) = lexicon.any (·.1 == literal) := by
    rw [mapTargets, List.any_map]
    rfl
  unfold offer
  rw [hany]
  split
  · rfl
  · simp [mapTargets]

end Text.Lexicon

/-! ## 2. The lexicon of a registry -/

/-- What decides which tokens of a placeholder are looked for. -/
def Placeholder.marks (p : Placeholder) : String × Tokens × Bool :=
  (p.name, p.tokens, p.allowInnerHtml)

/-- No literal is empty, and none stands for two things. -/
structure Searchable (lexicon : Lexicon Target) : Prop where
  proper : lexicon.Proper
  functional : lexicon.Functional

/-- A token of a placeholder at a position, as it is looked for. -/
def Placeholder.entry (p : Placeholder) (i : Nat) (c : TokenClass) : List Char × Target :=
  ((p.tokens.get c).literal.toList, ⟨i, p.name, p.expandedValue, c⟩)

/-- The tokens that are added, in order. -/
def offersFrom (i : Nat) (ps : List Placeholder) : List (Nat × Placeholder × TokenClass) :=
  (ps.zipIdx i).flatMap fun e => e.1.tokenClasses.map fun c => (e.2, e.1, c)

/-- Adds one of them. -/
def addOffer (lexicon : Lexicon Target) (o : Nat × Placeholder × TokenClass) :
    Except TokenError (Lexicon Target) :=
  addTarget o.1 o.2.1 lexicon o.2.2

section Offers

variable {lexicon after : Lexicon Target} {o : Nat × Placeholder × TokenClass}
  {offers : List (Nat × Placeholder × TokenClass)}

theorem addTargets_eq_foldlM (lexicon : Lexicon Target) (i : Nat) (ps : List Placeholder) :
    addTargets lexicon i ps = (offersFrom i ps).foldlM addOffer lexicon := by
  induction ps generalizing lexicon i with
  | nil => rfl
  | cons p ps ih =>
      have hfirst : (p.tokenClasses.map fun c => (i, p, c)).foldlM addOffer lexicon =
          p.tokenClasses.foldlM (addTarget i p) lexicon := List.foldlM_map ..
      rw [addTargets, offersFrom, List.zipIdx_cons, List.flatMap_cons, List.foldlM_append, hfirst]
      cases p.tokenClasses.foldlM (addTarget i p) lexicon with
      | error e => rfl
      | ok next => exact ih next (i + 1)

theorem mem_offersFrom_zero {ps : List Placeholder} :
    o ∈ offersFrom 0 ps ↔ ps[o.1]? = some o.2.1 ∧ o.2.2 ∈ o.2.1.tokenClasses := by
  obtain ⟨i, p, c⟩ := o
  simp only [offersFrom, List.mem_flatMap, List.mem_map]
  constructor
  · rintro ⟨⟨q, k⟩, hq, d, hd, heq⟩
    cases heq
    exact ⟨List.mem_zipIdx_iff_getElem?.mp hq, hd⟩
  · rintro ⟨hp, hc⟩
    exact ⟨(p, i), List.mem_zipIdx_iff_getElem?.mpr hp, c, hc, rfl⟩

/-- A token is offered when it is added, unless it is empty. -/
theorem addOffer_cases (h : addOffer lexicon o = .ok after) :
    ((o.2.1.entry o.1 o.2.2).1 = [] ∧ after = lexicon) ∨
      ((o.2.1.entry o.1 o.2.2).1 ≠ [] ∧
        after = lexicon.offer (o.2.1.entry o.1 o.2.2).1 (o.2.1.entry o.1 o.2.2).2) := by
  have hempty : (o.2.1.tokens.get o.2.2).literal.isEmpty = true ↔ (o.2.1.entry o.1 o.2.2).1 = [] := by
    rw [String.isEmpty_iff, Placeholder.entry, String.toList_eq_nil_iff]
  unfold addOffer addTarget at h
  simp only at h
  split at h
  · cases h
  · split at h
    · rename_i hnone
      cases h
      exact .inl ⟨hempty.mp hnone, rfl⟩
    · rename_i hsome
      cases h
      exact .inr ⟨fun hnil => hsome (hempty.mpr hnil), rfl⟩

/-- What is kept whenever a token is added is kept by adding them all. -/
theorem foldlM_addOffer_induction {motive : Lexicon Target → Prop}
    (h : offers.foldlM addOffer lexicon = .ok after)
    (step : ∀ o ∈ offers, ∀ before next, addOffer before o = .ok next → motive before → motive next)
    (start : motive lexicon) : motive after := by
  induction offers generalizing lexicon with
  | nil =>
      cases h
      exact start
  | cons o offers ih =>
      obtain ⟨hfirst, hrest⟩ := List.forall_mem_cons.mp step
      rw [List.foldlM_cons] at h
      cases hstep : addOffer lexicon o with
      | error e => rw [hstep] at h; cases h
      | ok next =>
          rw [hstep] at h
          exact ih h hrest (hfirst _ _ hstep start)

theorem Searchable.addOffer (h : Searchable lexicon) (hafter : addOffer lexicon o = .ok after) :
    Searchable after := by
  rcases addOffer_cases hafter with ⟨_, rfl⟩ | ⟨hne, rfl⟩
  · exact h
  · exact ⟨h.proper.offer hne _, h.functional.offer _ _⟩

theorem mem_addOffer_of_mem (h : addOffer lexicon o = .ok after) {e : List Char × Target}
    (he : e ∈ lexicon) : e ∈ after := by
  rcases addOffer_cases h with ⟨_, rfl⟩ | ⟨_, rfl⟩
  · exact he
  · exact Lexicon.mem_offer_of_mem he _ _

theorem mem_or_eq_of_mem_addOffer (h : addOffer lexicon o = .ok after) {e : List Char × Target}
    (he : e ∈ after) : e ∈ lexicon ∨ e = o.2.1.entry o.1 o.2.2 := by
  rcases addOffer_cases h with ⟨_, rfl⟩ | ⟨_, rfl⟩
  · exact .inl he
  · exact (Lexicon.mem_of_mem_offer he).imp_right (·.1)

/-- A token that is added is looked for from then on, unless it is empty. -/
theorem exists_mem_foldlM_addOffer (h : offers.foldlM addOffer lexicon = .ok after) (ho : o ∈ offers)
    (hne : (o.2.1.entry o.1 o.2.2).1 ≠ []) : ∃ e ∈ after, e.1 = (o.2.1.entry o.1 o.2.2).1 := by
  induction offers generalizing lexicon with
  | nil => cases ho
  | cons first offers ih =>
      rw [List.foldlM_cons] at h
      cases hstep : addOffer lexicon first with
      | error e => rw [hstep] at h; cases h
      | ok next =>
          rw [hstep] at h
          rcases List.mem_cons.mp ho with rfl | ho
          · have hadded : ∃ e ∈ next, e.1 = (o.2.1.entry o.1 o.2.2).1 := by
              rcases addOffer_cases hstep with ⟨hnil, _⟩ | ⟨_, rfl⟩
              · exact absurd hnil hne
              · exact lexicon.exists_mem_offer _ _
            obtain ⟨e, he, hliteral⟩ := hadded
            refine ⟨e, ?_, hliteral⟩
            exact foldlM_addOffer_induction (motive := (e ∈ ·)) h
              (fun _ _ _ _ hadd hbefore => mem_addOffer_of_mem hadd hbefore) he
          · exact ih h ho

end Offers

section Registry

variable {r : Registry} {lexicon : Lexicon Target}

/-- The entry is for the placeholder at its position, and for its token of one of the classes that are
    looked for. -/
def Registry.Offers (r : Registry) (e : List Char × Target) : Prop :=
  ∃ p, r.placeholders[e.2.source]? = some p ∧ e.2.tokenClass ∈ p.tokenClasses ∧
    e = p.entry e.2.source e.2.tokenClass

/-- All classes are looked for, that of markup only where the value may stand in markup. -/
theorem mem_tokenClasses {p : Placeholder} {c : TokenClass} :
    c ∈ p.tokenClasses ↔ (c = .html → p.allowInnerHtml = true) := by
  unfold Placeholder.tokenClasses
  rw [List.mem_filter]
  cases c <;> simp [TokenClass.all, Strategy.ofClass]

theorem Registry.targets_eq_foldlM (r : Registry) :
    r.targets = (offersFrom 0 r.placeholders).foldlM addOffer [] :=
  addTargets_eq_foldlM [] 0 r.placeholders

/-- **The targets of a registry can be searched for.** -/
theorem searchable_targets (h : r.targets = .ok lexicon) : Searchable lexicon := by
  rw [r.targets_eq_foldlM] at h
  refine foldlM_addOffer_induction h (fun _ _ _ _ hadd hbefore => hbefore.addOffer hadd) ?_
  exact ⟨fun _ he => absurd he List.not_mem_nil, fun _ he => absurd he List.not_mem_nil⟩

/-- **What is looked for are tokens of placeholders.** -/
theorem offers_of_mem_targets (h : r.targets = .ok lexicon) : ∀ e ∈ lexicon, r.Offers e := by
  rw [r.targets_eq_foldlM] at h
  refine foldlM_addOffer_induction (motive := fun lexicon => ∀ e ∈ lexicon, r.Offers e) h
    (fun o ho before next hadd hbefore e he => ?_) fun _ he => absurd he List.not_mem_nil
  rcases mem_or_eq_of_mem_addOffer hadd he with he | rfl
  · exact hbefore e he
  · obtain ⟨hp, hc⟩ := mem_offersFrom_zero.mp ho
    exact ⟨o.2.1, hp, hc, rfl⟩

/-- **Every token of a class that is looked for is looked for**, unless it is empty. -/
theorem exists_mem_targets (h : r.targets = .ok lexicon) {p : Placeholder} (hp : p ∈ r.placeholders)
    {c : TokenClass} (hc : c ∈ p.tokenClasses) (hne : (p.tokens.get c).literal ≠ "") :
    ∃ e ∈ lexicon, e.1 = (p.tokens.get c).literal.toList := by
  rw [r.targets_eq_foldlM] at h
  obtain ⟨i, hi⟩ := List.mem_iff_getElem?.mp hp
  refine exists_mem_foldlM_addOffer (o := (i, p, c)) h (mem_offersFrom_zero.mpr ⟨hi, hc⟩) ?_
  rwa [ne_eq, Placeholder.entry, String.toList_eq_nil_iff]

/-- What a target says about the placeholder that it is of. -/
structure Target.Of (t : Target) (p : Placeholder) : Prop where
  name : t.name = p.name
  value : t.value = p.expandedValue

/-- **A target is of the placeholder at its position.** -/
theorem exists_source (h : r.targets = .ok lexicon) {literal : List Char} {t : Target}
    (ht : (literal, t) ∈ lexicon) : ∃ p, r.placeholders[t.source]? = some p ∧ t.Of p := by
  obtain ⟨p, hp, _, heq⟩ := offers_of_mem_targets h _ ht
  have ht : t = _ := congrArg Prod.snd heq
  exact ⟨p, hp, by rw [ht]; rfl, by rw [ht]; rfl⟩

end Registry

/-! ## 3. The same tokens with other values -/

/-- The target with the value that its placeholder has in a registry. -/
def Target.valuedBy (r : Registry) (t : Target) : Target :=
  { t with value := ((r.placeholders[t.source]?).map (·.expandedValue)).getD "" }

@[simp] theorem Target.strategy_valuedBy (r : Registry) (t : Target) :
    (t.valuedBy r).strategy = t.strategy := rfl

@[simp] theorem Target.isMarkup_valuedBy (r : Registry) (t : Target) :
    (t.valuedBy r).isMarkup = t.isMarkup := rfl

theorem Target.value_valuedBy {t : Target} {r : Registry} {p : Placeholder}
    (h : r.placeholders[t.source]? = some p) : (t.valuedBy r).value = p.expandedValue := by
  simp [Target.valuedBy, h]

theorem tokenClasses_eq_of_marks_eq {p q : Placeholder} (h : p.marks = q.marks) :
    p.tokenClasses = q.tokenClasses := by
  have hallow : p.allowInnerHtml = q.allowInnerHtml := congrArg (·.2.2) h
  simp only [Placeholder.tokenClasses, hallow]

theorem addTarget_mapTargets {f : Target → Target} {i : Nat} {p q : Placeholder}
    (hmarks : p.marks = q.marks) {c : TokenClass}
    (hf : f ⟨i, p.name, p.expandedValue, c⟩ = ⟨i, q.name, q.expandedValue, c⟩)
    (lexicon : Lexicon Target) :
    addTarget i q (lexicon.mapTargets f) c =
      (addTarget i p lexicon c).map (Lexicon.mapTargets f) := by
  have htokens : p.tokens = q.tokens := congrArg (·.2.1) hmarks
  unfold addTarget
  rw [htokens, ← hf]
  simp only [Lexicon.offer_mapTargets]
  split
  · rfl
  · split <;> rfl

theorem foldlM_addTarget_mapTargets {f : Target → Target} {i : Nat} {p q : Placeholder}
    (hmarks : p.marks = q.marks)
    (hf : ∀ c, f ⟨i, p.name, p.expandedValue, c⟩ = ⟨i, q.name, q.expandedValue, c⟩)
    (classes : List TokenClass) (lexicon : Lexicon Target) :
    classes.foldlM (addTarget i q) (lexicon.mapTargets f) =
      (classes.foldlM (addTarget i p) lexicon).map (Lexicon.mapTargets f) := by
  induction classes generalizing lexicon with
  | nil => rfl
  | cons c classes ih =>
      rw [List.foldlM_cons, List.foldlM_cons, addTarget_mapTargets hmarks (hf c)]
      cases addTarget i p lexicon c with
      | error e => rfl
      | ok next => exact ih next

theorem addTargets_mapTargets {r : Registry} {i : Nat} {ps qs : List Placeholder}
    (hmarks : ps.map Placeholder.marks = qs.map Placeholder.marks)
    (hqs : qs = r.placeholders.drop i) (lexicon : Lexicon Target) :
    addTargets (lexicon.mapTargets (Target.valuedBy r)) i qs =
      (addTargets lexicon i ps).map (Lexicon.mapTargets (Target.valuedBy r)) := by
  induction ps generalizing lexicon i qs with
  | nil =>
      obtain rfl : qs = [] := by simpa using hmarks.symm
      rfl
  | cons p ps ih =>
      cases qs with
      | nil => simp at hmarks
      | cons q qs =>
          obtain ⟨hmark, hrest⟩ := List.cons.inj hmarks
          have hat : r.placeholders[i]? = some q := by
            have h0 := congrArg (·[0]?) hqs
            simpa using h0.symm
          have hdrop : qs = r.placeholders.drop (i + 1) := by
            have h1 := congrArg List.tail hqs
            simpa using h1
          have hf : ∀ c, Target.valuedBy r ⟨i, p.name, p.expandedValue, c⟩ =
              ⟨i, q.name, q.expandedValue, c⟩ := by
            intro c
            have hname : p.name = q.name := congrArg (·.1) hmark
            simp [Target.valuedBy, hat, hname]
          rw [addTargets, addTargets, ← tokenClasses_eq_of_marks_eq hmark,
            foldlM_addTarget_mapTargets hmark hf]
          cases p.tokenClasses.foldlM (addTarget i p) lexicon with
          | error e => rfl
          | ok next => exact ih hrest hdrop next

/-- **Registries with the same marks have the same targets, each with the value of its own registry.** -/
theorem targets_eq_of_marks_eq {r s : Registry}
    (h : r.placeholders.map Placeholder.marks = s.placeholders.map Placeholder.marks) :
    s.targets = r.targets.map (Lexicon.mapTargets (Target.valuedBy s)) :=
  addTargets_mapTargets h rfl []

/-- Registries with the same marks have them at the same positions. -/
theorem exists_marked {r s : Registry}
    (h : r.placeholders.map Placeholder.marks = s.placeholders.map Placeholder.marks) {i : Nat}
    {p : Placeholder} (hp : r.placeholders[i]? = some p) :
    ∃ q, s.placeholders[i]? = some q ∧ q.marks = p.marks := by
  have hi := congrArg (·[i]?) h
  simp only [List.getElem?_map, hp, Option.map_some] at hi
  exact (Option.map_eq_some_iff.mp hi.symm).imp fun q hq => hq

end Placeholders
