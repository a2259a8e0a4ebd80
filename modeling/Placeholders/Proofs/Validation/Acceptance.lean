import Placeholders.Engine.Change

/-!
# What is accepted

There are two ways to judge a value: `accepts` looks at rules of error severity only and stops as early
as it can, `evaluate` runs every rule and explains itself. They are two recursions over the same
rule-sets, and they agree.

* `status_evaluate_eq_error_iff` and its neighbours say of each status what the rules then answer.
* `accepts_iff` is the agreement on a list of rule-sets.
* `rejected_setText_iff` and `defaultRejected_build_iff` say where a rejection comes from; no other step
  of these calls ends with one.
-/

namespace Placeholders

namespace Validation

/-! ## 1. Reports -/

/-- A report without messages has no errors in particular. -/
theorem Report.hasErrors_of_isClean {report : Report} (h : report.isClean = true) :
    report.hasErrors = false := by
  simp only [isClean, Bool.and_eq_true] at h
  simp only [hasErrors, h.2, Bool.not_true]

section Reports

variable (reports : List Report)

/-- The four outcomes on reports, one per case. -/
theorem status_ofReports_cases :
    (reports = [] → (Verdict.ofReports reports).status = .noValidator) ∧
    ((∃ report ∈ reports, report.isClean = true) → (Verdict.ofReports reports).status = .good) ∧
    ((∃ report ∈ reports, report.hasErrors = false) → (∀ report ∈ reports, report.isClean = false) →
      (Verdict.ofReports reports).status = .warning) ∧
    (reports ≠ [] → (∀ report ∈ reports, report.hasErrors = true) →
      (Verdict.ofReports reports).status = .error) := by
  have hsome : ∀ {p : Report → Bool}, (∃ report ∈ reports, p report = true) →
      (reports.isEmpty = false ∧ (!(reports.filter p).isEmpty) = true) := by
    rintro p ⟨report, hreport, hp⟩
    have hfilter : report ∈ reports.filter p := List.mem_filter.mpr ⟨hreport, hp⟩
    exact ⟨by cases reports <;> simp_all, by cases h : reports.filter p <;> simp_all⟩
  have hnone : ∀ {p : Report → Bool}, (∀ report ∈ reports, p report = false) →
      (!(reports.filter p).isEmpty) = false := by
    intro p h
    simpa using h
  unfold Verdict.ofReports
  refine ⟨?_, fun hclean => ?_, fun htolerant hclean => ?_, fun hreports herrors => ?_⟩
  · rintro rfl
    rfl
  · obtain ⟨hreports, hgood⟩ := hsome hclean
    simp only [hreports, hgood, Bool.false_eq_true, if_false, if_true]
  · obtain ⟨hreports, hwarning⟩ := hsome (p := fun report => !report.hasErrors) (by simpa using htolerant)
    simp only [hreports, hnone hclean, hwarning, Bool.false_eq_true, if_false, if_true]
  · have hclean : ∀ report ∈ reports, report.isClean = false := fun report hreport =>
      Bool.eq_false_iff.mpr fun hgood =>
        Bool.noConfusion ((herrors report hreport).symm.trans (Report.hasErrors_of_isClean hgood))
    have htolerant := hnone (p := fun report => !report.hasErrors) (by simpa using herrors)
    have hreports : reports.isEmpty = false := by cases reports <;> simp_all
    simp only [hreports, hnone hclean, htolerant, Bool.false_eq_true, if_false]

/-- The error status: there are reports, and every one has errors. -/
theorem status_ofReports_eq_error_iff :
    (Verdict.ofReports reports).status = .error ↔
      reports ≠ [] ∧ ∀ report ∈ reports, report.hasErrors = true := by
  obtain ⟨hnone, hgood, hwarning, herror⟩ := status_ofReports_cases reports
  refine ⟨fun h => ⟨fun hreports => ?_, fun report hreport => ?_⟩, fun h => herror h.1 h.2⟩
  · rw [hnone hreports] at h
    cases h
  · -- A report without errors would make the status a warning, or good if some report is clean.
    refine Bool.not_eq_false _ ▸ fun hfalse => ?_
    by_cases hclean : ∃ report ∈ reports, report.isClean = true
    · rw [hgood hclean] at h
      cases h
    · rw [hwarning ⟨report, hreport, hfalse⟩ (by simpa using hclean)] at h
      cases h

end Reports

/-! ## 2. Verdicts -/

section Verdicts

variable (sets : List RuleSet) (value : String)

/-- The error status: there are rule-sets, and none accepts the value. -/
theorem status_evaluate_eq_error_iff :
    (evaluate sets value).status = .error ↔ sets ≠ [] ∧ ∀ set ∈ sets, set.accepts value = false := by
  rw [evaluate, status_ofReports_eq_error_iff]
  simp [RuleSet.hasErrors_check]

/-- **The fast check agrees with the verdict**: what is accepted is what has an acceptable status. -/
theorem accepts_iff : accepts sets value = true ↔ (evaluate sets value).status ≠ .error := by
  rw [Ne, status_evaluate_eq_error_iff]
  simp [accepts, Decidable.or_iff_not_imp_left]

/-- A predicate that does not answer rejects, whatever answer is wanted of it. -/
example :
    let silent (severity : Severity) : Rule := ⟨severity, .predicate "silent" fun _ => none, false, "no"⟩
    let sets : List RuleSet := [⟨"a", "A", [silent .error]⟩, ⟨"b", "B", [silent .warning]⟩]
    accepts sets "x" = true ∧ evaluate sets "x" = ⟨.warning, "B: no"⟩ := by decide

/-- What is not accepted is what has the error status. -/
theorem accepts_eq_false_iff : accepts sets value = false ↔ (evaluate sets value).status = .error := by
  rw [← Bool.not_eq_true, accepts_iff, Ne, Decidable.not_not]

/-- The whole verdict on what is not accepted. -/
theorem evaluate_eq_error_iff (message : String) :
    evaluate sets value = ⟨.error, message⟩ ↔
      accepts sets value = false ∧ (evaluate sets value).message = message := by
  rw [accepts_eq_false_iff]
  refine ⟨fun h => h ▸ ⟨rfl, rfl⟩, fun ⟨hstatus, hmessage⟩ => ?_⟩
  rw [← hstatus, ← hmessage]

end Verdicts

theorem Status.isAcceptable_iff (status : Status) : status.isAcceptable = true ↔ status ≠ .error := by
  simp [isAcceptable]

end Validation

open Validation

/-! ## 3. Defaults -/

section Defaults

variable (host : Host) (catalog : Catalog) (name : String)

theorem textDefault_eq_fixed_iff {value : String} {fixed function : Option String} :
    textDefault host name fixed function = .ok (.fixed value) ↔ fixed = some value ∧ function = none := by
  cases fixed <;> cases function <;> simp only [textDefault]
  case none.some => split <;> simp
  all_goals simp

theorem textDefault_ne_rejected (n v message : String) (fixed function : Option String) :
    textDefault host name fixed function ≠ .error (.defaultRejected n v message) := by
  unfold textDefault
  split
  · exact nofun
  · split <;> exact nofun
  · exact nofun

/-- A textbox is rejected for its default if it has a fixed one and the verdict on it is an error. -/
theorem rejected_build_textbox_iff {fixed function : Option String} {ids : List String}
    {n value message : String} :
    Textbox.build host catalog name fixed function ids = .error (.defaultRejected n value message) ↔
      n = name ∧ (fixed = some value ∧ function = none) ∧
        ∃ sets, catalog.resolve ids = .ok sets ∧ evaluate sets value = ⟨.error, message⟩ := by
  simp only [← textDefault_eq_fixed_iff host name, evaluate_eq_error_iff]
  unfold Textbox.build
  cases hdefault : textDefault host name fixed function with
  | error err =>
      refine ⟨fun h => ?_, fun h => nomatch h.2.1⟩
      cases h
      exact (textDefault_ne_rejected host name _ _ _ _ _ hdefault).elim
  | ok default =>
      cases hresolve : catalog.resolve ids with
      | error err => exact ⟨nofun, fun ⟨_, _, _, h, _⟩ => nomatch h⟩
      | ok sets =>
          cases default with
          | produced function made => exact ⟨nofun, fun h => nomatch h.2.1⟩
          | fixed v =>
              change (if accepts sets v = true then Except.ok (⟨.fixed v, sets⟩ : Textbox)
                else Except.error (ParseError.defaultRejected name v (evaluate sets v).message)) = _ ↔ _
              split
              · rename_i haccepts
                refine ⟨nofun, ?_⟩
                rintro ⟨-, hv, _, hsets, hrejects, -⟩
                cases hv
                cases hsets
                rw [haccepts] at hrejects
                cases hrejects
              · rename_i hrejects
                constructor
                · intro h
                  cases h
                  exact ⟨rfl, rfl, sets, rfl, Bool.eq_false_iff.mpr hrejects, rfl⟩
                · rintro ⟨rfl, hv, _, hsets, -, rfl⟩
                  cases hv
                  cases hsets
                  rfl

/-- An entry is rejected for its default if it is a textbox that is. -/
theorem rejected_build_iff (spec : PlaceholderSpec) (settings : Settings) {n value message : String} :
    spec.build host catalog settings = .error (.defaultRejected n value message) ↔
      n = spec.name ∧ ∃ ids, spec.kind = .textbox (some value) none ids ∧
        ∃ sets, catalog.resolve ids = .ok sets ∧ evaluate sets value = ⟨.error, message⟩ := by
  have hkind : spec.build host catalog settings = .error (.defaultRejected n value message) ↔
      spec.kind.build host catalog spec.name = .error (.defaultRejected n value message) := by
    unfold PlaceholderSpec.build
    cases spec.kind.build host catalog spec.name <;> simp
  rw [hkind]
  cases hspec : spec.kind with
  | textbox fixed function ids =>
      have hbox : (KindSpec.textbox fixed function ids).build host catalog spec.name =
            .error (.defaultRejected n value message) ↔
          Textbox.build host catalog spec.name fixed function ids =
            .error (.defaultRejected n value message) := by
        simp only [KindSpec.build]
        cases Textbox.build host catalog spec.name fixed function ids <;> simp [Except.map]
      rw [hbox, rejected_build_textbox_iff]
      refine and_congr_right fun _ => ⟨?_, ?_⟩
      · rintro ⟨⟨rfl, rfl⟩, h⟩
        exact ⟨ids, rfl, h⟩
      · rintro ⟨_, hids, h⟩
        cases hids
        exact ⟨⟨rfl, rfl⟩, h⟩
  | checkbox checked unchecked checkedByDefault => exact ⟨nofun, fun ⟨_, _, h, _⟩ => nomatch h⟩
  | dropdown choices defaultIndex =>
      refine ⟨fun h => ?_, fun ⟨_, _, h, _⟩ => nomatch h⟩
      simp only [KindSpec.build, Dropdown.build] at h
      split at h
      · cases h
      · split at h <;> cases h

end Defaults

/-! ## 4. Texts that readers set -/

namespace Engine

/-- Following a change ends with errors of the network and the page only. -/
theorem commit_ne_rejected (e : Engine) (name n v message : String) :
    (e.commit name).1 ≠ .error (.rejected n v message) := by
  have hcycle : ∀ result, repairedCycle result ≠ .error (.rejected n v message) := fun result => by
    unfold repairedCycle
    split <;> exact nofun
  have hdependents : ∀ e : Engine, e.dependents name ≠ .error (.rejected n v message) := fun e => by
    unfold dependents
    cases e.network.dependents name <;> exact nofun
  have hpropagate : ∀ (e : Engine) names, (e.propagate names).1 ≠ .error (.rejected n v message) := by
    intro e names
    unfold propagate refreshPage
    cases e.page with
    | none => exact nofun
    | some page =>
        dsimp only
        cases (page.document.refresh page.bindings e.registry names).1 <;> exact nofun
  unfold commit
  dsimp only
  split
  · rename_i h
    rintro ⟨⟩
    exact hcycle _ h
  · rename_i h
    rintro ⟨⟩
    exact hdependents _ h
  · split
    · exact nofun
    · exact hpropagate _ _

/-- What is stored and followed has been accepted before. -/
theorem storeThenCommit_ne_rejected (e : Engine) (name n v message : String)
    (write : Storage.Store → Except Storage.StorageError Unit × Storage.Store)
    (f : Placeholder → Placeholder) :
    (e.storeThenCommit name write f).1 ≠ .error (.rejected n v message) := by
  unfold storeThenCommit
  split
  · exact nofun
  · exact commit_ne_rejected _ _ _ _ _

theorem changeable_ne_rejected (e : Engine) (name n v message : String) :
    e.changeable name ≠ .error (.rejected n v message) := by
  unfold changeable find
  cases e.registry.get? name with
  | none => exact nofun
  | some p =>
      dsimp only
      split <;> exact nofun

/-- **A text is rejected exactly if the verdict on it is an error**, and the message is that of the
    verdict. -/
theorem rejected_setText_iff (e : Engine) (name value : String) {n v message : String} :
    (e.setText name value).1 = .error (.rejected n v message) ↔
      n = name ∧ v = value ∧ ∃ p box, e.changeable name = .ok p ∧ p.kind = .textbox box ∧
        Validation.evaluate box.validators value = ⟨.error, message⟩ := by
  simp only [evaluate_eq_error_iff]
  unfold setText
  cases hp : e.changeable name with
  | error err =>
      refine ⟨fun h => ?_, fun ⟨_, _, _, _, h, _⟩ => nomatch h⟩
      cases h
      exact (changeable_ne_rejected e name _ _ _ hp).elim
  | ok p =>
      have hverdict : ∀ box, p.kind = .textbox box →
          p.accepts value = accepts box.validators value ∧
            p.evaluate value = Validation.evaluate box.validators value := fun box hbox => by
        simp only [Placeholder.accepts, Placeholder.evaluate, hbox, and_self]
      dsimp only
      split
      · rename_i box hbox
        obtain ⟨haccepts, hevaluate⟩ := hverdict box hbox
        rw [haccepts, hevaluate]
        split
        · rename_i htrue
          refine ⟨fun h => (storeThenCommit_ne_rejected _ _ _ _ _ _ _ h).elim, ?_⟩
          rintro ⟨-, -, _, _, hsame, hkind, hfalse, -⟩
          cases hsame
          cases hbox.symm.trans hkind
          rw [htrue] at hfalse
          cases hfalse
        · rename_i hfalse
          constructor
          · intro h
            cases h
            exact ⟨rfl, rfl, p, box, rfl, hbox, Bool.eq_false_iff.mpr hfalse, rfl⟩
          · rintro ⟨rfl, rfl, _, _, hsame, hkind, -, rfl⟩
            cases hsame
            cases hbox.symm.trans hkind
            rfl
      · rename_i hother
        refine ⟨nofun, ?_⟩
        rintro ⟨-, -, _, _, hsame, hkind, -⟩
        cases hsame
        exact (hother _ hkind).elim

end Engine

/-- **The fast check agrees with the full verdict**, for all rule-sets, whatever their predicates answer
    and whether they answer. So readers cannot set exactly those texts whose verdict is an error, and
    descriptors cannot have exactly those as fixed defaults; the message is the verdict's. -/
theorem accepts_agrees_evaluate (sets : List RuleSet) (value : String) :
    (accepts sets value = true ↔ (evaluate sets value).status.isAcceptable = true) ∧
    (∀ (e : Engine) (name message : String),
      (e.setText name value).1 = .error (.rejected name value message) ↔
        ∃ p box, e.changeable name = .ok p ∧ p.kind = .textbox box ∧
          evaluate box.validators value = ⟨.error, message⟩) ∧
    ∀ (host : Host) (catalog : Catalog) (settings : Settings) (spec : PlaceholderSpec)
      (message : String),
      spec.build host catalog settings = .error (.defaultRejected spec.name value message) ↔
        ∃ ids, spec.kind = .textbox (some value) none ids ∧
          ∃ sets, catalog.resolve ids = .ok sets ∧ evaluate sets value = ⟨.error, message⟩ := by
  refine ⟨?_, fun e name message => ?_, fun host catalog settings spec message => ?_⟩
  · rw [accepts_iff, Status.isAcceptable_iff]
  · rw [Engine.rejected_setText_iff]
    simp only [true_and]
  · rw [rejected_build_iff]
    simp only [true_and]

end Placeholders
