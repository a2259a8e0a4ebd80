import Placeholders.Proofs.Expansion.Pass

/-!
# A second pass

After a pass there is nothing left to replace, whatever the values have become.

* A part of a page is `Quiet` if a pass finds nothing to replace in it. Then a pass changes nothing
  (`Quiet.expandBelow_eq`), and which values the tokens stand for does not matter (`Quiet.valuedBy`).
* `quiet_expandBelow` says that a pass leaves things quiet. What it looks at afterwards it has looked at
  before, or it is a part of such a text: a sealed value, or a plain part, in which nothing is replaced.
-/

namespace Placeholders

open Placeholders.Markup Placeholders.Text Relation

namespace Document

variable {doc after : Document} {lexicon : Lexicon Target} {root : Nat}

/-! ## 1. Nothing to replace -/

/-- A pass finds nothing to replace below a node. -/
structure Quiet (doc : Document) (lexicon : Lexicon Target) (root : Nat) : Prop where
  texts : ∀ id ∈ doc.unbound root, (doc.text? id).isSome = true → doc.replacedAt lexicon id = []
  attributes : ∀ id ∈ doc.unbound root, doc.isElement id = true →
    ∀ name value, (name, value) ∈ doc.attributes id →
      doc.isSealedAttribute id name = true ∨ hits (Lexicon.markup lexicon) value.toList = []

/-- **Where everything is quiet a pass changes nothing.** -/
theorem Quiet.expandBelow_eq (h : doc.Quiet lexicon root) :
    doc.expandBelow lexicon root = (doc, []) := by
  have htexts : doc.expandTexts lexicon (doc.unboundTexts root) = (doc, []) := by
    refine expandTexts_eq_self fun id hid => ?_
    obtain ⟨hmem, htext⟩ := List.mem_filter.mp hid
    exact h.texts id hmem htext
  have hvalues : doc.expandAttributes (Lexicon.markup lexicon) (doc.unboundValues doc root) =
      (doc, []) := by
    refine expandAttributes_eq_self ?_
    rintro ⟨id, name, value⟩ hentry
    obtain ⟨⟨hid, helement⟩, hvalue⟩ := mem_unboundValues.mp hentry
    exact h.attributes id hid helement name value hvalue
  rw [Document.expandBelow_eq, htexts]
  dsimp only
  rw [hvalues]
  rfl

/-- What the tokens stand for does not matter. -/
theorem Quiet.valuedBy (h : doc.Quiet lexicon root) (r : Registry) :
    doc.Quiet (lexicon.mapTargets (Target.valuedBy r)) root where
  texts id hid htext := by rw [replacedAt_valuedBy, h.texts id hid htext, List.map_nil]
  attributes id hid helement name value hvalue := by
    refine (h.attributes id hid helement name value hvalue).imp_right fun hnone => ?_
    rw [Lexicon.markup_valuedBy, hits_mapTargets, hnone, List.map_nil]

/-! ## 2. What a second pass looks at -/

namespace Pass

variable {middle : Document} {group : Nat → List Nat}

/-- A pass goes on from a node only if it has gone on from it before. -/
theorem opens (h : doc.Pass middle after lexicon root group) (hdoc : doc.Linked) {p c : Nat}
    (hp : p < doc.size) (hopens : after.Opens p c) : doc.Opens p c := by
  obtain ⟨hchild, htext, hbinding⟩ := hopens
  obtain ⟨x, hx, hc⟩ := (h.mem_children hp).mp hchild
  rcases h.mem_group hc with ⟨rfl, _⟩ | ⟨_, hnew, part, _, hshows⟩
  · have hlt := hdoc.child_lt hx
    refine ⟨hx, ?_, Bool.eq_false_iff.mpr fun hbound => ?_⟩
    · rw [← htext, h.attributed.text?, h.regrouped.text? hlt]
    · rw [h.isBinding hlt hbound] at hbinding
      cases hbinding
  · rcases h.exists_text hdoc hnew hshows hbinding with ⟨_, _, hsome⟩ | ⟨_, _, _, hsome⟩ <;>
      rw [hsome] at htext <;> cases htext

theorem walk (h : doc.Pass middle after lexicon root group) (hdoc : doc.Linked)
    (hlt : root < doc.size) {p : Nat} (hwalk : ReflTransGen after.Opens root p) :
    ReflTransGen doc.Opens root p ∧ p < doc.size := by
  induction hwalk with
  | refl => exact ⟨.refl, hlt⟩
  | tail _ hopens ih =>
      have hold := h.opens hdoc ih.2 hopens
      exact ⟨ih.1.tail hold, hdoc.child_lt hold.1⟩

/-- **What a second pass looks at is a node that the first one has looked at and left as it is, or the
    text of a part, in the place of the text that it is a part of.** -/
theorem mem_unbound (h : doc.Pass middle after lexicon root group) (hdoc : doc.Linked)
    (hroot : doc.Grounded root) (hlt : root < doc.size) {id : Nat} (hid : id ∈ after.unbound root) :
    ∃ p c, doc.parent? c = some p ∧ after.parent? id = some p ∧ c ∈ doc.unbound root ∧
      ((id = c ∧ (c ∈ doc.unboundTexts root → doc.replacedAt lexicon c = [])) ∨
        (∃ text, .plain text ∈ doc.partsAt lexicon c ∧ after.text? id = some (String.ofList text)) ∨
        (after.isSealedText id = true ∧ (after.text? id).isSome = true)) := by
  obtain ⟨⟨p, hwalk, hchild⟩, hlooked⟩ := exposed_of_mem_unboundTo hid
  obtain ⟨hbefore, hp⟩ := h.walk hdoc hlt hwalk
  obtain ⟨c, hc, hmem⟩ := (h.mem_children hp).mp hchild
  have hexposed : doc.Exposed root c := ⟨p, hbefore, hc⟩
  refine ⟨p, c, (hdoc.mirrored p c).mp hc,
    ((h.attributed.linked h.linked).mirrored p id).mp hchild, ?_⟩
  rcases h.mem_group hmem with ⟨rfl, hkept⟩ | ⟨htext, hnew, part, hpart, hshows⟩
  · refine ⟨(hdoc.mem_unbound hroot hlt).mpr ⟨hexposed, ?_⟩, .inl ⟨rfl, hkept⟩⟩
    have hold := hdoc.child_lt hc
    unfold isLookedAt at hlooked ⊢
    rw [h.attributed.text?, h.regrouped.text? hold] at hlooked
    by_cases hsome : (doc.text? id).isSome = true
    · rw [hsome, Bool.true_or]
    · have hbinding : doc.isBinding id = false := Bool.eq_false_iff.mpr fun hbound => by
        simp [h.isBinding hold hbound, hsome] at hlooked
      rw [hbinding, Bool.not_false, Bool.or_true]
  · refine ⟨(List.mem_filter.mp htext).1, .inr ?_⟩
    have hbinding : after.isBinding id = false := Bool.eq_false_iff.mpr fun hbound => by
      simp [isLookedAt, hbound, text?_eq_none_of_isBinding hbound] at hlooked
    rcases h.exists_text hdoc hnew hshows hbinding with ⟨text, rfl, hsome⟩ | ⟨text, _, hsealed, hsome⟩
    · exact .inl ⟨text, hpart, hsome⟩
    · exact .inr ⟨hsealed, by rw [hsome]; rfl⟩

/-- **After a pass everything is quiet.** -/
theorem quiet (h : doc.Pass middle after lexicon root group) (hdoc : doc.Linked)
    (hroot : doc.Grounded root) (hlt : root < doc.size) (hlexicon : Searchable lexicon) :
    after.Quiet lexicon root where
  texts id hid htext := by
    obtain ⟨p, c, hparent, hparent', hc, hcases⟩ := h.mem_unbound hdoc hroot hlt hid
    have hraw : after.isRawAt id = doc.isRawAt c := by
      have hp : p < doc.size := lt_of_mem_children ((hdoc.mirrored p c).mpr hparent)
      simp only [isRawAt, hparent, hparent', Option.any_some, isRawElement, h.attributed.tag?,
        h.regrouped.tag? hp]
    rcases hcases with ⟨rfl, hkept⟩ | ⟨text, hplain, hsome⟩ | ⟨hsealed, _⟩
    · have hold := lt_of_parent? hparent
      have hchars : after.chars id = doc.chars id := by
        simp only [chars, h.attributed.text?, h.regrouped.text? hold]
      have hsealed : after.isSealedText id = doc.isSealedText id := by
        rw [h.attributed.isSealedText, h.regrouped.sealedText id hold]
      have hmem : id ∈ doc.unboundTexts root := by
        refine List.mem_filter.mpr ⟨hc, ?_⟩
        rwa [h.attributed.text?, h.regrouped.text? hold] at htext
      simp only [replacedAt, hchars, hraw, hsealed]
      exact hkept hmem
    · have hchars : after.chars id = text := by
        simp [chars, hsome]
      unfold replacedAt
      rw [hchars, hraw, replacedIn_of_plain_mem hlexicon (adjoins_nil _ _ _) hplain, ite_self]
    · rw [replacedAt, if_pos hsealed]
  attributes id hid helement name value hvalue := by
    obtain ⟨p, c, hparent, _, hc, hcases⟩ := h.mem_unbound hdoc hroot hlt hid
    have hnotext : after.text? id = none := by
      unfold isElement tag? at helement
      unfold text?
      split
      · rename_i hpayload
        rw [hpayload] at helement
        cases helement
      · rfl
    rcases hcases with ⟨rfl, _⟩ | ⟨text, _, hsome⟩ | ⟨_, hsome⟩
    · by_cases hsealed : after.isSealedAttribute id name = true
      · exact .inl hsealed
      · refine h.values id name value (mem_unboundValues.mpr ⟨⟨hc, ?_⟩, ?_⟩)
        · rwa [isElement, h.attributed.tag?] at helement
        · exact (h.attributed.unsealed id name (by simpa using hsealed) value).mp hvalue
    · rw [hnotext] at hsome
      cases hsome
    · rw [hnotext] at hsome
      cases hsome

end Pass

/-- **A pass leaves everything quiet.** -/
theorem quiet_expandBelow (hdoc : doc.Linked) (hroot : doc.Grounded root) (hlt : root < doc.size)
    (hlexicon : Searchable lexicon) :
    (doc.expandBelow lexicon root).1.Quiet lexicon root := by
  obtain ⟨group, hpass⟩ := exists_pass hdoc hroot lexicon
  exact hpass.quiet hdoc hroot hlt hlexicon

/-! ## 3. The second pass -/

theorem tally_nil (r : Registry) : r.tally [] = r := by
  have hsame : ∀ (i : Nat) (p : Placeholder), p.tally i [] = p := by
    intro i p
    simp [Placeholder.tally]
  have hplaceholders : r.placeholders.mapIdx (fun i p => p.tally i []) = r.placeholders := by
    refine List.ext_getElem? fun i => ?_
    simp [hsame]
  rw [Registry.tally, hplaceholders]

theorem size_le_expandBelow (hdoc : doc.Linked) (hroot : doc.Grounded root)
    (lexicon : Lexicon Target) : doc.size ≤ (doc.expandBelow lexicon root).1.size := by
  obtain ⟨group, hpass⟩ := exists_pass hdoc hroot lexicon
  rw [hpass.attributed.size_eq]
  exact hpass.regrouped.size_le

/-- **Where everything is quiet, expanding changes neither the document nor the registry**, whatever the
    values are by then. -/
theorem Quiet.expand_eq (h : doc.Quiet lexicon root) {r s : Registry} (hlexicon : r.targets = .ok lexicon)
    (hmarks : r.placeholders.map Placeholder.marks = s.placeholders.map Placeholder.marks)
    (hlt : root < doc.size) :
    ∃ found, doc.expand root s = .ok (doc, s, found) ∧ found.bindings = Bindings.scan doc root := by
  have htargets : s.targets = .ok (lexicon.mapTargets (Target.valuedBy s)) := by
    rw [targets_eq_of_marks_eq hmarks, hlexicon]
    rfl
  have hcontains : doc.contains root = true := by simpa [contains] using hlt
  have hsecond : doc.expandBelow (lexicon.mapTargets (Target.valuedBy s)) root = (doc, []) :=
    (h.valuedBy s).expandBelow_eq
  simp only [Document.expand, hcontains, htargets, hsecond, tally_nil]
  exact ⟨_, rfl, rfl⟩

/-- **Expanding a second time changes nothing**, even if all values have changed in between: neither the
    document, nor the registry, nor which bindings there are. (Below a root that is not grounded there
    is no end to the nodes, so that not even the first pass would come to one.) -/
theorem expand_again {middle : Document} {r s t : Registry} {found : Findings} (hdoc : doc.Made)
    (hroot : doc.Grounded root) (hfirst : doc.expand root r = .ok (middle, s, found))
    (hmarks : r.placeholders.map Placeholder.marks = t.placeholders.map Placeholder.marks) :
    ∃ again, middle.expand root t = .ok (middle, t, again) ∧ again.bindings = found.bindings := by
  obtain ⟨lexicon, hlt, htargets, rfl, _, hbindings⟩ := expand_eq_ok hfirst
  have hquiet := quiet_expandBelow hdoc.linked hroot hlt (searchable_targets htargets)
  have hsize := size_le_expandBelow hdoc.linked hroot lexicon
  rw [hbindings]
  exact hquiet.expand_eq htargets hmarks (Nat.lt_of_lt_of_le hlt hsize)

/-- A single placeholder. -/
def single (value : String) : Registry :=
  ⟨[.ofKind "A" (.textbox ⟨.fixed value, []⟩) {}], {}, .empty⟩

theorem expand_again_of_single :
    ∃ middle s found again, (parse "xAx dAd").expand Document.root (single "1") = .ok (middle, s, found) ∧
      middle.expand Document.root (single "xAx") = .ok (middle, single "xAx", again) ∧
      again.bindings = found.bindings := by
  have hok : ((parse "xAx dAd").expand Document.root (single "1")).toOption.isSome = true := by
    decide +kernel
  cases hfirst : (parse "xAx dAd").expand Document.root (single "1") with
  | error e =>
      rw [hfirst] at hok
      cases hok
  | ok made =>
      obtain ⟨middle, s, found⟩ := made
      obtain ⟨again, hsecond⟩ := expand_again (.parse "xAx dAd") ((ordered_parse "xAx dAd").grounded Document.root)
        hfirst (show (single "1").placeholders.map Placeholder.marks =
          (single "xAx").placeholders.map Placeholder.marks from rfl)
      exact ⟨middle, s, found, again, rfl, hsecond⟩

end Document

end Placeholders
