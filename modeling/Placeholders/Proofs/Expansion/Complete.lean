import Placeholders.Proofs.Expansion.Agreement
import Placeholders.Proofs.Expansion.Idempotent
import Placeholders.Proofs.Expansion.Stretches
import Placeholders.Proofs.Expansion.Tables

/-!
# A pass misses nothing

A pass replaces all tokens that it should, and counts every one.

* In a text where everything is quiet no token occurs, unless no markup is read there
  (`Quiet.not_infix`).
* `Rewritten` says which attribute values a pass has written, and what tokens it has found there.
* `complete_expand` puts it together with what a pass does to texts: each placeholder has counted the new
  nodes of its tokens and the tokens found in attribute values, and no others.
-/

namespace Placeholders

open Placeholders.Markup Placeholders.Text Relation

theorem TokenClass.needsReload_iff {c : TokenClass} :
    c.needsReload = true ↔ c = .normal ∨ c = .html := by
  cases c <;> decide

namespace Document

variable {doc after : Document} {lexicon : Lexicon Target} {root : Nat}

/-! ## 1. Texts -/

/-- **Where everything is quiet no token occurs in a text that a pass looks at**, unless no markup is read
    there. -/
theorem Quiet.not_infix (h : doc.Quiet lexicon root) (hdoc : doc.Linked) (hroot : doc.Grounded root)
    (hlt : root < doc.size) (hproper : lexicon.Proper) {id : Nat} {text : String}
    (hexposed : doc.Exposed root id) (htext : doc.text? id = some text)
    (hopen : doc.isSealedText id = false) (hmarkup : doc.isRawAt id = false)
    {e : List Char × Target} (he : e ∈ lexicon) : ¬ e.1 <:+: text.toList := by
  have hlooked : doc.isLookedAt id = true := by simp [isLookedAt, htext]
  have hid := (hdoc.mem_unbound hroot hlt).mpr ⟨hexposed, hlooked⟩
  have hnone := h.texts id hid (by rw [htext]; rfl)
  rw [replacedAt, hopen, if_neg (by simp), hmarkup, replacedIn_false, chars, htext] at hnone
  exact hproper.not_infix_of_hits_eq_nil hnone he

/-- No token of a registry is left in the exposed texts below a node that are not sealed, where markup is
    read. -/
def Spent (doc : Document) (r : Registry) (root : Nat) : Prop :=
  ∀ id text, doc.Exposed root id → doc.text? id = some text → doc.isSealedText id = false →
    doc.isRawAt id = false → ∀ p ∈ r.placeholders, ∀ c : TokenClass,
      (c = .html → p.allowInnerHtml = true) → (p.tokens.get c).literal ≠ "" →
        ¬ (p.tokens.get c).literal.toList <:+: text.toList

/-- Where everything is quiet no token is left. -/
theorem Quiet.spent {r : Registry} (h : doc.Quiet lexicon root) (htargets : r.targets = .ok lexicon)
    (hdoc : doc.Linked) (hroot : doc.Grounded root) (hlt : root < doc.size) : doc.Spent r root := by
  intro id text hexposed htext hopen hmarkup p hp c hc hne
  obtain ⟨e, he, hliteral⟩ := exists_mem_targets htargets hp (mem_tokenClasses.mpr hc) hne
  rw [← hliteral]
  exact h.not_infix hdoc hroot hlt (searchable_targets htargets).proper hexposed htext hopen hmarkup he

/-- Below a node, and in no binding there. -/
def OutsideBindings (doc : Document) (root id : Nat) : Prop :=
  ∃ p, ReflTransGen (fun p c => c ∈ doc.children p ∧ doc.isBinding c = false) root p ∧
    id ∈ doc.children p

/-- Nothing is in a text. Markup puts nothing there, but other changes can. -/
def LeafTexts (doc : Document) : Prop := ∀ x, doc.text? x ≠ none → doc.children x = []

/-- As long as nothing is in a text, no text hides anything from a pass. -/
theorem OutsideBindings.exposed {id : Nat}
    (hleaf : ∀ x, ReflTransGen doc.Child root x → doc.text? x ≠ none → doc.children x = [])
    (h : doc.OutsideBindings root id) : doc.Exposed root id := by
  obtain ⟨p, hwalk, hid⟩ := h
  refine ⟨p, ?_, hid⟩
  induction hwalk generalizing id with
  | refl => exact .refl
  | @tail p c hwalk hstep ih =>
      have hchild : ReflTransGen doc.Child root c :=
        (ReflTransGen.mono (fun _ _ hstep => hstep.1) _ _ hwalk).tail hstep.1
      have htext : doc.text? c = none := by
        by_contra hsome
        rw [hleaf c hchild hsome] at hid
        cases hid
      exact (ih hstep.1).tail ⟨hstep.1, htext, hstep.2⟩

/-- A pass puts nothing into texts. -/
theorem Pass.children_eq_nil {middle : Document} {group : Nat → List Nat}
    (h : doc.Pass middle after lexicon root group) (hdoc : doc.Linked) (hlt : root < doc.size)
    (hleaf : doc.LeafTexts) {x : Nat} (hx : ReflTransGen after.Child root x)
    (htext : after.text? x ≠ none) : after.children x = [] := by
  have hrendered := h.rendered hdoc
  rcases hrendered.walk_cases hdoc hlt hx with hold | ⟨_, _, _, _, part, _, hshows⟩ | ⟨_, hnone⟩
  · rw [h.attributed.text?, h.regrouped.text? hold] at htext
    rw [hrendered.children x hold, hleaf x htext, List.flatMap_nil]
  · exact hshows.children_eq_nil htext
  · exact hnone

/-! ## 2. Attribute values -/

/-- The tokens that are found in several attribute values. -/
def foundIn (lexicon : Lexicon Target) (values : List (Nat × String × String)) : List Target :=
  values.flatMap fun v => hits lexicon v.2.2.toList

/-- What the pass through attribute values writes; `values` are the old values of what it has written. -/
structure Rewritten (doc after : Document) (lexicon : Lexicon Target)
    (entries values : List (Nat × String × String)) : Prop where
  sublist : values.Sublist entries
  /-- No attribute is written twice. -/
  distinct : (values.map fun v => (v.1, v.2.1)).Nodup
  written : ∀ v ∈ values, doc.isSealedAttribute v.1 v.2.1 = false ∧
    after.attribute? v.1 v.2.1 =
      some (String.ofList (replaceAll lexicon (fun t => t.value.toList) v.2.2.toList))
  /-- What is written is sealed, and nothing else. -/
  seals : ∀ x name, after.isSealedAttribute x name = true ↔
    doc.isSealedAttribute x name = true ∨ ∃ value, (x, name, value) ∈ values
  /-- Where a token is found something is written, unless the value has been sealed already. -/
  all : ∀ v ∈ entries, hits lexicon v.2.2.toList ≠ [] → after.isSealedAttribute v.1 v.2.1 = true

theorem attribute?_writeAttribute_self {id : Nat} (h : doc.isElement id = true) (name value : String) :
    (doc.writeAttribute id name value).attribute? id name = some value := by
  unfold isElement tag? at h
  split at h
  · rename_i tag attributes hpayload
    simp only [attribute?, Document.attributes, payload?_writeAttribute, if_true, hpayload, Option.map_some,
      Payload.mapAttributes]
    exact (Attributes.get?_set attributes name name value).trans (if_pos rfl)
  · cases h

/-- A sealed value stays as it is. -/
theorem attribute?_expandAttributes_of_sealed {x : Nat} {name : String}
    (h : doc.isSealedAttribute x name = true) (lexicon : Lexicon Target)
    (entries : List (Nat × String × String)) :
    (doc.expandAttributes lexicon entries).1.attribute? x name = doc.attribute? x name := by
  induction entries generalizing doc with
  | nil => rfl
  | cons entry rest ih =>
      rw [expandAttributes_cons]
      rcases expandAttribute_cases doc lexicon entry.1 entry.2.1 entry.2.2 with ⟨_, heq⟩ | ⟨hopen, _, heq⟩
      · rw [heq]
        exact ih h
      · rw [heq]
        refine (ih ((isSealedAttribute_writeAttribute doc _ _ _ x name).mpr (.inr h))).trans ?_
        by_cases hx : x = entry.1
        · refine attribute?_writeAttribute_of_ne ?_ entry.1 _ x
          rintro rfl
          rw [hx, hopen] at h
          cases h
        · rw [attribute?, attribute?, attributes_writeAttribute_of_ne hx]

namespace Rewritten

variable {entries values : List (Nat × String × String)} {v : Nat × String × String}

/-- A value is passed over. -/
theorem skip (h : Rewritten doc after lexicon entries values)
    (hpassed : doc.isSealedAttribute v.1 v.2.1 = true ∨ hits lexicon v.2.2.toList = []) :
    Rewritten doc after lexicon (v :: entries) values where
  sublist := h.sublist.cons v
  distinct := h.distinct
  written := h.written
  seals := h.seals
  all := List.forall_mem_cons.mpr ⟨fun hfound =>
    (h.seals _ _).mpr (.inl (hpassed.resolve_right hfound)), h.all⟩

/-- A value is written and sealed, so that nothing more is written there. -/
theorem write {text : String}
    (h : Rewritten (doc.writeAttribute v.1 v.2.1 text) after lexicon entries values)
    (hopen : doc.isSealedAttribute v.1 v.2.1 = false)
    (htext : text = String.ofList (replaceAll lexicon (fun t => t.value.toList) v.2.2.toList))
    (hafter : after.attribute? v.1 v.2.1 = some text) :
    Rewritten doc after lexicon (v :: entries) (v :: values) := by
  have hseals : ∀ x name, (doc.writeAttribute v.1 v.2.1 text).isSealedAttribute x name = true ↔
      (x = v.1 ∧ name = v.2.1) ∨ doc.isSealedAttribute x name = true :=
    isSealedAttribute_writeAttribute doc v.1 v.2.1 text
  have hown : after.isSealedAttribute v.1 v.2.1 = true :=
    (h.seals _ _).mpr (.inl ((hseals _ _).mpr (.inl ⟨rfl, rfl⟩)))
  refine ⟨h.sublist.cons_cons v, ?_, ?_, fun x name => ?_, ?_⟩
  · refine List.nodup_cons.mpr ⟨fun hmem => ?_, h.distinct⟩
    obtain ⟨w, hw, heq⟩ := List.mem_map.mp hmem
    have hfree := (h.written w hw).1
    rw [(hseals _ _).mpr (.inl (Prod.mk.inj heq))] at hfree
    cases hfree
  · refine List.forall_mem_cons.mpr ⟨⟨hopen, htext ▸ hafter⟩, fun w hw => ?_⟩
    refine (h.written w hw).imp_left fun hfree => Bool.eq_false_iff.mpr fun hsealed => ?_
    rw [(hseals _ _).mpr (.inr hsealed)] at hfree
    cases hfree
  · rw [h.seals, hseals, or_comm (a := x = v.1 ∧ name = v.2.1), or_assoc]
    refine or_congr_right ⟨?_, ?_⟩
    · rintro (⟨rfl, rfl⟩ | ⟨value, hmem⟩)
      · exact ⟨v.2.2, List.mem_cons_self⟩
      · exact ⟨value, List.mem_cons_of_mem v hmem⟩
    · rintro ⟨value, hmem⟩
      rcases List.mem_cons.mp hmem with rfl | hmem
      · exact .inl ⟨rfl, rfl⟩
      · exact .inr ⟨value, hmem⟩
  · exact List.forall_mem_cons.mpr ⟨fun _ => hown, h.all⟩

/-- Only the seals of the document before count. -/
theorem of_seals {middle : Document} (h : Rewritten middle after lexicon entries values)
    (hseals : middle.sealedAttributes = doc.sealedAttributes) :
    Rewritten doc after lexicon entries values := by
  have hsame : ∀ x name, middle.isSealedAttribute x name = doc.isSealedAttribute x name :=
    fun x name => by rw [isSealedAttribute, isSealedAttribute, hseals]
  exact ⟨h.sublist, h.distinct, fun v hv => hsame v.1 v.2.1 ▸ h.written v hv,
    fun x name => hsame x name ▸ h.seals x name, h.all⟩

end Rewritten

/-- **This is what the pass through attribute values writes**, and what it replaces are the tokens found
    there. -/
theorem exists_rewritten (doc : Document) (lexicon : Lexicon Target)
    (entries : List (Nat × String × String)) (h : ∀ v ∈ entries, doc.isElement v.1 = true) :
    ∃ values, Rewritten doc (doc.expandAttributes lexicon entries).1 lexicon entries values ∧
      (doc.expandAttributes lexicon entries).2 = foundIn lexicon values := by
  induction entries generalizing doc with
  | nil =>
      refine ⟨[], ⟨.slnil, List.nodup_nil, List.forall_mem_nil _, fun x name => ?_,
        List.forall_mem_nil _⟩, rfl⟩
      simp [expandAttributes]
  | cons v entries ih =>
      obtain ⟨helement, hrest⟩ := List.forall_mem_cons.mp h
      rw [expandAttributes_cons]
      rcases expandAttribute_cases doc lexicon v.1 v.2.1 v.2.2 with ⟨hpassed, heq⟩ | ⟨hopen, _, heq⟩
      · rw [heq]
        obtain ⟨values, hvalues, hreplaced⟩ := ih doc hrest
        exact ⟨values, hvalues.skip hpassed, hreplaced⟩
      · rw [heq]
        generalize htext : String.ofList (replaceAll lexicon (fun t => t.value.toList) v.2.2.toList) = text
        have hkept := attributed_writeAttribute doc v.1 v.2.1 text
        obtain ⟨values, hvalues, hreplaced⟩ := ih (doc.writeAttribute v.1 v.2.1 text) fun w hw => by
          rw [isElement, hkept.tag?]
          exact hrest w hw
        have hsealed :=
          (isSealedAttribute_writeAttribute doc v.1 v.2.1 text v.1 v.2.1).mpr (.inl ⟨rfl, rfl⟩)
        refine ⟨v :: values, hvalues.write hopen htext.symm ?_, ?_⟩
        · rw [attribute?_expandAttributes_of_sealed hsealed]
          exact attribute?_writeAttribute_self helement v.2.1 text
        · exact congrArg (hits lexicon v.2.2.toList ++ ·) hreplaced

/-! ## 3. Counting -/

/-- What a registry counts: for each placeholder the new nodes of its tokens, and its tokens among those
    found in attribute values. -/
def Tallied (r s : Registry) (created : List (Nat × Stretch)) (found : List Target) : Prop :=
  ∀ i p, r.placeholders[i]? = some p → ∃ q, s.placeholders[i]? = some q ∧
    q.countOnPage = p.countOnPage + created.countP (·.2.isOf i) + found.countP (·.source == i) ∧
    (q.reloadOnChange = true ↔ p.reloadOnChange = true ∨
      ∃ t, ((∃ e ∈ created, e.2.target = some t) ∨ t ∈ found) ∧ t.source = i ∧
        (t.tokenClass = .normal ∨ t.tokenClass = .html))

theorem tallied_tally (r : Registry) (created : List (Nat × Stretch)) (found : List Target) :
    Tallied r (r.tally (created.filterMap (·.2.target) ++ found)) created found := by
  intro i p hp
  refine ⟨p.tally i (created.filterMap (·.2.target) ++ found), ?_, ?_, ?_⟩
  · rw [Registry.tally, List.getElem?_mapIdx, hp, Option.map_some]
  · have hcreated : (created.filterMap (·.2.target)).countP (·.source == i) =
        created.countP (·.2.isOf i) := by
      rw [List.countP_filterMap]
      refine List.countP_congr fun e _ => ?_
      unfold Stretch.isOf
      cases e.2.target <;> rfl
    rw [Placeholder.tally, ← List.countP_eq_length_filter, List.countP_append, hcreated, ← Nat.add_assoc]
  · simp only [Placeholder.tally, Bool.or_eq_true, List.any_eq_true, List.mem_filter, List.mem_append,
      List.mem_filterMap, beq_iff_eq, TokenClass.needsReload_iff, and_assoc]

/-! ## 4. The whole pass -/

/-- **A pass misses nothing and counts what it replaces.** No token is left where it should be replaced,
    which is in every text in no binding, as long as nothing is in a text. Each placeholder has counted
    one for every new node that was made for a token of it, and these are the new sealed texts and bindings
    on the page (`Restated.marked`); and one for every token of it that was found in an attribute value.
    It needs a reload if it did so before, or if one of these tokens is of a class that cannot be brought
    up to date in place. -/
theorem complete_expand {r s : Registry} {found : Findings} (hdoc : doc.Made) (hroot : doc.Grounded root)
    (h : doc.expand root r = .ok (after, s, found)) :
    after.Spent r root ∧
    (doc.LeafTexts → ∀ id, after.OutsideBindings root id → after.Exposed root id) ∧
    ∃ lexicon made values, r.targets = .ok lexicon ∧ (∀ e ∈ lexicon, r.Offers e) ∧
      doc.Restated after lexicon root made ∧
      doc.Rewritten after (Lexicon.markup lexicon) (doc.unboundValues doc root) values ∧
      Tallied r s (doc.created root made) (foundIn (Lexicon.markup lexicon) values) := by
  obtain ⟨lexicon, hlt, htargets, rfl, rfl, _⟩ := expand_eq_ok h
  have hlexicon := searchable_targets htargets
  have hlinked := hdoc.linked
  obtain ⟨group, hpass⟩ := exists_pass hlinked hroot lexicon
  obtain ⟨made, hrestated, htexts⟩ :=
    hpass.exists_restated hlinked hdoc.sealedWithin hroot hlt hlexicon.proper
  obtain ⟨values, hrewritten, hvalues⟩ := exists_rewritten
    (doc.expandTexts lexicon (doc.unboundTexts root)).1 (Lexicon.markup lexicon)
    (doc.unboundValues (doc.expandTexts lexicon (doc.unboundTexts root)).1 root)
    fun v hv => (mem_unboundValues.mp hv).1.2
  refine ⟨?_, fun hleaf id hid => hid.exposed fun x => hpass.children_eq_nil hlinked hlt hleaf,
    lexicon, made, values, htargets, offers_of_mem_targets htargets, hrestated, ?_, ?_⟩
  · exact (quiet_expandBelow hlinked hroot hlt hlexicon).spent htargets (hlinked.expandBelow lexicon root)
      (hlinked.grounded_expandBelow hroot hlt lexicon)
      (Nat.lt_of_lt_of_le hlt (size_le_expandBelow hlinked hroot lexicon))
  · rw [← unboundValues_eq hlinked hpass.regrouped]
    exact hrewritten.of_seals hpass.regrouped.sealedAttributes
  · rw [expandBelow_snd hlinked hroot, hvalues, ← htexts]
    exact tallied_tally r _ _

/-- A page with tokens in a text, in an attribute value and where no markup is read. -/
def mixed : String := "<p title='iAi, xBx'>xAxBx, dBd</p><script>dAd iAi</script>"

theorem complete_expand_of_mixed :
    ∃ after s found, (parse mixed).expand Document.root pair = .ok (after, s, found) ∧
      after.Spent pair Document.root ∧
      ((parse mixed).LeafTexts → ∀ id, after.OutsideBindings Document.root id →
        after.Exposed Document.root id) ∧
      ∃ lexicon made values, pair.targets = .ok lexicon ∧ (∀ e ∈ lexicon, pair.Offers e) ∧
        (parse mixed).Restated after lexicon Document.root made ∧
        (parse mixed).Rewritten after (Lexicon.markup lexicon)
          ((parse mixed).unboundValues (parse mixed) Document.root) values ∧
        Tallied pair s ((parse mixed).created Document.root made)
          (foundIn (Lexicon.markup lexicon) values) := by
  have hok : ((parse mixed).expand Document.root pair).toOption.isSome = true := by decide +kernel
  cases hexpand : (parse mixed).expand Document.root pair with
  | error e =>
      rw [hexpand] at hok
      cases hok
  | ok made =>
      obtain ⟨after, s, found⟩ := made
      exact ⟨after, s, found, rfl,
        complete_expand (.parse mixed) ((ordered_parse mixed).grounded Document.root) hexpand⟩

example : ((parse mixed).expand Document.root pair).toOption.map
    (fun made => made.2.1.placeholders.map (·.countOnPage)) = some [3, 1] := by
  decide +kernel

end Document

end Placeholders
