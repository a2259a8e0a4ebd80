import Placeholders.Proofs.Expansion.Rendered
import Placeholders.Proofs.Unshared

/-!
# Pages and values alike

There are two ways to replace tokens: a pass over a page cuts texts into parts, and expanding a value
writes a new one. Each has a table of its own: that of a page keeps the first placeholder for a token, that
of values the last one, and that of a page knows classes besides.

* In an unshared registry both tables have the same entries, once only the values count
  (`exists_targets`).
* The parts of a text read one after the other are the text with its tokens replaced
  (`flatMap_chars_partsFrom`), and so is the text of the page after a pass.
* `textContent_expand` puts both together.
-/

namespace Placeholders

open Placeholders.Markup Placeholders.Text

/-! ## 1. Tables -/

namespace Text.Lexicon

variable {α : Type}

theorem mem_offer_of_functional {lexicon : Lexicon α} {entry : List Char × α}
    (h : Functional (lexicon ++ [entry])) (e : List Char × α) :
    e ∈ lexicon.offer entry.1 entry.2 ↔ e ∈ lexicon ∨ e = entry := by
  unfold offer
  split
  · rename_i hknown
    obtain ⟨f, hf, hliteral⟩ := List.any_eq_true.mp hknown
    have hsame : f = entry :=
      h f (List.mem_append_left _ hf) entry (by simp) (beq_iff_eq.mp hliteral)
    exact ⟨.inl, fun hmem => hmem.elim id fun heq => heq ▸ hsame ▸ hf⟩
  · simp

/-- Offers one pair after the other. -/
def offerAll (lexicon : Lexicon α) (pairs : List (List Char × α)) : Lexicon α :=
  pairs.foldl (fun lexicon e => lexicon.offer e.1 e.2) lexicon

theorem mem_offerAll {lexicon : Lexicon α} {pairs : List (List Char × α)}
    (h : Functional (lexicon ++ pairs)) {e : List Char × α} :
    e ∈ lexicon.offerAll pairs ↔ e ∈ lexicon ++ pairs :=
  mem_foldl_of_functional (fun _ _ => mem_offer_of_functional) h

end Text.Lexicon

section Tables

variable {p : Placeholder} {ps : List Placeholder} {i : Nat}

/-- The classes of a placeholder whose value may stand inside markup. -/
theorem tokenClasses_of_allowInnerHtml (h : p.allowInnerHtml = true) : p.tokenClasses = TokenClass.all := by
  simp [Placeholder.tokenClasses, h]

/-- The tokens of one placeholder are offered with its value. -/
theorem exists_foldlM_addTarget {classes : List TokenClass}
    (h : ∀ c ∈ classes, (p.tokens.get c).isGlobal = true ∧ (p.tokens.get c).literal ≠ "")
    (lexicon : Lexicon Target) :
    ∃ after, classes.foldlM (addTarget i p) lexicon = .ok after ∧
      after.mapTargets Target.value = Lexicon.offerAll (lexicon.mapTargets Target.value)
        (classes.map fun c => ((p.tokens.get c).literal.toList, p.expandedValue)) := by
  induction classes generalizing lexicon with
  | nil => exact ⟨lexicon, rfl, rfl⟩
  | cons c classes ih =>
      obtain ⟨⟨hglobal, hnonempty⟩, hrest⟩ := List.forall_mem_cons.mp h
      have hstep : addTarget i p lexicon c = .ok
          (lexicon.offer (p.tokens.get c).literal.toList ⟨i, p.name, p.expandedValue, c⟩) := by
        have hsome : (p.tokens.get c).literal.isEmpty = false := by
          simpa [String.isEmpty_iff] using hnonempty
        simp [addTarget, hglobal, hsome]
      obtain ⟨after, hafter, hvalues⟩ := ih hrest
        (lexicon.offer (p.tokens.get c).literal.toList ⟨i, p.name, p.expandedValue, c⟩)
      refine ⟨after, ?_, ?_⟩
      · rw [List.foldlM_cons, hstep]
        exact hafter
      · rw [hvalues, ← Lexicon.offer_mapTargets]
        rfl

/-- The tokens of several placeholders are offered with their values. -/
theorem exists_addTargets (hallow : ∀ p ∈ ps, p.allowInnerHtml = true)
    (h : ∀ p ∈ ps, ∀ c, (p.tokens.get c).isGlobal = true ∧ (p.tokens.get c).literal ≠ "")
    (lexicon : Lexicon Target) :
    ∃ after, addTargets lexicon i ps = .ok after ∧
      after.mapTargets Target.value = Lexicon.offerAll (lexicon.mapTargets Target.value)
        (ps.flatMap Reference.tokenEntries) := by
  induction ps generalizing lexicon i with
  | nil => exact ⟨lexicon, rfl, rfl⟩
  | cons p ps ih =>
      obtain ⟨hmarkup, hallow⟩ := List.forall_mem_cons.mp hallow
      obtain ⟨htokens, h⟩ := List.forall_mem_cons.mp h
      obtain ⟨next, hnext, hvalues⟩ :=
        exists_foldlM_addTarget (i := i) (fun c (_ : c ∈ TokenClass.all) => htokens c) lexicon
      obtain ⟨after, hafter, hall⟩ := ih hallow h next (i := i + 1)
      refine ⟨after, ?_, ?_⟩
      · rw [addTargets, tokenClasses_of_allowInnerHtml hmarkup, hnext]
        exact hafter
      · rw [hall, hvalues]
        simp [Lexicon.offerAll, Reference.tokenEntries]

/-- **In an unshared registry whose values may stand inside markup, a pass looks for the tokens that
    values refer by**, and they stand for the same values. -/
theorem exists_targets {r : Registry} (h : r.Unshared)
    (hallow : ∀ p ∈ r.placeholders, p.allowInnerHtml = true) :
    ∃ lexicon, r.targets = .ok lexicon ∧ ∀ s,
      (lexicon.mapTargets Target.value).startOf? s = (Reference.lexicon r.placeholders).startOf? s := by
  obtain ⟨lexicon, hlexicon, hvalues⟩ := exists_addTargets (i := 0) hallow
    (fun p hp c => ⟨h.isGlobal p hp c, h.nonempty p hp c⟩) []
  refine ⟨lexicon, hlexicon, fun s => (Lexicon.startOf?_congr ?_ (fun e => ?_) s).symm⟩
  · exact Reference.functional_lexicon _
  · rw [hvalues, Reference.lexicon_eq_assignAll, Lexicon.mem_assignAll h.unambiguous.functional]
    exact (Lexicon.mem_offerAll h.unambiguous.functional).symm

end Tables

/-! ## 2. Parts -/

/-- What a reader sees of a part. -/
def Part.chars : Part → List Char
  | .plain text => text
  | .value text => text.toList
  | .binding t _ => t.value.toList

theorem flatMap_chars_consPlain (text : List Char) (parts : List Part) :
    (Part.consPlain text parts).flatMap Part.chars = text ++ parts.flatMap Part.chars := by
  unfold Part.consPlain
  split
  · rename_i hempty
    rw [List.isEmpty_iff.mp hempty, List.nil_append]
  · rfl

/-- Where markup is read, every token is replaced, and what readers see is its value. -/
theorem exists_part (t : Target) : ∃ part, t.part? false = some part ∧ part.chars = t.value.toList := by
  unfold Target.part?
  cases t.strategy with
  | direct | escapedMarkup => exact ⟨_, rfl, rfl⟩
  | liveBound editor => exact ⟨_, rfl, rfl⟩

/-- **What readers see of the parts of a text is the text with its tokens replaced.** -/
theorem flatMap_chars_partsFrom (before : List Char) (pieces : List (Piece Target)) :
    (partsFrom false before pieces).1.flatMap Part.chars =
      before.reverse ++ pieces.flatMap (Piece.render fun t => t.value.toList) := by
  induction pieces generalizing before with
  | nil =>
      rw [partsFrom, flatMap_chars_consPlain]
      rfl
  | cons piece rest ih =>
      cases piece with
      | plain c =>
          rw [partsFrom, ih, List.reverse_cons, List.append_assoc]
          rfl
      | hit literal t =>
          obtain ⟨part, hpart, hchars⟩ := exists_part t
          rw [partsFrom, hpart, flatMap_chars_consPlain, List.flatMap_cons, List.flatMap_cons, hchars, ih]
          rfl

namespace Document

variable {doc after : Document} {root c : Nat} {text : String}

/-- The text of the node of a part is what readers see of it. -/
theorem Shows.textContent_eq {id : Nat} {part : Part} (h : doc.Shows id part) :
    (doc.textContent id).toList = part.chars := by
  cases part with
  | plain text =>
      have htext : doc.text? id = some (String.ofList text) := by simp only [text?, h.1]
      rw [textContent_of_text? htext, String.toList_ofList]
      rfl
  | value text =>
      have htext : doc.text? id = some text := by simp only [text?, h.1]
      rw [textContent_of_text? htext]
      rfl
  | binding t editor =>
      rw [h.2.textContent_eq h.lt (by simp [text?, h.1])]
      rfl

theorem flatMap_textContent {news : List Nat} {parts : List Part}
    (h : List.Forall₂ doc.Shows news parts) :
    news.flatMap (fun n => (doc.textContent n).toList) = parts.flatMap Part.chars := by
  induction h with
  | nil => rfl
  | cons hfirst _ ih => rw [List.flatMap_cons, List.flatMap_cons, hfirst.textContent_eq, ih]

theorem Shows.children_eq_nil {id : Nat} {part : Part} (h : doc.Shows id part)
    (htext : doc.text? id ≠ none) : doc.children id = [] := by
  cases part with
  | plain text => exact h.2
  | value text => exact h.2.1
  | binding t editor => simp [text?, h.1] at htext

/-! ## 3. A page that is one text -/

/-- The only content of a page is one text that is not sealed. -/
structure IsOneText (doc : Document) (root c : Nat) (text : String) : Prop where
  top : doc.payload? root = some .root
  only : doc.children root = [c]
  content : doc.payload? c = some (.text text)
  leaf : doc.children c = []
  unsealed : doc.isSealedText c = false

namespace IsOneText

variable (h : doc.IsOneText root c text)

include h

theorem within : doc.Within 2 root :=
  .intro fun x hx => by
    rw [h.only, List.mem_singleton] at hx
    exact within_of_leaf (hx ▸ h.leaf)

theorem text?_root : doc.text? root = none := by
  simp only [text?, h.top]

theorem text?_text : doc.text? c = some text := by
  simp only [text?, h.content]

theorem unboundTexts : doc.unboundTexts root = [c] := by
  obtain ⟨n, hn⟩ : ∃ n, doc.size = n + 1 := ⟨doc.size - 1, by have := lt_of_payload? h.top; omega⟩
  simp [Document.unboundTexts, unbound, hn, unboundTo, h.only, h.text?_text]

theorem isRawAt (hdoc : doc.Linked) : doc.isRawAt c = false := by
  have hparent : doc.parent? c = some root := (hdoc.mirrored root c).mp (by simp [h.only])
  simp [Document.isRawAt, hparent, isRawElement, tag?, h.top]

theorem chars : doc.chars c = text.toList := by
  rw [Document.chars, h.text?_text, Option.getD_some]

/-- All tokens in the text are replaced. -/
theorem replacedAt (hdoc : doc.Linked) (lexicon : Lexicon Target) :
    doc.replacedAt lexicon c = hits lexicon text.toList := by
  rw [Document.replacedAt, h.unsealed, if_neg (by simp), h.isRawAt hdoc, h.chars, replacedIn_false]

/-- **After a pass the text of the page is what it was, with its tokens replaced.** -/
theorem toList_textContent_expandBelow (hdoc : doc.Linked) {lexicon : Lexicon Target}
    (hproper : lexicon.Proper) :
    ((doc.expandBelow lexicon root).1.textContent root).toList =
      replaceAll lexicon (fun t => t.value.toList) text.toList := by
  obtain ⟨group, hpass⟩ := exists_pass hdoc h.within.grounded lexicon
  have hrendered := hpass.rendered hdoc
  have hroot := lt_of_payload? h.top
  have hc := lt_of_payload? h.content
  generalize (doc.expandBelow lexicon root).1 = after at hpass hrendered
  have hkept : ∀ x < doc.size, after.text? x = doc.text? x := fun x hx => by
    rw [hpass.attributed.text?, hpass.regrouped.text? hx]
  have hgroup : after.children root = group c := by
    rw [hrendered.children root hroot, h.only, List.flatMap_singleton]
  have hmem : c ∈ doc.unboundTexts root := by
    rw [h.unboundTexts]
    exact List.mem_singleton_self c
  have hleaf : after.children c = [] := by rw [hrendered.children c hc, h.leaf, List.flatMap_nil]
  rw [hrendered.linked.toList_textContent (hrendered.within hdoc h.within hroot)
    (Nat.lt_of_lt_of_le hroot hrendered.size_le) ((hkept root hroot).trans h.text?_root) ?_, hgroup]
  · by_cases hnone : doc.replacedAt lexicon c = []
    · rw [(hpass.replaces c hmem).untouched hnone, List.flatMap_singleton,
        textContent_of_text? ((hkept c hc).trans h.text?_text)]
      rw [h.replacedAt hdoc] at hnone
      exact (hproper.replaceAll_eq_self hnone _).symm
    · rw [flatMap_textContent ((hrendered.replaces c hmem).shows hnone), partsAt, h.isRawAt hdoc,
        h.chars, flatMap_chars_partsFrom]
      rfl
  · intro n hn htext
    rw [hgroup] at hn
    rcases hrendered.mem_group hn with rfl | ⟨_, _, part, _, hshows⟩
    · exact hleaf
    · exact hshows.children_eq_nil htext

end IsOneText

/-- **Pages and values are expanded alike**: a pass over a page that is one text leaves the text that
    expanding the text as a value would have made, with all placeholders or with only those that it
    refers to. No token may be empty or shared; standard tokens of distinct names never are. -/
theorem textContent_expand {r : Registry} (hdoc : doc.Made) (h : doc.IsOneText root c text)
    (hallow : ∀ p ∈ r.placeholders, p.allowInnerHtml = true)
    (htokens : r.Unshared ∨ (r.names.Nodup ∧ r.StandardTokens)) :
    ∃ after s found, doc.expand root r = .ok (after, s, found) ∧
      after.textContent root = Reference.expand r.placeholders text ∧
      after.textContent root =
        Reference.expand (r.placeholders.filter fun p => p.isReferencedIn text) text := by
  have hunshared : r.Unshared := htokens.elim id fun hnames => .of_standard hnames.1 hnames.2
  obtain ⟨lexicon, hlexicon, hsame⟩ := exists_targets hunshared hallow
  have hroot := lt_of_payload? h.top
  obtain ⟨after, s, found, hexpand⟩ : ∃ after s found, doc.expand root r = .ok (after, s, found) := by
    simp [Document.expand, contains, hroot, hlexicon]
  obtain ⟨_, _, hlexicon', rfl, _⟩ := expand_eq_ok hexpand
  cases hlexicon.symm.trans hlexicon'
  have htext : (doc.expandBelow lexicon root).1.textContent root =
      Reference.expand r.placeholders text := by
    rw [← String.toList_inj, h.toList_textContent_expandBelow hdoc.linked
      (searchable_targets hlexicon).proper, Reference.expand, String.toList_ofList,
      ← replaceAll_congr fun t _ => hsame t]
    exact (replaceAll_mapTargets fun _ _ => rfl).symm
  refine ⟨_, s, found, hexpand, htext, ?_⟩
  rw [htext, Reference.expand_filter hunshared.unambiguous]

/-- Two placeholders whose values may stand inside markup. -/
def pair : Registry :=
  ⟨["A", "B"].map fun name =>
    { Placeholder.ofKind name (.textbox ⟨.fixed (name ++ "!"), []⟩) {} with allowInnerHtml := true },
    {}, .empty⟩

theorem textContent_expand_of_pair :
    ∃ after s found, (parse "xAxBx, iAi, dBd").expand Document.root pair = .ok (after, s, found) ∧
      after.textContent Document.root = Reference.expand pair.placeholders "xAxBx, iAi, dBd" ∧
      after.textContent Document.root =
        Reference.expand (pair.placeholders.filter fun p => p.isReferencedIn "xAxBx, iAi, dBd")
          "xAxBx, iAi, dBd" :=
  textContent_expand (c := 1) (.parse _)
    ⟨by decide +kernel, by decide +kernel, by decide +kernel, by decide +kernel, by decide +kernel⟩
    (by decide) (.inr ⟨by decide, by decide +kernel⟩)

end Document

end Placeholders
