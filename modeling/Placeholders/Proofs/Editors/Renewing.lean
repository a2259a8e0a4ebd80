import Placeholders.Proofs.Editors.Spans
import Placeholders.Proofs.Editors.States
import Placeholders.Proofs.Expansion.Agreement
import Placeholders.Proofs.Expansion.Renewed

/-!
# Refreshing any page

Pages may have been written by hand. Their bindings may then be in one another, and they may look like
editors already.

* Of such a page, too, a refresh changes nothing but bindings of its names and what is in them.
* Refreshing the page once more gives the same markup: the bindings hold the same texts
  (`map_tree_children_of_renewed`) and show the same states (`payload?_refresh_refresh`). This is not so
  of a textbox that lists a class of a status with a blank beside it that is no ASCII blank.
-/

namespace Placeholders.Document

open Placeholders.Markup Relation

variable {doc after last : Document} {bindings : Bindings} {r : Registry} {names : List String}
  {ids : List Nat}

/-! ## 1. The states of bindings -/

section States

variable (h : doc.Tabled bindings) (hknown : ∀ name ∈ names, name ∈ r.names) {name : String} {id : Nat}
  (hname : name ∈ names) (hid : id ∈ bindings.elements name)

include h hknown hname hid

/-- What a binding shows comes from the placeholder of its name, and from no other one. -/
theorem exists_shown_of_mem_elements {p : Placeholder} (hp : r.get? name = some p) (page : Document) :
    ∃ ps : List Placeholder, ps ≠ [] ∧ (∀ q ∈ ps, q = p) ∧
      page.Wears (page.refresh bindings r names).2 id fun own => ps.foldl Attributes.shown own := by
  obtain ⟨ps, hwears, hmem⟩ := page.exists_shown_refresh bindings hknown id
  refine ⟨ps, List.ne_nil_of_mem ((hmem p).mpr ⟨name, hname, hp, hid⟩), fun q hq => ?_, hwears⟩
  obtain ⟨other, _, hother, hid'⟩ := (hmem q).mp hq
  rw [← h.one name other id hid hid', hp] at hother
  exact (Option.some.inj hother).symm

/-- **A binding that has been refreshed twice shows what it has shown before.** -/
theorem payload?_refresh_refresh (helement : doc.isElement id = true)
    (hplain : (doc.attributes id).PlainlyMarked) :
    ((doc.refresh bindings r names).2.refresh bindings r names).2.payload? id =
      (doc.refresh bindings r names).2.payload? id := by
  obtain ⟨p, hp⟩ := Option.isSome_iff_exists.mp (Registry.contains_iff.mpr (hknown name hname))
  have hshown := exists_shown_of_mem_elements h hknown hname hid hp
  obtain ⟨ps, hne, hps, hfirst⟩ := hshown doc
  obtain ⟨qs, _, hqs, hsecond⟩ := hshown (doc.refresh bindings r names).2
  obtain ⟨⟨tag, own⟩, hown⟩ := Option.isSome_iff_exists.mp (doc.isElement_eq id ▸ helement)
  have hattributes : doc.attributes id = own := by
    rw [attributes_eq, hown]
    rfl
  rw [hattributes] at hplain
  rw [Wears, hown, Option.map_some, Attributes.foldl_shown hps hplain hne] at hfirst
  rw [Wears, hfirst, Option.map_some,
    Attributes.foldl_shown_eq_self hqs (Attributes.shown_shown hplain p)] at hsecond
  rw [payload?_of_element? hfirst, payload?_of_element? hsecond]

end States

/-! ## 2. The markup of renewed pages -/

section Markup

variable (hdoc : doc.Linked) (hafter : doc.Renewed after ids) (hlast : after.Renewed last ids)
  (hpayload : ∀ x ∈ ids, last.payload? x = after.payload? x)
  (htexts : ∀ x ∈ ids, ∃ text, after.HoldsText x text ∧ last.HoldsText x text)

include hdoc hafter hlast hpayload htexts

/-- **Elements that are renewed once more with the same texts and attributes** leave all markup as it
    is. -/
theorem map_tree_children_of_renewed {k m x : Nat} (hx : x < doc.size) (h : after.Within k x)
    (h' : last.Within m x) : (last.children x).map last.tree = (after.children x).map after.tree := by
  induction h generalizing m with
  | @intro k x hbelow ih =>
      by_cases hmem : x ∈ ids
      · obtain ⟨text, hold, hnew⟩ := htexts x hmem
        rw [hold.map_tree hafter.linked, hnew.map_tree hlast.linked]
      · have hlt := Nat.lt_of_lt_of_le hx hafter.size_le
        rw [hlast.children x hlt hmem]
        refine List.map_congr_left fun c hc => ?_
        have hclt : c < doc.size := hdoc.child_lt (hafter.children x hx hmem ▸ hc)
        have hsame : last.payload? c = after.payload? c := by
          by_cases hcmem : c ∈ ids
          · exact hpayload c hcmem
          · exact hlast.payload c (Nat.lt_of_lt_of_le hclt hafter.size_le) hcmem
        cases h' with
        | intro hbelow' =>
            have hc' := hbelow' c (hlast.children x hlt hmem ▸ hc)
            rw [hlast.linked.tree_eq hc', hafter.linked.tree_eq (hbelow c hc), hsame, ih c hc hclt hc']

theorem toHtml_eq_of_renewed (hroot : root < doc.size) (hsteady : after.Steady root)
    (hsteady' : last.Steady root) : last.toHtml = after.toHtml := by
  have hlt := Nat.lt_of_lt_of_le hroot hafter.size_le
  have htrees := map_tree_children_of_renewed hdoc hafter hlast hpayload htexts hroot
    (hsteady.linked.within_size hsteady.grounded hlt)
    (hsteady'.linked.within_size hsteady'.grounded (Nat.lt_of_lt_of_le hlt hlast.size_le))
  have hsame : last.payload? root = after.payload? root := by
    by_cases hmem : root ∈ ids
    · exact hpayload root hmem
    · exact hlast.payload root hlt hmem
  rw [toHtml, innerHtml, htrees, tag?, hsame, toHtml, innerHtml, tag?]

end Markup

/-! ## 3. Pages -/

/-- Where there are no bindings, nothing is refreshed. -/
theorem refresh_of_elements_eq_nil (h : ∀ name, bindings.elements name = []) (doc : Document)
    (names : List String) : (doc.refresh bindings r names).2 = doc := by
  induction names with
  | nil => rfl
  | cons name rest ih =>
      rw [refresh]
      cases r.get? name with
      | none => rfl
      | some p =>
          rw [h name]
          exact ih

/-- **A page that has been refreshed has the same markup after it has been refreshed once more.** -/
theorem toHtml_refresh_refresh (hdoc : doc.Linked) (hgrounded : doc.Grounded root)
    (h : doc.Tabled bindings) (hknown : ∀ name ∈ names, name ∈ r.names)
    (helement : ∀ name, ∀ id ∈ bindings.elements name, doc.isElement id = true)
    (hplain : ∀ name ∈ names, ∀ id ∈ bindings.elements name, (doc.attributes id).PlainlyMarked) :
    ((doc.refresh bindings r names).2.refresh bindings r names).2.toHtml =
      (doc.refresh bindings r names).2.toHtml := by
  by_cases hroot : root < doc.size
  · obtain ⟨_, hafter, hholds⟩ := renewed_refresh hdoc h hknown
    have hsteady := (Steady.mk hdoc hgrounded).refresh r h.lt names
    have htabled := h.renewed hafter
    obtain ⟨_, hlast, hholds'⟩ := renewed_refresh hafter.linked htabled hknown
    refine toHtml_eq_of_renewed hdoc hafter hlast (fun x hx => ?_) (fun x hx => ?_) hroot hsteady
      (hsteady.refresh r htabled.lt names)
    · obtain ⟨name, hname, hid⟩ := List.mem_flatMap.mp hx
      exact payload?_refresh_refresh h hknown hname hid (helement name x hid) (hplain name hname x hid)
    · obtain ⟨name, hname, hid⟩ := List.mem_flatMap.mp hx
      obtain ⟨p, hp⟩ := Option.isSome_iff_exists.mp (Registry.contains_iff.mpr (hknown name hname))
      exact ⟨_, hholds name hname x hid p hp, hholds' name hname x hid p hp⟩
  · -- without a root there are no nodes, and no bindings
    have hnil : ∀ name, bindings.elements name = [] := fun name =>
      List.eq_nil_iff_forall_not_mem.mpr fun id hid =>
        hroot (Nat.lt_of_le_of_lt (Nat.zero_le id) (h.lt name id hid))
    rw [refresh_of_elements_eq_nil hnil]

theorem isElement_of_isBinding {id : Nat} (h : doc.isBinding id = true) : doc.isElement id = true := by
  by_contra hnot
  rw [isElement_eq] at hnot
  have hattributes : doc.attributes id = [] := by
    rw [attributes_eq, Option.not_isSome_iff_eq_none.mp hnot]
    rfl
  rw [isBinding, attribute?, hattributes, Bool.and_eq_true] at h
  cases h.2

theorem isElement_of_mem_scan {start : Nat} (name : String) :
    ∀ id ∈ (Bindings.scan doc start).elements name, doc.isElement id = true := fun _ hid =>
  isElement_of_isBinding (Bindings.mem_elements_scan.mp hid).2.1

theorem tabled_scan (doc : Document) (start : Nat) : doc.Tabled (.scan doc start) where
  lt name id hid := lt_of_isElement (isElement_of_mem_scan name id hid)
  text _ _ hid := text?_eq_none_of_isBinding (Bindings.mem_elements_scan.mp hid).2.1
  one _ _ _ hid hid' := Option.some.inj
    ((Bindings.mem_elements_scan.mp hid).2.2.symm.trans (Bindings.mem_elements_scan.mp hid').2.2)

/-- **A refresh changes bindings only.** It answers how many bindings the names have, counted as often as
    the names are listed. What is in none of them is untouched, no seal is set or taken away, and doing it
    again changes no markup if the textboxes among the bindings are plainly marked. -/
theorem refresh_bindings_only (hdoc : doc.Linked) (start : Nat)
    (hknown : ∀ name ∈ names, name ∈ r.names) :
    let bindings := Bindings.scan doc start
    let after := (doc.refresh bindings r names).2
    (doc.refresh bindings r names).1 =
        .ok (names.map fun name => (bindings.elements name).length).sum ∧
      (∀ x < doc.size, (∀ name ∈ names, ∀ id ∈ bindings.elements name, ¬ ReflTransGen doc.Child id x) →
        doc.Untouched after x) ∧
      after.sealedTexts = doc.sealedTexts ∧ after.sealedAttributes = doc.sealedAttributes ∧
      (doc.Grounded root →
        (∀ name ∈ names, ∀ id ∈ bindings.elements name, (doc.attributes id).PlainlyMarked) →
        (after.refresh bindings r names).2.toHtml = after.toHtml) := by
  intro bindings after
  have htabled := tabled_scan doc start
  obtain ⟨hcount, hrenewed, _⟩ := renewed_refresh hdoc htabled hknown
  refine ⟨hcount, fun x hx hout => hrenewed.untouched hdoc hx fun id hid => ?_, hrenewed.sealedTexts,
    hrenewed.sealedAttributes, fun hgrounded hplain => ?_⟩
  · obtain ⟨name, hname, hid⟩ := List.mem_flatMap.mp hid
    exact hout name hname id hid
  · exact toHtml_refresh_refresh hdoc hgrounded htabled hknown isElement_of_mem_scan hplain

/-- A page with an editor, a binding in it, and a text beside them. -/
def entangled : String :=
  "<span class='placeholder-value placeholder-value-editable' data-placeholder='A'>" ++
    "1<b class='placeholder-value' data-placeholder='B'>2</b></span>xAx"

theorem refresh_bindings_only_of_entangled :
    let doc := parse entangled
    let bindings := Bindings.scan doc root
    let after := (doc.refresh bindings pair ["A", "B", "A"]).2
    (doc.refresh bindings pair ["A", "B", "A"]).1 = .ok 3 ∧
      (∀ x < doc.size, (∀ name ∈ ["A", "B", "A"], ∀ id ∈ bindings.elements name,
        ¬ ReflTransGen doc.Child id x) → doc.Untouched after x) ∧
      after.sealedTexts = doc.sealedTexts ∧ after.sealedAttributes = doc.sealedAttributes ∧
      (after.refresh bindings pair ["A", "B", "A"]).2.toHtml = after.toHtml := by
  intro doc bindings after
  have hknown : ∀ name ∈ ["A", "B", "A"], name ∈ pair.names := by decide
  obtain ⟨hcount, huntouched, htexts, hattributes, hagain⟩ :=
    refresh_bindings_only (linked_parse entangled) root hknown
  have hscan : (["A", "B", "A"].map fun name => (bindings.elements name).length).sum = 3 ∧
      ∀ name ∈ ["A", "B", "A"], ∀ id ∈ bindings.elements name, (doc.attributes id).PlainlyMarked := by
    decide +kernel
  exact ⟨hcount.trans (congrArg Except.ok hscan.1), huntouched, htexts, hattributes,
    hagain ((ordered_parse entangled).grounded root) hscan.2⟩

/-- A page with a textbox that lists the class of a status with a blank beside it at which classes are not
    parted. -/
def blanked : String :=
  "<span class='placeholder-value placeholder-value-editable validation-ok\u00a0' data-placeholder='A'>1</span>"

/-- **Such a page is not the same after another refresh.** The first one cuts the blank off, so that the
    second one takes the class of the status away. -/
theorem refresh_again_of_blanked :
    let doc := parse blanked
    let bindings := Bindings.scan doc root
    let after := (doc.refresh bindings pair ["A"]).2
    (after.refresh bindings pair ["A"]).2.toHtml ≠ after.toHtml := by
  decide +kernel

end Placeholders.Document
