import Placeholders.Proofs.Document.Reading
import Placeholders.Proofs.Expansion.Rendered
import Placeholders.Proofs.Markup.Revision

/-!
# Values are no markup

`elements_parse_toHtml` says that no value opens, closes or swallows an element: the markup of an expanded
page is read as a page with the same elements.

* What is asked of the page before the pass is that its own markup is read as the page that it is.
* What is asked of the page after the pass is that it is `Enclosed`: a raw element is written as it is, so
  that nothing else keeps a value from closing it (`value_closes_raw_element`).
* A pass is a revision of what it has been given (`Pass.revised`), and a revision is read back with all
  that it shows.
-/

namespace Placeholders

open Placeholders.Markup Placeholders.Text

/-! ## 1. The markup of parts -/

/-- **The markup of a part stands wherever it is put.** -/
theorem Part.stands (part : Part) : part.tree.Stands := by
  cases part with
  | plain text => exact stands_text _
  | value text => exact stands_text text
  | binding t editor =>
      have hattributes : AreAttributes (Document.bindingAttributes t.name editor) :=
        .of_map_fst (show AreAttributes [("class", ""), ("data-placeholder", "")] by decide) rfl
      refine stands_element (by decide) hattributes (by decide) (by decide) ?_
      split
      · exact List.forall_mem_nil _
      · exact List.forall_mem_singleton.mpr (stands_text t.value)

theorem Markup.Tree.outline_text_ne_nil {content : String} (h : content ≠ "") :
    outline 0 (text content) ≠ [] := by
  simpa [outline, charMarks] using h

namespace Document

/-! ## 2. Raw elements -/

/-- Raw elements hold nothing but text, in which their closing tag does not begin, in capital or small
    letters. -/
def Enclosed (doc : Document) : Prop :=
  ∀ id, ∀ tag ∈ doc.tag? id, isRaw tag = true →
    (∀ c ∈ doc.children id, (doc.text? c).isSome = true) ∧
      ¬ '<' :: '/' :: tag.toList <:+: lower (doc.innerHtml id).toList

instance (doc : Document) : Decidable doc.Enclosed :=
  decidable_of_iff
    (∀ id < doc.size, ∀ tag ∈ doc.tag? id, isRaw tag = true →
      (∀ c ∈ doc.children id, (doc.text? c).isSome = true) ∧
        ¬ '<' :: '/' :: tag.toList <:+: lower (doc.innerHtml id).toList)
    ⟨fun h id tag htag => by
      by_cases hlt : id < doc.size
      · exact h id hlt tag htag
      · simp [tag?, payload?_eq_none (Nat.not_lt.mp hlt)] at htag,
    fun h id _ => h id⟩

variable {base middle after : Document} {lexicon : Lexicon Target} {root : Nat}
  {group : Nat → List Nat}

theorem isText_tree {doc : Document} (hdoc : doc.Linked) {k id : Nat} (hid : doc.Within k id)
    (htext : (doc.text? id).isSome = true) : (doc.tree id).isText = true := by
  rw [hdoc.tree_eq hid]
  unfold text? at htext
  split at htext
  · rename_i hpayload
    rw [hpayload]
    rfl
  · cases htext

theorem toList_innerHtml_of_isRaw {doc : Document} {id : Nat} {tag : String}
    (htag : doc.tag? id = some tag) (hraw : isRaw tag = true) :
    (doc.innerHtml id).toList = Tree.renderAll true ((doc.children id).map doc.tree) := by
  rw [innerHtml, htag, String.toList_ofList, Option.any_some, hraw]

/-! ## 3. A pass is a revision -/

theorem map_fst_expandBelow (doc : Document) (lexicon : Lexicon Target) (root x : Nat) :
    ((doc.expandBelow lexicon root).1.attributes x).map (·.1) =
      ((doc.expandTexts lexicon (doc.unboundTexts root)).1.attributes x).map (·.1) := by
  rw [expandBelow_eq]
  exact map_fst_expandAttributes _ (fun entry hentry =>
    List.mem_map.mpr ⟨entry.2, (mem_unboundValues.mp hentry).2, rfl⟩) x

namespace Pass

section

variable (h : base.Pass middle after lexicon root group)

include h

theorem payload?_eq {x : Nat} (hx : x < base.size) :
    ∃ f, after.payload? x = (base.payload? x).map (Payload.mapAttributes f) := by
  rw [← h.regrouped.payload x hx]
  exact h.attributed.payload x

/-- An element keeps its tag and the names of its attributes. -/
theorem payload?_element
    (hnames : ∀ x, (after.attributes x).map (·.1) = (middle.attributes x).map (·.1)) {x : Nat}
    (hx : x < base.size) {tag : String} {attributes : Attributes}
    (hpayload : base.payload? x = some (.element tag attributes)) :
    ∃ revised, after.payload? x = some (.element tag revised) ∧
      revised.map (·.1) = attributes.map (·.1) := by
  obtain ⟨f, hf⟩ := h.payload?_eq hx
  rw [hpayload, Option.map_some, Payload.mapAttributes] at hf
  refine ⟨f attributes, hf, ?_⟩
  have hkept := hnames x
  rw [h.regrouped.attributes hx] at hkept
  simpa only [Document.attributes, hf, hpayload] using hkept

theorem text?_eq {x : Nat} (hx : x < base.size) : after.text? x = base.text? x := by
  rw [h.attributed.text?]
  simp only [Document.text?, h.regrouped.payload x hx]

/-- In a raw element there was nothing but text before the pass, if there is nothing else after it. -/
theorem isSome_text?_of_child (hbase : base.Linked) {x : Nat} (hx : x < base.size)
    (htexts : ∀ id ∈ after.children x, (after.text? id).isSome = true) :
    ∀ c ∈ base.children x, (base.text? c).isSome = true := by
  intro c hc
  by_cases htext : c ∈ base.unboundTexts root
  · exact (List.mem_filter.mp htext).2
  · have hmem : c ∈ after.children x :=
      (h.mem_children hx).mpr ⟨c, hc, by rw [h.others c htext]; exact List.mem_singleton_self c⟩
    rw [← h.text?_eq (hbase.child_lt hc)]
    exact htexts c hmem

end

variable (h : base.Pass middle after lexicon root group) (hbase : base.Linked)
  (hnames : ∀ x, (after.attributes x).map (·.1) = (middle.attributes x).map (·.1))
  (henclosed : after.Enclosed)

include h hbase hnames henclosed

/-- An element that was there before is a revision of itself, if what is in it is one. A void element
    holds nothing, and the text of a raw one is looked at as a whole. -/
theorem revised_element {k c : Nat} (hc : c < base.size) (hwithin : base.Within k c) {tag : String}
    {attributes : Attributes} (hpayload : base.payload? c = some (.element tag attributes))
    (htag : IsTagName tag) (hattributes : AreAttributes attributes)
    (hhollow : isVoid tag = true → base.children c = [])
    (hinner : Tree.Revised ((base.children c).map base.tree) ((after.children c).map after.tree))
    {trees news : List Tree} (hrest : Tree.Revised trees news) :
    Tree.Revised (.element tag attributes ((base.children c).map base.tree) :: trees)
      (after.tree c :: news) := by
  have hrendered := h.rendered hbase
  have hdeep := hrendered.within hbase hwithin hc
  obtain ⟨revised, hrevised, hmap⟩ := h.payload?_element hnames hc hpayload
  have hattributes' := hattributes.of_map_fst hmap
  rw [hrendered.linked.tree_eq hdeep, hrevised]
  by_cases hvoid : isVoid tag = true
  · have hnone := hhollow hvoid
    have hnone' : after.children c = [] := by rw [hrendered.children c hc, hnone, List.flatMap_nil]
    rw [hnone, hnone']
    exact .piece (stands_void htag hattributes hvoid) (List.cons_ne_nil _ _)
      (List.forall_mem_singleton.mpr (stands_void htag hattributes' hvoid)) hrest
  by_cases hraw : isRaw tag = true
  · have htag' : after.tag? c = some tag := by simp only [tag?, hrevised]
    obtain ⟨htexts, hinside⟩ := henclosed c tag htag' hraw
    rw [toList_innerHtml_of_isRaw htag' hraw] at hinside
    refine .raw hraw hattributes hattributes' ?_ ?_ hinside hrest
    · refine List.forall_mem_map.mpr fun id hid => ?_
      obtain ⟨m, hm⟩ := hwithin.of_walk (.single hid)
      exact isText_tree hbase hm (h.isSome_text?_of_child hbase hc htexts id hid)
    · refine List.forall_mem_map.mpr fun id hid => ?_
      obtain ⟨m, hm⟩ := hdeep.of_walk (.single hid)
      exact isText_tree hrendered.linked hm (htexts id hid)
  · exact .element htag hattributes hattributes' (by simpa using hvoid) (by simpa using hraw) hinner hrest

/-- A node that was there before is a revision of itself, if what is in it is one. -/
theorem revised_cons {k c : Nat} (hc : c < base.size) (hwithin : base.Within k c)
    (hlegible : (base.tree c).Legible)
    (hinner : base.isElement c = true →
      Tree.Revised ((base.children c).map base.tree) ((after.children c).map after.tree))
    {trees news : List Tree} (hrest : Tree.Revised trees news) :
    Tree.Revised (base.tree c :: trees) (after.tree c :: news) := by
  have hrendered := h.rendered hbase
  have hafter := hrendered.linked.tree_eq (hrendered.within hbase hwithin hc)
  obtain ⟨f, hmapped⟩ := h.payload?_eq hc
  have hsame : ∀ {tree : Tree}, tree.Stands → Tree.outline 0 tree ≠ [] →
      Tree.Revised (tree :: trees) (tree :: news) := fun hstands hshown =>
    .piece hstands hshown (List.forall_mem_singleton.mpr hstands) hrest
  rw [hbase.tree_eq hwithin] at hlegible ⊢
  cases hpayload : base.payload? c with
  | none =>
      rw [hpayload] at hlegible
      cases hlegible
  | some payload =>
      rw [hpayload] at hlegible hmapped
      cases payload with
      | root => cases hlegible
      | doctype declaration =>
          rw [hafter, hmapped]
          cases hlegible with
          | doctype trimmed inside => exact hsame (stands_doctype trimmed inside) (List.cons_ne_nil _ _)
      | comment body =>
          rw [hafter, hmapped]
          cases hlegible with
          | comment inside => exact hsame (stands_comment inside) (List.cons_ne_nil _ _)
      | text content =>
          rw [hafter, hmapped]
          cases hlegible with
          | text nonempty => exact hsame (stands_text content) (Tree.outline_text_ne_nil nonempty)
      | element tag attributes =>
          cases hlegible with
          | element isTagName areAttributes hollow _ =>
              have helement : base.isElement c = true := by
                simp only [isElement, tag?, hpayload, Option.isSome_some]
              exact h.revised_element hbase hnames henclosed hc hwithin hpayload isTagName areAttributes
                (fun hvoid => List.map_eq_nil_iff.mp (hollow hvoid)) (hinner helement) hrest

/-- What stands in the place of a node is a revision of it, if that is true of what is in it. -/
theorem revised_group {k c : Nat} (hc : c < base.size) (hwithin : base.Within k c)
    (hlegible : (base.tree c).Legible)
    (hinner : base.isElement c = true →
      Tree.Revised ((base.children c).map base.tree) ((after.children c).map after.tree))
    {trees news : List Tree} (hrest : Tree.Revised trees news) :
    Tree.Revised (base.tree c :: trees) ((group c).map after.tree ++ news) := by
  by_cases hreplaced : c ∈ base.unboundTexts root ∧ base.replacedAt lexicon c ≠ []
  · obtain ⟨hmem, hsome⟩ := hreplaced
    have hrendered := h.rendered hbase
    have htext := isText_tree hbase hwithin (List.mem_filter.mp hmem).2
    rw [map_tree_of_shows hrendered.linked ((hrendered.replaces c hmem).shows hsome)]
    generalize base.tree c = tree at hlegible htext
    cases hlegible with
    | text nonempty =>
        refine .piece (stands_text _) (Tree.outline_text_ne_nil nonempty) ?_ hrest
        exact List.forall_mem_map.mpr fun part _ => part.stands
    | doctype | comment | element => cases htext
  · have halone : group c = [c] := by
      by_cases hmem : c ∈ base.unboundTexts root
      · exact (h.replaces c hmem).untouched (by_contra fun hsome => hreplaced ⟨hmem, hsome⟩)
      · exact h.others c hmem
    rw [halone]
    exact h.revised_cons hbase hnames henclosed hc hwithin hlegible hinner hrest

/-- **A pass is a revision of what it has been given.** By induction on the depth of the page. -/
theorem revised {k x : Nat} (hx : x < base.size) (hwithin : base.Within k x)
    (hlegible : ∀ c ∈ base.children x, (base.tree c).Legible) :
    Tree.Revised ((base.children x).map base.tree) ((after.children x).map after.tree) := by
  induction hwithin with
  | @intro k x hchildren ih =>
      rw [(h.rendered hbase).children x hx, List.map_flatMap]
      have hall : ∀ c ∈ base.children x, c < base.size ∧ base.Within k c ∧ (base.tree c).Legible ∧
          (base.isElement c = true →
            Tree.Revised ((base.children c).map base.tree) ((after.children c).map after.tree)) :=
        fun c hc => ⟨hbase.child_lt hc, hchildren c hc, hlegible c hc, fun helement =>
          ih c hc (hbase.child_lt hc) (legible_of_child hbase (hchildren c hc) helement (hlegible c hc))⟩
      generalize base.children x = cs at hall
      induction cs with
      | nil => exact .nil
      | cons c cs ihcs =>
          obtain ⟨⟨hc, hwithin, hpart, hinner⟩, hcs⟩ := List.forall_mem_cons.mp hall
          exact h.revised_group hbase hnames henclosed hc hwithin hpart hinner (ihcs hcs)

end Pass

/-! ## 4. The page read back -/

/-- A page that is read back as it is, is read back with its elements after a pass. -/
theorem Pass.elements_eq (h : base.Pass middle after lexicon Document.root group) (hbase : base.Linked)
    (hnames : ∀ x, (after.attributes x).map (·.1) = (middle.attributes x).map (·.1))
    (henclosed : after.Enclosed) (hlt : Document.root < base.size)
    (hgrounded : base.Grounded Document.root) (hpayload : base.payload? Document.root = some .root)
    (hlegible : ∀ c ∈ base.children Document.root, (base.tree c).Legible)
    (hread : (parse base.toHtml).tree Document.root = base.tree Document.root) :
    ((parse after.toHtml).tree Document.root).elements = (after.tree Document.root).elements := by
  have hrendered := h.rendered hbase
  have hwithin := hbase.within_size hgrounded hlt
  have hdeep := hrendered.within hbase hwithin hlt
  have hpayload' : after.payload? Document.root = some .root := by
    obtain ⟨f, hf⟩ := h.payload?_eq hlt
    rw [hf, hpayload]
    rfl
  have htree := tree_of_payload?_root hbase hwithin hpayload
  have htree' := tree_of_payload?_root hrendered.linked hdeep hpayload'
  have hrevised := h.revised hbase hnames henclosed hlt hwithin hlegible
  rw [toHtml_eq hbase hgrounded htree, tree_parse, htree, String.toList_ofList] at hread
  rw [htree', toHtml_eq hrendered.linked hdeep.grounded htree', tree_parse, String.toList_ofList]
  exact Tree.elementsAll_eq_of_outlineAll
    (Tree.outlineAll_parse_of_revised hrevised (Tree.fragment.inj hread))

/-- **No value injects markup.** Take a page whose markup is read as the page that it is, and put in any
    values. If no raw element is closed by what it holds then, the markup of the page is read as a page
    with the same elements: with the same tags and attributes, in the same order, and one in the other as
    they were. -/
theorem elements_parse_toHtml {markup : String} {doc : Document} {r s : Registry} {found : Findings}
    (hread : (parse (parse markup).toHtml).tree Document.root = (parse markup).tree Document.root)
    (hexpand : (parse markup).expand Document.root r = .ok (doc, s, found)) (henclosed : doc.Enclosed) :
    ((parse doc.toHtml).tree Document.root).elements = (doc.tree Document.root).elements := by
  obtain ⟨lexicon, hlt, _, rfl, _, _⟩ := expand_eq_ok hexpand
  have hgrounded := (ordered_parse markup).grounded Document.root
  obtain ⟨group, hpass⟩ := exists_pass (linked_parse markup) hgrounded lexicon
  exact hpass.elements_eq (linked_parse markup) (map_fst_expandBelow _ lexicon Document.root) henclosed
    hlt hgrounded (payload?_root_parse markup) (legible_of_child_parse markup) hread

/-- A pass over a fixed page is made, and its result looked at, in one computation. -/
theorem exists_of_any_expand (doc : Document) (r : Registry) (p : Document → Bool)
    (h : ((doc.expand Document.root r).toOption.any fun made => p made.1) = true) :
    ∃ page s found, doc.expand Document.root r = .ok (page, s, found) ∧ p page = true := by
  cases hexpand : doc.expand Document.root r with
  | error e =>
      rw [hexpand] at h
      cases h
  | ok made =>
      obtain ⟨page, s, found⟩ := made
      rw [hexpand] at h
      exact ⟨page, s, found, rfl, h⟩

/-- A placeholder whose value may stand inside markup. -/
def spread (value : String) : Registry :=
  ⟨[{ Placeholder.ofKind "A" (.textbox ⟨.fixed value, []⟩) {} with allowInnerHtml := true }], {}, .empty⟩

/-- A page with tokens in an attribute value, in a text and in a raw element. -/
def scattered : List Tree :=
  [.element "p" [("title", "iAi")] [.text "xAx dAd iAi"], .element "script" [] [.text "a = iAi;"]]

theorem series_scattered : Tree.Series scattered where
  writable := by
    have htext : ∀ tree ∈ [Tree.text "xAx dAd iAi"], tree.Writable :=
      List.forall_mem_singleton.mpr (.text (by decide))
    simp only [scattered, List.forall_mem_cons]
    exact ⟨.element (by decide) (by decide) (by decide) (by decide) htext
        (by simp [Tree.Apart]),
      .raw (by decide) (by decide) (by decide) (by decide) (by decide), List.forall_mem_nil _⟩
  apart := by simp [scattered, Tree.Apart, Tree.isText]

/-- The markup of that page. -/
def scatteredMarkup : String := "<p title=\"iAi\">xAx dAd iAi</p><script>a = iAi;</script>"

theorem elements_parse_toHtml_of_scattered :
    ∃ doc s found, (parse scatteredMarkup).expand Document.root
        (spread "</script><b title='&quot;'>") = .ok (doc, s, found) ∧
      ((parse doc.toHtml).tree Document.root).elements = (doc.tree Document.root).elements := by
  obtain ⟨doc, s, found, hexpand, henclosed⟩ := exists_of_any_expand (parse scatteredMarkup)
    (spread "</script><b title='&quot;'>") (fun page => page.Enclosed) (by decide +kernel)
  exact ⟨doc, s, found, hexpand, elements_parse_toHtml
    (tree_parse_toHtml_parse series_scattered (by decide +kernel)) hexpand
    (of_decide_eq_true henclosed)⟩

/-- **A value closes the raw element that it is written into**, where its token is replaced as it is
    everywhere else: the rest of the value is read as markup. -/
theorem value_closes_raw_element :
    (parse (parse "<script>xAx</script>").toHtml).tree Document.root =
        (parse "<script>xAx</script>").tree Document.root ∧
      ∃ doc s found, (parse "<script>xAx</script>").expand Document.root
          (spread "</script><b>x</b>") = .ok (doc, s, found) ∧
        ((parse doc.toHtml).tree Document.root).elements ≠ (doc.tree Document.root).elements := by
  have hseries : Tree.Series [.element "script" [] [.text "xAx"]] := by
    refine ⟨List.forall_mem_singleton.mpr ?_, by simp [Tree.Apart]⟩
    exact .raw (by decide) (by decide) (by decide) (by decide) (by decide)
  refine ⟨tree_parse_toHtml_parse hseries (by decide +kernel), ?_⟩
  obtain ⟨doc, s, found, hexpand, hlength⟩ := exists_of_any_expand (parse "<script>xAx</script>")
    (spread "</script><b>x</b>")
    (fun page => ((parse page.toHtml).tree Document.root).elements.length !=
      (page.tree Document.root).elements.length)
    (by decide +kernel)
  exact ⟨doc, s, found, hexpand, fun heq => bne_iff_ne.mp hlength (congrArg List.length heq)⟩

end Document

end Placeholders
