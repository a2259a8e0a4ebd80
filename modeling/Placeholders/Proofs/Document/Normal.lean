import Placeholders.Proofs.Document.Reading

/-!
# Normal markup

Markup that has been read and written is normal: it is read as the same page again, and written as the
same text (`tree_parse_toHtml_of_tags`). Any text can be read, so this is about any text, apart from two
kinds of elements that need not be closed by the tag that is written for them.

* `Parted` is what reading sees to beyond `Legible`: texts are joined, so that no text is beside a text
  (`parted_parse`).
* `IsOrdinary` says which tags are closed as they are written (`IsTagName.trim_eq`). The content of a raw
  element is written without references, and the name in a closing tag is trimmed.
* A tree that is legible, parted and of ordinary tags is read as it is written
  (`Legible.reads_of_parted`).
-/

namespace Placeholders

open Markup Text

namespace Markup.Tree

/-! ## 1. Texts are joined -/

/-- Trees in which no text is beside a text. -/
inductive Parted : Tree → Prop
  | doctype (declaration : String) : Parted (doctype declaration)
  | comment (body : String) : Parted (comment body)
  | text (content : String) : Parted (text content)
  | element (tag : String) (attributes : Attributes) {children : List Tree} (apart : Apart children)
      (parted : ∀ tree ∈ children, Parted tree) : Parted (element tag attributes children)

/-- Trees side by side in which no text is beside a text, and neither is one in any of them. -/
structure PartedAll (trees : List Tree) : Prop where
  apart : Apart trees
  parted : ∀ tree ∈ trees, tree.Parted

theorem partedAll_nil : PartedAll [] := ⟨List.isChain_nil, List.forall_mem_nil _⟩

/-- It does not matter from which end they are looked at. -/
theorem PartedAll.reverse {trees : List Tree} (h : PartedAll trees) : PartedAll trees.reverse := by
  refine ⟨List.isChain_reverse.mpr (h.apart.imp fun tree other hapart hboth => ?_), fun tree htree => ?_⟩
  · exact hapart hboth.symm
  · exact h.parted tree (List.mem_reverse.mp htree)

/-- **A piece is put before others so that no text is beside a text.** -/
theorem PartedAll.join {tree : Tree} {content : List Tree} (h : PartedAll content)
    (htree : tree.Parted) : PartedAll (join tree content) := by
  cases content with
  | nil =>
      have hjoin : Tree.join tree [] = [tree] := by cases tree <;> rfl
      rw [hjoin]
      exact ⟨List.isChain_singleton _, List.forall_mem_singleton.mpr htree⟩
  | cons old rest =>
      obtain ⟨hold, hrest⟩ := List.forall_mem_cons.mp h.parted
      by_cases hboth : old.isText = true ∧ tree.isText = true
      · cases old <;> cases tree <;> simp only [isText, and_false, false_and, reduceCtorEq] at hboth
        rename_i old new
        -- the longer text stands where the shorter one stood
        refine ⟨List.isChain_cons.mpr ?_, List.forall_mem_cons.mpr ⟨.text _, hrest⟩⟩
        exact List.isChain_cons.mp h.apart
      · rw [join_of_apart hboth]
        refine ⟨List.isChain_cons_cons.mpr ⟨fun htexts => hboth htexts.symm, h.apart⟩, ?_⟩
        exact List.forall_mem_cons.mpr ⟨htree, h.parted⟩

namespace Draft

/-- No text is beside a text in what has been read so far. -/
structure Parted (d : Draft) : Prop where
  finished : PartedAll d.finished
  frames : ∀ frame ∈ d.frames, PartedAll frame.content

variable {d : Draft} (h : d.Parted)

include h

theorem Parted.add {tree : Tree} (htree : tree.Parted) : (d.add tree).Parted := by
  obtain ⟨finished, frames⟩ := d
  cases frames with
  | nil => exact ⟨h.finished.join htree, h.frames⟩
  | cons frame frames =>
      obtain ⟨hframe, hframes⟩ := List.forall_mem_cons.mp h.frames
      exact ⟨h.finished, List.forall_mem_cons.mpr ⟨hframe.join htree, hframes⟩⟩

theorem Parted.openElement (tag : String) (attributes : Attributes) {content : List Tree}
    (hcontent : PartedAll content) : (d.openElement tag attributes content).Parted :=
  ⟨h.finished, List.forall_mem_cons.mpr ⟨hcontent, h.frames⟩⟩

theorem Parted.closeInnermost : d.closeInnermost.Parted := by
  obtain ⟨finished, frames⟩ := d
  cases frames with
  | nil => exact h
  | cons frame frames =>
      obtain ⟨hframe, hframes⟩ := List.forall_mem_cons.mp h.frames
      have hcontent := hframe.reverse
      exact Parted.add (d := ⟨finished, frames⟩) ⟨h.finished, hframes⟩
        (.element _ _ hcontent.apart hcontent.parted)

theorem Parted.close (n : Nat) : (d.close n).Parted := by
  induction n generalizing d with
  | zero => exact h
  | succ n ih => exact ih h.closeInnermost

theorem Parted.step (token : Token) : (d.step token).Parted := by
  have hempty : ∀ tag attributes, (Tree.element tag attributes []).Parted := fun tag attributes =>
    .element tag attributes partedAll_nil.apart partedAll_nil.parted
  cases token with
  | comment body => exact h.add (.comment body)
  | doctype declaration => exact h.add (.doctype declaration)
  | text content => exact h.add (.text content)
  | leaf tag attributes => exact h.add (hempty tag attributes)
  | opening tag attributes => exact h.openElement tag attributes partedAll_nil
  | raw tag attributes body =>
      refine h.openElement tag attributes ?_
      split
      · exact partedAll_nil
      · exact ⟨List.isChain_singleton _, List.forall_mem_singleton.mpr (.text body)⟩
  | closing tag =>
      rw [Draft.step]
      split
      · exact h.close _
      · exact h

theorem Parted.foldl_step (l : List Token) : (l.foldl Draft.step d).Parted := by
  induction l generalizing d with
  | nil => exact h
  | cons token l ih => exact ih (h.step token)

end Draft

/-- **In what is read no text is beside a text.** -/
theorem partedAll_parse (s : List Char) : PartedAll (parse s) := by
  have hempty : Draft.Parted ⟨[], []⟩ := ⟨partedAll_nil, List.forall_mem_nil _⟩
  exact ((hempty.foldl_step (tokens s)).close _).finished.reverse

/-! ## 2. Tags -/

mutual

/-- The tags of the elements of a tree. -/
def tags : Tree → List String
  | element tag _ children => tag :: tagsAll children
  | fragment children => tagsAll children
  | doctype _ | comment _ | text _ => []

/-- The tags of the elements of several trees. -/
def tagsAll : List Tree → List String
  | [] => []
  | tree :: rest => tags tree ++ tagsAll rest

end

theorem tags_subset_tagsAll {tree : Tree} {trees : List Tree} (htree : tree ∈ trees) :
    tree.tags ⊆ tagsAll trees := by
  induction trees with
  | nil => cases htree
  | cons first rest ih =>
      intro tag htag
      rw [tagsAll, List.mem_append]
      rcases List.mem_cons.mp htree with rfl | hrest
      · exact .inl htag
      · exact .inr (ih hrest htag)

end Markup.Tree

namespace Markup

/-- Tags of elements that are closed by the tag that is written for them: not raw, and without a blank at
    the end, apart from the blanks that are in no tag. -/
def IsOrdinary (tag : String) : Prop :=
  isRaw tag = false ∧ ∀ c ∈ tag.toList.getLast?, isBlank c = true → isAsciiBlank c = true

instance (tag : String) : Decidable (IsOrdinary tag) :=
  @instDecidableAnd (isRaw tag = false) _ _ (Option.decidableForallMem tag.toList.getLast?)

theorem isBlank_of_isLower {c : Char} (h : c.isLower = true) : isBlank c = false := by
  have hrange : 97 ≤ c.toNat ∧ c.toNat ≤ 122 := isLower_iff.mp h
  simp only [isBlank, Bool.or_eq_false_iff, Bool.and_eq_false_iff, decide_eq_false_iff_not,
    beq_eq_false_iff_ne]
  omega

/-- Nothing is trimmed of a tag that does not end in a blank. -/
theorem IsTagName.trim_eq {tag : String} (h : IsTagName tag)
    (hlast : ∀ c ∈ tag.toList.getLast?, isBlank c = true → isAsciiBlank c = true) :
    trim tag.toList = tag.toList := by
  have hfirst : tag.toList.dropWhile isBlank = tag.toList := by
    have hlower := h.first
    cases hcons : tag.toList with
    | nil => rfl
    | cons c s =>
        rw [hcons, List.head?_cons, Option.any_some] at hlower
        exact List.dropWhile_cons_of_neg (by simp [isBlank_of_isLower hlower])
  rw [trim, hfirst]
  refine List.rdropWhile_eq_self_iff.mpr fun hne hblank => ?_
  have hascii := hlast _ (List.getLast?_eq_some_getLast hne) hblank
  have hchar := (h.plain _ (List.getLast_mem hne)).2
  simp [isTagChar, hascii] at hchar

/-! ## 3. Reading again -/

namespace Tree

/-- **What has been read is read as it is written**, if its tags are ordinary. The induction is on the tree
    as something legible, and only an element with children needs it. -/
theorem Legible.reads_of_parted {tree : Tree} (h : tree.Legible) (hparted : tree.Parted)
    (htags : ∀ tag ∈ tree.tags, IsOrdinary tag) : tree.isSingle = true ∧ Reads tree := by
  induction h with
  | doctype trimmed inside => exact ⟨rfl, reads_doctype trimmed inside⟩
  | comment inside => exact ⟨rfl, reads_comment inside⟩
  | text nonempty => exact ⟨rfl, reads_text nonempty⟩
  | @element tag attributes children isTagName areAttributes hollow _ ih =>
      refine ⟨rfl, ?_⟩
      cases hvoid : isVoid tag with
      | true =>
          rw [hollow hvoid]
          exact reads_void isTagName areAttributes hvoid
      | false =>
          cases hparted with
          | element _ _ apart parted =>
              rw [tags] at htags
              obtain ⟨⟨hraw, hlast⟩, hinner⟩ := List.forall_mem_cons.mp htags
              refine reads_element isTagName (isTagName.trim_eq hlast) areAttributes hvoid hraw apart
                fun child hchild => ih child hchild (parted child hchild) fun name hname => ?_
              exact hinner name (tags_subset_tagsAll hchild hname)

/-- Trees that have been read are the same when they are written and read again. -/
theorem parse_renderAll_parse {s : List Char} (htags : ∀ tag ∈ tagsAll (parse s), IsOrdinary tag) :
    parse (renderAll false (parse s)) = parse s := by
  obtain ⟨hapart, hparted⟩ := partedAll_parse s
  refine parse_renderAll_of_reads hapart fun tree htree => ?_
  exact (legible_of_mem_parse s tree htree).reads_of_parted (hparted tree htree) fun tag htag =>
    htags tag (tags_subset_tagsAll htree htag)

end Tree

end Markup

/-! ## 4. Pages -/

namespace Document

/-- **Normal markup stays as it is.** Any text is read as a page, however malformed it is. If no element
    of the page is raw or has a tag with a blank at its end, other than those that never are in a tag, then
    the markup of the page is read as a page with the same tree, and that has the same markup. -/
theorem tree_parse_toHtml_of_tags (markup : String)
    (htags : ∀ tag ∈ ((parse markup).tree root).tags, IsOrdinary tag) :
    (parse (parse markup).toHtml).tree root = (parse markup).tree root ∧
      (parse (parse markup).toHtml).toHtml = (parse markup).toHtml := by
  have hwritten : ∀ markup, (parse markup).toHtml =
      String.ofList (Tree.renderAll false (Tree.parse markup.toList)) := fun markup =>
    toHtml_eq (linked_parse markup) ((ordered_parse markup).grounded root) (tree_parse markup)
  have hordinary : ∀ tag ∈ Tree.tagsAll (Tree.parse markup.toList), IsOrdinary tag := by
    rw [tree_parse, Tree.tags] at htags
    exact htags
  have hagain : Tree.parse (parse markup).toHtml.toList = Tree.parse markup.toList := by
    rw [hwritten, String.toList_ofList, Tree.parse_renderAll_parse hordinary]
  refine ⟨?_, ?_⟩
  · rw [tree_parse, tree_parse, hagain]
  · rw [hwritten (parse markup).toHtml, hagain, ← hwritten markup]

/-- Texts in and around tags that are not closed, closed elsewhere or closed by nothing, an attribute that
    stands twice, references with and without an end, and a comment without an end. -/
def scrawl : String :=
  "1 <2 &amp &lt;</q>3<P Class=a class=b><B title='\"'>x<br/>y</b ></div><!doctype  HTML ><!-- a"

theorem tree_parse_toHtml_of_scrawl :
    (parse (parse scrawl).toHtml).tree root = (parse scrawl).tree root ∧
      (parse scrawl).toHtml =
        "1 &lt;2 &amp;amp &lt;3<p class=\"a\"><b title=\"&quot;\">x<br>y</b><!DOCTYPE HTML><!-- a--></p>" := by
  have htags : ((parse scrawl).tree root).tags = ["p", "b", "br"] := by decide +kernel
  refine ⟨(tree_parse_toHtml_of_tags scrawl ?_).1, by decide +kernel⟩
  rw [htags]
  decide

end Document

end Placeholders
