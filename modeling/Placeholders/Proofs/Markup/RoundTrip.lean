import Mathlib.Data.List.Chain
import Placeholders.Proofs.Markup.Written

/-!
# Reading back what is written

`parse_renderAll` says that trees which could have been read are read back from their written form.

* `Writable` says which trees these are, `Series` what is asked of trees that stand side by side.
* `foldl_tokens_render` is about one tree at any place of a document, with anything before it and after
  it: reading its written form adds it to what is open there. It is an induction on the tree, and it
  meets every delimiter of `Written` once.
-/

namespace Placeholders.Markup.Tree

open Placeholders.Text

/-! ## 1. Trees that can be read -/

/-- Whether a tree is a text. -/
def isText : Tree → Bool
  | text _ => true
  | _ => false

/-- No text is beside a text. -/
def Apart (trees : List Tree) : Prop :=
  trees.IsChain fun tree other => ¬ (tree.isText = true ∧ other.isText = true)

/-- Trees whose written form can be read. Nothing is asked of texts but that they are not empty. -/
inductive Writable : Tree → Prop
  | doctype {declaration : String} (trimmed : trim declaration.toList = declaration.toList)
      (inside : '>' ∉ declaration.toList) : Writable (doctype declaration)
  | comment {body : String} (inside : ¬ ['-', '-', '>'] <:+: body.toList) : Writable (comment body)
  | text {content : String} (nonempty : content ≠ "") : Writable (text content)
  /-- An element that holds nothing by its tag. -/
  | void {tag : String} {attributes : Attributes} (isTag : IsTag tag)
      (areAttributes : AreAttributes attributes) (void : isVoid tag = true) :
      Writable (element tag attributes [])
  | rawEmpty {tag : String} {attributes : Attributes} (isTag : IsTag tag)
      (areAttributes : AreAttributes attributes) (raw : isRaw tag = true) :
      Writable (element tag attributes [])
  /-- An element whose text is no markup, and does not close the element. -/
  | raw {tag : String} {attributes : Attributes} {content : String} (isTag : IsTag tag)
      (areAttributes : AreAttributes attributes) (raw : isRaw tag = true) (nonempty : content ≠ "")
      (inside : ¬ '<' :: '/' :: tag.toList <:+: lower content.toList) :
      Writable (element tag attributes [Tree.text content])
  | element {tag : String} {attributes : Attributes} {children : List Tree} (isTag : IsTag tag)
      (areAttributes : AreAttributes attributes) (notVoid : isVoid tag = false)
      (notRaw : isRaw tag = false) (writable : ∀ tree ∈ children, Writable tree)
      (apart : Apart children) : Writable (element tag attributes children)

/-- Trees side by side whose written forms can be read. -/
structure Series (trees : List Tree) : Prop where
  writable : ∀ tree ∈ trees, Writable tree
  apart : Apart trees

/-! ## 2. Trees under construction -/

theorem join_of_apart {tree old : Tree} (h : ¬ (old.isText = true ∧ tree.isText = true))
    (content : List Tree) : join tree (old :: content) = tree :: old :: content := by
  cases tree <;> cases old <;> first | rfl | exact absurd ⟨rfl, rfl⟩ h

theorem foldl_join_cons {old : Tree} {trees : List Tree} (h : Apart (old :: trees))
    (content : List Tree) :
    trees.foldl (fun content tree => join tree content) (old :: content) =
      trees.reverse ++ old :: content := by
  induction trees generalizing old content with
  | nil => rfl
  | cons tree trees ih =>
      obtain ⟨hfirst, hrest⟩ := List.isChain_cons_cons.mp h
      rw [List.foldl_cons, join_of_apart hfirst, ih hrest, List.reverse_cons, List.append_assoc]
      rfl

/-- Texts that are apart are not joined. -/
theorem foldl_join {trees : List Tree} (h : Apart trees) :
    trees.foldl (fun content tree => join tree content) [] = trees.reverse := by
  cases trees with
  | nil => rfl
  | cons tree trees =>
      have hfirst : join tree [] = [tree] := by cases tree <;> rfl
      rw [List.foldl_cons, hfirst, foldl_join_cons h, List.reverse_cons]

theorem foldl_add_openElement (d : Draft) (tag : String) (attributes : Attributes)
    (content trees : List Tree) :
    trees.foldl Draft.add (d.openElement tag attributes content) =
      d.openElement tag attributes (trees.foldl (fun content tree => join tree content) content) := by
  induction trees generalizing content with
  | nil => rfl
  | cons tree trees ih => exact ih (join tree content)

theorem foldl_add_nil (finished trees : List Tree) :
    trees.foldl Draft.add ⟨finished, []⟩ =
      ⟨trees.foldl (fun content tree => join tree content) finished, []⟩ := by
  induction trees generalizing finished with
  | nil => rfl
  | cons tree trees ih => exact ih (join tree finished)

theorem step_opening (d : Draft) (tag : String) (attributes : Attributes) :
    d.step (.opening tag attributes) = d.openElement tag attributes [] := rfl

theorem step_raw (d : Draft) (tag : String) (attributes : Attributes) (body : String) :
    d.step (.raw tag attributes body) =
      d.openElement tag attributes (if body.isEmpty then [] else [text body]) := rfl

/-- The tag that closes the innermost element adds it to what it stands in. -/
theorem step_closing (d : Draft) (tag : String) (attributes : Attributes) (content : List Tree) :
    (d.openElement tag attributes content).step (.closing tag) =
      d.add (element tag attributes content.reverse) := by
  simp [Draft.step, Draft.openElement, Draft.close, Draft.closeInnermost, List.findIdx?_cons]

/-! ## 3. Reading one tree -/

/-- Reading the written form of a tree adds the tree, wherever it stands. What follows a text must not be
    part of it. -/
def Reads (tree : Tree) : Prop :=
  ∀ (d : Draft) (rest : List Char), (tree.isText = true → EndsText rest) →
    (tokens (render tree ++ rest)).foldl Draft.step d = (tokens rest).foldl Draft.step (d.add tree)

theorem renderAll_cons (tree : Tree) (trees : List Tree) :
    renderAll false (tree :: trees) = render tree ++ renderAll false trees := by
  cases tree <;> simp [renderAll, render]

theorem renderAll_append (trees more : List Tree) :
    renderAll false (trees ++ more) = renderAll false trees ++ renderAll false more := by
  induction trees with
  | nil => rfl
  | cons tree trees ih =>
      rw [List.cons_append, renderAll_cons, renderAll_cons, ih, List.append_assoc]

/-- A single node of a page, that is, anything but a fragment. -/
def isSingle : Tree → Bool
  | fragment _ => false
  | _ => true

theorem Writable.isSingle {tree : Tree} (h : Writable tree) : tree.isSingle = true := by
  cases h <;> rfl

/-- Whatever is no text ends the text before it. -/
theorem endsText_render {tree : Tree} (hsingle : tree.isSingle = true) (hnotext : tree.isText = false)
    (rest : List Char) : EndsText (render tree ++ rest) := by
  cases tree
  case text => cases hnotext
  case fragment => cases hsingle
  all_goals exact .inr ⟨_, by simp [render, renderDoctype, renderComment, renderOpening]; rfl⟩

/-- Nodes side by side are added one after the other, if each of them is read as it is written. -/
theorem foldl_tokens_renderAll {trees : List Tree} (hapart : Apart trees)
    (hreads : ∀ tree ∈ trees, tree.isSingle = true ∧ Reads tree) (d : Draft) {rest : List Char}
    (hrest : EndsText rest) :
    (tokens (renderAll false trees ++ rest)).foldl Draft.step d =
      (tokens rest).foldl Draft.step (trees.foldl Draft.add d) := by
  induction trees generalizing d with
  | nil => simp [renderAll]
  | cons tree trees ih =>
      obtain ⟨⟨_, hread⟩, hreads⟩ := List.forall_mem_cons.mp hreads
      have hafter : tree.isText = true → EndsText (renderAll false trees ++ rest) := by
        intro htext
        cases trees with
        | nil => simpa [renderAll] using hrest
        | cons next trees =>
            have hnext : next.isText = false := by
              have hfirst := (List.isChain_cons_cons.mp hapart).1
              simpa [htext] using hfirst
            rw [renderAll_cons, List.append_assoc]
            exact endsText_render (hreads next List.mem_cons_self).1 hnext _
      rw [renderAll_cons, List.append_assoc, hread d _ hafter, ih hapart.tail hreads, List.foldl_cons]

theorem endsText_renderClosing (tag : String) (rest : List Char) :
    EndsText (renderClosing tag ++ rest) :=
  .inr ⟨_, rfl⟩

theorem reads_doctype {declaration : String} (trimmed : trim declaration.toList = declaration.toList)
    (inside : '>' ∉ declaration.toList) : Reads (doctype declaration) := by
  intro d rest _
  rw [render, tokens_renderDoctype trimmed inside]
  rfl

theorem reads_comment {body : String} (inside : ¬ ['-', '-', '>'] <:+: body.toList) :
    Reads (comment body) := by
  intro d rest _
  rw [render, tokens_renderComment inside]
  rfl

theorem reads_text {content : String} (nonempty : content ≠ "") : Reads (text content) := by
  intro d rest hrest
  rw [render, tokens_escapeText nonempty (hrest rfl)]
  rfl

theorem reads_void {tag : String} {attributes : Attributes} (isTagName : IsTagName tag)
    (areAttributes : AreAttributes attributes) (void : isVoid tag = true) :
    Reads (element tag attributes []) := by
  intro d rest _
  rw [render, if_pos void, List.append_nil, tokens_renderOpening isTagName areAttributes]
  simp [tagToken, void, Draft.step]

/-- An element is read as it is written, if what it holds is. Of its tag no blank may be at the end, where
    the closing tag is trimmed. -/
theorem reads_element {tag : String} {attributes : Attributes} {children : List Tree}
    (isTagName : IsTagName tag) (trimmed : trim tag.toList = tag.toList)
    (areAttributes : AreAttributes attributes) (notVoid : isVoid tag = false)
    (notRaw : isRaw tag = false) (apart : Apart children)
    (hreads : ∀ tree ∈ children, tree.isSingle = true ∧ Reads tree) :
    Reads (element tag attributes children) := by
  intro d rest _
  have htoken : ∀ after, tagToken tag attributes false after = (.opening tag attributes, after) :=
    fun after => by simp [tagToken, notVoid, notRaw]
  rw [render, if_neg (by simp [notVoid]), notRaw, List.append_assoc, List.append_assoc,
    tokens_renderOpening isTagName areAttributes, htoken, List.foldl_cons, step_opening,
    foldl_tokens_renderAll apart hreads _ (endsText_renderClosing tag rest),
    foldl_add_openElement, foldl_join apart, tokens_renderClosing isTagName trimmed, List.foldl_cons,
    step_closing, List.reverse_reverse]

/-- **Reading the written form of a tree adds the tree.** The induction is on the tree; only an element
    with children needs it. -/
theorem Writable.reads {tree : Tree} (h : Writable tree) : Reads tree := by
  induction h with
  | doctype trimmed inside => exact reads_doctype trimmed inside
  | comment inside => exact reads_comment inside
  | text nonempty => exact reads_text nonempty
  | void isTag areAttributes void => exact reads_void isTag.isTagName areAttributes void
  | @rawEmpty tag attributes isTag areAttributes raw =>
      intro d rest _
      have hinside : ¬ '<' :: '/' :: tag.toList <:+: lower [] := by simp [lower]
      have htokens := tokens_raw isTag areAttributes raw hinside rest
      rw [List.nil_append] at htokens
      rw [render, if_neg (by simp [not_isVoid_of_isRaw raw]), renderAll, List.nil_append,
        List.append_assoc, htokens, List.foldl_cons, List.foldl_cons, step_raw, step_closing]
      rfl
  | @raw tag attributes content isTag areAttributes raw nonempty inside =>
      intro d rest _
      rw [render, if_neg (by simp [not_isVoid_of_isRaw raw]), renderAll, if_pos raw, renderAll,
        List.append_nil, List.append_assoc, List.append_assoc,
        tokens_raw isTag areAttributes raw inside, String.ofList_toList, List.foldl_cons,
        List.foldl_cons, step_raw, step_closing, if_neg (by simpa using nonempty)]
      rfl
  | element isTag areAttributes notVoid notRaw writable apart ih =>
      exact reads_element isTag.isTagName isTag.trim_eq areAttributes notVoid notRaw apart
        fun tree htree => ⟨(writable tree htree).isSingle, ih tree htree⟩

/-- Nodes that are read as they are written are read back together, if no text is beside a text. -/
theorem parse_renderAll_of_reads {trees : List Tree} (hapart : Apart trees)
    (hreads : ∀ tree ∈ trees, tree.isSingle = true ∧ Reads tree) :
    parse (renderAll false trees) = trees := by
  have hread := foldl_tokens_renderAll hapart hreads ⟨[], []⟩ (.inl rfl)
  rw [List.append_nil] at hread
  rw [parse, ofTokens, hread, foldl_add_nil, foldl_join hapart]
  simp [tokens, Draft.finish, Draft.close]

/-- **Reading undoes writing.** -/
theorem parse_renderAll {trees : List Tree} (h : Series trees) :
    parse (renderAll false trees) = trees :=
  parse_renderAll_of_reads h.apart fun tree htree =>
    ⟨(h.writable tree htree).isSingle, (h.writable tree htree).reads⟩

end Placeholders.Markup.Tree
