import Placeholders.Proofs.Document.Growth
import Placeholders.Proofs.Markup.Legible

/-!
# Reading back a page

`tree_parse_toHtml` says that the markup of a page, read again, is the same tree.

* Between the tree and the page stand the nodes that the tree is given: `Appends` says what appending
  trees does to a document. Trees without fragments in them (`Whole`) are there afterwards as they were.
* A page that has been read consists of trees whose pieces can be written (`legible_of_child_parse`).
* That nodes with higher numbers are left alone is enough to keep a tree (`tree_eq_of_above`), because in
  an ordered document everything in a node has a higher number.
-/

namespace Placeholders

open Markup

namespace Markup.Tree

/-! ## 1. Trees without fragments -/

/-- Trees without fragments in them. Only these are single nodes of a document. -/
inductive Whole : Tree → Prop
  | doctype (declaration : String) : Whole (doctype declaration)
  | comment (body : String) : Whole (comment body)
  | text (content : String) : Whole (text content)
  | element (tag : String) (attributes : Attributes) {children : List Tree}
      (whole : ∀ tree ∈ children, Whole tree) : Whole (element tag attributes children)

theorem Legible.whole {tree : Tree} (h : tree.Legible) : tree.Whole := by
  induction h with
  | doctype => exact .doctype _
  | comment => exact .comment _
  | text => exact .text _
  | element _ _ _ _ ih => exact .element _ _ ih

theorem Writable.whole {tree : Tree} (h : Writable tree) : Whole tree := h.legible.whole

end Markup.Tree

namespace Document

variable {doc middle after : Document} {parent : Nat}

/-! ## 2. Trees of ordered documents -/

theorem OrderedFrom.tree_eq {n : Nat} (h : doc.OrderedFrom n) (hdoc : doc.Linked) {id : Nat}
    (hn : n ≤ id) (hid : id < doc.size) :
    doc.tree id = treeOver (doc.payload? id) ((doc.children id).map doc.tree) :=
  hdoc.tree_eq (hdoc.within_size (h.grounded hn) hid)

theorem Ordered.tree_eq (h : doc.Ordered) (hdoc : doc.Linked) {id : Nat} (hid : id < doc.size) :
    doc.tree id = treeOver (doc.payload? id) ((doc.children id).map doc.tree) :=
  (h.orderedFrom 0).tree_eq hdoc (Nat.zero_le id) hid

/-- A tree is the same as long as nothing of its number or a higher one is changed. -/
theorem tree_eq_of_above {n : Nat} (hdoc : doc.Linked) (hordered : doc.OrderedFrom n)
    (hgrown : doc.Grown after) {id : Nat} (hn : n ≤ id) (hid : id < doc.size)
    (habove : ∀ j, id ≤ j → j < doc.size →
      after.payload? j = doc.payload? j ∧ after.children j = doc.children j) :
    after.tree id = doc.tree id := by
  induction hroom : doc.size - id using Nat.strongRecOn generalizing id with
  | _ room ih =>
      obtain ⟨hpayload, hchildren⟩ := habove id (Nat.le_refl id) hid
      have hbelow : (doc.children id).map after.tree = (doc.children id).map doc.tree := by
        refine List.map_congr_left fun c hc => ?_
        have hlt := hordered id hn c hc
        have hsize := hdoc.child_lt hc
        exact ih (doc.size - c) (by omega) (by omega) hsize (fun j hj => habove j (by omega)) rfl
      rw [(hgrown.orderedFrom n hordered).tree_eq hgrown.linked hn
          (Nat.lt_of_lt_of_le hid hgrown.size_le),
        hordered.tree_eq hdoc hn hid, hpayload, hchildren, hbelow]

/-! ## 3. Appending trees -/

/-- What appending trees to a node does: they are its last children, and nothing else has changed. -/
structure Appends (doc after : Document) (parent : Nat) (trees : List Tree) : Prop where
  payload : ∀ j < doc.size, after.payload? j = doc.payload? j
  others : ∀ j < doc.size, j ≠ parent → after.children j = doc.children j
  appended : ∃ ids, after.children parent = doc.children parent ++ ids ∧
    (∀ id ∈ ids, doc.size ≤ id) ∧ ids.map after.tree = trees

theorem Appends.refl (doc : Document) (parent : Nat) : Appends doc doc parent [] :=
  ⟨fun _ _ => rfl, fun _ _ _ => rfl, [], by simp⟩

theorem Appends.trans {trees more : List Tree} (h : Appends doc middle parent trees)
    (h' : Appends middle after parent more) (hparent : parent < doc.size)
    (hgrown : doc.Grown middle) (hgrown' : middle.Grown after) :
    Appends doc after parent (trees ++ more) := by
  obtain ⟨ids, hchildren, hnew, htrees⟩ := h.appended
  obtain ⟨ids', hchildren', hnew', hmore⟩ := h'.appended
  have hle := hgrown.size_le
  refine ⟨fun j hj => ?_, fun j hj hne => ?_, ids ++ ids', ?_, ?_, ?_⟩
  · rw [h'.payload j (by omega), h.payload j hj]
  · rw [h'.others j (by omega) hne, h.others j hj hne]
  · rw [hchildren', hchildren, List.append_assoc]
  · refine List.forall_mem_append.mpr ⟨hnew, fun id hid => ?_⟩
    exact Nat.le_trans hle (hnew' id hid)
  · have hkept : ids.map after.tree = ids.map middle.tree := by
      refine List.map_congr_left fun id hid => ?_
      have hlt : id < middle.size := hgrown.linked.child_lt (p := parent) (by simp [hchildren, hid])
      have hge := hnew id hid
      exact tree_eq_of_above hgrown.linked (hgrown.orderedFrom _ (orderedFrom_size doc)) hgrown' hge
        hlt fun j hj hjlt => ⟨h'.payload j hjlt, h'.others j hjlt (by omega)⟩
    rw [List.map_append, hkept, htrees, hmore]

/-- A new node without children is a tree by itself. -/
theorem appends_appendNew (hdoc : doc.Linked) (hparent : parent < doc.size)
    {payload : Payload} {tree : Tree} (htree : treeOver (some payload) [] = tree) :
    Appends doc (doc.appendNew parent payload) parent [tree] := by
  have hleaf : (doc.appendNew parent payload).children doc.size = [] := by
    rw [children_appendNew hparent, if_neg (by omega), children_eq_nil (Nat.le_refl _)]
  have hwithin : (doc.appendNew parent payload).Within 1 doc.size :=
    .intro fun c hc => by rw [hleaf] at hc; cases hc
  refine ⟨fun j hj => ?_, fun j _ hne => ?_, [doc.size], ?_, by simp, ?_⟩
  · rw [payload?_appendNew, if_neg (by omega)]
  · rw [children_appendNew hparent, if_neg hne]
  · rw [children_appendNew hparent, if_pos rfl]
  · rw [List.map_singleton, (hdoc.appendNew hparent payload).tree_eq hwithin, payload?_appendNew,
      if_pos rfl, hleaf, List.map_nil, htree]

/-- **Trees are appended as they are**, if each of them is. -/
theorem appends_appendTrees {trees : List Tree}
    (h : ∀ tree ∈ trees, ∀ {doc : Document} {parent : Nat}, doc.Linked → parent < doc.size →
      Appends doc (doc.appendTree parent tree) parent [tree])
    (hdoc : doc.Linked) (hparent : parent < doc.size) :
    Appends doc (doc.appendTrees parent trees) parent trees := by
  induction trees generalizing doc with
  | nil => exact .refl doc parent
  | cons tree trees ih =>
      obtain ⟨hfirst, hrest⟩ := List.forall_mem_cons.mp h
      have hgrown := grown_appendTree hdoc hparent tree
      have hlt := Nat.lt_of_lt_of_le hparent hgrown.size_le
      rw [appendTrees]
      exact (hfirst hdoc hparent).trans (ih hrest hgrown.linked hlt) hparent hgrown
        (grown_appendTrees hgrown.linked hlt trees)

/-- **A tree is appended as it is.** An element is a new node first, to which its children are appended. -/
theorem appends_appendTree {tree : Tree} (h : tree.Whole) (hdoc : doc.Linked)
    (hparent : parent < doc.size) :
    Appends doc (doc.appendTree parent tree) parent [tree] := by
  induction h generalizing doc parent with
  | doctype | comment | text =>
      rw [appendTree]
      exact appends_appendNew hdoc hparent rfl
  | @element tag attributes children _ ih =>
      rw [appendTree]
      let first := doc.appendNew parent (.element tag attributes)
      have hfirst : Appends doc first parent [.element tag attributes []] :=
        appends_appendNew hdoc hparent rfl
      have hgrown : doc.Grown first := grown_appendNew hdoc hparent _
      have hlt : doc.size < first.size := by simp [first]
      have hinner := appends_appendTrees ih hgrown.linked hlt
      have hgrown' := grown_appendTrees hgrown.linked hlt children
      obtain ⟨ids, hchildren, _, htrees⟩ := hinner.appended
      refine ⟨fun j hj => ?_, fun j hj hne => ?_, [doc.size], ?_, by simp, ?_⟩
      · rw [hinner.payload j (by omega), hfirst.payload j hj]
      · rw [hinner.others j (by omega) (by omega), hfirst.others j hj hne]
      · rw [hinner.others parent (by omega) (by omega), children_appendNew hparent, if_pos rfl]
      · have hnone : first.children doc.size = [] := by
          rw [children_appendNew hparent, if_neg (by omega), children_eq_nil (Nat.le_refl _)]
        have hpayload : first.payload? doc.size = some (.element tag attributes) := by
          rw [payload?_appendNew, if_pos rfl]
        have hordered := (hgrown.trans hgrown').orderedFrom _ (orderedFrom_size doc)
        rw [List.map_singleton, hordered.tree_eq hgrown'.linked (Nat.le_refl _)
            (Nat.lt_of_lt_of_le hlt hgrown'.size_le),
          hinner.payload _ hlt, hpayload, hchildren, hnone, List.nil_append, htrees]
        rfl

/-- **A page of trees consists of these trees.** -/
theorem tree_appendTrees {trees : List Tree} (h : ∀ tree ∈ trees, tree.Whole) :
    (empty.appendTrees root trees).tree root = .fragment trees := by
  have hlt : root < empty.size := by simp [root, size, empty]
  have happends := appends_appendTrees (fun tree htree _ _ => appends_appendTree (h tree htree))
    linked_empty hlt
  have hgrown := grown_appendTrees linked_empty hlt trees
  obtain ⟨ids, hchildren, _, htrees⟩ := happends.appended
  rw [(hgrown.ordered ordered_empty).tree_eq hgrown.linked (Nat.lt_of_lt_of_le hlt hgrown.size_le),
    happends.payload root hlt, hchildren]
  change Tree.fragment (ids.map _) = _
  rw [htrees]

/-! ## 4. Pages that have been read -/

theorem legible_of_child (hdoc : doc.Linked) {k id : Nat} (hid : doc.Within k id)
    (helement : doc.isElement id = true) (h : (doc.tree id).Legible) :
    ∀ c ∈ doc.children id, (doc.tree c).Legible := by
  rw [hdoc.tree_eq hid] at h
  unfold isElement tag? at helement
  split at helement
  · rename_i hpayload
    rw [hpayload] at h
    cases h with
    | element _ _ _ legible => exact List.forall_mem_map.mp legible
  · cases helement

/-- **A page consists of what its markup is read as.** -/
theorem tree_parse (markup : String) :
    (parse markup).tree root = .fragment (Tree.parse markup.toList) := by
  rw [parse, tree_appendTrees fun tree htree => (Tree.legible_of_mem_parse _ tree htree).whole]

theorem payload?_root_parse (markup : String) :
    (parse markup).payload? root = some .root := by
  have htree := (ordered_parse markup).tree_eq (linked_parse markup) (root_lt_parse markup)
  obtain ⟨payload, hpayload⟩ : ∃ payload, (parse markup).payload? root = some payload := by
    simp [payload?, Array.getElem?_eq_getElem (root_lt_parse markup)]
  rw [tree_parse, hpayload] at htree
  rw [hpayload]
  cases payload with
  | root => rfl
  | doctype | comment | text | element => cases htree

theorem tree_of_payload?_root (hdoc : doc.Linked) {k : Nat}
    (hwithin : doc.Within k root) (hpayload : doc.payload? root = some .root) :
    doc.tree root = .fragment ((doc.children root).map doc.tree) := by
  rw [hdoc.tree_eq hwithin, hpayload]
  rfl

theorem legible_of_child_parse (markup : String) :
    ∀ c ∈ (parse markup).children root, ((parse markup).tree c).Legible := by
  have hwithin := (linked_parse markup).within_size ((ordered_parse markup).grounded root)
    (root_lt_parse markup)
  have htree := tree_of_payload?_root (linked_parse markup) hwithin (payload?_root_parse markup)
  have htrees := Tree.fragment.inj (htree.symm.trans (tree_parse markup))
  intro c hc
  exact Tree.legible_of_mem_parse markup.toList _ (htrees ▸ List.mem_map_of_mem hc)

/-! ## 5. The page read back -/

/-- The markup of a page is that of the trees it consists of. -/
theorem toHtml_eq (hdoc : doc.Linked) (hend : doc.Grounded root) {trees : List Tree}
    (htree : doc.tree root = .fragment trees) :
    doc.toHtml = String.ofList (Tree.renderAll false trees) := by
  by_cases hlt : root < doc.size
  · rw [hdoc.tree_eq (hdoc.within_size hend hlt)] at htree
    obtain ⟨payload, hpayload⟩ : ∃ payload, doc.payload? root = some payload := by
      simp [payload?, Array.getElem?_eq_getElem hlt]
    rw [hpayload] at htree
    cases payload <;> cases htree
    simp [toHtml, innerHtml, tag?, hpayload]
  · have hnone : doc.children root = [] := children_eq_nil (Nat.not_lt.mp hlt)
    have hempty : doc.size = 0 := Nat.eq_zero_of_not_pos hlt
    rw [tree, hempty] at htree
    cases htree
    simp [toHtml, innerHtml, hnone, Tree.renderAll]

/-- **Parsing undoes serializing**: the markup of a page reads as a page with the same tree, if what the
    page consists of can be read at all. -/
theorem tree_parse_toHtml (hdoc : doc.Linked) (hend : doc.Grounded root) {trees : List Tree}
    (htree : doc.tree root = .fragment trees) (h : Tree.Series trees) :
    (parse doc.toHtml).tree root = doc.tree root := by
  rw [toHtml_eq hdoc hend htree, parse, String.toList_ofList, Tree.parse_renderAll h, htree]
  exact tree_appendTrees fun tree hmem => (h.writable tree hmem).whole

/-- Trees that can be read back make a page whose markup is read as the page that it is. -/
theorem tree_parse_toHtml_parse {trees : List Tree} (h : Tree.Series trees) {markup : String}
    (hmarkup : markup = String.ofList (Tree.renderAll false trees)) :
    (parse (parse markup).toHtml).tree root = (parse markup).tree root := by
  have htree : (parse markup).tree root = .fragment trees := by
    rw [tree_parse, hmarkup, String.toList_ofList, Tree.parse_renderAll h]
  rw [toHtml_eq (linked_parse markup) ((ordered_parse markup).grounded root) htree, ← hmarkup]

/-- A page with something of every kind in it. -/
def specimen : List Tree :=
  [.doctype "html",
    .element "p" [("title", "\"a\" & b"), ("data-x", "")]
      [.text "1 < 2 &amp; 3", .element "br" [] [], .comment "->"],
    .element "script" [] [.text "if (a </b/.source) {}"]]

theorem series_specimen : Tree.Series specimen where
  writable := by
    have hchildren : ∀ tree ∈ [Tree.text "1 < 2 &amp; 3", .element "br" [] [], .comment "->"],
        tree.Writable := by
      simp only [List.forall_mem_cons]
      exact ⟨.text (by decide), .void (by decide) (by decide) (by decide), .comment (by decide),
        List.forall_mem_nil _⟩
    simp only [specimen, List.forall_mem_cons]
    exact ⟨.doctype (by decide) (by decide),
      .element (by decide) (by decide) (by decide) (by decide) hchildren
        (by simp [Tree.Apart, Tree.isText]),
      .raw (by decide) (by decide) (by decide) (by decide) (by decide), List.forall_mem_nil _⟩
  apart := by simp [specimen, Tree.Apart, Tree.isText]

theorem tree_parse_toHtml_of_specimen :
    (parse (empty.appendTrees root specimen).toHtml).tree root = .fragment specimen := by
  have hlt : root < empty.size := by simp [root, size, empty]
  have hgrown := grown_appendTrees linked_empty hlt specimen
  have htree : (empty.appendTrees root specimen).tree root = .fragment specimen :=
    tree_appendTrees fun tree hmem => (series_specimen.writable tree hmem).whole
  exact (tree_parse_toHtml hgrown.linked ((hgrown.ordered ordered_empty).grounded root) htree
    series_specimen).trans htree

end Document

end Placeholders
