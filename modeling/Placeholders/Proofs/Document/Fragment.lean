import Placeholders.Proofs.Document.Reading

/-!
# Markup in a node

`setInnerHtml_local` says what reading markup into a node does, and that it does nothing else.

* What the markup is read as depends on nothing but the markup: it becomes the only content of the node as
  it becomes that of a page. No closing tag in it reaches the node or anything above, and no text in it
  joins one outside.
* New nodes are below the node alone, so that parents are as they were (`Appends.parent?_eq`).
* What was in the node is taken out as it is: a tree is the same if all nodes in it are
  (`tree_eq_of_below`).
-/

namespace Placeholders.Document

open Markup Relation

variable {doc after : Document}

/-! ## 1. What stays -/

theorem Within.congr {k id : Nat} (h : doc.Within k id)
    (hsame : ∀ j, ReflTransGen doc.Child id j → after.children j = doc.children j) :
    after.Within k id := by
  induction h with
  | @intro k id _ ih =>
      refine .intro fun c hc => ?_
      rw [hsame id .refl] at hc
      exact ih c hc fun j hj => hsame j (.head hc hj)

/-- A tree is the same if no node in it is changed. -/
theorem tree_eq_of_below (hdoc : doc.Linked) (hafter : after.Linked) {k id : Nat}
    (h : doc.Within k id) (hsame : ∀ j, ReflTransGen doc.Child id j →
      after.payload? j = doc.payload? j ∧ after.children j = doc.children j) :
    after.tree id = doc.tree id := by
  induction h with
  | @intro k id hwithin ih =>
      obtain ⟨hpayload, hchildren⟩ := hsame id .refl
      have hbelow : (doc.children id).map after.tree = (doc.children id).map doc.tree :=
        List.map_congr_left fun c hc => ih c hc fun j hj => hsame j (.head hc hj)
      have hstill : after.Within (k + 1) id :=
        (Within.intro hwithin).congr fun j hj => (hsame j hj).2
      rw [hafter.tree_eq hstill, hdoc.tree_eq (.intro hwithin), hpayload, hchildren, hbelow]

/-- Appending trees to a node leaves the parents of all nodes as they are. -/
theorem Appends.parent?_eq {parent : Nat} {trees : List Tree} (h : Appends doc after parent trees)
    (hdoc : doc.Linked) (hgrown : doc.Grown after) {j : Nat} (hj : j < doc.size) :
    after.parent? j = doc.parent? j := by
  obtain ⟨ids, hchildren, hnew, _⟩ := h.appended
  refine Option.ext fun p => ?_
  rw [← hgrown.linked.mirrored, ← hdoc.mirrored]
  rcases Nat.lt_or_ge p doc.size with hp | hp
  · by_cases heq : p = parent
    · rw [heq, hchildren, List.mem_append]
      exact or_iff_left fun hmem => absurd (hnew j hmem) (by omega)
    · rw [h.others p hp heq]
  · -- what is in a new node has a higher number, and is new, too
    have hnone : j ∉ doc.children p := by
      rw [children_eq_nil hp]
      exact List.not_mem_nil
    refine iff_of_false (fun hmem => ?_) hnone
    have hlt := hgrown.orderedFrom _ (orderedFrom_size doc) p hp j hmem
    omega

/-! ## 2. What is new -/

section SetInnerHtml

variable (hdoc : doc.Linked) {id : Nat} (hid : id < doc.size) (markup : String)

include hdoc hid

/-- The emptied node is given what the markup is read as. -/
theorem appends_setInnerHtml :
    Appends (doc.clearChildren id) (doc.setInnerHtml id markup) id (Tree.parse markup.toList) ∧
      (doc.clearChildren id).Grown (doc.setInnerHtml id markup) := by
  have hcleared := hdoc.clearChildren hid
  have hlt : id < (doc.clearChildren id).size := (hdoc.clearChildren_spec hid).1 ▸ hid
  refine ⟨?_, grown_appendTrees hcleared hlt _⟩
  refine appends_appendTrees (fun tree htree _ _ => appends_appendTree ?_) hcleared hlt
  exact (Tree.legible_of_mem_parse _ tree htree).whole

/-- Every other node is as it was, and has lost its parent if that was the node. -/
theorem old_setInnerHtml {j : Nat} (hj : j < doc.size) :
    (doc.setInnerHtml id markup).payload? j = doc.payload? j ∧
      (j ≠ id → (doc.setInnerHtml id markup).children j = doc.children j) ∧
      (doc.setInnerHtml id markup).parent? j = if j ∈ doc.children id then none else doc.parent? j := by
  obtain ⟨hsize, hpayload, hchildren, hparent⟩ := hdoc.clearChildren_spec hid
  obtain ⟨happends, hgrown⟩ := appends_setInnerHtml hdoc hid markup
  have hlt : j < (doc.clearChildren id).size := hsize ▸ hj
  refine ⟨(happends.payload j hlt).trans (hpayload j), fun hne => ?_, ?_⟩
  · rw [happends.others j hlt hne, hchildren, if_neg hne]
  · rw [happends.parent?_eq (hdoc.clearChildren hid) hgrown hlt, hparent]

/-- All that is in the node is new. -/
theorem children_setInnerHtml :
    (∀ c ∈ (doc.setInnerHtml id markup).children id, doc.size ≤ c) ∧
      ((doc.setInnerHtml id markup).children id).map (doc.setInnerHtml id markup).tree =
        Tree.parse markup.toList := by
  obtain ⟨hsize, _, hchildren, _⟩ := hdoc.clearChildren_spec hid
  obtain ⟨happends, _⟩ := appends_setInnerHtml hdoc hid markup
  obtain ⟨ids, hids, hnew, htrees⟩ := happends.appended
  rw [hchildren, if_pos rfl, List.nil_append] at hids
  rw [hids]
  exact ⟨fun c hc => hsize ▸ hnew c hc, htrees⟩

/-- The node is what it was, around what the markup is read as. There is an end to it, wherever the node
    stands, because there is one to everything new. -/
theorem tree_setInnerHtml :
    (doc.setInnerHtml id markup).tree id =
      treeOver (doc.payload? id) (Tree.parse markup.toList) := by
  obtain ⟨hnew, htrees⟩ := children_setInnerHtml hdoc hid markup
  obtain ⟨_, hgrown⟩ := appends_setInnerHtml hdoc hid markup
  have hordered := hgrown.orderedFrom _ (orderedFrom_size _)
  rw [(hdoc.clearChildren_spec hid).1] at hordered
  have hwithin : (doc.setInnerHtml id markup).Within ((doc.setInnerHtml id markup).size + 1) id :=
    .intro fun c hc =>
      hgrown.linked.within_size (hordered.grounded (hnew c hc)) (hgrown.linked.child_lt hc)
  rw [hgrown.linked.tree_eq hwithin, htrees, (old_setInnerHtml hdoc hid markup hid).1]

/-- The node is not in what has been taken out, and so that is as it was. -/
theorem tree_of_taken_out (hend : doc.Grounded id) {c : Nat} (hc : c ∈ doc.children id) :
    (doc.setInnerHtml id markup).tree c = doc.tree c := by
  have hcsize := hdoc.child_lt hc
  refine tree_eq_of_below hdoc (hdoc.setInnerHtml hid markup)
    (hdoc.within_size (hend.of_child hc) hcsize) fun j hwalk => ?_
  obtain ⟨hpayload, hchildren, _⟩ := old_setInnerHtml hdoc hid markup (hdoc.lt_of_walk hcsize hwalk)
  refine ⟨hpayload, hchildren fun heq => ?_⟩
  exact hend id .refl (.head' hc (heq ▸ hwalk))

end SetInnerHtml

/-- A page holds what its markup is read as. -/
theorem map_tree_children_parse (markup : String) :
    ((parse markup).children root).map (parse markup).tree = Tree.parse markup.toList := by
  have hwithin := (linked_parse markup).within_size ((ordered_parse markup).grounded root)
    (root_lt_parse markup)
  have hpage := tree_of_payload?_root (linked_parse markup) hwithin (payload?_root_parse markup)
  exact Tree.fragment.inj (hpage.symm.trans (tree_parse markup))

/-! ## 3. Reading into a node -/

/-- **Markup is read into an element as it is read as a page.** In any document, whatever the tag of the
    element is and wherever it stands: it then holds new nodes, which are the trees of the page that the
    markup is read as. What it held has no parent and is as it was, if there was an end to it. No other
    node that there was has changed what it is, its parent or its children. -/
theorem setInnerHtml_local (hdoc : doc.Linked) {id : Nat} (helement : doc.isElement id = true)
    (markup : String) :
    let after := doc.setInnerHtml id markup
    ((after.children id).map after.tree = ((parse markup).children root).map (parse markup).tree ∧
      ∃ tag attributes trees, doc.payload? id = some (.element tag attributes) ∧
        (parse markup).tree root = .fragment trees ∧
        after.tree id = .element tag attributes trees) ∧
    (∀ c ∈ after.children id, doc.size ≤ c) ∧
    (∀ c ∈ doc.children id, after.parent? c = none ∧
      (doc.Grounded id → after.tree c = doc.tree c)) ∧
    ∀ j < doc.size, after.payload? j = doc.payload? j ∧
      (j ≠ id → after.children j = doc.children j) ∧
      (j ∉ doc.children id → after.parent? j = doc.parent? j) := by
  intro after
  obtain ⟨tag, attributes, hpayload⟩ : ∃ tag attributes,
      doc.payload? id = some (.element tag attributes) := by
    unfold isElement tag? at helement
    split at helement
    · exact ⟨_, _, ‹_›⟩
    · cases helement
  have hid := lt_of_payload? hpayload
  obtain ⟨hnew, htrees⟩ := children_setInnerHtml hdoc hid markup
  refine ⟨⟨htrees.trans (map_tree_children_parse markup).symm, tag, attributes, _, hpayload,
    tree_parse markup, ?_⟩, hnew, fun c hc => ⟨?_, fun hend => ?_⟩, fun j hj => ?_⟩
  · rw [show after.tree id = _ from tree_setInnerHtml hdoc hid markup, hpayload]
    rfl
  · obtain ⟨_, _, hparent⟩ := old_setInnerHtml hdoc hid markup (hdoc.child_lt hc)
    exact hparent.trans (if_pos hc)
  · exact tree_of_taken_out hdoc hid markup hend hc
  · obtain ⟨hold, hchildren, hparent⟩ := old_setInnerHtml hdoc hid markup hj
    exact ⟨hold, hchildren, fun hc => hparent.trans (if_neg hc)⟩

/-- A paragraph in a section, with a text before it and a text in it. -/
def nook : Document := parse "<section>a<p>b<b>c</b></p></section>"

/-- Tags that would close the paragraph and the section close nothing in a fragment. -/
theorem setInnerHtml_local_of_nook :
    let after := nook.setInnerHtml 3 "x</p></section><i>y"
    (after.children 3).map after.tree = ((parse "x</p></section><i>y").children root).map
      (parse "x</p></section><i>y").tree ∧
    after.outerHtml 1 = "<section>a<p>x<i>y</i></p></section>" ∧
    after.parent? 5 = none ∧ after.tree 5 = nook.tree 5 ∧
    after.children 1 = nook.children 1 ∧ after.parent? 3 = some 1 := by
  intro after
  have hfacts : (nook.size, nook.children 3, nook.parent? 3) = (7, [4, 5], some 1) := by
    decide +kernel
  simp only [Prod.mk.injEq] at hfacts
  obtain ⟨hsize, hchildren, hparent⟩ := hfacts
  have hlinked : nook.Linked := linked_parse _
  have helement : nook.isElement 3 = true := by decide +kernel
  obtain ⟨⟨htrees, _⟩, _, hreleased, hothers⟩ :=
    setInnerHtml_local hlinked helement "x</p></section><i>y"
  obtain ⟨hnone, htree⟩ := hreleased 5 (by simp [hchildren])
  obtain ⟨_, hsection, _⟩ := hothers 1 (by omega)
  obtain ⟨_, _, hstill⟩ := hothers 3 (by omega)
  exact ⟨htrees, by decide +kernel, hnone, htree ((ordered_parse _).grounded 3),
    hsection (by decide), (hstill (by simp [hchildren])).trans hparent⟩

end Placeholders.Document
