import Mathlib.Logic.Relation
import Placeholders.Proofs.Document.Links

/-!
# What is below a node

* A node is `Grounded` if no walk down from it comes back to a node. Only then is there an end to what is
  below it.
* A walk down from a grounded node meets no node twice, so that it is no longer than there are nodes:
  `within_size`. The bounds on the depth of `descendantsTo`, `treeTo` and their like therefore cut
  nothing off.
* The markup of a node is made of that of its children (`tree_eq`), and its text of theirs
  (`toList_textContent`).
* Whatever is below two nodes puts one of them below the other (`below_total`).
-/

namespace Placeholders.Document

open Markup Relation

variable {doc : Document}

/-! ## 1. Walks down -/

/-- A node is a child of another. -/
def Child (doc : Document) (p c : Nat) : Prop := c ∈ doc.children p

/-- No walk down from a node comes back to where it has been. -/
def Grounded (doc : Document) (root : Nat) : Prop :=
  ∀ id, ReflTransGen doc.Child root id → ¬ TransGen doc.Child id id

theorem Grounded.of_child {root c : Nat} (h : doc.Grounded root) (hc : c ∈ doc.children root) :
    doc.Grounded c :=
  fun id hid => h id (.head hc hid)

theorem Linked.lt_of_walk (h : doc.Linked) {a b : Nat} (ha : a < doc.size)
    (hwalk : ReflTransGen doc.Child a b) : b < doc.size := by
  induction hwalk with
  | refl => exact ha
  | tail _ hchild _ => exact h.child_lt hchild

/-- **A node that is below two others puts one of these below the other**, because parents are unique. -/
theorem Linked.below_total (h : doc.Linked) {a b id : Nat} (ha : ReflTransGen doc.Child a id)
    (hb : ReflTransGen doc.Child b id) :
    ReflTransGen doc.Child a b ∨ ReflTransGen doc.Child b a := by
  have hunique : Relator.RightUnique (Function.swap doc.Child) := fun _ _ _ hp hq =>
    h.parent_unique hp hq
  have htotal := ReflTransGen.total_of_right_unique hunique (reflTransGen_swap.mpr ha)
    (reflTransGen_swap.mpr hb)
  exact htotal.symm.imp reflTransGen_swap.mp reflTransGen_swap.mp

/-- Different children of a grounded node have nothing below them in common. -/
theorem Linked.children_apart (h : doc.Linked) {root a b id : Nat} (hroot : doc.Grounded root)
    (ha : a ∈ doc.children root) (hb : b ∈ doc.children root) (hida : ReflTransGen doc.Child a id)
    (hidb : ReflTransGen doc.Child b id) : a = b := by
  have hapart : ∀ x y, x ∈ doc.children root → y ∈ doc.children root →
      ReflTransGen doc.Child x y → x = y := by
    intro x y hx hy hwalk
    rcases ReflTransGen.cases_tail hwalk with heq | ⟨p, hxp, hpy⟩
    · exact heq.symm
    · obtain rfl := h.parent_unique hpy hy
      exact absurd (TransGen.head' hx hxp) (hroot p .refl)
  rcases h.below_total hida hidb with hab | hba
  · exact hapart a b ha hb hab
  · exact (hapart b a hb ha hba).symm

/-! ## 2. Depth -/

/-- No walk down from a node has more than so many nodes. -/
inductive Within (doc : Document) : Nat → Nat → Prop where
  | intro {k id : Nat} (h : ∀ c ∈ doc.children id, Within doc k c) : Within doc (k + 1) id

theorem Within.child {k id c : Nat} (h : doc.Within (k + 1) id) (hc : c ∈ doc.children id) :
    doc.Within k c := by
  cases h with
  | intro h => exact h c hc

theorem Within.mono {k m id : Nat} (h : doc.Within k id) (hle : k ≤ m) : doc.Within m id := by
  induction h generalizing m with
  | @intro k id _ ih =>
      obtain ⟨n, rfl⟩ : ∃ n, m = n + 1 := ⟨m - 1, by omega⟩
      exact .intro fun c hc => ih c hc (by omega)

/-- Where walks come to an end, none comes back. -/
theorem Within.not_back {k id : Nat} (h : doc.Within k id) : ¬ TransGen doc.Child id id := by
  induction h with
  | @intro k id _ ih =>
      intro hwalk
      obtain ⟨c, hc, hrest⟩ := TransGen.head'_iff.mp hwalk
      exact ih c hc (TransGen.tail' hrest hc)

theorem Within.of_walk {k root id : Nat} (h : doc.Within k root)
    (hwalk : ReflTransGen doc.Child root id) : ∃ m, doc.Within m id := by
  induction hwalk with
  | refl => exact ⟨k, h⟩
  | tail _ hchild ih =>
      obtain ⟨m, hm⟩ := ih
      cases hm with
      | intro hm => exact ⟨_, hm _ hchild⟩

theorem Within.grounded {k root : Nat} (h : doc.Within k root) : doc.Grounded root :=
  fun _ hwalk => (h.of_walk hwalk).elim fun _ hm => hm.not_back

/-- The nodes that a walk has met so far leave room for the rest of it. The induction is on the number of
    nodes that it has not met. -/
theorem Linked.within_of_trail (h : doc.Linked) {root : Nat} (hroot : doc.Grounded root)
    {room id : Nat} {trail : List Nat} (hnodup : (id :: trail).Nodup)
    (hbounded : ∀ x ∈ id :: trail, x < doc.size) (hwalk : ReflTransGen doc.Child root id)
    (htrail : ∀ x ∈ id :: trail, ReflTransGen doc.Child x id)
    (hroom : (id :: trail).length + room = doc.size) : doc.Within (room + 1) id := by
  induction room generalizing id trail with
  | zero =>
      refine .intro fun c hc => ?_
      have hnew : c ∉ id :: trail := fun hmem =>
        hroot id hwalk (TransGen.head' hc (htrail c hmem))
      have hmore : (c :: id :: trail).length ≤ (List.range doc.size).length :=
        (List.nodup_cons.mpr ⟨hnew, hnodup⟩).length_le_of_subset fun x hx => by
          rcases List.mem_cons.mp hx with rfl | hx
          · exact List.mem_range.mpr (h.child_lt hc)
          · exact List.mem_range.mpr (hbounded x hx)
      simp only [List.length_cons, List.length_range] at hmore hroom
      omega
  | succ room ih =>
      refine .intro fun c hc => ?_
      have hnew : c ∉ id :: trail := fun hmem =>
        hroot id hwalk (TransGen.head' hc (htrail c hmem))
      refine ih (List.nodup_cons.mpr ⟨hnew, hnodup⟩) ?_ (hwalk.tail hc) ?_ ?_
      · exact List.forall_mem_cons.mpr ⟨h.child_lt hc, hbounded⟩
      · exact List.forall_mem_cons.mpr ⟨.refl, fun x hx => (htrail x hx).tail hc⟩
      · simp only [List.length_cons] at hroom ⊢
        omega

/-- **A walk down from a grounded node is no longer than there are nodes.** -/
theorem Linked.within_size (h : doc.Linked) {root : Nat} (hroot : doc.Grounded root)
    (hlt : root < doc.size) : doc.Within doc.size root := by
  obtain ⟨room, hroom⟩ : ∃ room, doc.size = room + 1 := ⟨doc.size - 1, by omega⟩
  rw [hroom]
  refine h.within_of_trail hroot (List.nodup_singleton root) ?_ .refl ?_ ?_
  · exact fun x hx => (List.mem_singleton.mp hx) ▸ hlt
  · exact fun x hx => (List.mem_singleton.mp hx) ▸ .refl
  · simp only [List.length_cons, List.length_nil]
    omega

/-! ## 3. Lists and trees -/

/-- The markup of a node does not depend on a bound that leaves room enough. -/
theorem Within.treeTo_eq {k m id : Nat} (h : doc.Within k id) (hle : k ≤ m) :
    doc.treeTo m id = doc.treeTo k id := by
  induction h generalizing m with
  | @intro k id _ ih =>
      obtain ⟨n, rfl⟩ : ∃ n, m = n + 1 := ⟨m - 1, by omega⟩
      have hchildren : (doc.children id).map (doc.treeTo n) = (doc.children id).map (doc.treeTo k) :=
        List.map_congr_left fun c hc => ih c hc (by omega)
      simp only [treeTo, hchildren]

/-- The markup of a node with some markup in it. -/
def treeOver : Option Payload → List Tree → Tree
  | some (.doctype declaration), _ => .doctype declaration
  | some (.comment body), _ => .comment body
  | some (.text content), _ => .text content
  | some (.element tag attributes), trees => .element tag attributes trees
  | some .root, trees => .fragment trees
  | none, _ => .fragment []

theorem treeTo_succ (doc : Document) (k id : Nat) :
    doc.treeTo (k + 1) id = treeOver (doc.payload? id) ((doc.children id).map (doc.treeTo k)) := by
  rw [treeTo]
  rcases doc.payload? id with _ | payload
  · rfl
  · cases payload <;> rfl

/-- **The markup of a node is made of that of its children**, unless there is no end to it. -/
theorem Linked.tree_eq (h : doc.Linked) {k id : Nat} (hid : doc.Within k id) :
    doc.tree id = treeOver (doc.payload? id) ((doc.children id).map doc.tree) := by
  by_cases hlt : id < doc.size
  · have hwithin := h.within_size hid.grounded hlt
    obtain ⟨n, hn⟩ : ∃ n, doc.size = n + 1 := ⟨doc.size - 1, by omega⟩
    rw [hn] at hwithin
    have hchildren : (doc.children id).map doc.tree = (doc.children id).map (doc.treeTo n) :=
      List.map_congr_left fun c hc => by
        rw [tree, hn]
        exact (hwithin.child hc).treeTo_eq (Nat.le_succ n)
    rw [hchildren, ← treeTo_succ, tree, hn]
  · have hnone : doc.payload? id = none := payload?_eq_none (Nat.not_lt.mp hlt)
    rw [hnone, tree]
    cases doc.size with
    | zero => rfl
    | succ n =>
        rw [treeTo_succ, hnone]
        rfl

theorem mem_of_mem_descendantsTo {k root id : Nat} (h : id ∈ doc.descendantsTo k root) :
    TransGen doc.Child root id := by
  induction k generalizing root with
  | zero => exact absurd h List.not_mem_nil
  | succ k ih =>
      obtain ⟨c, hc, hid⟩ := List.mem_flatMap.mp h
      rcases List.mem_cons.mp hid with rfl | hid
      · exact .single hc
      · exact .head hc (ih hid)

/-- What a walk down leads to is listed. -/
theorem Within.mem_descendantsTo {k root id : Nat} (h : doc.Within k root) :
    id ∈ doc.descendantsTo k root ↔ TransGen doc.Child root id := by
  refine ⟨mem_of_mem_descendantsTo, fun hwalk => ?_⟩
  induction h with
  | @intro k root _ ih =>
      obtain ⟨c, hc, hrest⟩ := TransGen.head'_iff.mp hwalk
      refine List.mem_flatMap.mpr ⟨c, hc, ?_⟩
      rcases reflTransGen_iff_eq_or_transGen.mp hrest with rfl | hrest
      · exact List.mem_cons_self
      · exact List.mem_cons_of_mem c (ih c hc hrest)

/-! ## 4. Texts -/

/-- What is below a node does not depend on a bound that leaves room enough. -/
theorem Within.descendantsTo_eq {k m id : Nat} (h : doc.Within k id) (hle : k ≤ m) :
    doc.descendantsTo m id = doc.descendantsTo k id := by
  induction h generalizing m with
  | @intro k id _ ih =>
      obtain ⟨n, rfl⟩ : ∃ n, m = n + 1 := ⟨m - 1, by omega⟩
      rw [descendantsTo, descendantsTo]
      exact List.flatMap_congr fun c hc => by rw [ih c hc (by omega)]

/-- The text of a text is its content. -/
theorem textContent_of_text? {id : Nat} {content : String} (h : doc.text? id = some content) :
    doc.textContent id = content := by
  rw [textContent, h, Option.getD_some]

theorem toList_textContent_of_text?_eq_none {id : Nat} (h : doc.text? id = none) :
    (doc.textContent id).toList =
      ((doc.descendants id).filterMap doc.text?).flatMap String.toList := by
  rw [textContent, h, Option.getD_none, String.toList_join]

/-- **The text of a node is that of its children**, if nothing is in a text. -/
theorem Linked.toList_textContent (h : doc.Linked) {k id : Nat} (hid : doc.Within k id)
    (hlt : id < doc.size) (htext : doc.text? id = none)
    (hleaves : ∀ c ∈ doc.children id, doc.text? c ≠ none → doc.children c = []) :
    (doc.textContent id).toList =
      (doc.children id).flatMap fun c => (doc.textContent c).toList := by
  have hwithin := h.within_size hid.grounded hlt
  obtain ⟨n, hn⟩ : ∃ n, doc.size = n + 1 := ⟨doc.size - 1, by omega⟩
  rw [hn] at hwithin
  rw [toList_textContent_of_text?_eq_none htext, descendants, hn, descendantsTo,
    List.filterMap_flatMap, List.flatMap_assoc]
  refine List.flatMap_congr fun c hc => ?_
  have hbelow : doc.descendantsTo n c = doc.descendants c := by
    rw [descendants, hn]
    exact ((hwithin.child hc).descendantsTo_eq (Nat.le_succ n)).symm
  rw [hbelow]
  cases hcontent : doc.text? c with
  | none => rw [List.filterMap_cons_none hcontent, toList_textContent_of_text?_eq_none hcontent]
  | some content =>
      have hnone : doc.descendants c = [] := by
        rw [descendants, hn, descendantsTo, hleaves c hc (by simp [hcontent]), List.flatMap_nil]
      rw [hnone, textContent_of_text? hcontent, List.filterMap_cons_some hcontent]
      simp

end Placeholders.Document
