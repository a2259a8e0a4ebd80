import Mathlib.Logic.Relation
import Mathlib.Data.List.Nodup
import Placeholders.Digraph.Basic

/-!
# The edges of a graph

What the changes of a graph do to its edges.

* `Edge` reads the edges off the links. Every edge has two links, one at each end; `Consistent` says
  that the two always come together and that no link stands twice.
* Adding and removing edges keeps a graph consistent, and each change has one lemma that says which
  edges there are afterwards.
* The order of the targets of a node is no part of that: removing an edge may change it at either end.
  `targets_perm_of_edge_iff` says that nothing but the order can change.
-/

namespace Placeholders.Digraph

/-! ## 1. Edges and links -/

/-- There is an edge from one node to another. -/
def Edge (g : Digraph) (a b : Nat) : Prop := b ∈ g.targets a

/-- No walk along edges comes back to where it started. -/
def Acyclic (g : Digraph) : Prop := ∀ a, ¬ Relation.TransGen g.Edge a a

/-- Every edge has a link at both ends, and no link stands twice. -/
structure Consistent (g : Digraph) : Prop where
  distinct : ∀ a, (g.linksOf a).Nodup
  mirrored : ∀ a b, ⟨b, true⟩ ∈ g.linksOf a ↔ ⟨a, false⟩ ∈ g.linksOf b

theorem edge_iff_mem_links {g : Digraph} {a b : Nat} : g.Edge a b ↔ ⟨b, true⟩ ∈ g.linksOf a := by
  unfold Edge targets
  constructor
  · intro h
    obtain ⟨⟨node, leaving⟩, hlink, rfl⟩ := List.mem_map.mp h
    obtain ⟨hmem, rfl⟩ := List.mem_filter.mp hlink
    exact hmem
  · intro h
    exact List.mem_map.mpr ⟨⟨b, true⟩, List.mem_filter.mpr ⟨h, rfl⟩, rfl⟩

theorem mem_sources_iff {g : Digraph} {a b : Nat} : a ∈ g.sources b ↔ ⟨a, false⟩ ∈ g.linksOf b := by
  unfold sources
  constructor
  · intro h
    obtain ⟨⟨node, leaving⟩, hlink, rfl⟩ := List.mem_map.mp h
    obtain ⟨hmem, hfalse⟩ := List.mem_filter.mp hlink
    obtain rfl : leaving = false := by simpa using hfalse
    exact hmem
  · intro h
    exact List.mem_map.mpr ⟨⟨a, false⟩, List.mem_filter.mpr ⟨h, rfl⟩, rfl⟩

theorem hasEdge_iff {g : Digraph} {a b : Nat} : g.hasEdge a b = true ↔ g.Edge a b := by
  simp [hasEdge, Edge]

/-- The sources of a node are the nodes that have an edge to it. -/
theorem Consistent.mem_sources {g : Digraph} (h : g.Consistent) {a b : Nat} :
    a ∈ g.sources b ↔ g.Edge a b := by
  rw [mem_sources_iff, edge_iff_mem_links, h.mirrored]

theorem Consistent.targets_nodup {g : Digraph} (h : g.Consistent) (a : Nat) :
    (g.targets a).Nodup := by
  unfold targets
  refine List.Nodup.map_on ?_ ((h.distinct a).filter _)
  rintro ⟨n, l⟩ hn ⟨m, k⟩ hm rfl
  have hl : l = true := (List.mem_filter.mp hn).2
  have hk : k = true := (List.mem_filter.mp hm).2
  rw [hl, hk]

theorem linksOf_eq_nil {g : Digraph} {a : Nat} (h : g.size ≤ a) : g.linksOf a = [] := by
  unfold linksOf
  rw [List.getElem?_eq_none h]
  rfl

theorem Edge.source_lt {g : Digraph} {a b : Nat} (h : g.Edge a b) : a < g.size := by
  refine Nat.lt_of_not_le fun hle => ?_
  rw [edge_iff_mem_links, linksOf_eq_nil hle] at h
  exact List.not_mem_nil h

theorem Consistent.target_lt {g : Digraph} (hg : g.Consistent) {a b : Nat} (h : g.Edge a b) :
    b < g.size := by
  refine Nat.lt_of_not_le fun hle => ?_
  rw [edge_iff_mem_links, hg.mirrored, linksOf_eq_nil hle] at h
  exact List.not_mem_nil h

/-- Where two graphs have the same edges at a node, its targets differ at most in their order. -/
theorem targets_perm_of_edge_iff {g k : Digraph} (hg : g.Consistent) (hk : k.Consistent) {a : Nat}
    (h : ∀ b, g.Edge a b ↔ k.Edge a b) : (g.targets a).Perm (k.targets a) :=
  (List.perm_ext_iff_of_nodup (hg.targets_nodup a) (hk.targets_nodup a)).mpr h

/-- A graph whose edges are all edges of an acyclic one is acyclic. -/
theorem Acyclic.mono {g k : Digraph} (hg : g.Acyclic) (h : ∀ a b, k.Edge a b → g.Edge a b) :
    k.Acyclic :=
  fun a hwalk => hg a (Relation.TransGen.mono h a a hwalk)

theorem Acyclic.irrefl {g : Digraph} (hg : g.Acyclic) (a : Nat) : ¬ g.Edge a a :=
  fun h => hg a (.single h)

/-! ## 2. Graphs without edges -/

theorem linksOf_discrete (n a : Nat) : (discrete n).linksOf a = [] := by
  unfold linksOf discrete
  rw [List.getElem?_replicate]
  split <;> rfl

theorem not_edge_discrete (n a b : Nat) : ¬ (discrete n).Edge a b := by
  rw [edge_iff_mem_links, linksOf_discrete]
  exact List.not_mem_nil

theorem consistent_discrete (n : Nat) : (discrete n).Consistent where
  distinct a := by rw [linksOf_discrete]; exact List.nodup_nil
  mirrored a b := by simp [linksOf_discrete]

theorem acyclic_discrete (n : Nat) : (discrete n).Acyclic := by
  intro a hwalk
  obtain ⟨b, hedge, _⟩ := Relation.TransGen.head'_iff.mp hwalk
  exact not_edge_discrete n a b hedge

/-! ## 3. Changes of links -/

theorem linksOf_modifyLinks (g : Digraph) (a c : Nat) (f : List Link → List Link) :
    (g.modifyLinks a f).linksOf c = if a = c ∧ c < g.size then f (g.linksOf c) else g.linksOf c := by
  unfold linksOf modifyLinks
  rw [List.getElem?_modify]
  by_cases hc : c < g.size
  · have hsome : g.links[c]? = some g.links[c] := List.getElem?_eq_getElem hc
    by_cases ha : a = c <;> simp [ha, hc, hsome]
  · have hnone : g.links[c]? = none := List.getElem?_eq_none (Nat.le_of_not_lt hc)
    simp [hc, hnone]

theorem mem_swapOut {α : Type} [DecidableEq α] {a b : α} {l : List α} (h : l.Nodup) :
    b ∈ swapOut a l ↔ b ∈ l ∧ b ≠ a := by
  rw [(swapOut_perm a l).mem_iff, h.mem_erase_iff]
  exact And.comm

theorem nodup_swapOut {α : Type} [DecidableEq α] (a : α) {l : List α} (h : l.Nodup) :
    (swapOut a l).Nodup :=
  (swapOut_perm a l).nodup_iff.mpr (h.erase a)

/-! ## 4. Adding edges -/

@[simp] theorem size_addEdge (g : Digraph) (a b : Nat) : (g.addEdge a b).size = g.size := by
  unfold addEdge
  split <;> simp

/-- The links of a node after a new edge has been added. -/
theorem linksOf_addEdge_of_not_edge {g : Digraph} {a b : Nat} (ha : a < g.size) (hb : b < g.size)
    (hnew : ¬ g.Edge a b) (c : Nat) :
    (g.addEdge a b).linksOf c =
      g.linksOf c ++ (if c = a then [⟨b, true⟩] else []) ++ (if c = b then [⟨a, false⟩] else []) := by
  have hno : g.hasEdge a b = false := Bool.eq_false_iff.mpr fun h => hnew (hasEdge_iff.mp h)
  unfold addEdge
  simp only [hno, Bool.false_eq_true, if_false, linksOf_modifyLinks, size_modifyLinks]
  by_cases hca : c = a
  · subst hca
    by_cases hcb : c = b
    · subst hcb
      simp [ha]
    · simp [ha, hcb, Ne.symm hcb]
  · by_cases hcb : c = b
    · subst hcb
      simp [hb, hca, Ne.symm hca]
    · simp [hca, hcb, Ne.symm hca, Ne.symm hcb]

theorem edge_addEdge {g : Digraph} {a b : Nat} (ha : a < g.size) (hb : b < g.size) (c d : Nat) :
    (g.addEdge a b).Edge c d ↔ g.Edge c d ∨ (c = a ∧ d = b) := by
  by_cases hedge : g.Edge a b
  · have hsame : g.addEdge a b = g := by
      unfold addEdge
      rw [if_pos (hasEdge_iff.mpr hedge)]
    rw [hsame]
    refine ⟨Or.inl, ?_⟩
    rintro (h | ⟨rfl, rfl⟩)
    · exact h
    · exact hedge
  · rw [edge_iff_mem_links, linksOf_addEdge_of_not_edge ha hb hedge, edge_iff_mem_links]
    by_cases hca : c = a <;> by_cases hcb : c = b <;> simp [hca, hcb]

theorem Consistent.addEdge {g : Digraph} (hg : g.Consistent) {a b : Nat} (ha : a < g.size)
    (hb : b < g.size) : (g.addEdge a b).Consistent := by
  by_cases hedge : g.Edge a b
  · unfold Digraph.addEdge
    rw [if_pos (hasEdge_iff.mpr hedge)]
    exact hg
  · have htrue : (⟨b, true⟩ : Link) ∉ g.linksOf a := fun h => hedge (edge_iff_mem_links.mpr h)
    have hfalse : (⟨a, false⟩ : Link) ∉ g.linksOf b := fun h => htrue ((hg.mirrored a b).mpr h)
    refine ⟨fun c => ?_, fun c d => ?_⟩
    · rw [linksOf_addEdge_of_not_edge ha hb hedge]
      by_cases hca : c = a
      · subst hca
        by_cases hcb : c = b
        · subst hcb
          simp [List.nodup_append, hg.distinct c]
          grind
        · simp [List.nodup_append, hg.distinct c, hcb]
          grind
      · by_cases hcb : c = b
        · subst hcb
          simp [List.nodup_append, hg.distinct c, hca]
          grind
        · simpa [hca, hcb] using hg.distinct c
    · rw [linksOf_addEdge_of_not_edge ha hb hedge, linksOf_addEdge_of_not_edge ha hb hedge]
      have hmirror := hg.mirrored c d
      by_cases hca : c = a <;> by_cases hdb : d = b <;> by_cases hcb : c = b <;>
        by_cases hda : d = a <;> simp_all

/-- A node, a list of others, and what holds of a graph while edges between them are added. -/
theorem addTargets_spec {g : Digraph} (hg : g.Consistent) {a : Nat} (ha : a < g.size)
    {bs : List Nat} (hbs : ∀ b ∈ bs, b < g.size) :
    (g.addTargets a bs).Consistent ∧ (g.addTargets a bs).size = g.size ∧
      ∀ c d, (g.addTargets a bs).Edge c d ↔ g.Edge c d ∨ (c = a ∧ d ∈ bs) := by
  induction bs generalizing g with
  | nil => exact ⟨hg, rfl, fun c d => by simp [addTargets]⟩
  | cons b bs ih =>
      have hb : b < g.size := hbs b List.mem_cons_self
      obtain ⟨hcons, hsize, hedge⟩ := ih (hg.addEdge ha hb) (by simpa using ha)
        (fun x hx => by simpa using hbs x (List.mem_cons_of_mem b hx))
      refine ⟨hcons, hsize.trans (size_addEdge g a b), fun c d => ?_⟩
      refine (hedge c d).trans ?_
      rw [edge_addEdge ha hb, List.mem_cons]
      tauto

/-! ## 5. Removing edges -/

@[simp] theorem size_removeEdge (g : Digraph) (a b : Nat) : (g.removeEdge a b).size = g.size := by
  simp [removeEdge]

theorem mem_linksOf_removeEdge {g : Digraph} (hg : g.Consistent) {a b c : Nat} {link : Link} :
    link ∈ (g.removeEdge a b).linksOf c ↔
      link ∈ g.linksOf c ∧ ¬ (c = a ∧ link = ⟨b, true⟩) ∧ ¬ (c = b ∧ link = ⟨a, false⟩) := by
  by_cases hc : c < g.size
  · have hnodup : ∀ k : Digraph, k = g.modifyLinks a (swapOut ⟨b, true⟩) → (k.linksOf c).Nodup := by
      rintro k rfl
      rw [linksOf_modifyLinks]
      split
      · exact nodup_swapOut _ (hg.distinct c)
      · exact hg.distinct c
    unfold removeEdge
    rw [linksOf_modifyLinks, size_modifyLinks]
    by_cases hcb : b = c
    · rw [if_pos ⟨hcb, hc⟩, mem_swapOut (hnodup _ rfl), linksOf_modifyLinks]
      by_cases hca : a = c
      · rw [if_pos ⟨hca, hc⟩, mem_swapOut (hg.distinct c)]
        grind
      · rw [if_neg (fun h => hca h.1)]
        grind
    · rw [if_neg (fun h => hcb h.1), linksOf_modifyLinks]
      by_cases hca : a = c
      · rw [if_pos ⟨hca, hc⟩, mem_swapOut (hg.distinct c)]
        grind
      · rw [if_neg (fun h => hca h.1)]
        grind
  · have hnil : g.linksOf c = [] := linksOf_eq_nil (Nat.le_of_not_lt hc)
    have hnil' : (g.removeEdge a b).linksOf c = [] :=
      linksOf_eq_nil (by rw [size_removeEdge]; exact Nat.le_of_not_lt hc)
    simp [hnil, hnil']

theorem Consistent.removeEdge {g : Digraph} (hg : g.Consistent) (a b : Nat) :
    (g.removeEdge a b).Consistent where
  distinct c := by
    unfold Digraph.removeEdge
    rw [linksOf_modifyLinks, linksOf_modifyLinks]
    split <;> split
    · exact nodup_swapOut _ (nodup_swapOut _ (hg.distinct c))
    · exact nodup_swapOut _ (hg.distinct c)
    · exact nodup_swapOut _ (hg.distinct c)
    · exact hg.distinct c
  mirrored c d := by
    rw [mem_linksOf_removeEdge hg, mem_linksOf_removeEdge hg, hg.mirrored c d]
    simp
    tauto

theorem edge_removeEdge {g : Digraph} (hg : g.Consistent) (a b c d : Nat) :
    (g.removeEdge a b).Edge c d ↔ g.Edge c d ∧ ¬ (c = a ∧ d = b) := by
  rw [edge_iff_mem_links, mem_linksOf_removeEdge hg, edge_iff_mem_links]
  simp

/-- What holds of a graph while edges that leave a node are removed. -/
theorem foldl_removeEdge_spec {g : Digraph} (hg : g.Consistent) (a : Nat) (bs : List Nat) :
    let cleared := bs.foldl (fun g b => g.removeEdge a b) g
    cleared.Consistent ∧ cleared.size = g.size ∧
      ∀ c d, cleared.Edge c d ↔ g.Edge c d ∧ ¬ (c = a ∧ d ∈ bs) := by
  induction bs generalizing g with
  | nil => exact ⟨hg, rfl, fun c d => by simp⟩
  | cons b bs ih =>
      obtain ⟨hcons, hsize, hedge⟩ := ih (hg.removeEdge a b)
      refine ⟨hcons, hsize.trans (size_removeEdge g a b), fun c d => ?_⟩
      refine (hedge c d).trans ?_
      rw [edge_removeEdge hg, List.mem_cons]
      tauto

theorem Consistent.clearTargets {g : Digraph} (hg : g.Consistent) (a : Nat) :
    (g.clearTargets a).Consistent :=
  (foldl_removeEdge_spec hg a (g.targets a)).1

theorem size_clearTargets {g : Digraph} (hg : g.Consistent) (a : Nat) :
    (g.clearTargets a).size = g.size :=
  (foldl_removeEdge_spec hg a (g.targets a)).2.1

/-- **Clearing the targets of a node leaves the edges of all other nodes, and no others.** -/
theorem edge_clearTargets {g : Digraph} (hg : g.Consistent) (a c d : Nat) :
    (g.clearTargets a).Edge c d ↔ g.Edge c d ∧ c ≠ a := by
  refine ((foldl_removeEdge_spec hg a (g.targets a)).2.2 c d).trans ?_
  refine and_congr_right fun hedge => not_congr ⟨And.left, ?_⟩
  rintro rfl
  exact ⟨rfl, hedge⟩

end Placeholders.Digraph
