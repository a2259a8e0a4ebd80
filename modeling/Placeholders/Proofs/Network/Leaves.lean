import Placeholders.Proofs.Network.References

/-!
# Placeholders that may not refer to others

Values and the permission to refer to others are written one after the other, and every change is followed.

* A scan passes over a placeholder that may not refer to others, so that it has the edges then that it had
  before (`edge_rescan_of_not_mayRefer`).
* When a network is built, such a placeholder has none. It has the edges of another time only if the
  permission has been taken from it: then they are those that it had when it still had the permission
  (`edge_editAll_cases`).
* What it shows is up to date nevertheless: it is what these edges give.

So a placeholder may have edges and expand them although it may not refer to others (`edge_of_forbidden`).
-/

namespace Placeholders

/-- What is written into a placeholder: a raw value, or whether it may refer to others. -/
inductive Writing where
  | value (value : String)
  | recursion (allowed : Bool)
  deriving DecidableEq

/-- The placeholder with this written into it. -/
def Placeholder.written (p : Placeholder) : Writing → Placeholder
  | .value value => { p with currentValue := value }
  | .recursion allowed => { p with allowRecursive := allowed }

theorem Placeholder.name_written (p : Placeholder) (w : Writing) : (p.written w).name = p.name := by
  cases w <;> rfl

/-- Only writing the permission takes it away. -/
theorem Placeholder.eq_recursion_of_written {p : Placeholder} {w : Writing} (hp : p.allowRecursive = true)
    (hw : (p.written w).allowRecursive = false) : w = .recursion false := by
  cases w with
  | value value => exact absurd (hp.symm.trans hw) (by decide)
  | recursion allowed => exact congrArg Writing.recursion hw

namespace Network

/-! ## 1. Scans -/

/-- The placeholder at a position may refer to others. -/
def MayRefer (net : Network) (i : Nat) : Prop := ∃ p, net.at? i = some p ∧ p.allowRecursive = true

theorem not_mayRefer_of_at? {net : Network} {i : Nat} {p : Placeholder} (hp : net.at? i = some p)
    (hleaf : p.allowRecursive = false) : ¬ net.MayRefer i := by
  intro ⟨q, hq, hrecursive⟩
  obtain rfl := Option.some.inj (hp.symm.trans hq)
  exact absurd (hrecursive.symm.trans hleaf) (by decide)

/-- Expanded values do not matter for the permission. -/
theorem mayRefer_of_alikeTo {net other : Network} (h : net.registry.AlikeTo other.registry) (i : Nat) :
    other.MayRefer i ↔ net.MayRefer i := by
  have hone : ∀ {one two : Network}, one.registry.AlikeTo two.registry → two.MayRefer i →
      one.MayRefer i := by
    intro one two halike ⟨p, hp, hrecursive⟩
    obtain ⟨q, hq, hraw⟩ := halike.exists_at hp
    exact ⟨q, hq, (congrArg Placeholder.allowRecursive hraw).trans hrecursive⟩
  exact ⟨hone h, hone h.symm⟩

/-- **No scan changes the edges of what may not refer to others**, be it of this position or another. -/
theorem edge_rescan_of_not_mayRefer {net : Network} (hnet : net.Regular) {i : Nat}
    (hi : i < net.graph.size) {k : Nat} (hk : ¬ net.MayRefer k) (j : Nat) :
    (net.rescan i).2.graph.Edge k j ↔ net.graph.Edge k j := by
  by_cases hki : k = i
  · subst hki
    have hscan : net.scan k = net := scan_of_not_recursive fun p hp =>
      Bool.eq_false_iff.mpr fun hrecursive => hk ⟨p, hp, hrecursive⟩
    have hcycle : (net.scan k).cycle? = none := by
      rw [hscan]
      exact (Digraph.cycle?_eq_none_iff hnet.leads_lt).mpr hnet.acyclic
    rw [rescan_of_none hcycle, hscan]
  · exact (regular_rescan hnet hi).2.2.2 k j hki

theorem edge_scanAll_of_not_mayRefer {net : Network} (hnet : net.Regular) {l : List Nat}
    (hl : ∀ i ∈ l, i < net.graph.size) {k : Nat} (hk : ¬ net.MayRefer k) (j : Nat) :
    (net.scanAll l).1.graph.Edge k j ↔ net.graph.Edge k j := by
  induction l generalizing net with
  | nil => exact Iff.rfl
  | cons i l ih =>
      obtain ⟨hi, hrest⟩ := List.forall_mem_cons.mp hl
      obtain ⟨hregular, hsize, halike, _⟩ := regular_rescan hnet hi
      refine (ih hregular (hsize ▸ hrest) (mt (mayRefer_of_alikeTo halike k).mp hk)).trans ?_
      exact edge_rescan_of_not_mayRefer hnet hi hk j

/-- **When a network has been built, what may not refer to others has no edges.** -/
theorem not_edge_build {r : Registry} {i : Nat} (hi : ¬ (build r).1.MayRefer i) (j : Nat) :
    ¬ (build r).1.graph.Edge i j := by
  let blank : Network := ⟨r, .discrete r.size⟩
  have hblank : ¬ blank.MayRefer i := mt (mayRefer_of_alikeTo (regular_build r).2 i).mpr hi
  obtain ⟨order, _, heq⟩ := build_eq r
  rw [heq, graph_foldl_recomputeAt]
  refine mt (edge_scanAll_of_not_mayRefer (regular_discrete r) (fun k hk => ?_) hblank j).mp ?_
  · simpa using hk
  · exact Digraph.not_edge_discrete r.size i j

/-! ## 2. Steps -/

/-- Something is written into the placeholder of a name, and the change is followed. -/
def edit (net : Network) (name : String) (w : Writing) : Network := net.amend name (·.written w)

/-- Several edits. -/
def editAll (net : Network) (edits : List (String × Writing)) : Network :=
  edits.foldl (fun net edit => net.edit edit.1 edit.2) net

theorem regular_edit {net : Network} (hnet : net.Regular) (name : String) (w : Writing) :
    (net.edit name w).Regular ∧ (net.edit name w).registry.names = net.registry.names := by
  cases hindex : net.registry.indexOf? name with
  | none =>
      have hsame : net.edit name w = net := amend_of_unknown hindex _
      rw [hsame]
      exact ⟨hnet, rfl⟩
  | some i =>
      obtain ⟨hregular, _, hnames, _, _⟩ :=
        modify_spec hnet hindex (f := (·.written w)) fun p => p.name_written w
      obtain ⟨hafter, halike⟩ := regular_valueChanged hregular name
      exact ⟨hafter, halike.names_eq.trans hnames⟩

/-- **What may not refer to others after an edit has the edges that it had before.** If it had the permission
    then, the edit has taken it away. -/
theorem edge_edit_of_not_mayRefer {net : Network} (hnet : net.Regular) {name : String} {w : Writing} {i : Nat}
    (hi : ¬ (net.edit name w).MayRefer i) :
    (net.MayRefer i → name = net.nameAt i ∧ w = .recursion false) ∧
      ∀ j, (net.edit name w).graph.Edge i j ↔ net.graph.Edge i j := by
  cases hindex : net.registry.indexOf? name with
  | none =>
      have hsame : net.edit name w = net := amend_of_unknown hindex _
      rw [hsame] at hi ⊢
      exact ⟨fun h => absurd h hi, fun _ => Iff.rfl⟩
  | some k =>
      obtain ⟨hregular, hposition, _, hself, hat⟩ :=
        modify_spec hnet hindex (f := (·.written w)) fun p => p.name_written w
      have halike := (regular_valueChanged hregular name).2
      have hbefore := mt (mayRefer_of_alikeTo halike i).mpr hi
      refine ⟨fun ⟨p, hp, hrecursive⟩ => ?_, fun j => ?_⟩
      · by_cases hik : i = k
        · subst hik
          obtain ⟨q, hq, hname⟩ := exists_at_position (position_eq_ok_iff.mpr hindex)
          obtain rfl := Option.some.inj (hp.symm.trans hq)
          rw [hp] at hself
          refine ⟨hname.symm.trans (nameAt_eq hp).symm, Placeholder.eq_recursion_of_written hrecursive ?_⟩
          exact Bool.eq_false_iff.mpr fun h => hbefore ⟨_, hself, h⟩
        · exact absurd ⟨p, (hat i hik).trans hp, hrecursive⟩ hbefore
      · have hgraph : (net.edit name w).graph = _ := (valueChanged_spec hregular hposition).1
        rw [hgraph]
        exact edge_rescan_of_not_mayRefer hregular (hregular.size_eq ▸ position_lt hposition) hbefore j

/-! ## 3. Runs -/

/-- At no time of a run may the placeholder at a position refer to others. -/
def LeafThroughout (net : Network) (i : Nat) (edits : List (String × Writing)) : Prop :=
  ∀ n ≤ edits.length, ¬ (net.editAll (edits.take n)).MayRefer i

theorem leafThroughout_cons {net : Network} {i : Nat} {edit : String × Writing}
    {edits : List (String × Writing)} : net.LeafThroughout i (edit :: edits) ↔
      ¬ net.MayRefer i ∧ (net.edit edit.1 edit.2).LeafThroughout i edits := by
  constructor
  · intro h
    exact ⟨h 0 (Nat.zero_le _), fun n hn => h (n + 1) (Nat.succ_le_succ hn)⟩
  · intro ⟨hnow, hlater⟩ n hn
    cases n with
    | zero => exact hnow
    | succ n => exact hlater n (Nat.le_of_succ_le_succ hn)

/-- **Where edges come from that a placeholder must not have**: it has had no permission since the start and
    has the edges that it had then, or the permission was taken from it and it has those that it had
    before that. -/
theorem edge_editAll_cases {net : Network} (hnet : net.Regular) {edits : List (String × Writing)} {i : Nat}
    (hi : ¬ (net.editAll edits).MayRefer i) :
    (net.LeafThroughout i edits ∧ ∀ j, (net.editAll edits).graph.Edge i j ↔ net.graph.Edge i j) ∨
    ∃ before after, edits = before ++ (net.nameAt i, .recursion false) :: after ∧
      (net.editAll before).MayRefer i ∧
      (net.editAll (before ++ [(net.nameAt i, .recursion false)])).LeafThroughout i after ∧
      ∀ j, (net.editAll edits).graph.Edge i j ↔ (net.editAll before).graph.Edge i j := by
  induction edits generalizing net with
  | nil => exact .inl ⟨fun n _ => by simpa using hi, fun _ => Iff.rfl⟩
  | cons edit edits ih =>
      obtain ⟨name, w⟩ := edit
      obtain ⟨hregular, hnames⟩ := regular_edit hnet name w
      have hname : (net.edit name w).nameAt i = net.nameAt i := nameAt_congr hnames i
      rcases ih hregular hi with ⟨hleaf, hedges⟩ | ⟨before, after, hsplit, hmay, hleaf, hedges⟩
      · obtain ⟨htaken, hstep⟩ := edge_edit_of_not_mayRefer hnet (hleaf 0 (Nat.zero_le _))
        by_cases hmay : net.MayRefer i
        · obtain ⟨rfl, rfl⟩ := htaken hmay
          exact .inr ⟨[], edits, rfl, hmay, hleaf, fun j => (hedges j).trans (hstep j)⟩
        · exact .inl ⟨leafThroughout_cons.mpr ⟨hmay, hleaf⟩, fun j => (hedges j).trans (hstep j)⟩
      · rw [hname] at hsplit hleaf
        exact .inr ⟨(name, w) :: before, after, congrArg _ hsplit, hmay, hleaf, hedges⟩

/-- Edits keep a network regular and up to date, and change no name. -/
theorem editAll_spec {net : Network} (hnet : net.Regular) (hup : ∀ i, net.UpToDate i)
    (edits : List (String × Writing)) : (net.editAll edits).Regular ∧ (∀ i, (net.editAll edits).UpToDate i) ∧
      (net.editAll edits).registry.names = net.registry.names := by
  induction edits generalizing net with
  | nil => exact ⟨hnet, hup, rfl⟩
  | cons edit edits ih =>
      obtain ⟨hregular, hnames⟩ := regular_edit hnet edit.1 edit.2
      have hup' := (upToDate_amend hnet hup edit.1 fun p => p.name_written edit.2).2
      obtain ⟨hlast, huplast, hnameslast⟩ := ih hregular hup'
      exact ⟨hlast, huplast, hnameslast.trans hnames⟩

/-- What has no edges shows its raw value, if it is up to date. -/
theorem UpToDate.expandedValue_eq {net : Network} {i : Nat} (h : net.UpToDate i) {p : Placeholder}
    (hp : net.at? i = some p) (hnone : ∀ j, ¬ net.graph.Edge i j) : p.expandedValue = p.currentValue := by
  obtain ⟨js, hperm, heq⟩ := h p hp
  have hjs : js = [] := List.eq_nil_iff_forall_not_mem.mpr fun j hj => hnone j (hperm.mem_iff.mp hj)
  rw [heq, hjs]
  exact Reference.expand_nil _

/-- **What a placeholder that may not refer to others refers to all the same.** It shows what its edges give,
    in some order. It has none, and shows its raw value, as long as it has had no permission since the network
    was built. Otherwise the permission has been taken from it at some time; it has the edges that it had
    before that, and shows its raw value if there were none. -/
theorem edge_of_leaf (r : Registry) (edits : List (String × Writing)) {i : Nat} {p : Placeholder}
    (hp : ((build r).1.editAll edits).at? i = some p) (hleaf : p.allowRecursive = false) :
    let net := (build r).1.editAll edits
    (∃ js : List Nat, js.Perm (net.graph.targets i) ∧
      p.expandedValue = Reference.expand (js.filterMap net.at?) p.currentValue) ∧
    ((build r).1.LeafThroughout i edits ∧ (∀ j, ¬ net.graph.Edge i j) ∧ p.expandedValue = p.currentValue ∨
      ∃ before after, edits = before ++ (p.name, .recursion false) :: after ∧
        ((build r).1.editAll before).MayRefer i ∧
        ((build r).1.editAll (before ++ [(p.name, .recursion false)])).LeafThroughout i after ∧
        (∀ j, net.graph.Edge i j ↔ ((build r).1.editAll before).graph.Edge i j) ∧
        ((∀ j, ¬ ((build r).1.editAll before).graph.Edge i j) → p.expandedValue = p.currentValue)) := by
  intro net
  have hbuilt := (regular_build r).1
  obtain ⟨_, hup, hnames⟩ := editAll_spec hbuilt (upToDate_build r) edits
  have hname : (build r).1.nameAt i = p.name := (nameAt_congr hnames i).symm.trans (nameAt_eq hp)
  refine ⟨hup i p hp, ?_⟩
  rcases edge_editAll_cases hbuilt (not_mayRefer_of_at? hp hleaf) with
    ⟨hthroughout, hedges⟩ | ⟨before, after, hsplit, hmay, hthroughout, hedges⟩
  · have hnone : ∀ j, ¬ net.graph.Edge i j := fun j hedge =>
      not_edge_build (hthroughout 0 (Nat.zero_le _)) j ((hedges j).mp hedge)
    exact .inl ⟨hthroughout, hnone, (hup i).expandedValue_eq hp hnone⟩
  · rw [hname] at hsplit hthroughout
    refine .inr ⟨before, after, hsplit, hmay, hthroughout, hedges, fun hnone => ?_⟩
    exact (hup i).expandedValue_eq hp fun j hedge => hnone j ((hedges j).mp hedge)

theorem edge_of_leaf_of_looped :
    let net := (build looped).1.editAll [("A", .recursion false), ("B", .value "c")]
    ∃ p, net.at? 0 = some p ∧ p.allowRecursive = false ∧ p.expandedValue = "a(c)" ∧
      (∃ js : List Nat, js.Perm (net.graph.targets 0) ∧
        p.expandedValue = Reference.expand (js.filterMap net.at?) p.currentValue) := by
  intro net
  have hsaid : (net.at? 0).map (fun p => (p.allowRecursive, p.expandedValue)) = some (false, "a(c)") := by
    decide +kernel
  obtain ⟨p, hp, hpair⟩ := Option.map_eq_some_iff.mp hsaid
  obtain ⟨hleaf, hshown⟩ := Prod.mk.inj hpair
  exact ⟨p, hp, hleaf, hshown,
    (edge_of_leaf looped [("A", .recursion false), ("B", .value "c")] hp hleaf).1⟩

/-- **A placeholder that may not refer to others can have an edge**, and show what it refers to: its
    references were found when it still had the permission. -/
theorem edge_of_forbidden :
    ¬ ∀ (r : Registry) (edits : List (String × Writing)) (i : Nat) (p : Placeholder),
      ((build r).1.editAll edits).at? i = some p → p.allowRecursive = false →
        (∀ j, ¬ ((build r).1.editAll edits).graph.Edge i j) ∧ p.expandedValue = p.currentValue := by
  intro hall
  have hsaid : (((build looped).1.editAll [("A", .recursion false)]).at? 0).map (fun p =>
      (p.allowRecursive, p.currentValue, p.expandedValue)) = some (false, "a(xBx)", "a(b)") := by
    decide +kernel
  obtain ⟨p, hp, hpair⟩ := Option.map_eq_some_iff.mp hsaid
  simp only [Prod.mk.injEq] at hpair
  obtain ⟨hleaf, hraw, hshown⟩ := hpair
  have hequal := (hall looped [("A", .recursion false)] 0 p hp hleaf).2
  rw [hraw, hshown] at hequal
  exact absurd hequal (by decide)

end Network

end Placeholders
