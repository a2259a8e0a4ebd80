import Placeholders.Proofs.Network.Rebuild
import Placeholders.Proofs.Text.Cutting
import Placeholders.Proofs.Unshared

/-!
# Strands of expanded values

What a replacement brings in is not looked at again, so that a token may come about where replaced text
meets the text around it. That is the only place for one.

* The strands of a placeholder are the stretches of its raw value between the tokens that are replaced,
  and in the place of each token the strands of what it stands for. `Registry.strands` reads them off the
  raw values; it knows nothing of graph and expanded values.
* `expandedValue_eq_flatten_strands`: if building has closed no cycle, an expanded value is its strands
  one after the other, and no token of any placeholder is in a strand.
* A token of another placeholder may stand across a seam (`tokens_across_seams`).
-/

namespace Placeholders

open Relation

namespace Text

/-! ## 1. Strands of a cut text -/

section Weave

variable {α : Type}

/-- The stretches between the literals of a cut text, and in the place of each literal the strands of what
    it stands for. `before` is the stretch so far, last character first. -/
def weave (strands : α → List (List Char)) (before : List Char) : List (Piece α) → List (List Char)
  | [] => [before.reverse]
  | .plain c :: rest => weave strands (c :: before) rest
  | .hit _ target :: rest => before.reverse :: (strands target ++ weave strands [] rest)

theorem flatten_weave (strands : α → List (List Char)) (before : List Char) (pieces : List (Piece α)) :
    (weave strands before pieces).flatten =
      before.reverse ++ pieces.flatMap (Piece.render fun target => (strands target).flatten) := by
  induction pieces generalizing before with
  | nil => rfl
  | cons piece rest ih =>
      cases piece with
      | plain c =>
          rw [weave, ih, List.reverse_cons, List.append_assoc]
          rfl
      | hit literal target =>
          rw [weave, List.flatten_cons, List.flatten_append, ih]
          rfl

/-- No literal occurs in a text. -/
def Lexicon.Absent (lexicon : Lexicon α) (s : List Char) : Prop := ∀ e ∈ lexicon, ¬ e.1 <:+: s

/-- Nothing is found from within a stretch on, whatever part of the stretch is left. -/
def Lexicon.Passes (lexicon : Lexicon α) (stretch s : List Char) : Prop :=
  ∀ t, t <:+ stretch → t ≠ [] → lexicon.startOf? (t ++ s) = none

theorem Lexicon.passes_nil (lexicon : Lexicon α) (s : List Char) : lexicon.Passes [] s :=
  fun _ ht hne => absurd (List.suffix_nil.mp ht) hne

theorem Lexicon.Passes.concat {lexicon : Lexicon α} {stretch s : List Char} {c : Char}
    (h : lexicon.Passes stretch (c :: s)) (hnone : lexicon.startOf? (c :: s) = none) :
    lexicon.Passes (stretch ++ [c]) s := by
  intro t ht hne
  rcases List.suffix_concat_iff.mp ht with rfl | ⟨u, rfl, hu⟩
  · exact absurd rfl hne
  · rw [List.append_assoc, List.singleton_append]
    by_cases hempty : u = []
    · rw [hempty, List.nil_append, hnone]
    · exact h u hu hempty

/-- A stretch from within which nothing is found holds no literal. -/
theorem Lexicon.Passes.absent {lexicon : Lexicon α} (hproper : lexicon.Proper) {stretch s : List Char}
    (h : lexicon.Passes stretch s) : lexicon.Absent stretch := by
  intro e he hoccurs
  obtain ⟨t, hfront, hback⟩ := List.infix_iff_prefix_suffix.mp hoccurs
  have hne : t ≠ [] := by
    rintro rfl
    exact hproper e he (List.prefix_nil.mp hfront)
  exact Lexicon.startOf?_eq_none_iff.mp (h t hback hne) e he
    (hfront.trans (List.prefix_append t s))

/-- **No literal occurs in a stretch of a cut text**, nor in its strands, if none does in the strands that
    the literals stand for. The stretch that is being gathered passes what is still to be cut. -/
theorem Lexicon.Proper.absent_of_mem_weave {lexicon : Lexicon α} (hproper : lexicon.Proper)
    {strands : α → List (List Char)} (hstrands : ∀ target, ∀ strand ∈ strands target, lexicon.Absent strand)
    {before s : List Char} (hbefore : lexicon.Passes before.reverse s) :
    ∀ strand ∈ weave strands before (cut lexicon s), lexicon.Absent strand := by
  induction s using hproper.cut_induction generalizing before with
  | nil =>
      rw [hproper.cut_nil, weave]
      exact List.forall_mem_singleton.mpr (hbefore.absent hproper)
  | plain c s hnone ih =>
      rw [hproper.cut_cons_of_none hnone, weave]
      refine ih ?_
      rw [List.reverse_cons]
      exact hbefore.concat hnone
  | hit literal target s hfound ih =>
      rw [hproper.cut_append_of_some hfound, weave]
      refine List.forall_mem_cons.mpr ⟨hbefore.absent hproper, List.forall_mem_append.mpr
        ⟨hstrands target, ih (lexicon.passes_nil s)⟩⟩

end Weave

end Text

open Text

/-! ## 2. Strands of a placeholder -/

namespace Registry

/-- The tokens of all placeholders, with the positions of these. -/
def tokenTable (r : Registry) : Lexicon Nat :=
  r.placeholders.zipIdx.flatMap fun entry =>
    TokenClass.all.map fun c => ((entry.1.tokens.get c).literal.toList, entry.2)

/-- The strands of a placeholder, with tokens replaced no deeper than `depth`. -/
def strandsTo (r : Registry) : (depth i : Nat) → List (List Char)
  | 0, _ => []
  | depth + 1, i =>
    match r.placeholders[i]? with
    | none => []
    | some p => weave (r.strandsTo depth) [] (cut r.tokenTable p.currentValue.toList)

/-- The strands of a placeholder. Without cycles no chain of references is longer than there are
    placeholders. -/
def strands (r : Registry) (i : Nat) : List (List Char) := r.strandsTo r.size i

theorem mem_tokenTable {r : Registry} {e : List Char × Nat} :
    e ∈ r.tokenTable ↔
      ∃ p, r.placeholders[e.2]? = some p ∧ ∃ c, e.1 = (p.tokens.get c).literal.toList := by
  simp only [tokenTable, List.mem_flatMap, List.mem_map, TokenClass.mem_all, true_and,
    List.mem_zipIdx_iff_getElem?]
  constructor
  · rintro ⟨entry, hentry, c, rfl⟩
    exact ⟨entry.1, hentry, c, rfl⟩
  · rintro ⟨p, hp, c, heq⟩
    exact ⟨(p, e.2), hp, c, by rw [← heq]⟩

section Unshared

variable {r : Registry} (h : r.Unshared)

include h

theorem Unshared.proper_tokenTable : r.tokenTable.Proper := by
  intro e he
  obtain ⟨p, hp, c, heq⟩ := mem_tokenTable.mp he
  rw [heq]
  exact h.toList_ne_nil (List.mem_of_getElem? hp) c

/-- **No token is in a strand.** -/
theorem Unshared.absent_of_mem_strandsTo (depth i : Nat) :
    ∀ strand ∈ r.strandsTo depth i, r.tokenTable.Absent strand := by
  induction depth generalizing i with
  | zero => exact fun strand hstrand => absurd hstrand List.not_mem_nil
  | succ depth ih =>
      rw [strandsTo]
      split
      · exact fun strand hstrand => absurd hstrand List.not_mem_nil
      · exact h.proper_tokenTable.absent_of_mem_weave ih (r.tokenTable.passes_nil _)

end Unshared

/-- Registries that differ in expanded values have the same tokens. -/
theorem Unshared.of_alikeTo {r s : Registry} (h : r.Unshared) (halike : r.AlikeTo s) : s.Unshared := by
  have hat : ∀ {i : Nat} {p : Placeholder}, s.placeholders[i]? = some p →
      ∃ q, r.placeholders[i]? = some q ∧ q.tokens = p.tokens := fun hp => by
    obtain ⟨q, hq, hraw⟩ := halike.exists_at hp
    exact ⟨q, hq, congrArg (·.tokens) hraw⟩
  have hmem : ∀ p ∈ s.placeholders, ∃ q ∈ r.placeholders, q.tokens = p.tokens := fun p hp => by
    obtain ⟨i, hi⟩ := List.mem_iff_getElem?.mp hp
    obtain ⟨q, hq, htokens⟩ := hat hi
    exact ⟨q, List.mem_of_getElem? hq, htokens⟩
  refine ⟨fun p hp c => ?_, fun p hp c => ?_, fun {i j p q} hp hq c d heq => ?_⟩
  · obtain ⟨q, hq, htokens⟩ := hmem p hp
    exact htokens ▸ h.isGlobal q hq c
  · obtain ⟨q, hq, htokens⟩ := hmem p hp
    exact htokens ▸ h.nonempty q hq c
  · obtain ⟨p', hp', hptokens⟩ := hat hp
    obtain ⟨q', hq', hqtokens⟩ := hat hq
    rw [← hptokens, ← hqtokens] at heq
    exact h.apart hp' hq' c d heq

/-- Which tokens there are does not depend on values. -/
theorem tokenTable_eq_of_raw_eq {r s : Registry}
    (h : s.placeholders.map Placeholder.raw = r.placeholders.map Placeholder.raw) :
    s.tokenTable = r.tokenTable := by
  -- the table can be read off the raw placeholders
  have htable : ∀ r : Registry, r.tokenTable = (r.placeholders.map Placeholder.raw).zipIdx.flatMap
      fun entry => TokenClass.all.map fun c => ((entry.1.tokens.get c).literal.toList, entry.2) := by
    intro r
    rw [List.zipIdx_map, List.flatMap_map]
    rfl
  rw [htable, htable, h]

/-- Nor do strands depend on expanded values. -/
theorem strandsTo_eq_of_raw_eq {r s : Registry}
    (h : s.placeholders.map Placeholder.raw = r.placeholders.map Placeholder.raw) (depth i : Nat) :
    s.strandsTo depth i = r.strandsTo depth i := by
  induction depth generalizing i with
  | zero => rfl
  | succ depth ih =>
      have hat := congrArg (fun l : List Placeholder => (l[i]?).map (·.currentValue)) h
      simp only [List.getElem?_map, Option.map_map] at hat
      rw [strandsTo, strandsTo, tokenTable_eq_of_raw_eq h, funext ih]
      cases hs : s.placeholders[i]? with
      | none =>
          cases hr : r.placeholders[i]? with
          | none => rfl
          | some q =>
              rw [hs, hr] at hat
              cases hat
      | some p =>
          cases hr : r.placeholders[i]? with
          | none =>
              rw [hs, hr] at hat
              cases hat
          | some q =>
              rw [hs, hr] at hat
              have hcurrent : p.currentValue = q.currentValue := Option.some.inj hat
              simp only [hcurrent]

end Registry

/-! ## 3. Expanded values -/

namespace Network

/-- The expanded value at a position, as characters. -/
def valueAt (net : Network) (i : Nat) : List Char := ((net.at? i).map (·.expandedValue.toList)).getD []

theorem valueAt_eq {net : Network} {i : Nat} {p : Placeholder} (h : net.at? i = some p) :
    net.valueAt i = p.expandedValue.toList := by
  simp [valueAt, h]

/-- In an unshared registry values refer by the tokens in its table. -/
theorem toList_expand_eq (net : Network) (h : net.registry.Unshared) (value : String) :
    (Reference.expand net.registry.placeholders value).toList =
      replaceAll net.registry.tokenTable net.valueAt value.toList := by
  have hvalues : ∀ e, e ∈ Reference.lexicon net.registry.placeholders ↔
      e ∈ net.registry.tokenTable.mapTargets fun i => String.ofList (net.valueAt i) := by
    intro e
    rw [h.unambiguous.mem_lexicon, Lexicon.mapTargets, List.mem_map]
    constructor
    · rintro ⟨p, hp, hentry⟩
      obtain ⟨c, rfl⟩ := Reference.mem_tokenEntries.mp hentry
      obtain ⟨i, hi⟩ := List.mem_iff_getElem?.mp hp
      refine ⟨((p.tokens.get c).literal.toList, i), Registry.mem_tokenTable.mpr ⟨p, hi, c, rfl⟩, ?_⟩
      rw [valueAt_eq (show net.at? i = some p from hi), String.ofList_toList]
    · rintro ⟨f, hf, rfl⟩
      obtain ⟨p, hp, c, hc⟩ := Registry.mem_tokenTable.mp hf
      refine ⟨p, List.mem_of_getElem? hp, Reference.mem_tokenEntries.mpr ⟨c, ?_⟩⟩
      rw [valueAt_eq (show net.at? f.2 = some p from hp), String.ofList_toList, hc]
  rw [Reference.expand, String.toList_ofList, replaceAll_congr fun t _ =>
    Lexicon.startOf?_congr (Reference.functional_lexicon _) hvalues t]
  exact replaceAll_mapTargets fun i _ => String.toList_ofList

/-- Every reference in a value is an edge, and every value has all of them replaced. -/
structure Expanded (net : Network) : Prop where
  regular : net.Regular
  unshared : net.registry.Unshared
  edge : ∀ {i j p q}, net.at? i = some p → net.at? j = some q →
    q.isReferencedIn p.currentValue = true → net.graph.Edge i j
  value : ∀ {i p}, net.at? i = some p →
    p.expandedValue.toList = replaceAll net.registry.tokenTable net.valueAt p.currentValue.toList

/-- **Building replaces all references**, unless it closes a cycle or a value refers to itself. -/
theorem expanded_build {r : Registry} (hnames : r.names.Nodup) (hunshared : r.Unshared)
    (hrecursive : ∀ p ∈ r.placeholders, p.allowRecursive = true)
    (hown : ∀ p ∈ r.placeholders, p.isReferencedIn p.currentValue = false)
    (hbuild : (build r).2 = []) : (build r).1.Expanded := by
  obtain ⟨hregular, halike⟩ := regular_build r
  have hreferring := referring_build hnames
  rw [hbuild] at hreferring
  have hunshared := hunshared.of_alikeTo halike
  generalize hnet : (build r).1 = net at *
  have hraw : ∀ {i p}, net.at? i = some p → p.allowRecursive = true ∧
      p.isReferencedIn p.currentValue = false := by
    intro i p hp
    obtain ⟨q, hq, hqp⟩ := halike.exists_at hp
    have hmem := List.mem_of_getElem? hq
    have hallow : p.allowRecursive = q.allowRecursive := (congrArg (·.allowRecursive) hqp).symm
    have htokens : p.tokens = q.tokens := (congrArg (·.tokens) hqp).symm
    have hcurrent : p.currentValue = q.currentValue := (congrArg (·.currentValue) hqp).symm
    refine ⟨hallow.trans (hrecursive q hmem), ?_⟩
    rw [Placeholder.isReferencedIn, htokens, hcurrent]
    exact hown q hmem
  have hedge : ∀ {i j p q}, net.at? i = some p → net.at? j = some q →
      q.isReferencedIn p.currentValue = true → net.graph.Edge i j := by
    intro i j p q hp hq hreferenced
    have hne : i ≠ j := by
      rintro rfl
      obtain rfl := Option.some.inj (hp.symm.trans hq)
      rw [(hraw hp).2] at hreferenced
      cases hreferenced
    exact (hreferring.edge_iff i j).mpr ⟨⟨hne, p, q, hp, hq, (hraw hp).1,
      Placeholder.isReferencedIn_iff.mp hreferenced⟩, rfl⟩
  refine ⟨hregular, hunshared, hedge, fun {i p} hp => ?_⟩
  obtain ⟨js, hjs, hvalue⟩ := (hnet ▸ upToDate_build r i) p hp
  have hmem : ∀ {q : Placeholder}, q ∈ js.filterMap net.at? → q ∈ net.registry.placeholders :=
    fun hq => (List.mem_filterMap.mp hq).elim fun _ hj => List.mem_of_getElem? hj.2
  rw [← toList_expand_eq net hunshared, hvalue]
  congr 1
  refine Reference.expand_congr (fun q hq q' hq' => hunshared.unambiguous q (hmem hq) q' (hmem hq'))
    hunshared.unambiguous fun q hreferenced => ⟨hmem, fun hq => ?_⟩
  obtain ⟨j, hj⟩ := List.mem_iff_getElem?.mp hq
  exact List.mem_filterMap.mpr ⟨j, hjs.mem_iff.mpr (hedge hp hj hreferenced), hj⟩

/-- **An expanded value is its strands one after the other**, as soon as the depth leaves room for all that
    it refers to. By induction on the depth; what a value refers to has an earlier place in the order. -/
theorem Expanded.flatten_strandsTo {net : Network} (h : net.Expanded) {order : List Nat}
    (horder : Digraph.IsOrder net.graph.targets net.graph.size order) {depth i : Nat}
    (hi : i < net.graph.size) (hdepth : order.idxOf i < depth) :
    (net.registry.strandsTo depth i).flatten = net.valueAt i := by
  induction depth generalizing i with
  | zero => exact absurd hdepth (Nat.not_lt_zero _)
  | succ depth ih =>
      obtain ⟨p, hp⟩ : ∃ p, net.at? i = some p :=
        ⟨_, List.getElem?_eq_getElem (by rw [← Registry.size, ← h.regular.size_eq]; exact hi)⟩
      rw [Registry.strandsTo, show net.registry.placeholders[i]? = some p from hp, flatten_weave,
        valueAt_eq hp, h.value hp, replaceAll]
      refine List.flatMap_congr fun piece hpiece => ?_
      cases piece with
      | plain c => rfl
      | hit literal j =>
          obtain ⟨hmem, hoccurs⟩ := h.unshared.proper_tokenTable.mem_of_hit_mem_cut hpiece
          obtain ⟨q, hq, c, hc⟩ := Registry.mem_tokenTable.mp hmem
          have hedge : net.graph.Edge i j :=
            h.edge hp hq (Placeholder.isReferencedIn_iff.mpr ⟨c, hc ▸ hoccurs⟩)
          have hne : i ≠ j := by
            rintro rfl
            exact h.regular.acyclic.irrefl i hedge
          have hlt := h.regular.consistent.target_lt hedge
          have hearlier := horder.idxOf_lt hi hlt hne hedge
          exact ih hlt (by omega)

/-- **An expanded value is made of strands, and no token is in a strand.** Let tokens be written as
    standard, all placeholders refer to others but none to itself, and building close no cycle. Then every
    expanded value is one after the other the stretches of raw values between replaced tokens. A token of
    another placeholder can stand in it across a seam of two strands only. -/
theorem expandedValue_eq_flatten_strands {r : Registry} (hnames : r.names.Nodup)
    (htokens : r.StandardTokens) (hrecursive : ∀ p ∈ r.placeholders, p.allowRecursive = true)
    (hown : ∀ p ∈ r.placeholders, p.isReferencedIn p.currentValue = false)
    (hbuild : (build r).2 = []) {i : Nat} {p : Placeholder} (hp : (build r).1.at? i = some p) :
    p.expandedValue.toList = (r.strands i).flatten ∧
      ∀ strand ∈ r.strands i, ∀ q ∈ r.placeholders, ∀ c,
        ¬ (q.tokens.get c).literal.toList <:+: strand := by
  have hunshared := Registry.Unshared.of_standard hnames htokens
  have hexpanded := expanded_build hnames hunshared hrecursive hown hbuild
  obtain ⟨hregular, halike⟩ := regular_build r
  obtain ⟨order, _, horder⟩ := Digraph.exists_order? hregular.leads_lt hregular.acyclic
  have hi : i < (build r).1.graph.size := by
    rw [hregular.size_eq]
    exact (List.getElem?_eq_some_iff.mp hp).1
  have hplace : order.idxOf i < r.size := by
    have hlength : order.length ≤ (List.range (build r).1.graph.size).length :=
      horder.nodup.length_le_of_subset fun a ha => List.mem_range.mpr ((horder.mem_iff a).mp ha)
    rw [List.length_range, hregular.size_eq, halike.size_eq] at hlength
    exact Nat.lt_of_lt_of_le (List.idxOf_lt_length_iff.mpr ((horder.mem_iff i).mpr hi)) hlength
  refine ⟨?_, fun strand hstrand q hq c hoccurs => ?_⟩
  · rw [← valueAt_eq hp, ← hexpanded.flatten_strandsTo horder hi hplace, Registry.strands,
      Registry.strandsTo_eq_of_raw_eq halike.raw]
  · obtain ⟨j, hj⟩ := List.mem_iff_getElem?.mp hq
    exact hunshared.absent_of_mem_strandsTo r.size i strand hstrand (_, j)
      (Registry.mem_tokenTable.mpr ⟨q, hj, c, rfl⟩) hoccurs

/-- The value of the second placeholder, between the rests of the first value, makes up a token of the
    third. -/
def seamed : Registry :=
  let textbox (name value : String) := Placeholder.ofKind name (.textbox ⟨.fixed value, []⟩) {}
  ⟨[textbox "A" "xxBxx", textbox "B" "C", textbox "C" "c"], {}, .empty⟩

theorem expandedValue_of_seamed :
    ∃ p, (build seamed).1.at? 0 = some p ∧ p.expandedValue.toList = (seamed.strands 0).flatten ∧
      seamed.strands 0 = [['x'], ['C'], ['x']] ∧
      ∀ strand ∈ seamed.strands 0, ∀ q ∈ seamed.placeholders, ∀ c,
        ¬ (q.tokens.get c).literal.toList <:+: strand := by
  have hsome : ((build seamed).1.at? 0).isSome = true := by decide +kernel
  obtain ⟨p, hp⟩ := Option.isSome_iff_exists.mp hsome
  obtain ⟨hvalue, hstrands⟩ := expandedValue_eq_flatten_strands (r := seamed) (by decide)
    (by decide +kernel) (by decide) (by decide +kernel) (by decide +kernel) hp
  exact ⟨p, hp, hvalue, by decide +kernel, hstrands⟩

/-- **Expanding once need not come to an end**: a token of another placeholder may stand in an expanded
    value, across the seams of what has been replaced. -/
theorem tokens_across_seams :
    ¬ ∀ r : Registry, r.names.Nodup → r.StandardTokens →
      (∀ p ∈ r.placeholders, p.allowRecursive = true) →
      (∀ p ∈ r.placeholders, p.isReferencedIn p.currentValue = false) → (build r).2 = [] →
      ∀ i j p q, i ≠ j → (build r).1.at? i = some p → (build r).1.at? j = some q →
        ∀ c, ¬ (q.tokens.get c).literal.toList <:+: p.expandedValue.toList := by
  intro hall
  have hvalue : ((build seamed).1.at? 0).map (·.expandedValue) = some "xCx" := by decide +kernel
  have htoken : ((build seamed).1.at? 2).map (fun q => (q.tokens.get .normal).literal) =
      some "xCx" := by decide +kernel
  obtain ⟨p, hp, hpvalue⟩ := Option.map_eq_some_iff.mp hvalue
  obtain ⟨q, hq, hqtoken⟩ := Option.map_eq_some_iff.mp htoken
  refine hall seamed (by decide) (by decide +kernel) (by decide) (by decide +kernel)
    (by decide +kernel) 0 2 p q (by decide) hp hq .normal ?_
  rw [hpvalue, hqtoken]

end Network

end Placeholders
