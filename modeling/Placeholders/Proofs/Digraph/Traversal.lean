import Mathlib.Data.List.Chain
import Mathlib.Data.List.Nodup
import Mathlib.Logic.Relation
import Placeholders.Digraph.Walk

/-!
# What the walks through a graph find

The graph is a function from a node to the nodes next to it, as in `Digraph.Walk`.

* A list is `Settled` if everything next to a node stands after it. The nodes that a depth-first walk is
  done with are settled, latest first, so that they lie on no cycle.
* `visit_spec` says what a visit ends with: more settled nodes, its own node among them, or a cycle.
  The invariant is `Ready`: what is done is settled and keeps off the present path.
* Hence `visitAll` ends with all nodes or with a cycle, and `cycle?` decides whether there is one.
* `mem_closure` says that `closure` lists exactly what a non-empty walk leads to.
-/

namespace Placeholders.Digraph

variable {next : Nat → List Nat} {size : Nat}

/-! ## 1. Cycles -/

/-- One step of a walk. -/
def Leads (next : Nat → List Nat) (a b : Nat) : Prop := b ∈ next a

/-- A closed walk that meets no node twice but its first one, which is also its last. -/
def IsCycle (next : Nat → List Nat) (cycle : List Nat) : Prop :=
  ∃ a middle, cycle = a :: middle ++ [a] ∧ (a :: middle).Nodup ∧ cycle.IsChain (Leads next)

theorem transGen_getLast {R : Nat → Nat → Prop} {a b : Nat} {l : List Nat}
    (h : (a :: b :: l).IsChain R) :
    Relation.TransGen R a ((b :: l).getLast (List.cons_ne_nil b l)) := by
  induction l generalizing a b with
  | nil => exact .single (by simpa using h)
  | cons c l ih =>
      obtain ⟨hab, hrest⟩ := List.isChain_cons_cons.mp h
      exact .head hab (ih hrest)

/-- A node on a cycle comes back to itself. -/
theorem IsCycle.exists_transGen {cycle : List Nat} (h : IsCycle next cycle) :
    ∃ a, Relation.TransGen (Leads next) a a := by
  obtain ⟨a, middle, rfl, _, hchain⟩ := h
  refine ⟨a, ?_⟩
  cases middle with
  | nil => exact transGen_getLast (l := []) hchain
  | cons b middle =>
      have hwalk := transGen_getLast (l := middle ++ [a]) hchain
      simpa using hwalk

/-- Up to its first occurrence of a node, a list is what is taken while it is not there. -/
theorem exists_eq_takeWhile_append {path : List Nat} {b : Nat} (h : b ∈ path) :
    ∃ rest, path = path.takeWhile (· != b) ++ b :: rest := by
  induction path with
  | nil => exact absurd h List.not_mem_nil
  | cons a path ih =>
      by_cases hab : a = b
      · exact ⟨path, by simp [hab]⟩
      · obtain ⟨rest, hrest⟩ := ih ((List.mem_cons.mp h).resolve_left (Ne.symm hab))
        refine ⟨rest, ?_⟩
        rw [List.takeWhile_cons_of_pos (by simpa using hab), List.cons_append, ← hrest]

/-- **A step back onto the path closes a cycle.** The path has its last node first. -/
theorem isCycle_closed {path : List Nat} {b : Nat}
    (hpath : (b :: path).IsChain (flip (Leads next))) (hnodup : path.Nodup) (hb : b ∈ path) :
    IsCycle next (closed path b) := by
  obtain ⟨rest, hsplit⟩ := exists_eq_takeWhile_append hb
  generalize hfront : path.takeWhile (· != b) = front at hsplit
  have hclosed : closed path b = (b :: (front ++ [b])).reverse := by
    simp [closed, hfront]
  have hwhole : (b :: path) = (b :: (front ++ [b])) ++ rest := by
    rw [hsplit]
    simp
  refine ⟨b, front.reverse, by simp [closed, hfront], ?_, ?_⟩
  · have hsub : (front ++ [b]).Nodup := by
      refine hnodup.sublist ?_
      rw [hsplit]
      exact List.Sublist.append_left (List.singleton_sublist.mpr List.mem_cons_self) front
    have hreverse : b :: front.reverse = (front ++ [b]).reverse := by simp
    rw [hreverse]
    exact List.nodup_reverse.mpr hsub
  · rw [hclosed, List.isChain_reverse]
    rw [hwhole] at hpath
    exact hpath.left_of_append

/-! ## 2. Settled nodes -/

/-- Everything next to a node of the list stands after it. -/
def Settled (next : Nat → List Nat) : List Nat → Prop
  | [] => True
  | a :: rest => (∀ b ∈ next a, b ∈ rest) ∧ Settled next rest

theorem Settled.mem_of_leads {l : List Nat} (h : Settled next l) {a b : Nat} (ha : a ∈ l)
    (hb : Leads next a b) : b ∈ l := by
  induction l with
  | nil => exact absurd ha List.not_mem_nil
  | cons c rest ih =>
      rcases List.mem_cons.mp ha with rfl | ha
      · exact List.mem_cons_of_mem _ (h.1 b hb)
      · exact List.mem_cons_of_mem _ (ih h.2 ha)

theorem Settled.mem_of_transGen {l : List Nat} (h : Settled next l) {a b : Nat} (ha : a ∈ l)
    (hwalk : Relation.TransGen (Leads next) a b) : b ∈ l := by
  induction hwalk with
  | single hb => exact h.mem_of_leads ha hb
  | tail _ hb ih => exact h.mem_of_leads ih hb

/-- **No settled node lies on a cycle.** -/
theorem Settled.not_transGen {l : List Nat} (h : Settled next l) (hnodup : l.Nodup) {a : Nat}
    (ha : a ∈ l) : ¬ Relation.TransGen (Leads next) a a := by
  induction l with
  | nil => exact absurd ha List.not_mem_nil
  | cons c rest ih =>
      obtain ⟨hc, hrest⟩ := List.nodup_cons.mp hnodup
      rcases List.mem_cons.mp ha with rfl | ha
      · intro hwalk
        -- the first step leads into `rest`, and no step leads out of it
        obtain ⟨b, hb, hback⟩ := Relation.TransGen.head'_iff.mp hwalk
        have hmem : b ∈ rest := h.1 b hb
        rcases Relation.reflTransGen_iff_eq_or_transGen.mp hback with rfl | hback
        · exact hc hmem
        · exact hc (h.2.mem_of_transGen hmem hback)
      · exact ih h.2 hrest ha

/-- Nothing next to a settled node stands before it. -/
theorem Settled.pairwise {l : List Nat} (h : Settled next l) (hnodup : l.Nodup) :
    l.Pairwise fun earlier later => ¬ Leads next later earlier := by
  induction l with
  | nil => exact .nil
  | cons a rest ih =>
      obtain ⟨ha, hrest⟩ := List.nodup_cons.mp hnodup
      exact .cons (fun b hb hlead => ha (h.2.mem_of_leads hb hlead)) (ih h.2 hrest)

/-! ## 3. Depth-first visits -/

/-- What holds of a result, and of an error. -/
def Ends {ε α : Type} (r : Except ε α) (onError : ε → Prop) (onOk : α → Prop) : Prop :=
  match r with
  | .ok a => onOk a
  | .error e => onError e

theorem Ends.mono {ε α : Type} {r : Except ε α} {bad : ε → Prop} {good good' : α → Prop}
    (h : Ends r bad good) (hgood : ∀ a, good a → good' a) : Ends r bad good' := by
  cases r with
  | error e => exact h
  | ok a => exact hgood a h

theorem Ends.map {ε α β : Type} {r : Except ε α} {bad : ε → Prop} {good : α → Prop}
    {good' : β → Prop} {f : α → β} (h : Ends r bad good) (hf : ∀ a, good a → good' (f a)) :
    Ends (r.map f) bad good' := by
  cases r with
  | error e => exact h
  | ok a => exact hf a h

/-- A walk that takes one list after the other: if each step keeps an invariant and what there was,
    and finds its own node, then all nodes are found. -/
theorem foldlM_ends {ε : Type} (f : List Nat → Nat → Except ε (List Nat)) (bad : ε → Prop)
    (inv : List Nat → Prop) (bs : List Nat)
    (hstep : ∀ done b, b ∈ bs → inv done →
      Ends (f done b) bad fun found => inv found ∧ done ⊆ found ∧ b ∈ found)
    {done : List Nat} (h : inv done) :
    Ends (bs.foldlM f done) bad fun found => inv found ∧ done ⊆ found ∧ ∀ b ∈ bs, b ∈ found := by
  induction bs generalizing done with
  | nil => exact ⟨h, fun _ hx => hx, fun _ hb => absurd hb List.not_mem_nil⟩
  | cons b bs ih =>
      have hb := hstep done b List.mem_cons_self h
      rw [List.foldlM_cons]
      cases hf : f done b with
      | error e =>
          rw [hf] at hb
          exact hb
      | ok found =>
          rw [hf] at hb
          obtain ⟨hinv, hkept, hmem⟩ := hb
          have hrest := ih (fun d c hc hd => hstep d c (List.mem_cons_of_mem b hc) hd) hinv
          show Ends (bs.foldlM f found) bad _
          cases hfold : bs.foldlM f found with
          | error e =>
              rw [hfold] at hrest
              exact hrest
          | ok last =>
              rw [hfold] at hrest
              obtain ⟨hlast, hmore, hall⟩ := hrest
              refine ⟨hlast, fun x hx => hmore (hkept hx), fun c hc => ?_⟩
              rcases List.mem_cons.mp hc with rfl | hc
              · exact hmore hmem
              · exact hall c hc

/-- What is done is settled, and none of it is on the path. -/
structure Ready (next : Nat → List Nat) (size : Nat) (path done : List Nat) : Prop where
  settled : Settled next done
  nodup : done.Nodup
  apart : ∀ a ∈ done, a ∉ path
  bounded : ∀ a ∈ done, a < size

/-- A path of distinct nodes, its last node first. -/
structure Trail (next : Nat → List Nat) (size : Nat) (path : List Nat) : Prop where
  chain : path.IsChain (flip (Leads next))
  nodup : path.Nodup
  bounded : ∀ a ∈ path, a < size

theorem Trail.length_le {path : List Nat} (h : Trail next size path) : path.length ≤ size := by
  have hsub : path ⊆ List.range size := fun a ha => List.mem_range.mpr (h.bounded a ha)
  simpa using h.nodup.length_le_of_subset hsub

/-- **A visit ends with more settled nodes, or with a cycle.** `depth` is no bound as long as it covers
    the nodes that are not on the path. -/
theorem visit_spec (hnext : ∀ a b, Leads next a b → b < size) {depth : Nat} {path done : List Nat}
    {a : Nat} (htrail : Trail next size (a :: path)) (hready : Ready next size path done)
    (ha : a ∉ done) (hdepth : size ≤ path.length + depth) :
    Ends (visit next depth path done a) (IsCycle next) fun found =>
      Ready next size path found ∧ done ⊆ found ∧ a ∈ found := by
  induction depth generalizing path done a with
  | zero =>
      have hlength := htrail.length_le
      simp only [List.length_cons] at hlength
      omega
  | succ depth ih =>
      obtain ⟨hapath, hpathnodup⟩ := List.nodup_cons.mp htrail.nodup
      have hstart : Ready next size (a :: path) done :=
        ⟨hready.settled, hready.nodup, fun x hx hmem => by
          rcases List.mem_cons.mp hmem with rfl | hmem
          · exact ha hx
          · exact hready.apart x hx hmem, hready.bounded⟩
      have hfold := foldlM_ends (fun done b =>
          if (a :: path).contains b then .error (closed (a :: path) b)
          else if done.contains b then .ok done
          else visit next depth (a :: path) done b)
        (IsCycle next) (Ready next size (a :: path)) (next a) (fun d b hb hd => ?_) hstart
      · unfold visit
        refine hfold.map fun found ⟨hfound, hkept, hall⟩ => ?_
        refine ⟨⟨⟨hall, hfound.settled⟩, ?_, ?_, ?_⟩, ?_, List.mem_cons_self⟩
        · exact List.nodup_cons.mpr
            ⟨fun hmem => hfound.apart a hmem List.mem_cons_self, hfound.nodup⟩
        · intro x hx
          rcases List.mem_cons.mp hx with rfl | hx
          · exact hapath
          · exact fun hmem => hfound.apart x hx (List.mem_cons_of_mem a hmem)
        · intro x hx
          rcases List.mem_cons.mp hx with rfl | hx
          · exact htrail.bounded x List.mem_cons_self
          · exact hfound.bounded x hx
        · exact fun x hx => List.mem_cons_of_mem a (hkept hx)
      · have hchain : (b :: a :: path).IsChain (flip (Leads next)) :=
          List.isChain_cons_cons.mpr ⟨hb, htrail.chain⟩
        by_cases hon : b ∈ a :: path
        · rw [if_pos (List.contains_iff_mem.mpr hon)]
          exact isCycle_closed hchain htrail.nodup hon
        · rw [if_neg (fun h => hon (List.contains_iff_mem.mp h))]
          by_cases hdone : b ∈ d
          · rw [if_pos (List.contains_iff_mem.mpr hdone)]
            exact ⟨hd, fun _ hx => hx, hdone⟩
          · rw [if_neg (fun h => hdone (List.contains_iff_mem.mp h))]
            refine ih ⟨hchain, List.nodup_cons.mpr ⟨hon, htrail.nodup⟩, fun x hx => ?_⟩ hd hdone ?_
            · rcases List.mem_cons.mp hx with rfl | hx
              · exact hnext a x hb
              · exact htrail.bounded x hx
            · simp only [List.length_cons]
              omega

/-- **Visiting everything ends with all nodes, settled, or with a cycle.** -/
theorem visitAll_spec (hnext : ∀ a b, Leads next a b → b < size) :
    Ends (visitAll size next) (IsCycle next) fun done =>
      Settled next done ∧ done.Nodup ∧ ∀ a, a ∈ done ↔ a < size := by
  have hready : Ready next size [] [] :=
    ⟨trivial, .nil, fun _ _ => List.not_mem_nil, fun _ h => absurd h List.not_mem_nil⟩
  have hfold := foldlM_ends
    (fun done a => if done.contains a then .ok done else visit next size [] done a)
    (IsCycle next) (Ready next size []) (List.range size) (fun d a ha hd => ?_) hready
  · exact hfold.mono fun done ⟨hready, _, hall⟩ => ⟨hready.settled, hready.nodup, fun a =>
      ⟨hready.bounded a, fun hlt => hall a (List.mem_range.mpr hlt)⟩⟩
  · by_cases hdone : a ∈ d
    · rw [if_pos (List.contains_iff_mem.mpr hdone)]
      exact ⟨hd, fun _ hx => hx, hdone⟩
    · rw [if_neg (fun h => hdone (List.contains_iff_mem.mp h))]
      refine visit_spec hnext ⟨List.isChain_singleton a, List.nodup_singleton a, fun x hx => ?_⟩ hd hdone
        (by simp)
      rw [List.mem_singleton.mp hx]
      exact List.mem_range.mp ha

/-- A cycle that is found is one. -/
theorem isCycle_of_cycle? (hnext : ∀ a b, Leads next a b → b < size) {cycle : List Nat}
    (h : cycle? size next = some cycle) : IsCycle next cycle := by
  have hspec := visitAll_spec hnext
  unfold cycle? at h
  cases hall : visitAll size next with
  | error found =>
      rw [hall] at h hspec
      obtain rfl : found = cycle := by simpa using h
      exact hspec
  | ok done =>
      rw [hall] at h
      simp at h

/-- **No cycle is found exactly if no walk comes back.** -/
theorem cycle?_eq_none_iff (hnext : ∀ a b, Leads next a b → b < size) :
    cycle? size next = none ↔ ∀ a, ¬ Relation.TransGen (Leads next) a a := by
  refine ⟨fun h a hwalk => ?_, fun h => ?_⟩
  · have hspec := visitAll_spec hnext
    unfold cycle? at h
    cases hall : visitAll size next with
    | error found =>
        rw [hall] at h
        simp at h
    | ok done =>
        rw [hall] at hspec
        obtain ⟨hsettled, hnodup, hmem⟩ := hspec
        have hlt : a < size := by
          obtain ⟨b, _, hlast⟩ := Relation.TransGen.tail'_iff.mp hwalk
          exact hnext b a hlast
        exact hsettled.not_transGen hnodup ((hmem a).mpr hlt) hwalk
  · cases hcycle : cycle? size next with
    | none => rfl
    | some cycle =>
        obtain ⟨a, hwalk⟩ := (isCycle_of_cycle? hnext hcycle).exists_transGen
        exact absurd hwalk (h a)

/-! ## 4. Orders -/

/-- All nodes once, none of them before something that is next to it. -/
structure IsOrder (next : Nat → List Nat) (size : Nat) (order : List Nat) : Prop where
  nodup : order.Nodup
  mem_iff : ∀ a, a ∈ order ↔ a < size
  inner_first : order.Pairwise fun earlier later => ¬ Leads next earlier later

/-- **Without cycles there is an order, and it is found.** -/
theorem exists_order? (hnext : ∀ a b, Leads next a b → b < size)
    (hacyclic : ∀ a, ¬ Relation.TransGen (Leads next) a a) :
    ∃ order, order? size next = .ok order ∧ IsOrder next size order := by
  have hspec := visitAll_spec hnext
  unfold order?
  cases hall : visitAll size next with
  | error cycle =>
      rw [hall] at hspec
      obtain ⟨a, hwalk⟩ := IsCycle.exists_transGen hspec
      exact absurd hwalk (hacyclic a)
  | ok done =>
      rw [hall] at hspec
      obtain ⟨hsettled, hnodup, hmem⟩ := hspec
      refine ⟨done.reverse, rfl, List.nodup_reverse.mpr hnodup, fun a => ?_, ?_⟩
      · rw [List.mem_reverse]
        exact hmem a
      · exact List.pairwise_reverse.mpr (hsettled.pairwise hnodup)

/-- What a node leads to stands before it. -/
theorem IsOrder.idxOf_lt {order : List Nat}
    (h : IsOrder next size order) {a b : Nat} (ha : a < size) (hb : b < size) (hne : a ≠ b)
    (hlead : Leads next a b) : order.idxOf b < order.idxOf a := by
  have hta := (h.mem_iff a).mpr ha
  have htb := (h.mem_iff b).mpr hb
  rcases Nat.lt_trichotomy (order.idxOf b) (order.idxOf a) with hlt | heq | hgt
  · exact hlt
  · exact absurd ((List.idxOf_inj htb).mp heq).symm hne
  · have hnot := List.pairwise_iff_getElem.mp h.inner_first _ _ (List.idxOf_lt_length_iff.mpr hta)
      (List.idxOf_lt_length_iff.mpr htb) hgt
    simp only [List.getElem_idxOf] at hnot
    exact absurd hlead hnot

/-- Where no node leads to itself, what a node leads to stands in front of it. -/
theorem IsOrder.mem_front {order : List Nat} (h : IsOrder next size order)
    (hnext : ∀ a b, Leads next a b → b < size) (hirrefl : ∀ a, ¬ Leads next a a)
    {front rest : List Nat} {a b : Nat} (hsplit : order = front ++ a :: rest) (hlead : Leads next a b) :
    b ∈ front := by
  have hpairs := h.inner_first
  have hmem := (h.mem_iff b).mpr (hnext a b hlead)
  rw [hsplit] at hpairs hmem
  rcases List.mem_append.mp hmem with hfront | hbehind
  · exact hfront
  · have hlater := (List.pairwise_cons.mp (List.pairwise_append.mp hpairs).2.1).1
    rcases List.mem_cons.mp hbehind with rfl | hrest
    · exact absurd hlead (hirrefl b)
    · exact absurd hlead (hlater b hrest)

/-! ## 5. Closures -/

/-- What is reached is in the domain, and a walk from something pending leads there. -/
theorem exists_walk_of_mem_reachable {remaining pending : List Nat} {b : Nat}
    (h : b ∈ reachable next remaining pending) :
    b ∈ remaining ∧ ∃ a ∈ pending, Relation.ReflTransGen (Leads next) a b := by
  fun_induction reachable next remaining pending with
  | case1 remaining pending _ => exact absurd h List.not_mem_nil
  | case2 remaining pending a hfind ih =>
      have ha : a ∈ pending := List.mem_of_find?_eq_some hfind
      have hremaining : a ∈ remaining := List.contains_iff_mem.mp (List.find?_some hfind)
      rcases List.mem_cons.mp h with rfl | h
      · exact ⟨hremaining, b, ha, .refl⟩
      · obtain ⟨hb, c, hc, hwalk⟩ := ih h
        refine ⟨List.mem_of_mem_erase hb, ?_⟩
        rcases List.mem_append.mp hc with hc | hc
        · exact ⟨a, ha, .head hc hwalk⟩
        · exact ⟨c, hc, hwalk⟩

/-- What is pending and in the domain is reached. -/
theorem mem_reachable_of_mem {remaining pending : List Nat} {a : Nat} (ha : a ∈ pending)
    (hremaining : a ∈ remaining) : a ∈ reachable next remaining pending := by
  fun_induction reachable next remaining pending with
  | case1 remaining pending hfind =>
      have := List.find?_eq_none.mp hfind a ha
      exact absurd (List.contains_iff_mem.mpr hremaining) this
  | case2 remaining pending c _ ih =>
      by_cases hac : a = c
      · exact hac ▸ List.mem_cons_self
      · exact List.mem_cons_of_mem _
          (ih (List.mem_append_right _ ha) ((List.mem_erase_of_ne hac).mpr hremaining))

/-- What is next to something reached is reached, if it is in the domain. -/
theorem mem_reachable_of_leads {remaining pending : List Nat} {a b : Nat}
    (ha : a ∈ reachable next remaining pending) (hlead : Leads next a b) (hb : b ∈ remaining) :
    b ∈ reachable next remaining pending := by
  fun_induction reachable next remaining pending with
  | case1 => exact absurd ha List.not_mem_nil
  | case2 remaining pending c _ ih =>
      by_cases hbc : b = c
      · exact hbc ▸ List.mem_cons_self
      · have hleft : b ∈ remaining.erase c := (List.mem_erase_of_ne hbc).mpr hb
        refine List.mem_cons_of_mem _ ?_
        rcases List.mem_cons.mp ha with rfl | ha
        · exact mem_reachable_of_mem (List.mem_append_left _ hlead) hleft
        · exact ih ha hleft

/-- **The closure of a node is all else that a non-empty walk leads to.** -/
theorem mem_closure (hnext : ∀ a b, Leads next a b → b < size) {a b : Nat} :
    b ∈ closure size next a ↔ b ≠ a ∧ Relation.TransGen (Leads next) a b := by
  unfold closure
  simp only [List.mem_filter, List.mem_range, Bool.and_eq_true, bne_iff_ne, ne_eq,
    List.contains_iff_mem]
  constructor
  · rintro ⟨_, hne, hreached⟩
    obtain ⟨_, c, hc, hwalk⟩ := exists_walk_of_mem_reachable hreached
    exact ⟨hne, .head' hc hwalk⟩
  · rintro ⟨hne, hwalk⟩
    have hreached : b ∈ reachable next (List.range size) (next a) := by
      clear hne
      induction hwalk with
      | single hlead =>
          exact mem_reachable_of_mem hlead (List.mem_range.mpr (hnext _ _ hlead))
      | tail _ hlead ih =>
          exact mem_reachable_of_leads ih hlead (List.mem_range.mpr (hnext _ _ hlead))
    exact ⟨List.mem_range.mp (exists_walk_of_mem_reachable hreached).1, hne, hreached⟩

end Placeholders.Digraph
