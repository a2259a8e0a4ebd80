import Placeholders.Proofs.Network.Affected
import Placeholders.Proofs.Network.References
import Placeholders.Proofs.Network.Run

/-!
# Cycles that are reported

The search for cycles finds one exactly if there is one, and what is told of a cycle is true.

* A scan changes the edges of one position only. Where there has been no cycle before, one that is there
  now passes through this position (`mem_of_isCycle_scan`).
* So the search, which begins elsewhere, still finds a cycle that the scanned placeholder lies on:
  `reports_rescan`.
* `cycle_found_and_reported` says this of every scan of building and of every change that is followed, at
  any point of any run.
-/

namespace Placeholders.Network

open Relation

variable {net : Network} {i : Nat} {e : GraphError}

/-! ## 1. One scan -/

/-- The error tells of a position, and of a cycle of the graph that passes through it. -/
def Reports (net : Network) (i : Nat) (e : GraphError) : Prop :=
  ∃ cycle, e = .cycleDetected (net.nameAt i) (net.namesAt cycle) ∧
    Digraph.IsCycle net.graph.targets cycle ∧ i ∈ cycle

/-- **Whatever cycle there is after a scan passes through the scanned position**, since there has been
    none before. -/
theorem mem_of_isCycle_scan (hnet : net.Regular) (hi : i < net.graph.size) {cycle : List Nat}
    (h : Digraph.IsCycle (net.scan i).graph.targets cycle) : i ∈ cycle := by
  by_contra hout
  obtain ⟨a, middle, hcycle, hnodup, hchain⟩ := h
  have hold : cycle.IsChain (Digraph.Leads net.graph.targets) :=
    hchain.imp_of_mem_imp fun c d hc _ hedge =>
      ((scan_spec hnet.fitting hi).2.2 c d (ne_of_mem_of_not_mem hc hout)).mp hedge
  obtain ⟨b, hback⟩ := Digraph.IsCycle.exists_transGen ⟨a, middle, hcycle, hnodup, hold⟩
  exact hnet.acyclic b hback

/-- **A scan reports a cycle that it has closed**, and the graph still has it then. -/
theorem reports_rescan (hnet : net.Regular) (hi : i < net.graph.size)
    (h : (net.rescan i).1 = some e) : (net.scan i).Reports i e := by
  obtain ⟨hfit, _, _⟩ := scan_spec hnet.fitting hi
  cases hcycle : (net.scan i).cycle? with
  | none =>
      rw [rescan_of_none hcycle] at h
      cases h
  | some cycle =>
      rw [rescan_of_some hcycle] at h
      have hfound := Digraph.isCycle_of_cycle? (fun _ _ hedge => hfit.consistent.target_lt hedge) hcycle
      exact ⟨cycle, (Option.some.inj h).symm, hfound, mem_of_isCycle_scan hnet hi hfound⟩

/-- A scan reports nothing exactly if it has closed no cycle. -/
theorem rescan_eq_none_iff (hnet : net.Regular) (hi : i < net.graph.size) :
    (net.rescan i).1 = none ↔ (net.scan i).graph.Acyclic := by
  obtain ⟨hfit, _, _⟩ := scan_spec hnet.fitting hi
  refine Iff.trans ?_ (Digraph.cycle?_eq_none_iff fun _ _ hedge => hfit.consistent.target_lt hedge)
  cases hcycle : (net.scan i).cycle? with
  | none => exact iff_of_true (by rw [rescan_of_none hcycle]) hcycle
  | some cycle =>
      have hfound : Digraph.cycle? (net.scan i).graph.size (net.scan i).graph.targets = some cycle := hcycle
      rw [rescan_of_some hcycle, hfound]
      exact iff_of_false (Option.some_ne_none _) (Option.some_ne_none _)

/-! ## 2. Building -/

/-- The network that is built, when the positions up to a number have been scanned. -/
def beforeScan (r : Registry) (i : Nat) : Network :=
  (scanAll ⟨r, .discrete r.size⟩ (List.range i)).1

/-- What scanning tells has been told by a scan, after those of the positions before. -/
theorem exists_of_mem_scanAll {l : List Nat} (h : e ∈ (net.scanAll l).2) :
    ∃ front j rest, l = front ++ j :: rest ∧ ((net.scanAll front).1.rescan j).1 = some e := by
  induction l generalizing net with
  | nil => exact absurd h List.not_mem_nil
  | cons j l ih =>
      rcases List.mem_append.mp h with hfirst | hlater
      · exact ⟨[], j, l, rfl, Option.mem_toList.mp hfirst⟩
      · obtain ⟨front, k, rest, rfl, hk⟩ := ih hlater
        exact ⟨j :: front, k, rest, rfl, hk⟩

/-- The part of a range before one of its numbers is the range up to there. -/
theorem range_of_append_cons {n j : Nat} {front rest : List Nat}
    (h : List.range n = front ++ j :: rest) : front = List.range j ∧ j < n := by
  have hlength : front.length < n := by
    have htotal := congrArg List.length h
    simp only [List.length_range, List.length_append, List.length_cons] at htotal
    omega
  have hj : j = front.length := by
    have hget := congrArg (·[front.length]?) h
    simpa [hlength] using hget.symm
  have hfront := congrArg (List.take front.length) h
  rw [List.take_range, List.take_left, Nat.min_eq_left hlength.le] at hfront
  exact ⟨hj ▸ hfront.symm, hj ▸ hlength⟩

/-- **What building tells has been told by the scan of a position**, after all positions before it. -/
theorem exists_of_mem_build {r : Registry} (h : e ∈ (build r).2) :
    ∃ i < r.size, ((beforeScan r i).rescan i).1 = some e := by
  obtain ⟨_, _, heq⟩ := build_eq r
  rw [heq] at h
  obtain ⟨front, i, rest, hrange, hscan⟩ := exists_of_mem_scanAll h
  obtain ⟨rfl, hi⟩ := range_of_append_cons hrange
  exact ⟨i, hi, hscan⟩

theorem regular_beforeScan {r : Registry} {i : Nat} (hi : i ≤ r.size) :
    (beforeScan r i).Regular ∧ (beforeScan r i).graph.size = r.size := by
  obtain ⟨hregular, halike⟩ := regular_scanAll (regular_discrete r) (l := List.range i) fun j hj => by
    rw [Digraph.size_discrete]
    exact Nat.lt_of_lt_of_le (List.mem_range.mp hj) hi
  exact ⟨hregular, hregular.size_eq.trans halike.size_eq⟩

/-! ## 3. Every report -/

theorem eq_unknownPlaceholder_of_position {name : String} (h : net.position name = .error e) :
    e = .unknownPlaceholder name := by
  unfold position at h
  split at h
  · cases h
  · exact (Except.error.inj h).symm

/-- The only error of following a change, apart from that of an unknown name, is what the scan reports. -/
theorem valueChanged_eq_error_iff (hnet : net.Regular) {name : String} (hi : net.position name = .ok i) :
    (net.valueChanged name).1 = .error e ↔ (net.rescan i).1 = some e := by
  obtain ⟨_, _, _, hanswer⟩ := valueChanged_of_ok hnet hi
  rw [hanswer]
  cases (net.rescan i).1 with
  | none => simp
  | some other => simp

/-- **The search finds a cycle exactly if there is one, and every report of a cycle is true.** What is found
    leads from a node back to it, edge by edge, and meets no other node twice. Building reports the
    position that it has just scanned, and following a change that of the name; this position lies on the
    cycle that is told, and the graph had all edges of it when the scan had ended. A change is reported
    exactly if its scan closes a cycle. -/
theorem cycle_found_and_reported (hnet : ∀ a b, net.graph.Edge a b → b < net.graph.size) (r : Registry)
    (steps : List Step) (name : String) :
    let now := (build r).1.run steps
    ((∃ cycle, net.cycle? = some cycle) ↔ ∃ a, TransGen net.graph.Edge a a) ∧
    (∀ cycle, net.cycle? = some cycle → ∃ a middle, cycle = a :: middle ++ [a] ∧
      (a :: middle).Nodup ∧ cycle.IsChain net.graph.Edge) ∧
    (∀ e ∈ (build r).2, ∃ i < r.size, ((beforeScan r i).rescan i).1 = some e ∧
      ((beforeScan r i).scan i).Reports i e) ∧
    (∀ e, (now.valueChanged name).1 = .error e → e = .unknownPlaceholder name ∨
      ∃ i, now.position name = .ok i ∧ now.nameAt i = name ∧ (now.scan i).Reports i e) ∧
    ∀ i, now.position name = .ok i → ((now.valueChanged name).1 = .ok () ↔ (now.scan i).graph.Acyclic) := by
  intro now
  have hnow : now.Regular := (regular_build r).1.run steps
  have hlt : ∀ {i}, now.position name = .ok i → i < now.graph.size := fun hi =>
    hnow.size_eq ▸ position_lt hi
  refine ⟨?_, fun cycle hcycle => Digraph.isCycle_of_cycle? hnet hcycle, fun e he => ?_, fun e he => ?_,
    fun i hi => ?_⟩
  · rw [← Option.isSome_iff_exists, ← Option.ne_none_iff_isSome, cycle?, Ne,
      Digraph.cycle?_eq_none_iff hnet]
    exact Classical.not_forall_not
  · obtain ⟨i, hi, hscan⟩ := exists_of_mem_build he
    obtain ⟨hregular, hsize⟩ := regular_beforeScan hi.le
    exact ⟨i, hi, hscan, reports_rescan hregular (hsize ▸ hi) hscan⟩
  · cases hi : now.position name with
    | error unknown =>
        rw [valueChanged_of_error hi] at he
        obtain rfl := Except.error.inj he
        exact .inl (eq_unknownPlaceholder_of_position hi)
    | ok i =>
        refine .inr ⟨i, rfl, ?_, reports_rescan hnow (hlt hi) ((valueChanged_eq_error_iff hnow hi).mp he)⟩
        obtain ⟨p, hp, hname⟩ := exists_at_position hi
        exact (nameAt_eq hp).trans hname
  · rw [← rescan_eq_none_iff hnow (hlt hi)]
    obtain ⟨_, _, _, hanswer⟩ := valueChanged_of_ok hnow hi
    rw [hanswer]
    cases (now.rescan i).1 with
    | none => exact iff_of_true rfl rfl
    | some other => simp

/-- Two textboxes that refer to each other. -/
def entwined : Registry :=
  let textbox (name value : String) := Placeholder.ofKind name (.textbox ⟨.fixed value, []⟩) {}
  ⟨[textbox "A" "a(xBx)", textbox "B" "b(xAx)"], {}, .empty⟩

theorem cycle_found_and_reported_of_entwined :
    let net := (beforeScan entwined 1).scan 1
    let error := GraphError.cycleDetected "B" ["A", "B", "A"]
    net.cycle? = some [0, 1, 0] ∧ (∃ a, TransGen net.graph.Edge a a) ∧
    (∃ a middle, [0, 1, 0] = a :: middle ++ [a] ∧ (a :: middle).Nodup ∧
      [0, 1, 0].IsChain net.graph.Edge) ∧
    error ∈ (build entwined).2 ∧
    (∃ i < entwined.size, ((beforeScan entwined i).rescan i).1 = some error ∧
      ((beforeScan entwined i).scan i).Reports i error) ∧
    ((build entwined).1.valueChanged "B").1 = .error error ∧
    ∃ i, (build entwined).1.position "B" = .ok i ∧ (build entwined).1.nameAt i = "B" ∧
      ((build entwined).1.scan i).Reports i error ∧ ¬ ((build entwined).1.scan i).graph.Acyclic := by
  intro net error
  have hregular : (beforeScan entwined 1).Regular := (regular_beforeScan (by decide)).1
  have hscanned := scan_spec hregular.fitting (i := 1) (by decide +kernel)
  have hcycle : net.cycle? = some [0, 1, 0] := by decide +kernel
  have htold : error ∈ (build entwined).2 := by decide +kernel
  have hanswer : ((build entwined).1.valueChanged "B").1 = .error error := by decide +kernel
  obtain ⟨hfound, hpath, hbuilt, hfollowed, hclosed⟩ :=
    cycle_found_and_reported (fun _ _ hedge => hscanned.1.consistent.target_lt hedge) entwined [] "B"
  refine ⟨hcycle, hfound.mp ⟨_, hcycle⟩, hpath _ hcycle, htold, hbuilt error htold, hanswer, ?_⟩
  obtain ⟨i, hi, hname, hreports⟩ := (hfollowed error hanswer).resolve_left (by decide)
  refine ⟨i, hi, hname, hreports, fun hacyclic => ?_⟩
  have hfine := (hclosed i hi).mpr hacyclic
  rw [show ((build entwined).1.run []) = (build entwined).1 from rfl, hanswer] at hfine
  cases hfine

end Placeholders.Network
