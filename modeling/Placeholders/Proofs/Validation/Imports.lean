import Mathlib.Logic.Relation
import Placeholders.Validation.Catalog

/-!
# What a rule-set reaches

Imports are followed with a stack and a count of steps. Here is what that comes to, with neither.

* `Reaches` is importing, directly or not. A rule-set reaches itself.
* `DepthFirst` is the order of first visits as a relation: below an id stands all that its imports come to,
  before the next id has its turn.
* `importOrder_cases` says that the stack gives this order, or ends with an id that is reached and unknown.
  The count of steps is never used up, since a source puts its imports on the stack once.
* `DepthFirst.mem_iff`: whatever loops there are, what is visited is what is reached.
-/

namespace Placeholders.Validation

open Relation

/-! ## 1. Reaching and visiting -/

section Reaching

variable (own : String → Option Source)

/-- A rule-set names another one among its imports. -/
def Imports (id other : String) : Prop := ∃ source, own id = some source ∧ other ∈ source.imports

/-- A rule-set is another one or imports it, directly or not. -/
def Reaches : String → String → Prop := ReflTransGen (Imports own)

/-- What a depth-first visit of several ids adds to those visited before, in the order of first visits. -/
inductive DepthFirst : (before ids order : List String) → Prop
  | nil {before : List String} : DepthFirst before [] []
  | again {before ids order : List String} {id : String} (hid : id ∈ before)
    (hids : DepthFirst before ids order) : DepthFirst before (id :: ids) order
  | first {before ids below order : List String} {id : String} {source : Source} (hid : id ∉ before)
    (hsource : own id = some source) (hbelow : DepthFirst (before ++ [id]) source.imports below)
    (hids : DepthFirst (before ++ id :: below) ids order) :
    DepthFirst before (id :: ids) (id :: below ++ order)

end Reaching

variable {own : String → Option Source}

namespace DepthFirst

variable {before ids order : List String}

/-- A visit of two lists is a visit of one and then of the other. -/
theorem split {xs ys : List String} (h : DepthFirst own before (xs ++ ys) order) :
    ∃ a b, order = a ++ b ∧ DepthFirst own before xs a ∧ DepthFirst own (before ++ a) ys b := by
  generalize hids : xs ++ ys = ids at h
  induction h generalizing xs with
  | nil =>
      obtain ⟨rfl, rfl⟩ := List.append_eq_nil_iff.mp hids
      exact ⟨[], [], rfl, .nil, .nil⟩
  | @again before ids order id hid hrest ih =>
      cases xs with
      | nil =>
          obtain rfl : ys = id :: ids := hids
          exact ⟨[], order, rfl, .nil, by simpa using hrest.again hid⟩
      | cons x xs =>
          obtain ⟨rfl, htail⟩ := List.cons.inj hids
          obtain ⟨a, b, rfl, ha, hb⟩ := ih htail
          exact ⟨a, b, rfl, ha.again hid, hb⟩
  | @first before ids below order id source hid hsource hbelow hrest _ ih =>
      cases xs with
      | nil =>
          obtain rfl : ys = id :: ids := hids
          exact ⟨[], _, rfl, .nil, by simpa using .first hid hsource hbelow hrest⟩
      | cons x xs =>
          obtain ⟨rfl, htail⟩ := List.cons.inj hids
          obtain ⟨a, b, rfl, ha, hb⟩ := ih htail
          exact ⟨x :: below ++ a, b, by simp, .first hid hsource hbelow ha, by simpa using hb⟩

/-- All that is visited is known, and reached from one of the ids. -/
theorem reaches (h : DepthFirst own before ids order) {j : String} (hj : j ∈ order) :
    (own j).isSome = true ∧ ∃ i ∈ ids, Reaches own i j := by
  induction h with
  | nil => cases hj
  | again _ _ ih =>
      obtain ⟨hknown, i, hi, hreaches⟩ := ih hj
      exact ⟨hknown, i, List.mem_cons_of_mem _ hi, hreaches⟩
  | @first before ids below order id source _ hsource _ _ ihbelow ih =>
      rcases List.mem_append.mp hj with hj | hj
      · rcases List.mem_cons.mp hj with rfl | hj
        · exact ⟨by rw [hsource]; rfl, j, List.mem_cons_self, .refl⟩
        · obtain ⟨hknown, i, hi, hreaches⟩ := ihbelow hj
          exact ⟨hknown, id, List.mem_cons_self, hreaches.head ⟨source, hsource, hi⟩⟩
      · obtain ⟨hknown, i, hi, hreaches⟩ := ih hj
        exact ⟨hknown, i, List.mem_cons_of_mem _ hi, hreaches⟩

/-- Every id has been visited in the end. -/
theorem covers (h : DepthFirst own before ids order) {i : String} (hi : i ∈ ids) :
    i ∈ before ++ order := by
  induction h with
  | nil => cases hi
  | again hid _ ih =>
      rcases List.mem_cons.mp hi with rfl | hi
      · exact List.mem_append_left _ hid
      · exact ih hi
  | first _ _ _ _ _ ih =>
      rcases List.mem_cons.mp hi with rfl | hi
      · simp
      · simpa using ih hi

/-- What is imported by something visited has been visited in the end. -/
theorem closed (h : DepthFirst own before ids order) {j k : String} (hj : j ∈ order)
    (hk : Imports own j k) : k ∈ before ++ order := by
  induction h with
  | nil => cases hj
  | again _ _ ih => exact ih hj
  | @first before ids below order id source _ hsource hbelow _ ihbelow ih =>
      rcases List.mem_append.mp hj with hj | hj
      · have hvisited : k ∈ before ++ [id] ++ below := by
          rcases List.mem_cons.mp hj with rfl | hj
          · obtain ⟨_, hsame, hk⟩ := hk
            obtain rfl := Option.some.inj (hsource.symm.trans hsame)
            exact hbelow.covers hk
          · exact ihbelow hj
        have := List.mem_append_left order hvisited
        simpa using this
      · simpa using ih hj

/-- **What is visited is what is reached.** -/
theorem mem_iff {root : String} (h : DepthFirst own [] [root] order) (j : String) :
    j ∈ order ↔ Reaches own root j := by
  constructor
  · intro hj
    obtain ⟨_, i, hi, hreaches⟩ := h.reaches hj
    rwa [List.mem_singleton.mp hi] at hreaches
  · intro hreaches
    induction hreaches with
    | refl => exact h.covers List.mem_cons_self
    | tail _ himports ih => exact h.closed ih himports

end DepthFirst

/-! ## 2. The stack -/

/-- How many imports the sources that have not been visited can still put on the stack. -/
def unfollowed (before : List String) : List (String × Source) → Nat
  | [] => 0
  | entry :: entries =>
    (if entry.1 ∈ before then 0 else entry.2.imports.length) + unfollowed before entries

theorem unfollowed_nil_before (entries : List (String × Source)) :
    unfollowed [] entries = (entries.flatMap fun entry => entry.2.imports).length := by
  induction entries with
  | nil => rfl
  | cons entry entries ih => simp [unfollowed, ih]

theorem unfollowed_append_le (before : List String) (id : String) (entries : List (String × Source)) :
    unfollowed (before ++ [id]) entries ≤ unfollowed before entries := by
  induction entries with
  | nil => exact Nat.le_refl _
  | cons entry entries ih =>
      rw [unfollowed, unfollowed]
      refine Nat.add_le_add ?_ ih
      by_cases hentry : entry.1 ∈ before
      · simp only [List.mem_append, hentry, true_or, if_true, Nat.le_refl]
      · simp only [hentry, if_false]
        split <;> omega

/-- A source that is visited for the first time puts its imports on the stack once and for all. -/
theorem unfollowed_visit {before : List String} {id : String} {source : Source}
    {entries : List (String × Source)} (hid : id ∉ before) (hmem : (id, source) ∈ entries) :
    source.imports.length + unfollowed (before ++ [id]) entries ≤ unfollowed before entries := by
  induction entries with
  | nil => cases hmem
  | cons entry entries ih =>
      rw [unfollowed, unfollowed]
      rcases List.mem_cons.mp hmem with rfl | hmem
      · have hrest := unfollowed_append_le before id entries
        simp only [List.mem_append, List.mem_singleton, or_true, if_true, if_neg hid]
        omega
      · have hrest := ih hmem
        by_cases hentry : entry.1 ∈ before
        · simp only [List.mem_append, hentry, true_or, if_true]
          omega
        · simp only [hentry, if_false]
          split <;> omega

section Stack

variable {sources : Sources} {fuel : Nat} {before stack : List String}

/-- A walk that ends well has visited depth first. -/
theorem depthFirst_of_visitImports {visited : List String}
    (hfuel : stack.length + unfollowed before sources.entries < fuel)
    (h : visitImports sources fuel before.reverse stack = .ok visited) :
    ∃ order, visited = before ++ order ∧ DepthFirst sources.get? before stack order := by
  induction fuel generalizing before stack with
  | zero => omega
  | succ fuel ih =>
      cases stack with
      | nil =>
          simp only [visitImports, List.reverse_reverse] at h
          cases h
          exact ⟨[], by simp, .nil⟩
      | cons id stack =>
          simp only [List.length_cons] at hfuel
          rw [visitImports] at h
          split at h
          · rename_i hseen
            obtain ⟨order, rfl, horder⟩ := ih (by omega) h
            exact ⟨order, rfl, horder.again (by simpa using hseen)⟩
          · rename_i hnew
            split at h
            · cases h
            · rename_i source hsource
              have hid : id ∉ before := by simpa using hnew
              have hpushed := unfollowed_visit hid (Keyed.mem_of_find? hsource)
              have hvisited : (before ++ [id]).reverse = id :: before.reverse := by simp
              rw [← hvisited] at h
              obtain ⟨order, rfl, horder⟩ :=
                ih (by simp only [List.length_append]; omega) h
              -- What was on the stack before waits until the imports have been visited.
              obtain ⟨below, rest, rfl, hbelow, hrest⟩ := horder.split
              refine ⟨id :: below ++ rest, by simp, .first hid hsource hbelow ?_⟩
              simpa using hrest

/-- A walk that ends with an error has met an id that is reached and unknown. -/
theorem unknown_of_visitImports {visited : List String} {unknown : String}
    (h : visitImports sources fuel visited stack = .error unknown) :
    sources.get? unknown = none ∧ ∃ id ∈ stack, Reaches sources.get? id unknown := by
  induction fuel generalizing visited stack with
  | zero => cases h
  | succ fuel ih =>
      cases stack with
      | nil => cases h
      | cons id stack =>
          rw [visitImports] at h
          split at h
          · obtain ⟨hunknown, i, hi, hreaches⟩ := ih h
            exact ⟨hunknown, i, List.mem_cons_of_mem _ hi, hreaches⟩
          · split at h
            · rename_i hnone
              cases h
              exact ⟨hnone, _, List.mem_cons_self, .refl⟩
            · rename_i source hsource
              obtain ⟨hunknown, i, hi, hreaches⟩ := ih h
              refine ⟨hunknown, ?_⟩
              rcases List.mem_append.mp hi with hi | hi
              · exact ⟨id, List.mem_cons_self, hreaches.head ⟨source, hsource, hi⟩⟩
              · exact ⟨i, List.mem_cons_of_mem _ hi, hreaches⟩

/-- **The order of imports is depth first**, if all that is reached is known. Otherwise the walk ends with
    something reached that is not. -/
theorem importOrder_cases (sources : Sources) (root : String) :
    (∃ order, importOrder sources root = .ok order ∧ DepthFirst sources.get? [] [root] order) ∨
      ∃ unknown, importOrder sources root = .error unknown ∧ sources.get? unknown = none ∧
        Reaches sources.get? root unknown := by
  cases horder : importOrder sources root with
  | ok order =>
      have hbound : [root].length + unfollowed [] sources.entries < importBound sources := by
        rw [importBound, unfollowed_nil_before, List.length_singleton]
        omega
      have hwalk : visitImports sources (importBound sources) ([] : List String).reverse [root] =
          .ok order := horder
      obtain ⟨_, rfl, hdepth⟩ := depthFirst_of_visitImports hbound hwalk
      exact .inl ⟨_, rfl, hdepth⟩
  | error unknown =>
      obtain ⟨hunknown, id, hid, hreaches⟩ := unknown_of_visitImports horder
      rw [List.mem_singleton.mp hid] at hreaches
      exact .inr ⟨unknown, rfl, hunknown, hreaches⟩

end Stack

end Placeholders.Validation
