import Mathlib.Data.List.Perm.Basic
import Placeholders.Proofs.Expansion.Bound
import Placeholders.Proofs.Expansion.Made

/-!
# Tables of bindings

What a table of bindings lists, all names together.

* It lists under every name the bindings of that name (`mem_all`).
* Adding a binding adds one entry to the list (`all_add_perm`), wherever its name stands in the table.
* A walk down from a grounded node meets every node once, so that a table that has been found there lists
  every element once (`nodup_all_scan`), and nothing but elements (`isElement_of_mem_all_scan`).
* A grounded page is still grounded when it has been expanded (`grounded_expandBelow`).
-/

namespace Placeholders

open Placeholders.Text

namespace Bindings

/-! ## 1. What is listed -/

/-- The names of some entries, each with all its elements. -/
def flattened (entries : List (String × List Nat)) : List (String × Nat) :=
  entries.flatMap fun entry => entry.2.map fun id => (entry.1, id)

/-- A table lists what it has under the names. -/
theorem mem_all {b : Bindings} {name : String} {id : Nat} :
    (name, id) ∈ b.all ↔ id ∈ b.elements name := by
  have hlist : (name, id) ∈ b.all ↔ ∃ ids, (name, ids) ∈ b.table.entries ∧ id ∈ ids := by
    simp [all]
  rw [hlist, elements, Keyed.get?]
  constructor
  · rintro ⟨ids, hmem, hid⟩
    rw [(Keyed.find?_eq_some_iff b.table.sorted).mpr hmem]
    exact hid
  · intro hid
    cases hfind : Keyed.find? name b.table.entries with
    | none =>
        rw [hfind] at hid
        exact absurd hid List.not_mem_nil
    | some ids =>
        rw [hfind] at hid
        exact ⟨ids, Keyed.mem_of_find? hfind, hid⟩

theorem find?_eq_none_of_lt {α : Type} {key : String} {entries : List (String × α)}
    (h : ∀ entry ∈ entries, key < entry.1) : Keyed.find? key entries = none := by
  cases hfind : Keyed.find? key entries with
  | none => rfl
  | some value => exact absurd (h _ (Keyed.mem_of_find? hfind)) (String.lt_irrefl key)

/-- Adding to what stands under a name adds one entry. -/
theorem flattened_put {entries : List (String × List Nat)} (h : Keyed.Sorted entries) (name : String)
    (id : Nat) :
    (flattened (Keyed.put name ((Keyed.find? name entries).getD [] ++ [id]) entries)).Perm
      ((name, id) :: flattened entries) := by
  induction entries with
  | nil => exact .refl _
  | cons first rest ih =>
      obtain ⟨hfirst, hrest⟩ := List.pairwise_cons.mp h
      unfold Keyed.put
      by_cases hlt : name < first.1
      · have hnone : Keyed.find? name (first :: rest) = none :=
          find?_eq_none_of_lt (List.forall_mem_cons.mpr
            ⟨hlt, fun entry hentry => String.lt_trans hlt (hfirst entry hentry)⟩)
        rw [if_pos hlt, hnone]
        exact .refl _
      · rw [if_neg hlt]
        by_cases heq : first.1 = name
        · have hsome : Keyed.find? name (first :: rest) = some first.2 := if_pos heq
          rw [if_pos heq, hsome, ← heq]
          simp only [flattened, List.flatMap_cons, Option.getD_some, List.map_append, List.map_cons,
            List.map_nil, List.append_assoc]
          exact List.perm_middle
        · have hsame : Keyed.find? name (first :: rest) = Keyed.find? name rest := if_neg heq
          rw [if_neg heq, hsame]
          exact ((ih hrest).append_left _).trans List.perm_middle

/-- **Adding a binding adds one entry to the list of all.** -/
theorem all_add_perm (b : Bindings) (name : String) (id : Nat) :
    (b.add name id).all.Perm ((name, id) :: b.all) :=
  flattened_put b.table.sorted name id

/-! ## 2. Elements that are listed -/

theorem elements_addNode_perm (doc : Document) (b : Bindings) (id : Nat) :
    ((addNode doc b id).all.map (·.2)).Perm
      (b.all.map (·.2) ++ if doc.isBinding id = true then [id] else []) := by
  unfold addNode
  cases hname : doc.attribute? id Binding.nameAttribute with
  | none =>
      have hnot : doc.isBinding id = false := by
        rw [Document.isBinding, hname]
        exact Bool.and_false _
      rw [hnot]
      simp
  | some name =>
      dsimp only
      by_cases hbinding : doc.isBinding id = true
      · rw [if_pos hbinding, if_pos hbinding]
        exact ((b.all_add_perm name id).map _).trans (List.perm_append_singleton _ _).symm
      · rw [if_neg hbinding, if_neg hbinding, List.append_nil]

/-- Looking through some nodes lists the bindings among them. -/
theorem foldl_addNode_perm (doc : Document) (b : Bindings) (ids : List Nat) :
    ((ids.foldl (addNode doc) b).all.map (·.2)).Perm (b.all.map (·.2) ++ ids.filter doc.isBinding) := by
  induction ids generalizing b with
  | nil => simp
  | cons id rest ih =>
      have hsplit : (id :: rest).filter doc.isBinding =
          (if doc.isBinding id = true then [id] else []) ++ rest.filter doc.isBinding := by
        rw [List.filter_cons]
        split <;> rfl
      rw [List.foldl_cons, hsplit, ← List.append_assoc]
      exact (ih _).trans ((elements_addNode_perm doc b id).append_right _)

end Bindings

namespace Document

open Relation

variable {doc : Document}

/-- A walk down from a grounded node meets no node twice. -/
theorem Linked.nodup_descendantsTo (h : doc.Linked) {k root : Nat} (hroot : doc.Grounded root) :
    (doc.descendantsTo k root).Nodup := by
  induction k generalizing root with
  | zero => exact List.nodup_nil
  | succ k ih =>
      have hbelow : ∀ {c id}, id ∈ c :: doc.descendantsTo k c → ReflTransGen doc.Child c id := by
        intro c id hid
        rcases List.mem_cons.mp hid with rfl | hid
        · exact .refl
        · exact (mem_of_mem_descendantsTo hid).to_reflTransGen
      rw [descendantsTo, List.nodup_flatMap]
      refine ⟨fun c hc => ?_, (h.distinct root).imp_of_mem fun {a b} ha hb hne => ?_⟩
      · refine List.nodup_cons.mpr ⟨fun hmem => ?_, ih (hroot.of_child hc)⟩
        exact hroot.of_child hc c .refl (mem_of_mem_descendantsTo hmem)
      · intro id hida hidb
        exact hne (h.children_apart hroot ha hb (hbelow hida) (hbelow hidb))

/-- **A table that has been found on a page lists every element once.** -/
theorem Linked.nodup_all_scan (h : doc.Linked) {root : Nat} (hroot : doc.Grounded root) :
    ((Bindings.scan doc root).all.map (·.2)).Nodup := by
  have hperm := Bindings.foldl_addNode_perm doc .empty (doc.descendants root)
  refine hperm.nodup_iff.mpr ?_
  exact (h.nodup_descendantsTo hroot).filter _

theorem isElement_of_attribute? {id : Nat} {name value : String}
    (h : doc.attribute? id name = some value) : doc.isElement id = true := by
  unfold attribute? attributes at h
  unfold isElement tag?
  split at h
  · rfl
  · cases h

/-- Nothing but elements is listed. -/
theorem isElement_of_mem_all_scan {root : Nat} {entry : String × Nat}
    (h : entry ∈ (Bindings.scan doc root).all) : doc.isElement entry.2 = true := by
  obtain ⟨name, id⟩ := entry
  obtain ⟨_, _, hname⟩ := Bindings.mem_elements_scan.mp (Bindings.mem_all.mp h)
  exact isElement_of_attribute? hname

/-- **A grounded page is still grounded when it has been expanded.** -/
theorem Linked.grounded_expandBelow (h : doc.Linked) {root : Nat} (hroot : doc.Grounded root)
    (hlt : root < doc.size) (lexicon : Lexicon Target) :
    (doc.expandBelow lexicon root).1.Grounded root := by
  obtain ⟨group, hpass⟩ := exists_pass h hroot lexicon
  exact ((hpass.rendered h).within h (h.within_size hroot hlt) hlt).grounded

end Document

end Placeholders
