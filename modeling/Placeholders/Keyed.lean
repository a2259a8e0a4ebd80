/-!
# Values under string keys

A finite map from strings, kept as a list in strictly ascending order of its keys.

* Two maps with the same values under the same keys are equal, so maps can be compared by `get?`.
* The order of keys is the order of code points, which is also the order of their UTF-8 bytes.
* `insert` replaces what stood under a key; `erase` takes it away; `update` does either by a function.
-/

namespace Placeholders

/-! ## 1. Sorted lists -/

namespace Keyed

variable {α : Type}

/-- Each key is below the next. -/
def Sorted (entries : List (String × α)) : Prop :=
  entries.Pairwise fun a b => a.1 < b.1

/-- What stands under a key in a list. -/
def find? (key : String) : List (String × α) → Option α
  | [] => none
  | entry :: rest => if entry.1 = key then some entry.2 else find? key rest

/-- Puts a value at the place of its key. -/
def put (key : String) (value : α) : List (String × α) → List (String × α)
  | [] => [(key, value)]
  | entry :: rest =>
    if key < entry.1 then (key, value) :: entry :: rest
    else if entry.1 = key then (key, value) :: rest
    else entry :: put key value rest

/-- Takes a key away. -/
def drop (key : String) : List (String × α) → List (String × α)
  | [] => []
  | entry :: rest => if entry.1 = key then drop key rest else entry :: drop key rest

theorem fst_of_mem_put {key : String} {value : α} {entries : List (String × α)}
    {entry : String × α} (h : entry ∈ put key value entries) :
    entry.1 = key ∨ entry ∈ entries := by
  induction entries with
  | nil => simp only [put, List.mem_singleton] at h; exact Or.inl (h ▸ rfl)
  | cons first rest ih =>
    unfold put at h
    split at h
    · rcases List.mem_cons.mp h with rfl | h
      · exact Or.inl rfl
      · exact Or.inr h
    · split at h
      · rcases List.mem_cons.mp h with rfl | h
        · exact Or.inl rfl
        · exact Or.inr (List.mem_cons_of_mem _ h)
      · rcases List.mem_cons.mp h with rfl | h
        · exact Or.inr (List.mem_cons_self ..)
        · exact (ih h).imp_right (List.mem_cons_of_mem _)

theorem Sorted.put {key : String} {value : α} {entries : List (String × α)}
    (h : Sorted entries) : Sorted (put key value entries) := by
  induction entries with
  | nil => simp [Sorted, Keyed.put]
  | cons first rest ih =>
    obtain ⟨hfirst, hrest⟩ := List.pairwise_cons.mp h
    unfold Keyed.put
    split
    · rename_i hlt
      refine List.pairwise_cons.mpr ⟨fun entry hentry => ?_, h⟩
      rcases List.mem_cons.mp hentry with rfl | hentry
      · exact hlt
      · exact String.lt_trans hlt (hfirst entry hentry)
    · rename_i hnot
      split
      · rename_i heq
        exact List.pairwise_cons.mpr ⟨fun entry hentry => heq ▸ hfirst entry hentry, hrest⟩
      · rename_i hne
        refine List.pairwise_cons.mpr ⟨fun entry hentry => ?_, ih hrest⟩
        rcases fst_of_mem_put hentry with heq | hmem
        · rcases Std.lt_trichotomy first.1 key with hlt | heq' | hgt
          · exact heq ▸ hlt
          · exact absurd heq' hne
          · exact absurd hgt hnot
        · exact hfirst entry hmem

theorem drop_sublist {key : String} {entries : List (String × α)} :
    (drop key entries).Sublist entries := by
  induction entries with
  | nil => exact List.Sublist.slnil
  | cons first rest ih =>
    unfold drop
    split
    · exact ih.cons first
    · exact ih.cons_cons first

theorem Sorted.drop {key : String} {entries : List (String × α)} (h : Sorted entries) :
    Sorted (drop key entries) :=
  List.Pairwise.sublist drop_sublist h

theorem find?_put {key other : String} {value : α} {entries : List (String × α)} :
    find? other (put key value entries) = if key = other then some value else find? other entries := by
  induction entries with
  | nil => simp [put, find?]
  | cons first rest ih =>
    unfold put
    split
    · by_cases h : key = other <;> simp [find?, h]
    · split
      · rename_i heq
        by_cases h : key = other
        · simp [find?, h]
        · simp [find?, h, heq]
      · rename_i hne
        by_cases h : first.1 = other
        · have hko : key ≠ other := fun hk => hne (h.trans hk.symm)
          simp [find?, h, hko]
        · simp [find?, h, ih]

theorem find?_drop {key other : String} {entries : List (String × α)} :
    find? other (drop key entries) = if key = other then none else find? other entries := by
  induction entries with
  | nil => simp [drop, find?]
  | cons first rest ih =>
    by_cases hk : first.1 = key
    · by_cases h : key = other
      · simpa [drop, hk, h] using ih
      · simp [drop, hk, ih, h, find?]
    · by_cases h : first.1 = other
      · have hko : key ≠ other := fun hf => hk (h.trans hf.symm)
        simp [drop, find?, h, hko, hko.symm]
      · simp [drop, hk, find?, h, ih]

/-- A key above all others has its place at the end. -/
theorem put_of_forall_lt {key : String} {value : α} {entries : List (String × α)}
    (h : ∀ entry ∈ entries, entry.1 < key) : put key value entries = entries ++ [(key, value)] := by
  induction entries with
  | nil => rfl
  | cons first rest ih =>
    have hfirst := h first (List.mem_cons_self ..)
    have hne : first.1 ≠ key := fun heq => String.lt_irrefl _ (heq ▸ hfirst)
    rw [put, if_neg (String.lt_asymm hfirst), if_neg hne,
      ih fun entry hentry => h entry (List.mem_cons_of_mem _ hentry)]
    rfl

theorem mem_of_find? {key : String} {value : α} {entries : List (String × α)}
    (h : find? key entries = some value) : (key, value) ∈ entries := by
  induction entries with
  | nil => simp [find?] at h
  | cons first rest ih =>
    unfold find? at h
    split at h
    · rename_i heq
      obtain ⟨a, b⟩ := first
      simp only [Option.some.injEq] at h
      simp only at heq
      subst heq h
      exact List.mem_cons_self ..
    · exact List.mem_cons_of_mem _ (ih h)

theorem find?_eq_some_iff {key : String} {value : α} {entries : List (String × α)}
    (hsorted : Sorted entries) : find? key entries = some value ↔ (key, value) ∈ entries := by
  refine ⟨mem_of_find?, fun h => ?_⟩
  induction entries with
  | nil => simp at h
  | cons first rest ih =>
    obtain ⟨hfirst, hrest⟩ := List.pairwise_cons.mp hsorted
    rcases List.mem_cons.mp h with rfl | h
    · simp [find?]
    · have hlt := hfirst _ h
      have hne : first.1 ≠ key := fun heq => by simp [heq] at hlt
      simp [find?, hne, ih hrest h]

theorem eq_of_find? {entries others : List (String × α)} (h₁ : Sorted entries)
    (h₂ : Sorted others) (h : ∀ key, find? key entries = find? key others) : entries = others := by
  induction entries generalizing others with
  | nil =>
    cases others with
    | nil => rfl
    | cons second more =>
      have := h second.1
      simp [find?] at this
  | cons first rest ih =>
    obtain ⟨hfirst, hrest⟩ := List.pairwise_cons.mp h₁
    have hmem : (first.1, first.2) ∈ others :=
      (find?_eq_some_iff h₂).mp ((h first.1).symm.trans (by simp [find?]))
    cases others with
    | nil => simp at hmem
    | cons second more =>
      obtain ⟨hsecond, hmore⟩ := List.pairwise_cons.mp h₂
      have hmem' : (second.1, second.2) ∈ first :: rest :=
        (find?_eq_some_iff h₁).mp ((h second.1).trans (by simp [find?]))
      have heq : first = second := by
        rcases List.mem_cons.mp hmem with he | hm
        · exact he
        · rcases List.mem_cons.mp hmem' with he | hm'
          · exact he.symm
          · exact absurd (hfirst _ hm') (String.lt_asymm (hsecond _ hm))
      subst heq
      congr 1
      refine ih hrest hmore fun key => ?_
      by_cases hk : first.1 = key
      · have hnone : ∀ {l : List (String × α)}, (∀ e ∈ l, first.1 < e.1) → find? key l = none := by
          intro l hl
          cases hf : find? key l with
          | none => rfl
          | some value =>
            have := hl _ (mem_of_find? hf)
            simp [hk] at this
        rw [hnone hfirst, hnone hsecond]
      · have := h key
        simpa [find?, hk] using this

end Keyed

/-! ## 2. The map -/

/-- Values under distinct string keys, in ascending order of the keys. -/
structure Keyed (α : Type) where
  entries : List (String × α)
  sorted : Keyed.Sorted entries

namespace Keyed

variable {α : Type}

instance [DecidableEq α] : DecidableEq (Keyed α) := fun a b =>
  if h : a.entries = b.entries then
    .isTrue (by cases a; cases b; simp_all)
  else .isFalse fun he => h (he ▸ rfl)

/-- No values. -/
def empty : Keyed α := ⟨[], List.Pairwise.nil⟩

instance : Inhabited (Keyed α) := ⟨empty⟩

/-- The value under a key. -/
def get? (m : Keyed α) (key : String) : Option α := find? key m.entries

/-- Puts a value under a key, in place of what was there. -/
def insert (m : Keyed α) (key : String) (value : α) : Keyed α :=
  ⟨put key value m.entries, m.sorted.put⟩

/-- Takes away what is under a key. -/
def erase (m : Keyed α) (key : String) : Keyed α :=
  ⟨drop key m.entries, m.sorted.drop⟩

/-- Replaces what is under a key by a function of it. -/
def update (m : Keyed α) (key : String) (f : Option α → α) : Keyed α :=
  m.insert key (f (m.get? key))

/-- Whether there is a value under a key. -/
def contains (m : Keyed α) (key : String) : Bool := (m.get? key).isSome

/-- The keys, in ascending order. -/
def keys (m : Keyed α) : List String := m.entries.map (·.1)

/-- The number of keys. -/
def size (m : Keyed α) : Nat := m.entries.length

/-- Puts pairs in one after the other; of equal keys the last one stays. -/
def ofList (pairs : List (String × α)) : Keyed α :=
  pairs.foldl (fun m pair => m.insert pair.1 pair.2) empty

@[simp] theorem get?_empty {key : String} : (empty : Keyed α).get? key = none := rfl

theorem get?_insert {m : Keyed α} {key other : String} {value : α} :
    (m.insert key value).get? other = if key = other then some value else m.get? other :=
  find?_put

@[simp] theorem get?_insert_self {m : Keyed α} {key : String} {value : α} :
    (m.insert key value).get? key = some value := by simp [get?_insert]

theorem get?_erase {m : Keyed α} {key other : String} :
    (m.erase key).get? other = if key = other then none else m.get? other :=
  find?_drop

@[simp] theorem get?_erase_self {m : Keyed α} {key : String} : (m.erase key).get? key = none := by
  simp [get?_erase]

theorem entries_foldl_insert {m : Keyed α} {pairs : List (String × α)}
    (h : Sorted (m.entries ++ pairs)) :
    (pairs.foldl (fun m pair => m.insert pair.1 pair.2) m).entries = m.entries ++ pairs := by
  induction pairs generalizing m with
  | nil => simp
  | cons pair rest ih =>
    have hinsert : (m.insert pair.1 pair.2).entries = m.entries ++ [pair] :=
      put_of_forall_lt fun entry hentry =>
        (List.pairwise_append.mp h).2.2 entry hentry pair (List.mem_cons_self ..)
    rw [List.foldl_cons, ih (by rwa [hinsert, List.append_assoc]), hinsert, List.append_assoc]
    rfl

/-- Maps are determined by what stands under each key. -/
theorem ext_get? {a b : Keyed α} (h : ∀ key, a.get? key = b.get? key) : a = b := by
  obtain ⟨_, h₁⟩ := a
  obtain ⟨_, h₂⟩ := b
  have := eq_of_find? h₁ h₂ h
  subst this
  rfl

/-- What is not there need not be taken away. -/
theorem erase_of_not_contains {m : Keyed α} {key : String} (h : ¬ m.contains key = true) :
    m.erase key = m := by
  refine ext_get? fun other => ?_
  rw [get?_erase]
  split
  · rename_i heq
    rw [← heq, Option.not_isSome_iff_eq_none.mp h]
  · rfl

/-- A map is made of its own entries. -/
@[simp] theorem ofList_entries (m : Keyed α) : ofList m.entries = m := by
  have hentries : (ofList m.entries).entries = m.entries :=
    entries_foldl_insert (m := empty) m.sorted
  exact ext_get? fun key => congrArg (find? key) hentries

end Keyed

end Placeholders
