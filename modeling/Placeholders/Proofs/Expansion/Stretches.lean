import Mathlib.Data.List.Pairwise
import Placeholders.Proofs.Expansion.Bound

/-!
# What stands in the place of a text

A pass breaks a text into stretches: tokens that are replaced, and what is between them. Each of them has
one new node.

* The stretches of a text make it up, one after the other (`exists_stretches`).
* `Restated` says which nodes a pass has made and what for, with all that it does to texts. It holds of
  every pass (`Pass.exists_restated`).
* Among the new nodes the sealed texts and the bindings are those of tokens, and no others
  (`Restated.marked`).
-/

namespace Placeholders

open Placeholders.Markup Placeholders.Text Relation

/-! ## 1. Stretches -/

/-- A stretch of a text, and what it becomes. -/
structure Stretch where
  source : List Char
  /-- What the token stands for, if the stretch is one. -/
  target : Option Target
  part : Part

namespace Stretch

/-- What is between tokens stays, and a token becomes what its class makes of it; `raw` says that no
    markup is read where it stands. -/
def Fits (lexicon : Lexicon Target) (raw : Bool) (f : Stretch) : Prop :=
  match f.target with
  | none => f.part = .plain f.source
  | some t => (f.source, t) ∈ lexicon ∧ t.part? raw = some f.part

/-- Whether the stretch is a token of the placeholder at a position. -/
def isOf (f : Stretch) (i : Nat) : Bool := f.target.any fun t => t.source == i

variable {lexicon : Lexicon Target} {raw : Bool} {f : Stretch}

/-- Only what is between tokens stays plain. -/
theorem Fits.isSome_target (h : f.Fits lexicon raw) (hpart : ∀ text, f.part ≠ .plain text) :
    f.target.isSome = true := by
  unfold Fits at h
  split at h
  · exact absurd h (hpart f.source)
  · rename_i htarget
    rw [htarget]
    rfl

theorem Fits.part_ne_plain (h : f.Fits lexicon raw) (htarget : f.target.isSome = true)
    (text : List Char) : f.part ≠ .plain text := by
  unfold Fits at h
  split at h
  · rename_i hnone
    rw [hnone] at htarget
    cases htarget
  · rename_i t _
    intro hplain
    exact t.part?_ne_plain raw text (hplain ▸ h.2)

end Stretch

/-- Stretches that make up a text, the parts that they become, and the tokens that are replaced. -/
structure Stretched (lexicon : Lexicon Target) (raw : Bool) (stretches : List Stretch)
    (text : List Char) (parts : List Part) (replaced : List Target) : Prop where
  source : stretches.flatMap (·.source) = text
  part : stretches.map (·.part) = parts
  target : stretches.filterMap (·.target) = replaced
  fits : ∀ f ∈ stretches, f.Fits lexicon raw

namespace Stretched

variable {lexicon : Lexicon Target} {raw : Bool} {stretches : List Stretch} {text : List Char}
  {parts : List Part} {replaced : List Target}

theorem consPlain (h : Stretched lexicon raw stretches text parts replaced) (front : List Char) :
    ∃ more, Stretched lexicon raw more (front ++ text) (Part.consPlain front parts) replaced := by
  unfold Part.consPlain
  split
  · rename_i hempty
    rw [List.isEmpty_iff.mp hempty]
    exact ⟨stretches, h⟩
  · refine ⟨⟨front, none, .plain front⟩ :: stretches, ?_, ?_, h.target, ?_⟩
    · rw [List.flatMap_cons, h.source]
    · rw [List.map_cons, h.part]
    · exact List.forall_mem_cons.mpr ⟨rfl, h.fits⟩

theorem consToken (h : Stretched lexicon raw stretches text parts replaced) {literal : List Char}
    {t : Target} {part : Part} (ht : (literal, t) ∈ lexicon) (hpart : t.part? raw = some part) :
    Stretched lexicon raw (⟨literal, some t, part⟩ :: stretches) (literal ++ text) (part :: parts)
      (t :: replaced) where
  source := by rw [List.flatMap_cons, h.source]
  part := by rw [List.map_cons, h.part]
  target := by
    rw [← h.target]
    rfl
  fits := List.forall_mem_cons.mpr ⟨⟨ht, hpart⟩, h.fits⟩

end Stretched

/-- **The parts of cut pieces are those of stretches that make up the text.** By induction along the
    pieces; what has been gathered since the last token is in front of them. -/
theorem exists_stretches {lexicon : Lexicon Target} (raw : Bool) (before : List Char)
    (pieces : List (Piece Target))
    (hpieces : ∀ literal t, .hit literal t ∈ pieces → (literal, t) ∈ lexicon) :
    ∃ stretches, Stretched lexicon raw stretches (before.reverse ++ pieces.flatMap Piece.source)
      (partsFrom raw before pieces).1 (partsFrom raw before pieces).2 := by
  induction pieces generalizing before with
  | nil =>
      have hnone : Stretched lexicon raw [] [] [] [] := ⟨rfl, rfl, rfl, List.forall_mem_nil _⟩
      exact hnone.consPlain before.reverse
  | cons piece rest ih =>
      have hrest : ∀ literal t, .hit literal t ∈ rest → (literal, t) ∈ lexicon :=
        fun literal t hmem => hpieces literal t (List.mem_cons_of_mem _ hmem)
      cases piece with
      | plain c =>
          have hmore := ih (c :: before) hrest
          rwa [List.reverse_cons, List.append_assoc] at hmore
      | hit literal t =>
          rw [partsFrom, List.flatMap_cons]
          cases hpart : t.part? raw with
          | none =>
              have hmore := ih (literal.reverse ++ before) hrest
              rwa [List.reverse_append, List.reverse_reverse, List.append_assoc] at hmore
          | some part =>
              obtain ⟨stretches, hmore⟩ := ih [] hrest
              exact (hmore.consToken (hpieces literal t List.mem_cons_self) hpart).consPlain before.reverse

namespace Document

variable {doc after : Document} {lexicon : Lexicon Target} {root : Nat}

/-- A text that is replaced is made up of stretches. -/
theorem exists_stretched (hproper : lexicon.Proper) {c : Nat} (hc : doc.replacedAt lexicon c ≠ []) :
    ∃ stretches, Stretched lexicon (doc.isRawAt c) stretches (doc.chars c) (doc.partsAt lexicon c)
      (doc.replacedAt lexicon c) := by
  have hopen : doc.isSealedText c = false := by
    by_contra hsealed
    simp [replacedAt, hsealed] at hc
  obtain ⟨stretches, h⟩ := exists_stretches (doc.isRawAt c) [] (cut lexicon (doc.chars c))
    fun _ _ hmem => (hproper.mem_of_hit_mem_cut hmem).1
  rw [partsFrom_snd, hproper.flatMap_source_cut] at h
  refine ⟨stretches, ?_⟩
  rw [replacedAt, hopen]
  exact h

/-! ## 2. New nodes -/

/-- The new nodes below a node, each with the stretch that it stands for. -/
def created (doc : Document) (root : Nat) (made : Nat → List (Nat × Stretch)) :
    List (Nat × Stretch) :=
  (doc.unboundTexts root).flatMap made

/-- What a pass below a node does to texts. `made` lists the nodes that it has made in the place of a text,
    each with the stretch that it stands for; it is empty for what stays. -/
structure Restated (doc after : Document) (lexicon : Lexicon Target) (root : Nat)
    (made : Nat → List (Nat × Stretch)) : Prop where
  /-- The nodes of the stretches of a text stand in its place, in order. -/
  children : ∀ p < doc.size, after.children p =
    (doc.children p).flatMap fun c => if made c = [] then [c] else (made c).map (·.1)
  /-- Only texts give their places up that are in no binding and not sealed, and the stretches make them
      up. -/
  source : ∀ c, made c ≠ [] → c ∈ doc.unboundTexts root ∧ doc.isSealedText c = false ∧
    (made c).flatMap (·.2.source) = doc.chars c
  /-- The nodes are new, and they show what the stretches become. -/
  shows : ∀ c, ∀ e ∈ made c, doc.size ≤ e.1 ∧ after.Shows e.1 e.2.part ∧
    e.2.Fits lexicon (doc.isRawAt c)
  /-- No node stands for two stretches. -/
  distinct : ((doc.created root made).map (·.1)).Nodup
  /-- Of all new nodes on the page, the sealed texts and the bindings are those of tokens. -/
  marked : ∀ id, doc.size ≤ id → TransGen after.Child root id →
    ((after.isSealedText id = true ∨ after.isBinding id = true) ↔
      ∃ e ∈ doc.created root made, e.1 = id ∧ e.2.target.isSome = true)

/-- The nodes that a pass has made in the place of one child, with the stretches that they stand for. -/
structure MadeFor (doc after : Document) (lexicon : Lexicon Target) (root : Nat)
    (group : Nat → List Nat) (c : Nat) (rows : List (Nat × Stretch)) : Prop where
  nodes : group c = if rows = [] then [c] else rows.map (·.1)
  source : rows ≠ [] → c ∈ doc.unboundTexts root ∧ doc.isSealedText c = false ∧
    rows.flatMap (·.2.source) = doc.chars c
  shows : ∀ e ∈ rows, doc.size ≤ e.1 ∧ after.Shows e.1 e.2.part ∧ e.2.Fits lexicon (doc.isRawAt c)
  target : c ∈ doc.unboundTexts root → rows.filterMap (·.2.target) = doc.replacedAt lexicon c
  part : c ∈ doc.unboundTexts root →
    rows.map (fun e => (e.1, e.2.part)) = (group c).zip (doc.newParts lexicon c)

theorem MadeFor.sublist_group {group : Nat → List Nat} {c : Nat} {rows : List (Nat × Stretch)}
    (h : MadeFor doc after lexicon root group c rows) : (rows.map (·.1)).Sublist (group c) := by
  rw [h.nodes]
  split
  · rename_i hnil
    rw [hnil]
    exact List.nil_sublist _
  · exact .refl _

namespace Pass

variable {middle : Document} {group : Nat → List Nat}

section Groups

variable (h : doc.Pass middle after lexicon root group)

include h

/-- What stays is a group of its own. -/
theorem group_eq_singleton {c : Nat} (hc : c ∈ doc.unboundTexts root → doc.replacedAt lexicon c = []) :
    group c = [c] := by
  by_cases htext : c ∈ doc.unboundTexts root
  · exact (h.replaces c htext).untouched (hc htext)
  · exact h.others c htext

theorem exists_madeFor (hdoc : doc.Linked) (hproper : lexicon.Proper) (c : Nat) :
    ∃ rows, MadeFor doc after lexicon root group c rows := by
  by_cases hstays : c ∈ doc.unboundTexts root → doc.replacedAt lexicon c = []
  · refine ⟨[], ?_, fun hne => absurd rfl hne, List.forall_mem_nil _, fun hc => (hstays hc).symm,
      fun hc => ?_⟩
    · rw [if_pos rfl, h.group_eq_singleton hstays]
    · rw [newParts, if_pos (hstays hc), List.zip_nil_right, List.map_nil]
  · obtain ⟨hc, hne⟩ := Classical.not_imp.mp hstays
    obtain ⟨stretches, hstretched⟩ := exists_stretched hproper hne
    have hreplaces := (h.rendered hdoc).replaces c hc
    have hshows := List.forall₂_iff_zip.mp (hreplaces.shows hne)
    have hlength : (group c).length = stretches.length := by
      rw [hshows.1, ← hstretched.part, List.length_map]
    have hnodes : ((group c).zip stretches).map (·.1) = group c := List.map_fst_zip hlength.le
    have hsecond : ((group c).zip stretches).map (·.2) = stretches := List.map_snd_zip hlength.ge
    have hparts : ((group c).zip stretches).map (fun e => (e.1, e.2.part)) =
        (group c).zip (doc.partsAt lexicon c) := by
      rw [← hstretched.part, List.zip_map_right]
      rfl
    have htarget : ((group c).zip stretches).filterMap (·.2.target) = doc.replacedAt lexicon c := by
      rw [← hstretched.target, ← congrArg (List.filterMap Stretch.target) hsecond, List.filterMap_map]
      rfl
    have hsome : (group c).zip stretches ≠ [] := fun hnil => hne (by rw [← htarget, hnil]; rfl)
    refine ⟨(group c).zip stretches, ?_, fun _ => ⟨hc, ?_, ?_⟩, fun e he => ⟨?_, ?_, ?_⟩,
      fun _ => htarget, fun _ => ?_⟩
    · rw [if_neg hsome, hnodes]
    · by_contra hsealed
      simp [replacedAt, hsealed] at hne
    · rw [← hstretched.source, ← congrArg (List.flatMap Stretch.source) hsecond, List.flatMap_map]
    · exact hreplaces.fresh hne e.1 (List.of_mem_zip he).1
    · exact hshows.2 (hparts ▸ List.mem_map_of_mem he)
    · exact hstretched.fits e.2 (List.of_mem_zip he).2
    · rw [newParts, if_neg hne, hparts]

theorem nodup_group {p c : Nat} (hc : c ∈ doc.children p) : (group c).Nodup := by
  have hdistinct := (h.attributed.linked h.linked).distinct p
  rw [h.attributed.children, h.regrouped.children p (lt_of_mem_children hc)] at hdistinct
  exact (List.nodup_flatMap.mp hdistinct).1 c hc

/-- No node stands in the places of two others. -/
theorem group_apart {p q c d n : Nat} (hc : c ∈ doc.children p) (hd : d ∈ doc.children q)
    (hne : c ≠ d) (hn : n ∈ group c) : n ∉ group d := by
  intro hn'
  have hafter := h.attributed.linked h.linked
  have hp := (h.mem_children (lt_of_mem_children hc)).mpr ⟨c, hc, hn⟩
  have hq := (h.mem_children (lt_of_mem_children hd)).mpr ⟨d, hd, hn'⟩
  obtain rfl := hafter.parent_unique hp hq
  have hdistinct := hafter.distinct p
  rw [h.attributed.children, h.regrouped.children p (lt_of_mem_children hc)] at hdistinct
  have hsymm : Std.Symm (Function.onFun List.Disjoint group) := ⟨fun _ _ hab _ hb ha => hab ha hb⟩
  exact (List.nodup_flatMap.mp hdistinct).2.forall hc hd hne hn hn'

end Groups

section Made

variable {made : Nat → List (Nat × Stretch)}
  (hmade : ∀ c, MadeFor doc after lexicon root group c (made c))

include hmade

theorem fits_of_mem_created {e : Nat × Stretch} (he : e ∈ doc.created root made) :
    ∃ raw, e.2.Fits lexicon raw ∧ after.Shows e.1 e.2.part := by
  obtain ⟨c, _, he⟩ := List.mem_flatMap.mp he
  exact ⟨doc.isRawAt c, ((hmade c).shows e he).2.2, ((hmade c).shows e he).2.1⟩

/-- The node of a token is a sealed text or a binding. -/
theorem marked_of_mem_created {e : Nat × Stretch} (he : e ∈ doc.created root made)
    (htarget : e.2.target.isSome = true) :
    after.isSealedText e.1 = true ∨ after.isBinding e.1 = true := by
  obtain ⟨raw, hfits, hshows⟩ := fits_of_mem_created hmade he
  have hplain := hfits.part_ne_plain htarget
  cases hpart : e.2.part with
  | plain text => exact absurd hpart (hplain text)
  | value text =>
      rw [hpart] at hshows
      exact .inl hshows.2.2
  | binding t editor =>
      rw [hpart] at hshows
      exact .inr (isBinding_of_payload? hshows.1)

variable (h : doc.Pass middle after lexicon root group)

include h

/-- A new sealed text on the page is of a token. -/
theorem exists_created_of_isSealedText (hsealed : doc.SealedWithin) {id : Nat} (hnew : doc.size ≤ id)
    (hid : after.isSealedText id = true) :
    ∃ e ∈ doc.created root made, e.1 = id ∧ e.2.target.isSome = true := by
  rw [h.attributed.isSealedText, h.seals id] at hid
  rcases hid with hold | ⟨text, hmem⟩
  · exact absurd (hsealed id hold) (Nat.not_lt.mpr hnew)
  · obtain ⟨c, hc, hmem⟩ := List.mem_flatMap.mp hmem
    rw [← (hmade c).part hc] at hmem
    obtain ⟨e, he, heq⟩ := List.mem_map.mp hmem
    obtain ⟨rfl, hpart⟩ := Prod.mk.inj heq
    have he' := List.mem_flatMap.mpr ⟨c, hc, he⟩
    obtain ⟨raw, hfits, _⟩ := fits_of_mem_created hmade he'
    exact ⟨e, he', rfl, hfits.isSome_target fun text => by rw [hpart]; nofun⟩

variable (hdoc : doc.Linked)

include hdoc

theorem distinct_of_madeFor (hroot : doc.Grounded root) :
    ((doc.created root made).map (·.1)).Nodup := by
  have hchild : ∀ c ∈ doc.unboundTexts root, ∃ p, c ∈ doc.children p := fun c hc =>
    (parents_of_unboundTexts hdoc c hc).imp fun p hp => (hdoc.mirrored p c).mpr hp
  rw [created, List.map_flatMap, List.nodup_flatMap]
  refine ⟨fun c hc => ?_, (nodup_unboundTexts hdoc hroot).imp_of_mem fun {c d} hc hd hne => ?_⟩
  · obtain ⟨p, hp⟩ := hchild c hc
    exact (h.nodup_group hp).sublist (hmade c).sublist_group
  · obtain ⟨p, hp⟩ := hchild c hc
    obtain ⟨q, hq⟩ := hchild d hd
    intro n hn hn'
    exact h.group_apart hp hq hne ((hmade c).sublist_group.subset hn)
      ((hmade d).sublist_group.subset hn')

/-- A new binding on the page is of a token. -/
theorem exists_created_of_isBinding (hlt : root < doc.size) {id : Nat} (hnew : doc.size ≤ id)
    (hwalk : TransGen after.Child root id) (hid : after.isBinding id = true) :
    ∃ e ∈ doc.created root made, e.1 = id ∧ e.2.target.isSome = true := by
  have hnotext := text?_eq_none_of_isBinding hid
  rcases (h.rendered hdoc).walk_cases hdoc hlt hwalk.to_reflTransGen with
    hold | ⟨c, hc, _, hmem, _⟩ | ⟨htext, _⟩
  · exact absurd hold (Nat.not_lt.mpr hnew)
  · rw [(hmade c).nodes] at hmem
    split at hmem
    · rw [List.mem_singleton.mp hmem] at hnew
      exact absurd (mem_unboundTexts_lt hdoc hc) (Nat.not_lt.mpr hnew)
    · obtain ⟨e, he, rfl⟩ := List.mem_map.mp hmem
      have he' := List.mem_flatMap.mpr ⟨c, hc, he⟩
      obtain ⟨raw, hfits, hshows⟩ := fits_of_mem_created hmade he'
      refine ⟨e, he', rfl, hfits.isSome_target fun text hpart => ?_⟩
      rw [hpart] at hshows
      simp [text?, hshows.1] at hnotext
  · rw [hnotext] at htext
    cases htext

end Made

/-- **This is what a pass does to texts**, and what it replaces are the tokens that the new nodes stand
    for. -/
theorem exists_restated (h : doc.Pass middle after lexicon root group) (hdoc : doc.Linked)
    (hsealed : doc.SealedWithin) (hroot : doc.Grounded root) (hlt : root < doc.size)
    (hproper : lexicon.Proper) :
    ∃ made, doc.Restated after lexicon root made ∧
      (doc.created root made).filterMap (·.2.target) =
        (doc.unboundTexts root).flatMap (doc.replacedAt lexicon) := by
  choose made hmade using h.exists_madeFor hdoc hproper
  refine ⟨made, ⟨fun p hp => ?_, fun c => (hmade c).source, fun c => (hmade c).shows,
    distinct_of_madeFor hmade h hdoc hroot, fun id hnew hwalk => ⟨?_, ?_⟩⟩, ?_⟩
  · rw [(h.rendered hdoc).children p hp]
    exact List.flatMap_congr fun c _ => (hmade c).nodes
  · rintro (hid | hid)
    · exact exists_created_of_isSealedText hmade h hsealed hnew hid
    · exact exists_created_of_isBinding hmade h hdoc hlt hnew hwalk hid
  · rintro ⟨e, he, rfl, htarget⟩
    exact marked_of_mem_created hmade he htarget
  · rw [created, List.filterMap_flatMap]
    exact List.flatMap_congr fun c hc => (hmade c).target hc

end Pass

end Document

end Placeholders
