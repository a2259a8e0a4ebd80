import Placeholders.Proofs.Document.Tour
import Placeholders.Proofs.Expansion.Skeleton

/-!
# Pages under change

All changes of a page as data, so that a history of a page is a list of them.

* A change is `Proper` if the nodes it names are there and it puts none of them below itself. Other changes
  need no care: what a pass or a refresh puts in is new, and nothing is below it that has been there before.
* A proper change keeps a forest (`Forest.edit`), and so does a history of them (`Forest.edited`).
* Of every page with such a history `edited_is_forest` says what readers of it rely on.
-/

namespace Placeholders.Document

open Placeholders.Markup Placeholders.Text Relation

variable {doc after : Document}

/-! ## 1. Passes -/

theorem Forest.mapAttributes (h : doc.Forest) (id : Nat) (f : Attributes → Attributes) :
    (doc.mapAttributes id f).Forest :=
  h.mono (h.linked.mapAttributes id f) fun p _ hc => children_mapAttributes doc id f p ▸ hc

/-- **The node of a part comes with nothing below it but new nodes.** -/
theorem Forest.createPart (h : doc.Forest) (part : Part) :
    (doc.createPart part).1.Forest ∧ (doc.createPart part).1.OrderedFrom doc.size := by
  have hleaf : ∀ payload : Payload, (doc.create payload).1.OrderedFrom doc.size := by
    intro payload p hp c hc
    rw [children_create] at hc
    exact orderedFrom_size doc p hp c hc
  cases part with
  | plain text => exact ⟨h.create _, hleaf _⟩
  | value text =>
      have hnew := h.create (.text text)
      exact ⟨⟨⟨hnew.linked.mirrored, hnew.linked.distinct⟩, hnew.acyclic⟩, hleaf _⟩
  | binding t editor =>
      simp only [Document.createPart]
      split
      · exact ⟨h.create _, hleaf _⟩
      · exact ⟨(h.create _).appendNew (by simp) _, (hleaf _).appendNew (by simp) _⟩

/-- The node of a part can be put before any node that was there: what this one is in is not new. -/
theorem Forest.insertPart (h : doc.Forest) {reference : Nat} (hreference : reference < doc.size)
    (part : Part) : (doc.insertPart reference part).Forest := by
  obtain ⟨hmade, hordered⟩ := h.createPart part
  obtain ⟨hid, _, _, hshows, _⟩ := createPart_spec h.linked part
  unfold Document.insertPart
  dsimp only
  rw [hid]
  cases hafter : (doc.createPart part).1.insertBefore? reference doc.size with
  | none => exact hmade
  | some after =>
      refine hmade.insertBefore? hshows.lt (fun p hparent hwalk => ?_) hafter
      rw [parent?_createPart hreference] at hparent
      have hp : p < doc.size := lt_of_mem_children ((h.linked.mirrored p reference).mpr hparent)
      rcases reflTransGen_iff_eq_or_transGen.mp hwalk with rfl | hdown
      · exact Nat.lt_irrefl _ hp
      · exact Nat.lt_asymm hp (hordered.lt_of_walk (Nat.le_refl _) hdown)

theorem Forest.insertParts (h : doc.Forest) {reference : Nat} (hreference : reference < doc.size)
    (parts : List Part) : (doc.insertParts reference parts).Forest := by
  induction parts generalizing doc with
  | nil => exact h
  | cons part parts ih =>
      exact ih (h.insertPart hreference part)
        (Nat.lt_trans hreference (size_lt_insertPart doc reference part))

theorem Forest.expandUnsealed (h : doc.Forest) (lexicon : Lexicon Target) {id : Nat} (hid : id < doc.size) :
    (doc.expandUnsealed lexicon id).1.Forest ∧ doc.size ≤ (doc.expandUnsealed lexicon id).1.size := by
  unfold Document.expandUnsealed
  split
  · exact ⟨h, Nat.le_refl _⟩
  · rw [expandText_eq]
    split
    · exact ⟨h, Nat.le_refl _⟩
    · refine ⟨(h.insertParts hid _).detach id, ?_⟩
      rw [size_detach]
      exact (parent?_insertParts hid id _).2

theorem Forest.expandTexts (h : doc.Forest) (lexicon : Lexicon Target) {ids : List Nat}
    (hids : ∀ id ∈ ids, id < doc.size) : (doc.expandTexts lexicon ids).1.Forest := by
  induction ids generalizing doc with
  | nil => exact h
  | cons id rest ih =>
      obtain ⟨hid, hrest⟩ := List.forall_mem_cons.mp hids
      obtain ⟨hfirst, hsize⟩ := h.expandUnsealed lexicon hid
      rw [expandTexts_cons]
      exact ih hfirst fun x hx => Nat.lt_of_lt_of_le (hrest x hx) hsize

/-- **A pass keeps a forest.** It goes through texts that it has collected before it changes any. -/
theorem Forest.expandBelow (h : doc.Forest) (lexicon : Lexicon Target) (root : Nat) :
    (doc.expandBelow lexicon root).1.Forest := by
  have hids : ∀ id ∈ doc.unboundTexts root, id < doc.size := fun _ => mem_unboundTexts_lt h.linked
  have htexts := h.expandTexts lexicon hids
  have hattributed := attributed_expandAttributes (doc.expandTexts lexicon (doc.unboundTexts root)).1
  exact htexts.mono ((hattributed _ _).linked htexts.linked) fun p _ hc => (hattributed _ _).children p ▸ hc

/-! ## 2. Refreshing -/

theorem Forest.refreshElement (h : doc.Forest) (p : Placeholder) {id : Nat} (hid : id < doc.size) :
    (doc.refreshElement p id).Forest :=
  showState_induction id (fun _ f hdoc => hdoc.mapAttributes id f) p (h.setTextContent hid p.expandedValue)

theorem Forest.refresh (h : doc.Forest) {bindings : Bindings} (r : Registry)
    (hbindings : ∀ name, ∀ id ∈ bindings.elements name, id < doc.size) (names : List String) :
    (doc.refresh bindings r names).2.Forest :=
  refresh_induction (fun _ p _ hid hdoc => hdoc.refreshElement p hid) r hbindings names h

/-! ## 3. Histories -/

/-- A change of a page. -/
inductive Edit where
  | create (payload : Payload)
  | detach (id : Nat)
  | append (parent child : Nat)
  | insertBefore (reference child : Nat)
  | replace (old replacement : Nat)
  | clearChildren (id : Nat)
  | mapAttributes (id : Nat) (f : Attributes → Attributes)
  | setText (id : Nat) (content : String)
  | setTextContent (id : Nat) (content : String)
  | setInnerHtml (id : Nat) (markup : String)
  | expand (root : Nat) (r : Registry)
  | refresh (bindings : Bindings) (r : Registry) (names : List String)

/-- Makes a change. Where it cannot be made the page stays as it is, except that bindings are brought up to
    date as far as their names are known. -/
def edit (doc : Document) : Edit → Document
  | .create payload => (doc.create payload).1
  | .detach id => doc.detach id
  | .append parent child => doc.append parent child
  | .insertBefore reference child => (doc.insertBefore? reference child).getD doc
  | .replace old replacement => (doc.replace? old replacement).getD doc
  | .clearChildren id => doc.clearChildren id
  | .mapAttributes id f => doc.mapAttributes id f
  | .setText id content => doc.setText id content
  | .setTextContent id content => doc.setTextContent id content
  | .setInnerHtml id markup => doc.setInnerHtml id markup
  | .expand root r =>
    match doc.expand root r with
    | .ok (doc, _) => doc
    | .error _ => doc
  | .refresh bindings r names => (doc.refresh bindings r names).2

/-- The nodes are there, and none is put below itself. -/
def Proper (doc : Document) : Edit → Prop
  | .create _ => True
  | .detach id | .clearChildren id | .mapAttributes id _ | .setText id _ | .setTextContent id _
  | .setInnerHtml id _ | .expand id _ => id < doc.size
  | .append parent child =>
    parent < doc.size ∧ child < doc.size ∧ ¬ ReflTransGen doc.Child child parent
  | .insertBefore reference child | .replace reference child =>
    reference < doc.size ∧ child < doc.size ∧
      ∀ p, doc.parent? reference = some p → ¬ ReflTransGen doc.Child child p
  | .refresh bindings _ _ => ∀ name, ∀ id ∈ bindings.elements name, id < doc.size

/-- Makes one change after another. -/
def edited (doc : Document) (edits : List Edit) : Document := edits.foldl edit doc

/-- Every change is proper when its turn comes. -/
def ProperHistory (doc : Document) : List Edit → Prop
  | [] => True
  | e :: rest => doc.Proper e ∧ (doc.edit e).ProperHistory rest

/-- **A proper change keeps a forest.** -/
theorem Forest.edit (h : doc.Forest) {e : Edit} (he : doc.Proper e) : (doc.edit e).Forest := by
  cases e with
  | create payload => exact h.create payload
  | detach id => exact h.detach id
  | append parent child => exact h.append he.1 he.2.1 he.2.2
  | insertBefore reference child =>
      rw [Document.edit]
      cases hafter : doc.insertBefore? reference child with
      | none => exact h
      | some after => exact h.insertBefore? he.2.1 he.2.2 hafter
  | replace old replacement =>
      rw [Document.edit]
      cases hafter : doc.replace? old replacement with
      | none => exact h
      | some after => exact h.replace? he.2.1 he.2.2 hafter
  | clearChildren id => exact h.clearChildren he
  | mapAttributes id f => exact h.mapAttributes id f
  | setText id content => exact h.setText id content
  | setTextContent id content => exact h.setTextContent he content
  | setInnerHtml id markup => exact h.setInnerHtml he markup
  | expand root r =>
      rw [Document.edit]
      cases hafter : doc.expand root r with
      | error e => exact h
      | ok made =>
          obtain ⟨after, s, found⟩ := made
          obtain ⟨lexicon, _, _, rfl, _⟩ := expand_eq_ok hafter
          exact h.expandBelow lexicon root
  | refresh bindings r names => exact h.refresh r he names

/-- A history that goes on from a forest. -/
theorem Forest.properHistory_cons (h : doc.Forest) {e : Edit} {rest : List Edit} (he : doc.Proper e)
    (hrest : (doc.edit e).Forest → (doc.edit e).ProperHistory rest) : doc.ProperHistory (e :: rest) :=
  ⟨he, hrest (h.edit he)⟩

/-- **A history of proper changes keeps a forest.** -/
theorem Forest.edited (h : doc.Forest) {edits : List Edit} (hedits : doc.ProperHistory edits) :
    (doc.edited edits).Forest := by
  induction edits generalizing doc with
  | nil => exact h
  | cons e rest ih => exact ih (h.edit hedits.1) hedits.2

/-! ## 4. What readers rely on -/

/-- **Pages are forests.** Whatever proper changes an empty page or one that was read has gone through, a
    node is among the children of its parent once and in no other place, and no node is below itself. Every
    tour through what is below a node comes to its end. It lists each node there once, a node before its
    children, and these in their order. -/
theorem edited_is_forest {start : Document} (hstart : start = empty ∨ ∃ markup, start = parse markup)
    {edits : List Edit} (hedits : start.ProperHistory edits) :
    (∀ p c, c ∈ (start.edited edits).children p ↔ (start.edited edits).parent? c = some p) ∧
    (∀ p c, c ∈ (start.edited edits).children p → ((start.edited edits).children p).count c = 1) ∧
    (∀ id, ¬ TransGen (start.edited edits).Child id id) ∧
    ∀ id < (start.edited edits).size,
      (∀ steps, ((start.edited edits).descendants id).length ≤ steps →
        Tour.go (start.edited edits) steps (.start (start.edited edits) id) =
          ⟨(start.edited edits).descendants id, []⟩) ∧
      (∀ c, c ∈ (start.edited edits).descendants id ↔ TransGen (start.edited edits).Child id c) ∧
      (id :: (start.edited edits).descendants id).Nodup ∧
      ∀ p ∈ id :: (start.edited edits).descendants id,
        (p :: (start.edited edits).children p).Sublist (id :: (start.edited edits).descendants id) := by
  have hforest : (start.edited edits).Forest := by
    rcases hstart with rfl | ⟨markup, rfl⟩
    · exact forest_empty.edited hedits
    · exact (forest_parse markup).edited hedits
  generalize start.edited edits = doc at hforest
  refine ⟨hforest.linked.mirrored, fun p c hc => ?_, hforest.acyclic, fun id hid => ?_⟩
  · exact List.count_eq_one_of_mem (hforest.linked.distinct p) hc
  · exact ⟨fun _ => hforest.go_start hid, fun _ => hforest.mem_descendants hid,
      hforest.nodup_descendants hid, fun _ => (hforest.within hid).sublist_descendantsTo⟩

/-- A text is moved into its sibling and filled there, and what is in the paragraph comes to be around it. -/
def turned : List Edit :=
  [.insertBefore 4 2, .expand Document.root pair, .replace 1 3, .append 3 1]

theorem edited_is_forest_of_turned :
    let doc := (parse "<p>xAx<b>c</b></p>").edited turned
    (parse "<p>xAx<b>c</b></p>").ProperHistory turned ∧ (∀ id, ¬ TransGen doc.Child id id) ∧
      doc.children 3 = [5, 4, 1] ∧ Tour.go doc 4 (.start doc Document.root) = ⟨[3, 5, 4, 1], []⟩ ∧
      ∀ c, TransGen doc.Child 3 c → c = 5 ∨ c = 4 ∨ c = 1 := by
  -- what is not listed below a node is not below it
  have houtside : ∀ {doc : Document} {child p : Nat}, doc.Forest → child < doc.size →
      p ∉ child :: doc.descendants child → ¬ ReflTransGen doc.Child child p :=
    fun h hchild => mt (h.mem_cons_descendants hchild).mpr
  have hproper : (parse "<p>xAx<b>c</b></p>").ProperHistory turned := by
    refine (forest_parse _).properHistory_cons ⟨by decide +kernel, by decide +kernel, fun p hp => ?_⟩
      fun hmoved => hmoved.properHistory_cons ?_ fun hfilled => hfilled.properHistory_cons
        ⟨by decide +kernel, by decide +kernel, fun p hp => ?_⟩ fun hreplaced =>
          hreplaced.properHistory_cons ⟨by decide +kernel, by decide +kernel, ?_⟩ fun _ => trivial
    · obtain rfl := Option.some.inj ((by decide +kernel : _ = some 3).symm.trans hp)
      exact houtside (forest_parse _) (by decide +kernel) (by decide +kernel)
    · rw [Proper]
      decide +kernel
    · obtain rfl := Option.some.inj ((by decide +kernel : _ = some 0).symm.trans hp)
      exact houtside hfilled (by decide +kernel) (by decide +kernel)
    · exact houtside hreplaced (by decide +kernel) (by decide +kernel)
  obtain ⟨_, _, hround, hlisted⟩ := edited_is_forest (.inr ⟨_, rfl⟩) hproper
  obtain ⟨htour, _⟩ := hlisted Document.root (by decide +kernel)
  obtain ⟨_, hbelow, _⟩ := hlisted 3 (by decide +kernel)
  have hroot : ((parse "<p>xAx<b>c</b></p>").edited turned).descendants Document.root = [3, 5, 4, 1] := by
    decide +kernel
  have hb : ((parse "<p>xAx<b>c</b></p>").edited turned).descendants 3 = [5, 4, 1] := by decide +kernel
  refine ⟨hproper, hround, by decide +kernel, ?_, fun c hc => ?_⟩
  · exact (htour 4 (by rw [hroot]; decide)).trans (by rw [hroot])
  · have hmem := (hbelow c).mpr hc
    rw [hb] at hmem
    simpa using hmem

end Placeholders.Document
