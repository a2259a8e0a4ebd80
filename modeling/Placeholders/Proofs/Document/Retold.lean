import Placeholders.Proofs.Document.Growth

/-!
# Other contents

What setting the text of elements does to a document.

* `Untouched` says of a node that nothing about it has changed.
* `Retold` says that only certain nodes have got other children. The new ones have numbers that there
  have not been before.
* An element whose text is set holds that text (`retold_setTextContent`), until it is retold itself.
-/

namespace Placeholders.Document

variable {doc after last : Document} {ids : List Nat}

/-! ## 1. Retold documents -/

/-- A node and its seals are as they were. -/
structure Untouched (doc after : Document) (id : Nat) : Prop where
  payload : after.payload? id = doc.payload? id
  parent : after.parent? id = doc.parent? id
  children : after.children id = doc.children id
  sealedText : after.isSealedText id = doc.isSealedText id
  sealedAttribute : ∀ name, after.isSealedAttribute id name = doc.isSealedAttribute id name

/-- What was there before is as it was, but for the children of certain nodes. -/
structure Retold (doc after : Document) (ids : List Nat) : Prop where
  linked : after.Linked
  size_le : doc.size ≤ after.size
  payload : ∀ x < doc.size, after.payload? x = doc.payload? x
  children : ∀ x < doc.size, x ∉ ids → after.children x = doc.children x
  sealedTexts : after.sealedTexts = doc.sealedTexts
  sealedAttributes : after.sealedAttributes = doc.sealedAttributes

namespace Retold

theorem refl (hdoc : doc.Linked) : doc.Retold doc [] :=
  ⟨hdoc, Nat.le_refl _, fun _ _ => rfl, fun _ _ _ => rfl, rfl, rfl⟩

theorem trans {more : List Nat} (h : doc.Retold after ids) (h' : after.Retold last more) :
    doc.Retold last (ids ++ more) where
  linked := h'.linked
  size_le := Nat.le_trans h.size_le h'.size_le
  payload x hx := (h'.payload x (Nat.lt_of_lt_of_le hx h.size_le)).trans (h.payload x hx)
  children x hx hnot := by
    obtain ⟨hids, hmore⟩ := not_or.mp (mt List.mem_append.mpr hnot)
    rw [h'.children x (Nat.lt_of_lt_of_le hx h.size_le) hmore, h.children x hx hids]
  sealedTexts := h'.sealedTexts.trans h.sealedTexts
  sealedAttributes := h'.sealedAttributes.trans h.sealedAttributes

theorem text? (h : doc.Retold after ids) {x : Nat} (hx : x < doc.size) : after.text? x = doc.text? x := by
  simp only [Document.text?, h.payload x hx]

theorem tag? (h : doc.Retold after ids) {x : Nat} (hx : x < doc.size) : after.tag? x = doc.tag? x := by
  simp only [Document.tag?, h.payload x hx]

theorem attributes (h : doc.Retold after ids) {x : Nat} (hx : x < doc.size) :
    after.attributes x = doc.attributes x := by
  simp only [Document.attributes, h.payload x hx]

theorem isSealedText (h : doc.Retold after ids) (x : Nat) :
    after.isSealedText x = doc.isSealedText x := by
  simp only [Document.isSealedText, h.sealedTexts]

theorem isSealedAttribute (h : doc.Retold after ids) (x : Nat) (name : String) :
    after.isSealedAttribute x name = doc.isSealedAttribute x name := by
  simp only [Document.isSealedAttribute, h.sealedAttributes]

end Retold

/-! ## 2. Elements that hold a text -/

/-- The only content of a node is a text, unless that is empty. -/
def HoldsText (doc : Document) (id : Nat) (text : String) : Prop :=
  if text = "" then doc.children id = []
  else ∃ k, doc.children id = [k] ∧ doc.payload? k = some (.text text) ∧ doc.children k = []

/-- What is in an element that holds a text is that text, and nothing is in it. -/
theorem HoldsText.child {id k : Nat} {text : String} (h : doc.HoldsText id text)
    (hk : k ∈ doc.children id) : doc.payload? k = some (.text text) ∧ doc.children k = [] := by
  unfold HoldsText at h
  split at h
  · rw [h] at hk
    cases hk
  · obtain ⟨k', hchildren, htext, hleaf⟩ := h
    rw [hchildren, List.mem_singleton] at hk
    exact hk ▸ ⟨htext, hleaf⟩

/-- There is nothing else in an element that holds a text. -/
theorem HoldsText.children_eq {id k : Nat} {text : String} (h : doc.HoldsText id text)
    (hk : k ∈ doc.children id) : doc.children id = [k] := by
  unfold HoldsText at h
  split at h
  · rw [h] at hk
    cases hk
  · obtain ⟨k', hchildren, _⟩ := h
    rw [hchildren, List.mem_singleton] at hk
    rw [hchildren, hk]

/-- The text of an element that holds a text is that text. -/
theorem HoldsText.textContent_eq {id : Nat} {text : String} (h : doc.HoldsText id text)
    (hlt : id < doc.size) (hnotext : doc.text? id = none) : doc.textContent id = text := by
  obtain ⟨n, hn⟩ : ∃ n, doc.size = n + 1 := ⟨doc.size - 1, by omega⟩
  unfold HoldsText at h
  rw [textContent, hnotext, Option.getD_none, descendants, hn, descendantsTo]
  split at h
  · rename_i hempty
    rw [h, hempty]
    rfl
  · obtain ⟨k, hchildren, htext, hleaf⟩ := h
    have hbelow : doc.descendantsTo n k = [] := by
      cases n with
      | zero => rfl
      | succ n => rw [descendantsTo, hleaf, List.flatMap_nil]
    have hsome : doc.text? k = some text := by simp only [text?, htext]
    simp [hchildren, hbelow, hsome, String.join]

theorem payload?_of_text? {k : Nat} {text : String} (h : doc.text? k = some text) :
    doc.payload? k = some (.text text) := by
  unfold Document.text? at h
  split at h
  · rename_i hpayload
    rwa [Option.some.inj h] at hpayload
  · cases h

/-- What an element holds depends on its children alone. -/
theorem HoldsText.congr {id : Nat} {text : String} (h : doc.HoldsText id text)
    (hchildren : after.children id = doc.children id)
    (hleaf : ∀ k ∈ doc.children id, (doc.text? k).isSome = true →
      after.text? k = doc.text? k ∧ after.children k = doc.children k) : after.HoldsText id text := by
  unfold HoldsText at h ⊢
  split
  · rename_i hempty
    rw [if_pos hempty] at h
    rw [hchildren, h]
  · rename_i hne
    rw [if_neg hne] at h
    obtain ⟨k, hk, hpayload, hnone⟩ := h
    have htext : doc.text? k = some text := by simp only [Document.text?, hpayload]
    obtain ⟨hsame, hbelow⟩ := hleaf k (by simp [hk]) (by rw [htext]; rfl)
    exact ⟨k, hchildren.trans hk, payload?_of_text? (hsame.trans htext), hbelow.trans hnone⟩

/-- An element goes on holding its text while the children of others change, if no texts do. -/
theorem HoldsText.of_kept {id : Nat} {text : String} (h : doc.HoldsText id text)
    (hchildren : ∀ x < doc.size, x ∉ ids → after.children x = doc.children x)
    (htexts : ∀ x < doc.size, after.text? x = doc.text? x) (hlt : id < doc.size) (hid : id ∉ ids)
    (hids : ∀ x ∈ ids, doc.text? x = none) : after.HoldsText id text := by
  refine h.congr (hchildren id hlt hid) fun k _ htext => ?_
  obtain ⟨content, hcontent⟩ := Option.isSome_iff_exists.mp htext
  have hklt := lt_of_payload? (payload?_of_text? hcontent)
  have hkeep : k ∉ ids := fun hmem => by
    rw [hids k hmem] at htext
    cases htext
  exact ⟨htexts k hklt, hchildren k hklt hkeep⟩

theorem HoldsText.retold {id : Nat} {text : String} (h : doc.HoldsText id text)
    (hafter : doc.Retold after ids) (hlt : id < doc.size) (hid : id ∉ ids)
    (hids : ∀ x ∈ ids, doc.text? x = none) : after.HoldsText id text :=
  h.of_kept hafter.children (fun _ hx => hafter.text? hx) hlt hid hids

/-! ## 3. Setting a text -/

theorem seals_clearChildren (doc : Document) (id : Nat) :
    (doc.clearChildren id).sealedTexts = doc.sealedTexts ∧
      (doc.clearChildren id).sealedAttributes = doc.sealedAttributes := by
  have hfold : ∀ (cs : List Nat) (start : Document),
      (cs.foldl (fun doc child => doc.modify child fun node => { node with parent := none })
        start).sealedTexts = start.sealedTexts ∧
      (cs.foldl (fun doc child => doc.modify child fun node => { node with parent := none })
        start).sealedAttributes = start.sealedAttributes := by
    intro cs
    induction cs with
    | nil => exact fun _ => ⟨rfl, rfl⟩
    | cons c cs ih => exact fun start => ih (start.modify c _)
  exact hfold (doc.children id) _

section SetTextContent

variable (hdoc : doc.Linked) {id : Nat} (hid : id < doc.size)

include hdoc hid

/-- Setting a text makes nothing a child that has not been one, but for a new node with nothing in it. -/
theorem mem_children_setTextContent {content : String} {p c : Nat}
    (hc : c ∈ (doc.setTextContent id content).children p) :
    c ∈ doc.children p ∨ (c = doc.size ∧ (doc.setTextContent id content).children c = []) := by
  obtain ⟨hsize, _, hchildren, _⟩ := hdoc.clearChildren_spec hid
  have hcleared : ∀ {c}, c ∈ (doc.clearChildren id).children p → c ∈ doc.children p := by
    intro c hc
    rw [hchildren] at hc
    split at hc
    · exact absurd hc List.not_mem_nil
    · exact hc
  unfold setTextContent at hc ⊢
  by_cases htext : (doc.text? id).isSome = true
  · rw [if_pos htext, children_setText] at hc
    exact .inl hc
  · rw [if_neg htext] at hc ⊢
    dsimp only at hc ⊢
    by_cases hempty : content.isEmpty = true
    · rw [if_pos hempty] at hc
      exact .inl (hcleared hc)
    · rw [if_neg hempty, children_appendNew (hsize ▸ hid)] at hc ⊢
      split at hc
      · rcases List.mem_append.mp hc with hc | hc
        · exact .inl (hcleared hc)
        · obtain rfl := (List.mem_singleton.mp hc).trans hsize
          refine .inr ⟨rfl, ?_⟩
          rw [if_neg (Nat.ne_of_gt hid), children_eq_nil (Nat.le_of_eq hsize)]
      · exact .inl (hcleared hc)

theorem retold_clearChildren : doc.Retold (doc.clearChildren id) [id] := by
  obtain ⟨hsize, hpayload, hchildren, _⟩ := hdoc.clearChildren_spec hid
  obtain ⟨htexts, hattributes⟩ := seals_clearChildren doc id
  refine ⟨hdoc.clearChildren hid, Nat.le_of_eq hsize.symm, fun x _ => hpayload x, fun x _ hx => ?_, htexts,
    hattributes⟩
  rw [hchildren, if_neg (by simpa using hx)]

theorem retold_appendNew (payload : Payload) : doc.Retold (doc.appendNew id payload) [id] := by
  refine ⟨hdoc.appendNew hid payload, by simp, fun x hx => ?_, fun x _ hx => ?_, ?_, ?_⟩
  · rw [payload?_appendNew, if_neg (Nat.ne_of_lt hx)]
  · rw [children_appendNew hid, if_neg (by simpa using hx)]
  · rw [appendNew_eq]
    rfl
  · rw [appendNew_eq]
    rfl

/-- **Setting the text of an element retells that element and no other**, and then it holds the text. -/
theorem retold_setTextContent (hnotext : doc.text? id = none) (content : String) :
    doc.Retold (doc.setTextContent id content) [id] ∧
      (doc.setTextContent id content).HoldsText id content := by
  obtain ⟨hsize, _, hchildren, _⟩ := hdoc.clearChildren_spec hid
  have hcleared := retold_clearChildren hdoc hid
  have hid' : id < (doc.clearChildren id).size := hsize.symm ▸ hid
  have hnone : (doc.clearChildren id).children id = [] := by rw [hchildren, if_pos rfl]
  unfold setTextContent
  rw [hnotext]
  by_cases hempty : content = ""
  · have hfilled : content.isEmpty = true := by simpa [String.isEmpty_iff] using hempty
    simp only [hfilled, Option.isSome_none, Bool.false_eq_true, if_false, if_true]
    refine ⟨hcleared, ?_⟩
    rw [HoldsText, if_pos hempty]
    exact hnone
  · have hfilled : content.isEmpty = false := by simpa [String.isEmpty_iff] using hempty
    simp only [hfilled, Option.isSome_none, Bool.false_eq_true, if_false]
    have hmore := retold_appendNew hcleared.linked hid' (.text content)
    refine ⟨?_, ?_⟩
    · have hboth := hcleared.trans hmore
      exact ⟨hboth.linked, hboth.size_le, hboth.payload,
        fun x hx hne => hboth.children x hx (by simpa using hne), hboth.sealedTexts,
        hboth.sealedAttributes⟩
    · rw [HoldsText, if_neg hempty]
      refine ⟨(doc.clearChildren id).size, ?_, ?_, ?_⟩
      · rw [children_appendNew hid', if_pos rfl, hnone]
        rfl
      · rw [payload?_appendNew, if_pos rfl]
      · rw [children_appendNew hid', if_neg (Nat.ne_of_gt hid'), children_eq_nil (Nat.le_refl _)]

end SetTextContent

end Placeholders.Document
