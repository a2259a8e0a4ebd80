import Placeholders.Proofs.Markup.Outline
import Placeholders.Proofs.Markup.RoundTrip

/-!
# Pieces that stand by themselves

* A tree `Stands` if it is read back wherever it is written: what is read shows the tree, and then what
  is read of the rest by itself.
* A text stands whatever follows it. It may be read together with more text, but then the characters of
  both are shown one after the other (`stands_text`).
* What a raw element holds can only be found out by looking at what follows the element. If it is shown
  there, then the text does not close the element (`not_infix_of_trace`). The reason is that a closing tag
  shows nothing, so that too few characters would be left before the next piece: the `lead` would be too
  short.
-/

namespace Placeholders.Markup

open Placeholders.Text Placeholders.Markup.Tree

/-! ## 1. Standing -/

/-- Reading the written form of a tree shows the tree, and then what is read of the rest by itself. -/
def Tree.Stands (tree : Tree) : Prop :=
  ∀ (opened : List String) (rest : List Char),
    trace opened (tokens (render tree ++ rest)) =
      outline opened.length tree ++ trace opened (tokens rest)

theorem trace_renderAll {trees : List Tree} (h : ∀ tree ∈ trees, tree.Stands) (opened : List String)
    (rest : List Char) :
    trace opened (tokens (renderAll false trees ++ rest)) =
      outlineAll opened.length trees ++ trace opened (tokens rest) := by
  induction trees with
  | nil => rfl
  | cons tree trees ih =>
      obtain ⟨htree, htrees⟩ := List.forall_mem_cons.mp h
      rw [renderAll_cons, List.append_assoc, htree opened _, ih htrees, outlineAll, List.append_assoc]

/-- The part of a text up to the next `<`, which may be empty, is shown as it is read. -/
theorem trace_text {s rest : List Char} (hs : '<' ∉ s) (hrest : EndsText rest) (opened : List String) :
    trace opened (tokens (s ++ rest)) =
      charMarks opened.length (decode s) ++ trace opened (tokens rest) := by
  by_cases hne : s = []
  · subst hne
    rw [decode]
    rfl
  · rw [tokens_append_of_endsText hne hs hrest, trace, Token.marks, Token.after,
      String.toList_ofList]

theorem exists_text_append (s : List Char) :
    ∃ text rest, s = text ++ rest ∧ '<' ∉ text ∧ EndsText rest := by
  refine ⟨s.takeWhile (· != '<'), s.dropWhile (· != '<'), List.takeWhile_append_dropWhile.symm,
    fun hmem => absurd (List.mem_takeWhile_imp hmem) (by decide), ?_⟩
  cases hrest : s.dropWhile (· != '<') with
  | nil => exact .inl rfl
  | cons c rest =>
      have hc := List.head?_dropWhile_not (· != '<') s
      rw [hrest, List.head?_cons] at hc
      exact .inr ⟨rest, by rw [show c = '<' by simpa using hc]⟩

/-- **A text stands**, even where more text follows. -/
theorem stands_text (content : String) : (Tree.text content).Stands := by
  intro opened rest
  obtain ⟨text, rest, rfl, htext, hrest⟩ := exists_text_append rest
  have hboth : '<' ∉ escapeText content.toList ++ text := fun hmem =>
    (List.mem_append.mp hmem).elim (lt_not_mem_escapeText _) htext
  rw [render, ← List.append_assoc, trace_text hboth hrest, trace_text htext hrest,
    decode_escapeText_append, charMarks_append, List.append_assoc]
  rfl

theorem stands_doctype {declaration : String} (htrim : trim declaration.toList = declaration.toList)
    (hgt : '>' ∉ declaration.toList) : (Tree.doctype declaration).Stands := by
  intro opened rest
  rw [render, tokens_renderDoctype htrim hgt]
  rfl

theorem stands_comment {body : String} (h : ¬ ['-', '-', '>'] <:+: body.toList) :
    (Tree.comment body).Stands := by
  intro opened rest
  rw [render, tokens_renderComment h]
  rfl

/-- The tag that opens an element is shown, and the element is open behind it. -/
theorem trace_renderOpening {tag : String} {attributes : Attributes} (htag : IsTagName tag)
    (hattributes : AreAttributes attributes) (hvoid : isVoid tag = false) (hraw : isRaw tag = false)
    (opened : List String) (rest : List Char) :
    trace opened (tokens (renderOpening tag attributes ++ rest)) =
      (opened.length, .element tag attributes) :: trace (tag :: opened) (tokens rest) := by
  have htoken : tagToken tag attributes false rest = (.opening tag attributes, rest) := by
    simp [tagToken, hvoid, hraw]
  rw [tokens_renderOpening htag hattributes, htoken]
  rfl

theorem after_closing (tag : String) (opened : List String) :
    (Token.closing tag).after (tag :: opened) = opened := by
  simp [Token.after, List.findIdx?_cons]

theorem stands_void {tag : String} {attributes : Attributes} (htag : IsTagName tag)
    (hattributes : AreAttributes attributes) (hvoid : isVoid tag = true) :
    (Tree.element tag attributes []).Stands := by
  intro opened rest
  have htoken : tagToken tag attributes false rest = (.leaf tag attributes, rest) := by
    simp [tagToken, hvoid]
  rw [render, if_pos hvoid, List.append_nil, tokens_renderOpening htag hattributes, htoken]
  rfl

theorem stands_element {tag : String} {attributes : Attributes} {children : List Tree}
    (htag : IsTag tag) (hattributes : AreAttributes attributes) (hvoid : isVoid tag = false)
    (hraw : isRaw tag = false) (hchildren : ∀ tree ∈ children, tree.Stands) :
    (Tree.element tag attributes children).Stands := by
  intro opened rest
  rw [render, if_neg (by simp [hvoid]), hraw, List.append_assoc, List.append_assoc,
    trace_renderOpening htag.isTagName hattributes hvoid hraw, trace_renderAll hchildren,
    tokens_renderClosing htag.isTagName htag.trim_eq, trace, after_closing]
  rfl

/-! ## 2. Raw elements -/

theorem isTag_of_isRaw {tag : String} (h : isRaw tag = true) : IsTag tag := by
  simp only [isRaw, Bool.or_eq_true, beq_iff_eq] at h
  rcases h with rfl | rfl <;> decide

/-- Where there is nothing but text, what is written is what is shown. -/
theorem outlineAll_of_isText {trees : List Tree} (h : ∀ tree ∈ trees, tree.isText = true)
    (depth : Nat) : outlineAll depth trees = charMarks depth (renderAll true trees) := by
  induction trees with
  | nil => rfl
  | cons tree trees ih =>
      obtain ⟨htree, htrees⟩ := List.forall_mem_cons.mp h
      cases tree with
      | text content =>
          rw [outlineAll, ih htrees, renderAll, if_pos rfl, charMarks_append]
          rfl
      | doctype | comment | element | fragment => cases htree

theorem render_raw {tag : String} (hraw : isRaw tag = true) (attributes : Attributes)
    (children : List Tree) (rest : List Char) :
    render (.element tag attributes children) ++ rest =
      renderOpening tag attributes ++ (renderAll true children ++ (renderClosing tag ++ rest)) := by
  rw [render, if_neg (by simp [not_isVoid_of_isRaw hraw]), hraw, List.append_assoc, List.append_assoc]

/-- **A raw element stands** if its text does not close it. -/
theorem stands_raw {tag : String} {attributes : Attributes} {children : List Tree}
    (hattributes : AreAttributes attributes) (hraw : isRaw tag = true)
    (htexts : ∀ tree ∈ children, tree.isText = true)
    (hinside : ¬ '<' :: '/' :: tag.toList <:+: lower (renderAll true children)) :
    (Tree.element tag attributes children).Stands := by
  intro opened rest
  rw [render_raw hraw, tokens_raw (isTag_of_isRaw hraw) hattributes hraw hinside, trace, trace,
    Token.after, after_closing, outline, outlineAll_of_isText htexts]
  simp [Token.marks]

/-! ## 3. Leads -/

/-- Whether a mark is a character. -/
def Mark.isChar : Mark → Bool
  | char _ => true
  | _ => false

/-- The number of characters before the first piece of another kind. -/
def lead (marks : Outline) : Nat := ((marks.map (·.2)).takeWhile Mark.isChar).length

/-- The lead of what is read of a text. -/
def leadOf (s : List Char) : Nat := lead (trace [] (tokens s))

theorem lead_charMarks_append (depth : Nat) (s : List Char) (marks : Outline) :
    lead (charMarks depth s ++ marks) = s.length + lead marks := by
  induction s with
  | nil => exact (Nat.zero_add _).symm
  | cons c s ih =>
      have hcons : lead (charMarks depth (c :: s) ++ marks) =
          lead (charMarks depth s ++ marks) + 1 := rfl
      rw [hcons, ih, List.length_cons]
      omega

/-- Whatever the lead of an outline is, it does not get longer than what follows it allows. -/
theorem lead_append_mono {front front' marks marks' : Outline}
    (hfront : front.map (·.2) = front'.map (·.2)) (h : lead marks ≤ lead marks') :
    lead (front ++ marks) ≤ lead (front' ++ marks') := by
  simp only [lead, List.map_append] at h ⊢
  rw [hfront, List.takeWhile_append, List.takeWhile_append]
  split
  · rw [List.length_append, List.length_append]
    omega
  · exact Nat.le_refl _

theorem map_snd_outline (n m : Nat) (tree : Tree) :
    (outline n tree).map (·.2) = (outline m tree).map (·.2) := by
  have hat : ∀ k, (outline k tree).map (·.2) = (outline 0 tree).map (·.2) := fun k => by
    rw [← Nat.zero_add k, outline_add, List.map_map]
    rfl
  rw [hat n, hat m]

theorem map_snd_marks (n m : Nat) (token : Token) :
    (token.marks n).map (·.2) = (token.marks m).map (·.2) := by
  cases token <;> simp [Token.marks, charMarks]

/-- Which elements are open makes no difference to what is shown, but for where it is. -/
theorem map_snd_trace (opened opened' : List String) (l : List Token) :
    (trace opened l).map (·.2) = (trace opened' l).map (·.2) := by
  induction l generalizing opened opened' with
  | nil => rfl
  | cons token l ih =>
      rw [trace, trace, List.map_append, List.map_append, map_snd_marks opened.length opened'.length,
        ih (token.after opened)]

theorem lead_trace (opened : List String) (s : List Char) :
    lead (trace opened (tokens s)) = leadOf s := by
  rw [leadOf, lead, lead, map_snd_trace opened []]

theorem leadOf_closing {s rest : List Char} {tag : String}
    (h : tokens s = .closing tag :: tokens rest) : leadOf s = leadOf rest := by
  rw [leadOf, h, trace]
  exact lead_trace _ rest

theorem leadOf_renderClosing {tag : String} (hgt : '>' ∉ tag.toList) (rest : List Char) :
    leadOf (renderClosing tag ++ rest) = leadOf rest :=
  leadOf_closing (tokens_renderClosing_trim hgt rest)

theorem leadOf_renderOpening {tag : String} {attributes : Attributes} (htag : IsTagName tag)
    (hattributes : AreAttributes attributes) (rest : List Char) :
    leadOf (renderOpening tag attributes ++ rest) = 0 := by
  rw [leadOf, tokens_renderOpening htag hattributes, trace]
  unfold tagToken
  split
  · rfl
  · split <;> rfl

theorem Tree.Stands.leadOf_le {tree : Tree} (h : tree.Stands) {rest : List Char} {marks : Outline}
    (hrest : leadOf rest ≤ lead marks) (depth : Nat) :
    leadOf (render tree ++ rest) ≤ lead (outline depth tree ++ marks) := by
  rw [leadOf, h [] rest]
  exact lead_append_mono (map_snd_outline _ depth tree) hrest

/-! ## 4. Texts before a closing tag -/

theorem declaration_cases (body : List Char) :
    (∃ text, declaration body = .doctype text) ∨ ∃ text, declaration body = .comment text := by
  unfold declaration
  dsimp only
  split
  · exact .inl ⟨_, rfl⟩
  · exact .inr ⟨_, rfl⟩

/-- What begins with a `<` is a piece that shows something first, or a closing tag. -/
theorem markup?_cases {s rest : List Char} {token : Token} (h : markup? s = some (token, rest)) :
    (∃ t name, s = '/' :: t ∧ cutAt? ['>'] t = some (name, rest) ∧
      token = .closing (String.ofList (lower (trim name)))) ∨
      ∀ marks, lead (token.marks 0 ++ marks) = 0 := by
  unfold markup? at h
  split at h
  · cases h
    exact .inr fun _ => rfl
  · rename_i s _
    have heq : declaration (cutAt ['>'] s).1 = token := congrArg Prod.fst (Option.some.inj h)
    right
    rcases declaration_cases (cutAt ['>'] s).1 with ⟨text, hkind⟩ | ⟨text, hkind⟩ <;>
    · rw [← heq, hkind]
      exact fun _ => rfl
  · obtain ⟨⟨name, after⟩, hcut, heq⟩ := Option.map_eq_some_iff.mp h
    cases heq
    exact .inl ⟨_, name, rfl, hcut, rfl⟩
  · right
    split at h
    · obtain ⟨⟨⟨attributes, slash⟩, after⟩, _, heq⟩ := Option.map_eq_some_iff.mp h
      unfold tagToken at heq
      dsimp only at heq
      split at heq
      · cases heq
        exact fun _ => rfl
      · split at heq <;>
        · cases heq
          exact fun _ => rfl
    · cases h
  · cases h

theorem length_decode_le (s : List Char) : (decode s).length ≤ s.length := by
  fun_induction decode s with
  | case1 => exact Nat.le_refl _
  | case2 c s hc d length hread ih =>
      rw [List.length_drop] at ih
      simp only [List.length_cons]
      omega
  | case3 c s hc hread ih => simpa using ih
  | case4 c s hc ih => simpa using ih

/-- A closing tag that begins in a text ends in it, or with the next closing tag. -/
theorem exists_tokens_closing {tag : String} (hgt : '>' ∉ tag.toList) (s rest : List Char) :
    ∃ name, (∃ t, t.length < s.length ∧ tokens ('<' :: '/' :: (s ++ (renderClosing tag ++ rest))) =
        .closing name :: tokens (t ++ (renderClosing tag ++ rest))) ∨
      tokens ('<' :: '/' :: (s ++ (renderClosing tag ++ rest))) = .closing name :: tokens rest := by
  have hmarkup : ∀ front back, '>' ∉ front →
      s ++ (renderClosing tag ++ rest) = front ++ '>' :: back →
      tokens ('<' :: '/' :: (s ++ (renderClosing tag ++ rest))) =
        .closing (String.ofList (lower (trim front))) :: tokens back := by
    intro front back hfront heq
    refine tokens_of_markup? ?_
    simp [markup?, heq, cutAt?_singleton_append hfront]
  by_cases hmem : '>' ∈ s
  · obtain ⟨front, back, rfl, hfront⟩ := List.eq_append_cons_of_mem hmem
    refine ⟨_, .inl ⟨back, ?_,
      hmarkup front (back ++ (renderClosing tag ++ rest)) hfront (by simp)⟩⟩
    simp only [List.length_append, List.length_cons]
    omega
  · refine ⟨_, .inr (hmarkup (s ++ '<' :: '/' :: tag.toList) rest ?_ ?_)⟩
    · simp [hmem, hgt]
    · simp [renderClosing]

/-- The text that begins with a character leads, and then what follows the text does. -/
theorem leadOf_cons_of_text {c : Char} {s rest : List Char} (hs : '<' ∉ s) (hrest : EndsText rest)
    (hnext : next c (s ++ rest) = textToken c (s ++ rest)) :
    leadOf (c :: (s ++ rest)) ≤ s.length + 1 + leadOf rest := by
  have hdecode := length_decode_le (c :: s)
  rw [leadOf, tokens, hnext, textToken_append c hs hrest, trace, Token.marks, lead_charMarks_append,
    lead_trace, String.toList_ofList]
  exact Nat.add_le_add_right hdecode _

/-- **A text before a closing tag has no longer a lead than it has characters.** The induction is on the
    length of the text; a token takes some of it, and only a closing tag can go on behind it. -/
theorem leadOf_append_le {tag : String} (hgt : '>' ∉ tag.toList) (s rest : List Char) :
    leadOf (s ++ (renderClosing tag ++ rest)) ≤ s.length + leadOf rest := by
  induction hlength : s.length using Nat.strongRecOn generalizing s with
  | _ n ih =>
      subst hlength
      cases s with
      | nil =>
          rw [List.nil_append, leadOf_renderClosing hgt]
          exact Nat.le_add_left _ _
      | cons c s =>
          rw [List.cons_append, List.length_cons]
          have htext : next c (s ++ (renderClosing tag ++ rest)) =
              textToken c (s ++ (renderClosing tag ++ rest)) →
              leadOf (c :: (s ++ (renderClosing tag ++ rest))) ≤ s.length + 1 + leadOf rest := by
            intro hnext
            obtain ⟨text, back, rfl, htext, hback⟩ := exists_text_append s
            have hmore : EndsText (back ++ (renderClosing tag ++ rest)) := by
              rcases hback with rfl | ⟨more, rfl⟩
              · exact .inr ⟨_, rfl⟩
              · exact .inr ⟨_, rfl⟩
            rw [List.append_assoc] at hnext ⊢
            have hfirst := leadOf_cons_of_text htext hmore hnext
            have hshorter : back.length < (c :: (text ++ back)).length := by
              rw [List.length_cons, List.length_append]
              omega
            have hafter := ih back.length hshorter back rfl
            rw [List.length_append]
            omega
          by_cases hc : c = '<'
          · subst hc
            cases hmarkup : markup? (s ++ (renderClosing tag ++ rest)) with
            | none => exact htext (by simp [next, hmarkup])
            | some found =>
                obtain ⟨token, after⟩ := found
                rcases markup?_cases hmarkup with ⟨t, name, ht, _, _⟩ | hpiece
                · cases s with
                  | nil => cases ht
                  | cons d s =>
                      obtain ⟨rfl, _⟩ := List.cons.inj ht
                      obtain ⟨name, ⟨t, hshorter, htokens⟩ | htokens⟩ :=
                        exists_tokens_closing hgt s rest
                      · have hafter := ih t.length (by simp; omega) t rfl
                        rw [List.cons_append, leadOf_closing htokens, List.length_cons]
                        omega
                      · rw [List.cons_append, leadOf_closing htokens]
                        exact Nat.le_add_left _ _
                · rw [leadOf, tokens_of_markup? hmarkup, trace, List.length_nil, hpiece]
                  exact Nat.zero_le _
          · exact htext (if_neg fun heq => hc (beq_iff_eq.mp heq))

/-- A closing tag takes characters without showing any. -/
theorem leadOf_append_lt {tag : String} (hgt : '>' ∉ tag.toList) (s rest : List Char) :
    leadOf ('<' :: '/' :: s ++ (renderClosing tag ++ rest)) <
      ('<' :: '/' :: s).length + leadOf rest := by
  rw [List.cons_append, List.cons_append, List.length_cons, List.length_cons]
  obtain ⟨name, ⟨t, hshorter, htokens⟩ | htokens⟩ := exists_tokens_closing hgt s rest
  · have hafter := leadOf_append_le hgt t rest
    rw [leadOf_closing htokens]
    omega
  · rw [leadOf_closing htokens]
    omega

/-- **A raw element that is shown with its text is not closed by it.** Otherwise the text would be cut,
    and what is left of it would begin with a closing tag. -/
theorem not_infix_of_trace {tag : String} {attributes : Attributes} {opened : List String}
    {depth : Nat} {content rest : List Char} {marks : Outline} (hraw : isRaw tag = true)
    (hattributes : AreAttributes attributes) (hrest : leadOf rest ≤ lead marks)
    (hread : trace opened
        (tokens (renderOpening tag attributes ++ (content ++ (renderClosing tag ++ rest)))) =
      (depth, .element tag attributes) :: (charMarks (depth + 1) content ++ marks)) :
    ¬ '<' :: '/' :: tag.toList <:+: lower content := by
  intro hinside
  have htag := isTag_of_isRaw hraw
  obtain ⟨front, back, rfl, hback, hcut⟩ :=
    exists_cutBefore_append (List.cons_ne_nil _ _) hinside
  have htoken : tagToken tag attributes false (front ++ back ++ (renderClosing tag ++ rest)) =
      (.raw tag attributes (String.ofList front), back ++ (renderClosing tag ++ rest)) := by
    simp only [tagToken, not_isVoid_of_isRaw hraw, hraw, Bool.or_self, Bool.false_eq_true, if_false,
      if_true, hcut]
  rw [tokens_renderOpening htag.isTagName hattributes, htoken, trace, Token.marks, List.cons_append,
    String.toList_ofList, charMarks_append] at hread
  obtain ⟨hdepth, hread⟩ := List.cons.inj hread
  obtain rfl : opened.length = depth := congrArg Prod.fst hdepth
  rw [List.append_assoc] at hread
  have hleads : leadOf (back ++ (renderClosing tag ++ rest)) = back.length + lead marks := by
    rw [← lead_trace (tag :: opened), ← lead_charMarks_append]
    exact congrArg lead (List.append_cancel_left hread)
  obtain ⟨s, rfl⟩ := exists_of_closing_isPrefix_lower hback
  have hshort := leadOf_append_lt htag.isTagName.gt_not_mem s rest
  omega

end Placeholders.Markup
