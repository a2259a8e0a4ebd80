import Placeholders.Proofs.Markup.RoundTrip

/-!
# Trees that have been read

Every piece of a tree that has been read can be written and read again: `legible_of_mem_parse`.

* `Legible` says so of trees. It is less than `Writable` (`Writable.legible`): a page whose pieces are
  legible need not be read back as the page that it is, since an element may end elsewhere.
* The tokens of any text are legible (`legible_of_mem_tokens`), and so is what is made of them
  (`Draft.Legible.step`).
-/

namespace Placeholders.Markup

open Placeholders.Text

/-! ## 1. Names and attributes -/

theorem isNameChar_of_isAlpha {c : Char} (h : c.isAlpha = true) : isNameChar c = true := by
  simp only [isNameChar, isAsciiBlank, Bool.and_eq_true, bne_iff_ne, ne_eq, Bool.not_eq_true',
    Bool.or_eq_false_iff, beq_eq_false_iff_ne]
  refine ⟨⟨⟨⟨⟨⟨⟨?_, ?_⟩, ?_⟩, ?_⟩, ?_⟩, ?_⟩, ?_⟩, ?_⟩ <;>
  · rintro rfl
    exact absurd h (by decide)

theorem isNameChar_of_isLower {c : Char} (h : c.isLower = true) : isNameChar c = true := by
  refine isNameChar_of_isAlpha ?_
  show (c.isUpper || c.isLower) = true
  rw [h, Bool.or_true]

theorem isTagChar_of_isNameChar {c : Char} (h : isNameChar c = true) : isTagChar c = true := by
  simp only [isNameChar, isTagChar, Bool.and_eq_true] at h ⊢
  exact ⟨⟨h.1.1.1, h.1.2⟩, h.2⟩

/-- A name that begins with a letter is the name of a tag, in small letters. -/
theorem isTagName_lower {c : Char} {s : List Char} (hc : c.isAlpha = true)
    (hs : ∀ d ∈ s, isTagChar d = true) : IsTagName (String.ofList (lower (c :: s))) := by
  have hfirst : c.toLower.isLower = true := by
    rcases toLower_cases c with ⟨heq, hupper⟩ | hlower
    · have halpha : (c.isUpper || c.isLower) = true := hc
      rwa [heq, ← Bool.false_or c.isLower, ← hupper]
    · exact hlower
  refine ⟨by simpa [lower] using hfirst, ?_⟩
  rw [String.toList_ofList, lower, List.map_cons]
  refine List.forall_mem_cons.mpr ⟨⟨isUpper_of_isLower hfirst, ?_⟩, ?_⟩
  · exact isTagChar_of_isNameChar (isNameChar_of_isLower hfirst)
  · exact forall_mem_lower (fun d hd => isTagChar_of_isNameChar (isNameChar_of_isLower hd)) hs

theorem areAttributes_nil : AreAttributes [] := by decide

theorem AreAttributes.addAttribute {attributes : Attributes} (h : AreAttributes attributes)
    {name : List Char} (hname : ∀ c ∈ name, isNameChar c = true) (value : List Char) :
    AreAttributes (addAttribute attributes name value) := by
  unfold Markup.addAttribute
  dsimp only
  split
  · exact h
  · rename_i hnew
    simp only [Bool.or_eq_true, not_or, Bool.not_eq_true, List.any_eq_false, beq_iff_eq] at hnew
    obtain ⟨hnonempty, hnew⟩ := hnew
    have hall : ∀ p : String → Prop, (∀ other ∈ attributes.map (·.1), p other) →
        p (String.ofList (lower name)) →
        ∀ other ∈ (attributes ++ [(String.ofList (lower name), String.ofList value)]).map (·.1),
          p other := by
      intro p hold hadded
      rw [List.map_append]
      exact List.forall_mem_append.mpr ⟨hold, List.forall_mem_singleton.mpr hadded⟩
    refine ⟨hall _ h.named (by simpa using hnonempty), ?_, hall _ h.plain ?_⟩
    · rw [List.map_append, List.map_singleton, List.nodup_append]
      refine ⟨h.distinct, by simp, fun other hother added hadded => ?_⟩
      obtain ⟨entry, hentry, rfl⟩ := List.mem_map.mp hother
      rw [List.mem_singleton.mp hadded]
      exact hnew entry hentry
    · intro c hc
      rw [String.toList_ofList] at hc
      obtain ⟨hupper, hchar⟩ := forall_mem_lower (fun d hd => isNameChar_of_isLower hd) hname c hc
      simp only [isNameChar, Bool.and_eq_true, Bool.not_eq_true', bne_iff_ne] at hchar
      exact ⟨hupper, hchar.1.1.1, hchar.1.1.2, hchar.1.2, hchar.2⟩

theorem forall_isNameChar_of_readAttribute? {c : Char} {s name value rest : List Char}
    (hblank : isAsciiBlank c = false) (hgt : c ≠ '>') (hslash : c ≠ '/')
    (h : readAttribute? c s = some ((name, value), rest)) : ∀ d ∈ name, isNameChar d = true := by
  have hname : name = if c == '=' then [] else c :: s.takeWhile isNameChar := by
    unfold readAttribute? at h
    dsimp only at h
    split at h
    · obtain ⟨pair, _, heq⟩ := Option.map_eq_some_iff.mp h
      exact (congrArg (·.1.1) heq).symm
    · exact (congrArg (·.1.1) (Option.some.inj h)).symm
  rw [hname]
  split
  · exact List.forall_mem_nil _
  · rename_i hequals
    refine List.forall_mem_cons.mpr ⟨?_, fun d hd => List.mem_takeWhile_imp hd⟩
    simp only [isNameChar, Bool.and_eq_true, Bool.not_eq_true', bne_iff_ne]
    exact ⟨⟨⟨hblank, by simpa using hequals⟩, hgt⟩, hslash⟩

theorem isAsciiBlank_of_dropWhile {s rest : List Char} {c : Char}
    (h : s.dropWhile isAsciiBlank = c :: rest) : isAsciiBlank c = false := by
  have hfirst := List.head?_dropWhile_not isAsciiBlank s
  rwa [h] at hfirst

/-- **The attributes of a tag are read back as they are written.** -/
theorem AreAttributes.of_tagRest? {attributes found : Attributes} {slash ended : Bool}
    {s rest : List Char} (hattributes : AreAttributes attributes)
    (h : tagRest? attributes slash s = some ((found, ended), rest)) : AreAttributes found := by
  fun_induction tagRest? attributes slash s with
  | case1 => cases h
  | case2 =>
      cases h
      exact hattributes
  | case3 attributes slash s c tail hs _ _ ih => exact ih hattributes h
  | case4 => cases h
  | case5 attributes slash s c tail hs hgt hslash name value after hread ih =>
      refine ih (hattributes.addAttribute ?_ value) h
      exact forall_isNameChar_of_readAttribute? (isAsciiBlank_of_dropWhile hs) (by simpa using hgt)
        (by simpa using hslash) hread

/-! ## 2. Tokens -/

/-- Tokens that can be written. -/
def Token.Legible : Token → Prop
  | comment body => ¬ ['-', '-', '>'] <:+: body.toList
  | doctype declaration =>
    trim declaration.toList = declaration.toList ∧ '>' ∉ declaration.toList
  | text content => content ≠ ""
  | opening tag attributes | raw tag attributes _ =>
    IsTagName tag ∧ AreAttributes attributes ∧ isVoid tag = false
  | leaf tag attributes => IsTagName tag ∧ AreAttributes attributes
  | closing _ => True

theorem legible_tagToken {tag : String} {attributes : Attributes} (htag : IsTagName tag)
    (hattributes : AreAttributes attributes) (slash : Bool) (rest : List Char) :
    (tagToken tag attributes slash rest).1.Legible := by
  unfold tagToken
  split
  · exact ⟨htag, hattributes⟩
  · rename_i hvoid
    simp only [Bool.or_eq_true, not_or, Bool.not_eq_true] at hvoid
    split <;> exact ⟨htag, hattributes, hvoid.2⟩

theorem legible_declaration {body : List Char} (h : '>' ∉ body) : (declaration body).Legible := by
  have hinner : '>' ∉ trim body := fun hmem => h (trim_subset _ hmem)
  unfold declaration
  dsimp only
  split
  · refine ⟨by simp [trim_trim], fun hmem => hinner ?_⟩
    rw [String.toList_ofList] at hmem
    exact List.mem_of_mem_drop (trim_subset _ hmem)
  · intro hin
    rw [String.toList_ofList] at hin
    exact hinner (hin.subset (by simp))

theorem legible_of_markup? {s rest : List Char} {token : Token}
    (h : markup? s = some (token, rest)) : token.Legible := by
  unfold markup? at h
  split at h
  · rename_i s
    cases h
    have hbody : ¬ ['-', '-', '>'] <:+: (cutAt ['-', '-', '>'] s).1 := not_infix_cutAt (by simp) s
    rwa [← String.toList_ofList (l := (cutAt _ s).1)] at hbody
  · rename_i s _
    cases h
    have hbody : ¬ ['>'] <:+: (cutAt ['>'] s).1 := not_infix_cutAt (by simp) s
    rw [List.singleton_infix_iff] at hbody
    exact legible_declaration hbody
  · obtain ⟨pair, _, heq⟩ := Option.map_eq_some_iff.mp h
    cases heq
    trivial
  · rename_i c s _ _ _
    split at h
    · rename_i halpha
      obtain ⟨⟨⟨attributes, slash⟩, after⟩, hrest, heq⟩ := Option.map_eq_some_iff.mp h
      rw [List.takeWhile_cons_of_pos (isTagChar_of_isNameChar (isNameChar_of_isAlpha halpha))] at heq
      have hname : ∀ d ∈ s.takeWhile isTagChar, isTagChar d = true := fun d hd =>
        List.mem_takeWhile_imp hd
      have htoken := legible_tagToken (isTagName_lower halpha hname)
        (areAttributes_nil.of_tagRest? hrest) slash after
      rwa [show tagToken _ attributes slash after = (token, rest) from heq] at htoken
    · cases h
  · cases h

theorem decode_ne_nil {s : List Char} (h : s ≠ []) : decode s ≠ [] := by
  obtain ⟨c, s, rfl⟩ := List.exists_cons_of_ne_nil h
  rw [decode]
  split
  · split <;> exact List.cons_ne_nil _ _
  · exact List.cons_ne_nil _ _

theorem legible_textToken (c : Char) (s : List Char) : (textToken c s).1.Legible := by
  have hne := decode_ne_nil (List.cons_ne_nil c (s.takeWhile (· != '<')))
  simpa [textToken, Token.Legible] using hne

/-- **Every token that is read can be written.** -/
theorem legible_of_mem_tokens {s : List Char} : ∀ token ∈ tokens s, token.Legible := by
  fun_induction tokens s with
  | case1 => exact List.forall_mem_nil _
  | case2 c s ih =>
      refine List.forall_mem_cons.mpr ⟨?_, ih⟩
      unfold next
      split
      · cases hmarkup : markup? s with
        | none => exact legible_textToken c s
        | some found => exact legible_of_markup? hmarkup
      · exact legible_textToken c s

/-! ## 3. Trees -/

namespace Tree

/-- Trees whose pieces are read back as they are written, each by itself. -/
inductive Legible : Tree → Prop
  | doctype {declaration : String} (trimmed : trim declaration.toList = declaration.toList)
      (inside : '>' ∉ declaration.toList) : Legible (doctype declaration)
  | comment {body : String} (inside : ¬ ['-', '-', '>'] <:+: body.toList) : Legible (comment body)
  | text {content : String} (nonempty : content ≠ "") : Legible (text content)
  | element {tag : String} {attributes : Attributes} {children : List Tree} (isTagName : IsTagName tag)
      (areAttributes : AreAttributes attributes) (hollow : isVoid tag = true → children = [])
      (legible : ∀ tree ∈ children, Legible tree) : Legible (element tag attributes children)

theorem Writable.legible {tree : Tree} (h : Writable tree) : Legible tree := by
  induction h with
  | doctype trimmed inside => exact .doctype trimmed inside
  | comment inside => exact .comment inside
  | text nonempty => exact .text nonempty
  | void isTag areAttributes | rawEmpty isTag areAttributes =>
      exact .element isTag.isTagName areAttributes (fun _ => rfl) (List.forall_mem_nil _)
  | raw isTag areAttributes raw nonempty =>
      refine .element isTag.isTagName areAttributes (fun hvoid => ?_)
        (List.forall_mem_singleton.mpr (.text nonempty))
      exact absurd ((not_isVoid_of_isRaw raw).symm.trans hvoid) Bool.false_ne_true
  | element isTag areAttributes notVoid _ _ _ ih =>
      refine .element isTag.isTagName areAttributes (fun hvoid => ?_) ih
      exact absurd (notVoid.symm.trans hvoid) Bool.false_ne_true

theorem join_cases (tree : Tree) (content : List Tree) :
    join tree content = tree :: content ∨
      ∃ new old rest, tree = Tree.text new ∧ content = Tree.text old :: rest ∧
        join tree content = Tree.text (old ++ new) :: rest := by
  unfold join
  split
  · exact .inr ⟨_, _, _, rfl, rfl, rfl⟩
  · exact .inl rfl

/-- Open elements that can be written when they are closed. -/
structure Frame.Legible (frame : Frame) : Prop where
  isTagName : IsTagName frame.tag
  areAttributes : AreAttributes frame.attributes
  notVoid : isVoid frame.tag = false
  content : ∀ tree ∈ frame.content, tree.Legible

namespace Draft

/-- What has been read so far can be written. -/
structure Legible (d : Draft) : Prop where
  finished : ∀ tree ∈ d.finished, tree.Legible
  frames : ∀ frame ∈ d.frames, frame.Legible

theorem legible_join {tree : Tree} {content : List Tree} (htree : tree.Legible)
    (hcontent : ∀ old ∈ content, old.Legible) : ∀ piece ∈ join tree content, piece.Legible := by
  rcases join_cases tree content with heq | ⟨new, old, rest, _, rfl, heq⟩
  · rw [heq]
    exact List.forall_mem_cons.mpr ⟨htree, hcontent⟩
  · obtain ⟨hold, hrest⟩ := List.forall_mem_cons.mp hcontent
    rw [heq]
    refine List.forall_mem_cons.mpr ⟨.text fun hempty => ?_, hrest⟩
    cases hold with
    | text nonempty => exact nonempty (String.append_eq_empty_iff.mp hempty).1

variable {d : Draft} (h : d.Legible)

include h

theorem Legible.add {tree : Tree} (htree : tree.Legible) : (d.add tree).Legible := by
  obtain ⟨finished, frames⟩ := d
  cases frames with
  | nil => exact ⟨legible_join htree h.finished, h.frames⟩
  | cons frame frames =>
      obtain ⟨hframe, hframes⟩ := List.forall_mem_cons.mp h.frames
      refine ⟨h.finished, List.forall_mem_cons.mpr ⟨?_, hframes⟩⟩
      exact { hframe with content := legible_join htree hframe.content }

theorem Legible.openElement {tag : String} {attributes : Attributes} {content : List Tree}
    (hframe : Frame.Legible ⟨tag, attributes, content⟩) :
    (d.openElement tag attributes content).Legible :=
  ⟨h.finished, List.forall_mem_cons.mpr ⟨hframe, h.frames⟩⟩

theorem Legible.closeInnermost : d.closeInnermost.Legible := by
  obtain ⟨finished, frames⟩ := d
  cases frames with
  | nil => exact h
  | cons frame frames =>
      obtain ⟨hframe, hframes⟩ := List.forall_mem_cons.mp h.frames
      refine Legible.add (d := ⟨finished, frames⟩) ⟨h.finished, hframes⟩
        (.element hframe.isTagName hframe.areAttributes ?_ ?_)
      · intro hvoid
        exact absurd (hframe.notVoid.symm.trans hvoid) Bool.false_ne_true
      · exact fun tree htree => hframe.content tree (List.mem_reverse.mp htree)

theorem Legible.close (n : Nat) : (d.close n).Legible := by
  induction n generalizing d with
  | zero => exact h
  | succ n ih => exact ih h.closeInnermost

/-- **What is made of a legible token is legible.** -/
theorem Legible.step {token : Token} (htoken : token.Legible) : (d.step token).Legible := by
  cases token with
  | comment body => exact h.add (.comment htoken)
  | doctype declaration => exact h.add (.doctype htoken.1 htoken.2)
  | text content => exact h.add (.text htoken)
  | leaf tag attributes =>
      exact h.add (.element htoken.1 htoken.2 (fun _ => rfl) (List.forall_mem_nil _))
  | opening tag attributes =>
      obtain ⟨htag, hattributes, hvoid⟩ := htoken
      exact h.openElement ⟨htag, hattributes, hvoid, List.forall_mem_nil _⟩
  | raw tag attributes body =>
      obtain ⟨htag, hattributes, hvoid⟩ := htoken
      refine h.openElement ⟨htag, hattributes, hvoid, ?_⟩
      split
      · exact List.forall_mem_nil _
      · rename_i hbody
        exact List.forall_mem_singleton.mpr (.text (by simpa using hbody))
  | closing tag =>
      rw [Draft.step]
      split
      · exact h.close _
      · exact h

theorem Legible.foldl_step {l : List Token} (hl : ∀ token ∈ l, token.Legible) :
    (l.foldl Draft.step d).Legible := by
  induction l generalizing d with
  | nil => exact h
  | cons token l ih =>
      obtain ⟨htoken, hl⟩ := List.forall_mem_cons.mp hl
      exact ih (h.step htoken) hl

end Draft

/-- **Whatever is read is legible.** -/
theorem legible_of_mem_parse (s : List Char) : ∀ tree ∈ parse s, tree.Legible := by
  have hempty : Draft.Legible ⟨[], []⟩ := ⟨List.forall_mem_nil _, List.forall_mem_nil _⟩
  have hread := (hempty.foldl_step (legible_of_mem_tokens (s := s))).close
  intro tree htree
  exact (hread _).finished tree (List.mem_reverse.mp htree)

end Tree

end Placeholders.Markup
