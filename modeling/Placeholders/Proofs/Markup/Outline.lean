import Placeholders.Markup.Tree

/-!
# Outlines

The outline of a tree lists what is in it, in the order of the page: every piece of markup, and every
character of a text by itself, each with the number of elements that it is in.

* The outline of trees that are read can be told from the tokens, if one keeps account of the tags of
  open elements and of nothing else: `outlineAll_ofTokens`. How texts are joined leaves no trace in it.
* Which elements there are, and how they are nested, can be told from the outline:
  `elementsAll_eq_of_outlineAll`.
-/

namespace Placeholders.Markup

/-! ## 1. Outlines of trees -/

/-- A piece of markup without what is in it, or a character of a text. -/
inductive Mark where
  | doctype (declaration : String)
  | comment (body : String)
  | char (c : Char)
  | element (tag : String) (attributes : Attributes)
  deriving DecidableEq, Repr

/-- Marks with the number of elements that each of them is in. -/
abbrev Outline := List (Nat × Mark)

/-- The characters of a text. -/
def charMarks (depth : Nat) (s : List Char) : Outline := s.map fun c => (depth, .char c)

/-- Whether a mark is an element. -/
def Mark.isElement : Mark → Bool
  | element _ _ => true
  | _ => false

theorem charMarks_append (depth : Nat) (s t : List Char) :
    charMarks depth (s ++ t) = charMarks depth s ++ charMarks depth t :=
  List.map_append

@[simp] theorem length_charMarks (depth : Nat) (s : List Char) : (charMarks depth s).length = s.length :=
  List.length_map _

theorem filter_isElement_charMarks (depth : Nat) (s : List Char) :
    (charMarks depth s).filter (·.2.isElement) = [] :=
  List.filter_eq_nil_iff.mpr fun mark hmark => by
    obtain ⟨c, _, rfl⟩ := List.mem_map.mp hmark
    exact Bool.false_ne_true

namespace Tree

mutual

/-- What is in a tree that is in so many elements. -/
def outline (depth : Nat) : Tree → Outline
  | doctype declaration => [(depth, .doctype declaration)]
  | comment body => [(depth, .comment body)]
  | text content => charMarks depth content.toList
  | element tag attributes children =>
    (depth, .element tag attributes) :: outlineAll (depth + 1) children
  | fragment children => outlineAll depth children

/-- What is in several trees. -/
def outlineAll (depth : Nat) : List Tree → Outline
  | [] => []
  | tree :: rest => outline depth tree ++ outlineAll depth rest

end

theorem outlineAll_append (depth : Nat) (trees more : List Tree) :
    outlineAll depth (trees ++ more) = outlineAll depth trees ++ outlineAll depth more := by
  induction trees with
  | nil => rfl
  | cons tree trees ih => rw [List.cons_append, outlineAll, outlineAll, ih, List.append_assoc]

theorem outlineAll_singleton (depth : Nat) (tree : Tree) :
    outlineAll depth [tree] = outline depth tree :=
  List.append_nil _

/-- A mark that is in so many more elements. -/
def deepen (k : Nat) (mark : Nat × Mark) : Nat × Mark := (mark.1 + k, mark.2)

mutual

/-- Where a tree stands makes no other difference to its outline than the depth. -/
theorem outline_add (depth k : Nat) : (tree : Tree) →
    outline (depth + k) tree = (outline depth tree).map (deepen k)
  | doctype _ | comment _ => rfl
  | text content => by simp [outline, charMarks, deepen]
  | element tag attributes children => by
    rw [outline, outline, List.map_cons, ← outlineAll_add (depth + 1) k children,
      Nat.add_right_comm]
    rfl
  | fragment children => outlineAll_add depth k children

theorem outlineAll_add (depth k : Nat) : (trees : List Tree) →
    outlineAll (depth + k) trees = (outlineAll depth trees).map (deepen k)
  | [] => rfl
  | tree :: rest => by
    rw [outlineAll, outlineAll, List.map_append, outline_add depth k tree,
      outlineAll_add depth k rest]

end

/-- **Where a tree that shows anything stands can be told from its outline**, whatever follows. -/
theorem outline_append_inj {tree : Tree} {n m : Nat} {marks marks' : Outline}
    (hshown : outline 0 tree ≠ []) (h : outline n tree ++ marks = outline m tree ++ marks') :
    n = m ∧ marks = marks' := by
  have hat : ∀ k, outline k tree = (outline 0 tree).map (deepen k) := fun k => by
    rw [← outline_add, Nat.zero_add]
  rw [hat n, hat m] at h
  obtain ⟨hfront, hrest⟩ := List.append_inj h (by simp)
  obtain ⟨mark, more, hmark⟩ := List.exists_cons_of_ne_nil hshown
  rw [hmark, List.map_cons, List.map_cons] at hfront
  have hdepth : mark.1 + n = mark.1 + m := congrArg Prod.fst (List.cons.inj hfront).1
  exact ⟨Nat.add_left_cancel hdepth, hrest⟩

/-! ## 2. Elements -/

mutual

/-- The elements of a tree, as trees that hold nothing but elements. -/
def elements : Tree → List Tree
  | element tag attributes children => [element tag attributes (elementsAll children)]
  | fragment children => elementsAll children
  | doctype _ | comment _ | text _ => []

/-- The elements of several trees. -/
def elementsAll : List Tree → List Tree
  | [] => []
  | tree :: rest => elements tree ++ elementsAll rest

end

/-- Trees that are elements and hold nothing else. -/
inductive Bare : List Tree → Prop where
  | nil : Bare []
  | cons (tag : String) (attributes : Attributes) {children rest : List Tree} (inner : Bare children)
      (after : Bare rest) : Bare (element tag attributes children :: rest)

theorem Bare.append {trees more : List Tree} (h : Bare trees) (hmore : Bare more) :
    Bare (trees ++ more) := by
  induction h with
  | nil => exact hmore
  | cons tag attributes inner _ _ ih => exact .cons tag attributes inner ih

mutual

theorem bare_elements : (tree : Tree) → Bare (elements tree)
  | element tag attributes children => .cons tag attributes (bare_elementsAll children) .nil
  | fragment children => bare_elementsAll children
  | doctype _ | comment _ | text _ => .nil

theorem bare_elementsAll : (trees : List Tree) → Bare (elementsAll trees)
  | [] => .nil
  | tree :: rest => (bare_elements tree).append (bare_elementsAll rest)

end

mutual

/-- The outline of the elements is that of everything without what is no element. -/
theorem outlineAll_elements (depth : Nat) : (tree : Tree) →
    outlineAll depth (elements tree) = (outline depth tree).filter (·.2.isElement)
  | element tag attributes children => by
    rw [elements, outlineAll_singleton, outline, outline, outlineAll_elementsAll]
    rfl
  | fragment children => outlineAll_elementsAll depth children
  | doctype _ | comment _ => rfl
  | text content => (filter_isElement_charMarks depth content.toList).symm

theorem outlineAll_elementsAll (depth : Nat) : (trees : List Tree) →
    outlineAll depth (elementsAll trees) = (outlineAll depth trees).filter (·.2.isElement)
  | [] => rfl
  | tree :: rest => by
    rw [elementsAll, outlineAll_append, outlineAll, List.filter_append,
      outlineAll_elements depth tree, outlineAll_elementsAll depth rest]

end

theorem Bare.le_depth {trees : List Tree} (h : Bare trees) {depth : Nat} :
    ∀ mark ∈ outlineAll depth trees, depth ≤ mark.1 := by
  induction h generalizing depth with
  | nil => exact List.forall_mem_nil _
  | @cons tag attributes children rest _ _ ihinner ihafter =>
      rw [outlineAll, outline, List.cons_append]
      refine List.forall_mem_cons.mpr ⟨Nat.le_refl depth, List.forall_mem_append.mpr ⟨?_, ihafter⟩⟩
      exact fun mark hmark => Nat.le_of_succ_le (ihinner mark hmark)

/-- The content of an element ends where the outline comes back to the depth of the element. -/
theorem Bare.takeWhile_outlineAll {children rest : List Tree} (hchildren : Bare children)
    (hrest : Bare rest) (depth : Nat) :
    (outlineAll (depth + 1) children ++ outlineAll depth rest).takeWhile (fun mark => depth < mark.1) =
      outlineAll (depth + 1) children := by
  have hinner : ∀ mark ∈ outlineAll (depth + 1) children, decide (depth < mark.1) = true :=
    fun mark hmark => decide_eq_true (hchildren.le_depth mark hmark)
  rw [List.takeWhile_append_of_pos hinner]
  cases hrest with
  | nil => rw [outlineAll, List.takeWhile_nil, List.append_nil]
  | cons tag attributes inner after =>
      rw [outlineAll, outline, List.cons_append, List.takeWhile_cons_of_neg (by simp), List.append_nil]

/-- Elements can be told from their outline. -/
theorem Bare.eq_of_outlineAll {trees others : List Tree} (h : Bare trees) (hothers : Bare others)
    {depth : Nat} (heq : outlineAll depth trees = outlineAll depth others) : trees = others := by
  induction h generalizing others depth with
  | nil =>
      cases hothers with
      | nil => rfl
      | cons => cases heq
  | @cons tag attributes children rest hinner hafter ihinner ihafter =>
      cases hothers with
      | nil => cases heq
      | @cons tag' attributes' children' rest' hinner' hafter' =>
          simp only [outlineAll, outline, List.cons_append, List.cons.injEq, Prod.mk.injEq,
            Mark.element.injEq, true_and] at heq
          obtain ⟨⟨rfl, rfl⟩, hmarks⟩ := heq
          have hchildren : outlineAll (depth + 1) children = outlineAll (depth + 1) children' := by
            rw [← hinner.takeWhile_outlineAll hafter, hmarks, hinner'.takeWhile_outlineAll hafter']
          rw [hchildren] at hmarks
          rw [ihinner hinner' hchildren, ihafter hafter' (List.append_cancel_left hmarks)]

/-- **The elements and their nesting can be told from an outline.** -/
theorem elementsAll_eq_of_outlineAll {trees others : List Tree} {depth : Nat}
    (h : outlineAll depth trees = outlineAll depth others) : elementsAll trees = elementsAll others := by
  have hmarks : outlineAll depth (elementsAll trees) = outlineAll depth (elementsAll others) := by
    rw [outlineAll_elementsAll, outlineAll_elementsAll, h]
  exact (bare_elementsAll trees).eq_of_outlineAll (bare_elementsAll others) hmarks

end Tree

/-! ## 3. Outlines of tokens -/

namespace Token

/-- What a token shows where so many elements are open. -/
def marks (depth : Nat) : Token → Outline
  | comment body => [(depth, .comment body)]
  | doctype declaration => [(depth, .doctype declaration)]
  | text content => charMarks depth content.toList
  | opening tag attributes | leaf tag attributes => [(depth, .element tag attributes)]
  | raw tag attributes body => (depth, .element tag attributes) :: charMarks (depth + 1) body.toList
  | closing _ => []

/-- The tags of the elements that are open after a token, innermost first. -/
def after (opened : List String) : Token → List String
  | opening tag _ | raw tag _ _ => tag :: opened
  | closing tag =>
    match opened.findIdx? (· == tag) with
    | some depth => opened.drop (depth + 1)
    | none => opened
  | comment _ | doctype _ | text _ | leaf _ _ => opened

end Token

/-- What tokens show after which certain elements are open. -/
def trace (opened : List String) : List Token → Outline
  | [] => []
  | token :: rest => token.marks opened.length ++ trace (token.after opened) rest

namespace Tree

namespace Draft

/-- The tags of the open elements, innermost first. -/
def opened (d : Draft) : List String := d.frames.map (·.tag)

/-- What is in open elements, of which the outermost comes first. -/
def framesOutline : List Frame → Outline
  | [] => []
  | frame :: outer =>
    framesOutline outer ++ (outer.length, .element frame.tag frame.attributes) ::
      outlineAll (outer.length + 1) frame.content.reverse

/-- What has been read so far. -/
def outline (d : Draft) : Outline := outlineAll 0 d.finished.reverse ++ framesOutline d.frames

theorem outlineAll_join (depth : Nat) (tree : Tree) (content : List Tree) :
    outlineAll depth (join tree content).reverse =
      outlineAll depth content.reverse ++ Tree.outline depth tree := by
  unfold join
  split
  · rename_i new old rest
    rw [List.reverse_cons, List.reverse_cons, outlineAll_append, outlineAll_append,
      outlineAll_singleton, outlineAll_singleton, List.append_assoc]
    simp only [Tree.outline, String.toList_append, charMarks_append]
  · rw [List.reverse_cons, outlineAll_append, outlineAll_singleton]

theorem outline_add (d : Draft) (tree : Tree) :
    (d.add tree).outline = d.outline ++ Tree.outline d.frames.length tree := by
  obtain ⟨finished, frames⟩ := d
  cases frames with
  | nil => simp [add, outline, framesOutline, outlineAll_join]
  | cons frame frames => simp [add, outline, framesOutline, outlineAll_join]

@[simp] theorem opened_add (d : Draft) (tree : Tree) : (d.add tree).opened = d.opened := by
  obtain ⟨finished, frames⟩ := d
  cases frames <;> rfl

theorem outline_openElement (d : Draft) (tag : String) (attributes : Attributes) (content : List Tree) :
    (d.openElement tag attributes content).outline = d.outline ++
      (d.frames.length, .element tag attributes) ::
        outlineAll (d.frames.length + 1) content.reverse := by
  simp [openElement, outline, framesOutline]

/-- Closing an element neither adds nor takes away. -/
theorem outline_closeInnermost (d : Draft) : d.closeInnermost.outline = d.outline := by
  obtain ⟨finished, frames⟩ := d
  cases frames with
  | nil => rfl
  | cons frame frames =>
      rw [closeInnermost, outline_add]
      simp [outline, framesOutline, Tree.outline]

theorem opened_closeInnermost (d : Draft) : d.closeInnermost.opened = d.opened.drop 1 := by
  obtain ⟨finished, frames⟩ := d
  cases frames with
  | nil => rfl
  | cons frame frames => exact opened_add _ _

theorem close_spec (d : Draft) (n : Nat) :
    (d.close n).outline = d.outline ∧ (d.close n).opened = d.opened.drop n := by
  induction n generalizing d with
  | zero => exact ⟨rfl, rfl⟩
  | succ n ih =>
      obtain ⟨houtline, hopened⟩ := ih d.closeInnermost
      rw [close, houtline, hopened, outline_closeInnermost, opened_closeInnermost, List.drop_drop,
        Nat.add_comm]
      exact ⟨rfl, rfl⟩

/-- **Taking in a token adds what the token shows.** -/
theorem step_spec (d : Draft) (token : Token) :
    (d.step token).outline = d.outline ++ token.marks d.opened.length ∧
      (d.step token).opened = token.after d.opened := by
  have hlength : d.opened.length = d.frames.length := List.length_map _
  rw [hlength]
  cases token with
  | comment | doctype | text => exact ⟨outline_add d _, opened_add d _⟩
  | leaf tag attributes =>
      refine ⟨?_, opened_add d _⟩
      rw [step, outline_add]
      rfl
  | opening tag attributes => exact ⟨outline_openElement d tag attributes [], rfl⟩
  | raw tag attributes body =>
      refine ⟨?_, rfl⟩
      rw [step, outline_openElement, Token.marks]
      split
      · rename_i hempty
        obtain rfl : body = "" := by simpa using hempty
        rfl
      · rw [List.reverse_singleton, outlineAll_singleton]
        rfl
  | closing tag =>
      have hfind : d.opened.findIdx? (· == tag) = d.frames.findIdx? fun frame => frame.tag == tag := by
        rw [opened, List.findIdx?_map]
        rfl
      rw [Token.marks, Token.after, List.append_nil, hfind, step]
      cases d.frames.findIdx? fun frame => frame.tag == tag with
      | some depth => exact close_spec d (depth + 1)
      | none => exact ⟨rfl, rfl⟩

theorem outline_foldl_step (d : Draft) (l : List Token) :
    (l.foldl step d).outline = d.outline ++ trace d.opened l := by
  induction l generalizing d with
  | nil => exact (List.append_nil _).symm
  | cons token l ih =>
      obtain ⟨houtline, hopened⟩ := step_spec d token
      rw [List.foldl_cons, ih, houtline, hopened, trace, List.append_assoc]

/-- What is open at the end is closed there, and everything is left in its place. -/
theorem outlineAll_finish (d : Draft) : outlineAll 0 d.finish = d.outline := by
  obtain ⟨houtline, hopened⟩ := close_spec d d.frames.length
  have hnone : (d.close d.frames.length).frames = [] := by
    rw [← List.map_eq_nil_iff (f := fun frame : Frame => frame.tag)]
    refine hopened.trans (List.drop_eq_nil_of_le ?_)
    exact Nat.le_of_eq (List.length_map _)
  rw [finish, ← houtline, outline, hnone]
  exact (List.append_nil _).symm

end Draft

/-- **The outline of trees can be told from the tokens that they are made of.** -/
theorem outlineAll_ofTokens (l : List Token) : outlineAll 0 (ofTokens l) = trace [] l := by
  rw [ofTokens, Draft.outlineAll_finish, Draft.outline_foldl_step]
  rfl

end Tree

end Placeholders.Markup
