import Placeholders.Proofs.Markup.Standing

/-!
# Revised pages

`outlineAll_parse_of_revised` says that a page is read back with all that it shows, if it has been made of
one that is read back as it is.

* `Revised` says what may have been changed: attributes, the text of raw elements, and pieces that stand
  by themselves, which may have given their places to others. Elements are where they were.
* Where elements are closed depends on the tags alone, and not even an `IsTag` is asked of them: a closing
  tag may close less than its element, or more. The two pages are therefore read side by side
  (`Revised.follow`). As long as the first one is shown as it is, the same elements are open in both.
-/

namespace Placeholders.Markup.Tree

open Placeholders.Text

/-- Trees, and others that have been made of them. -/
inductive Revised : List Tree → List Tree → Prop where
  | nil : Revised [] []
  /-- A piece that shows something has given its place to others. -/
  | piece {tree : Tree} {inserted trees news : List Tree} (stands : tree.Stands)
      (shown : outline 0 tree ≠ []) (allStand : ∀ new ∈ inserted, new.Stands)
      (after : Revised trees news) : Revised (tree :: trees) (inserted ++ news)
  /-- A raw element has got another text, which does not close it. -/
  | raw {tag : String} {attributes revised : Attributes} {children texts trees news : List Tree}
      (raw : isRaw tag = true) (areAttributes : AreAttributes attributes)
      (areRevised : AreAttributes revised) (isText : ∀ tree ∈ children, tree.isText = true)
      (isText' : ∀ new ∈ texts, new.isText = true)
      (inside : ¬ '<' :: '/' :: tag.toList <:+: lower (renderAll true texts))
      (after : Revised trees news) :
      Revised (.element tag attributes children :: trees) (.element tag revised texts :: news)
  | element {tag : String} {attributes revised : Attributes}
      {children revisedChildren trees news : List Tree} (isTagName : IsTagName tag)
      (areAttributes : AreAttributes attributes) (areRevised : AreAttributes revised)
      (notVoid : isVoid tag = false) (notRaw : isRaw tag = false)
      (inner : Revised children revisedChildren) (after : Revised trees news) :
      Revised (.element tag attributes children :: trees)
        (.element tag revised revisedChildren :: news)

namespace Revised

variable {trees news : List Tree}

/-- Reading a page that may not be shown as it is finds no longer leads than the page has. -/
theorem leadOf_le (h : Revised trees news) {rest : List Char} {marks : Outline}
    (hrest : leadOf rest ≤ lead marks) (depth : Nat) :
    leadOf (renderAll false trees ++ rest) ≤ lead (outlineAll depth trees ++ marks) := by
  induction h with
  | nil => exact hrest
  | piece stands _ _ _ ih =>
      rw [renderAll_cons, outlineAll, List.append_assoc, List.append_assoc]
      exact stands.leadOf_le ih depth
  | raw raw areAttributes =>
      rw [renderAll_cons, List.append_assoc, render_raw raw,
        leadOf_renderOpening (isTag_of_isRaw raw).isTagName areAttributes]
      exact Nat.zero_le _
  | element isTagName areAttributes =>
      rw [renderAll_cons, render, List.append_assoc, List.append_assoc,
        leadOf_renderOpening isTagName areAttributes]
      exact Nat.zero_le _

theorem render_element {tag : String} (hvoid : isVoid tag = false) (hraw : isRaw tag = false)
    (attributes : Attributes) (children : List Tree) (rest : List Char) :
    render (.element tag attributes children) ++ rest = renderOpening tag attributes ++
      (renderAll false children ++ (renderClosing tag ++ rest)) := by
  rw [render, if_neg (by simp [hvoid]), hraw, List.append_assoc, List.append_assoc]

theorem trace_renderClosing {tag : String} (hgt : '>' ∉ tag.toList) (opened : List String)
    (rest : List Char) :
    trace opened (tokens (renderClosing tag ++ rest)) =
      trace ((Token.closing (String.ofList (lower (trim tag.toList)))).after opened) (tokens rest) := by
  rw [tokens_renderClosing_trim hgt]
  rfl

/-- **As long as a page is shown as it is, what has been made of it is too**, and the same elements are
    open behind both. The induction is on the revision; what follows the trees is left open, and so is
    what it shows, of which only the lead is needed. -/
theorem follow (h : Revised trees news) {opened : List String} {depth : Nat} {rest : List Char}
    {marks : Outline} (hrest : leadOf rest ≤ lead marks)
    (hread : trace opened (tokens (renderAll false trees ++ rest)) =
      outlineAll depth trees ++ marks) :
    ∃ later, trace later (tokens rest) = marks ∧
      ∀ more, trace opened (tokens (renderAll false news ++ more)) =
        outlineAll depth news ++ trace later (tokens more) := by
  induction h generalizing opened depth rest marks with
  | nil => exact ⟨opened, hread, fun _ => rfl⟩
  | @piece tree inserted trees news stands shown allStand _ ih =>
      rw [renderAll_cons, outlineAll, List.append_assoc, List.append_assoc, stands opened] at hread
      obtain ⟨rfl, hafter⟩ := outline_append_inj shown hread
      obtain ⟨later, hlater, hnews⟩ := ih hrest hafter
      refine ⟨later, hlater, fun more => ?_⟩
      rw [renderAll_append, List.append_assoc, trace_renderAll allStand, hnews more,
        outlineAll_append, List.append_assoc]
  | @raw tag attributes revised children texts trees news raw areAttributes areRevised isText isText'
      inside after ih =>
      have hinside : ¬ '<' :: '/' :: tag.toList <:+: lower (renderAll true children) := by
        rw [renderAll_cons, outlineAll, outline, outlineAll_of_isText isText, List.append_assoc,
          List.append_assoc, List.cons_append, render_raw raw] at hread
        exact not_infix_of_trace raw areAttributes (after.leadOf_le hrest depth) hread
      have hold := stands_raw areAttributes raw isText hinside
      have hnew := stands_raw areRevised raw isText' inside
      rw [renderAll_cons, outlineAll, List.append_assoc, List.append_assoc, hold opened] at hread
      obtain ⟨rfl, hafter⟩ := outline_append_inj (by simp [outline]) hread
      obtain ⟨later, hlater, hnews⟩ := ih hrest hafter
      refine ⟨later, hlater, fun more => ?_⟩
      rw [renderAll_cons, List.append_assoc, hnew opened, hnews more, outlineAll, List.append_assoc]
  | @element tag attributes revised children revisedChildren trees news isTagName areAttributes
      areRevised notVoid notRaw _ after ihinner ihafter =>
      have hgt := isTagName.gt_not_mem
      rw [renderAll_cons, outlineAll, outline, List.append_assoc, List.append_assoc, List.cons_append,
        render_element notVoid notRaw, trace_renderOpening isTagName areAttributes notVoid notRaw]
        at hread
      obtain ⟨hdepth, hinner⟩ := List.cons.inj hread
      obtain rfl : opened.length = depth := congrArg Prod.fst hdepth
      have hclosed : leadOf (renderClosing tag ++ (renderAll false trees ++ rest)) ≤
          lead (outlineAll opened.length trees ++ marks) := by
        rw [leadOf_renderClosing hgt]
        exact after.leadOf_le hrest opened.length
      obtain ⟨inside, hinside, hchildren⟩ := ihinner hclosed hinner
      rw [trace_renderClosing hgt] at hinside
      obtain ⟨later, hlater, hnews⟩ := ihafter hrest hinside
      refine ⟨later, hlater, fun more => ?_⟩
      rw [renderAll_cons, List.append_assoc, render_element notVoid notRaw,
        trace_renderOpening isTagName areRevised notVoid notRaw, hchildren, trace_renderClosing hgt,
        hnews more, outlineAll, outline, List.append_assoc, List.cons_append]

end Revised

/-- **A page that has been made of one that is read back as it is, is read back with all that it
    shows.** -/
theorem outlineAll_parse_of_revised {trees news : List Tree} (h : Revised trees news)
    (hread : parse (renderAll false trees) = trees) :
    outlineAll 0 (parse (renderAll false news)) = outlineAll 0 news := by
  have hshown : trace [] (tokens (renderAll false trees ++ [])) = outlineAll 0 trees ++ [] := by
    rw [List.append_nil, List.append_nil, ← outlineAll_ofTokens]
    exact congrArg (outlineAll 0) hread
  have hnone : leadOf [] ≤ lead [] := by
    rw [leadOf, tokens]
    exact Nat.zero_le _
  obtain ⟨later, _, hnews⟩ := h.follow hnone hshown
  have hall := hnews []
  rw [List.append_nil] at hall
  rw [parse, outlineAll_ofTokens, hall, tokens, trace, List.append_nil]

end Placeholders.Markup.Tree
