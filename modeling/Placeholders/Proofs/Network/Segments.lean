import Placeholders.Proofs.Network.UpToDate
import Placeholders.Proofs.Text.Cutting
import Placeholders.Proofs.Unshared

/-!
# How a value is divided

Expanding a value divides it into segments: a stretch where no token starts, then a token, the longest
that starts there. What is left after the last token is one more such stretch.

* `Divided` says this of a text without cutting it. There is one way to divide a text
  (`Divided.unique`), and cutting finds it (`exists_divided`).
* `expand_leftmost_longest` puts the two together: the stretches stay as they are, and each token gives
  way to the value of the only placeholder that has it. Neither the order of the placeholders nor that
  of the edges in a graph plays a part.
-/

namespace Placeholders.Reference

open Placeholders.Text

/-! ## 1. Segments -/

/-- Tokens are not empty, and none is of two placeholders. -/
structure Distinguished (ps : List Placeholder) : Prop where
  nonempty : ∀ p ∈ ps, ∀ c, (p.tokens.get c).literal ≠ ""
  apart : ∀ p ∈ ps, ∀ q ∈ ps, ∀ c d, (p.tokens.get c).literal = (q.tokens.get d).literal → p = q

/-- A text is a token of one of several placeholders. -/
structure IsToken (ps : List Placeholder) (literal : List Char) (source : Placeholder) : Prop where
  mem : source ∈ ps
  written : ∃ c, (source.tokens.get c).literal.toList = literal

/-- No token starts at a character of `front`, which `rest` follows. -/
def Free (ps : List Placeholder) (front rest : List Char) : Prop :=
  ∀ u v, front = u ++ v → v ≠ [] → ∀ literal p, IsToken ps literal p → ¬ literal <+: v ++ rest

/-- A token of a placeholder, and what stands between it and the one before. -/
@[ext]
structure Segment where
  before : List Char
  literal : List Char
  source : Placeholder

namespace Segment

/-- The text that a segment was made from. -/
def text (s : Segment) : List Char := s.before ++ s.literal

/-- The text of a segment with its token replaced. -/
def expanded (s : Segment) : List Char := s.before ++ s.source.expandedValue.toList

end Segment

/-- A text is divided into segments and what is left after them: no token starts before the one of a
    segment, no longer one starts where it does, and none starts in what is left. -/
inductive Divided (ps : List Placeholder) : List Char → List Segment → List Char → Prop
  | last {text : List Char} (free : Free ps text []) : Divided ps text [] text
  | segment {text rest last : List Char} {s : Segment} {segments : List Segment}
      (divides : text = s.before ++ (s.literal ++ rest))
      (free : Free ps s.before (s.literal ++ rest))
      (token : IsToken ps s.literal s.source)
      (longest : ∀ literal p, IsToken ps literal p → literal <+: s.literal ++ rest →
        literal.length ≤ s.literal.length)
      (tail : Divided ps rest segments last) : Divided ps text (s :: segments) last

variable {ps : List Placeholder}

/-- The text is made up of the segments and what is left. -/
theorem Divided.text_eq {text last : List Char} {segments : List Segment}
    (h : Divided ps text segments last) : text = segments.flatMap Segment.text ++ last := by
  induction h with
  | last => rfl
  | segment divides _ _ _ _ ih =>
      rw [divides, ih, List.flatMap_cons, Segment.text, List.append_assoc, List.append_assoc]

/-! ## 2. Stretches where no token starts -/

theorem free_nil (rest : List Char) : Free ps [] rest := by
  intro u v heq hne
  exact absurd (List.append_eq_nil_iff.mp heq.symm).2 hne

/-- A character is put before a free stretch if no token starts there. -/
theorem Free.cons {front rest : List Char} (h : Free ps front rest) {c : Char}
    (hc : ∀ literal p, IsToken ps literal p → ¬ literal <+: c :: (front ++ rest)) :
    Free ps (c :: front) rest := by
  intro u v heq hne
  cases u with
  | nil =>
      rw [List.nil_append] at heq
      rw [← heq]
      exact hc
  | cons d u => exact h u v (List.cons.inj heq).2 hne

/-- A free stretch is over where a token starts. -/
theorem Free.prefix_of_token {front rest other literal more : List Char} {p : Placeholder}
    (h : Free ps front rest) (htoken : IsToken ps literal p)
    (heq : other ++ (literal ++ more) = front ++ rest) : front <+: other := by
  rcases List.append_eq_append_iff.mp heq with ⟨v, hfront, hv⟩ | ⟨v, hother, -⟩
  · cases v with
    | nil => exact ⟨[], by simpa using hfront⟩
    | cons c v =>
        exact absurd ⟨more, hv⟩ (h other (c :: v) hfront (List.cons_ne_nil c v) literal p htoken)
  · exact ⟨v, hother.symm⟩

/-- In a text that is free to its end there is no token. -/
theorem Free.not_token {text before literal rest : List Char} {p : Placeholder}
    (h : Free ps text []) (hne : literal ≠ []) (htoken : IsToken ps literal p)
    (heq : text = before ++ (literal ++ rest)) : False := by
  refine h before (literal ++ rest) heq (List.append_ne_nil_of_left_ne_nil hne rest) literal p htoken ?_
  rw [List.append_nil]
  exact List.prefix_append literal rest

/-! ## 3. One way to divide -/

namespace Distinguished

theorem literal_ne_nil (h : Distinguished ps) {literal : List Char} {p : Placeholder}
    (htoken : IsToken ps literal p) : literal ≠ [] := by
  obtain ⟨hp, c, rfl⟩ := htoken
  exact fun hnil => h.nonempty p hp c (String.toList_eq_nil_iff.mp hnil)

theorem source_eq (h : Distinguished ps) {literal : List Char} {p q : Placeholder}
    (hp : IsToken ps literal p) (hq : IsToken ps literal q) : p = q := by
  obtain ⟨hmem, c, hc⟩ := hp
  obtain ⟨hmem', d, hd⟩ := hq
  exact h.apart p hmem q hmem' c d (String.toList_inj.mp (hc.trans hd.symm))

/-- Fewer placeholders are distinguished too. -/
theorem subset (h : Distinguished ps) {qs : List Placeholder} (hqs : qs ⊆ ps) : Distinguished qs where
  nonempty p hp := h.nonempty p (hqs hp)
  apart p hp q hq := h.apart p (hqs hp) q (hqs hq)

theorem unambiguous (h : Distinguished ps) : Unambiguous ps := fun p hp q hq c d heq =>
  congrArg Placeholder.expandedValue (h.apart p hp q hq c d heq)

end Distinguished

/-- The placeholders of an unshared registry are distinguished. -/
theorem distinguished_of_unshared {r : Registry} (h : r.Unshared) : Distinguished r.placeholders where
  nonempty := h.nonempty
  apart _ hp _ hq _ _ := h.eq_of_literal_eq hp hq

/-- **There is one way to divide a text.** The stretches before the first tokens are equal since each is
    over where the other token starts, the tokens since both are the longest. -/
theorem Divided.unique (h : Distinguished ps) {text last last' : List Char}
    {segments segments' : List Segment} (hdivided : Divided ps text segments last)
    (hother : Divided ps text segments' last') : segments' = segments ∧ last' = last := by
  induction hdivided generalizing segments' last' with
  | @last text free =>
      cases hother with
      | last => exact ⟨rfl, rfl⟩
      | segment divides _ token => exact (free.not_token (h.literal_ne_nil token) token divides).elim
  | @segment text rest last s segments divides free token longest _ ih =>
      cases hother with
      | last free' => exact (free'.not_token (h.literal_ne_nil token) token divides).elim
      | @segment _ rest' _ t segments' divides' free' token' longest' tail' =>
          have heq := divides.symm.trans divides'
          have hbefore : t.before = s.before :=
            List.IsPrefix.eq_of_length_le (free'.prefix_of_token token heq)
              (free.prefix_of_token token' heq.symm).length_le
          have htails : s.literal ++ rest = t.literal ++ rest' :=
            List.append_cancel_left (hbefore ▸ heq)
          have hlength : t.literal.length = s.literal.length :=
            (longest _ _ token' ⟨rest', htails.symm⟩).antisymm (longest' _ _ token ⟨rest, htails⟩)
          obtain ⟨hliteral, rfl⟩ := List.append_inj htails.symm hlength
          have hsource : t.source = s.source := h.source_eq token' (hliteral ▸ token)
          obtain ⟨rfl, rfl⟩ := ih tail'
          exact ⟨congrArg (· :: segments') (Segment.ext hbefore hliteral hsource), rfl⟩

/-! ## 4. Cutting divides -/

theorem Distinguished.proper (h : Distinguished ps) : (lexicon ps).Proper := by
  intro e he
  obtain ⟨p, hp, hentry⟩ := h.unambiguous.mem_lexicon.mp he
  obtain ⟨c, rfl⟩ := mem_tokenEntries.mp hentry
  exact h.literal_ne_nil ⟨hp, c, rfl⟩

/-- The lexicon has every token, and it stands for the value of its placeholder. -/
theorem Distinguished.mem_lexicon (h : Distinguished ps) {literal : List Char} {value : String} :
    (literal, value) ∈ lexicon ps ↔ ∃ p, IsToken ps literal p ∧ p.expandedValue = value := by
  rw [h.unambiguous.mem_lexicon]
  constructor
  · rintro ⟨p, hp, hentry⟩
    obtain ⟨c, heq⟩ := mem_tokenEntries.mp hentry
    obtain ⟨rfl, rfl⟩ := Prod.mk.inj heq
    exact ⟨p, ⟨hp, c, rfl⟩, rfl⟩
  · rintro ⟨p, ⟨hp, c, rfl⟩, rfl⟩
    exact ⟨p, hp, mem_tokenEntries.mpr ⟨c, rfl⟩⟩

/-- A character is put before a divided text if no token starts there. -/
theorem Divided.cons {text last : List Char} {segments : List Segment}
    (h : Divided ps text segments last) {c : Char}
    (hc : ∀ literal p, IsToken ps literal p → ¬ literal <+: c :: text) :
    ∃ segments' last', Divided ps (c :: text) segments' last' ∧
      segments'.flatMap Segment.expanded ++ last' =
        c :: (segments.flatMap Segment.expanded ++ last) := by
  cases h with
  | last free => exact ⟨[], c :: text, .last (free.cons (by simpa using hc)), rfl⟩
  | @segment _ rest _ s segments divides free token longest tail =>
      subst divides
      exact ⟨{ s with before := c :: s.before } :: segments, last,
        .segment rfl (free.cons hc) token longest tail, rfl⟩

/-- **Cutting finds a way to divide a text**, and replaces its tokens. -/
theorem exists_divided (h : Distinguished ps) (text : List Char) :
    ∃ segments last, Divided ps text segments last ∧
      replaceAll (lexicon ps) String.toList text = segments.flatMap Segment.expanded ++ last := by
  have hproper := h.proper
  induction text using hproper.cut_induction with
  | nil => exact ⟨[], [], .last (free_nil []), hproper.replaceAll_nil _⟩
  | plain c text hnone ih =>
      obtain ⟨segments, last, hdivided, heq⟩ := ih
      obtain ⟨segments', last', hdivided', heq'⟩ := hdivided.cons fun literal p htoken =>
        Lexicon.startOf?_eq_none_iff.mp hnone _ (h.mem_lexicon.mpr ⟨p, htoken, rfl⟩)
      exact ⟨segments', last', hdivided',
        by rw [hproper.replaceAll_cons_of_none hnone, heq, heq']⟩
  | hit literal value text hfound ih =>
      obtain ⟨segments, last, hdivided, heq⟩ := ih
      obtain ⟨hmem, -, hlongest⟩ := Lexicon.startOf?_spec hfound
      obtain ⟨p, htoken, rfl⟩ := h.mem_lexicon.mp hmem
      refine ⟨⟨[], literal, p⟩ :: segments, last, .segment rfl (free_nil _) htoken ?_ hdivided, ?_⟩
      · exact fun other q hother => hlongest _ (h.mem_lexicon.mpr ⟨q, hother, rfl⟩)
      · rw [replaceAll, hproper.cut_append_of_some hfound, List.flatMap_cons, List.flatMap_cons,
          List.append_assoc, ← heq]
        rfl

/-! ## 5. Values -/

/-- **Expanding a value replaces, from left to right, the longest token that starts where one does.** The
    value is divided in one way, and each token gives way to the value of the only placeholder that has
    it. It does not matter in which order the placeholders are given, nor in which one a graph has the
    edges to them. -/
theorem expand_leftmost_longest (h : Distinguished ps) (value : String) :
    (∃ segments last, Divided ps value.toList segments last ∧
      (∀ segments' last', Divided ps value.toList segments' last' →
        segments' = segments ∧ last' = last) ∧
      value.toList = segments.flatMap Segment.text ++ last ∧
      (expand ps value).toList = segments.flatMap Segment.expanded ++ last) ∧
    (∀ qs, qs.Perm ps → expand qs value = expand ps value) ∧
    ∀ (net : Network) (i : Nat) (p : Placeholder) (js : List Nat), net.graph.Consistent →
      net.at? i = some p → p.currentValue = value → js.Nodup →
      (∀ j, net.graph.Edge i j ↔ j ∈ js) → js.filterMap net.at? = ps →
      (net.recomputeAt i).at? i = some { p with expandedValue := expand ps value } := by
  obtain ⟨segments, last, hdivided, hexpanded⟩ := exists_divided h value.toList
  refine ⟨⟨segments, last, hdivided, fun _ _ => hdivided.unique h, hdivided.text_eq, ?_⟩, ?_, ?_⟩
  · rw [expand, String.toList_ofList, hexpanded]
  · exact fun qs hperm => (expand_perm hperm.symm h.unambiguous value).symm
  · intro net i p js hgraph hp hvalue hjs hedges hps
    have hperm : js.Perm (net.graph.targets i) :=
      (List.perm_ext_iff_of_nodup hjs (hgraph.targets_nodup i)).mpr fun j => (hedges j).symm
    have hreferents : ps.Perm (net.referents i) := hps ▸ hperm.filterMap net.at?
    rw [Network.at?_recomputeAt, if_pos rfl, hp, Option.map_some, hvalue,
      expand_perm hreferents h.unambiguous value]

/-- A textbox that refers to two others, one of whose tokens starts with a token of the other. -/
def nested : Registry :=
  let textbox (name value : String) := Placeholder.ofKind name (.textbox ⟨.fixed value, []⟩) {}
  ⟨[textbox "TOP" "xAxBx, xAx", textbox "A" "1", textbox "AxB" "xAx"], {}, .empty⟩

theorem expand_leftmost_longest_of_nested :
    let ps := nested.placeholders.drop 1
    let net : Network := ⟨nested, (Digraph.discrete 3).addTargets 0 [2, 1]⟩
    Distinguished ps ∧ expand ps "xAxBx, xAx" = "xAx, 1" ∧ expand ps.reverse "xAxBx, xAx" = "xAx, 1" ∧
    (∃ segments last, Divided ps "xAxBx, xAx".toList segments last ∧
      "xAx, 1".toList = segments.flatMap Segment.expanded ++ last) ∧
    net.referents 0 = ps.reverse ∧
      ∃ p, net.at? 0 = some p ∧
        (net.recomputeAt 0).at? 0 = some { p with expandedValue := "xAx, 1" } := by
  intro ps net
  have hunshared : nested.Unshared := .of_standard (by decide) (by decide)
  have hps : Distinguished ps := (distinguished_of_unshared hunshared).subset (List.drop_subset 1 _)
  have hvalue : expand ps "xAxBx, xAx" = "xAx, 1" := by decide +kernel
  obtain ⟨⟨segments, last, hdivided, -, -, hexpanded⟩, hperm, hnet⟩ :=
    expand_leftmost_longest hps "xAxBx, xAx"
  have hsmall : ∀ b ∈ [2, 1], b < (Digraph.discrete 3).size := by decide
  obtain ⟨hgraph, -, hedges⟩ :=
    Digraph.addTargets_spec (Digraph.consistent_discrete 3) (a := 0) (by decide) hsmall
  rw [hvalue] at hexpanded hnet hperm
  refine ⟨hps, hvalue, hperm _ ps.reverse_perm, ⟨segments, last, hdivided, hexpanded⟩, rfl, _, rfl,
    hnet net 0 _ [1, 2] hgraph rfl rfl (by decide) (fun j => ?_) rfl⟩
  rw [hedges]
  have hnone := Digraph.not_edge_discrete 3 0 j
  simp only [hnone, false_or, true_and, List.mem_cons, List.not_mem_nil, or_false]
  exact or_comm

end Placeholders.Reference
