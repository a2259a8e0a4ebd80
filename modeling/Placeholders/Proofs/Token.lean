import Placeholders.Pattern.Reader
import Placeholders.Proofs.Pattern.Search
import Placeholders.Proofs.Text.Occurrences
import Placeholders.Token

/-!
# Looking for tokens

Names act as texts and never as patterns. Where a token is looked for by a pattern, its literal is quoted.

* A quoted text reads as its characters in a row, whichever these are (`reads_quote`), and this matches
  where the text stands (`matches_row`).
* Searching for a token, counting it and replacing it go through a text on their own; all of them come to
  the same places (`count_replaceAll_occursIn`).
-/

namespace Placeholders

namespace Pattern

open Placeholders.Text

variable {s w : List Char} {c : Char} {i j : Nat}

/-! ## 1. Quoting -/

/-- The signs that mean something in a pattern. -/
def signs : List Char :=
  ['\\', '.', '+', '*', '?', '(', ')', '|', '[', ']', '\x7b', '\x7d', '^', '$', '#', '&', '-', '~']

/-- A text with a backslash before every sign. -/
def quote (s : List Char) : List Char := s.flatMap fun c => if c ∈ signs then ['\\', c] else [c]

theorem readEscape_of_mem (flags : Flags) (hc : c ∈ signs) (s : List Char) :
    readEscape flags (c :: s) = some (.literal c false, s) := by
  simp only [signs, List.mem_cons, List.not_mem_nil, or_false] at hc
  rcases hc with rfl | rfl | rfl | rfl | rfl | rfl | rfl | rfl | rfl | rfl | rfl | rfl | rfl | rfl | rfl |
    rfl | rfl | rfl <;> rfl

theorem step?_of_not_mem (p : Progress) (hc : c ∉ signs) (s : List Char) :
    step? p c s = some (p.push (p.flags.literal c), s) := by
  unfold step?
  split
  all_goals first | rfl | exact absurd (by decide) hc

theorem quote_cons (c : Char) (s : List Char) :
    quote (c :: s) = (if c ∈ signs then ['\\', c] else [c]) ++ quote s := rfl

/-- A quoted character is one step. -/
theorem exists_step?_quote (p : Progress) (c : Char) (s : List Char) :
    ∃ d t, quote (c :: s) = d :: t ∧ step? p d t = some (p.push (p.flags.literal c), quote s) := by
  by_cases hc : c ∈ signs
  · refine ⟨'\\', c :: quote s, by rw [quote_cons, if_pos hc]; rfl, ?_⟩
    have hescape := readEscape_of_mem p.flags hc (quote s)
    simp [step?, hescape, Escape.node?]
  · exact ⟨c, quote s, by rw [quote_cons, if_neg hc]; rfl, step?_of_not_mem p hc (quote s)⟩

/-- **A quoted text is read one character after the other**, unless blanks are passed over. -/
theorem readFrom_quote (s : List Char) {fuel : Nat} (hfuel : s.length < fuel) (p : Progress)
    (hplain : p.flags.verbose = false) :
    readFrom p fuel (quote s) =
      some { p with items := (s.map fun c => some (p.flags.literal c)).reverse ++ p.items } := by
  have hspace : ∀ s, p.flags.space s = s := fun s => by simp [Flags.space, hplain]
  induction s generalizing fuel p with
  | nil =>
      obtain ⟨fuel, rfl⟩ := Nat.exists_eq_succ_of_ne_zero (Nat.ne_of_gt hfuel)
      simp [quote, readFrom, hspace]
  | cons c s ih =>
      obtain ⟨fuel, rfl⟩ := Nat.exists_eq_succ_of_ne_zero (Nat.ne_of_gt (Nat.zero_lt_of_lt hfuel))
      obtain ⟨d, t, hquote, hstep⟩ := exists_step?_quote p c s
      rw [hquote, readFrom, hspace]
      simp only [hstep]
      rw [ih (Nat.lt_of_succ_lt_succ hfuel) (p.push (p.flags.literal c)) hplain hspace]
      simp [Progress.push]

/-- A text reads as a pattern, whatever room this takes. -/
def Reads (source : List Char) (p : Pattern) : Prop :=
  ∃ progress, readFrom {} (source.length + 1) source = some progress ∧ progress.outer = [] ∧
    progress.body.height ≤ heightLimit ∧ progress.body.pattern = p

theorem Reads.eq_of_read? {source : List Char} {p q : Pattern} (h : Reads source p)
    (hread : read? source = some q) : q = p := by
  obtain ⟨progress, hprogress, _, _, rfl⟩ := h
  rw [read?, hprogress] at hread
  dsimp only at hread
  split at hread
  · exact (Option.some.inj hread).symm
  · cases hread

theorem length_le_quote (s : List Char) : s.length ≤ (quote s).length := by
  induction s with
  | nil => exact Nat.le_refl 0
  | cons c s ih =>
      rw [quote_cons, List.length_append, List.length_cons]
      split <;> simp only [List.length_cons, List.length_nil] <;> omega

theorem greatestHeight_ofSet (s : List Char) :
    greatestHeight (s.map fun c => Node.ofSet (.single c) 0) = 0 := by
  unfold greatestHeight
  induction s with
  | nil => rfl
  | cons c s ih => exact ih

/-- **A quoted text reads as its characters in a row.** -/
theorem reads_quote (s : List Char) : Reads (quote s) (sequence (s.map fun c => .char (.single c))) := by
  have hnodes : ((s.map fun c => some (Flags.literal {} c)).reverse ++ []).reverse.filterMap id =
      s.map fun c => Node.ofSet (.single c) 0 := by
    rw [List.append_nil, List.reverse_reverse, List.filterMap_map]
    exact List.filterMap_eq_map_iff_forall_eq_some.mpr fun _ _ => rfl
  refine ⟨_, readFrom_quote s (Nat.lt_succ_of_le (length_le_quote s)) {} rfl, rfl, ?_, ?_⟩
  · simp only [Progress.body, branchOf, List.reverse_singleton, hnodes, greatestHeight_ofSet]
    split <;> decide
  · simp only [Progress.body, branchOf, List.reverse_singleton, hnodes, List.map_map]
    rfl

/-! ## 2. What a quoted text matches -/

theorem matches_sequence_cons {p : Pattern} {ps : List Pattern} :
    (sequence (p :: ps)).Matches w i j ↔ ∃ k, p.Matches w i k ∧ (sequence ps).Matches w k j := by
  cases ps with
  | nil =>
      constructor
      · exact fun h => ⟨j, h, rfl, h.bounds.2⟩
      · rintro ⟨k, h, rfl, _⟩
        exact h
  | cons q ps => exact Iff.rfl

/-- **Characters in a row match where they stand, up to the place after them.** -/
theorem matches_row : (sequence (s.map fun c => .char (.single c))).Matches w i j ↔
    StandsAt s w i ∧ j = i + s.length := by
  induction s generalizing i with
  | nil =>
      rw [standsAt_nil]
      exact ⟨fun h => ⟨h.2, h.1.symm⟩, fun h => ⟨h.2.symm, h.1⟩⟩
  | cons c s ih =>
      rw [List.map_cons, matches_sequence_cons, standsAt_cons, List.length_cons]
      constructor
      · rintro ⟨_, ⟨rfl, d, hd, hcontains⟩, hrest⟩
        obtain rfl : d = c := by simpa using hcontains
        obtain ⟨hstands, rfl⟩ := ih.mp hrest
        exact ⟨⟨hd, hstands⟩, by omega⟩
      · rintro ⟨⟨hc, hstands⟩, rfl⟩
        exact ⟨i + 1, ⟨rfl, c, hc, by simp⟩, ih.mpr ⟨hstands, by omega⟩⟩

theorem occurs_row : (sequence (s.map fun c => .char (.single c))).occurs w = Text.occursIn s w := by
  rw [Bool.eq_iff_iff, occurs_iff, occursIn_iff, ← exists_standsAt_iff]
  refine exists_congr fun i => ?_
  simp only [matches_row, exists_and_left, exists_eq, and_true]

/-- **To test a text for a quoted one is to ask whether this is a part of it.** -/
theorem test?_quote {literal text : String} {found : Bool}
    (h : test? (String.ofList (quote literal.toList)) text = some found) :
    found = Text.occursIn literal.toList text.toList := by
  obtain ⟨p, hp, rfl⟩ := Option.map_eq_some_iff.mp h
  rw [String.toList_ofList] at hp
  rw [(reads_quote literal.toList).eq_of_read? hp, occurs_row]

end Pattern

/-! ## 3. Tokens -/

namespace Token

open Text

/-- **Searching, counting and replacing agree.** A token stands for its name between its affixes, and quoted
    this matches as it is written. The text is cut at the leftmost places at which the literal stands, these
    are counted, and the replacement comes between what is left; there is such a place if and only if the
    literal is a part of the text. The literal in its own place changes nothing, and an empty literal is
    found before every character and at the end. -/
theorem count_replaceAll_occursIn (opening name closing text replacement : String) :
    let token := ofAffixes opening name closing
    let literal := (opening ++ name ++ closing).toList
    (∃ p, Pattern.Reads (Pattern.quote literal) p ∧
      ∀ i j, p.Matches text.toList i j ↔ StandsAt literal text.toList i ∧ j = i + literal.length) ∧
    ∃ starts, Leftmost literal text.toList 0 starts ∧
      (∀ others, Leftmost literal text.toList 0 others → others = starts) ∧
      token.count text = starts.length ∧
      token.replaceAll text replacement = .ok (String.ofList (replacement.toList.intercalate
        (gapsFrom literal.length text.toList 0 starts)), token.count text) ∧
      literal.intercalate (gapsFrom literal.length text.toList 0 starts) = text.toList ∧
      (token.occursIn text = true ↔ 0 < token.count text) ∧
      (token.occursIn text = true ↔ literal <:+: text.toList) ∧
      token.replaceAll text (opening ++ name ++ closing) = .ok (text, token.count text) ∧
      (literal = [] → token.count text = text.length + 1 ∧ starts = List.range (text.length + 1) ∧
        token.replaceAll text replacement = .ok (String.ofList (replacement.toList ++
          text.toList.flatMap fun c => c :: replacement.toList), token.count text)) := by
  intro token literal
  have halong : CutAlong literal text.toList (cut token.lexicon text.toList) := cutAlong_cut literal text.toList
  have hleftmost := halong.leftmost List.drop_zero (Nat.zero_le _)
  have hcount : token.count text = (startsFrom 0 (cut token.lexicon text.toList)).length :=
    (length_startsFrom 0 _).symm
  have hreplace : ∀ value : String, token.replaceAll text value = .ok (String.ofList
      ((cut token.lexicon text.toList).flatMap (Piece.render fun _ => value.toList)), token.count text) :=
    fun _ => rfl
  have hoccurs : token.occursIn text = true ↔ literal <:+: text.toList := occursIn_iff
  refine ⟨⟨_, Pattern.reads_quote literal, fun i j => Pattern.matches_row⟩, ?_⟩
  refine ⟨_, hleftmost, fun others => hleftmost.unique, hcount, ?_, ?_, ?_, hoccurs, ?_, fun hempty => ?_⟩
  · rw [hreplace, halong.render List.drop_zero]
  · rw [← halong.render List.drop_zero, halong.render_literal]
  · rw [hoccurs, ← exists_standsAt_iff, hcount, List.length_pos_iff_exists_mem]
    exact ⟨fun ⟨i, hi⟩ => (hleftmost.reached i (Nat.zero_le i) hi).imp fun _ => And.left,
      fun ⟨i, hi⟩ => ⟨i, (hleftmost.stands i hi).2⟩⟩
  · rw [hreplace, halong.render_literal, String.ofList_toList]
  · rw [hempty] at halong
    have hstarts := halong.starts_of_empty (n := 0)
    rw [hcount, hstarts, List.length_range', hreplace, halong.render_of_empty, List.range_eq_range']
    exact ⟨rfl, rfl, by rw [hcount, hstarts, List.length_range']⟩

/-- A token without a name and without affixes is found at every boundary. -/
theorem count_replaceAll_occursIn_of_empty :
    (ofAffixes "" "" "").count "a$" = 3 ∧ (ofAffixes "" "" "").replaceAll "a$" "-" = .ok ("-a-$-", 3) ∧
      (ofAffixes "" "" "").replaceAll "a$" "" = .ok ("a$", 3) ∧
      ∃ starts, Leftmost [] "a$".toList 0 starts ∧ starts = [0, 1, 2] := by
  obtain ⟨_, starts, hleftmost, _, _, _, _, _, _, hkept, hempty⟩ :=
    count_replaceAll_occursIn "" "" "" "a$" "-"
  obtain ⟨hcount, hstarts, hreplaced⟩ := hempty rfl
  have hthree : (ofAffixes "" "" "").count "a$" = 3 := hcount
  rw [hthree] at hkept hreplaced
  exact ⟨hthree, hreplaced, hkept, starts, hleftmost, hstarts⟩

end Token

end Placeholders
