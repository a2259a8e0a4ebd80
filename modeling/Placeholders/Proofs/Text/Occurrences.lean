import Placeholders.Proofs.Text.Cutting

/-!
# Occurrences

The places at which a literal is found in a text, and what is left of the text between them.

* `Leftmost` says which places these are: the literal stands there, they do not overlap, and wherever else
  it stands one of them reaches that place from the left. There is one such list only (`Leftmost.unique`).
* `CutAlong` follows a text as it is cut at one literal. The empty literal has steps of its own, for it
  stands between any two characters. The hits are at the leftmost places (`CutAlong.leftmost`).
* `gapsFrom` is what is left when the literal is cut out at some places. Rejoined with a value in between it
  is the text with the literal replaced (`CutAlong.render`).
-/

namespace Placeholders.Text

variable {literal s t : List Char} {pieces : List (Piece Unit)} {starts others : List Nat} {n : Nat}

/-! ## 1. Places -/

/-- The literal stands at a place of the text. -/
def StandsAt (literal s : List Char) (i : Nat) : Prop := i ≤ s.length ∧ literal <+: s.drop i

theorem exists_standsAt_iff : (∃ i, StandsAt literal s i) ↔ literal <:+: s := by
  rw [List.infix_iff_prefix_suffix]
  constructor
  · rintro ⟨i, _, hstands⟩
    exact ⟨s.drop i, hstands, List.drop_suffix i s⟩
  · rintro ⟨back, hstands, front, rfl⟩
    refine ⟨front.length, by simp, ?_⟩
    rwa [List.drop_left]

theorem standsAt_nil {i : Nat} : StandsAt [] s i ↔ i ≤ s.length := and_iff_left List.nil_prefix

theorem standsAt_cons {c : Char} {i : Nat} :
    StandsAt (c :: literal) s i ↔ s[i]? = some c ∧ StandsAt literal s (i + 1) := by
  unfold StandsAt
  by_cases hi : i < s.length
  · rw [List.drop_eq_getElem_cons hi, List.cons_prefix_cons, List.getElem?_eq_getElem hi, Option.some_inj,
      eq_comm (a := c)]
    constructor
    · exact fun h => ⟨h.2.1, hi, h.2.2⟩
    · exact fun h => ⟨Nat.le_of_lt hi, h.1, h.2.2⟩
  · refine iff_of_false (fun h => ?_) fun h => hi h.2.1
    have hprefix := h.2
    rw [List.drop_eq_nil_of_le (Nat.not_lt.mp hi), List.prefix_nil] at hprefix
    cases hprefix

/-- The places from one on at which a literal is found when it is looked for from left to right, each time
    after the last one found. -/
structure Leftmost (literal s : List Char) (n : Nat) (starts : List Nat) : Prop where
  stands : ∀ i ∈ starts, n ≤ i ∧ StandsAt literal s i
  apart : starts.Pairwise fun i j => i < j ∧ i + literal.length ≤ j
  reached : ∀ i, n ≤ i → StandsAt literal s i → ∃ j ∈ starts, j ≤ i ∧ (j = i ∨ i < j + literal.length)

namespace Leftmost

theorem sorted (h : Leftmost literal s n starts) : starts.Pairwise (· < ·) := h.apart.imp And.left

/-- Of two places the later one is not reached from the earlier one. -/
theorem add_length_le (h : Leftmost literal s n starts) {i j : Nat} (hi : i ∈ starts) (hj : j ∈ starts)
    (hlt : i < j) : i + literal.length ≤ j := by
  refine List.Pairwise.forall_of_forall_of_flip (R := fun i j => i < j → i + literal.length ≤ j)
    ?_ ?_ ?_ hi hj hlt
  · exact fun x _ hx => absurd hx (Nat.lt_irrefl x)
  · exact h.apart.imp fun hij _ => hij.2
  · exact h.apart.imp fun hij hji => absurd hij.1 (Nat.lt_asymm hji)

/-- A place of one list is one of the other. By induction on places: if it were reached from an earlier one
    of the other list, that would be one of its own list too. -/
theorem mem_of_mem (h : Leftmost literal s n starts) (hothers : Leftmost literal s n others) {i : Nat} :
    (i ∈ starts → i ∈ others) ∧ (i ∈ others → i ∈ starts) := by
  induction i using Nat.strong_induction_on with
  | h i ih =>
      have hstep : ∀ {a b : List Nat}, Leftmost literal s n a → Leftmost literal s n b →
          (∀ j < i, j ∈ b → j ∈ a) → i ∈ a → i ∈ b := by
        intro a b ha hb hback hi
        obtain ⟨hn, hstands⟩ := ha.stands i hi
        obtain ⟨j, hj, hle, rfl | hreach⟩ := hb.reached i hn hstands
        · exact hj
        · rcases Nat.eq_or_lt_of_le hle with rfl | hlt
          · exact hj
          · exact absurd (ha.add_length_le (hback j hlt hj) hi hlt) (Nat.not_le.mpr hreach)
      exact ⟨hstep h hothers fun j hj => (ih j hj).2, hstep hothers h fun j hj => (ih j hj).1⟩

/-- **There is one list of leftmost places only.** -/
theorem unique (h : Leftmost literal s n starts) (hothers : Leftmost literal s n others) :
    others = starts := by
  refine List.Perm.eq_of_pairwise (fun a b _ _ hab hba => absurd hab (Nat.lt_asymm hba))
    hothers.sorted h.sorted ?_
  rw [List.perm_ext_iff_of_nodup (hothers.sorted.imp Nat.ne_of_lt) (h.sorted.imp Nat.ne_of_lt)]
  exact fun i => ⟨(h.mem_of_mem hothers).2, (h.mem_of_mem hothers).1⟩

theorem nil (hnone : ∀ i, n ≤ i → ¬ StandsAt literal s i) : Leftmost literal s n [] :=
  ⟨fun _ hi => absurd hi List.not_mem_nil, .nil, fun i hi hstands => absurd hstands (hnone i hi)⟩

/-- Where the literal does not stand the search goes on. -/
theorem skip (h : Leftmost literal s (n + 1) starts) (hnot : ¬ StandsAt literal s n) :
    Leftmost literal s n starts where
  stands i hi := ⟨Nat.le_of_succ_le (h.stands i hi).1, (h.stands i hi).2⟩
  apart := h.apart
  reached i hi hstands := by
    refine h.reached i (Nat.lt_of_le_of_ne hi ?_) hstands
    rintro rfl
    exact hnot hstands

/-- Where it stands the search goes on after it, and at the next place at the earliest. -/
theorem take {next : Nat} (h : Leftmost literal s next starts) (hstands : StandsAt literal s n)
    (hnext : next = max (n + 1) (n + literal.length)) : Leftmost literal s n (n :: starts) where
  stands := List.forall_mem_cons.mpr
    ⟨⟨Nat.le_refl n, hstands⟩, fun i hi => ⟨by have := (h.stands i hi).1; omega, (h.stands i hi).2⟩⟩
  apart := List.pairwise_cons.mpr ⟨fun i hi => by have := (h.stands i hi).1; omega, h.apart⟩
  reached i hi hat := by
    by_cases hlt : i < next
    · exact ⟨n, List.mem_cons_self, hi, by omega⟩
    · obtain ⟨j, hj, hreach⟩ := h.reached i (Nat.not_lt.mp hlt) hat
      exact ⟨j, List.mem_cons_of_mem n hj, hreach⟩

end Leftmost

/-! ## 2. Cutting at one literal -/

/-- The pieces of a text that is cut at one literal. -/
inductive CutAlong (literal : List Char) : List Char → List (Piece Unit) → Prop where
  | done (hne : literal ≠ []) : CutAlong literal [] []
  | plain {c : Char} {s : List Char} {pieces : List (Piece Unit)} (hnot : ¬ literal <+: c :: s)
    (h : CutAlong literal s pieces) : CutAlong literal (c :: s) (.plain c :: pieces)
  | hit {s : List Char} {pieces : List (Piece Unit)} (hne : literal ≠ []) (h : CutAlong literal s pieces) :
    CutAlong literal (literal ++ s) (.hit literal () :: pieces)
  | last (hempty : literal = []) : CutAlong literal [] [.hit [] ()]
  | between {c : Char} {s : List Char} {pieces : List (Piece Unit)} (hempty : literal = [])
    (h : CutAlong literal s pieces) : CutAlong literal (c :: s) (.hit [] () :: .plain c :: pieces)

/-- **A lexicon of one literal cuts along it.** -/
theorem cutAlong_cut (literal s : List Char) : CutAlong literal s (cut [(literal, ())] s) := by
  by_cases hempty : literal = []
  · subst hempty
    have hfound : ∀ s, Lexicon.startOf? [([], ())] s = some ([], ()) := fun s => by simp [Lexicon.startOf?]
    induction s with
    | nil =>
        have hcut : cut [([], ())] [] = [.hit [] ()] := by simp [cut, cutFrom, hfound]
        exact hcut ▸ .last rfl
    | cons c s ih =>
        have hcut : cut [([], ())] (c :: s) = .hit [] () :: .plain c :: cut [([], ())] s := by
          simp [cut, cutFrom, hfound]
        exact hcut ▸ .between rfl ih
  · have hproper : Lexicon.Proper [(literal, ())] := fun e he => (List.mem_singleton.mp he) ▸ hempty
    induction s using hproper.cut_induction with
    | nil => exact hproper.cut_nil ▸ .done hempty
    | plain c s hnone ih =>
        rw [hproper.cut_cons_of_none hnone]
        exact .plain (Lexicon.startOf?_eq_none_iff.mp hnone _ (List.mem_singleton_self _)) ih
    | hit found target s hfound ih =>
        obtain ⟨rfl, _⟩ := Prod.mk.inj (List.mem_singleton.mp (Lexicon.startOf?_spec hfound).1)
        rw [hproper.cut_append_of_some hfound]
        exact .hit hempty ih

/-- The places of the hits, if the pieces begin at a place. -/
def startsFrom : (place : Nat) → List (Piece Unit) → List Nat
  | _, [] => []
  | place, .plain _ :: pieces => startsFrom (place + 1) pieces
  | place, .hit literal _ :: pieces => place :: startsFrom (place + literal.length) pieces

theorem length_startsFrom (place : Nat) (pieces : List (Piece Unit)) :
    (startsFrom place pieces).length = (pieces.filterMap Piece.target?).length := by
  induction pieces generalizing place with
  | nil => rfl
  | cons piece pieces ih =>
      cases piece with
      | plain c => exact ih (place + 1)
      | hit literal target => exact congrArg (· + 1) (ih (place + literal.length))

theorem le_of_mem_startsFrom {i place : Nat} {pieces : List (Piece Unit)} (hi : i ∈ startsFrom place pieces) :
    place ≤ i := by
  induction pieces generalizing place with
  | nil => cases hi
  | cons piece pieces ih =>
      cases piece with
      | plain c => exact Nat.le_of_succ_le (ih hi)
      | hit literal target =>
          rcases List.mem_cons.mp hi with rfl | hi
          · exact Nat.le_refl i
          · exact Nat.le_trans (Nat.le_add_right ..) (ih hi)

/-- What is cut off the front of a text is a character or the literal. -/
theorem drop_of_drop (front : List Char) (h : t.drop n = front ++ s) : t.drop (n + front.length) = s := by
  rw [← List.drop_drop, h, List.drop_left]

/-- **The pieces have their hits at the leftmost places.** -/
theorem CutAlong.leftmost (h : CutAlong literal s pieces) (hdrop : t.drop n = s) (hn : n ≤ t.length) :
    Leftmost literal t n (startsFrom n pieces) := by
  have hlength : t.length = n + s.length := by
    rw [← hdrop, List.length_drop]
    omega
  induction h generalizing n with
  | done hne =>
      refine .nil fun i hi hstands => hne ?_
      have hi : i = t.length := Nat.le_antisymm hstands.1 (by simpa [hlength] using hi)
      have hprefix := hstands.2
      rwa [hi, List.drop_length, List.prefix_nil] at hprefix
  | @plain c s pieces hnot _ ih =>
      have hnext := drop_of_drop [c] hdrop
      refine (ih hnext (by simp [hlength]) (by simp [hlength]; omega)).skip fun hstands => hnot ?_
      rw [← hdrop]
      exact hstands.2
  | @hit s pieces hne _ ih =>
      have hpos := List.length_pos_of_ne_nil hne
      refine (ih (drop_of_drop literal hdrop) (by simp [hlength]) ?_).take ⟨hn, ?_⟩ (by omega)
      · rw [hlength, List.length_append, Nat.add_assoc]
      · rw [hdrop]
        exact List.prefix_append ..
  | last hempty =>
      subst hempty
      have hend : Leftmost [] t (n + 1) [] := .nil fun i hi hstands => by
        have hi := hstands.1
        simp only [List.length_nil] at hlength
        omega
      exact hend.take ⟨hn, List.nil_prefix⟩ (by simp)
  | @between c s pieces hempty _ ih =>
      subst hempty
      have hnext := drop_of_drop [c] hdrop
      exact (ih hnext (by simp [hlength]) (by simp [hlength]; omega)).take ⟨hn, List.nil_prefix⟩ (by simp)

/-! ## 3. Rejoining -/

/-- What is left of a text from a place on when a literal of some length is cut out at some places. -/
def gapsFrom (length : Nat) (s : List Char) : (place : Nat) → (starts : List Nat) → List (List Char)
  | place, [] => [s.drop place]
  | place, i :: starts => (s.drop place).take (i - place) :: gapsFrom length s (i + length) starts

theorem gapsFrom_ne_nil (length : Nat) (s : List Char) (place : Nat) (starts : List Nat) :
    gapsFrom length s place starts ≠ [] := by
  cases starts <;> exact List.cons_ne_nil _ _

section Gaps

variable {length : Nat} {value : List Char}

/-- A character before the first place stays in front. -/
theorem intercalate_gapsFrom_cons {c : Char} (hdrop : t.drop n = c :: s) (hstarts : ∀ i ∈ starts, n + 1 ≤ i) :
    value.intercalate (gapsFrom length t n starts) =
      c :: value.intercalate (gapsFrom length t (n + 1) starts) := by
  have hnext : t.drop (n + 1) = s := drop_of_drop [c] hdrop
  cases starts with
  | nil => simp only [gapsFrom, List.intercalate_singleton, hdrop, hnext]
  | cons i starts =>
      obtain ⟨k, rfl⟩ := Nat.exists_eq_add_of_le (hstarts i List.mem_cons_self)
      have hfirst : n + 1 + k - n = k + 1 := by omega
      have hsecond : n + 1 + k - (n + 1) = k := by omega
      simp only [gapsFrom, List.intercalate_cons_of_ne_nil (gapsFrom_ne_nil _ _ _ _), hdrop, hnext, hfirst,
        hsecond, List.take_succ_cons, List.cons_append]

/-- Where the first place is at hand there is nothing before it. -/
theorem intercalate_gapsFrom_self :
    value.intercalate (gapsFrom length t n (n :: starts)) =
      value ++ value.intercalate (gapsFrom length t (n + length) starts) := by
  simp only [gapsFrom, List.intercalate_cons_of_ne_nil (gapsFrom_ne_nil _ _ _ _), Nat.sub_self, List.take_zero,
    List.nil_append]

/-- **Rendering the pieces is rejoining the gaps.** -/
theorem CutAlong.render (h : CutAlong literal s pieces) (hdrop : t.drop n = s) (value : List Char) :
    pieces.flatMap (Piece.render fun _ => value) =
      value.intercalate (gapsFrom literal.length t n (startsFrom n pieces)) := by
  induction h generalizing n with
  | done =>
      simp [startsFrom, gapsFrom, hdrop]
  | @plain c s pieces _ _ ih =>
      have hnext : t.drop (n + 1) = s := drop_of_drop [c] hdrop
      rw [startsFrom, intercalate_gapsFrom_cons hdrop fun i hi => le_of_mem_startsFrom hi, ← ih hnext]
      rfl
  | @hit s pieces _ _ ih =>
      rw [startsFrom, intercalate_gapsFrom_self, ← ih (drop_of_drop literal hdrop)]
      rfl
  | last hempty =>
      subst hempty
      simp [startsFrom, gapsFrom, hdrop, Piece.render, List.intercalate_cons_cons]
  | @between c s pieces hempty _ ih =>
      subst hempty
      have hnext : t.drop (n + 1) = s := drop_of_drop [c] hdrop
      rw [startsFrom, startsFrom, intercalate_gapsFrom_self, List.length_nil, Nat.add_zero,
        intercalate_gapsFrom_cons hdrop fun i hi => le_of_mem_startsFrom hi]
      exact congrArg (fun rest => value ++ c :: rest) (ih hnext)

end Gaps

/-- Rendered with the literal itself the pieces are the text. -/
theorem CutAlong.render_literal (h : CutAlong literal s pieces) :
    pieces.flatMap (Piece.render fun _ => literal) = s := by
  induction h with
  | done => rfl
  | plain _ _ ih => exact congrArg _ ih
  | hit _ _ ih => exact congrArg _ ih
  | last hempty =>
      subst hempty
      rfl
  | between hempty _ ih =>
      subst hempty
      exact congrArg _ ih

/-- The empty literal is found at every place, also at both ends. -/
theorem CutAlong.starts_of_empty (h : CutAlong [] s pieces) :
    startsFrom n pieces = List.range' n (s.length + 1) := by
  generalize hempty : ([] : List Char) = literal at h
  induction h generalizing n with
  | done hne => exact absurd hempty.symm hne
  | plain hnot => exact absurd (hempty ▸ List.nil_prefix) hnot
  | hit hne => exact absurd hempty.symm hne
  | last => rfl
  | between _ _ ih => exact congrArg (n :: ·) ih

theorem CutAlong.render_of_empty (h : CutAlong [] s pieces) (value : List Char) :
    pieces.flatMap (Piece.render fun _ => value) = value ++ s.flatMap fun c => c :: value := by
  generalize hempty : ([] : List Char) = literal at h
  induction h with
  | done hne => exact absurd hempty.symm hne
  | plain hnot => exact absurd (hempty ▸ List.nil_prefix) hnot
  | hit hne => exact absurd hempty.symm hne
  | last => simp [Piece.render]
  | between _ _ ih =>
      simp only [List.flatMap_cons, ih, Piece.render]
      rfl

end Placeholders.Text
