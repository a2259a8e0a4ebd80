import Placeholders.Pattern.Search

/-!
# The search finds what there is

Marks stand for sets of places, and what is done to them follows a relation between places.

* A move `Follows` a relation if it marks exactly the places to which a step leads from a marked one.
* Moves one after the other, side by side and over and over follow the relations that go with that. For
  repetitions without a bound there are enough rounds: a walk that never goes back has no more places to
  go to than the text has.
* `follows_reach` is the induction over patterns, and `occurs_iff` what it is for.
-/

namespace Placeholders.Pattern

open Placeholders.Text (CharSet)

/-! ## 1. Steps -/

section Steps

variable {step : Nat → Nat → Prop} {n i j : Nat}

theorem steps_add {a b : Nat} :
    Steps step (a + b) i j ↔ ∃ k, Steps step a i k ∧ Steps step b k j := by
  induction a generalizing i with
  | zero => simp [Steps]
  | succ a ih =>
      rw [Nat.succ_add]
      simp only [Steps, ih]
      constructor
      · rintro ⟨m, hm, k, hk, hrest⟩
        exact ⟨k, ⟨m, hm, hk⟩, hrest⟩
      · rintro ⟨k, ⟨m, hm, hk⟩, hrest⟩
        exact ⟨m, hm, k, hk, hrest⟩

/-- Where steps do not go back, those that stay in place can be left out. -/
theorem Steps.exists_short (hstep : ∀ a b, step a b → a ≤ b ∧ b ≤ n) {count : Nat}
    (h : Steps step count i j) (hi : i ≤ n) : ∃ few ≤ j - i, Steps step few i j := by
  induction count generalizing i with
  | zero => exact ⟨0, Nat.zero_le _, h⟩
  | succ count ih =>
      obtain ⟨k, hk, hrest⟩ := h
      obtain ⟨hik, hkn⟩ := hstep i k hk
      obtain ⟨few, hfew, hwalk⟩ := ih hrest hkn
      have hkj : k ≤ j := (hrest.bounds hstep hkn).1
      rcases Nat.eq_or_lt_of_le hik with rfl | hlt
      · exact ⟨few, hfew, hwalk⟩
      · exact ⟨few + 1, by omega, k, hk, hwalk⟩

end Steps

/-! ## 2. Moves -/

/-- A place is marked. -/
def Marked (marks : Marks) (i : Nat) : Prop := marks[i]? = some true

/-- A move takes the marks on the places of a text from where they are to where steps lead. -/
structure Follows (n : Nat) (move : Marks → Marks) (step : Nat → Nat → Prop) : Prop where
  length : ∀ marks : Marks, marks.length = n + 1 → (move marks).length = n + 1
  marked : ∀ marks : Marks, marks.length = n + 1 →
    ∀ j, Marked (move marks) j ↔ ∃ i, Marked marks i ∧ step i j

theorem Marked.le {n i : Nat} {marks : Marks} (h : Marked marks i) (hlength : marks.length = n + 1) :
    i ≤ n := by
  have hlt := (List.getElem?_eq_some_iff.mp h).1
  omega

theorem marked_merge {a b : Marks} (h : a.length = b.length) (j : Nat) :
    Marked (merge a b) j ↔ Marked a j ∨ Marked b j := by
  unfold Marked merge
  rw [List.getElem?_zipWith]
  by_cases hj : j < a.length
  · rw [List.getElem?_eq_getElem hj, List.getElem?_eq_getElem (h ▸ hj)]
    simp
  · rw [List.getElem?_eq_none (Nat.not_lt.mp hj), List.getElem?_eq_none (h ▸ Nat.not_lt.mp hj)]
    simp

theorem length_merge {n : Nat} {a b : Marks} (ha : a.length = n + 1) (hb : b.length = n + 1) :
    (merge a b).length = n + 1 := by
  simp [merge, ha, hb]

section Moves

variable {n : Nat} {move other : Marks → Marks} {step next : Nat → Nat → Prop}

theorem Follows.congr (h : Follows n move step) (hstep : ∀ i ≤ n, ∀ j, step i j ↔ next i j) :
    Follows n move next := by
  refine ⟨h.length, fun marks hlength j => (h.marked marks hlength j).trans ?_⟩
  exact exists_congr fun i => and_congr_right fun hi => hstep i (hi.le hlength) j

theorem follows_id : Follows n (fun marks => marks) fun i j => i = j := by
  refine ⟨fun _ h => h, fun marks _ j => ⟨fun h => ⟨j, h, rfl⟩, ?_⟩⟩
  rintro ⟨_, h, rfl⟩
  exact h

/-- One move after the other. -/
theorem Follows.comp (h : Follows n move step) (k : Follows n other next) :
    Follows n (fun marks => other (move marks)) fun i j => ∃ m, step i m ∧ next m j := by
  refine ⟨fun marks hlength => k.length _ (h.length marks hlength), fun marks hlength j => ?_⟩
  rw [k.marked _ (h.length marks hlength)]
  simp only [h.marked marks hlength]
  constructor
  · rintro ⟨m, ⟨i, hi, him⟩, hmj⟩
    exact ⟨i, hi, m, him, hmj⟩
  · rintro ⟨i, hi, m, him, hmj⟩
    exact ⟨m, ⟨i, hi, him⟩, hmj⟩

/-- Two moves side by side. -/
theorem Follows.merge (h : Follows n move step) (k : Follows n other next) :
    Follows n (fun marks => merge (move marks) (other marks)) fun i j => step i j ∨ next i j := by
  refine ⟨fun marks hlength => length_merge (h.length marks hlength) (k.length marks hlength),
    fun marks hlength j => ?_⟩
  rw [marked_merge ((h.length marks hlength).trans (k.length marks hlength).symm),
    h.marked marks hlength, k.marked marks hlength, ← exists_or]
  exact exists_congr fun i => and_or_left.symm

/-- Stopping early at marks that a move does not change makes no difference. -/
theorem moveTimes_succ (count : Nat) (marks : Marks) :
    moveTimes move (count + 1) marks = moveTimes move count (move marks) := by
  rw [moveTimes]
  split
  · rename_i hsame
    have hfixed : move marks = marks := by simpa using hsame
    rw [hfixed]
    cases count with
    | zero => rfl
    | succ count => rw [moveTimes, if_pos hsame]
  · rfl

/-- Stopping early at marks that a round does not add to makes no difference. -/
theorem closure_succ (rounds : Nat) (marks : Marks) :
    closure move (rounds + 1) marks = closure move rounds (Pattern.merge marks (move marks)) := by
  rw [closure]
  split
  · rename_i hsame
    have hfixed : Pattern.merge marks (move marks) = marks := by simpa using hsame
    rw [hfixed]
    cases rounds with
    | zero => rfl
    | succ rounds => rw [closure, if_pos hsame]
  · rfl

/-- A number of moves. -/
theorem Follows.moveTimes (h : Follows n move step) (count : Nat) :
    Follows n (moveTimes move count) (Steps step count) := by
  induction count with
  | zero => exact follows_id
  | succ count ih =>
      have hsucc : Pattern.moveTimes move (count + 1) = fun marks =>
          Pattern.moveTimes move count (move marks) := funext (moveTimes_succ count)
      rw [hsucc]
      exact h.comp ih

/-- Rounds that add to what is marked. -/
theorem Follows.closure (h : Follows n move step) (rounds : Nat) :
    Follows n (closure move rounds) fun i j => ∃ count ≤ rounds, Steps step count i j := by
  induction rounds with
  | zero =>
      refine follows_id.congr fun i _ j => ⟨fun hij => ⟨0, Nat.le_refl _, hij⟩, ?_⟩
      rintro ⟨count, hcount, hsteps⟩
      obtain rfl := Nat.le_zero.mp hcount
      exact hsteps
  | succ rounds ih =>
      have hsucc : Pattern.closure move (rounds + 1) = fun marks =>
          Pattern.closure move rounds (Pattern.merge marks (move marks)) := funext (closure_succ rounds)
      rw [hsucc]
      refine ((follows_id.merge h).comp ih).congr fun i _ j => ?_
      constructor
      · rintro ⟨m, rfl | him, count, hcount, hsteps⟩
        · exact ⟨count, Nat.le_succ_of_le hcount, hsteps⟩
        · exact ⟨count + 1, Nat.succ_le_succ hcount, m, him, hsteps⟩
      · rintro ⟨count, hcount, hsteps⟩
        cases count with
        | zero => exact ⟨i, .inl rfl, 0, Nat.zero_le _, hsteps⟩
        | succ count =>
            obtain ⟨m, him, hrest⟩ := hsteps
            exact ⟨m, .inr him, count, Nat.le_of_succ_le_succ hcount, hrest⟩

end Moves

/-! ## 3. Single signs -/

theorem follows_advance (set : CharSet) (w : List Char) :
    Follows w.length (advance set w) fun i j =>
      j = i + 1 ∧ ∃ c, w[i]? = some c ∧ set.contains c = true := by
  refine ⟨fun marks hlength => by simp [advance, hlength], fun marks hlength j => ?_⟩
  unfold Marked advance
  cases j with
  | zero => simp
  | succ j =>
      rw [List.getElem?_cons_succ, List.getElem?_zipWith]
      constructor
      · intro h
        cases hc : w[j]? with
        | none => simp [hc] at h
        | some c =>
            cases hmark : marks[j]? with
            | none => simp [hc, hmark] at h
            | some here =>
                obtain ⟨rfl, hset⟩ : here = true ∧ set.contains c = true := by simpa [hc, hmark] using h
                exact ⟨j, hmark, rfl, c, hc, hset⟩
      · rintro ⟨i, hmark, hij, c, hc, hset⟩
        obtain rfl := Nat.succ.inj hij
        simp [hmark, hc, hset]

/-- The marks that are kept, with what stands before the first place. -/
theorem marked_guardPlaces (look : Look) (left : Option Char) (w : List Char) (marks : Marks)
    (hlength : marks.length ≤ w.length + 1) (j : Nat) :
    Marked (guardPlaces look left w marks) j ↔
      Marked marks j ∧ look.holds (if j = 0 then left else w[j - 1]?) w[j]? = true := by
  unfold Marked
  induction w generalizing left marks j with
  | nil =>
      match marks, hlength with
      | [], _ => simp [guardPlaces]
      | [here], _ =>
          cases j with
          | zero => simp [guardPlaces]
          | succ j => simp [guardPlaces]
  | cons c w ih =>
      match marks, hlength with
      | [], _ => simp [guardPlaces]
      | here :: marks, hlength =>
          cases j with
          | zero => simp [guardPlaces]
          | succ j =>
              rw [guardPlaces, List.getElem?_cons_succ, ih (some c) marks (by simpa using hlength)]
              cases j <;> simp

theorem length_guardPlaces (look : Look) (left : Option Char) (w : List Char) (marks : Marks)
    (hlength : marks.length ≤ w.length + 1) : (guardPlaces look left w marks).length = marks.length := by
  induction w generalizing left marks with
  | nil =>
      match marks, hlength with
      | [], _ => rfl
      | [here], _ => rfl
  | cons c w ih =>
      match marks, hlength with
      | [], _ => rfl
      | here :: marks, hlength => simpa [guardPlaces] using ih (some c) marks (by simpa using hlength)

theorem follows_guardPlaces (look : Look) (w : List Char) :
    Follows w.length (guardPlaces look none w) fun i j =>
      i = j ∧ i ≤ w.length ∧ look.holds (Pattern.before w i) w[i]? = true := by
  refine ⟨fun marks hlength => ?_, fun marks hlength j => ?_⟩
  · rw [length_guardPlaces look none w marks (Nat.le_of_eq hlength), hlength]
  · rw [marked_guardPlaces look none w marks (Nat.le_of_eq hlength)]
    have hbefore : (if j = 0 then none else w[j - 1]?) = Pattern.before w j := by
      cases j <;> simp [Pattern.before]
    rw [hbefore]
    constructor
    · rintro ⟨hmark, hholds⟩
      exact ⟨j, hmark, rfl, hmark.le hlength, hholds⟩
    · rintro ⟨_, hmark, rfl, _, hholds⟩
      exact ⟨hmark, hholds⟩

/-! ## 4. Patterns -/

/-- Of the rounds of a repetition, the first ones are asked for and the others may follow. -/
theorem exists_rounds_iff {step : Nat → Nat → Prop} {least : Nat} {most : Option Nat} {i j : Nat} :
    (∃ count, least ≤ count ∧ (∀ bound ∈ most, count ≤ bound) ∧ Steps step count i j) ↔
      ∃ k, Steps step least i k ∧
        ∃ more, (∀ bound ∈ most, least + more ≤ bound) ∧ Steps step more k j := by
  constructor
  · rintro ⟨count, hleast, hmost, hsteps⟩
    obtain ⟨more, rfl⟩ := Nat.exists_eq_add_of_le hleast
    obtain ⟨k, hk, hrest⟩ := steps_add.mp hsteps
    exact ⟨k, hk, more, hmost, hrest⟩
  · rintro ⟨k, hk, more, hmost, hrest⟩
    exact ⟨least + more, Nat.le_add_right _ _, hmost, steps_add.mpr ⟨k, hk, hrest⟩⟩

/-- **The search goes from place to place as matches do.** -/
theorem follows_reach (p : Pattern) (w : List Char) :
    Follows w.length (p.reach w) (p.Matches w) := by
  induction p with
  | empty =>
      refine follows_id.congr fun i hi j => ?_
      exact ⟨fun h => ⟨h, hi⟩, And.left⟩
  | char set => exact follows_advance set w
  | look assertion => exact follows_guardPlaces assertion w
  | seq first second ih₁ ih₂ => exact ih₁.comp ih₂
  | alt left right ih₁ ih₂ => exact ih₁.merge ih₂
  | repeated least most body ih =>
      have hrounds : ∀ i ≤ w.length, ∀ j, (Pattern.repeated least most body).Matches w i j ↔
          ∃ k, Steps (body.Matches w) least i k ∧
            ∃ more, (∀ bound ∈ most, least + more ≤ bound) ∧ Steps (body.Matches w) more k j := by
        intro i hi j
        exact (and_iff_right hi).trans exists_rounds_iff
      cases most with
      | none =>
          refine ((ih.moveTimes least).comp (ih.closure w.length)).congr fun i hi j => ?_
          rw [hrounds i hi j]
          refine exists_congr fun k => and_congr_right fun hk => ?_
          constructor
          · rintro ⟨count, _, hsteps⟩
            exact ⟨count, nofun, hsteps⟩
          · rintro ⟨more, _, hsteps⟩
            have hkn := (hk.bounds (fun _ _ => Matches.bounds) hi).2
            obtain ⟨few, hfew, hwalk⟩ := hsteps.exists_short (fun _ _ => Matches.bounds) hkn
            have hjn := (hsteps.bounds (fun _ _ => Matches.bounds) hkn).2
            exact ⟨few, by omega, hwalk⟩
      | some most =>
          by_cases hempty : most < least
          · have hreach : (Pattern.repeated least (some most) body).reach w = List.map fun _ => false := by
              funext marks
              exact if_pos hempty
            rw [hreach]
            refine ⟨fun marks hlength => by simpa using hlength, fun marks _ j => iff_of_false ?_ ?_⟩
            · intro hmark
              obtain ⟨_, _, hfalse⟩ := List.mem_map.mp (List.mem_of_getElem? hmark)
              exact Bool.noConfusion hfalse
            · rintro ⟨i, _, _, count, hleast, hmost, _⟩
              have := hmost most rfl
              omega
          · have hreach : (Pattern.repeated least (some most) body).reach w = fun marks =>
                closure (body.reach w) (most - least) (moveTimes (body.reach w) least marks) := by
              funext marks
              exact if_neg hempty
            rw [hreach]
            refine ((ih.moveTimes least).comp (ih.closure (most - least))).congr fun i hi j => ?_
            rw [hrounds i hi j]
            refine exists_congr fun k => and_congr_right fun _ => exists_congr fun more => ?_
            refine and_congr_left fun _ => ?_
            simp only [Option.mem_some_iff, forall_eq']
            omega

/-- **The search finds a match exactly if there is one.** -/
theorem occurs_iff {p : Pattern} {w : List Char} : p.occurs w = true ↔ p.Occurs w := by
  have hall : (List.replicate (w.length + 1) true : Marks).length = w.length + 1 := List.length_replicate
  have hmarked := (follows_reach p w).marked _ hall
  unfold occurs Occurs
  rw [List.any_eq_true, exists_comm]
  constructor
  · rintro ⟨here, hmem, hhere⟩
    obtain ⟨j, hj⟩ := List.mem_iff_getElem?.mp hmem
    obtain ⟨i, _, hmatch⟩ := (hmarked j).mp (hj.trans (congrArg some hhere))
    exact ⟨j, i, hmatch⟩
  · rintro ⟨j, i, hmatch⟩
    have hi : i < w.length + 1 := Nat.lt_succ_of_le (Nat.le_trans hmatch.bounds.1 hmatch.bounds.2)
    have hj := (hmarked j).mpr ⟨i, by simp [Marked, hi], hmatch⟩
    exact ⟨true, List.mem_of_getElem? hj, rfl⟩

end Placeholders.Pattern
