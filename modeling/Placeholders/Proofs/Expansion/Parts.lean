import Mathlib.Data.List.Forall2
import Placeholders.Proofs.Expansion.Targets

/-!
# The parts of a text

What `partsFrom` makes of a cut text.

* The replaced tokens are those found in the text whose class is replaced where it stands
  (`partsFrom_snd`).
* A plain part holds no token that would be replaced if it was looked through on its own
  (`replacedIn_of_plain_mem`). It may hold tokens all the same: where no markup is read, those that ask
  for a binding stay in the text around them. They are found again, at the same places.
* Only replaced tokens become bindings (`mem_partsFrom_snd`).
* Other values for the same tokens do not change any of this, and of the parts only those that show
  these values (`partsFrom_follows`).
-/

namespace Placeholders

open Placeholders.Text

/-- Whether a token is replaced; `raw` says that no markup is read where it stands. -/
def Target.isReplaced (t : Target) (raw : Bool) : Bool := (t.part? raw).isSome

/-- The tokens in a text that are replaced, in order. -/
def replacedIn (lexicon : Lexicon Target) (raw : Bool) (s : List Char) : List Target :=
  (hits lexicon s).filter (·.isReplaced raw)

/-- Where markup is read every token is replaced. -/
theorem isReplaced_false (t : Target) : t.isReplaced false = true := by
  unfold Target.isReplaced Target.part?
  cases t.strategy <;> rfl

theorem replacedIn_false (lexicon : Lexicon Target) (s : List Char) :
    replacedIn lexicon false s = hits lexicon s :=
  List.filter_eq_self.mpr fun t _ => isReplaced_false t

theorem partsFrom_snd (raw : Bool) (before : List Char) (pieces : List (Piece Target)) :
    (partsFrom raw before pieces).2 =
      (pieces.filterMap Piece.target?).filter (·.isReplaced raw) := by
  induction pieces generalizing before with
  | nil => rfl
  | cons piece rest ih =>
      cases piece with
      | plain c => exact ih (c :: before)
      | hit literal t =>
          rw [partsFrom, List.filterMap_cons_some (show (Piece.hit literal t).target? = some t from rfl)]
          cases hpart : t.part? raw with
          | none =>
              rw [List.filter_cons_of_neg (by simp [Target.isReplaced, hpart])]
              exact ih _
          | some part =>
              rw [List.filter_cons_of_pos (by simp [Target.isReplaced, hpart])]
              exact congrArg (t :: ·) (ih [])

/-! ## 1. Plain parts -/

/-- So far nothing has been replaced: however far the rest of the text goes on, the part before it adds
    nothing to what is replaced. -/
def Adjoins (lexicon : Lexicon Target) (raw : Bool) (before s : List Char) : Prop :=
  ∀ t, t <+: s → replacedIn lexicon raw (before ++ t) = replacedIn lexicon raw t

theorem adjoins_nil (lexicon : Lexicon Target) (raw : Bool) (s : List Char) :
    Adjoins lexicon raw [] s :=
  fun _ _ => rfl

theorem Adjoins.replacedIn_eq_nil {lexicon : Lexicon Target} (hproper : lexicon.Proper) {raw : Bool}
    {before s : List Char} (h : Adjoins lexicon raw before s) :
    replacedIn lexicon raw before = [] := by
  have hempty := h [] List.nil_prefix
  rw [List.append_nil] at hempty
  rw [hempty, replacedIn, hproper.hits_nil]
  rfl

/-- A character at which nothing is found can be moved to the part before. -/
theorem Adjoins.plain {lexicon : Lexicon Target} (hproper : lexicon.Proper) {raw : Bool}
    {before : List Char} {c : Char} {s : List Char} (h : Adjoins lexicon raw before (c :: s))
    (hnone : lexicon.startOf? (c :: s) = none) : Adjoins lexicon raw (before ++ [c]) s := by
  intro t ht
  have hct : c :: t <+: c :: s := (List.prefix_cons_inj c).mpr ht
  rw [List.append_assoc, List.singleton_append, h _ hct, replacedIn,
    hproper.hits_cons_of_none (Lexicon.startOf?_eq_none_of_prefix hnone hct)]
  rfl

/-- A token that stays can be moved to the part before. -/
theorem Adjoins.kept {lexicon : Lexicon Target} (hlexicon : Searchable lexicon) {raw : Bool}
    {before literal s : List Char} {t : Target} (h : Adjoins lexicon raw before (literal ++ s))
    (hfound : lexicon.startOf? (literal ++ s) = some (literal, t)) (hkept : t.part? raw = none) :
    Adjoins lexicon raw (before ++ literal) s := by
  intro u hu
  have hall : literal ++ u <+: literal ++ s := (List.prefix_append_right_inj literal).mpr hu
  rw [List.append_assoc, h _ hall, replacedIn, hlexicon.proper.hits_append_of_some
    (hlexicon.functional.startOf?_of_prefix hfound hu), List.filter_cons_of_neg]
  · rfl
  · simp [Target.isReplaced, hkept]

theorem Target.part?_ne_plain (t : Target) (raw : Bool) (text : List Char) :
    t.part? raw ≠ some (.plain text) := by
  unfold part?
  cases t.strategy with
  | direct => simp
  | escapedMarkup => simp
  | liveBound editor => cases raw <;> simp

theorem mem_consPlain {part : Part} {text : List Char} {parts : List Part} :
    part ∈ Part.consPlain text parts → part = .plain text ∨ part ∈ parts := by
  unfold Part.consPlain
  split
  · exact .inr
  · exact List.mem_cons.mp

/-- **Looking through a plain part replaces nothing.** By induction along the cutting; the plain part
    that is being gathered adjoins what is still to be cut. -/
theorem replacedIn_of_plain_mem {lexicon : Lexicon Target} (hlexicon : Searchable lexicon) {raw : Bool}
    {before s text : List Char} (hbefore : Adjoins lexicon raw before.reverse s)
    (h : .plain text ∈ (partsFrom raw before (cut lexicon s)).1) :
    replacedIn lexicon raw text = [] := by
  induction s using hlexicon.proper.cut_induction generalizing before with
  | nil =>
      rw [hlexicon.proper.cut_nil, partsFrom] at h
      rcases mem_consPlain h with h | h
      · cases h
        exact hbefore.replacedIn_eq_nil hlexicon.proper
      · cases h
  | plain c s hnone ih =>
      rw [hlexicon.proper.cut_cons_of_none hnone, partsFrom] at h
      refine ih ?_ h
      rw [List.reverse_cons]
      exact hbefore.plain hlexicon.proper hnone
  | hit literal t s hfound ih =>
      rw [hlexicon.proper.cut_append_of_some hfound, partsFrom] at h
      cases hpart : t.part? raw with
      | none =>
          rw [hpart] at h
          refine ih ?_ h
          rw [List.reverse_append, List.reverse_reverse]
          exact hbefore.kept hlexicon hfound hpart
      | some part =>
          rw [hpart] at h
          rcases mem_consPlain h with h | h
          · cases h
            exact hbefore.replacedIn_eq_nil hlexicon.proper
          · rcases List.mem_cons.mp h with h | h
            · exact absurd (h ▸ hpart) (t.part?_ne_plain raw text)
            · exact @ih [] (adjoins_nil lexicon raw s) h

/-! ## 2. Bindings -/

theorem Target.eq_of_part?_eq_binding {own t : Target} {raw editor : Bool}
    (h : own.part? raw = some (.binding t editor)) : own = t := by
  unfold part? at h
  cases hstrategy : own.strategy with
  | direct => simp [hstrategy] at h
  | escapedMarkup => simp [hstrategy] at h
  | liveBound asks => cases raw <;> simp_all

/-- Only replaced tokens become bindings. -/
theorem mem_partsFrom_snd {raw : Bool} {before : List Char} {pieces : List (Piece Target)} {t : Target}
    {editor : Bool} (h : .binding t editor ∈ (partsFrom raw before pieces).1) :
    t ∈ (partsFrom raw before pieces).2 := by
  induction pieces generalizing before with
  | nil => exact (mem_consPlain h).elim (fun h => by cases h) fun h => absurd h List.not_mem_nil
  | cons piece rest ih =>
      cases piece with
      | plain c => exact ih h
      | hit literal own =>
          rw [partsFrom] at h ⊢
          cases hpart : own.part? raw with
          | none =>
              rw [hpart] at h
              exact ih h
          | some part =>
              rw [hpart] at h
              rcases mem_consPlain h with h | h
              · cases h
              · rcases List.mem_cons.mp h with rfl | h
                · rw [Target.eq_of_part?_eq_binding hpart]
                  exact List.mem_cons_self
                · exact List.mem_cons_of_mem own (ih h)

/-! ## 3. Other values -/

theorem isReplaced_valuedBy (r : Registry) (t : Target) (raw : Bool) :
    (t.valuedBy r).isReplaced raw = t.isReplaced raw := by
  unfold Target.isReplaced Target.part?
  rw [Target.strategy_valuedBy]
  cases t.strategy with
  | direct => rfl
  | escapedMarkup => rfl
  | liveBound editor => cases raw <;> rfl

/-- Which tokens are replaced depends on no value. -/
theorem replacedIn_valuedBy (r : Registry) (lexicon : Lexicon Target) (raw : Bool) (s : List Char) :
    replacedIn (lexicon.mapTargets (Target.valuedBy r)) raw s =
      (replacedIn lexicon raw s).map (Target.valuedBy r) := by
  unfold replacedIn
  rw [hits_mapTargets, List.filter_map]
  congr 1
  refine List.filter_congr fun t _ => ?_
  exact isReplaced_valuedBy r t raw

/-- Whether a token is replaced by a binding. -/
def Target.isBound (t : Target) : Bool :=
  match t.strategy with
  | .liveBound _ => true
  | _ => false

/-- The same part in two registries: only bindings, of which there are no others than those of certain
    tokens, may show another value. -/
inductive Part.Follows (r s : Registry) (among : Target → Prop) : Part → Part → Prop where
  | plain (text : List Char) : Follows r s among (.plain text) (.plain text)
  | value (text : String) : Follows r s among (.value text) (.value text)
  | binding {t : Target} (ht : among t) (editor : Bool) :
    Follows r s among (.binding (t.valuedBy r) editor) (.binding (t.valuedBy s) editor)

theorem part?_valuedBy_eq_none {t : Target} {raw : Bool} (h : t.part? raw = none) (r : Registry) :
    (t.valuedBy r).part? raw = none := by
  have hreplaced := isReplaced_valuedBy r t raw
  simpa [Target.isReplaced, h] using hreplaced

/-- What a replaced token becomes in two registries. -/
theorem part?_follows {r s : Registry} {among : Target → Prop} {t : Target} {raw : Bool} {part : Part}
    (h : t.part? raw = some part) (ht : among t)
    (hvalue : t.isBound = false → (t.valuedBy r).value = (t.valuedBy s).value) :
    ∃ a b, (t.valuedBy r).part? raw = some a ∧ (t.valuedBy s).part? raw = some b ∧
      Part.Follows r s among a b := by
  unfold Target.part? at h ⊢
  unfold Target.isBound at hvalue
  simp only [Target.strategy_valuedBy] at h ⊢
  cases hstrategy : t.strategy with
  | direct =>
      rw [hstrategy] at hvalue
      refine ⟨_, _, rfl, rfl, ?_⟩
      rw [hvalue rfl]
      exact .value _
  | escapedMarkup =>
      rw [hstrategy] at hvalue
      refine ⟨_, _, rfl, rfl, ?_⟩
      rw [hvalue rfl]
      exact .value _
  | liveBound editor =>
      rw [hstrategy] at h
      cases raw with
      | true => cases h
      | false => exact ⟨_, _, rfl, rfl, .binding ht editor⟩

theorem consPlain_follows {r s : Registry} {among : Target → Prop} (text : List Char)
    {as bs : List Part} (h : List.Forall₂ (Part.Follows r s among) as bs) :
    List.Forall₂ (Part.Follows r s among) (Part.consPlain text as) (Part.consPlain text bs) := by
  unfold Part.consPlain
  split
  · exact h
  · exact .cons (.plain text) h

/-- **The parts of a text in two registries are the same, but for the values of bindings**, if all
    tokens that become texts have kept their values. -/
theorem partsFrom_follows {r s : Registry} {among : Target → Prop} {raw : Bool} {before : List Char}
    {pieces : List (Piece Target)} (hamong : ∀ t ∈ (partsFrom raw before pieces).2, among t)
    (hvalues : ∀ t ∈ (partsFrom raw before pieces).2, t.isBound = false →
      (t.valuedBy r).value = (t.valuedBy s).value) :
    List.Forall₂ (Part.Follows r s among)
      (partsFrom raw before (pieces.map (Piece.map (Target.valuedBy r)))).1
      (partsFrom raw before (pieces.map (Piece.map (Target.valuedBy s)))).1 := by
  induction pieces generalizing before with
  | nil => exact consPlain_follows _ .nil
  | cons piece rest ih =>
      cases piece with
      | plain c => exact ih hamong hvalues
      | hit literal t =>
          simp only [List.map_cons, Piece.map, partsFrom] at hamong hvalues ⊢
          cases hpart : t.part? raw with
          | none =>
              rw [hpart] at hamong hvalues
              rw [part?_valuedBy_eq_none hpart r, part?_valuedBy_eq_none hpart s]
              exact ih hamong hvalues
          | some part =>
              rw [hpart] at hamong hvalues
              obtain ⟨htop, hamong⟩ := List.forall_mem_cons.mp hamong
              obtain ⟨htop', hvalues⟩ := List.forall_mem_cons.mp hvalues
              obtain ⟨a, b, ha, hb, hfollows⟩ := part?_follows hpart htop htop'
              rw [ha, hb]
              exact consPlain_follows _ (.cons hfollows (ih hamong hvalues))

end Placeholders
