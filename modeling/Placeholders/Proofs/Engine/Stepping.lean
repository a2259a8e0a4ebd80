import Mathlib.Data.Int.ModEq
import Placeholders.Proofs.CommandLine.Setting
import Placeholders.Proofs.Engine.Selections

/-!
# Steps around a list

Going on from the selection of a dropdown, so many choices forward or back and around the list.

* The position is a sum of signed words. It wraps before its remainder is taken, so a step is right if the
  sum is a word, or if the wrap goes around the list a whole number of times (`Dropdown.Exact`).
* The remainder of a remainder is one of the sum, so that exact steps add up (`Dropdown.index_stepAll`).
* An engine whose storage takes what is written makes every step and offers the dropdown again
  (`Engine.Offers.cycleIndex`). So its selections are those of the list (`Engine.Offers.cycleAll`).
-/

namespace Placeholders

open Placeholders.Storage Placeholders.Text

namespace Dropdown

/-! ## 1. A step -/

/-- The dropdown with another choice selected. -/
def select (menu : Dropdown) (index : Nat) : Dropdown := { menu with index }

/-- The position so many steps on is a signed word, or the list goes evenly into the words. -/
def Exact (menu : Dropdown) (delta : Int64) : Prop :=
  menu.index + delta.toInt < signedBound ∨ menu.choices.length ∣ wordBound

instance (menu : Dropdown) (delta : Int64) : Decidable (menu.Exact delta) :=
  inferInstanceAs (Decidable (_ ∨ _))

section Step

variable {menu : Dropdown} {delta : Int64}

theorem stepped_eq_emod (hindex : menu.index < menu.choices.length) (delta : Int) :
    (menu.stepped delta : Int) = wordSum menu.index delta % menu.choices.length := by
  have hpos : (menu.choices.length : Int) ≠ 0 := by omega
  exact Int.toNat_of_nonneg (Int.emod_nonneg _ hpos)

/-- No sum is below the words, as positions are not negative. -/
theorem wordSum_of_lt (h : menu.index + delta.toInt < signedBound) :
    wordSum menu.index delta.toInt = menu.index + delta.toInt := by
  have hlow := delta.le_toInt
  unfold signedBound at h
  unfold wordSum wordBound
  exact Int.bmod_eq_of_le (by omega) (by omega)

/-- A sum beyond the words comes back at their other end. -/
theorem wordSum_of_le (hindex : menu.index < signedBound) (h : signedBound ≤ menu.index + delta.toInt) :
    wordSum menu.index delta.toInt = menu.index + delta.toInt - wordBound := by
  have hhigh := delta.toInt_lt
  unfold signedBound at hindex h
  unfold wordSum wordBound
  rw [← Int.sub_bmod_right]
  exact Int.bmod_eq_of_le (by omega) (by omega)

/-- **A step is the remainder of the exact position**, if it is an exact step. -/
theorem stepped_of_exact (hindex : menu.index < menu.choices.length) (h : menu.Exact delta) :
    (menu.stepped delta.toInt : Int) = (menu.index + delta.toInt) % menu.choices.length := by
  rw [stepped_eq_emod hindex]
  rcases h with hword | heven
  · rw [wordSum_of_lt hword]
  · have hdvd : (menu.choices.length : Int) ∣ wordBound := Int.natCast_dvd_natCast.mpr heven
    unfold wordSum
    rw [← Int.emod_emod_of_dvd _ hdvd, Int.bmod_emod, Int.emod_emod_of_dvd _ hdvd]

theorem stepped_of_not_exact (hindex : menu.index < menu.choices.length)
    (hlength : menu.choices.length ≤ signedBound) (h : ¬ menu.Exact delta) :
    (menu.stepped delta.toInt : Int) =
      (menu.index + delta.toInt - wordBound) % menu.choices.length := by
  obtain ⟨hbeyond, _⟩ := not_or.mp h
  rw [stepped_eq_emod hindex,
    wordSum_of_le (Nat.lt_of_lt_of_le hindex hlength) (Int.not_lt.mp hbeyond)]

/-- **No other steps are exact**: the wrap has put them off by what the list leaves of a word. -/
theorem stepped_eq_iff (hindex : menu.index < menu.choices.length)
    (hlength : menu.choices.length ≤ signedBound) :
    (menu.stepped delta.toInt : Int) = (menu.index + delta.toInt) % menu.choices.length ↔
      menu.Exact delta := by
  refine ⟨fun heq => ?_, stepped_of_exact hindex⟩
  by_contra hnot
  rw [stepped_of_not_exact hindex hlength hnot] at heq
  have hmod : menu.index + delta.toInt - wordBound ≡ menu.index + delta.toInt
      [ZMOD menu.choices.length] := heq
  have hdvd := hmod.dvd
  rw [Int.sub_sub_self] at hdvd
  exact hnot (.inr (Int.natCast_dvd_natCast.mp hdvd))

end Step

/-! ## 2. Steps one after the other -/

/-- The dropdown after some steps. -/
def stepAll (menu : Dropdown) : List Int64 → Dropdown
  | [] => menu
  | delta :: rest => (menu.select (menu.stepped delta.toInt)).stepAll rest

/-- All of the steps are exact where they are made. -/
def ExactAll (menu : Dropdown) : List Int64 → Prop
  | [] => True
  | delta :: rest => menu.Exact delta ∧ (menu.select (menu.stepped delta.toInt)).ExactAll rest

/-- The number of steps in all. -/
def total (deltas : List Int64) : Int := (deltas.map Int64.toInt).sum

theorem choices_stepAll (menu : Dropdown) (deltas : List Int64) :
    (menu.stepAll deltas).choices = menu.choices := by
  induction deltas generalizing menu with
  | nil => rfl
  | cons delta rest ih => exact ih _

/-- **Exact steps add up.** -/
theorem index_stepAll {menu : Dropdown} (hindex : menu.index < menu.choices.length)
    {deltas : List Int64} (h : menu.ExactAll deltas) :
    ((menu.stepAll deltas).index : Int) = (menu.index + total deltas) % menu.choices.length := by
  induction deltas generalizing menu with
  | nil =>
      rw [stepAll, total, List.map_nil, List.sum_nil, Int.add_zero,
        Int.emod_eq_of_lt (Int.natCast_nonneg _) (Int.ofNat_lt.mpr hindex)]
  | cons delta rest ih =>
      obtain ⟨hfirst, hrest⟩ := h
      have hne : menu.choices ≠ [] := List.ne_nil_of_length_pos (Nat.zero_lt_of_lt hindex)
      have hstep : ((menu.select (menu.stepped delta.toInt)).index : Int) =
          (menu.index + delta.toInt) % menu.choices.length := stepped_of_exact hindex hfirst
      rw [stepAll, ih (stepped_lt hne _) hrest, hstep]
      simp only [select, total, List.map_cons, List.sum_cons, Int.emod_add_emod, Int.add_assoc]

/-- Steps that are the same but for whole turns end at the same choice. -/
theorem index_stepAll_congr {menu : Dropdown} (hindex : menu.index < menu.choices.length)
    {deltas others : List Int64} (h : menu.ExactAll deltas) (h' : menu.ExactAll others)
    (htotal : total deltas ≡ total others [ZMOD menu.choices.length]) :
    (menu.stepAll deltas).index = (menu.stepAll others).index := by
  have heq : ((menu.stepAll deltas).index : Int) = ((menu.stepAll others).index : Int) := by
    rw [index_stepAll hindex h, index_stepAll hindex h']
    exact htotal.add_left _
  exact Int.ofNat_inj.mp heq

end Dropdown

/-! ## 3. Steps of an engine -/

theorem Storage.Store.fails_put {s after : Store} {key value : String}
    {result : Except StorageError Unit} (h : s.put key value = (result, after)) :
    after.backend.faults.fails = s.backend.faults.fails := by
  have hwritten := s.backend.written_set key value
  unfold put at h
  generalize s.backend.set key value = answer at h hwritten
  obtain ⟨result, backend⟩ := answer
  cases h
  cases hwritten with
  | done _ hfaults | failed _ hfaults =>
      have hfails := congrArg Faults.fails hfaults
      exact hfails
  | idle => rfl

namespace Engine

/-- The choice that is selected of a dropdown. -/
def selected? (e : Engine) (name : String) : Option Nat :=
  ((e.registry.get? name).bind fun p => p.kind.menu?).map (·.index)

/-- Moves the selection of a dropdown some times. -/
def cycleAll (e : Engine) (name : String) : List Int64 → Engine
  | [] => e
  | delta :: rest => (e.cycleIndex name delta.toInt).2.cycleAll name rest

/-- An engine in use has an open dropdown of some name, and its storage takes what is written. -/
structure Offers (e : Engine) (name : String) (menu : Dropdown) : Prop where
  attainable : e.Attainable
  works : ∀ n, e.store.backend.faults.fails n = false
  exists_open : ∃ p, e.registry.get? name = some p ∧ p.kind = .dropdown menu ∧ p.readOnly = false

namespace Offers

variable {e : Engine} {name : String} {menu : Dropdown}

theorem selected?_eq (h : e.Offers name menu) : e.selected? name = some menu.index := by
  obtain ⟨p, hp, hkind, _⟩ := h.exists_open
  simp only [selected?, hp, Option.bind_some, hkind, Kind.menu?, Option.map_some]

/-- **A step is stored, and the dropdown is offered again** with another choice selected. -/
theorem cycleIndex (h : e.Offers name menu) (hne : menu.choices ≠ []) (delta : Int) :
    ∃ o, outcome? (e.cycleIndex name delta).1 = some o ∧
      (e.cycleIndex name delta).2.Offers name (menu.select (menu.stepped delta)) := by
  have hattainable : (e.cycleIndex name delta).2.Attainable :=
    h.attainable.act (.change (.cycleIndex name delta))
  obtain ⟨p, hp, hkind, hopen⟩ := h.exists_open
  have hsound := h.attainable.sound
  obtain ⟨store, hput⟩ := Store.exists_put_ok (h.works _) (e.store.indexKey name)
    (toString (menu.stepped delta))
  have hedit : (Edit.index (menu.stepped delta)).on p =
      { p with
        kind := .dropdown (menu.select (menu.stepped delta))
        currentValue := menu.valueAt (menu.stepped delta) } := by
    simp only [Edit.on, hkind]
    rfl
  have hcall : e.cycleIndex name delta =
      ((e.storing store).writing name (Edit.index (menu.stepped delta)).on).commit name := by
    have hchangeable : e.changeable name = .ok p := by
      simp only [changeable, find, hp, hopen, Bool.false_eq_true, if_false]
    simp only [Engine.cycleIndex, find, hp, hkind, selectIndex, hchangeable]
    refine storeThenCommit_of_put hp ?_ (by rw [hedit]; rfl)
    rw [Store.storeIndex, if_pos (Dropdown.stepped_lt hne delta), hput]
  rw [hcall] at hattainable ⊢
  obtain ⟨o, ho, hfollowed⟩ := commit_writing hsound (Registry.contains_of_get? hp) store
    (Edit.index (menu.stepped delta)).writes_on
  refine ⟨o, ho, hattainable, fun n => ?_, ?_⟩
  · rw [store_commit]
    exact (congrFun (Store.fails_put hput) n).trans (h.works n)
  · obtain ⟨rfl, i, hi⟩ := Registry.exists_at_of_get? hp
    have hwritten : ((e.storing store).writing p.name
        (Edit.index (menu.stepped delta)).on).registry.placeholders[i]? =
          some ((Edit.index (menu.stepped delta)).on p) := by
      change (e.registry.modify p.name _).placeholders[i]? = _
      rw [getElem?_modify hsound.distinct, hi, Option.map_some, if_pos rfl]
    obtain ⟨q, hq, hraw⟩ := hfollowed.alike.symm.exists_at hwritten
    rw [hedit] at hraw
    obtain ⟨hname, hkind', _⟩ := Placeholder.of_raw_eq hraw
    have hopen' : q.raw.readOnly = _ := congrArg Placeholder.readOnly hraw
    refine ⟨q, ?_, hkind', hopen'.trans hopen⟩
    exact hname ▸ Registry.get?_eq_some hfollowed.sound.distinct hq

/-- **The selections of an engine are those of the list**, step by step. -/
theorem cycleAll (h : e.Offers name menu) (hne : menu.choices ≠ []) (deltas : List Int64) :
    (e.cycleAll name deltas).Offers name (menu.stepAll deltas) := by
  induction deltas generalizing e menu with
  | nil => exact h
  | cons delta rest ih =>
      obtain ⟨_, _, hstep⟩ := h.cycleIndex hne delta.toInt
      exact ih hstep hne

end Offers

/-- **Steps around a list are modular arithmetic, as far as positions are signed words.** For every dropdown
    and every signed word, a step is the remainder of the exact position if that position is a word, or if
    the number of choices divides that of all words; and in no other case, where it is off by a word. So an
    engine that offers the dropdown selects the same choice by two exact steps as by one that is their sum
    but for whole turns, and comes back by the opposite of a step. -/
theorem stepping_modulo {menu : Dropdown} (hindex : menu.index < menu.choices.length)
    (hlength : menu.choices.length ≤ signedBound) :
    (∀ delta : Int64, (menu.stepped delta.toInt : Int) =
      (menu.index + delta.toInt) % menu.choices.length ↔ menu.Exact delta) ∧
    (∀ delta : Int64, ¬ menu.Exact delta → (menu.stepped delta.toInt : Int) =
      (menu.index + delta.toInt - wordBound) % menu.choices.length) ∧
    ∀ (e : Engine) (name : String), e.Offers name menu →
      (∀ a b c : Int64, menu.ExactAll [a, b] → menu.Exact c →
        a.toInt + b.toInt ≡ c.toInt [ZMOD menu.choices.length] →
        (e.cycleAll name [a, b]).selected? name = (e.cycleAll name [c]).selected? name ∧
        (e.cycleAll name [c]).selected? name = some (menu.stepped c.toInt)) ∧
      ∀ delta back : Int64, back.toInt = -delta.toInt → menu.ExactAll [delta, back] →
        (e.cycleAll name [delta, back]).selected? name = some menu.index := by
  have hne : menu.choices ≠ [] := List.ne_nil_of_length_pos (Nat.zero_lt_of_lt hindex)
  refine ⟨fun delta => Dropdown.stepped_eq_iff hindex hlength,
    fun delta => Dropdown.stepped_of_not_exact hindex hlength, fun e name hoffers => ?_⟩
  have hselected : ∀ deltas, (e.cycleAll name deltas).selected? name =
      some (menu.stepAll deltas).index := fun deltas => (hoffers.cycleAll hne deltas).selected?_eq
  refine ⟨fun a b c hab hc hsum => ⟨?_, hselected [c]⟩, fun delta back hback hexact => ?_⟩
  · have htotal : Dropdown.total [a, b] ≡ Dropdown.total [c] [ZMOD menu.choices.length] := by
      simpa [Dropdown.total] using hsum
    have hone : menu.ExactAll [c] := ⟨hc, trivial⟩
    rw [hselected, hselected, Dropdown.index_stepAll_congr hindex hab hone htotal]
  · have hnone : menu.ExactAll [] := trivial
    have htotal : Dropdown.total [delta, back] ≡ Dropdown.total [] [ZMOD menu.choices.length] := by
      simp [Dropdown.total, hback]
    rw [hselected, Dropdown.index_stepAll_congr hindex hexact hnone htotal]
    rfl

/-- The dropdown of sizes as it starts. -/
def threeSizes : Dropdown := ⟨[⟨"small", "S"⟩, ⟨"medium", "M"⟩, ⟨"large", "L"⟩], 1, 1⟩

/-- Two steps and five more are one step, but for two turns; and five steps back lead back. -/
theorem stepping_modulo_of_sizes :
    let e := start .bare sizes (.ofEntries [])
    e.Offers "A" threeSizes ∧
      (e.cycleAll "A" [2, 5]).selected? "A" = (e.cycleAll "A" [1]).selected? "A" ∧
      (e.cycleAll "A" [1]).selected? "A" = some 2 ∧
      (e.cycleAll "A" [5, -5]).selected? "A" = some 1 ∧
      threeSizes.stepped Int64.maxValue.toInt = 1 := by
  intro e
  have hfacts : (e.registry.get? "A").map (fun p => (p.kind.menu?, p.readOnly)) =
      some (some threeSizes, false) := by
    decide +kernel
  obtain ⟨p, hp, heq⟩ := Option.map_eq_some_iff.mp hfacts
  obtain ⟨hmenu, hopen⟩ := Prod.mk.inj heq
  have hoffers : e.Offers "A" threeSizes :=
    ⟨.start _ _ _, fun _ => rfl, p, hp, Kind.eq_of_menu? hmenu, hopen⟩
  obtain ⟨_, hwrapped, hengine⟩ := @stepping_modulo threeSizes (by decide) (by decide)
  obtain ⟨hsum, hback⟩ := hengine e "A" hoffers
  obtain ⟨hsame, hone⟩ := hsum 2 5 1 ⟨by decide, by decide, trivial⟩ (by decide) (by decide)
  have hbeyond : (threeSizes.stepped Int64.maxValue.toInt : Int) = _ := hwrapped Int64.maxValue (by decide)
  refine ⟨hoffers, hsame, hone, hback 5 (-5) (by decide) ⟨by decide, by decide, trivial⟩, ?_⟩
  exact Int.ofNat_inj.mp hbeyond

/-- **A step need not be a remainder.** From the last of three choices, as many steps as a signed word can
    say should lead to the first, and lead nowhere. -/
theorem greatest_step_wraps :
    ¬ ∀ (menu : Dropdown) (delta : Int64), menu.index < menu.choices.length →
      (menu.stepped delta.toInt : Int) = (menu.index + delta.toInt) % menu.choices.length := by
  intro hall
  have hremainder := hall (threeSizes.select 2) Int64.maxValue (by decide)
  exact absurd hremainder (by decide)

end Engine

end Placeholders
