import Placeholders.Engine.Change
import Placeholders.Proofs.Registry

/-!
# Calls that change a value

What a call can do to the engine, said once for all of them.

* A `Change` is a call that answers an outcome. An `Edit` is what it writes: a text, a flag or an index,
  each under a key of its own and into the placeholder.
* `Change.course_apply` is the inversion of every call: it is refused and leaves the engine as it is, or
  it cannot be stored, or it is stored, written into the placeholder and followed.
* `Change.answer_apply` is the part of it that pages need to know.
-/

namespace Placeholders

open Placeholders.Storage

namespace Engine

/-! ## 1. Changes -/

/-- A call that answers an outcome. -/
inductive Change where
  | setText (name value : String)
  | setChecked (name : String) (checked : Bool)
  | toggle (name : String)
  | selectIndex (name : String) (index : Nat)
  | cycleIndex (name : String) (delta : Int)
  | placeholderChanged (name : String)

/-- Makes the call. -/
def Change.apply (e : Engine) : Change → Except EngineError Outcome × Engine
  | setText name value => e.setText name value
  | setChecked name checked => e.setChecked name checked
  | toggle name => e.toggle name
  | selectIndex name index => e.selectIndex name index
  | cycleIndex name delta => e.cycleIndex name delta
  | placeholderChanged name => e.placeholderChanged name

/-- The outcome of an answer, directly or with the error of an opened cycle. -/
def outcome? : Except EngineError Outcome → Option Outcome
  | .ok outcome => some outcome
  | .error err => err.outcome?

/-- The engine with something else stored. -/
def storing (e : Engine) (store : Store) : Engine := { e with store }

/-- The engine with something else written into the placeholder of a name. -/
def writing (e : Engine) (name : String) (f : Placeholder → Placeholder) : Engine :=
  { e with network := e.network.withRegistry fun r => r.modify name f }

/-- Nothing but the kind and the raw value is written. -/
def Writes (f : Placeholder → Placeholder) : Prop :=
  ∀ p, ∃ kind value, f p = { p with kind, currentValue := value }

/-! ## 2. Edits -/

/-- What a change writes. -/
inductive Edit where
  | text (value : String)
  | flag (checked : Bool)
  | index (i : Nat)
  deriving DecidableEq, Repr

namespace Edit

/-- The key that an edit of a name is stored under. -/
def key (store : Store) (name : String) : Edit → String
  | text _ => store.textKey name
  | flag _ => store.checkedKey name
  | index _ => store.indexKey name

/-- What is stored. -/
def written : Edit → String
  | text value => value
  | flag checked => Store.writeFlag checked
  | index i => toString i

/-- Whether a kind of placeholder can be edited so. -/
def Fits : Edit → Kind → Prop
  | text _, .textbox _ => True
  | flag _, .checkbox _ => True
  | index i, .dropdown menu => i < menu.choices.length
  | _, _ => False

/-- The placeholder after an edit. One of another kind stays as it is. -/
def on (edit : Edit) (p : Placeholder) : Placeholder :=
  match edit, p.kind with
  | text value, .textbox _ => { p with currentValue := value }
  | flag checked, .checkbox box =>
    { p with kind := .checkbox { box with isChecked := checked }, currentValue := box.valueFor checked }
  | index i, .dropdown menu =>
    { p with kind := .dropdown { menu with index := i }, currentValue := menu.valueAt i }
  | _, _ => p

theorem writes_on (edit : Edit) : Writes edit.on := by
  intro p
  unfold on
  split <;> exact ⟨_, _, rfl⟩

end Edit

/-- The placeholder and the edit that a change asks for. What is to be toggled or gone on from is read
    off the placeholder as it is. -/
def Change.edit? (e : Engine) : Change → Option (String × Edit)
  | setText name value => some (name, .text value)
  | setChecked name checked => some (name, .flag checked)
  | toggle name =>
    match (e.registry.get? name).map Placeholder.kind with
    | some (.checkbox box) => some (name, .flag !box.isChecked)
    | _ => none
  | selectIndex name index => some (name, .index index)
  | cycleIndex name delta =>
    match (e.registry.get? name).map Placeholder.kind with
    | some (.dropdown menu) => some (name, .index (menu.stepped delta))
    | _ => none
  | placeholderChanged _ => none

/-! ## 3. What a call can do -/

/-- What a call can do, with what it answers. -/
inductive Change.Course (e : Engine) (c : Change) : Except EngineError Outcome × Engine → Prop where
  | refused {err : EngineError} (h : err.outcome? = none) : Course e c (.error err, e)
  | unstored {name : String} {edit : Edit} {p : Placeholder} {source : StorageError} {store : Store}
    (hasked : c.edit? e = some (name, edit)) (hp : e.registry.get? name = some p)
    (hfits : edit.Fits p.kind)
    (hput : e.store.put (edit.key e.store name) edit.written = (.error source, store)) :
    Course e c (.error (.persistence source), e.storing store)
  | made {name : String} {edit : Edit} {p : Placeholder} {store : Store}
    (hasked : c.edit? e = some (name, edit)) (hp : e.registry.get? name = some p)
    (hfits : edit.Fits p.kind)
    (hput : e.store.put (edit.key e.store name) edit.written = (.ok (), store)) :
    Course e c (((e.storing store).writing name edit.on).commit name)
  /-- Only a value that was changed in place is followed without being stored. -/
  | noticed {name : String} (hnoticed : c = .placeholderChanged name)
    (hname : e.registry.contains name = true) : Course e c (e.commit name)

/-- What is written into the placeholder of a name depends on that placeholder only. -/
theorem modify_congr {r : Registry} {name : String} {p : Placeholder} (hp : r.get? name = some p)
    {f g : Placeholder → Placeholder} (h : f p = g p) : r.modify name f = r.modify name g := by
  unfold Registry.modify
  cases hindex : r.indexOf? name with
  | none => rfl
  | some i =>
      have hat : r.placeholders[i]? = some p := (Registry.getElem?_of_indexOf? hindex).trans hp
      have hlist : r.placeholders.modify i f = r.placeholders.modify i g := by
        refine List.ext_getElem? fun j => ?_
        rw [List.getElem?_modify, List.getElem?_modify]
        split
        · rename_i hij
          rw [← hij, hat]
          exact congrArg some h
        · rfl
      simp only [Registry.modifyAt, hlist]

theorem outcome?_of_find {e : Engine} {name : String} {err : EngineError}
    (h : e.find name = .error err) : err.outcome? = none := by
  unfold find at h
  split at h
  · cases h
  · cases h
    rfl

theorem get?_of_find {e : Engine} {name : String} {p : Placeholder} (h : e.find name = .ok p) :
    e.registry.get? name = some p := by
  unfold find at h
  split at h
  · cases h
    assumption
  · cases h

theorem changeable_cases (e : Engine) (name : String) :
    (∃ err, e.changeable name = .error err ∧ err.outcome? = none) ∨
      ∃ p, e.changeable name = .ok p ∧ e.registry.get? name = some p := by
  unfold changeable
  cases hfind : e.find name with
  | error err => exact .inl ⟨err, rfl, outcome?_of_find hfind⟩
  | ok p =>
      dsimp only
      split
      · exact .inl ⟨_, rfl, rfl⟩
      · exact .inr ⟨p, rfl, get?_of_find hfind⟩

section Course

variable {e : Engine} {c : Change} {name : String}

/-- What has been stored is written into the placeholder and followed. -/
theorem storeThenCommit_of_put {edit : Edit} {p : Placeholder}
    {write : Store → Except StorageError Unit × Store} {f : Placeholder → Placeholder} {store : Store}
    (hp : e.registry.get? name = some p) (hwrite : write e.store = (.ok (), store))
    (hf : f p = edit.on p) :
    e.storeThenCommit name write f = ((e.storing store).writing name edit.on).commit name := by
  have hmodify : (e.storing store).network.registry.modify name f =
      (e.storing store).network.registry.modify name edit.on := modify_congr hp hf
  have hsame : (e.storing store).writing name f = (e.storing store).writing name edit.on := by
    simp only [writing, Network.withRegistry, hmodify]
  rw [← hsame, storeThenCommit, hwrite]
  rfl

/-- What is stored is written into the placeholder and followed, or is not stored. -/
theorem course_storeThenCommit {edit : Edit} {p : Placeholder}
    {write : Store → Except StorageError Unit × Store} {f : Placeholder → Placeholder}
    (hasked : c.edit? e = some (name, edit)) (hp : e.registry.get? name = some p)
    (hfits : edit.Fits p.kind)
    (hwrite : write e.store = e.store.put (edit.key e.store name) edit.written)
    (hf : f p = edit.on p) : c.Course e (e.storeThenCommit name write f) := by
  rcases hput : e.store.put (edit.key e.store name) edit.written with ⟨result, store⟩
  cases result with
  | error source =>
      have heq : e.storeThenCommit name write f =
          (.error (.persistence source), e.storing store) := by
        rw [storeThenCommit, hwrite, hput]
        rfl
      rw [heq]
      exact .unstored hasked hp hfits hput
  | ok =>
      rw [storeThenCommit_of_put hp (hwrite.trans hput) hf]
      exact .made hasked hp hfits hput

theorem course_setText (value : String) (hasked : c.edit? e = some (name, .text value)) :
    c.Course e (e.setText name value) := by
  unfold setText
  rcases e.changeable_cases name with ⟨err, heq, hnone⟩ | ⟨p, heq, hp⟩
  · rw [heq]
    exact .refused hnone
  · rw [heq]
    dsimp only
    split
    · rename_i hkind
      split
      · refine course_storeThenCommit hasked hp ?_ rfl ?_
        · rw [hkind]
          trivial
        · simp only [Edit.on, hkind]
      · exact .refused rfl
    · exact .refused rfl

theorem course_setChecked (checked : Bool) (hasked : c.edit? e = some (name, .flag checked)) :
    c.Course e (e.setChecked name checked) := by
  unfold setChecked
  rcases e.changeable_cases name with ⟨err, heq, hnone⟩ | ⟨p, heq, hp⟩
  · rw [heq]
    exact .refused hnone
  · rw [heq]
    dsimp only
    split
    · rename_i hkind
      refine course_storeThenCommit hasked hp ?_ rfl ?_
      · rw [hkind]
        trivial
      · simp only [Edit.on, hkind]
        rfl
    · exact .refused rfl

theorem course_selectIndex (index : Nat) (hasked : c.edit? e = some (name, .index index)) :
    c.Course e (e.selectIndex name index) := by
  unfold selectIndex
  rcases e.changeable_cases name with ⟨err, heq, hnone⟩ | ⟨p, heq, hp⟩
  · rw [heq]
    exact .refused hnone
  · rw [heq]
    dsimp only
    split
    · rename_i menu hkind
      by_cases hlt : index < menu.choices.length
      · refine course_storeThenCommit hasked hp ?_ ?_ ?_
        · rw [hkind]
          exact hlt
        · exact if_pos hlt
        · simp only [Edit.on, hkind]
          rfl
      · have hout : e.store.storeIndex name index menu.choices.length =
            (.error (.indexOutOfRange name index menu.choices.length), e.store) := if_neg hlt
        simp only [storeThenCommit, hout]
        exact .refused rfl
    · exact .refused rfl

theorem course_toggle (name : String) : (Change.toggle name).Course e (e.toggle name) := by
  unfold toggle
  cases hfind : e.find name with
  | error err => exact .refused (outcome?_of_find hfind)
  | ok p =>
      dsimp only
      split
      · rename_i box hkind
        refine course_setChecked _ ?_
        simp [Change.edit?, get?_of_find hfind, hkind]
      · exact .refused rfl

theorem course_cycleIndex (name : String) (delta : Int) :
    (Change.cycleIndex name delta).Course e (e.cycleIndex name delta) := by
  unfold cycleIndex
  cases hfind : e.find name with
  | error err => exact .refused (outcome?_of_find hfind)
  | ok p =>
      dsimp only
      split
      · rename_i menu hkind
        refine course_selectIndex _ ?_
        simp [Change.edit?, get?_of_find hfind, hkind]
      · exact .refused rfl

theorem course_placeholderChanged (name : String) :
    (Change.placeholderChanged name).Course e (e.placeholderChanged name) := by
  unfold placeholderChanged
  split
  · rename_i hname
    exact .noticed rfl hname
  · exact .refused rfl

end Course

/-- **What a call can do**: it is refused and leaves the engine as it is, or it cannot be stored, or it is
    stored, written into the placeholder and followed. -/
theorem Change.course_apply (e : Engine) (c : Change) : c.Course e (c.apply e) := by
  cases c with
  | setText name value => exact course_setText value rfl
  | setChecked name checked => exact course_setChecked checked rfl
  | toggle name => exact course_toggle name
  | selectIndex name index => exact course_selectIndex index rfl
  | cycleIndex name delta => exact course_cycleIndex name delta
  | placeholderChanged name => exact course_placeholderChanged name

/-! ## 4. What pages need to know -/

/-- The call is refused, or something is stored and written and then followed. -/
inductive Change.Answer (e : Engine) : Except EngineError Outcome × Engine → Prop where
  | refused {err : EngineError} (h : err.outcome? = none) (store : Store) :
    Answer e (.error err, e.storing store)
  | followed {name : String} (hname : e.registry.contains name = true) (store : Store)
    {f : Placeholder → Placeholder} (hf : Writes f) :
    Answer e (((e.storing store).writing name f).commit name)

theorem modify_id (r : Registry) (name : String) : r.modify name id = r := by
  unfold Registry.modify
  split
  · rename_i i _
    have hsame : r.placeholders.modify i id = r.placeholders := List.modify_id i _
    rw [Registry.modifyAt, hsame]
  · rfl

/-- **A change is refused, or something is stored and written into a placeholder and the change is
    followed.** -/
theorem Change.answer_apply (e : Engine) (c : Change) : Change.Answer e (c.apply e) := by
  have hcourse := c.course_apply e
  generalize c.apply e = answer at hcourse ⊢
  cases hcourse with
  | refused h => exact .refused h e.store
  | unstored => exact .refused rfl _
  | made _ hp => exact .followed (Registry.contains_of_get? hp) _ (Edit.writes_on _)
  | @noticed name _ hname =>
      have hsame : (e.storing e.store).writing name id = e := by
        simp only [writing, storing, Network.withRegistry, modify_id]
      have hanswer := Change.Answer.followed (e := e) hname e.store (f := id) fun p => ⟨_, _, rfl⟩
      rwa [hsame] at hanswer

end Engine

end Placeholders
