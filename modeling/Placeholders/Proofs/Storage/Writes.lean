import Placeholders.Storage.Store

/-!
# Writing to storage

What a write can do, said once for setting and removing and for either kind of storage.

* `Backend.Written` is the inversion of a write: it is done, or it fails, or there is nothing to do.
* Storage is `Steady` during a call if all writes of the call are done, or all of them fail in storage
  that a failure leaves as it is. An error then means that no entry has changed, also when keys are
  removed one after the other (`entries_removeAll`).
-/

namespace Placeholders.Storage

namespace Backend

/-! ## 1. A single write -/

/-- Which of the coming writes fail. -/
def faults : Backend → Faults
  | .memory m => m.faults
  | .file f => f.faults

/-- Whether a write that fails leaves the entries as they are. -/
def keepsOnFailure : Backend → Bool
  | .memory _ => true
  | .file _ => false

/-- What a write can do that is to change the entries by a function. -/
inductive Written (b : Backend) (f : Keyed String → Keyed String) :
    Except StorageError Unit × Backend → Prop
  | done {after : Backend} (hnext : b.faults.next = false) (hfaults : after.faults = b.faults.advance)
    (hkeeps : after.keepsOnFailure = b.keepsOnFailure) (hentries : after.entries = f b.entries) :
    Written b f (.ok (), after)
  | failed {after : Backend} (hnext : b.faults.next = true) (hfaults : after.faults = b.faults.advance)
    (hkeeps : after.keepsOnFailure = b.keepsOnFailure)
    (hentries : b.keepsOnFailure = true → after.entries = b.entries) :
    Written b f (.error .writeFailed, after)
  /-- Nothing is to be changed, and nothing is written. -/
  | idle (hsame : f b.entries = b.entries) : Written b f (.ok (), b)

theorem written_flush (f : File) (entries : Keyed String) {g : Keyed String → Keyed String}
    (hg : entries = g f.entries) :
    Written (.file f) g (((File.flush { f with entries }).1, .file (File.flush { f with entries }).2)) := by
  unfold File.flush
  cases hnext : f.faults.next with
  | true => exact .failed hnext rfl rfl fun h => by cases h
  | false => exact .done hnext rfl rfl hg

theorem written_set (b : Backend) (key value : String) :
    b.Written (·.insert key value) (b.set key value) := by
  cases b with
  | memory m =>
      change Written (.memory m) _ ((m.set key value).1, .memory (m.set key value).2)
      unfold Memory.set
      cases hnext : m.faults.next with
      | true => exact .failed hnext rfl rfl fun _ => rfl
      | false => exact .done hnext rfl rfl rfl
  | file f => exact written_flush f _ rfl

theorem written_remove (b : Backend) (key : String) : b.Written (·.erase key) (b.remove key) := by
  cases b with
  | memory m =>
      change Written (.memory m) _ ((m.remove key).1, .memory (m.remove key).2)
      unfold Memory.remove
      cases hnext : m.faults.next with
      | true => exact .failed hnext rfl rfl fun _ => rfl
      | false => exact .done hnext rfl rfl rfl
  | file f =>
      change Written (.file f) _ ((f.remove key).1, .file (f.remove key).2)
      unfold File.remove
      split
      · exact written_flush f _ rfl
      · rename_i hcontains
        exact .idle (Keyed.erase_of_not_contains hcontains)

/-- What is done has changed the entries. -/
theorem Written.entries_of_ok {b after : Backend} {f : Keyed String → Keyed String}
    (h : b.Written f (.ok (), after)) : after.entries = f b.entries := by
  cases h with
  | done _ _ _ hentries => exact hentries
  | idle hsame => exact hsame.symm

/-! ## 2. Steady storage -/

/-- Between two states of storage all writes are done, or all fail and leave the entries as they are. -/
inductive Steady (before after : Backend) : Prop
  | works (h : ∀ n, before.faults.tried ≤ n → n < after.faults.tried → before.faults.fails n = false)
  | fails (hkeeps : before.keepsOnFailure = true)
    (h : ∀ n, before.faults.tried ≤ n → n < after.faults.tried → before.faults.fails n = true)

variable {b middle after : Backend} {f : Keyed String → Keyed String} {source : StorageError}

/-- **A write that fails in steady storage changes no entry.** -/
theorem Written.entries_eq (h : b.Written f (.error source, after)) (hsteady : b.Steady after) :
    after.entries = b.entries := by
  cases h with
  | failed hnext hfaults hkeeps hentries =>
      cases hsteady with
      | works h =>
          have hworks := h b.faults.tried (Nat.le_refl _) (by simp [hfaults, Faults.advance])
          rw [Faults.next, hworks] at hnext
          cases hnext
      | fails hkeeps _ => exact hentries hkeeps

/-! ## 3. Faithful storage -/

/-- What cannot be written is not kept either, from now on. -/
def Faithful (b : Backend) : Prop :=
  b.keepsOnFailure = true ∨ ∀ n, b.faults.fails n = false

theorem Written.faithful {answer : Except StorageError Unit × Backend} (h : b.Written f answer)
    (hb : b.Faithful) : answer.2.Faithful := by
  cases h with
  | idle => exact hb
  | done _ hfaults hkeeps _ | failed _ hfaults hkeeps _ =>
      refine hb.imp (fun h => hkeeps.trans h) fun h n => ?_
      rw [hfaults]
      exact h n

/-- What fails in faithful storage changes no entry. -/
theorem Written.entries_of_error (h : b.Written f (.error source, after)) (hb : b.Faithful) :
    after.entries = b.entries := by
  cases h with
  | failed hnext _ _ hentries =>
      rcases hb with hkeeps | hworks
      · exact hentries hkeeps
      · rw [Faults.next, hworks] at hnext
        cases hnext

end Backend

namespace Store

open Backend

/-- Removing keys one after the other tries writes; where it ends with an error, one of them fails. -/
theorem exists_failure_removeAll {b after : Backend} {keys : List String} {source : StorageError}
    (h : removeAll b keys = (.error source, after)) :
    ∃ n, b.faults.tried ≤ n ∧ n < after.faults.tried ∧ b.faults.fails n = true := by
  induction keys generalizing b with
  | nil => cases h
  | cons key keys ih =>
      have hwritten := b.written_remove key
      rw [removeAll] at h
      generalize b.remove key = answer at h hwritten
      cases hwritten with
      | done _ hfaults _ _ =>
          obtain ⟨n, hle, hlt, hfails⟩ := ih h
          rw [hfaults] at hle hfails
          exact ⟨n, Nat.le_of_succ_le hle, hlt, hfails⟩
      | failed hnext hfaults _ _ =>
          cases h
          exact ⟨b.faults.tried, Nat.le_refl _, by simp [hfaults, Faults.advance], hnext⟩
      | idle _ => exact ih h

/-- **Removing keys that ends with an error has changed no entry**, if the storage is steady: then the
    first removal was the one that failed. -/
theorem entries_removeAll {b after : Backend} {keys : List String} {source : StorageError}
    (h : removeAll b keys = (.error source, after)) (hsteady : b.Steady after) :
    after.entries = b.entries := by
  obtain ⟨n, hle, hlt, hfails⟩ := exists_failure_removeAll h
  cases hsteady with
  | works hworks =>
      rw [hworks n hle hlt] at hfails
      cases hfails
  | fails hkeeps hall =>
      induction keys with
      | nil => cases h
      | cons key keys ih =>
          have hwritten := b.written_remove key
          rw [removeAll] at h
          generalize b.remove key = answer at h hwritten
          cases hwritten with
          | done hnext hfaults _ _ =>
              rw [Faults.next, hall _ (Nat.le_refl _) (Nat.lt_of_le_of_lt hle hlt)] at hnext
              cases hnext
          | failed _ _ _ hentries =>
              cases h
              exact hentries hkeeps
          | idle _ => exact ih h

theorem entries_put {s after : Store} {key value : String} {source : StorageError}
    (h : s.put key value = (.error source, after)) (hsteady : s.backend.Steady after.backend) :
    after.keySpace = s.keySpace ∧ after.backend.entries = s.backend.entries := by
  have hwritten := s.backend.written_set key value
  unfold put at h
  generalize s.backend.set key value = answer at h hwritten
  obtain ⟨result, backend⟩ := answer
  cases h
  exact ⟨rfl, hwritten.entries_eq hsteady⟩

section Put

variable {s after : Store} {key value : String}

/-- Storage whose next write does not fail takes what is put. -/
theorem exists_put_ok (hworks : s.backend.faults.next = false) (key value : String) :
    ∃ after, s.put key value = (.ok (), after) := by
  have hwritten := s.backend.written_set key value
  unfold put
  generalize s.backend.set key value = answer at hwritten ⊢
  cases hwritten with
  | done | idle => exact ⟨_, rfl⟩
  | failed hnext =>
      rw [hworks] at hnext
      cases hnext

/-- What has been put is there, and everything else is as it was. -/
theorem get?_put (h : s.put key value = (.ok (), after)) (other : String) :
    after.backend.get? other = if key = other then some value else s.backend.get? other := by
  have hwritten := s.backend.written_set key value
  unfold put at h
  generalize s.backend.set key value = answer at h hwritten
  obtain ⟨result, backend⟩ := answer
  cases h
  rw [Backend.get?, Backend.get?, hwritten.entries_of_ok, Keyed.get?_insert]

/-- What faithful storage could not keep has not changed anything. -/
theorem get?_put_error {source : StorageError} (h : s.put key value = (.error source, after))
    (hfaithful : s.backend.Faithful) (other : String) :
    after.backend.get? other = s.backend.get? other := by
  have hwritten := s.backend.written_set key value
  unfold put at h
  generalize s.backend.set key value = answer at h hwritten
  obtain ⟨result, backend⟩ := answer
  cases h
  rw [Backend.get?, Backend.get?, hwritten.entries_of_error hfaithful]

theorem put_spec {result : Except StorageError Unit} (h : s.put key value = (result, after)) :
    after.keySpace = s.keySpace ∧ (s.backend.Faithful → after.backend.Faithful) := by
  have hwritten := s.backend.written_set key value
  unfold put at h
  cases h
  exact ⟨rfl, hwritten.faithful⟩

end Put

theorem entries_clearPlaceholders {s after : Store} {source : StorageError}
    (h : s.clearPlaceholders = (.error source, after)) (hsteady : s.backend.Steady after.backend) :
    after.keySpace = s.keySpace ∧ after.backend.entries = s.backend.entries := by
  unfold clearPlaceholders at h
  dsimp only at h
  split at h
  · cases h
  · rename_i hremoved
    cases h
    exact ⟨rfl, entries_removeAll hremoved hsteady⟩

end Store

end Placeholders.Storage
