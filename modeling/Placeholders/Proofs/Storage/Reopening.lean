import Placeholders.Proofs.Data.Json
import Placeholders.Proofs.Storage.Writes
import Placeholders.Proofs.Text.Trimming

/-!
# Files that are opened again

Storage in a file answers as storage in memory does, no matter when its file is opened again in between.

* What is written to a file is read back as it has been (`read?_write`).
* A file is settled if opening it again makes no difference. It is so when it has been opened, and every
  call keeps it so as long as writes are done: either there is nothing to change, or all entries are
  written (`exists_flush`).
* `Mirrors` relates a settled file to memory with the same entries. A call is answered alike by both, and
  relates them again (`Mirrors.call`).
-/

namespace Placeholders.Storage

open Placeholders.Data

/-! ## 1. Use of storage -/

/-- A call of storage. -/
inductive Call where
  | set (key value : String)
  | remove (key : String)
  | get (key : String)
  | keys

/-- What a call answers. -/
inductive Answer where
  | done (result : Except StorageError Unit)
  | value (value : Option String)
  | keys (keys : List String)

/-- What may be done with storage: it is called, or its file is opened again. -/
inductive Use where
  | call (c : Call)
  | reopen

/-- The call, if it is one. -/
def Use.call? : Use → Option Call
  | .call c => some c
  | .reopen => none

namespace Backend

/-- Makes a call. -/
def call (b : Backend) : Call → Answer × Backend
  | .set key value => (.done (b.set key value).1, (b.set key value).2)
  | .remove key => (.done (b.remove key).1, (b.remove key).2)
  | .get key => (.value (b.get? key), b)
  | .keys => (.keys b.keys, b)

/-- Opens the file again; there is none to storage in memory. -/
def reopen : Backend → Except StorageError Backend
  | .memory m => .ok (.memory m)
  | .file f => (File.openContent f.content f.faults).map .file

/-- The answers to several calls. -/
def answers (b : Backend) : List Call → List Answer
  | [] => []
  | c :: rest => (b.call c).1 :: (b.call c).2.answers rest

/-- The answers to the calls among several uses, unless the file cannot be opened again. -/
def answersOf (b : Backend) : List Use → Except StorageError (List Answer)
  | [] => .ok []
  | .call c :: rest => ((b.call c).2.answersOf rest).map ((b.call c).1 :: ·)
  | .reopen :: rest =>
    match b.reopen with
    | .ok b => b.answersOf rest
    | .error e => .error e

end Backend

/-! ## 2. What files hold -/

namespace File

/-- The pairs that are in a file: there are none if it is missing or blank, and otherwise it is a record of
    texts. -/
inductive Holds : Option String → List (String × String) → Prop
  | missing : Holds none []
  | blank {text : String} (h : Text.trim text.toList = []) : Holds (some text) []
  | texts {text : String} {pairs : List (String × String)}
    (h : Json.read? text = some (.record (Json.textFields pairs))) : Holds (some text) pairs

theorem textField?_eq_some {field : String × Datum} {pair : String × String} :
    textField? field = some pair ↔ field = (pair.1, .text pair.2) := by
  obtain ⟨name, d⟩ := field
  cases d <;> simp [textField?, Prod.ext_iff]

theorem mapM_textField? {fields : List (String × Datum)} {pairs : List (String × String)} :
    fields.mapM textField? = some pairs ↔ fields = Json.textFields pairs := by
  induction fields generalizing pairs with
  | nil => cases pairs <;> simp [Json.textFields]
  | cons field rest ih =>
      cases pairs with
      | nil => simp [Json.textFields, Option.bind_eq_some_iff]
      | cons pair pairs =>
          simp [Json.textFields, Option.bind_eq_some_iff, textField?_eq_some, ih]

theorem trim_ne_nil_of_read? {text : String} {d : Datum} (h : Json.read? text = some d) :
    Text.trim text.toList ≠ [] := by
  intro htrim
  rw [Json.read?_of_isBlank (Text.isBlank_of_trim_eq_nil htrim)] at h
  cases h

/-- **What is read are the pairs that a text holds**; of those with one name the last one stays. -/
theorem read?_eq_some_iff {text : String} {entries : Keyed String} :
    read? text = some entries ↔ ∃ pairs, Holds (some text) pairs ∧ entries = Keyed.ofList pairs := by
  constructor
  · intro h
    unfold read? at h
    split at h
    · rename_i hblank
      exact ⟨[], .blank (List.isEmpty_iff.mp hblank), (Option.some.inj h).symm⟩
    · split at h
      · rename_i fields hfields
        obtain ⟨pairs, hpairs, hentries⟩ := Option.map_eq_some_iff.mp h
        rw [mapM_textField?.mp hpairs] at hfields
        exact ⟨pairs, .texts hfields, hentries.symm⟩
      · cases h
  · intro ⟨pairs, hholds, hentries⟩
    subst hentries
    cases hholds with
    | blank hblank => simp [read?, hblank, Keyed.ofList]
    | texts hread => simp [read?, trim_ne_nil_of_read? hread, hread, mapM_textField?.mpr rfl]

/-- **A file can be opened exactly if it holds pairs.** -/
theorem openContent_eq_ok_iff {content : Option String} {faults : Faults} {f : File} :
    openContent content faults = .ok f ↔
      ∃ pairs, Holds content pairs ∧ f = { entries := Keyed.ofList pairs, content, faults } := by
  constructor
  · intro h
    unfold openContent at h
    cases content with
    | none => exact ⟨[], .missing, (Except.ok.inj h).symm⟩
    | some text =>
        dsimp only at h
        split at h
        · rename_i entries hread
          obtain ⟨pairs, hholds, rfl⟩ := read?_eq_some_iff.mp hread
          exact ⟨pairs, hholds, (Except.ok.inj h).symm⟩
        · cases h
  · intro ⟨pairs, hholds, hf⟩
    subst hf
    cases content with
    | none =>
        cases hholds
        rfl
    | some text =>
        have hread : read? text = some (Keyed.ofList pairs) := read?_eq_some_iff.mpr ⟨pairs, hholds, rfl⟩
        rw [openContent, hread]

/-! ## 3. What is written -/

/-- **What is written to a file is read back.** -/
theorem read?_write (entries : Keyed String) : read? (write entries) = some entries := by
  have hholds : Holds (some (write entries)) entries.entries := .texts (Json.read?_pretty entries.entries)
  exact read?_eq_some_iff.mpr ⟨entries.entries, hholds, entries.ofList_entries.symm⟩

/-- Opening the file again gives the same storage. -/
def Settled (f : File) : Prop := openContent f.content f.faults = .ok f

theorem settled_of_openContent {content : Option String} {faults : Faults} {f : File}
    (h : openContent content faults = .ok f) : f.Settled := by
  obtain ⟨pairs, _, rfl⟩ := openContent_eq_ok_iff.mp h
  exact h

/-- **Writing the entries that are to be kept settles the file**, if it is done. -/
theorem exists_flush {f : File} (hworks : ∀ n, f.faults.fails n = false) : ∃ after, f.flush = (.ok (), after) ∧
    after.entries = f.entries ∧ after.Settled ∧ ∀ n, after.faults.fails n = false := by
  have hnext : f.faults.next = false := hworks _
  refine ⟨{ f with content := some (write f.entries), faults := f.faults.advance }, ?_, rfl, ?_, hworks⟩
  · rw [flush, hnext]
    rfl
  · unfold Settled openContent
    simp only [read?_write]

end File

/-! ## 4. Files and memory -/

/-- A settled file and memory that have the same entries; neither ever fails. -/
structure Mirrors (f : File) (m : Memory) : Prop where
  entries : f.entries = m.entries
  settled : f.Settled
  file_works : ∀ n, f.faults.fails n = false
  memory_works : ∀ n, m.faults.fails n = false

section Mirrors

variable {f : File} {m : Memory}

theorem Mirrors.set (h : Mirrors f m) (key value : String) : ∃ after kept, f.set key value = (.ok (), after) ∧
    m.set key value = (.ok (), kept) ∧ Mirrors after kept := by
  obtain ⟨after, hflush, hentries, hsettled, hworks⟩ :=
    File.exists_flush (f := { f with entries := f.entries.insert key value }) h.file_works
  have hnext : m.faults.next = false := h.memory_works _
  refine ⟨after, { entries := m.entries.insert key value, faults := m.faults.advance }, hflush, ?_,
    hentries.trans (congrArg (·.insert key value) h.entries), hsettled, hworks, h.memory_works⟩
  rw [Memory.set, hnext]
  rfl

/-- What a file does not have is not removed from it; removing it from memory changes no entry. -/
theorem Mirrors.remove (h : Mirrors f m) (key : String) : ∃ after kept, f.remove key = (.ok (), after) ∧
    m.remove key = (.ok (), kept) ∧ Mirrors after kept := by
  have hnext : m.faults.next = false := h.memory_works _
  have hmemory : m.remove key =
      (.ok (), { entries := m.entries.erase key, faults := m.faults.advance }) := by
    rw [Memory.remove, hnext]
    rfl
  unfold File.remove
  split
  · obtain ⟨after, hflush, hentries, hsettled, hworks⟩ :=
      File.exists_flush (f := { f with entries := f.entries.erase key }) h.file_works
    exact ⟨after, _, hflush, hmemory, hentries.trans (congrArg (·.erase key) h.entries), hsettled, hworks,
      h.memory_works⟩
  · rename_i hcontains
    have hsame : m.entries.erase key = m.entries :=
      Keyed.erase_of_not_contains (h.entries ▸ hcontains)
    exact ⟨f, _, rfl, hmemory, h.entries.trans hsame.symm, h.settled, h.file_works, h.memory_works⟩

/-- **A call is answered alike by both**, and relates them again. -/
theorem Mirrors.call (h : Mirrors f m) (c : Call) : ∃ answer after kept,
    (Backend.file f).call c = (answer, .file after) ∧ (Backend.memory m).call c = (answer, .memory kept) ∧
      Mirrors after kept := by
  cases c with
  | set key value =>
      obtain ⟨after, kept, hfile, hmemory, hafter⟩ := h.set key value
      refine ⟨.done (.ok ()), after, kept, ?_, ?_, hafter⟩
      · simp only [Backend.call, Backend.set, hfile]
      · simp only [Backend.call, Backend.set, hmemory]
  | remove key =>
      obtain ⟨after, kept, hfile, hmemory, hafter⟩ := h.remove key
      refine ⟨.done (.ok ()), after, kept, ?_, ?_, hafter⟩
      · simp only [Backend.call, Backend.remove, hfile]
      · simp only [Backend.call, Backend.remove, hmemory]
  | get key =>
      refine ⟨_, f, m, rfl, ?_, h⟩
      simp only [Backend.call, Backend.get?, Backend.entries, h.entries]
  | keys =>
      refine ⟨_, f, m, rfl, ?_, h⟩
      simp only [Backend.call, Backend.keys, Backend.entries, h.entries]

/-- **All calls are answered alike**, wherever the file is opened again between them. -/
theorem Mirrors.answersOf_eq (h : Mirrors f m) (uses : List Use) :
    (Backend.file f).answersOf uses = .ok ((Backend.memory m).answers (uses.filterMap Use.call?)) := by
  induction uses generalizing f m with
  | nil => rfl
  | cons use rest ih =>
      cases use with
      | call c =>
          obtain ⟨answer, after, kept, hfile, hmemory, hafter⟩ := h.call c
          simp only [Backend.answersOf, hfile, ih hafter, List.filterMap_cons, Use.call?,
            Backend.answers, hmemory, Except.map]
      | reopen =>
          have hreopen : (Backend.file f).reopen = .ok (.file f) := by
            rw [Backend.reopen, h.settled]
            rfl
          simp only [Backend.answersOf, hreopen, ih h, List.filterMap_cons, Use.call?]

end Mirrors

/-- **Storage in a file answers as storage in memory does**, if the writes to the file are done. A file can be
    opened exactly if it holds pairs. Whatever calls are made then, with the file opened again wherever one
    likes, they are answered as by memory that has these pairs. -/
theorem answersOf_openContent {faults : Faults} (hworks : ∀ n, faults.fails n = false)
    (content : Option String) :
    ((∃ f, File.openContent content faults = .ok f) ↔ ∃ pairs, File.Holds content pairs) ∧
    ∀ pairs, File.Holds content pairs → ∃ f, File.openContent content faults = .ok f ∧
      ∀ uses, (Backend.file f).answersOf uses =
        .ok ((Backend.ofEntries pairs).answers (uses.filterMap Use.call?)) := by
  refine ⟨⟨fun ⟨f, hf⟩ => ?_, fun ⟨pairs, hpairs⟩ => ?_⟩, fun pairs hpairs => ?_⟩
  · obtain ⟨pairs, hpairs, _⟩ := File.openContent_eq_ok_iff.mp hf
    exact ⟨pairs, hpairs⟩
  · exact ⟨_, File.openContent_eq_ok_iff.mpr ⟨pairs, hpairs, rfl⟩⟩
  · have hopen := File.openContent_eq_ok_iff.mpr
      ⟨pairs, hpairs, Eq.refl ({ entries := Keyed.ofList pairs, content, faults } : File)⟩
    refine ⟨_, hopen, fun uses => Mirrors.answersOf_eq ?_ uses⟩
    exact ⟨rfl, File.settled_of_openContent hopen, hworks, fun _ => rfl⟩

/-- A file with a name that occurs twice, and a line break in a text. -/
def repeatedContent : String := "\x7b\"b\": \"1\", \"a\": \"2\\n\", \"b\": \"3\"\x7d"

theorem answersOf_openContent_of_repeated :
    (∀ n, ({} : Faults).fails n = false) ∧
    File.Holds (some repeatedContent) [("b", "1"), ("a", "2\n"), ("b", "3")] ∧
    ∃ f, File.openContent (some repeatedContent) {} = .ok f ∧ ∀ uses, (Backend.file f).answersOf uses =
      .ok ((Backend.ofEntries [("b", "1"), ("a", "2\n"), ("b", "3")]).answers (uses.filterMap Use.call?)) := by
  have hworks : ∀ n, ({} : Faults).fails n = false := fun _ => rfl
  have hholds : File.Holds (some repeatedContent) [("b", "1"), ("a", "2\n"), ("b", "3")] := .texts (by rfl)
  exact ⟨hworks, hholds, (answersOf_openContent hworks (some repeatedContent)).2 _ hholds⟩

end Placeholders.Storage
