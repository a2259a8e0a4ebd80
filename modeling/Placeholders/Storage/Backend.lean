import Placeholders.Data.Json
import Placeholders.Keyed
import Placeholders.Text.Blank

/-!
# Storage

Where values are kept between visits: strings under string keys, in memory or in a file.

* The file holds one JSON object of strings. It is read once, when it is opened; a missing or blank
  file holds nothing. Every change writes it anew, keys in ascending order.
* Any write may fail. `Faults` says which of the coming writes do; a write that fails in memory
  changes nothing, one that fails in a file has already changed what the storage answers.
* Removing a key that a file storage does not have writes nothing.
-/

namespace Placeholders.Storage

open Placeholders.Data

/-! ## 1. Faults and errors -/

/-- What can go wrong with storage. -/
inductive StorageError where
  /-- The medium could not be written. -/
  | writeFailed
  /-- The file is not an object of strings. -/
  | unreadableFile
  /-- An index that no option has. -/
  | indexOutOfRange (name : String) (index count : Nat)
  deriving DecidableEq, Repr

/-- The wording of an error, as far as it is the program's own. -/
def StorageError.message : StorageError → String
  | .writeFailed => "io error on state file"
  | .unreadableFile => "state file is not valid"
  | .indexOutOfRange name index count =>
    s!"index must be a whole number N, where 0 <= N < {count}, but it is {index} " ++
      s!"(placeholder '{name}')"

/-- Which of the coming writes fail. -/
structure Faults where
  /-- The number of writes tried so far. -/
  tried : Nat := 0
  fails : Nat → Bool := fun _ => false

/-- Whether the next write fails. -/
def Faults.next (faults : Faults) : Bool := faults.fails faults.tried

/-- One more write has been tried. -/
def Faults.advance (faults : Faults) : Faults := { faults with tried := faults.tried + 1 }

/-- From now on every write fails, or none does. -/
def Faults.always (faults : Faults) (failing : Bool) : Faults :=
  { faults with fails := fun _ => failing }

/-! ## 2. Memory -/

/-- Storage that lasts as long as the program. -/
structure Memory where
  entries : Keyed String
  faults : Faults := {}

namespace Memory

/-- Keeps a value under a key. -/
def set (m : Memory) (key value : String) : Except StorageError Unit × Memory :=
  if m.faults.next then (.error .writeFailed, { m with faults := m.faults.advance })
  else (.ok (), { entries := m.entries.insert key value, faults := m.faults.advance })

/-- Forgets a key. -/
def remove (m : Memory) (key : String) : Except StorageError Unit × Memory :=
  if m.faults.next then (.error .writeFailed, { m with faults := m.faults.advance })
  else (.ok (), { entries := m.entries.erase key, faults := m.faults.advance })

end Memory

/-! ## 3. Files -/

/-- Storage in a file. -/
structure File where
  entries : Keyed String
  /-- The text of the file, or nothing if there is no file. -/
  content : Option String
  faults : Faults := {}

namespace File

/-- The entries as the text of a file. -/
def write (entries : Keyed String) : String :=
  Json.pretty "" (.record (entries.entries.map fun entry => (entry.1, .text entry.2)))

/-- A field that holds a text. -/
def textField? (field : String × Datum) : Option (String × String) :=
  match field.2 with
  | .text value => some (field.1, value)
  | _ => none

/-- The entries that a file holds. -/
def read? (content : String) : Option (Keyed String) :=
  if (Text.trim content.toList).isEmpty then some .empty
  else
    match Json.read? content with
    | some (.record fields) => (fields.mapM textField?).map Keyed.ofList
    | _ => none

/-- Opens a file of some content. -/
def openContent (content : Option String) (faults : Faults := {}) : Except StorageError File :=
  match content with
  | none => .ok { entries := .empty, content := none, faults }
  | some text =>
    match read? text with
    | some entries => .ok { entries, content := some text, faults }
    | none => .error .unreadableFile

/-- Writes the entries to the file. -/
def flush (f : File) : Except StorageError Unit × File :=
  if f.faults.next then (.error .writeFailed, { f with faults := f.faults.advance })
  else (.ok (), { f with content := some (write f.entries), faults := f.faults.advance })

/-- Keeps a value under a key. -/
def set (f : File) (key value : String) : Except StorageError Unit × File :=
  flush { f with entries := f.entries.insert key value }

/-- Forgets a key. -/
def remove (f : File) (key : String) : Except StorageError Unit × File :=
  if f.entries.contains key then flush { f with entries := f.entries.erase key } else (.ok (), f)

end File

/-! ## 4. Either kind -/

/-- Storage of either kind. -/
inductive Backend where
  | memory (m : Memory)
  | file (f : File)

namespace Backend

/-- Memory that holds some entries. -/
def ofEntries (entries : List (String × String)) : Backend :=
  .memory { entries := Keyed.ofList entries }

/-- What the storage answers for its keys. -/
def entries : Backend → Keyed String
  | .memory m => m.entries
  | .file f => f.entries

/-- The value under a key. -/
def get? (b : Backend) (key : String) : Option String := b.entries.get? key

/-- All keys, in ascending order. -/
def keys (b : Backend) : List String := b.entries.keys

/-- Keeps a value under a key. -/
def set (b : Backend) (key value : String) : Except StorageError Unit × Backend :=
  match b with
  | .memory m => let (result, m) := m.set key value; (result, .memory m)
  | .file f => let (result, f) := f.set key value; (result, .file f)

/-- Forgets a key. -/
def remove (b : Backend) (key : String) : Except StorageError Unit × Backend :=
  match b with
  | .memory m => let (result, m) := m.remove key; (result, .memory m)
  | .file f => let (result, f) := f.remove key; (result, .file f)

/-- From now on every write fails, or none does. -/
def failWrites (b : Backend) (failing : Bool) : Backend :=
  match b with
  | .memory m => .memory { m with faults := m.faults.always failing }
  | .file f => .file { f with faults := f.faults.always failing }

end Backend

end Placeholders.Storage
