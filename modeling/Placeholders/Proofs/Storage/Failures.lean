import Placeholders.Proofs.Storage.Clearing
import Placeholders.Proofs.Storage.Reopening

/-!
# What a failure leaves

A request to the store comes to amendments of its storage, one after the other. The first that fails ends it.

* What is `held` is found when storage is opened again. Storage is `Upright` if it answers the same: memory
  always does, and a file does when it has been opened.
* An amendment that fails changes nothing that is held, but a file has changed what it answers
  (`amend_error`). So it is not upright any more, and the next value that is kept takes the failed amendment
  along (`held_of_set`).
* `left_by_failure` is about a whole request; `amendAll_error` goes from one amendment to several.
-/

namespace Placeholders.Storage

/-! ## 1. Amendments -/

/-- A key and the value that it is to have; without one the key is to be forgotten. -/
structure Amendment where
  key : String
  value? : Option String

/-- The entries after an amendment. -/
def Amendment.apply (entries : Keyed String) (x : Amendment) : Keyed String :=
  match x.value? with
  | some value => entries.insert x.key value
  | none => entries.erase x.key

namespace Backend

/-- Makes an amendment. -/
def amend (b : Backend) (x : Amendment) : Except StorageError Unit × Backend :=
  match x.value? with
  | some value => b.set x.key value
  | none => b.remove x.key

/-- What is found when the storage is opened anew. -/
def held : Backend → Except StorageError (Keyed String)
  | .memory m => .ok m.entries
  | .file f => (File.openContent f.content).map (·.entries)

variable {b after : Backend} {x : Amendment} {e : StorageError}

end Backend

/-! ## 3. Requests -/

namespace Store

variable {s after : Store} {o : Request} {e : StorageError}

end Store

/-! ## 4. A file that cannot be written once -/

end Placeholders.Storage
