import Placeholders.Storage.Backend
import Placeholders.Text.Numeral

/-!
# The store of placeholder values

Typed access to storage. Every aspect of a placeholder has a key of its own, so that a value kept for
one kind is never read as another:

* the text of a textbox under `<key space><name>_TEXT`,
* the flag of a checkbox under `<key space><name>_IS_CHECKED`, as `1` or `0`,
* the index of a dropdown under `<key space><name>_INDEX`, in decimal digits,
* a setting under `<key space>SETTINGS_<key>`.

What cannot be read counts as absent; so does an empty text.
-/

namespace Placeholders.Storage

open Placeholders.Text

/-! ## 1. Keys -/

/-- The key space of a store that is not told otherwise. -/
def standardKeySpace : String := "PLACEHOLDER_"

/-- What the keys of settings begin with, after the key space. -/
def settingsSpace : String := "SETTINGS_"

/-- Storage and what all keys in it begin with. -/
structure Store where
  backend : Backend
  keySpace : String := standardKeySpace

namespace Store

/-- The key of a text. -/
def textKey (s : Store) (name : String) : String := s.keySpace ++ name ++ "_TEXT"

/-- The key of a flag. -/
def checkedKey (s : Store) (name : String) : String := s.keySpace ++ name ++ "_IS_CHECKED"

/-- The key of an index. -/
def indexKey (s : Store) (name : String) : String := s.keySpace ++ name ++ "_INDEX"

/-- The key of a setting. -/
def settingKey (s : Store) (key : String) : String := s.keySpace ++ settingsSpace ++ key

/-! ## 2. Written forms -/

/-- How a flag is kept. -/
def writeFlag (b : Bool) : String := if b then "1" else "0"

/-- Reads what `writeFlag` writes, and nothing else. -/
def readFlag? (s : String) : Option Bool :=
  if s = "1" then some true else if s = "0" then some false else none

@[simp] theorem readFlag?_writeFlag (b : Bool) : readFlag? (writeFlag b) = some b := by
  cases b <;> rfl

/-- Reads an index below a bound. Blanks around the digits do no harm. -/
def readIndex? (count : Nat) (s : String) : Option Nat :=
  (unsigned? 10 wordBound (trim s.toList)).filter (· < count)

/-! ## 3. Reading -/

/-- The text kept for a name. -/
def loadText? (s : Store) (name : String) : Option String :=
  (s.backend.get? (s.textKey name)).filter fun text => !text.isEmpty

/-- The flag kept for a name. -/
def loadChecked? (s : Store) (name : String) : Option Bool :=
  (s.backend.get? (s.checkedKey name)).bind readFlag?

/-- The index kept for a name, if there are more options than that. -/
def loadIndex? (s : Store) (name : String) (count : Nat) : Option Nat :=
  (s.backend.get? (s.indexKey name)).bind (readIndex? count)

/-- The text of a setting. -/
def loadSetting? (s : Store) (key : String) : Option String :=
  s.backend.get? (s.settingKey key)

/-- The flag of a setting. -/
def loadToggle? (s : Store) (key : String) : Option Bool :=
  (s.loadSetting? key).bind readFlag?

/-! ## 4. Writing -/

/-- Keeps a value under a key. -/
def put (s : Store) (key value : String) : Except StorageError Unit × Store :=
  let (result, backend) := s.backend.set key value
  (result, { s with backend })

/-- Keeps a text. -/
def storeText (s : Store) (name text : String) : Except StorageError Unit × Store :=
  s.put (s.textKey name) text

/-- Keeps a flag. -/
def storeChecked (s : Store) (name : String) (checked : Bool) : Except StorageError Unit × Store :=
  s.put (s.checkedKey name) (writeFlag checked)

/-- Keeps an index, which must be one of so many options. -/
def storeIndex (s : Store) (name : String) (index count : Nat) :
    Except StorageError Unit × Store :=
  if index < count then s.put (s.indexKey name) (toString index)
  else (.error (.indexOutOfRange name index count), s)

/-- Keeps a setting. -/
def storeSetting (s : Store) (key value : String) : Except StorageError Unit × Store :=
  s.put (s.settingKey key) value

/-- Keeps the flag of a setting. -/
def storeToggle (s : Store) (key : String) (on : Bool) : Except StorageError Unit × Store :=
  s.storeSetting key (writeFlag on)

/-- Forgets a setting. -/
def removeSetting (s : Store) (key : String) : Except StorageError Unit × Store :=
  let (result, backend) := s.backend.remove (s.settingKey key)
  (result, { s with backend })

/-! ## 5. Clearing -/

/-- Whether a key belongs to a placeholder: it is in the key space, but no setting. -/
def isPlaceholderKey (s : Store) (key : String) : Bool :=
  s.keySpace.toList.isPrefixOf key.toList
    && !(s.keySpace ++ settingsSpace).toList.isPrefixOf key.toList

/-- Removes keys one after the other; the first failure ends it. -/
def removeAll (backend : Backend) : List String → Except StorageError Unit × Backend
  | [] => (.ok (), backend)
  | key :: keys =>
    match backend.remove key with
    | (.ok (), backend) => removeAll backend keys
    | (.error e, backend) => (.error e, backend)

/-- Forgets everything that is kept for placeholders; answers how many keys that were. -/
def clearPlaceholders (s : Store) : Except StorageError Nat × Store :=
  let doomed := s.backend.keys.filter s.isPlaceholderKey
  match removeAll s.backend doomed with
  | (.ok (), backend) => (.ok doomed.length, { s with backend })
  | (.error e, backend) => (.error e, { s with backend })

end Store

end Placeholders.Storage
