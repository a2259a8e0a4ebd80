import Placeholders.Keyed

/-!
# Directories

What the program sees of the files around it.

* `Place` is all that matters about a path: the text that can be read there, or that there is none, and
  then what stands in the way of a new file, if anything does.
* A path leads from folder to folder, step by step, even where it comes back: each step must be there,
  and all but the last one must be folders.
* A directory keeps texts by their spots. It has a folder wherever a spot goes on behind it. Of what is
  around it only the folders above it are known, and a few that every system has.
-/

namespace Placeholders.CommandLine

/-! ## 1. Places -/

/-- What stands in the way of a file. -/
inductive Obstacle where
  | missing
  | notFolder
  | isFolder
  | nameTooLong
  deriving DecidableEq, Repr

namespace Obstacle

/-- The number of an obstacle. -/
def code : Obstacle → Nat
  | missing => 2
  | notFolder => 20
  | isFolder => 21
  | nameTooLong => 36

/-- The obstacle of a number. -/
def ofCode? (n : Nat) : Option Obstacle :=
  [missing, notFolder, isFolder, nameTooLong].find? fun o => o.code == n

/-- An obstacle in words. -/
def words : Obstacle → String
  | missing => "No such file or directory"
  | notFolder => "Not a directory"
  | isFolder => "Is a directory"
  | nameTooLong => "File name too long"

/-- The wording of an obstacle. -/
def message (o : Obstacle) : String := s!"{o.words} (os error {o.code})"

end Obstacle

/-- What is at the end of a path. -/
inductive Place where
  /-- A file with a text. -/
  | text (content : String)
  /-- Nothing, and what stands in the way of a new file. -/
  | vacant (obstacle : Option Obstacle)
  /-- Something that cannot be read as a text, such as a folder. -/
  | unreadable
  deriving DecidableEq, Repr

namespace Place

/-- The text of a file. -/
def text? : Place → Option String
  | text content => some content
  | _ => none

/-- What stands in the way of writing a file. -/
def obstacle? : Place → Option Obstacle
  | text _ => none
  | vacant obstacle => obstacle
  | unreadable => some .isFolder

end Place

/-! ## 2. Paths -/

/-- The most octets that a step of a path may have. -/
def stepLimit : Nat := 255

/-- The most octets that a path may have. -/
def pathLimit : Nat := 4095

/-- The steps of a path. -/
def stepsOf (path : String) : List String := (path.splitOn "/").filter (· != "")

/-- Whether a path begins at the outermost folder. -/
def isAbsolute (path : String) : Bool := path.startsWith "/"

/-- Whether a path says that it leads to a folder. -/
def saysFolder (path : String) : Bool := path.endsWith "/"

/-- Whether the last step of a path ends like that of a JSON file. -/
def isJsonPath (path : String) : Bool :=
  let last := ((stepsOf path).getLast?).getD ""
  last.endsWith ".json" && last != ".json"

/-! ## 3. Spots -/

/-- A spot in the tree of folders. -/
structure Spot where
  /-- How many folders above the directory the steps begin; nothing if they begin at the outermost
      folder. -/
  above : Option Nat := some 0
  /-- The steps, none of them to a folder that is known already. -/
  steps : List String := []
  deriving DecidableEq, Repr

namespace Spot

/-- One step further. -/
def step (spot : Spot) (name : String) : Spot :=
  if name == "." then spot
  else if name == ".." then
    if spot.steps.isEmpty then { spot with above := spot.above.map (· + 1) }
    else { spot with steps := spot.steps.dropLast }
  else { spot with steps := spot.steps ++ [name] }

/-- The spot that a path starts from. -/
def start (path : String) : Spot := { above := if isAbsolute path then none else some 0 }

/-- The shortest path to a spot. -/
def path (spot : Spot) : String :=
  match spot.above with
  | none => "/" ++ "/".intercalate spot.steps
  | some n => "/".intercalate (List.replicate n ".." ++ spot.steps)

/-- The spot at the end of a path, whether there is anything or not. -/
def ofPath (path : String) : Spot := (stepsOf path).foldl step (start path)

end Spot

/-- Folders that every system has. -/
def systemFolders : List String := ["/dev", "/tmp"]

/-- A file that every system has: it is empty, and keeps nothing of what is written to it. -/
def emptyFile : String := "/dev/null"

/-! ## 4. Directories -/

/-- What is at a spot. -/
inductive Found where
  | folder
  | file (content : String)
  deriving DecidableEq, Repr

/-- A directory in memory. -/
structure Directory where
  /-- The texts by the shortest paths to their spots. -/
  files : Keyed String

namespace Directory

/-- A directory of files. -/
def ofFiles (files : List (String × String)) : Directory :=
  ⟨Keyed.ofList (files.map fun file => ((Spot.ofPath file.1).path, file.2))⟩

/-- What is at a spot. -/
def found? (d : Directory) (spot : Spot) : Option Found :=
  let path := spot.path
  if spot.steps.isEmpty || systemFolders.contains path
      || d.files.keys.any (fun file => file.startsWith (path ++ "/")) then some .folder
  else if path == emptyFile then some (.file "")
  else (d.files.get? path).map .file

/-- What is one step further from a folder. -/
def next (d : Directory) (spot : Spot) (step : String) : Except Obstacle (Spot × Option Found) :=
  if stepLimit < step.utf8ByteSize then .error .nameTooLong
  else .ok (spot.step step, d.found? (spot.step step))

/-- The folder at the end of some steps. -/
def enter (d : Directory) : Spot → List String → Except Obstacle Spot
  | spot, [] => .ok spot
  | spot, step :: steps =>
    match d.next spot step with
    | .ok (spot, some .folder) => d.enter spot steps
    | .ok (_, some (.file _)) => .error .notFolder
    | .ok (_, none) => .error .missing
    | .error obstacle => .error obstacle

/-- What is at the end of a path. -/
def look (d : Directory) (path : String) : Place :=
  if pathLimit < path.utf8ByteSize then .vacant (some .nameTooLong)
  else
    let steps := stepsOf path
    match steps.getLast? with
    | none => if path.isEmpty then .vacant (some .missing) else .unreadable
    | some last =>
      match d.enter (.start path) steps.dropLast with
      | .error obstacle => .vacant (some obstacle)
      | .ok folder =>
        let isFile := !saysFolder path
        match d.next folder last with
        | .ok (_, some .folder) => .unreadable
        | .ok (_, some (.file content)) =>
          if isFile then .text content else .vacant (some .isFolder)
        | .ok (_, none) => .vacant (if isFile then none else some .isFolder)
        | .error obstacle => .vacant (some (if isFile then obstacle else .isFolder))

/-- Writes a file. -/
def write (d : Directory) (path content : String) : Directory :=
  let spot := (Spot.ofPath path).path
  if spot == emptyFile then d else ⟨d.files.insert spot content⟩

end Directory

end Placeholders.CommandLine
