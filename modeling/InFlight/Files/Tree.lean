import InFlight.Error
import InFlight.Files.Path

/-!
# A tree of files

Files and directories below one root.  A *place* is the list of names that leads to it from
the root.  A path that begins with a slash starts from the root, and any other from the
working directory.  There are no links, so two dots lead back to the directory before.

Every step of a path but the last must lead to a directory, and so must one that a slash
follows or that is no name.

## Main definitions

* `InFlight.FileTree`, `InFlight.FileTree.node?` — what stands at which place.
* `InFlight.FileTree.locate` — the place that a path leads to.
* `InFlight.FileTree.read`, `write`, `makeDirectories`, `makeParent`, `rename` — the operations
  on paths.
* `InFlight.FileTree.listing` — what stands below the working directory.
-/

set_option relaxedAutoImplicit false
set_option autoImplicit false

namespace InFlight

/-- Contents are compared byte by byte. -/
local instance decEqContent : DecidableEq ByteArray := ByteArray.instDecidableEq

/-- A file with its content, or a directory. -/
inductive FileNode where
  | file (content : ByteArray)
  | directory
deriving DecidableEq

/-- The names that lead to a place from the root. -/
abbrev Place := List String

/-- What stands at which place, and the place of the working directory; the root itself is
always a directory. -/
structure FileTree where
  entries : List (Place × FileNode) := []
  here : Place := []

namespace FileTree

/-! ## Places -/

/-- What stands at a place. -/
def node? (t : FileTree) (place : Place) : Option FileNode :=
  if place.isEmpty then some .directory else t.entries.lookup place

/-- Takes away what stands at a place. -/
def erase (t : FileTree) (place : Place) : FileTree :=
  { t with entries := t.entries.filter fun e => e.1 != place }

/-- Puts something at a place, instead of what stands there. -/
def insert (t : FileTree) (place : Place) (node : FileNode) : FileTree :=
  { t with entries := (place, node) :: (t.erase place).entries }

/-- What was put at a place stands there. -/
theorem node?_insert_self (t : FileTree) (place : Place) (node : FileNode) (h : place ≠ []) :
    (t.insert place node).node? place = some node := by
  simp [node?, insert, h]

/-- One step along a path. -/
def follow (here : Place) (step : String) : Place :=
  if step == "." then here
  else if step == ".." then here.dropLast
  else here ++ [step]

/-- The longest name of a file, in bytes. -/
def maxNameBytes : Nat := 255

/-- Why a step cannot be taken from a place. -/
def obstacle? (t : FileTree) (here : Place) (step : String) : Option FileProblem :=
  match t.node? here with
  | none => some .notFound
  | some (.file _) => some .notADirectory
  | some .directory => if maxNameBytes < step.utf8ByteSize then some .invalidFilename else none

/-- The place that steps lead to from `here`. -/
def locateFrom (t : FileTree) (here : Place) : List String → Except FileProblem Place
  | [] => .ok here
  | step :: rest =>
    match t.obstacle? here step with
    | some problem => .error problem
    | none => t.locateFrom (follow here step) rest

/-- The place where a path starts. -/
def origin (t : FileTree) (path : String) : Place := if Path.isAbsolute path then [] else t.here

/-- The longest path, in bytes. -/
def maxPathBytes : Nat := 4095

/-- Why a text leads nowhere in any tree. -/
def fault? (path : String) : Option FileProblem :=
  if '\x00' ∈ path.toList then some .invalidInput
  else if maxPathBytes < path.utf8ByteSize then some .invalidFilename
  else if path.isEmpty then some .notFound
  else none

/-- The place that a path leads to. -/
def locate (t : FileTree) (path : String) : Except FileProblem Place :=
  match fault? path with
  | some problem => .error problem
  | none => t.locateFrom (t.origin path) (Path.steps path)

/-- The place that steps lead to from `here` when two dots take back the name before them,
whether or not anything stands there; none when a file, or a name that is too long, is in the
way. -/
def settleFrom? (t : FileTree) (here : Place) : List String → Option Place
  | [] => some here
  | step :: rest =>
    if Path.isDots step then t.settleFrom? (follow here step) rest
    else
      match t.obstacle? here step with
      | none | some .notFound => t.settleFrom? (follow here step) rest
      | some _ => none

/-- The place that a path names, whether or not anything stands there. -/
def settle? (t : FileTree) (path : String) : Option Place :=
  t.settleFrom? (t.origin path) (Path.steps path)

/-- What stands at the end of a path. -/
def lookup (t : FileTree) (path : String) : Except FileProblem FileNode :=
  match t.locate path with
  | .error problem => .error problem
  | .ok place =>
    match t.node? place with
    | none => .error .notFound
    | some .directory => .ok .directory
    | some node => if Path.endsInSlash path then .error .notADirectory else .ok node

/-! ## Operations on paths -/

/-- Something stands at the end of a path. -/
def contains (t : FileTree) (path : String) : Bool := (t.lookup path).isOk

/-- A directory stands at the end of a path. -/
def hasDirectory (t : FileTree) (path : String) : Bool :=
  match t.lookup path with
  | .ok .directory => true
  | _ => false

/-- The content of a file. -/
def read (t : FileTree) (path : String) : Except FileProblem ByteArray :=
  match t.lookup path with
  | .error problem => .error problem
  | .ok .directory => .error .isADirectory
  | .ok (.file content) => .ok content

/-- Writes a file, new or instead of an old one. -/
def write (t : FileTree) (path : String) (content : ByteArray) : Except FileProblem FileTree :=
  match t.locate path with
  | .error problem => .error problem
  | .ok place =>
    match t.node? place with
    | some .directory => .error .isADirectory
    | _ =>
      if Path.endsInSlash path then .error .isADirectory
      else .ok (t.insert place (.file content))

/-- Makes a directory where nothing stands. -/
def makeDirectory (t : FileTree) (path : String) : Except FileProblem FileTree :=
  match t.locate path with
  | .error problem => .error problem
  | .ok place =>
    if (t.node? place).isSome then .error .alreadyExists else .ok (t.insert place .directory)

/-- The tree after making a directory, and what went wrong unless the directory is there. -/
def ensureDirectory (t : FileTree) (path : String) : FileTree × Option FileProblem :=
  match t.makeDirectory path with
  | .ok t => (t, none)
  | .error problem => (t, if t.hasDirectory path then none else some problem)

/-- Makes a directory and, where one is not found on the way to it, those on the way first.
Directories made before a problem arises stay.  The first argument bounds how far the way may
be. -/
def makeWithin : Nat → FileTree → String → FileTree × Option FileProblem
  | 0, t, _ => (t, none)
  | far + 1, t, path =>
    match t.ensureDirectory path, Path.parent? path with
    | (t, some .notFound), some parent =>
      if parent.isEmpty then (t, some .notFound)
      else
        match makeWithin far t parent with
        | (t, some problem) => (t, some problem)
        | (t, none) => t.ensureDirectory path
    | result, _ => result

/-- Makes a directory and those that lead to it, as far as they are missing. -/
def makeDirectories (t : FileTree) (path : String) : FileTree × Option FileProblem :=
  if path.isEmpty then (t, none) else makeWithin path.length t path

/-- Makes the directory that a path is to stand in, as far as it is missing. -/
def makeParent (t : FileTree) (path : String) : FileTree × Option Error :=
  match (Path.parent? path).filter fun parent => !parent.isEmpty with
  | none => (t, none)
  | some parent =>
    match t.makeDirectories parent with
    | (t, none) => (t, none)
    | (t, some problem) => (t, some (.file problem (some parent)))

/-- Why no file can be moved to a place that a path leads to. -/
def refusal? (t : FileTree) (place : Place) (path : String) : Option FileProblem :=
  if !Path.endsInName path then some .busy
  else if Path.endsInSlash path then some .notADirectory
  else
    match t.node? place with
    | some .directory => some .isADirectory
    | _ => none

/-- Moves a file, in place of a file that stands at the new path. -/
def rename (t : FileTree) (source target : String) : Except FileProblem FileTree :=
  match t.locate source, t.read source, t.locate target with
  | .ok origin, .ok content, .ok place =>
    match t.refusal? place target with
    | some problem => .error problem
    | none => .ok ((t.erase origin).insert place (.file content))
  | .error problem, _, _ => .error problem
  | _, .error problem, _ => .error problem
  | _, _, .error problem => .error problem

/-! ## Listing -/

/-- The path of something of which the names from the working directory are given; that of a
directory ends in a slash. -/
def entryPath (names : List String) (node : FileNode) : String :=
  let path := String.intercalate "/" names
  match node with
  | .file _ => path
  | .directory => path ++ "/"

/-- The paths of all that stands below the working directory, sorted. -/
def listing (t : FileTree) : List String :=
  let below := t.entries.filterMap fun e =>
    if t.here.isPrefixOf e.1 ∧ t.here.length < e.1.length then
      some (entryPath (e.1.drop t.here.length) e.2)
    else none
  below.mergeSort fun a b => decide (a ≤ b)

end FileTree

end InFlight
