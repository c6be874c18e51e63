import HtmlComponents.FileSystem.Fault
import HtmlComponents.FileSystem.Path

/-!
# A tree of directories and files

A file system maps locations to directories and files. A location is the row of
names that leads to it from the root, so it never needs to be resolved; a path
does. Resolving a path walks it piece by piece from the root or from the working
directory, and the way may only pass through directories that are there.

There are no links: two locations are two places.
-/

namespace HtmlComponents

namespace FileSystem

/-- The names that lead to a place from the root. -/
abbrev Location := List String

/-- What stands at a place. -/
inductive Node where
  | directory
  | file (content : ByteArray)

instance Node.decidableEq : DecidableEq Node
  | directory, directory => .isTrue rfl
  | directory, file _ => .isFalse nofun
  | file _, directory => .isFalse nofun
  | file content, file content' =>
    match ByteArray.decEq content content' with
    | .isTrue same => .isTrue (same ▸ rfl)
    | .isFalse differ => .isFalse fun same => differ (Node.file.inj same)

end FileSystem

open FileSystem

/-- A file system as a process sees it, with the process's working directory. -/
structure FileSystem where
  nodes : List (Location × Node)
  working : Location

namespace FileSystem

/-- The file system that holds nothing but one working directory under the root. -/
def ofWorking (name : String) : FileSystem := ⟨[([name], .directory)], [name]⟩

/-! ## Places -/

/-- What stands at a location. The root is always there. -/
def node? (fs : FileSystem) (location : Location) : Option Node :=
  if location = [] then some .directory
  else (fs.nodes.find? fun entry => entry.1 = location).map Prod.snd

def isDirectoryAt (fs : FileSystem) (location : Location) : Bool :=
  fs.node? location = some .directory

/-- Take away what stands at a location. -/
def clear (fs : FileSystem) (location : Location) : FileSystem :=
  { fs with nodes := fs.nodes.filter fun entry => entry.1 ≠ location }

/-- Put a node at a location, in place of what stands there. -/
def put (fs : FileSystem) (location : Location) (node : Node) : FileSystem :=
  { fs with nodes := (fs.clear location).nodes ++ [(location, node)] }

/-- The locations below a location, with what stands there. -/
def below (fs : FileSystem) (location : Location) : List (Location × Node) :=
  fs.nodes.filterMap fun (place, node) =>
    if location.isPrefixOf place && place.length > location.length then
      some (place.drop location.length, node)
    else
      none

/-! ## Paths -/

/-- The longest name of a directory's member, in bytes. -/
def nameLimit : Nat := 255

/-- The longest path, in bytes. -/
def pathLimit : Nat := 4095

/-- What is wrong with a path as a text, if anything is. -/
def textFault? (path : Path) : Option Fault :=
  if path.text.contains '\x00' then some .zeroInPath
  else if path.text.isEmpty then some .missing
  else if path.text.utf8ByteSize > pathLimit then some .nameTooLong
  else none

/-- Where a path starts to be walked. -/
def start (fs : FileSystem) (path : Path) : Location :=
  if path.text.startsWith "/" then [] else fs.working

/-- The pieces of a path that are walked; slashes side by side are one slash. -/
def steps (path : Path) : List String :=
  ((Path.cut path.text.toList).filter fun piece => !piece.isEmpty).map String.ofList

/-- Whether a path ends with a slash, and so asks for a directory. -/
def asksForDirectory (path : Path) : Bool := path.text.endsWith "/"

/-- Go from a location to the member of the given name, or stay, or go up. -/
def step (fs : FileSystem) (location : Location) (name : String) : Except Fault Location :=
  if !fs.isDirectoryAt location then .error .notDirectory
  else if name = "." then .ok location
  else if name = ".." then .ok location.dropLast
  else if name.utf8ByteSize > nameLimit then .error .nameTooLong
  else if (fs.node? (location ++ [name])).isNone then .error .missing
  else .ok (location ++ [name])

/-- Go from a location along a row of names. -/
def walk (fs : FileSystem) : Location → List String → Except Fault Location
  | location, [] => .ok location
  | location, name :: names =>
    match fs.step location name with
    | .error fault => .error fault
    | .ok next => fs.walk next names

/-- The place that a path leads to. A slash at the end is one more step, which
only a directory allows. -/
def resolve (fs : FileSystem) (path : Path) : Except Fault Location :=
  match textFault? path with
  | some fault => .error fault
  | none =>
    fs.walk (fs.start path)
      (steps path ++ if asksForDirectory path then ["."] else [])

/-- Where a path ends whose last name need not be there yet. -/
inductive Destination where
  /-- A name in a directory that is there. -/
  | member (directory : Location) (name : String)
  /-- The last step is a dot, two dots, or no step at all. -/
  | fixed
  deriving DecidableEq

/-- The directory in which a path ends, with the last name. -/
def destination (fs : FileSystem) (path : Path) : Except Fault Destination :=
  match textFault? path with
  | some fault => .error fault
  | none =>
    match (steps path).getLast? with
    | none => .ok .fixed
    | some name =>
      match fs.walk (fs.start path) (steps path).dropLast with
      | .error fault => .error fault
      | .ok directory =>
        if !fs.isDirectoryAt directory then .error .notDirectory
        else if name = "." || name = ".." then .ok .fixed
        else .ok (.member directory name)

/-- Whether a path leads to a directory. -/
def isDirectory (fs : FileSystem) (path : Path) : Bool :=
  match fs.resolve path with
  | .ok location => fs.isDirectoryAt location
  | .error _ => false

/-! ## What is put is there -/

@[simp] theorem node?_nil (fs : FileSystem) : fs.node? [] = some .directory := rfl

theorem find?_filter_ne (nodes : List (Location × Node)) (location other : Location) :
    (nodes.filter fun entry => entry.1 ≠ location).find? (fun entry => entry.1 = other) =
      if other = location then none else nodes.find? fun entry => entry.1 = other := by
  rw [List.find?_filter]
  split
  · next same =>
    rw [List.find?_eq_none]
    simp_all
  · next differ =>
    congr
    funext entry
    grind

theorem node?_clear {fs : FileSystem} {location : Location} (h : location ≠ [])
    (other : Location) :
    (fs.clear location).node? other = if other = location then none else fs.node? other := by
  by_cases top : other = []
  · simp [node?, top, Ne.symm h]
  · simp only [node?, clear, top, if_false, find?_filter_ne]
    split <;> rfl

theorem node?_put {fs : FileSystem} {location : Location} (h : location ≠ []) (node : Node)
    (other : Location) :
    (fs.put location node).node? other =
      if other = location then some node else fs.node? other := by
  by_cases top : other = []
  · simp [node?, top, Ne.symm h]
  · simp only [node?, put, clear, top, if_false, List.find?_append, find?_filter_ne]
    by_cases here : other = location
    · simp [here]
    · simp [here, Ne.symm here]

end FileSystem

end HtmlComponents
