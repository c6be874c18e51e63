import HtmlComponents.FileSystem.Store

/-!
# File operations

What a process can ask of a file system. An operation does its work or fails and
changes nothing; making the directories of a path is the exception, since it
makes them one by one and keeps those it made.

A file is written through its location, which creating it gives back. So a
writer goes on writing to the file it created, and what is written comes in
pieces of which each is an operation of its own.
-/

namespace HtmlComponents

namespace FileSystem

/-- A request to a file system. The file system is kept also when it fails. -/
abbrev Operation := ExceptT Fault (StateM FileSystem)

/-- An operation that only looks. -/
def look {α : Type} (question : FileSystem → Except Fault α) : Operation α := fun fs =>
  (question fs, fs)

/-- The bytes of the file that a path leads to. -/
def bytes (fs : FileSystem) (path : Path) : Except Fault ByteArray :=
  match fs.resolve path with
  | .error fault => .error fault
  | .ok location =>
    match fs.node? location with
    | some (.file content) => .ok content
    | some .directory => .error .isDirectory
    | none => .error .missing

/-- The text of the file that a path leads to. -/
def text (fs : FileSystem) (path : Path) : Except Fault String :=
  match fs.bytes path with
  | .error fault => .error fault
  | .ok content =>
    match String.fromUTF8? content with
    | some text => .ok text
    | none => .error .notText

/-- The location and the node to which the last name of a path leads, the name
being one that a directory can hold. -/
def occupant (fs : FileSystem) (directory : Location) (name : String) :
    Except Fault (Location × Option Node) :=
  if name.utf8ByteSize > nameLimit then .error .nameTooLong
  else .ok (directory ++ [name], fs.node? (directory ++ [name]))

/-- Make a directory in a directory that is there. -/
def createDirectory (path : Path) : Operation Unit := fun fs =>
  match fs.destination path with
  | .error fault => (.error fault, fs)
  | .ok .fixed => (.error .occupied, fs)
  | .ok (.member directory name) =>
    match fs.occupant directory name with
    | .error fault => (.error fault, fs)
    | .ok (_, some _) => (.error .occupied, fs)
    | .ok (location, none) => (.ok (), fs.put location .directory)

/-- Create a file, or empty the file that is there, and give its location. -/
def createFile (path : Path) : Operation Location := fun fs =>
  match fs.destination path with
  | .error fault => (.error fault, fs)
  | .ok .fixed => (.error .isDirectory, fs)
  | .ok (.member directory name) =>
    if asksForDirectory path then (.error .isDirectory, fs)
    else
      match fs.occupant directory name with
      | .error fault => (.error fault, fs)
      | .ok (_, some .directory) => (.error .isDirectory, fs)
      | .ok (location, _) => (.ok location, fs.put location (.file ByteArray.empty))

/-- Write bytes behind those that a file holds. -/
def appendBytes (location : Location) (more : ByteArray) : Operation Unit := fun fs =>
  match fs.node? location with
  | some (.file content) => (.ok (), fs.put location (.file (content ++ more)))
  | some .directory => (.error .isDirectory, fs)
  | none => (.error .missing, fs)

/-- Move a file to another name, in place of the file that bears it. -/
def renameFile (source target : Path) : Operation Unit := fun fs =>
  match fs.destination source with
  | .error fault => (.error fault, fs)
  | .ok from? =>
    match fs.destination target with
    | .error fault => (.error fault, fs)
    | .ok to? =>
      match from?, to? with
      | .fixed, _ | _, .fixed => (.error .busy, fs)
      | .member fromDirectory fromName, .member toDirectory toName =>
        match fs.occupant fromDirectory fromName with
        | .error fault => (.error fault, fs)
        | .ok (_, none) => (.error .missing, fs)
        | .ok (_, some .directory) => (.error .isDirectory, fs)
        | .ok (old, some (.file content)) =>
          match fs.occupant toDirectory toName with
          | .error fault => (.error fault, fs)
          | .ok (new, there) =>
            if asksForDirectory source || asksForDirectory target then
              (.error .notDirectory, fs)
            else if there = some .directory then (.error .isDirectory, fs)
            else (.ok (), (fs.clear old).put new (.file content))

/-- Remove a file. -/
def removeFile (path : Path) : Operation Unit := fun fs =>
  match fs.destination path with
  | .error fault => (.error fault, fs)
  | .ok .fixed => (.error .isDirectory, fs)
  | .ok (.member directory name) =>
    match fs.occupant directory name with
    | .error fault => (.error fault, fs)
    | .ok (_, none) => (.error .missing, fs)
    | .ok (_, some .directory) => (.error .isDirectory, fs)
    | .ok (location, some (.file _)) =>
      if asksForDirectory path then (.error .notDirectory, fs)
      else (.ok (), fs.clear location)

/-- What comes of trying to make a directory that may be there already. -/
def settle (path : Path) : Except Fault Unit × FileSystem → Except Fault Unit × FileSystem
  | (.ok (), fs) => (.ok (), fs)
  | (.error fault, fs) => (if fs.isDirectory path then .ok () else .error fault, fs)

/-- Make the directory of a path, and first those on the way that are missing.
The empty path needs none. -/
def createDirectories (path : Path) : Operation Unit := fun fs =>
  if path.text.isEmpty then (.ok (), fs)
  else
    match createDirectory path fs with
    | (.error .missing, fs) =>
      match _parent : path.parent? with
      | none => (.error .missing, fs)
      | some above =>
        match createDirectories above fs with
        | (.ok (), fs) => settle path (createDirectory path fs)
        | failed => failed
    | tried => settle path tried
termination_by path.text.length
decreasing_by exact Path.length_parent_lt ‹_›

/-- Write a file as a whole. -/
def writeFile (path : Path) (content : ByteArray) : Operation Unit := do
  let location ← createFile path
  appendBytes location content

end FileSystem

end HtmlComponents
