import HtmlComponents.FileSystem.Operation
import HtmlComponents.Style.Fragment
import HtmlComponents.Trace

/-!
# Writing a stylesheet

An aggregation reads the base stylesheet, combines it with the fragments and
puts the result in its place. Whoever reads the output in the meantime sees the
old stylesheet or the new one and never a part of either: the text is written to
a temporary file beside the output, which is then given the output's name in one
step. When any part of that fails, the temporary file is removed again.

A temporary name is made of the output's name, the number of the process and a
ticket, and a process never hands out a ticket twice. So no two writers share a
temporary file.
-/

namespace HtmlComponents.Style

open HtmlComponents.FileSystem

/-! ## Why a stylesheet is not written

The steps of an aggregation that can fail, each with the path it was about and
the fault that stopped it. -/

/-- The causes for which an aggregation fails. -/
inductive Error where
  /-- The base stylesheet could not be read. -/
  | readBase (path : Path) (fault : Fault)
  /-- The output path names no file. -/
  | invalidOutput (path : Path)
  /-- The output's directory could not be made. -/
  | createDirectory (path : Path) (fault : Fault)
  /-- The stylesheet could not be put in its place. -/
  | write (path : Path) (fault : Fault)
  deriving DecidableEq

/-- A failure of a file operation, in words. -/
def Error.faulty (attempt : String) (path : Path) (fault : Fault) : String :=
  "failed to " ++ attempt ++ " " ++ path.text ++ ": " ++ fault.message

/-- The text that reports the error. -/
def Error.message : Error → String
  | readBase path fault => faulty "read base stylesheet" path fault
  | invalidOutput path => "output path has no file name: " ++ path.text
  | createDirectory path fault => faulty "create output directory" path fault
  | write path fault => faulty "write stylesheet" path fault

/-! ## Aggregations -/

/-- What came of an aggregation. -/
structure Report where
  /-- How many fragments were written. -/
  components : Nat
  output : Path
  deriving DecidableEq

/-- The line that reports an aggregation. -/
def Report.line (report : Report) : String :=
  "Rendered styles: " ++ toString report.components ++ " components → " ++
    report.output.fileName?.getD ""

/-- What an aggregation works on. -/
structure Workplace where
  files : FileSystem
  /-- The number of the process. -/
  process : Nat
  /-- The next ticket for a temporary file. -/
  ticket : Nat
  events : Array StyleEvent

/-- A step of an aggregation. The workplace stays as it is when the step fails. -/
abbrev Aggregation := ExceptT Error (StateM Workplace)

namespace Aggregation

/-- Report an event. -/
def report (event : StyleEvent) : Aggregation Unit := fun place =>
  (.ok (), { place with events := place.events.push event })

/-- A file operation, and how its failure is reported. -/
def request {α : Type} (blame : Fault → Error) (operation : Operation α) : Aggregation α :=
  fun place =>
    let (answer, files) := operation place.files
    (answer.mapError blame, { place with files := files })

/-- Take a ticket. -/
def takeTicket : Aggregation Nat := fun place =>
  (.ok place.ticket, { place with ticket := place.ticket + 1 })

end Aggregation

/-- The name of a temporary file for a file of the given name. -/
def temporaryName (name : String) (process ticket : Nat) : String :=
  "." ++ name ++ "." ++ toString process ++ "." ++ toString ticket ++ ".tmp"

/-- Write a file under a temporary path and move it into its place. -/
def tryReplace (output temporary : Path) (content : ByteArray) : Operation Unit := do
  let location ← createFile temporary
  appendBytes location content
  renameFile temporary output

/-- Replace a file in one step, leaving nothing behind if that fails. -/
def replaceFile (output temporary : Path) (content : ByteArray) : Operation Unit := fun files =>
  match tryReplace output temporary content files with
  | (.ok (), files) => (.ok (), files)
  | (.error fault, files) => (.error fault, (removeFile temporary files).2)

/-- The directory that has to be there for an output, unless it is the one where
one is. -/
def outputDirectory? (output : Path) : Option Path :=
  output.parent?.filter fun directory => !directory.text.isEmpty

/-- Write the stylesheet of the given fragments. The first part that fails ends
it, and the order of the parts is the order in which failures count. -/
def aggregate (fragments : List Fragment) (base output : Path) (banner : String) :
    Aggregation Report := do
  let some name := output.fileName? | throw (.invalidOutput output)
  Aggregation.report (.aggregating base.text fragments.length)
  let text ← Aggregation.request (.readBase base) (look fun files => files.text base)
  match outputDirectory? output with
  | none => pure ()
  | some directory =>
    Aggregation.request (.createDirectory directory) (createDirectories directory)
  let ticket ← Aggregation.takeTicket
  let temporary := output.sibling (temporaryName name (← get).process ticket)
  Aggregation.request (.write output)
    (replaceFile output temporary (combine text banner fragments).toUTF8)
  let report : Report := ⟨fragments.length, output⟩
  Aggregation.report (.aggregated report.line)
  return report

end HtmlComponents.Style
