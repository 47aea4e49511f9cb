import Phrasebook.Command.Run

/-!
# The program

The command line on real files. The names of the files of the project are read from standard input,
one a line, as version control lists them; other files are not seen.

Nothing is sent to a translation service here: that takes a connection, which is not part of this
program.
-/

namespace Phrasebook.Main

/-- The lines of a stream up to its end. -/
partial def readLines (stream : IO.FS.Stream) (lines : List String) : IO (List String) := do
  let line ← stream.getLine
  if line.isEmpty then return lines.reverse
  readLines stream (String.ofList (line.toList.filter (· ≠ '\n')) :: lines)

/-- A file that can be read, seen from a folder. -/
def readFile (folder : Path) (name : String) : IO (Option (Path × Content)) := do
  let path := folder.join name
  try
    let bytes ← IO.FS.readBinFile path.text
    match String.fromUTF8? bytes with
    | some text => return some (path, .text text)
    | none => return some (path, .bytes bytes.toList)
  catch _ => return none

/-- Write a file that has changed. -/
def saveFile (path : Path) (content : Content) : IO Unit := do
  if let some folder := path.parent? then IO.FS.createDirAll folder.text
  match content with
  | .text text => IO.FS.writeFile path.text text
  | .bytes bytes => IO.FS.writeBinFile path.text ⟨bytes.toArray⟩

/-- The location of an absolute path. -/
def locationOf (path : Path) : Location :=
  path.components.filterMap fun component =>
    match component with
    | .name text => some text
    | _ => none

/-- Messages reach no service. -/
def send (message : ServiceMessage) : Except SendFault ServiceReply := do
  throw (.unreachable (← Service.address message))

/-- Why there is nothing to do. -/
def refusal : ArgumentFault → String
  | .displayHelp => Command.help
  | .displayVersion => "loctext 0.1.0\n"
  | .invalidSubcommand => "error: unrecognized subcommand\n"
  | .unknownArgument => "error: unexpected argument\n"
  | .invalidValue => "error: invalid value\n"
  | .argumentConflict => "error: the argument cannot be used multiple times\n"
  | .tooManyValues => "error: unexpected value\n"

end Phrasebook.Main

open Phrasebook

/-- Carry the command line out. -/
def main (arguments : List String) : IO UInt32 := do
  let here : Path := ⟨toString (← IO.currentDir)⟩
  let names ← Main.readLines (← IO.getStdin) []
  let files ← names.filterMapM (Main.readFile here)
  let tree := FileTree.ofFiles (Main.locationOf here) files
  let terminal : Terminal := ⟨(← IO.getEnv "NO_COLOR").isNone && (← (← IO.getStdout).isTty)⟩
  let setting : CommandSetting := ⟨terminal, ← IO.getEnv keyVariable, Main.send⟩
  let (outcome, after) := (CommandOutcome.ofLine setting arguments).run tree
  for (location, content) in tree.difference after do
    if let some content := content then Main.saveFile (FileTree.pathOf location) content
  IO.print (outcome.output terminal)
  IO.eprint outcome.notes
  match outcome with
  | .refused fault => IO.eprint (Main.refusal fault)
  | .givenUp fault _ => IO.eprintln ("Error: " ++ fault.message)
  | _ => pure ()
  return outcome.exitCode.toUInt32
