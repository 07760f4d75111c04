import Issuer.Program
/-!
# The command line

Runs the program on its arguments, the environment and the files below the working directory, and
tells how the run went.  Neither a network nor a database is in reach: no request finds a route,
and no connection to a database can be opened.
-/
namespace Issuer.Main

def variableNames : List Text :=
  (CommandLine.flagsOf CommandLine.Group.all).filterMap CommandLine.Flag.variableName? ++
    [CommandLine.Environment.homeVariable, Log.Setup.levelVariable]

def environment : IO CommandLine.Environment := do
  let mut set := []
  for name in variableNames do
    if let some value ← IO.getEnv name.toString then
      set := set ++ [(name, Text.ofString value)]
  return { assigned := set }

/-- The files at an entry of a directory and below it, under the components of its path.  Links
are not followed. -/
partial def filesAt (above : List Text) (entry : IO.FS.DirEntry) :
    IO (List (List Text × Bytes)) := do
  let place := above ++ [Text.ofString entry.fileName]
  match (← entry.path.symlinkMetadata).type with
  | .dir => return (← (← entry.path.readDir).toList.mapM (filesAt place)).flatten
  | .file => return [(place, (← IO.FS.readBinFile entry.path).toList)]
  | _ => return []

def workingDisk : IO Disk := do
  let current ← IO.currentDir
  let workingDirectory := Disk.components (Text.ofString current.toString)
  let entries ← current.readDir
  return { files := (← entries.toList.mapM (filesAt workingDirectory)).flatten, workingDirectory }

def writeChanges (before after : Disk) : IO Unit :=
  for (place, bytes) in after.files do
    if before.file? place != some bytes then
      IO.FS.writeBinFile ("/" ++ Text.join "/" place).toString ⟨bytes.toArray⟩

def noNetwork : Network := fun _ => .trouble .connection (.outside .invalidValue "no route")

def noDatabase : Database.Plan := fun step =>
  if step = .openBackend then some ⟨⟨true, .outside .invalidValue "no database driver"⟩, none⟩
  else none

def report : Program.Ending → IO UInt32
  | .done | .helped => return 0
  | .refused program refusal => do
    IO.eprintln (Text.toString (program ++ ": error: " ++ refusal.message))
    return 2
  | .failed failure => do
    IO.eprintln failure.rollUp.toString
    return 1

def helpLines : List Text := Command.all.map fun c => c.name ++ "  " ++ c.summary

end Issuer.Main

open Issuer Issuer.Main in
def main (arguments : List String) : IO UInt32 := do
  let disk ← workingDisk
  let surroundings : Program.Surroundings :=
    { env := ← environment, disk, network := noNetwork, plan := noDatabase, applied := [] }
  let outcome := Program.run surroundings (arguments.map Text.ofString)
  for program in outcome.helps do
    IO.println (Text.toString (Text.join "\n" (("usage: " ++ program) :: helpLines)))
  IO.print outcome.output.toString
  writeChanges disk outcome.disk
  report outcome.ending
