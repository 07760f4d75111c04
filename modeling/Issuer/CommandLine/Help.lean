import Issuer.Command
import Issuer.CommandLine.KeyLines
/-!
# Asking for help

A command line for help has flags of its own, and may go on with the name of a command and
arguments for it.  Those are read as the command would read them, except that an argument file
consists of plain lines; then help is shown all the same.
-/
namespace Issuer.CommandLine

def helpFlags : List Flag := [.help, .version]

def flagsOfCategory (c : Category) : List Flag := flagsOf (Group.ofCategory c)

/-- The arguments before the name of a command, and that name with the arguments after it.  A
double dash counts as a name, unless nothing follows it. -/
def splitAtCommand : List Argument → List Argument × Option (Text × List Text)
  | [] => ([], none)
  | (t, .separator) :: [] => ([(t, .separator)], none)
  | (t, look) :: rest =>
    if look = .itself || look = .separator then ([], some (t, rest.map (·.1)))
    else
      let (before, command) := splitAtCommand rest
      ((t, look) :: before, command)

structure HelpStop where
  category : Option Category
  stop : Stop

/-- Reads the arguments of a command whose help is asked for; those without a meaning are left. -/
def readCommand (env : Environment) (disk : Disk) (name : Text) (arguments : List Text) :
    Except HelpStop (List Text) :=
  match Command.actingCategory? name with
  | none => .error ⟨none, .refused (.badChoice name Command.actingNames)⟩
  | some c =>
    match parse (flagsOfCategory c) env (readKeyLines disk) arguments with
    | .error stop => .error ⟨some c, stop⟩
    | .ok given => .ok given.extras

def readHelp (env : Environment) (disk : Disk) (arguments : List Text) : Except HelpStop Given := do
  let looked ← (looks helpFlags arguments).mapError fun r => ⟨none, .refused r⟩
  let (before, command) := splitAtCommand looked
  match consume helpFlags {} before with
  | (_, some stop) => throw ⟨none, stop⟩
  | (given, none) =>
    let left ← match command with
      | none => pure []
      | some (name, arguments) => readCommand env disk name arguments
    match given.extras ++ left with
    | [] => return given
    | extras => throw ⟨none, .refused (.unrecognized extras)⟩

end Issuer.CommandLine
