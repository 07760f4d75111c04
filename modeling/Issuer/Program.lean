import Issuer.CommandLine.Help
import Issuer.CommandLine.Selection
import Issuer.Database.Migration
import Issuer.Inspection
import Issuer.Json.Write
import Issuer.Log.Configure
/-!
# The program

A run of the program: the first argument names a command, or help is meant; the command's flags
give settings; logging is configured; the command acts.  A run is described by how it ends, by what
it writes and shows, by the requests it makes, by its effects on the database and by the files
afterwards.
-/
namespace Issuer.Program

open CommandLine (Category Environment Given Group Refusal Stop)

def name : Text := "issuer-node"

def nameWith (c : Category) : Text := name ++ " " ++ (Command.ofCategory c).name

structure Surroundings where
  env : Environment
  disk : Disk
  network : Network
  plan : Database.Plan
  applied : List Text
  machine : Machine := {}

/-! ## Outcomes -/

inductive Ending where
  | done
  | helped
  | refused (program : Text) (refusal : Refusal)
  | failed (failure : Failure)

structure Outcome where
  ending : Ending := .done
  helps : List Text := []
  output : Text := []
  requests : List Request := []
  effects : List Database.Effect := []
  events : List Log.Event := []
  logging : Log.Logging := {}
  disk : Disk

def Outcome.ofStop (disk : Disk) (program : Text) : Stop → Outcome
  | .help => { ending := .helped, helps := [program], disk }
  | .refused refusal => { ending := .refused program refusal, disk }
  | .fault f => { ending := .failed (.of f), disk }

/-! ## Commands that act -/

/-- What a command does: what it writes, unless it fails, and what happens meanwhile. -/
structure Deed where
  result : Except Failure Text
  requests : List Request := []
  effects : List Database.Effect := []
  events : List Log.Event := []

def migrate (s : Surroundings) (settings : Settings) : Deed :=
  let (result, progress) := (s.plan.backend s.disk).runMigrations settings s.applied
  { result := result.map fun () => []
    effects := progress.effects
    events := progress.events }

def inspect (s : Surroundings) (settings : Settings) : Deed :=
  let (result, activity) := Inspection.ofSettings s.network s.disk settings s.machine
  { result := result.map fun report => Json.write (.indented 2) report.toJson ++ "\n"
    requests := activity.requests
    events := activity.events }

def act (s : Surroundings) (settings : Settings) : Category → Deed
  | .migrate => migrate s settings
  | .schema => inspect s settings

/-- The outcome of a deed: the events that are let through are written to files. -/
def Outcome.ofDeed (logging : Log.Logging) (disk : Disk) (deed : Deed) : Outcome :=
  let written := match deed.result with
    | .ok output => output
    | .error _ => []
  { ending := match deed.result with
      | .ok _ => .done
      | .error failure => .failed failure
    output := written
    requests := deed.requests
    effects := deed.effects
    events := logging.through deed.events
    logging
    disk := logging.emitAll deed.events disk }

def runWith (s : Surroundings) (c : Category) (settings : Settings) : Outcome :=
  match Log.configure settings s.env s.disk with
  | (.error failure, logging, disk) => { ending := .failed failure, logging, disk }
  | (.ok (), logging, disk) => .ofDeed logging disk (act { s with disk } settings c)

/-- Runs the command of a category.  Where its flags make up no settings its help is shown. -/
def runCategory (s : Surroundings) (c : Category) (arguments : List Text) : Outcome :=
  let groups := Group.ofCategory c
  let entriesOf := CommandLine.readEntries s.disk
  match CommandLine.parseAll (CommandLine.flagsOf groups) s.env entriesOf arguments with
  | .error stop => .ofStop s.disk (nameWith c) stop
  | .ok given =>
    match CommandLine.settingsOf groups given with
    | .error problem =>
      { ending := .failed problem.failure, helps := [nameWith c], disk := s.disk }
    | .ok settings => runWith s c settings

/-! ## Runs -/

def runHelp (s : Surroundings) (arguments : List Text) : Outcome :=
  match CommandLine.readHelp s.env s.disk arguments with
  | .error stopped => .ofStop s.disk ((stopped.category.map nameWith).getD name) stopped.stop
  | .ok given =>
    if given.has .version then { output := version ++ "\n", disk := s.disk }
    else { helps := [name], disk := s.disk }

/-- Runs a command; a name that no command has means help. -/
def runCommand (s : Surroundings) (command : Text) (arguments : List Text) : Outcome :=
  match Command.actingCategory? command with
  | some c => runCategory s c arguments
  | none => runHelp s arguments

/-- Runs the program.  The first argument names the command unless it is empty or starts with a
dash. -/
def run (s : Surroundings) (arguments : List Text) : Outcome :=
  match arguments with
  | (c :: rest) :: others =>
    if c = '-' then runHelp s arguments else runCommand s (c :: rest) others
  | _ => runHelp s arguments

end Issuer.Program
