import Issuer.CommandLine.Environment
import Issuer.CommandLine.Reading
import Issuer.Text.Blank
import Issuer.Yaml.Read
/-!
# Variables and argument files

Besides its arguments a command line has variables of the environment and an argument file.  Both
are turned into arguments, which stand before those of the command line; so what is read later
wins.  A flag that the command line holds is taken from nowhere else, and one that a variable gives
is not taken from the file.
-/
namespace Issuer.CommandLine

/-! ## Arguments from values -/

def assignment (spelling value : Text) : Text := spelling ++ "=" ++ value

def spellingsIn (arguments : List Text) : List Text :=
  arguments.map fun t => if t.startsWith "-" then (splitEquals t).1 else t

def holds (arguments : List Text) (spellings : List Text) : Bool :=
  (spellingsIn arguments).any spellings.contains

def argumentsOfText (flag : Flag) (key value : Text) : Except Refusal (List Text) :=
  if flag.arity = .switch then
    match switchWords.lookup (value.map CodePoint.asciiLower) with
    | some true => .ok [flag.long]
    | some false => .ok []
    | none => .error (.notSwitch key value)
  else .ok [assignment flag.long value]

/-! ## Variables -/

def variablesFor (flags : List Flag) (env : Environment) (arguments : List Text) :
    List (Flag × Text × Text) :=
  flags.filterMap fun f => do
    let name ← f.variableName?
    let value ← env.lookup name
    if holds arguments f.spellings then none else some (f, name, value)

def argumentsOfVariables : List (Flag × Text × Text) → Except Refusal (List Text)
  | [] => .ok []
  | (f, name, value) :: rest => do
    let arguments ← argumentsOfText f name value
    return arguments ++ (← argumentsOfVariables rest)

/-! ## The argument file -/

abbrev Entries := List (Yaml × Yaml)

/-- The flag that a key stands for: its long spelling, with the dashes or without. -/
def flagOfKey? (flags : List Flag) : Yaml → Option Flag
  | .str key => flags.find? fun f => f.long == key || f.long == "--" ++ key
  | _ => none

def unknownSpelling : Yaml → Except Fault Text
  | .str key => .ok ("--" ++ Text.dropWhileEnd (· == '-') (key.dropWhile (· == '-')))
  | key =>
    .error (.outside .missingOperation
      ("'" ++ key.fullKindName ++ "' object has no attribute 'strip'"))

def argumentsOfList (flag : Option Flag) (key spelling : Text) (items : List Yaml) :
    Except Stop (List Text) :=
  let each := items.map fun v => assignment spelling v.display
  match flag with
  | none => .ok each
  | some f =>
    match f.arity with
    | .each => .ok each
    | .one | .nothing => .error (.refused (.needlessList key (Yaml.list items).display))
    | .switch =>
      .error (.fault (.outside .missingOperation "'list' object has no attribute 'lower'"))

/-- The arguments that a value under a key gives; null gives none. -/
def argumentsOfValue (flag : Option Flag) (key spelling : Text) : Yaml → Except Stop (List Text)
  | .null => .ok []
  | .list items => argumentsOfList flag key spelling items
  | v =>
    match flag with
    | some f => (argumentsOfText f key v.display).mapError .refused
    | none => .ok [assignment spelling v.display]

/-- The arguments that one entry of a file gives, and whether they are of a flag that collects.
The arguments `before` are those of the command line and of the variables `given`. -/
def argumentsOfEntry (flags given : List Flag) (before : List Text) (key value : Yaml) :
    Except Stop (List Text × Bool) := do
  match flagOfKey? flags key with
  | some f =>
    if given.contains f || holds before f.spellings || value matches .null then return ([], false)
    return (← argumentsOfValue (some f) key.display f.long value, f.arity = .each)
  | none =>
    if value matches .null then return ([], false)
    let spelling ← (unknownSpelling key).mapError .fault
    if holds before [spelling] then return ([], false)
    return (← argumentsOfValue none key.display spelling value, false)

def argumentsOfEntries (flags given : List Flag) (before : List Text) :
    Entries → Except Stop (List Text × Bool)
  | [] => .ok ([], false)
  | (key, value) :: rest => do
    let (first, collects) ← argumentsOfEntry flags given before key value
    let (others, collect) ← argumentsOfEntries flags given before rest
    return (first ++ others, collects || collect)

/-! ## Finding the file -/

/-- The path of the argument file: what the arguments give, read as if they held nothing else. -/
def argumentFile? (flags : List Flag) (env : Environment) (arguments : List Text) : Option Text :=
  if !flags.contains .argumentFile then none
  else
    match (read [.argumentFile] arguments).1.last? .argumentFile with
    | none | some [] => none
    | some path => some (env.expandHome path)

def openingReason (path : Text) : Disk.Problem → Text
  | .missing => "[Errno 2] No such file or directory: " ++ path.quoted
  | .isDirectory => "[Errno 21] Is a directory: " ++ path.quoted
  | .notDirectory => "[Errno 20] Not a directory: " ++ path.quoted
  | .zero => "embedded null byte"
  | .surrogate => "surrogates not allowed"

def entriesOfText (path : Text) (t : Text) : Except Refusal Entries :=
  match Yaml.ofText .lenient t with
  | .ok (.map pairs) => .ok pairs
  | .ok v => .error (.notKeyed path v.kindName)
  | .error _ => .error .unreadableFile

def openFile (disk : Disk) (path : Text) : Except Refusal Bytes :=
  (disk.read path).mapError fun p => .unopenedFile path (openingReason path p)

def readEntries (disk : Disk) (path : Text) : Except Stop Entries := do
  let bytes ← (openFile disk path).mapError .refused
  match Utf8.decode? false bytes with
  | none => throw (.refused .unreadableFile)
  | some t => (entriesOfText path t.joinReturns).mapError .refused

/-! ## All sources -/

def withVariables (flags : List Flag) (env : Environment) (arguments : List Text) :
    Except Refusal (List Text) := do
  return (← argumentsOfVariables (variablesFor flags env arguments)) ++ arguments

/-- The arguments with those of a file's entries before them; after them if some of the entries
collect. -/
def withEntries (flags given : List Flag) (entries : Entries) (arguments : List Text) :
    Except Stop (List Text) := do
  let (others, collect) ← argumentsOfEntries flags given arguments entries
  return if collect then arguments ++ others else others ++ arguments

/-- All arguments: those of the command line, of the variables and of the argument file, whose
entries `entriesOf` knows.  Where help is asked for in full the file is not looked at. -/
def allArguments (flags : List Flag) (env : Environment)
    (entriesOf : Text → Except Stop Entries) (arguments : List Text) :
    Except Stop (List Text) := do
  let given := (variablesFor flags env arguments).map (·.1)
  let before ← (withVariables flags env arguments).mapError .refused
  if asksHelp before then return before
  match argumentFile? flags env before with
  | none => return before
  | some path => withEntries flags given (← entriesOf path) before
where
  asksHelp (arguments : List Text) : Bool := arguments.any Flag.help.spellings.contains

def parse (flags : List Flag) (env : Environment) (entriesOf : Text → Except Stop Entries)
    (arguments : List Text) : Except Stop Given := do
  let all ← allArguments flags env entriesOf arguments
  match read flags all with
  | (g, none) => return g
  | (_, some stop) => throw stop

def parseAll (flags : List Flag) (env : Environment) (entriesOf : Text → Except Stop Entries)
    (arguments : List Text) : Except Stop Given := do
  let g ← parse flags env entriesOf arguments
  if !g.extras.isEmpty then throw (.refused (.unrecognized g.extras))
  return g

end Issuer.CommandLine
