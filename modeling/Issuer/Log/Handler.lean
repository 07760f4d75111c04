import Issuer.Disk
import Issuer.Fault.Signature
import Issuer.Log.Format
import Issuer.Yaml.Basic
/-!
# Handlers

A handler writes the events that reach it: to a stream, to the end of a file, or nowhere.  It is
made from arguments, as its class takes them.
-/
namespace Issuer.Log

/-! ## Levels -/

def levels : List (Text × Int) := [
  ("CRITICAL", 50), ("FATAL", 50), ("ERROR", 40), ("WARN", 30), ("WARNING", 30), ("INFO", 20),
  ("DEBUG", 10), ("NOTSET", 0)]

def warningLevel : Int := 30

def levelOfName (name : Text) : Except Fault Int :=
  match levels.lookup name with
  | some level => .ok level
  | none => .error (.outside .invalidValue ("Unknown level: " ++ name.quoted))

def levelOfValue : Yaml → Except Fault Int
  | .int n => .ok n
  | .bool b => .ok (if b then 1 else 0)
  | .str name => levelOfName name
  | v => .error (.outside .wrongType ("Level not an integer or a valid string: " ++ v.inspect))

/-! ## Classes -/

structure HandlerClass where
  home : Text
  name : Text
  required : List Text
  optional : List Text
  deriving DecidableEq, Repr

namespace HandlerClass

def loggingModule : Text := "logging"

def handlersModule : Text := "logging.handlers"

def stream : HandlerClass := ⟨loggingModule, "StreamHandler", [], ["stream"]⟩

def file : HandlerClass :=
  ⟨loggingModule, "FileHandler", ["filename"], ["mode", "encoding", "delay", "errors"]⟩

def nowhere : HandlerClass := ⟨loggingModule, "NullHandler", [], ["level"]⟩

def bySize : HandlerClass :=
  ⟨handlersModule, "RotatingFileHandler", ["filename"],
    ["mode", "maxBytes", "backupCount", "encoding", "delay", "errors"]⟩

def byTime : HandlerClass :=
  ⟨handlersModule, "TimedRotatingFileHandler", ["filename"],
    ["when", "interval", "backupCount", "encoding", "delay", "utc", "atTime", "errors"]⟩

def watched : HandlerClass :=
  ⟨handlersModule, "WatchedFileHandler", ["filename"], ["mode", "encoding", "delay", "errors"]⟩

def all : List HandlerClass := [stream, file, nowhere, bySize, byTime, watched]

def fullName (c : HandlerClass) : Text := c.home ++ "." ++ c.name

def writesFile (c : HandlerClass) : Bool := c.required.contains "filename"

/-- The class whose arguments a class takes: that of all handlers, for one without its own. -/
def maker (c : HandlerClass) : Text := if c = nowhere then "Handler" else c.name

def signature (c : HandlerClass) : Signature := ⟨c.maker, c.required, false, c.optional⟩

def ofFullName? (name : Text) : Option HandlerClass := all.find? fun c => c.fullName == name

end HandlerClass

def systemModule : Text := "sys"

def noModule (name : Text) : Text :=
  let parts := name.split '.'
  let upTo (n : Nat) : Text := "No module named " ++ (Text.join "." (parts.take n)).quoted
  let inside (module : Text) (n : Nat) : Text :=
    upTo n ++ "; " ++ module.quoted ++ " is not a package"
  if parts.take 1 = [systemModule] then inside systemModule 2
  else if parts.take 1 != [HandlerClass.loggingModule] then upTo 1
  else if parts.take 2 = HandlerClass.handlersModule.split '.' then
    inside HandlerClass.handlersModule 3
  else upTo 2

def leadsNowhere (name : Text) : Fault :=
  if name.isEmpty || name.head? == some '.' then .outside .invalidValue "Empty module name"
  else .outside .moduleMissing (noModule name)

/-! ## Making handlers -/

structure Handler where
  kind : HandlerClass
  name : Option Text := none
  level : Int := 0
  format : Option Format := none
  path : Option Text := none
  /-- The sources that it takes events of, with all below them; all if there is none. -/
  filters : List Text := []

abbrev Arguments := List (Text × Yaml)

def Arguments.get? (arguments : Arguments) (name : Text) : Option Yaml := arguments.lookup name

def noPath (kind : Text) : Fault :=
  .outside .wrongType ("expected str, bytes or os.PathLike object, not " ++ kind)

def pathArgument : Option Yaml → Except Fault Text
  | some (.str path) => .ok (Disk.straighten path)
  | some v => .error (noPath v.kindName)
  | none => .ok []

/-- Opens the file of a handler, unless that is put off; the mode `w` empties it. -/
def openFile (disk : Disk) (path : Text) (arguments : Arguments) : Except Fault Disk :=
  if ((arguments.get? "delay").map Yaml.isTruthy).getD false then .ok disk
  else do
    let (disk, place) ← (disk.create path).mapError Disk.Problem.fault
    match arguments.get? "mode" with
    | some (.str ('w' :: _)) => return disk.clear place
    | _ => return disk

def misfit (kind : HandlerClass) (p : Signature.Problem) : Fault :=
  .outside .wrongType (p.message kind.maker)

def Handler.make (refusal? : HandlerClass → Arguments → Option Fault) (disk : Disk)
    (kind : HandlerClass) (arguments : Arguments) : Except Fault (Handler × Disk) := do
  let named : Members := arguments.map fun (name, _) => (name, .null)
  let _ ← (kind.signature.bind [] named).mapError (misfit kind)
  if let some fault := refusal? kind arguments then throw fault
  if !kind.writesFile then
    let level ← match arguments.get? "level" with
      | some level => levelOfValue level
      | none => pure 0
    return ({ kind, level }, disk)
  let path ← pathArgument (arguments.get? "filename")
  let disk ← openFile disk path arguments
  return ({ kind, path := some path }, disk)

def tooManyArguments (kind : HandlerClass) (given : Nat) : Fault :=
  let least := kind.required.length + 1
  let most := least + kind.optional.length
  .outside .wrongType (kind.maker ++ ".__init__() takes from " ++ Text.ofNat least ++ " to " ++
    Text.ofNat most ++ " positional arguments but " ++ Text.ofNat (given + 1) ++ " were given")

def nameArguments (kind : HandlerClass) (positional : List Yaml) (named : Arguments) :
    Except Fault Arguments := do
  let names := kind.required ++ kind.optional
  let given := names.zip positional
  (kind.signature.checkKeywords (given.map (·.1)) (named.map (·.1))).mapError (misfit kind)
  if names.length < positional.length then throw (tooManyArguments kind positional.length)
  return given ++ named

/-! ## Writing -/

def Handler.takes (h : Handler) (e : Event) : Bool :=
  h.level ≤ e.severity.level && h.filters.all fun name =>
    name.isEmpty || e.source.name == name || e.source.name.startsWith (name ++ ".")

/-- The line that a handler writes for an event; without a format it is the message. -/
def Handler.line? (h : Handler) (e : Event) : Option Text :=
  match h.format with
  | none => some e.message
  | some f => f.line? e

def Handler.emit (h : Handler) (e : Event) (disk : Disk) : Disk :=
  match h.takes e, h.path, h.line? e with
  | true, some path, some line =>
    match disk.create path with
    | .ok (disk, place) => disk.append place (Utf8.encodeAll (line ++ "\n"))
    | .error _ => disk
  | _, _, _ => disk

end Issuer.Log
