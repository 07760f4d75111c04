import Issuer.Log.Handler
/-!
# Logging

Where events go.  Sources form a tree by the points in their names, below a root.  A source has the
level of the nearest logger that is at it or above it and has one; an event that is severe enough
goes to the handlers of that source and, unless a logger keeps its events, to those above it.
-/
namespace Issuer.Log

structure Logger where
  name : Text
  level : Int := 0
  handlers : List Handler := []
  passesOn : Bool := true

structure Logging where
  level : Int := warningLevel
  handlers : List Handler := []
  loggers : List Logger := []
  silencesOthers : Bool := false

namespace Logging

def isWithin (source name : Text) : Bool := source == name || source.startsWith (name ++ ".")

def loggersOf (l : Logging) (source : Text) : List Logger :=
  (l.loggers.filter fun g => isWithin source g.name).mergeSort fun a b =>
    decide (b.name.length ≤ a.name.length)

def levelOf (l : Logging) (source : Text) : Int :=
  (((l.loggersOf source).map Logger.level).find? (· != 0)).getD l.level

def letsThrough (l : Logging) (e : Event) : Bool :=
  !(l.silencesOthers && (l.loggersOf e.source.name).isEmpty) &&
    l.levelOf e.source.name ≤ e.severity.level

def reached (root : List Handler) : List Logger → List Handler
  | [] => root
  | g :: rest => g.handlers ++ if g.passesOn then reached root rest else []

def handlersOf (l : Logging) (source : Text) : List Handler :=
  reached l.handlers (l.loggersOf source)

def through (l : Logging) (events : List Event) : List Event := events.filter l.letsThrough

def emit (l : Logging) (disk : Disk) (e : Event) : Disk :=
  if l.letsThrough e then (l.handlersOf e.source.name).foldl (fun d h => h.emit e d) disk else disk

def emitAll (l : Logging) (events : List Event) (disk : Disk) : Disk := events.foldl l.emit disk

end Logging

/-! ## What full names stand for

A configuration names classes, and values, by modules and names in them.  Which there are depends
on what is installed; some are always there. -/

def jsonFormatters : List Text :=
  ["pythonjsonlogger.json.JsonFormatter", "pythonjsonlogger.jsonlogger.JsonFormatter"]

/-- A class of formatters: whether it tells events as JSON. -/
def formatterClass? (name : Text) : Option Bool :=
  if name = ("logging.Formatter" : Text) then some false
  else if jsonFormatters.contains name then some true
  else none

def filterClass? (name : Text) : Option Signature :=
  if name = ("logging.Filter" : Text) then some ⟨"Filter", [], false, ["name"]⟩ else none

def streams : List Text := ["sys.stderr", "sys.stdout", "sys.stdin"]

def stream? (name : Text) : Option Yaml := if streams.contains name then some .null else none

/-- What full names stand for: those that are always there unless more is installed. -/
structure Installed where
  handler? : Text → Option HandlerClass := HandlerClass.ofFullName?
  formatter? : Text → Option Bool := formatterClass?
  filter? : Text → Option Signature := filterClass?
  value? : Text → Option Yaml := stream?
  missing : Text → Fault := leadsNowhere
  refusal? : HandlerClass → Arguments → Option Fault := fun _ _ => none

/-! ## Setting up -/

/-- What setting up changes: the configuration of logging, and the files. -/
structure Setup.State where
  logging : Logging := {}
  disk : Disk

/-- A part of setting up.  What it changes before a failure stays changed. -/
abbrev Setup := ReaderT Installed (ExceptT Failure (StateM Setup.State))

namespace Setup

def fail {α : Type} (f : Fault) : Setup α := throw (.of f)

def orFail {α : Type} : Except Fault α → Setup α
  | .ok a => pure a
  | .error f => fail f

def under {α : Type} (t : Text) (part : Setup α) : Setup α :=
  tryCatch part fun f => throw (f.under (.outside .invalidValue t))

def changeLogging (f : Logging → Logging) : Setup Unit :=
  modify fun s => { s with logging := f s.logging }

/-- Makes a handler; its file may be a new one. -/
def makeHandler (kind : HandlerClass) (arguments : Arguments) : Setup Handler := do
  let (h, disk) ← orFail (Handler.make (← read).refusal? (← get).disk kind arguments)
  modify fun s => { s with disk }
  return h

def addHandler (h : Handler) (handlers : List Handler) : List Handler :=
  if h.name.isSome && handlers.any (·.name == h.name) then handlers else handlers ++ [h]

def formatterClass (name : Text) : Setup Bool := do
  match (← read).formatter? name with
  | some isJson => return isJson
  | none => fail ((← read).missing name)

/-- Whose configuration is changed: the root's, or that of a logger. -/
inductive Target where
  | root
  | logger (name : Text)
  deriving DecidableEq

/-- The target of a logger's name; the root has a name of its own, and none. -/
def Target.ofName (name : Text) : Target :=
  if name.isEmpty || name == "root" then .root else .logger name

def changeLogger (name : Text) (f : Logger → Logger) (l : Logging) : Logging :=
  if l.loggers.any (·.name == name) then
    { l with loggers := l.loggers.map fun g => if g.name = name then f g else g }
  else { l with loggers := l.loggers ++ [f { name }] }

def changeTarget (target : Target) (f : Logger → Logger) : Setup Unit :=
  match target with
  | .root => pure ()
  | .logger name => changeLogging (changeLogger name f)

def setLevel (target : Target) (level : Int) : Setup Unit :=
  changeLogging fun l => match target with
    | .root => { l with level }
    | .logger name => changeLogger name (fun g => { g with level }) l

def changeHandlers (target : Target) (f : List Handler → List Handler) : Setup Unit :=
  changeLogging fun l => match target with
    | .root => { l with handlers := f l.handlers }
    | .logger name => changeLogger name (fun g => { g with handlers := f g.handlers }) l

end Setup

end Issuer.Log
