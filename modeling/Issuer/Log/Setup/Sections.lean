import Issuer.Ini
import Issuer.Log.Logging
import Issuer.Log.Setup.Expression
import Issuer.Text.Letter
/-!
# Logging from a file of sections

The sections `formatters`, `handlers` and `loggers` list names; each name has a section of its own.
The root is one of the loggers, and is configured first.
-/
namespace Issuer.Log.Setup

def option (ini : Ini) (name key : Text) : Setup Text :=
  orFail ((ini.value name key).mapError Ini.Absence.fault)

def optionOr (ini : Ini) (name key default : Text) : Setup Text :=
  orFail ((ini.valueOr name key default).mapError Ini.Absence.fault)

def splitNames (t : Text) : List Text := (t.split ',').map Text.strip

/-- The names that a text lists; an empty text lists none. -/
def listedNames (t : Text) : List Text := if t.isEmpty then [] else splitNames t

def requireSection (ini : Ini) (name : Text) : Setup Unit :=
  if (ini.sections.lookup name).isSome then pure ()
  else fail (Ini.Absence.noSection name).fault

abbrev Listed (α : Type) := List (Text × α)

def makeListed {α : Type} (make : Text → Setup α) : List Text → Setup (Listed α)
  | [] => return []
  | name :: rest => do
    let thing ← make name
    return (name, thing) :: (← makeListed make rest)

def listed {α : Type} (things : Listed α) (name : Text) : Setup α :=
  match things.lookup name with
  | some a => pure a
  | none => fail (.outside .missingKey name)

def sectionFormat (ini : Ini) (name : Text) : Setup Format := do
  let s : Text := "formatter_" ++ name
  requireSection ini s
  let named ← optionOr ini s "class" ""
  let isJson ← if named.isEmpty then pure false else formatterClass named
  orFail (Format.make (ini.raw? s "format") ((ini.raw? s "style").getD "%") true isJson)

def sectionHandlerClass (name : Text) : Setup HandlerClass := do
  if name.isEmpty then fail Expression.Problem.empty.fault
  let installed ← read
  match (installed.handler? (HandlerClass.loggingModule ++ "." ++ name)).or
      (installed.handler? name) with
  | some kind => pure kind
  | none => fail (installed.missing name)

/-- The arguments by position that a value is: the items of a list, the keys of a mapping, the code
points of a text. -/
def positionalOf (kind : HandlerClass) : Yaml → Except Fault (List Yaml)
  | .list items => .ok items
  | .map pairs => .ok (pairs.map (·.1))
  | .str t => .ok (t.map fun c => .str [c])
  | v => .error (.outside .wrongType
      (kind.fullName ++ "() argument after * must be an iterable, not " ++ v.kindName))

def keywordsOf (kind : HandlerClass) : Yaml → Except Fault Arguments
  | .map pairs => pairs.mapM fun
    | (.str name, v) => .ok (name, v)
    | _ => .error (.outside .wrongType "keywords must be strings")
  | v => .error (.outside .wrongType
      (kind.fullName ++ "() argument after ** must be a mapping, not " ++ v.kindName))

def sectionArguments (ini : Ini) (s : Text) (kind : HandlerClass) : Setup Arguments := do
  let args ← orFail (Expression.evaluate (← optionOr ini s "args" "()"))
  let kwargs ← orFail (Expression.evaluate (← optionOr ini s "kwargs" "\x7b\x7d"))
  let keywords ← orFail (keywordsOf kind kwargs)
  orFail (nameArguments kind (← orFail (positionalOf kind args)) keywords)

def sectionHandler (ini : Ini) (formats : Listed Format) (name : Text) : Setup Handler := do
  let s : Text := "handler_" ++ name
  requireSection ini s
  let className ← option ini s "class"
  let formatter ← optionOr ini s "formatter" ""
  let kind ← sectionHandlerClass className
  let h ← makeHandler kind (← sectionArguments ini s kind)
  let level ←
    if ini.has s "level" then orFail (levelOfName (← option ini s "level")) else pure h.level
  let format ← if formatter.isEmpty then pure none else some <$> listed formats formatter
  return { h with name := some name, level, format }

def addListed (target : Target) (handlers : Listed Handler) : List Text → Setup Unit
  | [] => return ()
  | name :: rest => do
    let h ← listed handlers name
    changeHandlers target (addHandler h)
    addListed target handlers rest

def sectionLevel (ini : Ini) (target : Target) (s : Text) : Setup Unit := do
  if ini.has s "level" then
    setLevel target (← orFail (levelOfName (← option ini s "level")))

def sectionRoot (ini : Ini) (handlers : Listed Handler) : Setup Unit := do
  let s : Text := "logger_root"
  requireSection ini s
  sectionLevel ini .root s
  changeHandlers .root fun _ => []
  addListed .root handlers (listedNames (← option ini s "handlers"))

def sectionPassesOn (ini : Ini) (s : Text) : Setup Bool := do
  if !ini.has s "propagate" then return true
  let t ← option ini s "propagate"
  match t.numeral? with
  | some n => return n != 0
  | none =>
    fail (.outside .invalidValue ("invalid literal for int() with base 10: " ++ t.quoted))

def sectionLogger (ini : Ini) (handlers : Listed Handler) (name : Text) : Setup Unit := do
  let s : Text := "logger_" ++ name
  requireSection ini s
  let qualified ← option ini s "qualname"
  let passesOn ← sectionPassesOn ini s
  let target := Target.ofName qualified
  changeTarget target id
  sectionLevel ini target s
  changeHandlers target fun _ => []
  changeTarget target fun g => { g with passesOn }
  addListed target handlers (listedNames (← option ini s "handlers"))

def sectionLoggers (ini : Ini) (handlers : Listed Handler) : List Text → Setup Unit
  | [] => return ()
  | name :: rest => do
    sectionLogger ini handlers name
    sectionLoggers ini handlers rest

def rootName : Text := "root"

def ofIni (ini : Ini) : Setup Unit := do
  let formats ← makeListed (sectionFormat ini) (listedNames (← option ini "formatters" "keys"))
  let handlers ← makeListed (sectionHandler ini formats)
    (listedNames (← option ini "handlers" "keys"))
  let loggers := splitNames (← option ini "loggers" "keys")
  if !loggers.contains rootName then
    fail (.outside .invalidValue "list.remove(x): x not in list")
  sectionRoot ini handlers
  sectionLoggers ini handlers (loggers.erase rootName)

end Issuer.Log.Setup
