import Issuer.CommandLine.Environment
import Issuer.Log.Setup.Mapping
import Issuer.Log.Setup.Sections
import Issuer.Resource
import Issuer.Settings
import Issuer.Text.UpperCase
import Issuer.Yaml.Read
/-!
# Configuring logging

Settings may name a configuration, a mapping or a file of sections; a configuration that is not
there leaves a plain handler.  They may add a file, have the handlers of the root tell events as
JSON, and set the level of the root, in this order.
-/
namespace Issuer.Log

open Issuer.CommandLine (Environment)

namespace Setup

/-- The handler for want of a configuration, unless the root has handlers. -/
def basic : Setup Unit :=
  changeLogging fun l =>
    if l.handlers.isEmpty then
      { l with level := warningLevel
               handlers := [{ kind := .stream, format := some basicFormat }] }
    else l

def isMappingPath (path : Text) : Bool := path.hasPart ".yml" || path.hasPart ".yaml"

def ofMappingFile (path : Text) : Setup Unit := do
  let bytes ← orFail (((← get).disk.read path).mapError Disk.Problem.fault)
  match Utf8.decode? false bytes with
  | none => fail (.outside .textDecoding "")
  | some t =>
    match Yaml.ofText .strict t.joinReturns with
    | .error _ => fail (.outside .yamlSyntax "")
    | .ok v => if v.isTruthy then ofMapping v else basic

def ofSectionsResource (name : Text) : Setup Unit := do
  let loaded := Resource.load (← get).disk name (some .utf8)
  match ← orFail (loaded.mapError Resource.Problem.fault) with
  | some (.text t) =>
    match Ini.ofText t with
    | .ok ini => ofIni ini
    | .error p => fail (.outside p.kind (p.message name))
  | _ => basic

def ofConfiguration (name : Text) : Setup Unit :=
  if isMappingPath name then ofMappingFile name else ofSectionsResource name

/-! ## Settings of other kinds than text -/

def kindName : Setting → Text
  | .json .null => "NoneType"
  | .json (.bool _) => "bool"
  | .json (.int _) => "int"
  | .json (.float _) => "float"
  | .json (.str _) => "str"
  | .json (.arr _) => "list"
  | .json (.obj _) => "dict"
  | .sequence _ => "tuple"

def settingLacks (v : Setting) (operation : Text) : Fault :=
  .outside .missingOperation
    ("'" ++ kindName v ++ "' object has no attribute '" ++ operation ++ "'")

/-- The texts that a setting holds; none if it holds nothing. -/
def textsIn? : Setting → Option (List Text)
  | .json (.arr items) | .sequence items => some (items.filterMap Json.text?)
  | .json (.obj members) => some (members.map (·.1))
  | _ => none

/-- Sets logging up as a setting that is no text says, which it cannot. -/
def refuseConfiguration (v : Setting) : Setup Unit :=
  match textsIn? v with
  | none => fail (.outside .wrongType ("argument of type '" ++ kindName v ++ "' is not iterable"))
  | some texts =>
    if texts.contains ".yml" || texts.contains ".yaml" then fail (noPath (kindName v))
    else fail (settingLacks v "rsplit")

/-! ## The parts of a configuration -/

/-- Sets logging up as a setting says; nothing stands for the configuration that comes with the
program. -/
def configuration (v : Setting) : Setup Unit :=
  if !v.isTruthy then ofConfiguration Packaged.loggingConfigurationName
  else match v with
    | .json (.str name) => ofConfiguration name
    | _ => refuseConfiguration v

def fileArguments (path : Text) : Arguments := [("filename", .str path)]

def addFile (v : Setting) : Setup Unit :=
  if !v.isTruthy then pure ()
  else match v with
    | .json (.str path) => do
      let h ← makeHandler .file (fileArguments path)
      changeHandlers .root (· ++ [h])
    | _ => fail (noPath (kindName v))

def useJson : Setup Unit :=
  changeHandlers .root fun hs => hs.map fun h => { h with format := some jsonFormat }

def rootLevel (v : Setting) : Setup Unit := do
  if !v.isTruthy then return
  match v with
  | .json (.str name) => setLevel .root (← orFail (levelOfName name.toUpper))
  | _ => fail (settingLacks v "upper")

def levelVariable : Text := "LOG_LEVEL"

def levelSetting (settings : Settings) (env : Environment) : Setting :=
  let level := settings.value ["log.level"] (.json .null)
  if level.isTruthy then level else .json (.ofText? (env.lookup levelVariable))

def ofSettings (settings : Settings) (env : Environment) : Setup Unit := do
  let setting (name : Text) : Setting := settings.value [name] (.json .null)
  configuration (setting "log.config")
  addFile (setting "log.file")
  if (setting "log.json").isTruthy then useJson
  rootLevel (levelSetting settings env)

end Setup

/-- Configures logging: how that ends, the configuration and the files. -/
def configure (settings : Settings) (env : Environment) (disk : Disk) :
    Except Failure Unit × Logging × Disk :=
  let (result, state) := ((Setup.ofSettings settings env).run env.installed).run.run { disk }
  (result, state.logging, state.disk)

end Issuer.Log
