import Issuer.Log.Logging
/-!
# Logging from a mapping

A mapping describes formatters, filters, handlers and loggers by their names, and the root.
Handlers are made in the order of their names, and loggers refer to them by name.  An incremental
mapping only changes levels.
-/
namespace Issuer.Log.Setup

/-! ## Values of other kinds than they should have -/

def wrongType (t : Text) : Fault := .outside .wrongType t

def notIterable (v : Yaml) : Fault :=
  wrongType ("'" ++ v.fullKindName ++ "' object is not iterable")

def lacks (v : Yaml) (operation : Text) : Fault :=
  let kind : Text := match v with
    | .list _ => "ConvertingList"
    | .map _ => "ConvertingDict"
    | _ => v.fullKindName
  .outside .missingOperation ("'" ++ kind ++ "' object has no attribute '" ++ operation ++ "'")

/-- The items of a value: of a list, the keys of a mapping, the code points of a text. -/
def itemsOf : Yaml → Except Fault (List Yaml)
  | .list items => .ok items
  | .map pairs => .ok (pairs.map (·.1))
  | .str t => .ok (t.map fun c => .str [c])
  | v => .error (notIterable v)

def pairOf (place : Nat) (v : Yaml) : Except Fault (Yaml × Yaml) :=
  let element : Text := "dictionary update sequence element #" ++ Text.ofNat place
  match itemsOf v with
  | .error _ =>
    .error (wrongType ("cannot convert dictionary update sequence element #" ++ Text.ofNat place ++
      " to a sequence"))
  | .ok [k, v] => .ok (k, v)
  | .ok items =>
    .error (.outside .invalidValue (element ++ " has length " ++ Text.ofNat items.length ++
      "; 2 is required"))

def pairsOf : Yaml → Except Fault (List (Yaml × Yaml))
  | .map pairs => .ok pairs
  | v => do
    let items ← itemsOf v
    let pairs ← (items.zipIdx).mapM fun (item, place) => pairOf place item
    return pairs.foldl (fun done (k, w) => Yaml.setPair k w done) []

def askable (v : Yaml) : Except Fault Yaml :=
  match v with
  | .map _ => .ok v
  | .str _ | .list _ => .error (lacks v "get")
  | _ => .error (wrongType ("argument of type '" ++ v.fullKindName ++ "' is not iterable"))

/-- What a mapping has under a key; null for nothing. -/
def memberOrNull (key : Text) (v : Yaml) : Yaml := (v.member? key).getD .null

def section? (key : Text) (v : Yaml) : Yaml := (v.member? key).getD (.map [])

def entry (key : Yaml) : Yaml → Except Fault Yaml
  | .map pairs =>
    match pairs.find? fun (k, _) => k.isSameKey key with
    | some (_, v) => .ok v
    | none => .error (.outside .missingKey key.display)
  | .list _ =>
    .error (wrongType ("list indices must be integers or slices, not " ++ key.fullKindName))
  | .str _ => .error (wrongType "string indices must be integers, not 'str'")
  | v => .error (wrongType ("'" ++ v.fullKindName ++ "' object is not subscriptable"))

/-! ## What a mapping names -/

def resolve {α : Type} (find? : Installed → Text → Option α) : Yaml → Setup α
  | .str name => do
    let installed ← read
    match find? installed name, installed.missing name with
    | some a, _ => return a
    | none, .outside .moduleMissing wording =>
      throw ⟨.outside .invalidValue ("Cannot resolve " ++ name.quoted ++ ": " ++ wording),
        [.outside .moduleMissing wording]⟩
    | none, f => fail f
  | v => fail (lacks v "split")

/-- An argument; what stands after `ext://` is a full name. -/
def argumentOf : Yaml → Setup Yaml
  | .str t =>
    match Text.afterPrefix? "ext://" t with
    | some name => resolve Installed.value? (.str name)
    | none => return .str t
  | v => return v

def noText (v : Yaml) : Fault :=
  wrongType ("expected string or bytes-like object, got '" ++ v.fullKindName ++ "'")

def argumentsOf (own : List Text) : List (Yaml × Yaml) → Setup Arguments
  | [] => return []
  | (.str name, v) :: rest =>
    if own.contains name then argumentsOf own rest
    else do
      if !(name.isIdentifier && name.all CodePoint.isAscii) then
        fail (.outside .invalidValue ("Not a valid Python identifier: " ++ name.quoted))
      return (name, ← argumentOf v) :: (← argumentsOf own rest)
  | (key, _) :: _ => fail (noText key)

def makerKey : Text := "()"

def settingsKey : Text := "."

/-! ## Formatters -/

def formatFrom (isJson : Bool) (text style validate : Option Yaml) : Except Fault Format := do
  let mark := (style.map Yaml.display).getD "%"
  let isChecked := (validate.map Yaml.isTruthy).getD true
  match text with
  | some (.str t) => Format.make (some t) mark isChecked isJson
  | some v =>
    if v.isTruthy then do
      let f ← Format.make (some v.display) mark false isJson
      if !isChecked then return f
      throw (if f.style = .brace then wrongType ("expected str, got " ++ v.fullKindName)
        else noText v)
    else Format.make none mark isChecked isJson
  | none => Format.make none mark isChecked isJson

def formatterArguments : List Text := ["fmt", "datefmt", "style", "validate", "defaults"]

def jsonFormatterArguments : List Text := [
  "prefix", "rename_fields", "rename_fields_keep_missing", "static_fields", "reserved_attrs",
  "timestamp", "exc_info_as_array", "stack_info_as_array", "json_default", "json_encoder",
  "json_serializer", "json_indent", "json_ensure_ascii"]

def formatterSignature (isJson : Bool) : Signature :=
  if isJson then ⟨"BaseJsonFormatter", [], false, formatterArguments ++ jsonFormatterArguments⟩
  else ⟨"Formatter", [], false, formatterArguments⟩

def olderFormat : Text := "format"

def newerFormat : Text := "fmt"

/-- Arguments with the format under its newer name, if its older one is the first that is not
known. -/
def renameFormat (s : Signature) (arguments : Arguments) : Arguments :=
  match arguments.find? fun (name, _) => !s.optional.contains name with
  | some (unknown, v) =>
    if unknown = olderFormat then
      let others : Arguments := arguments.filter fun (name, _) =>
        !(name == olderFormat || name == newerFormat)
      others ++ [(newerFormat, v)]
    else arguments
  | none => arguments

def madeFormat (maker : Yaml) (pairs : List (Yaml × Yaml)) : Setup Format := do
  let isJson ← resolve Installed.formatter? maker
  let s := formatterSignature isJson
  let arguments := renameFormat s (← argumentsOf [makerKey, settingsKey] pairs)
  let named : Members := arguments.map fun (name, _) => (name, .null)
  let _ ← orFail ((s.bind [] named).mapError fun p => wrongType (p.message s.owner))
  orFail (formatFrom isJson (arguments.get? newerFormat) (arguments.get? "style")
    (arguments.get? "validate"))

def formatOf (v : Yaml) : Setup Format := do
  let v ← orFail (askable v)
  match v.member? makerKey with
  | some maker => madeFormat maker (← orFail (pairsOf v))
  | none =>
    let isJson ← match memberOrNull "class" v with
      | .str name => if name.isEmpty then pure false else formatterClass name
      | other => if other.isTruthy then fail (lacks other "split") else pure false
    orFail (formatFrom isJson (v.member? "format") (v.member? "style") (v.member? "validate"))

structure Named (α : Type) where
  described : Yaml := .map []
  things : List (Yaml × α) := []

def named {α : Type} (all : Named α) (name : Yaml) : Except Fault α :=
  match all.things.find? fun (k, _) => k.isSameKey name with
  | some (_, a) => .ok a
  | none =>
    match entry name all.described with
    | .error f => .error f
    | .ok _ => .error (.outside .missingKey name.display)

def makeEach {α : Type} (what : Text) (make : Yaml → Setup α) (described : Yaml) :
    List Yaml → Setup (List (Yaml × α))
  | [] => return []
  | name :: rest => do
    let thing ← under ("Unable to configure " ++ what ++ " " ++ name.inspect) do
      make (← orFail (entry name described))
    return (name, thing) :: (← makeEach what make described rest)

def makeAll {α : Type} (what : Text) (make : Yaml → Setup α)
    (order : List Yaml → List Yaml) (described : Yaml) : Setup (Named α) := do
  let names ← orFail (itemsOf described)
  return { described, things := ← makeEach what make described (order names) }

/-! ## Filters -/

/-- The source whose events a filter lets through, with all below it. -/
def filterName : Option Yaml → Except Fault Text
  | some (.str name) => .ok name
  | none => .ok []
  | some v => .error (wrongType ("object of type '" ++ v.fullKindName ++ "' has no len()"))

def filterOf (v : Yaml) : Setup Text := do
  let v ← orFail (askable v)
  match v.member? makerKey with
  | some maker =>
    let s ← resolve Installed.filter? maker
    let arguments ← argumentsOf [makerKey, settingsKey] (← orFail (pairsOf v))
    let named : Members := arguments.map fun (name, _) => (name, .null)
    let _ ← orFail ((s.bind [] named).mapError fun p => wrongType (p.message s.owner))
    orFail (filterName (arguments.get? "name"))
  | none => orFail (filterName (v.member? "name"))

def filtersOf (filters : Named Text) : List Yaml → Setup (List Text)
  | [] => return []
  | name :: rest => do
    let filter ← under ("Unable to add filter " ++ name.inspect) (orFail (named filters name))
    return filter :: (← filtersOf filters rest)

def filtersOfMember (filters : Named Text) (v : Yaml) : Setup (List Text) := do
  let listed := memberOrNull "filters" v
  if !listed.isTruthy then return []
  filtersOf filters (← orFail (itemsOf listed))

/-! ## Handlers -/

def ownMembers : List Text := ["formatter", "level", "filters"]

def olderStream : Arguments := [("strm", .null)]

/-- Makes a handler; a stream that its class does not take is given under an older name. -/
def makeHandlerFrom (kind : HandlerClass) (arguments : Arguments) : Setup Handler :=
  if (arguments.get? "stream").isSome && !kind.optional.contains "stream" then
    makeHandler kind ((arguments.filter fun (name, _) => name != "stream") ++ olderStream)
  else makeHandler kind arguments

def takeable (v : Yaml) : Except Fault (List (Yaml × Yaml)) := do
  let pairs ← pairsOf v
  match v with
  | .map _ => return pairs
  | .list _ => throw (wrongType
      "ConvertingList.pop() takes from 1 to 2 positional arguments but 3 were given")
  | _ => throw (lacks v "pop")

def handlerOf (formats : Named Format) (filters : Named Text) (v : Yaml) : Setup Handler := do
  let pairs ← orFail (takeable v)
  let formatter := memberOrNull "formatter" v
  let format ←
    if formatter.isTruthy then
      some <$> under ("Unable to set formatter " ++ formatter.inspect)
        (orFail (named formats formatter))
    else pure none
  let (maker, key) := match v.member? makerKey with
    | some maker => (maker, makerKey)
    | none => (memberOrNull "class" v, ("class" : Text))
  let kind ← resolve Installed.handler? maker
  let h ← makeHandlerFrom kind (← argumentsOf (key :: settingsKey :: ownMembers) pairs)
  let level ← match memberOrNull "level" v with
    | .null => pure 0
    | level => orFail (levelOfValue level)
  let filters ← filtersOfMember filters v
  return { h with format, level, filters }

/-! ## Loggers -/

def addHandlers (target : Target) (handlers : Named Handler) : List Yaml → Setup Unit
  | [] => return ()
  | name :: rest => do
    let h ← under ("Unable to add handler " ++ name.inspect) (orFail (named handlers name))
    changeHandlers target (addHandler h)
    addHandlers target handlers rest

def configure (target : Target) (incremental : Bool) (handlers : Named Handler)
    (filters : Named Text) (v : Yaml) : Setup Unit := do
  let v ← orFail (match v with
    | .map _ => .ok v
    | _ => .error (lacks v "get"))
  match memberOrNull "level" v with
  | .null => pure ()
  | level => setLevel target (← orFail (levelOfValue level))
  if !incremental then
    changeHandlers target fun _ => []
    let listed := memberOrNull "handlers" v
    if listed.isTruthy then addHandlers target handlers (← orFail (itemsOf listed))
    let _ ← filtersOfMember filters v

def configureLogger (incremental : Bool) (handlers : Named Handler) (filters : Named Text)
    (name v : Yaml) : Setup Unit := do
  match name with
  | .str name =>
    let target := Target.ofName name
    changeTarget target id
    configure target incremental handlers filters v
    match memberOrNull "propagate" v with
    | .null => pure ()
    | passesOn => changeTarget target fun g => { g with passesOn := passesOn.isTruthy }
  | _ => fail (wrongType "A logger name must be a string")

def configureLoggers (incremental : Bool) (handlers : Named Handler) (filters : Named Text)
    (described : Yaml) : List Yaml → Setup Unit
  | [] => return ()
  | name :: rest => do
    under ("Unable to configure logger " ++ name.inspect) do
      configureLogger incremental handlers filters name (← orFail (entry name described))
    configureLoggers incremental handlers filters described rest

def configureRoot (incremental : Bool) (handlers : Named Handler) (filters : Named Text)
    (v : Yaml) : Setup Unit := do
  let root := memberOrNull "root" v
  if root.isTruthy then
    under "Unable to configure root logger" (configure .root incremental handlers filters root)

/-! ## The whole mapping -/

def checkVersion (v : Yaml) : Except Fault Unit :=
  match v.member? "version" with
  | none => .error (.outside .invalidValue "dictionary doesn't specify a version")
  | some version =>
    if version.isSameKey (.int 1) then .ok ()
    else .error (.outside .invalidValue ("Unsupported version: " ++ version.display))

def changeLevels (v : Yaml) : Setup Unit := do
  match ← orFail (itemsOf (section? "handlers" v)) with
  | name :: _ => fail (.outside .invalidValue ("No handler found with name " ++ name.inspect))
  | [] => pure ()
  let loggers := section? "loggers" v
  configureLoggers true {} {} loggers (← orFail (itemsOf loggers))
  configureRoot true {} {} v

def sortedNames (names : List Yaml) : List Yaml := names.mergeSort fun a b => a.display.le b.display

def nameHandler (made : Yaml × Handler) : Yaml × Handler :=
  (made.1, { made.2 with name := some made.1.display })

def describeAll (v : Yaml) : Setup Unit := do
  let formats ← makeAll "formatter" formatOf id (section? "formatters" v)
  let filters ← makeAll "filter" filterOf id (section? "filters" v)
  let made ← makeAll "handler" (handlerOf formats filters) sortedNames (section? "handlers" v)
  let handlers := { made with things := made.things.map nameHandler }
  let loggers := section? "loggers" v
  configureLoggers false handlers filters loggers (← orFail (itemsOf loggers))
  changeLogging fun l =>
    { l with
      silencesOthers := ((v.member? "disable_existing_loggers").map Yaml.isTruthy).getD true }
  configureRoot false handlers filters v

def ofMapping (v : Yaml) : Setup Unit := do
  let v := Yaml.map (← orFail (pairsOf v))
  orFail (checkVersion v)
  if (memberOrNull "incremental" v).isTruthy then changeLevels v else describeAll v

end Issuer.Log.Setup
