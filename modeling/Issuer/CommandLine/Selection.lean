import Issuer.CommandLine.Reading
import Issuer.Settings
/-!
# Settings from flags

What a command line gives becomes settings, group by group.  Empty arguments count as none.  The
groups of the database and of the schema need a URL, and the attributes are pairs of a name and a
value.
-/
namespace Issuer.CommandLine

/-- Why flags make up no settings. -/
inductive Problem where
  | required (flag : Flag)
  /-- An attribute without a name or without an equals sign. -/
  | malformed (t : Text)
  deriving DecidableEq, Repr

def Problem.message : Problem → Text
  | required flag => flag.long ++ " is required"
  | malformed t => "Invalid " ++ Flag.attributes.long ++ " '" ++ t ++ "', expected <name=value>"

def Problem.failure (p : Problem) : Failure := .of (.ofMessage .arguments p.message)

/-! ## Attributes -/

def splitAttribute (t : Text) : Except Problem (Text × Text) :=
  match t.partition? '=' with
  | some (c :: name, value) => .ok (c :: name, value)
  | _ => .error (.malformed t)

/-- The names and the values of attributes, or the first that has none. -/
def splitAttributes : List Text → Except Problem (List (Text × Text))
  | [] => .ok []
  | t :: ts => do
    let pair ← splitAttribute t
    return pair :: (← splitAttributes ts)

def attributeSetting (pair : Text × Text) : Json :=
  .obj [("name", .str pair.1), ("value", .str pair.2)]

/-! ## Groups -/

/-- The setting of a flag's argument; an empty argument gives none. -/
def optional (name : Text) (f : Flag) (g : Given) : List (Text × Setting) :=
  match g.last? f with
  | none | some [] => []
  | some value => [(name, .json (.str value))]

def required (name : Text) (f : Flag) (g : Given) : Except Problem (List (Text × Setting)) :=
  match optional name f g with
  | [] => .error (.required f)
  | settings => .ok settings

/-- The setting of the attributes; without any there is none. -/
def attributesSetting (g : Given) : Except Problem (List (Text × Setting)) := do
  match g.all .attributes with
  | [] => return []
  | ts => return [("schema.attributes", .json (.arr ((← splitAttributes ts).map attributeSetting)))]

def Group.settings (g : Given) : Group → Except Problem (List (Text × Setting))
  | general => .ok []
  | database => required "database.url" .databaseUrl g
  | schema => do
    let url ← required "schema.url" .schemaUrl g
    let more :=
      optional "schema.type" .schemaType g ++ optional "schema.ipfs_gateway" .ipfsGateway g
    return url ++ more ++ (← attributesSetting g)
  | logging =>
    let json : List (Text × Setting) :=
      if g.has .logJson then [("log.json", .json (.bool true))] else []
    .ok (optional "log.config" .logConfig g ++ optional "log.file" .logFile g ++
      optional "log.level" .logLevel g ++ json)

def select (g : Given) : List Group → Except Problem (List (Text × Setting))
  | [] => .ok []
  | group :: groups => do
    let first ← group.settings g
    return first ++ (← select g groups)

def settingsOf (groups : List Group) (g : Given) : Except Problem Settings :=
  (select g groups).map fun values => ⟨values⟩

end Issuer.CommandLine
