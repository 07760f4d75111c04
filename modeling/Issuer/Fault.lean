import Issuer.Json.Display
import Issuer.Text.Blank
/-!
# Faults

A failure is a chain: the fault that is reported, and the faults that caused it, each caused by
the next.  A fault of the program itself has a kind, a first argument (its message), and details
that say what it is about; a fault from outside has the wording it came with.  `Failure.rollUp`
tells a whole chain on one line.
-/
namespace Issuer

/-! ## Kinds -/

inductive FaultKind where
  | general
  | schema
  | schemaLoad
  | schemaStructure
  | attributeDecoding
  | schemaProcessing
  | conversion
  | attributeNotFound
  | typeMismatch
  | valueParse
  | unsupportedType
  | countMismatch
  | database
  | databaseConnection
  | dialect
  | migration
  | configuration
  | arguments
  | model
  | migrateCommand
  | schemaCommand
  deriving DecidableEq, Repr

namespace FaultKind

def name : FaultKind → Text
  | general => "BaseError"
  | schema => "SchemaError"
  | schemaLoad => "SchemaLoadError"
  | schemaStructure => "SchemaStructureError"
  | attributeDecoding => "DecodingError"
  | schemaProcessing => "ProcessSchemaError"
  | conversion => "ConversionError"
  | attributeNotFound => "AttributeNotFoundError"
  | typeMismatch => "TypeMismatchError"
  | valueParse => "ParseError"
  | unsupportedType => "UnsupportedTypeError"
  | countMismatch => "CountMismatchError"
  | database => "DatabaseError"
  | databaseConnection => "DatabaseConnectionError"
  | dialect => "DialectError"
  | migration => "MigrationError"
  | configuration => "ConfigError"
  | arguments => "ArgsParseError"
  | model => "BaseModelError"
  | migrateCommand => "MigrateError"
  | schemaCommand => "SchemaCommandError"

def all : List FaultKind :=
  [general, schema, schemaLoad, schemaStructure, attributeDecoding, schemaProcessing, conversion,
    attributeNotFound, typeMismatch, valueParse, unsupportedType, countMismatch, database,
    databaseConnection, dialect, migration, configuration, arguments, model, migrateCommand,
    schemaCommand]

def ofName? (n : Text) : Option FaultKind := all.find? fun k => k.name == n

def lineage : FaultKind → List FaultKind
  | general => [general]
  | k@schema | k@database | k@configuration | k@model | k@migrateCommand | k@schemaCommand =>
    [k, general]
  | k@schemaLoad | k@schemaStructure | k@attributeDecoding | k@schemaProcessing | k@conversion =>
    [k, schema, general]
  | k@attributeNotFound | k@typeMismatch | k@valueParse | k@unsupportedType | k@countMismatch =>
    [k, conversion, schema, general]
  | k@databaseConnection | k@dialect | k@migration => [k, database, general]
  | k@arguments => [k, configuration, general]

def isA (k ancestor : FaultKind) : Bool := k.lineage.contains ancestor

end FaultKind

inductive OutsideKind where
  | invalidValue
  | missingKey
  | wrongType
  | missingOperation
  | overflow
  | invalidRecord
  | invalidPattern
  | httpStatus
  | schemaViolation
  | moduleMissing
  | sectionMissing
  | sectionRepeated
  | optionRepeated
  | sectionSyntax
  | referenceSyntax
  | referenceMissing
  | referenceDepth
  | expressionSyntax
  | unknownName
  | yamlSyntax
  | jsonSyntax
  | textDecoding
  | textEncoding
  | fileMissing
  | isDirectory
  | notDirectory
  deriving DecidableEq, Repr

/-- Whether the wording of a kind is told.  Readers of other formats and the file system word
their faults themselves. -/
def OutsideKind.isWorded : OutsideKind → Bool
  | invalidValue | missingKey | wrongType | missingOperation | overflow | invalidRecord
  | invalidPattern | httpStatus | moduleMissing | sectionMissing | sectionRepeated | optionRepeated
  | sectionSyntax | referenceSyntax | referenceMissing | referenceDepth | expressionSyntax
  | unknownName => true
  | schemaViolation | yamlSyntax | jsonSyntax | textDecoding | textEncoding | fileMissing
  | isDirectory | notDirectory => false

/-! ## Faults -/

/-- What a fault of the program is about; null where it does not apply. -/
structure Details where
  code : Json := .null
  name : Json := .null
  path : Json := .null
  key : Json := .null
  remaining : Json := .null

inductive Fault where
  | own (kind : FaultKind) (argument : Option Json) (details : Details)
  | outside (kind : OutsideKind) (text : Text)
  | reported (name : Text) (arguments : List Json)

namespace Fault

def ofMessage (kind : FaultKind) (message : Text) (details : Details := {}) : Fault :=
  own kind (some (.str message)) details

def aboutAttribute (name : Json) (rest : Text) : Text :=
  "error converting the attribute: " ++ name.display ++ rest

def text? : Fault → Option Text
  | own _ argument _ => argument.map Json.display
  | outside _ text => some text
  | reported _ arguments => arguments.head?.map Json.display

/-- The message of a fault of the program: its first argument without the blanks around it. -/
def message (f : Fault) : Text := (f.text?.getD "").strip

def isOwn : Fault → Bool
  | own .. => true
  | outside .. | reported .. => false

end Fault

structure Failure where
  fault : Fault
  causes : List Fault

namespace Failure

def of (fault : Fault) : Failure := ⟨fault, []⟩

def under (cause : Failure) (fault : Fault) : Failure := ⟨fault, cause.fault :: cause.causes⟩

def Reports (f : Failure) (kind : FaultKind) (details : Details) (causes : List Fault) : Prop :=
  ∃ message, f = ⟨.ofMessage kind message details, causes⟩

theorem Reports.isOwn {f : Failure} {kind : FaultKind} {details : Details} {causes : List Fault}
    (h : f.Reports kind details causes) : f.fault.isOwn = true := by
  obtain ⟨message, rfl⟩ := h
  rfl

end Failure

/-! ## Telling a chain on one line -/

/-- What a line tells of one fault: its first argument, or its name if it has none. -/
structure Link where
  name : Text
  text : Option Text

namespace Link

/-- Writes a full stop and a space for each line feed and the blanks after it. -/
def joinLines : Text → Text
  | [] => []
  | c :: rest => if c = '\n' then ". " ++ joinLines' rest else c :: joinLines rest
where
  /-- The same after a line feed: blanks are left out. -/
  joinLines' : Text → Text
    | [] => []
    | c :: rest => if c.isBlank then joinLines' rest else c :: joinLines rest

def part (l : Link) : Text := (joinLines ((l.text.map Text.strip).getD l.name)).strip

def rollUp (first : Link) (others : List Link) : Text :=
  (first.part ++ others.flatMap fun (l : Link) => (". " : Text) ++ l.part).strip ++ "."

end Link

def Fault.link (f : Fault) : Link where
  name := match f with
    | .own kind _ _ => kind.name
    | .outside _ text => text
    | .reported name _ => name
  text := f.text?

def Failure.rollUp (f : Failure) : Text := Link.rollUp f.fault.link (f.causes.map Fault.link)

end Issuer
