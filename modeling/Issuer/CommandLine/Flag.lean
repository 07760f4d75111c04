import Issuer.Text.Basic
/-!
# Flags

The flags that a command line may hold, in groups.  A flag takes no argument or one; of a flag that
collects, every occurrence counts, of any other one only the last.  Some flags may also be given
by a variable of the environment.
-/
namespace Issuer.CommandLine

inductive Arity where
  | nothing
  /-- None; the flag itself is set or not. -/
  | switch
  | one
  | each
  deriving DecidableEq, Repr

inductive Flag where
  | help
  | version
  | argumentFile
  | databaseUrl
  | schemaUrl
  | schemaType
  | ipfsGateway
  | attributes
  | logConfig
  | logFile
  | logLevel
  | logJson
  deriving DecidableEq, Repr

namespace Flag

/-- The spellings of a flag; the last one is the long one. -/
def spellings : Flag → List Text
  | help => ["-h", "--help"]
  | version => ["-v", "--version"]
  | argumentFile => ["--arg-file"]
  | databaseUrl => ["--database-url"]
  | schemaUrl => ["--schema-url"]
  | schemaType => ["--schema-type"]
  | ipfsGateway => ["--ipfs-gateway"]
  | attributes => ["--attribute"]
  | logConfig => ["--log-config"]
  | logFile => ["--log-file"]
  | logLevel => ["--log-level"]
  | logJson => ["--log-json"]

def long (f : Flag) : Text := f.spellings.getLast?.getD ""

def label (f : Flag) : Text := Text.join "/" f.spellings

def arity : Flag → Arity
  | help => .nothing
  | version | logJson => .switch
  | attributes => .each
  | argumentFile | databaseUrl | schemaUrl | schemaType | ipfsGateway | logConfig | logFile
  | logLevel => .one

def takesArgument (f : Flag) : Bool := f.arity = .one || f.arity = .each

def variableName? : Flag → Option Text
  | databaseUrl => some "ISSUER_DATABASE_URL"
  | schemaUrl => some "ISSUER_SCHEMA_URL"
  | schemaType => some "ISSUER_SCHEMA_TYPE"
  | ipfsGateway => some "ISSUER_IPFS_GATEWAY"
  | logConfig => some "ISSUER_LOG_CONFIG"
  | logFile => some "ISSUER_LOG_FILE"
  | logLevel => some "ISSUER_LOG_LEVEL"
  | logJson => some "ISSUER_LOG_JSON"
  | help | version | argumentFile | attributes => none

end Flag

/-! ## Groups -/

inductive Group where
  | general
  | database
  | schema
  | logging
  deriving DecidableEq, Repr

inductive Category where
  | migrate
  | schema
  deriving DecidableEq, Repr

namespace Group

def flags : Group → List Flag
  | general => [.argumentFile]
  | database => [.databaseUrl]
  | schema => [.schemaUrl, .schemaType, .ipfsGateway, .attributes]
  | logging => [.logConfig, .logFile, .logLevel, .logJson]

def all : List Group := [general, database, schema, logging]

def categories : Group → List Category
  | general | logging => [.migrate, .schema]
  | database => [.migrate]
  | schema => [.schema]

def ofCategory (c : Category) : List Group := all.filter fun g => g.categories.contains c

end Group

def flagsOf (groups : List Group) : List Flag := .help :: groups.flatMap Group.flags

end Issuer.CommandLine
