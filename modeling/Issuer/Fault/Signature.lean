import Issuer.Fault
/-!
# Signatures

What is made by name (a fault of a given kind, a record of given fields) takes arguments by position
and by keyword.  A signature says which; `Signature.bind` matches arguments with it and says what
is wrong with them otherwise.
-/
namespace Issuer

structure Signature where
  owner : Text
  required : List Text
  more : Bool
  /-- The arguments that may be given by keyword only. -/
  optional : List Text

namespace Signature

/-- Why arguments do not fit. -/
inductive Problem where
  | unexpected (keyword : Text)
  /-- A keyword that is not known where no further keyword is looked at. -/
  | noKeywords
  | twice (keyword : Text)
  /-- More arguments by position than are taken; both counts include the owner itself. -/
  | tooMany (taken given : Nat)
  | missing (names : List Text)
  deriving DecidableEq, Repr

def listNames : List Text → Text
  | [] => ""
  | [a] => a.quoted
  | [a, b] => a.quoted ++ " and " ++ b.quoted
  | names => Text.join ", " (names.dropLast.map Text.quoted) ++ ", and " ++
      (names.getLast?.getD "").quoted

def Problem.message (owner : Text) : Problem → Text
  | unexpected keyword =>
    owner ++ ".__init__() got an unexpected keyword argument '" ++ keyword ++ "'"
  | noKeywords => owner ++ "() takes no keyword arguments"
  | twice keyword => owner ++ ".__init__() got multiple values for argument '" ++ keyword ++ "'"
  | tooMany taken given =>
    owner ++ ".__init__() takes " ++ Text.ofNat taken ++ " positional argument" ++
      (if taken = 1 then "" else "s") ++ " but " ++ Text.ofNat given ++
      (if given = 1 then " was given" else " were given")
  | missing names =>
    owner ++ ".__init__() missing " ++ Text.ofNat names.length ++ " required positional argument" ++
      (if names.length = 1 then "" else "s") ++ ": " ++ listNames names

structure Bound where
  named : Members
  more : List Json

/-- An argument by its name; null if it is not given. -/
def Bound.get (b : Bound) (name : Text) : Json := (b.named.get? name).getD .null

def selfName : Text := "self"

/-- Refuses keywords given before by position and, where no further ones may follow, unknown
ones. -/
def checkKeywords (s : Signature) (given : List Text) : List Text → Except Problem Unit
  | [] => .ok ()
  | keyword :: rest =>
    if keyword = selfName || given.contains keyword then .error (.twice keyword)
    else if s.more || s.required.contains keyword || s.optional.contains keyword then
      checkKeywords s given rest
    else .error (.unexpected keyword)

def bind (s : Signature) (positional : List Json) (named : Members) : Except Problem Bound := do
  let given := s.required.zip positional
  checkKeywords s (given.map (·.1)) named.keys
  if !s.more && s.required.length < positional.length then
    throw (.tooMany (s.required.length + 1) (positional.length + 1))
  let known : Members := given ++ named
  let absent := s.required.filter fun name => !(Members.keys known).contains name
  if !absent.isEmpty then throw (.missing absent)
  if named.keys.any fun k => !(s.required.contains k || s.optional.contains k) then
    throw .noKeywords
  return ⟨known, positional.drop s.required.length⟩

end Signature

/-! ## Faults from arguments -/

namespace FaultKind

def signature (k : FaultKind) : Signature :=
  let code : List Text := ["error_code"]
  match k with
  | schemaStructure => ⟨k.name, ["path"], true, code⟩
  | attributeDecoding => ⟨k.name, ["key"], true, code⟩
  | conversion => ⟨k.name, ["message"], true, "name" :: code⟩
  | attributeNotFound | typeMismatch | unsupportedType => ⟨k.name, ["name"], false, []⟩
  | valueParse => ⟨k.name, ["name", "type_name"], false, []⟩
  | countMismatch => ⟨k.name, ["remaining"], false, []⟩
  | general | schema | schemaLoad | schemaProcessing | database | databaseConnection | dialect
  | migration | configuration | arguments | model | migrateCommand | schemaCommand =>
    ⟨k.name, [], true, code⟩

def ofBound (k : FaultKind) (b : Signature.Bound) : Fault :=
  let given := b.get "error_code"
  let code : Json := if given.isTruthy then given else .null
  let name := b.get "name"
  match k with
  | schemaStructure =>
    let path := b.get "path"
    .own k (some (.str ("missing " ++ path.display ++ " field"))) { code, path }
  | attributeDecoding =>
    let key := b.get "key"
    .own k (some (.str ("parsing attribute <" ++ key.display ++ ">"))) { code, key }
  | conversion => .own k (some (b.get "message")) { code, name }
  | attributeNotFound =>
    .own k (some (.str (Fault.aboutAttribute name ". attribute not found in schema"))) { name }
  | typeMismatch => .own k (some (.str (Fault.aboutAttribute name ""))) { name }
  | unsupportedType =>
    .own k (some (.str (Fault.aboutAttribute name ". type not supported"))) { name }
  | valueParse =>
    let rest : Text := ". Must be " ++ (b.get "type_name").display
    .own k (some (.str (Fault.aboutAttribute name rest))) { name }
  | countMismatch =>
    .own k (some (.str "the number of attributes is not valid")) { remaining := b.get "remaining" }
  | schemaProcessing => .own k (some (b.more.head?.getD (.str "cannot process schema"))) { code }
  | general | schema | schemaLoad | database | databaseConnection | dialect | migration
  | configuration | arguments | model | migrateCommand | schemaCommand =>
    .own k b.more.head? { code }

def build (k : FaultKind) (positional : List Json) (named : Members) :
    Except Signature.Problem Fault :=
  (k.signature.bind positional named).map k.ofBound

end FaultKind

def Fault.buildReported (name : Text) (positional : List Json) (named : Members) :
    Except Signature.Problem Fault :=
  if named.isEmpty then .ok (.reported name positional) else .error .noKeywords

end Issuer
