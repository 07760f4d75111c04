import Issuer.Attribute
import Issuer.Literal
/-!
# Conversion

Credential attributes arrive as texts.  Each is matched with the attribute of its name that the
schema declares, and converted to that attribute's type.  Every credential attribute needs an
attribute of its own, and one attribute has to be left over: the id of the credential's subject,
which the issuer fills in.
-/
namespace Issuer

namespace Conversion

inductive Problem where
  | duplicated (id : Option Text)
  | notFound (name : Option Text)
  | typeMismatch (name : Option Text)
  | integer (name : Option Text) (cause : Literal.Problem)
  | boolean (name : Option Text) (cause : Literal.Problem)
  | unsupported (name : Option Text)
  | count (remaining : Nat)
  deriving DecidableEq, Repr

def attributeMessage (name : Option Text) (rest : Text) : Text :=
  Fault.aboutAttribute (.ofText? name) rest

def Problem.failure : Problem → Failure
  | duplicated id =>
    .of (.ofMessage .conversion ("duplicated schema attribute: " ++ Attribute.shown id) (about id))
  | notFound name =>
    .of (.ofMessage .attributeNotFound (attributeMessage name ". attribute not found in schema")
      (about name))
  | typeMismatch name => .of (.ofMessage .typeMismatch (attributeMessage name "") (about name))
  | integer name cause =>
    ⟨.ofMessage .valueParse (attributeMessage name ". Must be an integer") (about name),
      [.outside .invalidValue cause.message]⟩
  | boolean name cause =>
    ⟨.ofMessage .valueParse (attributeMessage name ". Must be a boolean") (about name),
      [.outside .invalidValue cause.message]⟩
  | unsupported name =>
    .of (.ofMessage .unsupportedType (attributeMessage name ". type not supported") (about name))
  | count remaining =>
    .of (.ofMessage .countMismatch "the number of attributes is not valid"
      { remaining := .int remaining })
where
  about (name : Option Text) : Details := { name := .ofText? name }

def convertValue (declared : Attribute) (name : Option Text) (value : Json) : Except Problem Json :=
  match declared.type with
  | none => .error (.unsupported name)
  | some type =>
    if type = "string" then
      match value with
      | .str t => .ok (.str t)
      | _ => .error (.typeMismatch name)
    else if type = "integer" then
      match value with
      | .str t =>
        match Literal.readInteger t with
        | .ok n => .ok (.int n)
        | .error p => .error (.integer name p)
      | _ => .error (.typeMismatch name)
    else if type = "boolean" then
      match value with
      | .str t =>
        match Literal.readBoolean t with
        | .ok b => .ok (.bool b)
        | .error p => .error (.boolean name p)
      | _ => .error (.typeMismatch name)
    else .error (.unsupported name)

/-- The attributes that nobody supplies: the id of the subject. -/
def reservedCount : Nat := 1

/-- The credential attributes, converted as far as the conversion came, and what stopped it. -/
structure Outcome where
  attributes : List CredentialAttribute
  problem : Option Problem
  deriving DecidableEq, Repr

def Outcome.after (first : CredentialAttribute) (o : Outcome) : Outcome :=
  ⟨first :: o.attributes, o.problem⟩

/-- Converts credential attributes in order, each with the pending attribute of its name, which is
then no longer pending. -/
def convertEach (pending : List Attribute) : List CredentialAttribute → Outcome
  | [] => ⟨[], if pending.length = reservedCount then none else some (.count pending.length)⟩
  | a :: rest =>
    match pending.find? fun d => d.id = a.name with
    | none => ⟨a :: rest, some (.notFound a.name)⟩
    | some d =>
      match convertValue d a.name a.value with
      | .error p => ⟨a :: rest, some p⟩
      | .ok v =>
        (convertEach (pending.eraseP fun d => d.id = a.name) rest).after { a with value := v }

def firstDuplicate? (seen : List (Option Text)) : List Attribute → Option (Option Text)
  | [] => none
  | d :: rest => if seen.contains d.id then some d.id else firstDuplicate? (d.id :: seen) rest

def validateAndConvert (descriptors : List Attribute) (attributes : List CredentialAttribute) :
    Outcome :=
  match firstDuplicate? [] descriptors with
  | some id => ⟨attributes, some (.duplicated id)⟩
  | none => convertEach descriptors attributes

end Conversion

end Issuer
