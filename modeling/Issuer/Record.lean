import Issuer.Fault.Signature
/-!
# Records

A record is read from a JSON object by the rules of its fields and written back without the fields
that are null.  Members without a rule are ignored.  Of an object that is refused every offending
field is told, in the order of the rules.
-/
namespace Issuer

namespace Record

inductive FieldKind where
  | text
  | any
  deriving DecidableEq

structure Field where
  name : Text
  kind : FieldKind
  required : Bool
  nullable : Bool

inductive FieldProblem where
  | missing
  | null
  | notText
  deriving DecidableEq, Repr

def FieldProblem.message : FieldProblem → Text
  | missing => "Missing data for required field."
  | null => "Field may not be null."
  | notText => "Not a valid string."

inductive Problem where
  | notObject
  | fields (problems : List (Text × FieldProblem))
  deriving DecidableEq, Repr

def Problem.toJson : Problem → Json
  | notObject => .obj [("_schema", .arr [.str "Invalid input type."])]
  | fields problems => .obj (problems.map fun (name, p) => (name, .arr [.str p.message]))

def Problem.message (p : Problem) : Text := p.toJson.inspect

def Problem.failure (owner : Text) (p : Problem) : Failure :=
  ⟨.ofMessage .model (owner ++ " schema validation failed"), [.outside .invalidRecord p.message]⟩

/-- What is wrong with a member, if anything; `none` stands for an absent one. -/
def Field.problem? (f : Field) : Option Json → Option FieldProblem
  | none => if f.required then some .missing else none
  | some .null => if f.nullable then none else some .null
  | some v => if f.kind = .text && !v.isString then some .notText else none

def read (fields : List Field) (v : Json) : Except Problem Members :=
  match v with
  | .obj ms =>
    let problems := fields.filterMap fun f => (f.problem? (Members.get? ms f.name)).map (f.name, ·)
    if problems.isEmpty then
      .ok (fields.filterMap fun f => (Members.get? ms f.name).map (f.name, ·))
    else .error (.fields problems)
  | _ => .error .notObject

/-- A field's value as it is written: fields of text show other values as text. -/
def Field.write (f : Field) (v : Json) : Json :=
  match v with
  | .null => .null
  | v => if f.kind = .text then .str v.display else v

def write (fields : List Field) (values : Members) : Members :=
  fields.filterMap fun f =>
    match f.write ((values.get? f.name).getD .null) with
    | .null => none
    | v => some (f.name, v)

def signature (owner : Text) (fields : List Field) : Signature :=
  ⟨owner, [], false, fields.map (·.name)⟩

def writeGiven (owner : Text) (fields : List Field) (given : Members) :
    Except Signature.Problem Members :=
  ((signature owner fields).bind [] given).map fun b => write fields b.named

end Record

end Issuer
