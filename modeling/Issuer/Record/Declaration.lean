import Issuer.Record
/-!
# Declarations of records

A kind of record says which schema its fields obey, and a schema says which kind of record it
makes.  A declaration that leaves this out makes nothing, and one whose schema is not known reads
nothing.
-/
namespace Issuer.Record

/-- A kind of record and the name of its schema, null if it names none. -/
structure Declaration where
  name : Text
  schema : Json

namespace Declaration

inductive Problem where
  | noSchema (name : Text)
  | unresolved (name : Text)
  | noRecord (name : Text)
  deriving DecidableEq, Repr

def Problem.message : Problem → Text
  | noSchema name => "Can't instantiate abstract class " ++ name ++ " with no schema_class"
  | unresolved name => "Cannot resolve schema class for " ++ name
  | noRecord name => "Can't instantiate abstract class " ++ name ++ " with no model_class"

/-- Makes a bare record: the declaration has to name a schema. -/
def make (d : Declaration) : Except Problem Unit :=
  if d.schema.isTruthy then .ok () else .error (.noSchema d.name)

def read (known : List (Text × List Field)) (d : Declaration) (v : Json) :
    Except Problem (Except Record.Problem Members) :=
  match d.schema.text?.bind fun name => known.lookup name with
  | some fields => .ok (Record.read fields v)
  | none => .error (.unresolved d.name)

def makeSchema (name : Text) (record : Json) : Except Problem Unit :=
  if record.isTruthy then .ok () else .error (.noRecord name)

end Declaration

end Issuer.Record
