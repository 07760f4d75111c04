import Issuer.Record
/-!
# Attributes

A schema declares attributes; a holder supplies credential attributes, each a name and a value.
Both are records.
-/
namespace Issuer

/-! ## Attributes of a schema -/

structure Attribute where
  id : Option Text := none
  title : Option Text := none
  type : Option Text := none
  format : Option Text := none
  deriving DecidableEq, Repr

namespace Attribute

def owner : Text := "Attribute"

/-- The fields of an attribute: texts that may be absent; only the id may not be null. -/
def fields : List Record.Field :=
  [⟨"id", .text, false, false⟩, ⟨"title", .text, false, true⟩, ⟨"type", .text, false, true⟩,
    ⟨"format", .text, false, true⟩]

def ofMembers (ms : Members) : Attribute where
  id := (ms.get? "id").bind Json.text?
  title := (ms.get? "title").bind Json.text?
  type := (ms.get? "type").bind Json.text?
  format := (ms.get? "format").bind Json.text?

def ofJson (v : Json) : Except Record.Problem Attribute := (Record.read fields v).map ofMembers

def toMembers (a : Attribute) : Members :=
  [("id", .ofText? a.id), ("title", .ofText? a.title), ("type", .ofText? a.type),
    ("format", .ofText? a.format)]

def toJson (a : Attribute) : Json := .obj (Record.write fields a.toMembers)

def shown (t : Option Text) : Text := t.getD "None"

/-- The label of an attribute: `title(id)`, or the id alone if it has no title.  An attribute
without either has none. -/
def label? (a : Attribute) : Option Text :=
  match a.title with
  | none | some [] => a.id
  | some title => some (title ++ "(" ++ shown a.id ++ ")")

/-- The attributes by id, in order; of those with one id the last stands in the place of the
first. -/
def byId (attributes : List Attribute) : List (Option Text × Attribute) :=
  attributes.foldl (fun found a =>
    if found.any (·.1 == a.id) then found.map fun (id, b) => (id, if id = a.id then a else b)
    else found ++ [(a.id, a)]) []

def labels? (attributes : List Attribute) : Option (List Text) := attributes.mapM label?

end Attribute

/-! ## Attributes of a credential -/

structure CredentialAttribute where
  name : Option Text := none
  value : Json := .null
  deriving DecidableEq, Repr

namespace CredentialAttribute

def owner : Text := "CredentialAttribute"

/-- The fields of a credential attribute; both are required and neither may be null. -/
def fields : List Record.Field := [⟨"name", .text, true, false⟩, ⟨"value", .any, true, false⟩]

def ofMembers (ms : Members) : CredentialAttribute where
  name := (ms.get? "name").bind Json.text?
  value := (ms.get? "value").getD .null

def ofJson (v : Json) : Except Record.Problem CredentialAttribute :=
  (Record.read fields v).map ofMembers

def toMembers (a : CredentialAttribute) : Members := [("name", .ofText? a.name), ("value", a.value)]

def toJson (a : CredentialAttribute) : Json := .obj (Record.write fields a.toMembers)

end CredentialAttribute

end Issuer
