import Issuer.Yaml.Node
import Issuer.Yaml.Plain
import Issuer.Yaml.Token.Scan
/-!
# Reading YAML

`Yaml.ofText` reads the only document of a text.  A later pair of a mapping replaces an earlier one
of the same key; mappings that are merged in come before a mapping's own pairs.
-/
namespace Issuer.Yaml

def standardStem : Text := "tag:yaml.org,2002:"

inductive Tag where
  | scalar (kind : Plain.Kind)
  | sequence
  | mapping
  deriving DecidableEq, Repr

def tags : List (Text × Tag) := [
  ("null", .scalar .null), ("bool", .scalar .bool), ("int", .scalar .int),
  ("float", .scalar .float), ("timestamp", .scalar .moment), ("str", .scalar .text),
  ("seq", .sequence), ("map", .mapping)]

/-- The kind of a node with a tag of its own; without one, or with a single exclamation mark, the
kind is `implied`. -/
def tagOf (implied : Tag) : Option Text → Except Problem Tag
  | none => .ok implied
  | some t =>
    if t = "!" then .ok implied
    else match (Text.afterPrefix? standardStem t).bind fun name => tags.lookup name with
      | some tag => .ok tag
      | none => .error .badValue

def scalarTag (ps : Properties) (text : Text) (plain : Bool) : Except Problem Tag :=
  let bySpelling := plain || ps.tag == some ("!" : Text)
  tagOf (.scalar (if bySpelling then Plain.kind text else .text)) ps.tag

def scalarValue? (text : Text) : Plain.Kind → Option Yaml
  | .null => some null
  | .bool =>
    let lower := text.map CodePoint.asciiLower
    if Plain.trues.contains lower then some (bool true)
    else if Plain.falses.contains lower then some (bool false) else none
  | .int => (Plain.int? text).map int
  | .float => (Plain.float? text).map float
  | .moment => (Plain.validMoment? text).map moment
  | .text => some (str text)
  | .merge | .default => none

def orBad {α : Type} : Option α → Except Problem α
  | some a => .ok a
  | none => .error .badValue

def isMerge : Node → Bool
  | .scalar ps text plain => (scalarTag ps text plain).toOption == some (.scalar .merge)
  | _ => false

/-- The value of a key that is a scalar; the mark of a default value is a text there. -/
def keyValue (ps : Properties) (text : Text) (plain : Bool) : Except Problem Yaml := do
  match ← scalarTag ps text plain with
  | .scalar .default => return str text
  | .scalar kind => orBad (scalarValue? text kind)
  | .sequence | .mapping => throw Problem.badValue

mutual

def ofNode : Node → Except Problem Yaml
  | .reference _ => .error .badValue
  | .scalar ps text plain => do
    match ← scalarTag ps text plain with
    | .scalar kind => orBad (scalarValue? text kind)
    | .sequence | .mapping => throw Problem.badValue
  | .sequence ps items => do
    if (← tagOf .sequence ps.tag) != .sequence then throw Problem.badValue
    return list (← ofItems items)
  | .mapping ps pairs => do
    if (← tagOf .mapping ps.tag) != .mapping then throw Problem.badValue
    let (merged, own) ← ofPairs pairs
    return map ((merged ++ own).foldl (fun done (k, v) => setPair k v done) [])

def ofItems : List Node → Except Problem (List Yaml)
  | [] => .ok []
  | n :: ns => do return (← ofNode n) :: (← ofItems ns)

def ofKey : Node → Except Problem Yaml
  | .reference _ => .error .badValue
  | .scalar ps text plain => keyValue ps text plain
  | .sequence _ _ | .mapping _ _ => .error .badValue

def ofPairs : List (Node × Node) → Except Problem (List (Yaml × Yaml) × List (Yaml × Yaml))
  | [] => .ok ([], [])
  | (k, v) :: rest => do
    if isMerge k then
      let merged ← mergedPairs v
      let (others, own) ← ofPairs rest
      return (merged ++ others, own)
    else
      let pair := (← ofKey k, ← ofNode v)
      let (merged, own) ← ofPairs rest
      return (merged, pair :: own)

/-- The pairs of a mapping that is merged, or of several, the last one first. -/
def mergedPairs : Node → Except Problem (List (Yaml × Yaml))
  | .mapping _ pairs => do
    let (merged, own) ← ofPairs pairs
    return merged ++ own
  | .sequence _ items => mergedItems items
  | .reference _ | .scalar .. => .error .badValue

/-- The pairs of several mappings that are merged, the last one first. -/
def mergedItems : List Node → Except Problem (List (Yaml × Yaml))
  | [] => .ok []
  | .mapping _ pairs :: rest => do
    let (merged, own) ← ofPairs pairs
    return (← mergedItems rest) ++ merged ++ own
  | _ :: _ => .error .badValue

end

/-- Reads a text; one without a document is null. -/
def ofText (leniency : Leniency) (t : Text) : Except Problem Yaml := do
  match ← Node.ofTokens? (← Token.scan leniency t) with
  | none => return null
  | some n => ofNode (← n.link []).1

end Issuer.Yaml
