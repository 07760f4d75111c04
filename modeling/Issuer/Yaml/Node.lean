import Issuer.Yaml.Token
/-!
# Nodes

The tree that the tokens of a document make up.  A node may bear an anchor, by which aliases
further on stand for it, and a tag, which says what kind of value it is.
-/
namespace Issuer.Yaml

structure Properties where
  anchor : Option Text := none
  tag : Option Text := none
  deriving DecidableEq, Repr

inductive Node where
  | reference (name : Text)
  | scalar (properties : Properties) (text : Text) (plain : Bool)
  | sequence (properties : Properties) (items : List Node)
  | mapping (properties : Properties) (pairs : List (Node × Node))

namespace Node

abbrev Handles := List (Text × Text)

def standardHandles : Handles := [("!", "!"), ("!!", "tag:yaml.org,2002:")]

def empty : Node := scalar {} "" true

abbrev Reader := StateT (List Token) (Except Problem)

namespace Reader

def fail {α : Type} : Reader α := throw .badNode

def peek : Reader (Option Token) := return (← get).head?

def skip : Reader Unit := modify List.tail

def accept (t : Token) : Reader Bool := do
  if (← peek) = some t then
    skip
    return true
  else return false

def expect (t : Token) : Reader Unit := do
  if !(← accept t) then fail

def isAt (ts : List Token) : Reader Bool := return (← peek).any ts.contains

def tagOf (handles : Handles) : Option Text → Text → Reader Text
  | none, suffix => return suffix
  | some handle, suffix =>
    match handles.lookup handle with
    | some stem => return stem ++ suffix
    | none => fail

def anchor? : Reader (Option Text) := do
  match ← peek with
  | some (.anchor name) => skip; return some name
  | _ => return none

def tag? (handles : Handles) : Reader (Option Text) := do
  match ← peek with
  | some (.tag handle suffix) => skip; return some (← tagOf handles handle suffix)
  | _ => return none

def properties (handles : Handles) : Reader Properties := do
  match ← anchor? with
  | some name => return ⟨some name, ← tag? handles⟩
  | none =>
    let tag ← tag? handles
    let anchor ← if tag.isSome then anchor? else pure none
    return ⟨anchor, tag⟩

inductive Place where
  | block
  /-- In a block mapping, where a sequence need not be indented. -/
  | blockMapping
  | flow
  deriving DecidableEq

mutual

/-- Reads a node; `fuel` bounds the calls, of which every other one takes a token. -/
def node (handles : Handles) (place : Place) : Nat → Reader Node
  | 0 => fail
  | fuel + 1 => do
    if let some (.reference name) ← peek then
      skip
      return .reference name
    let ps ← properties handles
    match ← peek, place with
    | some .blockEntry, .blockMapping => return .sequence ps (← looseEntries handles fuel)
    | some (.scalar text plain), _ =>
      skip
      return .scalar ps text plain
    | some .flowSequence, _ =>
      skip
      return .sequence ps (← flowItems handles true fuel)
    | some .flowMapping, _ =>
      skip
      return .mapping ps (← flowPairs handles true fuel)
    | some .blockSequence, .block | some .blockSequence, .blockMapping =>
      skip
      return .sequence ps (← blockEntries handles fuel)
    | some .blockMapping, .block | some .blockMapping, .blockMapping =>
      skip
      return .mapping ps (← blockPairs handles fuel)
    | _, _ =>
      if ps.anchor.isNone && ps.tag.isNone then fail
      return .scalar ps "" true

def nodeBefore (handles : Handles) (place : Place) (ends : List Token) : Nat → Reader Node
  | 0 => fail
  | fuel + 1 => do
    if ← isAt ends then return empty
    node handles place fuel

def blockEntries (handles : Handles) : Nat → Reader (List Node)
  | 0 => fail
  | fuel + 1 => do
    if ← accept .blockEntry then
      let item ← nodeBefore handles .block [.blockEntry, .blockEnd] fuel
      return item :: (← blockEntries handles fuel)
    expect .blockEnd
    return []

def looseEntries (handles : Handles) : Nat → Reader (List Node)
  | 0 => fail
  | fuel + 1 => do
    if ← accept .blockEntry then
      let item ← nodeBefore handles .block [.blockEntry, .key, .value, .blockEnd] fuel
      return item :: (← looseEntries handles fuel)
    return []

def blockPairs (handles : Handles) : Nat → Reader (List (Node × Node))
  | 0 => fail
  | fuel + 1 => do
    if ← accept .key then
      let ends : List Token := [.key, .value, .blockEnd]
      let k ← nodeBefore handles .blockMapping ends fuel
      let v ← if ← accept .value then nodeBefore handles .blockMapping ends fuel else pure empty
      return (k, v) :: (← blockPairs handles fuel)
    expect .blockEnd
    return []

/-- The items of a flow sequence and its end; a key starts a mapping of one pair. -/
def flowItems (handles : Handles) (isFirst : Bool) : Nat → Reader (List Node)
  | 0 => fail
  | fuel + 1 => do
    if ← accept .flowSequenceEnd then return []
    if !isFirst then expect .flowEntry
    if ← accept .key then
      let k ← nodeBefore handles .flow [.value, .flowEntry, .flowSequenceEnd] fuel
      let v ← if ← accept .value then nodeBefore handles .flow [.flowEntry, .flowSequenceEnd] fuel
        else pure empty
      return .mapping {} [(k, v)] :: (← flowItems handles false fuel)
    if ← accept .flowSequenceEnd then return []
    let item ← node handles .flow fuel
    return item :: (← flowItems handles false fuel)

/-- The pairs of a flow mapping and its end; a node without a key's mark has the empty value. -/
def flowPairs (handles : Handles) (isFirst : Bool) : Nat → Reader (List (Node × Node))
  | 0 => fail
  | fuel + 1 => do
    if ← accept .flowMappingEnd then return []
    if !isFirst then expect .flowEntry
    if ← accept .key then
      let k ← nodeBefore handles .flow [.value, .flowEntry, .flowMappingEnd] fuel
      let v ← if ← accept .value then nodeBefore handles .flow [.flowEntry, .flowMappingEnd] fuel
        else pure empty
      return (k, v) :: (← flowPairs handles false fuel)
    if ← accept .flowMappingEnd then return []
    let k ← node handles .flow fuel
    return (k, empty) :: (← flowPairs handles false fuel)

end

/-! ## Documents -/

def directives (isVersioned : Bool) (own : Handles) :
    List Token → Except Problem (Handles × List Token)
  | .directive (.version major _) :: rest =>
    if isVersioned || major != 1 then throw .badNode else directives true own rest
  | .directive (.handle handle stem) :: rest =>
    if (own.lookup handle).isSome then throw .badNode
    else directives isVersioned ((handle, stem) :: own) rest
  | .directive .other :: rest => directives isVersioned own rest
  | rest => .ok (own ++ standardHandles, rest)

def endsDocument : Option Token → Bool
  | none | some .documentStart | some .documentEnd | some (.directive _) => true
  | some _ => false

def document (handles : Handles) : Reader Node := do
  let tokens ← get
  let root ← if endsDocument tokens.head? then pure empty
    else node handles .block (4 * tokens.length + 4)
  modify (List.dropWhile (· == .documentEnd))
  if (← peek).isSome then fail
  return root

end Reader

/-- The node of a text's only document; a text without tokens has none. -/
def ofTokens? (tokens : List Token) : Except Problem (Option Node) := do
  match tokens.head? with
  | none => return none
  | some t =>
    let isExplicit := match t with
      | .directive _ | .documentStart => true
      | _ => false
    let (handles, rest) ← Reader.directives false [] tokens
    let rest ← match isExplicit, rest with
      | true, .documentStart :: rest => pure rest
      | true, _ => throw Problem.badNode
      | false, _ => pure rest
    let (root, _) ← (Reader.document handles).run rest
    return some root

/-! ## Aliases -/

abbrev Anchors := List (Text × Node)

def checkAnchor (ps : Properties) (anchors : Anchors) : Except Problem Unit :=
  if ps.anchor.any fun name => (anchors.lookup name).isSome then .error .badNode else .ok ()

def noteAnchor (ps : Properties) (n : Node) (anchors : Anchors) : Node × Anchors :=
  (n, (ps.anchor.map fun name => (name, n)).toList ++ anchors)

mutual

/-- Puts the nodes of anchors in the place of the aliases; every anchor has a name of its own. -/
def link (anchors : Anchors) : Node → Except Problem (Node × Anchors)
  | reference name =>
    match anchors.lookup name with
    | some n => .ok (n, anchors)
    | none => .error .badNode
  | scalar ps text plain => do
    checkAnchor ps anchors
    return noteAnchor ps (scalar ps text plain) anchors
  | sequence ps items => do
    checkAnchor ps anchors
    let (items, anchors) ← linkItems anchors items
    return noteAnchor ps (sequence ps items) anchors
  | mapping ps pairs => do
    checkAnchor ps anchors
    let (pairs, anchors) ← linkPairs anchors pairs
    return noteAnchor ps (mapping ps pairs) anchors

def linkItems (anchors : Anchors) : List Node → Except Problem (List Node × Anchors)
  | [] => .ok ([], anchors)
  | n :: ns => do
    let (n, anchors) ← link anchors n
    let (ns, anchors) ← linkItems anchors ns
    return (n :: ns, anchors)

def linkPairs (anchors : Anchors) :
    List (Node × Node) → Except Problem (List (Node × Node) × Anchors)
  | [] => .ok ([], anchors)
  | (k, v) :: rest => do
    let (k, anchors) ← link anchors k
    let (v, anchors) ← link anchors v
    let (rest, anchors) ← linkPairs anchors rest
    return ((k, v) :: rest, anchors)

end

end Node

end Issuer.Yaml
