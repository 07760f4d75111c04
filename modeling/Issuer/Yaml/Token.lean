import Issuer.Text.Basic
/-!
# Tokens of YAML

The tokens of a document in the order in which they stand.  What starts a mapping's key shows only
later, at the colon behind it; `Token.weave` puts the tokens that say so in front of the key.
-/
namespace Issuer.Yaml

inductive Problem where
  /-- A code point that no document may hold. -/
  | unprintable
  | badToken
  | badNode
  | badValue
  deriving DecidableEq, Repr

inductive Directive where
  | version (major minor : Nat)
  | handle (handle stem : Text)
  | other
  deriving DecidableEq, Repr

inductive Token where
  | directive (d : Directive)
  | documentStart
  | documentEnd
  | blockSequence
  | blockMapping
  | blockEnd
  | flowSequence
  | flowSequenceEnd
  | flowMapping
  | flowMappingEnd
  | blockEntry
  | flowEntry
  | key
  | value
  | reference (name : Text)
  | anchor (name : Text)
  | tag (handle : Option Text) (suffix : Text)
  | scalar (text : Text) (plain : Bool)
  deriving DecidableEq, Repr

namespace Token

abbrev KeyMark := Nat × Bool

def weave (marks : List KeyMark) (tokens : List Token) : List Token :=
  tokens.zipIdx.flatMap fun (t, number) =>
    match marks.lookup number with
    | none => [t]
    | some true => [blockMapping, key, t]
    | some false => [key, t]

end Token

end Issuer.Yaml
