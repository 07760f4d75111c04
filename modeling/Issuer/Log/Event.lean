import Issuer.Text.Basic
/-!
# Log events

What the program tells while it works.  Each event has a severity and a source, the part of the
program that it comes from; a level lets through the events that are at least as severe.
-/
namespace Issuer.Log

inductive Severity where
  | debug
  | info
  deriving DecidableEq, Repr

namespace Severity

def name : Severity → Text
  | debug => "DEBUG"
  | info => "INFO"

def level : Severity → Int
  | debug => 10
  | info => 20

end Severity

inductive Source where
  | schemaLoader
  | schemaDocument
  | schemaCommand
  | migration
  deriving DecidableEq, Repr

def Source.name : Source → Text
  | schemaLoader => "issuer_node.credential_schema.loader"
  | schemaDocument => "issuer_node.credential_schema.json_schema"
  | schemaCommand => "issuer_node.commands.schema"
  | migration => "issuer_node.database.migrate"

structure Event where
  severity : Severity
  source : Source
  message : Text
  deriving DecidableEq, Repr

/-- The events that a level lets through; level zero lets all through. -/
def atLevel (level : Int) (events : List Event) : List Event :=
  events.filter fun e => level ≤ e.severity.level

end Issuer.Log
