import Issuer.CommandLine.Flag
/-!
# Commands

What the program can be asked to do.  A command that acts has flags of its own; the remaining one
shows help.
-/
namespace Issuer

inductive Command where
  | help
  | migrate
  | schema
  deriving DecidableEq, Repr

namespace Command

def all : List Command := [help, migrate, schema]

def name : Command → Text
  | help => "help"
  | migrate => "migrate"
  | schema => "schema"

def summary : Command → Text
  | help => "Print available commands"
  | migrate => "Apply database migrations"
  | schema => "Inspect a credential schema"

def ofName? (n : Text) : Option Command := all.find? fun c => c.name == n

def category? : Command → Option CommandLine.Category
  | help => none
  | migrate => some .migrate
  | schema => some .schema

def ofCategory : CommandLine.Category → Command
  | .migrate => migrate
  | .schema => schema

def actingNames : List Text := (all.filter fun c => c.category?.isSome).map name

def actingCategory? (n : Text) : Option CommandLine.Category := (ofName? n).bind category?

end Command

end Issuer
