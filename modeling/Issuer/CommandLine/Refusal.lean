import Issuer.CommandLine.Flag
import Issuer.Fault
/-!
# Refusals

Why a command line is refused.  A refusal ends the program; its message is all that is told.
-/
namespace Issuer.CommandLine

inductive Refusal where
  | ambiguous (argument : Text) (spellings : List Text)
  | missingArgument (flag : Flag)
  | needlessArgument (flag : Flag) (argument : Text)
  | unrecognized (arguments : List Text)
  | badChoice (choice : Text) (choices : List Text)
  | unopenedFile (path reason : Text)
  | unreadableFile
  | badLine (number : Nat) (path line : Text)
  | notKeyed (path kind : Text)
  | needlessList (key shown : Text)
  /-- A value that neither sets nor clears a flag without an argument. -/
  | notSwitch (key value : Text)

/-- The spellings that set or clear a flag without an argument. -/
def switchWords : List (Text × Bool) := [
  ("true", true), ("false", false), ("yes", true), ("no", false), ("on", true), ("off", false),
  ("1", true), ("0", false)]

def listedSwitchWords : Text :=
  let words := switchWords.map fun (word, _) => "'" ++ word ++ "'"
  Text.join ", " words.dropLast ++ " or " ++ words.getLast?.getD ""

def Refusal.message : Refusal → Text
  | ambiguous argument spellings =>
    "ambiguous option: " ++ argument ++ " could match " ++ Text.join ", " spellings
  | missingArgument flag => "argument " ++ flag.label ++ ": expected one argument"
  | needlessArgument flag argument =>
    "argument " ++ flag.label ++ ": ignored explicit argument " ++ argument.quoted
  | unrecognized arguments => "unrecognized arguments: " ++ Text.join " " arguments
  | badChoice choice choices =>
    "argument \x7b" ++ Text.join "," choices ++ "\x7d: invalid choice: " ++ choice.quoted ++
      " (choose from " ++ Text.join ", " (choices.map Text.quoted) ++ ")"
  | unopenedFile path reason => "Unable to open config file: " ++ path ++ ". Error: " ++ reason
  | unreadableFile => "Couldn't parse config file"
  | badLine number path line =>
    "Unexpected line " ++ Text.ofNat number ++ " in " ++ path ++ ": " ++ line
  | notKeyed path kind =>
    "The config file doesn't appear to contain 'key: value' pairs (aka. a YAML mapping). " ++
      "yaml.load('" ++ path ++ "') returned type '" ++ kind ++ "' instead of 'dict'."
  | needlessList key shown =>
    key ++ " can't be set to a list '" ++ shown ++ "' unless its action type is changed to " ++
      "'append' or nargs is set to '*', '+', or > 1"
  | notSwitch key value =>
    "Unexpected value for " ++ key ++ ": '" ++ value ++ "'. Expecting " ++ listedSwitchWords

inductive Stop where
  | help
  | refused (refusal : Refusal)
  | fault (fault : Fault)

end Issuer.CommandLine
