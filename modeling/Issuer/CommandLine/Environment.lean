import Issuer.Log.Logging
/-!
# The environment

What a run finds of the system around it besides files: variables, the users with their home
directories, and what is installed for logging.
-/
namespace Issuer.CommandLine

structure Environment where
  assigned : List (Text × Text)
  /-- The home directory of a user; the empty name is that of the user who runs the program. -/
  home? : Text → Option Text := fun _ => none
  installed : Log.Installed := {}

namespace Environment

instance : Coe (List (Text × Text)) Environment := ⟨fun assigned => { assigned }⟩

def lookup (env : Environment) (name : Text) : Option Text := env.assigned.lookup name

def homeVariable : Text := "HOME"

/-- A path with a home directory in the place of the tilde and the name at its start. -/
def expandHome (env : Environment) (path : Text) : Text :=
  match path with
  | '~' :: rest =>
    let (user, below) : Text × Text := match Text.partition? '/' rest with
      | some (user, below) => (user, '/' :: below)
      | none => (rest, [])
    let given := if user.isEmpty then env.lookup homeVariable else none
    match given.or (env.home? user) with
    | none => path
    | some home =>
      let expanded := Text.dropWhileEnd (· == '/') home ++ below
      if expanded.isEmpty then "/" else expanded
  | _ => path

end Environment

end Issuer.CommandLine
