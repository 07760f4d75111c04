import Issuer.Database.Script
/-!
# Backends

What a run asks of the database and of the library that reaches it: to open a connection, to read
the scripts, to take the lock, to tell which scripts are to be applied, to apply them, to give the
lock back and to close the connection.  A backend says what each step gives or how it fails.  A plan
is a backend whose failing steps are named beforehand; it applies exactly the scripts that are not
recorded as applied.
-/
namespace Issuer.Database

structure Trouble where
  isOfConnection : Bool
  fault : Fault

structure Application where
  begun : List Text := []
  recorded : List Text := []
  result : Except Trouble Unit := .ok ()

structure Backend where
  openBackend : (url : Text) → Except Trouble Unit
  readScripts : Scripts → Except Trouble (List Text)
  lock : Except Trouble Unit
  toApply : (applied ids : List Text) → Except Trouble (List Text)
  applyAll : (applied ids : List Text) → Application
  unlock : Except Trouble Unit
  close : Except Trouble Unit

/-! ## Plans -/

inductive Step where
  | openBackend
  | readScripts
  | lock
  | toApply
  | applyAll
  | apply
  | unlock
  | close
  deriving DecidableEq, Repr

/-- A step that fails: always, or for one script only. -/
structure Planned where
  trouble : Trouble
  script : Option Text

abbrev Plan := Step → Option Planned

namespace Plan

def answer {α : Type} (plan : Plan) (step : Step) (a : α) : Except Trouble α :=
  match plan step with
  | some planned => .error planned.trouble
  | none => .ok a

def troubleAt? (plan : Plan) (id : Text) : Option Trouble :=
  ((plan .apply).filter fun planned => planned.script.all (· == id)).map Planned.trouble

/-- Applies scripts in order, up to the first that fails. -/
def applyEach (plan : Plan) : List Text → Application
  | [] => {}
  | id :: rest =>
    match plan.troubleAt? id with
    | some t => { begun := [id], result := .error t }
    | none =>
      let a := applyEach plan rest
      { a with begun := id :: a.begun, recorded := id :: a.recorded }

def backend (plan : Plan) (disk : Disk) : Backend where
  openBackend _ := plan.answer .openBackend ()
  readScripts scripts := do
    plan.answer .readScripts ()
    (scripts.read disk).mapError fun problem => ⟨false, problem.fault⟩
  lock := plan.answer .lock ()
  toApply applied ids := plan.answer .toApply (ids.filter fun id => !applied.contains id)
  applyAll _ ids :=
    match plan .applyAll with
    | some planned => { result := .error planned.trouble }
    | none => applyEach plan ids
  unlock := plan.answer .unlock ()
  close := plan.answer .close ()

end Plan

end Issuer.Database
