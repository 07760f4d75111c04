import Issuer.Database.Backend
import Issuer.Database.Url
import Issuer.Log.Event
import Issuer.Settings
/-!
# Migration

A run brings a database up to date: it opens a connection, reads the scripts, takes the lock,
applies the scripts that are not recorded as applied, in order, gives the lock back and closes the
connection.  Whatever step fails, a lock that was taken is given back and an open connection is
closed.

A run is described by the effects that it has on the database, in order; what its steps give is up
to the backend.
-/
namespace Issuer.Database

inductive Effect where
  | openBackend (url : Text)
  | readScripts (scripts : Scripts)
  | lock
  | toApply (ids : List Text)
  | applyAll (ids : List Text)
  | apply (id : Text)
  | unlock
  | close
  deriving DecidableEq

structure Progress where
  applied : List Text
  effects : List Effect := []
  events : List Log.Event := []

/-- A part of a run: it goes on from how the run went before, and may fail with a fault. -/
abbrev Part (α : Type) := Progress → Except Trouble α × Progress

namespace Part

instance : Monad Part where
  pure a p := (.ok a, p)
  bind part next p :=
    match part p with
    | (.ok a, p) => next a p
    | (.error t, p) => (.error t, p)

def step {α : Type} (e : Effect) (answer : Except Trouble α) : Part α := fun p =>
  (answer, { p with effects := p.effects ++ [e] })

def tell (e : Log.Event) : Part Unit := fun p => (.ok (), { p with events := p.events ++ [e] })

def applied : Part (List Text) := fun p => (.ok p.applied, p)

def conclude (a : Application) : Part Unit := fun p =>
  (a.result, { p with
    applied := p.applied ++ a.recorded
    effects := p.effects ++ a.begun.map .apply })

/-- Does the last part after the first, whether that failed or not; a failure of the last part
replaces one of the first. -/
def ending {α : Type} (first : Part α) (last : Part Unit) : Part α := fun p =>
  match first p with
  | (result, p) =>
    match last p with
    | (.ok (), p) => (result, p)
    | (.error t, p) => (.error t, p)

end Part

/-! ## Parts of a run -/

def applyingEvent (shown : Text) (pending all : Nat) : Log.Event where
  severity := .info
  source := .migration
  message := "Applying " ++ Text.ofNat pending ++ " of " ++ Text.ofNat all ++ " migrations to " ++
    shown

def completeEvent : Log.Event := ⟨.info, .migration, "Database migrations complete"⟩

namespace Backend

def applyPending (b : Backend) (shown : Text) (ids : List Text) : Part Unit := do
  let applied ← Part.applied
  let pending ← Part.step (.toApply ids) (b.toApply applied ids)
  Part.tell (applyingEvent shown pending.length ids.length)
  Part.step (.applyAll pending) (.ok ())
  Part.conclude (b.applyAll applied pending)

def runScripts (b : Backend) (scripts : Scripts) (shown : Text) : Part Unit := do
  let ids ← Part.step (.readScripts scripts) (b.readScripts scripts)
  Part.step .lock b.lock
  Part.ending (b.applyPending shown ids) (Part.step .unlock b.unlock)

end Backend

/-! ## Runs -/

inductive Problem where
  | url (cause : UrlProblem)
  | connection (shown : Text) (cause : Fault)
  | scripts (cause : Fault)
  | escaped (cause : Fault)

def Problem.failure : Problem → Failure
  | url cause => cause.failure
  | connection shown cause =>
    ⟨.ofMessage .databaseConnection ("Error opening connection with database " ++ shown), [cause]⟩
  | scripts cause => ⟨.ofMessage .migration "Error trying to run migrations", [cause]⟩
  | escaped cause => .of cause

structure Outcome where
  result : Except Problem Unit
  progress : Progress

namespace Backend

def migrateOpen (b : Backend) (scripts : Scripts) (shown : Text) (before : Progress) : Outcome :=
  let (result, p) := b.runScripts scripts shown before
  let (closed, p) := Part.step .close b.close p
  match closed, result with
  | .error t, _ => ⟨.error (.escaped t.fault), p⟩
  | .ok (), .error t => ⟨.error (.scripts t.fault), p⟩
  | .ok (), .ok () => ⟨.ok (), { p with events := p.events ++ [completeEvent] }⟩

def migrate (b : Backend) (url : Text) (scripts : Scripts) (applied : List Text) : Outcome :=
  let before : Progress := { applied }
  match target url with
  | .error cause => ⟨.error (.url cause), before⟩
  | .ok target =>
    match Part.step (.openBackend target.backend) (b.openBackend target.backend) before with
    | (.error t, p) =>
      if t.isOfConnection then ⟨.error (.connection target.shown t.fault), p⟩
      else ⟨.error (.escaped t.fault), p⟩
    | (.ok (), p) => b.migrateOpen scripts target.shown p

end Backend

/-- Brings the database at a URL up to date, where steps fail as planned. -/
def migrate (plan : Plan) (disk : Disk) (url : Text) (scripts : Scripts) (applied : List Text) :
    Outcome :=
  (plan.backend disk).migrate url scripts applied

def commandFailure (problem : Problem) : Failure :=
  let f := problem.failure
  match f.fault with
  | .own kind _ _ =>
    if kind.isA .database then
      f.under (.ofMessage .migrateCommand "Error during database migration")
    else f
  | _ => f

/-- Brings the database that settings name up to date with the program's own scripts. -/
def Backend.runMigrations (b : Backend) (settings : Settings) (applied : List Text) :
    Except Failure Unit × Progress :=
  match settings.require "database.url" with
  | .error fault => (.error (.of fault), { applied })
  | .ok url =>
    let outcome := b.migrate url.display .packaged applied
    (outcome.result.mapError commandFailure, outcome.progress)

end Issuer.Database
