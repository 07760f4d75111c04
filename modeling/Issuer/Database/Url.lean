import Issuer.Fault
import Issuer.Url.Basic
/-!
# Database URLs

A database is named by a URL whose scheme says PostgreSQL, alone or with a driver after a plus
sign.  The backend gets it with its own scheme; the log gets it without the credentials before the
last `@` and without the query.
-/
namespace Issuer.Database

def backendScheme : Text := "postgresql+psycopg"

def supportedDialects : List Text := ["postgres", "postgresql"]

inductive UrlProblem where
  | malformed (cause : Url.Problem)
  /-- The dialect is not supported; the scheme is shown, or the whole of a URL without one. -/
  | dialect (shown : Text)
  /-- The port is none; the URL is shown without secrets. -/
  | port (redacted : Text) (cause : Url.Problem)
  deriving DecidableEq, Repr

def UrlProblem.failure : UrlProblem → Failure
  | malformed cause => .of (.outside .invalidValue cause.message)
  | dialect shown =>
    .of (.ofMessage .dialect ("Unsupported database dialect '" ++ shown ++
      "', only postgresql is supported"))
  | port redacted cause =>
    ⟨.ofMessage .databaseConnection ("Invalid database URL " ++ redacted),
      [.outside .invalidValue cause.message]⟩

def dialectOf (scheme : Text) : Text := scheme.takeWhile (· ≠ CodePoint.ofChar '+')

def redacted (u : Url) : Text :=
  { u with netloc := Url.hostPart u.netloc, query := [] }.toText

def redactUrl (url : Text) : Except Url.Problem Text := (Url.parse url).map redacted

structure Target where
  backend : Text
  shown : Text
  deriving DecidableEq, Repr

def target (url : Text) : Except UrlProblem Target :=
  match Url.parse url with
  | .error cause => .error (.malformed cause)
  | .ok parsed =>
    if !supportedDialects.contains (dialectOf parsed.scheme) then
      .error (.dialect (if parsed.scheme.isEmpty then url else parsed.scheme))
    else match parsed.port? with
      | .error cause => .error (.port (redacted parsed) cause)
      | .ok _ => .ok ⟨{ parsed with scheme := backendScheme }.toText, redacted parsed⟩

def backendUrl (url : Text) : Except UrlProblem Text := (target url).map Target.backend

end Issuer.Database
