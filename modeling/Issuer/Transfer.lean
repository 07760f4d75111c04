import Issuer.Fault
import Issuer.Text.Encoding
import Issuer.Log.Event
/-!
# Transfers

Documents are fetched with GET requests.  What a network answers to a URL is a response or a
trouble; the kind of trouble decides how it is told.
-/
namespace Issuer

inductive Trouble where
  | connection
  | status
  | timeout
  | other
  | foreign
  deriving DecidableEq, Repr

inductive Reply where
  | response (status : Int) (reason : Text) (body : Bytes)
  | trouble (kind : Trouble) (fault : Fault)

abbrev Network := Text → Reply

structure Request where
  url : Text
  options : Members

def version : Text := "0.1.0"

def Request.headers : Members :=
  [("Accept", .str "application/json"), ("User-Agent", .str ("IssuerNode/" ++ version))]

/-- What an activity does besides its result: the requests it makes and the events it tells. -/
structure Activity where
  requests : List Request := []
  events : List Log.Event := []

def Activity.append (a b : Activity) : Activity := ⟨a.requests ++ b.requests, a.events ++ b.events⟩

def statusText (side : Text) (url : Text) (status : Int) (reason : Text) : Text :=
  Text.ofInt status ++ " " ++ side ++ " Error: " ++ reason ++ " for url: " ++ url

/-- The body of a reply, or the trouble that it is.  Responses from 400 to 599 are errors: up to
499 the request is to blame, from 500 on the server. -/
def Reply.body (url : Text) : Reply → Except (Trouble × Fault) Bytes
  | response status reason body =>
    if 400 ≤ status && status < 500 then
      .error (.status, .outside .httpStatus (statusText "Client" url status reason))
    else if 500 ≤ status && status < 600 then
      .error (.status, .outside .httpStatus (statusText "Server" url status reason))
    else .ok body
  | trouble kind fault => .error (kind, fault)

end Issuer
