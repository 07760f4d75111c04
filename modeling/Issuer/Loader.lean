import Issuer.Disk
import Issuer.Transfer
import Issuer.Url.Basic
/-!
# Loaders

A loader retrieves the bytes of a schema document from where its URL says: a server of HTTP, the
IPFS network through a gateway that speaks HTTP, or a file.  A URL is refused before anything is
requested from it if its host could be mistaken for another.
-/
namespace Issuer

namespace Loader

inductive Problem where
  | malformed (url : Text) (cause : Url.Problem)
  /-- The URL is not one of HTTP, or its host is not plain. -/
  | notDereferenced (url : Text)
  | notIpfs (url : Text)
  | gatewayRequired (url : Text)
  | ipfsMalformed (cause : Url.Problem)
  | unsupported (url : Text)
  | transfer (url : Text) (kind : Trouble) (cause : Fault)
  | file (path : Text) (cause : Disk.Problem)

def troubleMessage : Trouble → Text
  | .connection => "A connection error occurred: "
  | .status => "An HTTP error occurred: "
  | .timeout => "The request timed out: "
  | .other | .foreign => "An error occurred: "

/-- The failure that a problem is reported as.  A fault that has nothing to do with requests or
files is told as it is. -/
def Problem.failure : Problem → Failure
  | malformed url cause =>
    ⟨.ofMessage .schemaLoad ("Malformed URL: " ++ url), [.outside .invalidValue cause.message]⟩
  | notDereferenced url =>
    .of (.ofMessage .schemaLoad
      ("URL could not be dereferenced; only \"http\" and \"https\" URLs are supported: " ++ url))
  | notIpfs url => .of (.ofMessage .schemaLoad ("Invalid IPFS URL: " ++ url))
  | gatewayRequired url =>
    .of (.ofMessage .schemaLoad ("An IPFS gateway is required to load " ++ url))
  | ipfsMalformed cause => .of (.outside .invalidValue cause.message)
  | unsupported url => .of (.ofMessage .schemaLoad ("Unsupported schema URL scheme: " ++ url))
  | transfer url kind cause =>
    if kind = .foreign then .of cause
    else ⟨.ofMessage .schemaLoad (troubleMessage kind ++ url), [cause]⟩
  | file path cause =>
    if cause.isOfFiles then
      ⟨.ofMessage .schemaLoad ("Cannot read schema file: " ++ path), [cause.fault]⟩
    else .of cause.fault

/-! ## URLs that are requested from -/

def isHostPoint (c : CodePoint) : Bool :=
  c.isAsciiLetter || c.isDigit || c == '-' || c == '.' || c == '_' || c == ':'

def httpSchemes : List Text := ["http", "https"]

/-- Checks that a URL can be requested from: a scheme of HTTP, a plain host, no user. -/
def validateHttpUrl (url : Text) : Except Problem Unit :=
  match (do let parsed ← Url.parse url; let _ ← parsed.port?; return parsed) with
  | .error cause => .error (.malformed url cause)
  | .ok parsed =>
    if httpSchemes.contains parsed.scheme && !parsed.host.isEmpty && !parsed.netloc.contains '@' &&
        parsed.host.all isHostPoint then .ok ()
    else .error (.notDereferenced url)

def download (network : Network) (url : Text) (options : Members) :
    Except Problem Bytes × Activity :=
  match validateHttpUrl url with
  | .error p => (.error p, {})
  | .ok () =>
    let activity : Activity :=
      ⟨[⟨url, options⟩], [⟨.debug, .schemaLoader, "Downloading schema from " ++ url⟩]⟩
    match (network url).body url with
    | .ok body => (.ok body, activity)
    | .error (kind, fault) => (.error (.transfer url kind fault), activity)

end Loader

/-! ## Loaders -/

inductive Loader where
  | http (url : Text) (options : Members)
  | ipfs (url gateway : Text) (options : Members)
  | file (path : Text)

namespace Loader

def shownUrl (url : Option Text) : Text := url.getD "None"

def ofHttp (url : Option Text) (options : Members) : Except Problem Loader :=
  match url with
  | none => .error (.notDereferenced (shownUrl none))
  | some url => (validateHttpUrl url).map fun () => .http url options

/-- A loader from IPFS; the URL has the identifier of the content in place of a host. -/
def ofIpfs (url gateway : Option Text) (options : Members) : Except Problem Loader :=
  match url with
  | none => .error (.notIpfs (shownUrl none))
  | some url =>
    match Url.parse url with
    | .error cause => .error (.ipfsMalformed cause)
    | .ok parsed =>
      if parsed.scheme ≠ "ipfs" || parsed.netloc.isEmpty then .error (.notIpfs url)
      else match gateway with
        | none | some [] => .error (.gatewayRequired url)
        | some gateway => .ok (.ipfs url gateway options)

def ofFile (path : Text) : Loader := .file (Disk.tidy path)

def ofUrl (url gateway : Option Text) : Except Problem Loader :=
  match url with
  | none => .error (.unsupported (shownUrl none))
  | some text =>
    match Url.parse text with
    | .error cause => .error (.malformed text cause)
    | .ok parsed =>
      if httpSchemes.contains parsed.scheme then ofHttp url []
      else if parsed.scheme = "ipfs" then ofIpfs url gateway []
      else if parsed.scheme = "file" then .ok (ofFile (Url.decodePercent parsed.path))
      else .error (.unsupported text)

def gatewayUrl (url gateway : Text) : Text :=
  let path : Text := match Url.parse url with
    | .ok parsed => parsed.netloc ++ parsed.path
    | .error _ => ""
  Text.dropWhileEnd (· == '/') gateway ++ "/ipfs/" ++ path

def load (network : Network) (disk : Disk) : Loader → Except Problem Bytes × Activity
  | http url options => download network url options
  | ipfs url gateway options => download network (gatewayUrl url gateway) options
  | file path =>
    match disk.read path with
    | .ok content => (.ok content, {})
    | .error cause => (.error (.file path cause), {})

end Loader

end Issuer
