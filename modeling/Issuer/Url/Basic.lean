import Issuer.Text.Encoding
import Issuer.Text.Quoted
import Issuer.Url.Address
/-!
# URLs

A URL is taken apart at its delimiters and put together again; nothing in it is decoded meanwhile.
Blanks and controls before it, and tabs and line ends anywhere in it, do not count.  Putting it
together leaves out a query or a fragment that is empty.
-/
namespace Issuer

structure Url where
  scheme : Text
  netloc : Text
  path : Text
  params : Text
  query : Text
  fragment : Text
  deriving DecidableEq, Repr

namespace Url

/-- Why a text is no URL, or its port no port. -/
inductive Problem where
  | brackets
  | futureAddress
  | address (text : Text)
  | address4
  | delimiter (netloc : Text)
  | port (text : Text)
  | portTooLong (digits : Nat)
  /-- The port is not below 65536. -/
  | portRange
  deriving DecidableEq, Repr

def Problem.message : Problem → Text
  | brackets => "Invalid IPv6 URL"
  | futureAddress => "IPvFuture address is invalid"
  | address text => text.quoted ++ " does not appear to be an IPv4 or IPv6 address"
  | address4 => "An IPv4 address cannot be in brackets"
  | delimiter netloc =>
    "netloc '" ++ netloc ++ "' contains invalid characters under NFKC normalization"
  | port text => "Port could not be cast to integer value as " ++ text.quoted
  | portTooLong digits => Text.tooManyDigits digits
  | portRange => "Port out of range 0-65535"

/-! ## Taking apart -/

/-- The text without leading blanks and controls and without tabs and line ends. -/
def clean (t : Text) : Text :=
  (t.dropWhile fun c => c.val ≤ 0x20).filter fun c => !(c == '\t' || c == '\n' || c == '\r')

def isSchemePoint (c : CodePoint) : Bool :=
  c.isAsciiLetter || c.isDigit || c == '+' || c == '-' || c == '.'

/-- The scheme, in lower case, and what follows its colon.  A scheme starts with a letter. -/
def splitScheme (t : Text) : Text × Text :=
  match t.partition? ':' with
  | some (scheme, rest) =>
    if (scheme.head?.any CodePoint.isAsciiLetter) && scheme.all isSchemePoint then
      (scheme.map CodePoint.asciiLower, rest)
    else ([], t)
  | none => ([], t)

def endsNetloc (c : CodePoint) : Bool := c == '/' || c == '?' || c == '#'

def splitNetloc (t : Text) : Text × Text :=
  match t with
  | '/' :: '/' :: rest =>
    (rest.takeWhile fun c => !endsNetloc c, rest.dropWhile fun c => !endsNetloc c)
  | _ => ([], t)

/-- The part of a network location after its last `@`. -/
def hostPart (netloc : Text) : Text := ((netloc.rpartition? '@').map (·.2)).getD netloc

def checkBracketed (host : Text) : Except Problem Unit :=
  if host.startsWith "v" then
    if isFutureAddress host then .ok () else .error .futureAddress
  else if isIPv4 host then .error .address4
  else if isIPv6 host then .ok ()
  else .error (.address host)

/-- Checks a network location with brackets: nothing stands before the opening bracket, and only a
port after the closing one. -/
def checkBrackets (netloc : Text) : Except Problem Unit :=
  let rest := hostPart netloc
  match rest.partition? '[' with
  | some (before, bracketed) =>
    let (host, port) := (bracketed.partition? ']').getD (bracketed, [])
    if !before.isEmpty then .error .brackets
    else if !port.isEmpty && !port.startsWith ":" then .error .brackets
    else checkBracketed host
  | none => checkBracketed (((rest.partition? ':').map (·.1)).getD rest)

/-- The code points outside ASCII whose compatibility form holds one of the delimiters
`/ ? # @ :`. -/
def delimiterLike : List Nat :=
  [0x2047, 0x2048, 0x2049, 0x2100, 0x2101, 0x2105, 0x2106, 0x2A74, 0xFE13, 0xFE16, 0xFE55, 0xFE56,
    0xFE5F, 0xFE6B, 0xFF03, 0xFF0F, 0xFF1A, 0xFF1F, 0xFF20]

def checkNetloc (netloc : Text) : Except Problem Unit := do
  let opened := netloc.contains '['
  let closed := netloc.contains ']'
  if opened != closed then throw .brackets
  if opened then checkBrackets netloc
  if netloc.any fun c => delimiterLike.contains c.val then throw (.delimiter netloc)

/-- The parts before and after the first `sep`; the whole and nothing where it does not occur. -/
def cut (sep : CodePoint) (t : Text) : Text × Text := (t.partition? sep).getD (t, [])

def split (t : Text) : Except Problem Url := do
  let (scheme, rest) := splitScheme (clean t)
  let (netloc, rest) := splitNetloc rest
  checkNetloc netloc
  let (rest, fragment) := cut '#' rest
  let (path, query) := cut '?' rest
  return { scheme, netloc, path, params := [], query, fragment }

def paramSchemes : List Text :=
  ["", "ftp", "hdl", "prospero", "http", "imap", "https", "shttp", "rtsp", "rtsps", "rtspu", "sip",
    "sips", "mms", "sftp", "tel"]

def splitLast (path : Text) : Text × Text :=
  match path.rpartition? '/' with
  | some (before, last) => (before ++ "/", last)
  | none => ([], path)

/-- The path and the parameters, which follow the first semicolon of its last part. -/
def splitParams (path : Text) : Text × Text :=
  let (before, last) := splitLast path
  match last.partition? ';' with
  | some (name, params) => (before ++ name, params)
  | none => (path, [])

def parse (t : Text) : Except Problem Url := do
  let url ← split t
  if paramSchemes.contains url.scheme then
    let (path, params) := splitParams url.path
    return { url with path, params }
  else return url

/-! ## Putting together -/

/-- The schemes that are written with two slashes even without a network location. -/
def netlocSchemes : List Text :=
  ["ftp", "http", "gopher", "nntp", "telnet", "imap", "wais", "file", "mms", "https", "shttp",
    "snews", "prospero", "rtsp", "rtsps", "rtspu", "rsync", "svn", "svn+ssh", "sftp", "nfs", "git",
    "git+ssh", "ws", "wss"]

def location (scheme netloc path : Text) : Text :=
  if !netloc.isEmpty || (netlocSchemes.contains scheme && !path.startsWith "//") then
    let slash : Text := if !path.isEmpty && !path.startsWith "/" then "/" else ""
    "//" ++ netloc ++ slash ++ path
  else path

def suffix (delimiter : CodePoint) (part : Text) : Text :=
  if part.isEmpty then [] else delimiter :: part

def toText (u : Url) : Text :=
  let scheme : Text := if u.scheme.isEmpty then [] else u.scheme ++ ":"
  scheme ++ location u.scheme u.netloc (u.path ++ suffix ';' u.params) ++ suffix '?' u.query ++
    suffix '#' u.fragment

/-! ## Host and port -/

/-- The host and the text of the port; brackets around the host are left out. -/
def hostAndPort (u : Url) : Text × Text :=
  let rest := hostPart u.netloc
  match rest.partition? '[' with
  | some (_, bracketed) =>
    let (host, after) := cut ']' bracketed
    (host, (cut ':' after).2)
  | none => cut ':' rest

/-- The lower-case form of a host's code point, as far as ASCII is concerned: of all code points
outside ASCII only the Kelvin sign becomes a letter of it. -/
def lowerHostPoint (c : CodePoint) : CodePoint := if c.val = 0x212A then 'k' else c.asciiLower

/-- The host in lower case; a zone keeps its case. -/
def host (u : Url) : Text :=
  let host := u.hostAndPort.1
  match host.partition? '%' with
  | some (address, zone) => address.map lowerHostPoint ++ "%" ++ zone
  | none => host.map lowerHostPoint

def port? (u : Url) : Except Problem (Option Nat) :=
  let text := u.hostAndPort.2
  if text.isEmpty then .ok none
  else if !text.all CodePoint.isDigit then .error (.port text)
  else if Text.maxDigits < text.length then .error (.portTooLong text.length)
  else
    let n := Text.digitsValue text
    if n ≤ 65535 then .ok (some n) else .error .portRange

/-! ## Percent escapes

Each run of ASCII is read as bytes, where an escape stands for one byte, and the bytes as UTF-8.
What is not an escape stays as it is. -/

def unescape : Text → Bytes
  | [] => []
  | c :: rest =>
    if c = '%' then
      match rest with
      | a :: b :: tail =>
        match a.hexValue?, b.hexValue? with
        | some high, some low => .ofNat (high * 16 + low) :: unescape tail
        | _, _ => .ofNat c.val :: unescape (a :: b :: tail)
      | rest => .ofNat c.val :: rest.map fun c => UInt8.ofNat c.val
    else .ofNat c.val :: unescape rest

def decodeRuns (run : Text) : Text → Text
  | [] => Utf8.decodeReplacing (unescape run.reverse)
  | c :: rest =>
    if c.isAscii then decodeRuns (c :: run) rest
    else Utf8.decodeReplacing (unescape run.reverse) ++ c :: decodeRuns [] rest

def decodePercent (t : Text) : Text := decodeRuns [] t

end Url

end Issuer
