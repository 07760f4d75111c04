import Issuer.Fault
import Issuer.Json.Write
import Issuer.Log.Event
import Issuer.Text.Letter
/-!
# Formats

How a handler writes an event.  A format is a text with fields in it, in one of three styles, or
tells the fields as a JSON object.  An event has a message, a source and a severity; what a format
asks for besides stays empty.
-/
namespace Issuer.Log

inductive Style where
  /-- `%(name)s` -/
  | percent
  | brace
  /-- `$name`, or a name in braces after a dollar sign. -/
  | dollar
  deriving DecidableEq, Repr

def Style.ofMark? (mark : Text) : Option Style :=
  ([("%", percent), ("\x7b", brace), ("$", dollar)] : List (Text × Style)).lookup mark

def Style.default : Style → Text
  | percent => "%(message)s"
  | brace => "\x7bmessage\x7d"
  | dollar => "$\x7bmessage\x7d"

structure Format where
  style : Style
  text : Text
  isJson : Bool := false
  deriving DecidableEq, Repr

def jsonFormat : Format :=
  ⟨.percent, "%(asctime)s %(name)s %(levelname)s %(module)s:%(lineno)d %(message)s", true⟩

def basicFormat : Format := ⟨.percent, "%(levelname)s:%(name)s:%(message)s", false⟩

/-! ## Fields -/

inductive Piece where
  | text (c : CodePoint)
  | field (name flags : Text) (width precision : Option Nat)
  | bad
  deriving DecidableEq, Repr

def flagMarks : Text := "#0+ -"

def fieldKinds : Text := "diouxefgcrsaDIOUXEFGCRSA"

def leadingNumber (t : Text) : Option Nat × Text :=
  let digits := t.takeWhile CodePoint.isDigit
  (if digits.isEmpty then none else some (Text.digitsValue digits), t.drop digits.length)

/-- The field after `%(`, and what follows it. -/
def percentField? (t : Text) : Option (Piece × Text) := do
  let (name, rest) ← Text.partition? ')' t
  let flags := rest.takeWhile flagMarks.contains
  let (width, rest) := leadingNumber (rest.drop flags.length)
  let (precision, rest) := match rest with
    | '.' :: rest => leadingNumber rest
    | _ => (none, rest)
  match rest with
  | [] => none
  | c :: rest =>
    if fieldKinds.contains c then some (.field name flags width precision, rest) else none

def braceField? (t : Text) : Option (Piece × Text) := do
  let (body, rest) ← Text.partition? '\x7d' t
  let name : Text := body.takeWhile fun c : CodePoint => c != ':' && c != '!'
  if name.isEmpty || name.contains '\x7b' then none
  return (.field name [] none none, rest)

def dollarField? (t : Text) : Option (Piece × Text) :=
  match t with
  | '\x7b' :: body => do
    let (name, rest) ← Text.partition? '\x7d' body
    if name.isIdentifier then some (.field name [] none none, rest) else none
  | _ =>
    let name : Text := t.takeWhile fun c : CodePoint => c.isAsciiLetter || c.isDigit || c == '_'
    if name.isIdentifier then some (.field name [] none none, t.drop name.length) else none

def piece (style : Style) (c : CodePoint) (rest : Text) : Piece × Text :=
  let bad : Piece × Text := (.bad, rest)
  match style with
  | .percent =>
    if c != '%' then (.text c, rest)
    else match rest with
      | '%' :: rest => (.text '%', rest)
      | '(' :: body => (percentField? body).getD bad
      | _ => bad
  | .brace =>
    if c = '\x7b' then
      match rest with
      | '\x7b' :: rest => (.text c, rest)
      | _ => (braceField? rest).getD bad
    else if c = '\x7d' then
      match rest with
      | '\x7d' :: rest => (.text c, rest)
      | _ => bad
    else (.text c, rest)
  | .dollar =>
    if c != '$' then (.text c, rest)
    else match rest with
      | '$' :: rest => (.text c, rest)
      | _ => (dollarField? rest).getD bad

/-- The parts of a format; `fuel` is at least its length. -/
def pieces (style : Style) : Nat → Text → List Piece
  | 0, _ | _, [] => []
  | fuel + 1, c :: rest =>
    let (p, rest) := piece style c rest
    p :: pieces style fuel rest

def Format.pieces (f : Format) : List Piece := Log.pieces f.style f.text.length f.text

/-! ## Checking -/

/-- What follows a width or a precision, if one is there: a number or an asterisk. -/
def skipSize? : Text → Option Text
  | '*' :: rest => some rest
  | t =>
    let digits := t.takeWhile CodePoint.isDigit
    if digits.isEmpty then none else some (t.drop digits.length)

/-- Whether a text is a field after `%(` with a name, whatever follows it. -/
def opensWithField (t : Text) : Bool :=
  match Text.partition? ')' t with
  | some (name, rest) =>
    let sized := rest.dropWhile flagMarks.contains
    let sized := (skipSize? sized).getD sized
    let kind := match sized with
      | '.' :: more => (skipSize? more).getD sized
      | _ => sized
    !name.isEmpty && name.all CodePoint.continuesIdentifier &&
      kind.head?.any (fun c : CodePoint => c == '%' || fieldKinds.contains c)
  | none => false

def holdsField : Text → Bool
  | [] => false
  | '%' :: '(' :: rest => opensWithField rest || holdsField rest
  | _ :: rest => holdsField rest

def Format.fields (f : Format) : List Text :=
  f.pieces.filterMap fun
    | .field name .. => some name
    | _ => none

def Format.fault? (f : Format) : Option Fault :=
  let invalid (t : Text) : Option Fault := some (.outside .invalidValue t)
  match f.style with
  | .percent =>
    if holdsField f.text then none
    else invalid ("Invalid format '" ++ f.text ++ "' for '%' style")
  | .brace => if f.fields.isEmpty then invalid "invalid format: no fields" else none
  | .dollar =>
    if f.pieces.contains .bad then invalid "invalid format: bare '$' not allowed"
    else if f.fields.isEmpty then invalid "invalid format: no fields" else none

/-- A format from its parts: an empty text stands for the message alone. -/
def Format.make (text : Option Text) (mark : Text) (isChecked isJson : Bool) :
    Except Fault Format :=
  match Style.ofMark? mark with
  | none => .error (.outside .invalidValue "Style must be one of: %,\x7b,$")
  | some style =>
    let text := match text with
      | none | some [] => style.default
      | some t => t
    let f : Format := ⟨style, text, isJson⟩
    match f.fault? with
    | some fault => if isChecked then .error fault else .ok f
    | none => .ok f

/-! ## Writing -/

def Event.field (e : Event) (name : Text) : Text :=
  if name = ("message" : Text) then e.message
  else if name = ("name" : Text) then e.source.name
  else if name = ("levelname" : Text) then e.severity.name
  else if name = ("levelno" : Text) then Text.ofInt e.severity.level
  else []

def pad (flags : Text) (width precision : Option Nat) (value : Text) : Text :=
  let value := (precision.map value.take).getD value
  let space : Text := List.replicate (width.getD 0 - value.length) (CodePoint.ofChar ' ')
  if flags.contains '-' then value ++ space else space ++ value

def Piece.write? (e : Event) : Piece → Option Text
  | text c => some [c]
  | field name flags width precision => some (pad flags width precision (e.field name))
  | bad => none

/-- The line of an event; none if the format is not well formed. -/
def Format.line? (f : Format) (e : Event) : Option Text :=
  if f.isJson then
    some (Json.write .line (.obj (f.fields.map fun name => (name, .str (e.field name)))))
  else (f.pieces.mapM (Piece.write? e)).map List.flatten

end Issuer.Log
