import Issuer.CommandLine.Source
import Issuer.Json.Read
/-!
# Argument files of plain lines

A line gives a key, and after a colon, an equals sign or blanks a value, which may stand in
quotation marks; a key alone means that it is set.  What follows blanks and a `;` or `#` is a
comment.  A value in brackets is a list.  Empty lines, comments, headings in brackets and lines of
three dashes give nothing.
-/
namespace Issuer.CommandLine

def isKeyCharacter (c : CodePoint) : Bool :=
  !(c.isBlank || c == ':' || c == '=' || c == ';' || c == '#')

def isComment (t : Text) : Bool :=
  match t, t.stripLeft with
  | [], _ => true
  | c :: _, d :: _ => c.isBlank && (d == ';' || d == '#')
  | _, [] => false

/-- A value without quotation marks: all up to a comment, but at least one code point. -/
def plainValue : Text → Text
  | [] => []
  | c :: rest => if isComment rest then [c] else c :: plainValue rest

/-- A value up to its closing mark, after which there may be a comment.  The mark is part of the
value where something else follows it. -/
def quotedValue? (mark : CodePoint) : Text → Option Text
  | [] => none
  | c :: rest =>
    if c = mark && isComment rest then some []
    else (quotedValue? mark rest).map (c :: ·)

def valueInMarks? : Text → Option Text
  | c :: d :: rest =>
    if !(c = '\'' || c = '"') then none
    else
      match (quotedValue? c rest).map (d :: ·) with
      | some value => some value
      | none => if d = c && isComment rest then some [] else none
  | _ => none

/-- The value that the text after a key gives, if it is one; `mark` is what parts it from the key.
An empty value after a single space means that the key is set. -/
def valueAfter (mark : CodePoint) (t : Text) : Text :=
  match (valueInMarks? t).getD (plainValue t) with
  | [] => if mark = ' ' then "true" else []
  | value => value

def splitKey? (line : Text) : Option (Text × Text) :=
  let key : Text := line.takeWhile isKeyCharacter
  let rest : Text := line.drop key.length
  if key.isEmpty then none
  else
    match rest.stripLeft with
    | [] => some (key, "true")
    | c :: value =>
      if c = ':' || c = '=' then some (key, valueAfter c (Text.stripLeft value))
      else
        match (rest.takeWhile CodePoint.isBlank).getLast? with
        | some mark => some (key, valueAfter mark (c :: value))
        | none => none

/-- A value; in brackets it is a list, in JSON or with plain items parted by commas. -/
def valueOf (t : Text) : Yaml :=
  if t.startsWith "[" && t.endsWith "]" then
    match Json.ofText t with
    | .ok v => .ofJson v
    | .error _ => .list ((Text.split ',' (t.drop 1).dropLast).map fun item => .str item.strip)
  else .str t

def isIdle (line : Text) : Bool :=
  match line with
  | [] => true
  | c :: _ => c == '#' || c == ';' || c == '[' || line.startsWith "---"

def entriesOfLines (path : Text) (entries : Entries) (number : Nat) :
    List Text → Except Refusal Entries
  | [] => .ok entries
  | line :: rest =>
    let line := line.strip
    if isIdle line then entriesOfLines path entries (number + 1) rest
    else
      match splitKey? line with
      | none => .error (.badLine number path line)
      | some (key, value) =>
        entriesOfLines path (Yaml.setPair (.str key) (valueOf value) entries) (number + 1) rest

def readKeyLines (disk : Disk) (path : Text) : Except Stop Entries := do
  let bytes ← (openFile disk path).mapError .refused
  match Utf8.decode? false bytes with
  | none => throw (.fault (.outside .textDecoding ""))
  | some t => (entriesOfLines path [] 0 t.joinReturns.linesWithBreaks).mapError .refused

end Issuer.CommandLine
