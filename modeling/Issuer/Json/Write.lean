import Issuer.Json.Basic
/-!
# Writing JSON

A document is written in ASCII: other code points become escapes, those beyond the basic plane a
pair of surrogates.  With an indentation each item and each member stands on a line of its own;
without one all is on one line.
-/
namespace Issuer.Json

def unitEscape (n : Nat) : Text := "\\u" ++ Text.hexDigits 4 n

def writeCodePoint (c : CodePoint) : Text :=
  if c = '"' then "\\\""
  else if c = '\\' then "\\\\"
  else if c = '\n' then "\\n"
  else if c = '\r' then "\\r"
  else if c = '\t' then "\\t"
  else if c.val = 0x0C then "\\f"
  else if c.val = 0x08 then "\\b"
  else if ' ' ≤ c && c ≤ '~' then [c]
  else if c.val < 0x10000 then unitEscape c.val
  else
    unitEscape (0xD800 + (c.val - 0x10000) / 0x400) ++
      unitEscape (0xDC00 + (c.val - 0x10000) % 0x400)

def writeText (t : Text) : Text := '"' :: (t.flatMap writeCodePoint ++ "\"")

def writeFloat : Binary64 → Text
  | .nan => "NaN"
  | .infinite negative => if negative then "-Infinity" else "Infinity"
  | x => x.toText

/-- How a document is laid out: on one line, or in lines indented by a number of spaces for each
level. -/
inductive Layout where
  | line
  | indented (width : Nat)

def Layout.lineBreak : Layout → Nat → Text
  | .line, _ => ""
  | .indented width, level => '\n' :: List.replicate (width * level) (CodePoint.ofChar ' ')

def Layout.separator : Layout → Nat → Text
  | .line, _ => ", "
  | layout, level => "," ++ layout.lineBreak level

mutual

def writeAt (layout : Layout) (level : Nat) : Json → Text
  | null => "null"
  | bool true => "true"
  | bool false => "false"
  | int n => Text.ofInt n
  | float x => writeFloat x
  | str t => writeText t
  | arr [] => "[]"
  | arr (v :: vs) =>
    "[" ++ layout.lineBreak (level + 1) ++ writeItems layout (level + 1) (v :: vs) ++
      layout.lineBreak level ++ "]"
  | obj [] => "\x7b\x7d"
  | obj (m :: ms) =>
    "\x7b" ++ layout.lineBreak (level + 1) ++ writeMembers layout (level + 1) (m :: ms) ++
      layout.lineBreak level ++ "\x7d"

def writeItems (layout : Layout) (level : Nat) : List Json → Text
  | [] => ""
  | [v] => writeAt layout level v
  | v :: w :: vs =>
    writeAt layout level v ++ layout.separator level ++ writeItems layout level (w :: vs)

def writeMembers (layout : Layout) (level : Nat) : List (Text × Json) → Text
  | [] => ""
  | [(k, v)] => writeText k ++ ": " ++ writeAt layout level v
  | (k, v) :: m :: ms =>
    writeText k ++ ": " ++ writeAt layout level v ++ layout.separator level ++
      writeMembers layout level (m :: ms)

end

def write (layout : Layout) (v : Json) : Text := writeAt layout 0 v

end Issuer.Json
