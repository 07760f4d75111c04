import Issuer.Text.Basic
/-!
# Blanks and lines

The blanks of Unicode are the code points of bidirectional type WS, B or S, or of general category
Zs.  Messages lose the blanks at both ends before they are shown.  Text that is read from a file
has line feeds for all its line ends.
-/
namespace Issuer

def CodePoint.isBlank (c : CodePoint) : Bool :=
  let n := c.val
  (0x09 ≤ n && n ≤ 0x0D) || (0x1C ≤ n && n ≤ 0x20) || n == 0x85 || n == 0xA0 || n == 0x1680 ||
    (0x2000 ≤ n && n ≤ 0x200A) || n == 0x2028 || n == 0x2029 || n == 0x202F || n == 0x205F ||
    n == 0x3000

/-- The six blanks of ASCII: tab, line feed, vertical tab, form feed, return and space. -/
def CodePoint.isAsciiBlank (c : CodePoint) : Bool := (0x09 ≤ c.val && c.val ≤ 0x0D) || c == ' '

namespace Text

def stripLeft (t : Text) : Text := t.dropWhile CodePoint.isBlank

def stripRight (t : Text) : Text := dropWhileEnd CodePoint.isBlank t

def strip (t : Text) : Text := stripRight (stripLeft t)

/-! ## Lines -/

def joinReturns : Text → Text
  | [] => []
  | '\r' :: '\n' :: rest => '\n' :: joinReturns rest
  | c :: rest => (if c = '\r' then '\n' else c) :: joinReturns rest

def linesWithBreaks : Text → List Text
  | [] => []
  | c :: rest =>
    if c = '\n' then [c] :: linesWithBreaks rest
    else match linesWithBreaks rest with
      | [] => [[c]]
      | line :: lines => (c :: line) :: lines

def isLineEnd (c : CodePoint) : Bool :=
  (0x0A ≤ c.val && c.val ≤ 0x0D) || (0x1C ≤ c.val && c.val ≤ 0x1E) || c.val == 0x85 ||
    c.val == 0x2028 || c.val == 0x2029

def linesFrom (line : Text) : Text → List Text
  | [] => if line.isEmpty then [] else [line]
  | '\r' :: '\n' :: rest => line :: linesFrom [] rest
  | c :: rest => if isLineEnd c then line :: linesFrom [] rest else linesFrom (line ++ [c]) rest

def lines (t : Text) : List Text := linesFrom [] t

end Text

end Issuer
