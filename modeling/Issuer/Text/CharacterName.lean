import Issuer.Text.Basic
/-!
# Names of characters

Every version of Unicode names more characters than the one before, so what a name stands for is
left to whoever asks.  The names of the printable characters of ASCII are in all of them; they are
told apart without regard to case.
-/
namespace Issuer

abbrev CharacterNames := Text → Option CodePoint

namespace Text

def characterNames : List String := [
    "SPACE", "EXCLAMATION MARK", "QUOTATION MARK", "NUMBER SIGN", "DOLLAR SIGN", "PERCENT SIGN",
    "AMPERSAND", "APOSTROPHE", "LEFT PARENTHESIS", "RIGHT PARENTHESIS", "ASTERISK", "PLUS SIGN",
    "COMMA", "HYPHEN-MINUS", "FULL STOP", "SOLIDUS", "DIGIT ZERO", "DIGIT ONE", "DIGIT TWO",
    "DIGIT THREE", "DIGIT FOUR", "DIGIT FIVE", "DIGIT SIX", "DIGIT SEVEN", "DIGIT EIGHT",
    "DIGIT NINE", "COLON", "SEMICOLON", "LESS-THAN SIGN", "EQUALS SIGN", "GREATER-THAN SIGN",
    "QUESTION MARK", "COMMERCIAL AT", "LEFT SQUARE BRACKET", "REVERSE SOLIDUS",
    "RIGHT SQUARE BRACKET", "CIRCUMFLEX ACCENT", "LOW LINE", "GRAVE ACCENT", "LEFT CURLY BRACKET",
    "VERTICAL LINE", "RIGHT CURLY BRACKET", "TILDE"]

def namedCharacters : Text :=
  " !\"#$%&'()*+,-./0123456789:;<=>?@[\\]^_\x60\x7b|\x7d~"

def asciiNames : CharacterNames := fun name =>
  let name := name.map CodePoint.asciiLower
  let letter? (kind : Text) (first : CodePoint) : Option CodePoint :=
    match afterPrefix? kind name with
    | some [c] => if c.isAsciiLower then some (.ofNat (c.val - 97 + first.val)) else none
    | _ => none
  match letter? "latin small letter " 'a', letter? "latin capital letter " 'A' with
  | some c, _ | none, some c => some c
  | none, none =>
    ((characterNames.zip namedCharacters).find? fun (n, _) =>
      (ofString n).map CodePoint.asciiLower == name).map (·.2)

end Text

end Issuer
