import Issuer.Text.Quoted
/-!
# What is wrong with a pattern

A complaint says what is wrong, a problem also where: at a position of the pattern, counted in
code points.  What shows only once the whole pattern has been read has no position.
-/
namespace Issuer.Pattern

inductive Complaint where
  | danglingBackslash
  | incompleteEscape (escape : Text)
  | octalTooLarge (escape : Text)
  | badEscape (escape : Text)
  | missing (what : Text)
  | unterminatedName (terminator : Text)
  | undefinedCharacter (name : Text)
  | badNameCharacter (name : Text)
  | unknownGroup (name : Text)
  | redefinedGroup (name : Text) (number earlier : Nat)
  | openGroup
  | groupOfSameLookBehind
  | badGroupNumber
  | invalidReference (number : Nat)
  | unterminatedSet
  | badRange (first last : Text)
  | repeatOrder
  | nothingToRepeat
  | multipleRepeat
  | unexpectedEnd
  | unknownExtension (extension : Text)
  | unterminatedComment
  | unterminatedGroup
  | thirdAlternative
  | misplacedFlags
  | unknownFlag
  | byteFlag
  | incompatibleFlags
  | globalFlagOn
  | globalFlagOff
  | typeFlagOff
  | flagOnAndOff
  | unbalanced
  | lookBehindTooFar
  | lookBehindVaries
  | repeatInTemplate (operator : Text)
  deriving DecidableEq, Repr

def Complaint.message : Complaint → Text
  | danglingBackslash => "bad escape (end of pattern)"
  | incompleteEscape escape => "incomplete escape " ++ escape
  | octalTooLarge escape => "octal escape value " ++ escape ++ " outside of range 0-0o377"
  | badEscape escape => "bad escape " ++ escape
  | missing what => "missing " ++ what
  | unterminatedName terminator => "missing " ++ terminator ++ ", unterminated name"
  | undefinedCharacter name => "undefined character name " ++ name.quoted
  | badNameCharacter name => "bad character in group name " ++ name.quoted
  | unknownGroup name => "unknown group name " ++ name.quoted
  | redefinedGroup name number earlier =>
    "redefinition of group name " ++ name.quoted ++ " as group " ++ Text.ofNat number ++
      "; was group " ++ Text.ofNat earlier
  | openGroup => "cannot refer to an open group"
  | groupOfSameLookBehind => "cannot refer to group defined in the same lookbehind subpattern"
  | badGroupNumber => "bad group number"
  | invalidReference number => "invalid group reference " ++ Text.ofNat number
  | unterminatedSet => "unterminated character set"
  | badRange first last => "bad character range " ++ first ++ "-" ++ last
  | repeatOrder => "min repeat greater than max repeat"
  | nothingToRepeat => "nothing to repeat"
  | multipleRepeat => "multiple repeat"
  | unexpectedEnd => "unexpected end of pattern"
  | unknownExtension extension => "unknown extension ?" ++ extension
  | unterminatedComment => "missing ), unterminated comment"
  | unterminatedGroup => "missing ), unterminated subpattern"
  | thirdAlternative => "conditional backref with more than two branches"
  | misplacedFlags => "global flags not at the start of the expression"
  | unknownFlag => "unknown flag"
  | byteFlag => "bad inline flags: cannot use 'L' flag with a str pattern"
  | incompatibleFlags => "bad inline flags: flags 'a', 'u' and 'L' are incompatible"
  | globalFlagOn => "bad inline flags: cannot turn on global flag"
  | globalFlagOff => "bad inline flags: cannot turn off global flag"
  | typeFlagOff => "bad inline flags: cannot turn off flags 'a', 'u' and 'L'"
  | flagOnAndOff => "bad inline flags: flag turned on and off"
  | unbalanced => "unbalanced parenthesis"
  | lookBehindTooFar => "looks too much behind"
  | lookBehindVaries => "look-behind requires fixed-width pattern"
  | repeatInTemplate operator => "internal: unsupported template operator " ++ operator

inductive Problem where
  | at (position : Option Nat) (complaint : Complaint)
  | repeatTooLarge
  | tooManyDigits (digits : Nat)
  | conflictingFlags
  deriving DecidableEq, Repr

def lineAndColumn (pattern : Text) (position : Nat) : Nat × Nat :=
  let before := pattern.take position
  let lineFeed : CodePoint := '\n'
  (before.count lineFeed + 1, (before.reverse.takeWhile (· ≠ lineFeed)).length + 1)

/-- The wording of a problem in a pattern; of a pattern of several lines the line is told too. -/
def Problem.message (pattern : Text) : Problem → Text
  | .at none complaint => complaint.message
  | .at (some position) complaint =>
    let place := complaint.message ++ " at position " ++ Text.ofNat position
    if pattern.any (fun c => c = '\n') then
      let (line, column) := lineAndColumn pattern position
      place ++ " (line " ++ Text.ofNat line ++ ", column " ++ Text.ofNat column ++ ")"
    else place
  | repeatTooLarge => "the repetition number is too large"
  | tooManyDigits digits => Text.tooManyDigits digits
  | conflictingFlags => "ASCII and UNICODE flags are incompatible"

end Issuer.Pattern
