import Issuer.Yaml.Basic
/-!
# Plain scalars

What a scalar without quotation marks stands for follows from its spelling: null, true or false, a
number, a moment, or else a text.  Numbers may hold underscores; integers may be written in base
two, eight or sixteen, and every number in base sixty with colons.
-/
namespace Issuer.Yaml.Plain

inductive Kind where
  | null
  | bool
  | int
  | float
  | moment
  /-- The mark of a key whose value is merged into the mapping. -/
  | merge
  | default
  | text
  deriving DecidableEq, Repr

/-! ## Spellings -/

def nulls : List Text := ["~", "null", "Null", "NULL", ""]

def trues : List Text :=
  ["yes", "Yes", "YES", "true", "True", "TRUE", "on", "On", "ON"]

def falses : List Text :=
  ["no", "No", "NO", "false", "False", "FALSE", "off", "Off", "OFF"]

def splitSign : Text → Bool × Text
  | '-' :: rest => (true, rest)
  | '+' :: rest => (false, rest)
  | rest => (false, rest)

def hasSign : Text → Bool
  | '-' :: _ | '+' :: _ => true
  | _ => false

def isDigitOrUnderscore (c : CodePoint) : Bool := c.isDigit || c == '_'

def isNumber : Text → Bool
  | [] => false
  | c :: rest => c.isDigit && rest.all isDigitOrUnderscore

def isSixtieth : Text → Bool
  | [c] => c.isDigit
  | [c, d] => '0' ≤ c && c ≤ '5' && d.isDigit
  | _ => false

def integerBody? (t : Text) : Option (Nat × Text) :=
  match t with
  | ['0'] => some (10, t)
  | '0' :: 'b' :: c :: rest =>
    if (c :: rest).all fun d => d == '0' || d == '1' || d == '_' then some (2, c :: rest) else none
  | '0' :: 'x' :: c :: rest =>
    if (c :: rest).all fun d => d.hexValue?.isSome || d == '_' then some (16, c :: rest) else none
  | '0' :: rest => if rest.all fun d => ('0' ≤ d && d ≤ '7') || d == '_' then some (8, t) else none
  | _ =>
    match t.split ':' with
    | [] => none
    | first :: parts =>
      if isNumber first && parts.all isSixtieth then some (if parts.isEmpty then 10 else 60, t)
      else none

/-- The part of a number from its fraction on: digits and underscores, and then an exponent with
a sign. -/
def isFraction (t : Text) : Bool :=
  let rest := t.dropWhile isDigitOrUnderscore
  match rest with
  | [] => true
  | e :: s :: digits =>
    (e == 'e' || e == 'E') && (s == '+' || s == '-') &&
      !digits.isEmpty && digits.all CodePoint.isDigit
  | [_] => false

def isFloat (t : Text) : Bool :=
  let body := (splitSign t).2
  if body == ".inf" || body == ".Inf" || body == ".INF" then true
  else if t == ".nan" || t == ".NaN" || t == ".NAN" then true
  else
    match body.partition? '.' with
    | none => false
    | some (whole, fraction) =>
      if whole.isEmpty then
        !hasSign t && (fraction.head?.any CodePoint.isDigit) && isFraction fraction
      else
        match whole.split ':' with
        | [only] => isNumber only && isFraction fraction
        | first :: parts =>
          isNumber first && parts.all isSixtieth && fraction.all isDigitOrUnderscore
        | [] => false

/-! ## Moments -/

/-- Takes between `least` and `most` digits. -/
def takeDigits? (least most : Nat) (t : Text) : Option (Nat × Text) :=
  let digits := (t.take most).takeWhile CodePoint.isDigit
  if digits.length < least then none else some (Text.digitsValue digits, t.drop digits.length)

def takeMark? (c : CodePoint) : Text → Option Text
  | d :: rest => if d = c then some rest else none
  | [] => none

def isBlank (c : CodePoint) : Bool := c == ' ' || c == '\t'

/-- A day; both month and day have two digits, or at least one before a time. -/
def date? (least : Nat) (t : Text) : Option (Nat × Nat × Nat × Text) := do
  let (year, t) ← takeDigits? 4 4 t
  let (month, t) ← takeDigits? least 2 (← takeMark? '-' t)
  let (day, t) ← takeDigits? least 2 (← takeMark? '-' t)
  return (year, month, day, t)

def timeMark? : Text → Option Text
  | 'T' :: rest | 't' :: rest => some rest
  | c :: rest => if isBlank c then some (rest.dropWhile isBlank) else none
  | [] => none

def microseconds (digits : Text) : Nat :=
  let kept := digits.take 6
  Text.digitsValue kept * Nat.pow 10 (6 - kept.length)

def offset? (t : Text) : Option (Option Int) :=
  match t.dropWhile isBlank with
  | [] => if t.isEmpty then some none else none
  | ['Z'] => some (some 0)
  | c :: rest => do
    if c != '+' && c != '-' then none
    let (hours, rest) ← takeDigits? 1 2 rest
    let minutes ← match rest with
      | [] => some 0
      | ':' :: rest => do
        let (minutes, rest) ← takeDigits? 2 2 rest
        if rest.isEmpty then some minutes else none
      | _ => none
    let ahead : Int := (60 * hours + minutes : Nat)
    return some (if c = '-' then -ahead else ahead)

def clock? (t : Text) : Option Clock := do
  let (hour, t) ← takeDigits? 1 2 t
  let (minute, t) ← takeDigits? 2 2 (← takeMark? ':' t)
  let (second, t) ← takeDigits? 2 2 (← takeMark? ':' t)
  let (fraction, t) : Text × Text := match t with
    | '.' :: rest => (rest.takeWhile CodePoint.isDigit, rest.dropWhile CodePoint.isDigit)
    | _ => ([], t)
  let offset ← offset? t
  return ⟨hour, minute, second, microseconds fraction, offset⟩

/-- The moment that a spelling gives, which the calendar need not have. -/
def moment? (t : Text) : Option Moment :=
  match date? 2 t with
  | some (year, month, day, []) => some ⟨year, month, day, none⟩
  | _ => do
    let (year, month, day, rest) ← date? 1 t
    let clock ← clock? (← timeMark? rest)
    return ⟨year, month, day, some clock⟩

/-! ## Values -/

def kind (t : Text) : Kind :=
  if nulls.contains t then .null
  else if trues.contains t || falses.contains t then .bool
  else if isFloat t then .float
  else if (integerBody? (splitSign t).2).isSome then .int
  else if t == "<<" then .merge
  else if t == "=" then .default
  else if (moment? t).isSome then .moment
  else .text

def dropUnderscores (t : Text) : Text := t.filter (· != '_')

def digitsIn (base : Nat) (t : Text) : Nat := t.foldl (fun n c => base * n + c.hexValue?.getD 0) 0

def sixties (parts : List Text) : Nat := parts.foldl (fun n p => 60 * n + Text.digitsValue p) 0

/-- The integer of a spelling; in base ten it has at most as many digits as an integer may have. -/
def int? (t : Text) : Option Int := do
  let (negative, body) := splitSign t
  let (base, digits) ← integerBody? body
  let digits := dropUnderscores digits
  if digits.isEmpty then none
  if base = 10 && Text.maxDigits < digits.length then none
  let n := if base = 60 then sixties (digits.split ':') else digitsIn base digits
  return if negative then -(n : Int) else n

def float? (t : Text) : Option Binary64 :=
  if !(isFloat t || isNumber (splitSign t).2) then none
  else
    let (negative, body) := splitSign (dropUnderscores t)
    if body.any fun c => c == 'n' || c == 'N' then
      some (if body.any fun c => c == 'a' || c == 'A' then .nan else .infinite negative)
    else
      let (mantissa, exponent) : Text × Text :=
        match body.partition? 'e' with
        | some parts => parts
        | none => (body.partition? 'E').getD (body, [])
      let (whole, fraction) := (mantissa.partition? '.').getD (mantissa, [])
      let (below, power) := splitSign exponent
      let size : Int := Text.digitsValue power
      let digits :=
        sixties (whole.split ':') * Nat.pow 10 fraction.length + Text.digitsValue fraction
      some (Binary64.ofDecimal negative digits (Text.ofNat digits).length
        ((if below then -size else size) - fraction.length))

def validMoment? (t : Text) : Option Moment := (moment? t).filter Moment.isValid

end Issuer.Yaml.Plain
