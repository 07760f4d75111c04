import Issuer.Fault
import Issuer.Text.Blank
/-!
# Files of sections

A file of sections holds options with values under headers in brackets.  A value goes on over
lines that are indented further than its option.  The options of the section `DEFAULT` stand for
those that other sections lack.  Values may refer to other options; `%(name)s` is replaced by the
value of `name`, and two percent signs stand for one.
-/
namespace Issuer

abbrev Ini.Options := List (Text × List Text)

structure Ini where
  defaults : Ini.Options := []
  sections : List (Text × Ini.Options) := []

namespace Ini

/-! ## Problems -/

/-- Why a file is no file of sections; lines count from one. -/
inductive Problem where
  /-- An option before the first header. -/
  | noHeader (number : Nat) (line : Text)
  | duplicateSection (name : Text) (number : Nat)
  | duplicateOption (section' name : Text) (number : Nat)
  | badLines (lines : List (Nat × Text))

def Problem.kind : Problem → OutsideKind
  | noHeader .. => .sectionMissing
  | duplicateSection .. => .sectionRepeated
  | duplicateOption .. => .optionRepeated
  | badLines _ => .sectionSyntax

def showNumber (number : Nat) : Text :=
  let digits := Text.ofNat number
  if digits.length < 2 then ' ' :: digits else digits

def Problem.message (file : Text) : Problem → Text
  | noHeader number line =>
    "File contains no section headers.\nfile: " ++ file.quoted ++ ", line: " ++ Text.ofNat number ++
      "\n" ++ line.quoted
  | duplicateSection name number =>
    "While reading from " ++ file.quoted ++ " [line " ++ showNumber number ++ "]: section " ++
      name.quoted ++ " already exists"
  | duplicateOption s name number =>
    "While reading from " ++ file.quoted ++ " [line " ++ showNumber number ++ "]: option " ++
      name.quoted ++ " in section " ++ s.quoted ++ " already exists"
  | badLines lines =>
    let shown (number : Nat) (line : Text) : Text :=
      "\n\t[line " ++ showNumber number ++ "]: " ++ line.quoted
    "Source contains parsing errors: " ++ file.quoted ++ lines.flatMap fun (n, line) => shown n line

/-! ## Reading -/

def defaultName : Text := "DEFAULT"

def update {α : Type} (key : Text) (f : α → α) : List (Text × α) → List (Text × α)
  | [] => []
  | (k, v) :: rest => if k = key then (k, f v) :: rest else (k, v) :: update key f rest

def setOption (key : Text) (lines : List Text) (options : Options) : Options :=
  if (options.lookup key).isSome then update key (fun _ => lines) options
  else options ++ [(key, lines)]

structure Progress where
  ini : Ini := {}
  current : Option Text := none
  option : Text := []
  indent : Nat := 0
  seen : List (Text × Option Text) := []
  bad : List (Nat × Text) := []

def change (name : Text) (f : Options → Options) (ini : Ini) : Ini :=
  if name = defaultName then { ini with defaults := f ini.defaults }
  else { ini with sections := update name f ini.sections }

def goOn (line : Text) (p : Progress) : Progress :=
  match p.current with
  | some name =>
    if p.option.isEmpty then p
    else { p with ini := change name (update p.option (· ++ [line])) p.ini }
  | none => p

/-- The name in the brackets of a header; it ends at the last bracket of the line. -/
def header? : Text → Option Text
  | '[' :: rest =>
    match Text.rpartition? ']' rest with
    | some (c :: name, _) => some (c :: name)
    | _ => none
  | _ => none

/-- The text before the first sign between an option and its value, and the text after it. -/
def splitOption? : Text → Option (Text × Text)
  | [] => none
  | c :: rest =>
    if c = '=' || c = ':' then some ([], rest)
    else (splitOption? rest).map fun (a, b) => (c :: a, b)

def startSection (number : Nat) (name : Text) (p : Progress) : Except Problem Progress :=
  let started := { p with current := some name, option := [] }
  if name = defaultName then .ok started
  else if p.seen.contains (name, none) then .error (.duplicateSection name number)
  else
    .ok { started with
      ini := { p.ini with sections := p.ini.sections ++ [(name, [])] }
      seen := (name, none) :: p.seen }

def startOption (number : Nat) (line name text : Text) (p : Progress) : Except Problem Progress :=
  match splitOption? text with
  | none => .ok { p with bad := p.bad ++ [(number, line)] }
  | some (key, value) =>
    let key := key.stripRight.map CodePoint.asciiLower
    if p.seen.contains (name, some key) then .error (.duplicateOption name key number)
    else
      .ok { p with
        ini := change name (setOption key [value.strip]) p.ini
        option := key
        seen := (name, some key) :: p.seen
        bad := if key.isEmpty then p.bad ++ [(number, line)] else p.bad }

def readLine (p : Progress) (number : Nat) (line : Text) : Except Problem Progress :=
  let text := line.strip
  match text with
  | [] => .ok (goOn [] p)
  | c :: _ =>
    if c = '#' || c = ';' then .ok p
    else
      let indent := (line.takeWhile CodePoint.isBlank).length
      if p.current.isSome && !p.option.isEmpty && p.indent < indent then .ok (goOn text p)
      else
        let p := { p with indent }
        match header? text, p.current with
        | some name, _ => startSection number name p
        | none, none => .error (.noHeader number line)
        | none, some name => startOption number line name text p

def readLines (p : Progress) (number : Nat) : List Text → Except Problem Progress
  | [] => .ok p
  | line :: rest => do readLines (← readLine p number line) (number + 1) rest

def ofText (t : Text) : Except Problem Ini := do
  let p ← readLines {} 1 t.linesWithBreaks
  if !p.bad.isEmpty then throw (.badLines p.bad)
  return p.ini

/-! ## Values -/

inductive Absence where
  | noSection (name : Text)
  | noOption (name : Text)
  | badReference (rest : Text)
  | danglingReference (option section' raw reference : Text)
  | deepReference (option section' raw : Text)

def Absence.fault : Absence → Fault
  | noSection name | noOption name => .outside .missingKey name
  | badReference rest =>
    if rest.startsWith "%(" then
      .outside .referenceSyntax ("bad interpolation variable reference " ++ rest.quoted)
    else .outside .referenceSyntax ("'%' must be followed by '%' or '(', found: " ++ rest.quoted)
  | danglingReference option s raw reference =>
    .outside .referenceMissing ("Bad value substitution: option " ++ option.quoted ++
      " in section " ++ s.quoted ++ " contains an interpolation key " ++ reference.quoted ++
      " which is not a valid option name. Raw value: " ++ raw.quoted)
  | deepReference option s raw =>
    .outside .referenceDepth ("Recursion limit exceeded in value substitution: option " ++
      option.quoted ++ " in section " ++ s.quoted ++ " contains an interpolation key which " ++
      "cannot be substituted in 10 steps. Raw value: " ++ raw.quoted)

def joinLines (lines : List Text) : Text := (Text.join "\n" lines).stripRight

def raw? (ini : Ini) (name option : Text) : Option Text := do
  let options ← ini.sections.lookup name
  ((options.lookup option).or (ini.defaults.lookup option)).map joinLines

def has (ini : Ini) (name option : Text) : Bool := (ini.raw? name option).isSome

def reference? (t : Text) : Option (Text × Text) :=
  match t.partition? ')' with
  | some (c :: name, 's' :: rest) => some (c :: name, rest)
  | _ => none

inductive Piece where
  | text (t : Text)
  | reference (option : Text)
  /-- A percent sign that starts no reference, and what follows it. -/
  | bad (rest : Text)

/-- The parts of a value; `fuel` is at least its length. -/
def pieces : Nat → Text → List Piece
  | 0, _ | _, [] => []
  | fuel + 1, '%' :: '%' :: rest => .text "%" :: pieces fuel rest
  | fuel + 1, '%' :: '(' :: body =>
    match reference? body with
    | some (option, rest) => .reference (option.map CodePoint.asciiLower) :: pieces fuel rest
    | none => [.bad ('%' :: '(' :: body)]
  | fuel + 1, c :: rest => if c = '%' then [.bad (c :: rest)] else .text [c] :: pieces fuel rest

/-- A value with its references replaced, of which at most `depth` lead to one another. -/
def expand (ini : Ini) (name option raw : Text) : Nat → Text → Except Absence Text
  | 0, _ => .error (.deepReference option name raw)
  | depth + 1, t => do
    let parts ← (pieces t.length t).mapM fun
      | .text t => pure t
      | .bad rest => throw (.badReference rest)
      | .reference key =>
        match ini.raw? name key with
        | none => throw (.danglingReference option name raw key)
        | some value =>
          if value.contains '%' then expand ini name option raw depth value else pure value
    return parts.flatten

def value (ini : Ini) (name option : Text) : Except Absence Text :=
  if (ini.sections.lookup name).isNone then .error (.noSection name)
  else
    match ini.raw? name option with
    | none => .error (.noOption option)
    | some raw => ini.expand name option raw 10 raw

def valueOr (ini : Ini) (name option default : Text) : Except Absence Text :=
  if (ini.sections.lookup name).isNone then .error (.noSection name)
  else if ini.has name option then ini.value name option
  else .ok default

end Ini

end Issuer
