import Issuer.CommandLine.Refusal
import Issuer.Text.Letter
/-!
# Reading arguments

First every argument is taken for what it looks like: a flag, perhaps shortened, perhaps with its
argument after an equals sign; an argument that stands for itself; or something that looks like a
flag and is none.  Then the flags are read in order, each with the argument that follows it.
After a double dash every argument stands for itself.
-/
namespace Issuer.CommandLine

inductive Look where
  | itself
  | separator
  | flag (flag : Flag) (spelling : Text) (argument : Option Text)
  | unknown
  deriving DecidableEq, Repr

abbrev Argument := Text × Look

/-! ## What an argument looks like -/

def spelled (flags : List Flag) : List (Text × Flag) :=
  flags.flatMap fun f => f.spellings.map fun s => (s, f)

/-- The argument before the first equals sign, and what follows it. -/
def splitEquals (t : Text) : Text × Option Text :=
  match t.partition? '=' with
  | some (head, rest) => (head, some rest)
  | none => (t, none)

/-- The flags that an argument may shorten.  One that starts with two dashes is cut at the equals
sign; one that starts with a single dash may be a short flag with its argument. -/
def shortened (flags : List Flag) (t : Text) : List (Text × Look) :=
  match t with
  | '-' :: '-' :: _ =>
    let (head, argument) := splitEquals t
    (spelled flags).filterMap fun (s, f) =>
      if s.startsWith head then some (s, .flag f s argument) else none
  | _ =>
    (spelled flags).filterMap fun (s, f) =>
      if s = t.take 2 then some (s, .flag f s (some (t.drop 2)))
      else if s.startsWith t then some (s, .flag f s none) else none

def isDigits (t : Text) : Bool := t.all fun c => c.decimalValue?.isSome

def dropLastBreak (t : Text) : Text := if t.getLast? = some '\n' then t.dropLast else t

def isNegativeNumber : Text → Bool
  | '-' :: rest =>
    let body := dropLastBreak rest
    match body.partition? '.' with
    | some (whole, fraction) => isDigits whole && !fraction.isEmpty && isDigits fraction
    | none => !body.isEmpty && isDigits body
  | _ => false

def lookOf (flags : List Flag) (t : Text) : Except Refusal Look :=
  match t with
  | '-' :: rest =>
    match (spelled flags).lookup t with
    | some f => .ok (.flag f t none)
    | none =>
      if rest.isEmpty then .ok .itself
      else
        let (head, argument) := splitEquals t
        match argument, (spelled flags).lookup head with
        | some a, some f => .ok (.flag f head (some a))
        | _, _ =>
          match shortened flags t with
          | [(_, look)] => .ok look
          | [] => .ok (if isNegativeNumber t || t.contains ' ' then .itself else .unknown)
          | several => .error (.ambiguous t (several.map (·.1)))
  | _ => .ok .itself

def looks (flags : List Flag) : List Text → Except Refusal (List Argument)
  | [] => .ok []
  | t :: rest =>
    if t = ("--" : Text) then .ok ((t, .separator) :: rest.map fun a => (a, .itself))
    else do
      let look ← lookOf flags t
      return (t, look) :: (← looks flags rest)

/-! ## What arguments give -/

/-- What arguments give: the flags in order, with their arguments, and what means nothing. -/
structure Given where
  flags : List (Flag × Text) := []
  extras : List Text := []

namespace Given

def last? (g : Given) (f : Flag) : Option Text :=
  ((g.flags.filter fun (h, _) => h == f).getLast?).map (·.2)

def all (g : Given) (f : Flag) : List Text := (g.flags.filter fun (h, _) => h == f).map (·.2)

def has (g : Given) (f : Flag) : Bool := g.flags.any fun (h, _) => h == f

def add (g : Given) (f : Flag) (argument : Text) : Given :=
  { g with flags := g.flags ++ [(f, argument)] }

def addExtra (g : Given) (t : Text) : Given := { g with extras := g.extras ++ [t] }

end Given

/-- Short flags in one argument: those whose letters follow the first flag, none of which takes an
argument. -/
def clustered (flags : List Flag) (f : Flag) : Text → Except Refusal (List Flag)
  | [] => .ok [f]
  | c :: rest =>
    match (spelled flags).lookup (("-" : Text) ++ [c]) with
    | some g => do return f :: (← clustered flags g rest)
    | none => .error (.needlessArgument f (c :: rest))

/-- The flags that one argument gives where the first of them takes no argument. -/
def switches (flags : List Flag) (f : Flag) (spelling : Text) :
    Option Text → Except Refusal (List Flag)
  | none => .ok [f]
  | some [] => .error (.needlessArgument f [])
  | some argument =>
    if spelling.startsWith "--" then .error (.needlessArgument f argument)
    else clustered flags f argument

def addSwitches (g : Given) : List Flag → Given × Option Stop
  | [] => (g, none)
  | f :: rest => if f = .help then (g, some .help) else addSwitches (g.add f []) rest

/-- Reads arguments in order, up to the first that stops it: what was given before, and what
stopped it. -/
def consume (flags : List Flag) (g : Given) : List Argument → Given × Option Stop
  | [] => (g, none)
  | (_, .flag f spelling argument) :: rest =>
    if f.takesArgument then
      match argument with
      | some a => consume flags (g.add f a) rest
      | none =>
        match rest with
        | (a, .itself) :: rest => consume flags (g.add f a) rest
        | _ => (g, some (.refused (.missingArgument f)))
    else
      match switches flags f spelling argument with
      | .error r => (g, some (.refused r))
      | .ok fs =>
        match addSwitches g fs with
        | (g, none) => consume flags g rest
        | stopped => stopped
  | (t, _) :: rest => consume flags (g.addExtra t) rest

def read (flags : List Flag) (arguments : List Text) : Given × Option Stop :=
  match looks flags arguments with
  | .error r => ({}, some (.refused r))
  | .ok looked => consume flags {} looked

end Issuer.CommandLine
