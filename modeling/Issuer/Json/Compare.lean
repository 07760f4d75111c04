import Issuer.Json.Basic
/-!
# Comparing values

Numbers are equal if their values are, integers and binary64 numbers alike; objects are equal
whatever the order of their members.  Whether true and false count as the numbers one and zero is
up to the comparison.  Numbers, texts and lists of comparable items have an order.
-/
namespace Issuer.Json

/-- The number that a value is; true and false are numbers if `bools` holds. -/
def asNumber? (bools : Bool) : Json → Option Json
  | bool b => if bools then some (int (if b then 1 else 0)) else none
  | int n => some (int n)
  | float x => some (float x)
  | _ => none

/-- The order of two numbers; `none` if one of them is not a number. -/
def compareNumbers? : Json → Json → Option Ordering
  | int a, int b => some (compare a b)
  | int a, float (.finite s m e) => some (Binary64.compareInt s m e a).swap
  | float (.finite s m e), int b => some (Binary64.compareInt s m e b)
  | int _, float (.infinite negative) => some (if negative then .gt else .lt)
  | float (.infinite negative), int _ => some (if negative then .lt else .gt)
  | float a, float b => a.compare? b
  | _, _ => none

def agreeScalar (bools : Bool) : Json → Json → Bool
  | null, null => true
  | str a, str b => a == b
  | float .nan, float .nan => true
  | a, b =>
    match asNumber? bools a, asNumber? bools b with
    | some x, some y => compareNumbers? x y == some .eq
    | _, _ =>
      match a, b with
      | bool a, bool b => a == b
      | _, _ => false

mutual

/-- Whether two values are equal; true and false equal one and zero if `bools` holds. -/
def agree (bools : Bool) : Json → Json → Bool
  | arr a, arr b => agreeItems bools a b
  | obj a, obj b => a.length == b.length && agreeMembers bools a b
  | a, b => agreeScalar bools a b

def agreeItems (bools : Bool) : List Json → List Json → Bool
  | [], [] => true
  | x :: xs, y :: ys => agree bools x y && agreeItems bools xs ys
  | _, _ => false

/-- Whether each member has an equal one under its key among the members `b`. -/
def agreeMembers (bools : Bool) : List (Text × Json) → Members → Bool
  | [], _ => true
  | (k, x) :: ms, b =>
    (match Members.get? b k with
      | some y => agree bools x y
      | none => false) && agreeMembers bools ms b

end

mutual

/-- Whether one value comes before another; `none` if they have no order. -/
def before? : Json → Json → Option Bool
  | str a, str b => some (a < b)
  | arr a, arr b => beforeItems? a b
  | a, b =>
    match asNumber? true a, asNumber? true b with
    | some x, some y => some (compareNumbers? x y == some .lt)
    | _, _ => none

def beforeItems? : List Json → List Json → Option Bool
  | _, [] => some false
  | [], _ :: _ => some true
  | x :: xs, y :: ys => if agree true x y then beforeItems? xs ys else before? x y

end

/-! ## Distinct items -/

/-- The order of the items of a list, where true and false have none. -/
def itemBefore? : Json → Json → Option Bool
  | bool _, _ => none
  | _, bool _ => none
  | a, b => before? a b

def insertSorted? (x : Json) : List Json → Option (List Json)
  | [] => some [x]
  | y :: ys =>
    match itemBefore? x y with
    | none => none
    | some true => some (x :: y :: ys)
    | some false => (insertSorted? x ys).map (y :: ·)

/-- The items in order; `none` if two that are compared have none. -/
def sorted? (items : List Json) : Option (List Json) :=
  items.foldlM (fun sorted x => insertSorted? x sorted) []

def neighboursDiffer : List Json → Bool
  | x :: y :: rest => !agree false x y && neighboursDiffer (y :: rest)
  | _ => true

def pairwiseDiffer : List Json → Bool
  | [] => true
  | x :: rest => !rest.any (agree false x) && pairwiseDiffer rest

/-- Whether the items of a list count as distinct: of items that can be sorted only neighbours
are looked at. -/
def areDistinct (items : List Json) : Bool :=
  match sorted? items with
  | some sorted => neighboursDiffer sorted
  | none => pairwiseDiffer items

end Issuer.Json
