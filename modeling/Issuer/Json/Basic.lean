import Issuer.Binary64
/-!
# JSON values

An object keeps its members in the order in which they were written.  Numbers written with a
fraction or an exponent are binary64 numbers; all others are integers of any size.
-/
namespace Issuer

inductive Json where
  | null
  | bool (b : Bool)
  | int (n : Int)
  | float (x : Binary64)
  | str (t : Text)
  | arr (items : List Json)
  | obj (members : List (Text × Json))
  deriving Repr

/-- The members of an object: keys and their values, in order. -/
abbrev Members := List (Text × Json)

namespace Members

def get? (ms : Members) (key : Text) : Option Json := ms.lookup key

def set (key : Text) (value : Json) : Members → Members
  | [] => [(key, value)]
  | (k, v) :: rest => if k = key then (k, value) :: rest else (k, v) :: set key value rest

def keys (ms : Members) : List Text := ms.map (·.1)

@[simp] theorem get?_nil (key : Text) : get? [] key = none := rfl

theorem get?_cons (k key : Text) (v : Json) (ms : Members) :
    get? ((k, v) :: ms) key = if k = key then some v else get? ms key := by
  rw [get?, List.lookup_cons]
  by_cases hk : k = key
  · simp [hk]
  · have hne : (key == k) = false := by simpa using Ne.symm hk
    rw [hne, if_neg hk, get?]

@[simp] theorem get?_set (key : Text) (value : Json) : ∀ ms : Members,
    get? (set key value ms) key = some value
  | [] => by rw [set, get?_cons, if_pos rfl]
  | (k, v) :: rest => by
    by_cases hk : k = key
    · rw [set, if_pos hk, get?_cons, if_pos hk]
    · rw [set, if_neg hk, get?_cons, if_neg hk, get?_set key value rest]

end Members

namespace Json

instance : Inhabited Json := ⟨null⟩

/-! ## Equality -/

mutual

def decEq : (a b : Json) → Decidable (a = b)
  | null, null => isTrue rfl
  | bool a, bool b => if h : a = b then isTrue (by rw [h]) else isFalse fun e => h (by injection e)
  | int a, int b => if h : a = b then isTrue (by rw [h]) else isFalse fun e => h (by injection e)
  | float a, float b =>
    if h : a = b then isTrue (by rw [h]) else isFalse fun e => h (by injection e)
  | str a, str b => if h : a = b then isTrue (by rw [h]) else isFalse fun e => h (by injection e)
  | arr a, arr b =>
    match decEqItems a b with
    | isTrue h => isTrue (by rw [h])
    | isFalse h => isFalse fun e => h (by injection e)
  | obj a, obj b =>
    match decEqMembers a b with
    | isTrue h => isTrue (by rw [h])
    | isFalse h => isFalse fun e => h (by injection e)
  | null, bool _ | null, int _ | null, float _ | null, str _ | null, arr _ | null, obj _
  | bool _, null | bool _, int _ | bool _, float _ | bool _, str _ | bool _, arr _ | bool _, obj _
  | int _, null | int _, bool _ | int _, float _ | int _, str _ | int _, arr _ | int _, obj _
  | float _, null | float _, bool _ | float _, int _ | float _, str _ | float _, arr _
  | float _, obj _
  | str _, null | str _, bool _ | str _, int _ | str _, float _ | str _, arr _ | str _, obj _
  | arr _, null | arr _, bool _ | arr _, int _ | arr _, float _ | arr _, str _ | arr _, obj _
  | obj _, null | obj _, bool _ | obj _, int _ | obj _, float _ | obj _, str _ | obj _, arr _ =>
    isFalse (by intro e; cases e)

def decEqItems : (a b : List Json) → Decidable (a = b)
  | [], [] => isTrue rfl
  | [], _ :: _ => isFalse (by intro e; cases e)
  | _ :: _, [] => isFalse (by intro e; cases e)
  | x :: xs, y :: ys =>
    match decEq x y, decEqItems xs ys with
    | isTrue h, isTrue h' => isTrue (by rw [h, h'])
    | isFalse h, _ => isFalse fun e => h (by injection e)
    | _, isFalse h => isFalse fun e => h (by injection e)

def decEqMembers : (a b : List (Text × Json)) → Decidable (a = b)
  | [], [] => isTrue rfl
  | [], _ :: _ => isFalse (by intro e; cases e)
  | _ :: _, [] => isFalse (by intro e; cases e)
  | (k, x) :: xs, (l, y) :: ys =>
    match decEq x y, decEqMembers xs ys with
    | isTrue h, isTrue h' =>
      if hk : k = l then isTrue (by rw [h, h', hk])
      else isFalse fun e => hk (by injection e with e _; injection e)
    | isFalse h, _ => isFalse fun e => h (by injection e with e _; injection e)
    | _, isFalse h => isFalse fun e => h (by injection e)

end

instance : DecidableEq Json := decEq

/-! ## Parts -/

/-- The members of an object; `none` for any other value. -/
def members? : Json → Option Members
  | obj ms => some ms
  | _ => none

/-- The text of a string; `none` for any other value. -/
def text? : Json → Option Text
  | str t => some t
  | _ => none

def isString : Json → Bool
  | str _ => true
  | _ => false

def isObject : Json → Bool
  | obj _ => true
  | _ => false

def member? (key : Text) : Json → Option Json
  | obj ms => Members.get? ms key
  | _ => none

/-- A member's value, where an absent member counts as null. -/
def memberOrNull (key : Text) (v : Json) : Json := (v.member? key).getD null

def ofText? : Option Text → Json
  | some t => str t
  | none => null

/-- Whether a value counts as given: null, false, zero and whatever is empty do not. -/
def isTruthy : Json → Bool
  | null => false
  | bool b => b
  | int n => n != 0
  | float x => !x.isZero
  | str t => !t.isEmpty
  | arr items => !items.isEmpty
  | obj ms => !ms.isEmpty

end Json

end Issuer
