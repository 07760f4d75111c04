import Issuer.Text.Basic
/-!
# Addresses in brackets

A host in brackets is an IPv6 address, perhaps with a zone after a percent sign, or an address of
a future version.  IPv4 addresses are recognised so that they can be refused there.
-/
namespace Issuer.Url

/-- A number of at most three digits below 256, without leading zeros. -/
def isOctet (t : Text) : Bool :=
  !t.isEmpty && t.all CodePoint.isDigit && t.length ≤ 3 && (t == "0" || !t.startsWith "0") &&
    Text.digitsValue t ≤ 255

def isIPv4 (t : Text) : Bool :=
  let parts := t.split '.'
  parts.length == 4 && parts.all isOctet

def isHextet (t : Text) : Bool :=
  !t.isEmpty && t.length ≤ 4 && t.all fun c => c.hexValue?.isSome

/-- The parts of an IPv6 address; an IPv4 address at the end counts as two parts. -/
def hextetParts? (t : Text) : Option (List Text) :=
  let parts := t.split ':'
  if parts.length < 3 then none
  else
    let last := parts.getLastD []
    if last.contains '.' then
      if isIPv4 last then some (parts.dropLast ++ (["0", "0"] : List Text)) else none
    else some parts

/-- Eight hextets, where one run of zero hextets may be left out between two colons. -/
def isIPv6Number (t : Text) : Bool :=
  match hextetParts? t with
  | none => false
  | some parts =>
    let n := parts.length
    let inner := (parts.drop 1).dropLast
    if 9 < n || 1 < inner.countP List.isEmpty then false
    else match inner.findIdx? List.isEmpty with
      | none => n == 8 && parts.all isHextet
      | some i =>
        let high := parts.take (i + 1)
        let low := parts.drop (i + 2)
        let highOk := high == [[]] || high.all isHextet
        let lowOk := low == [[]] || low.all isHextet
        let count :=
          (if high == [[]] then 0 else high.length) + (if low == [[]] then 0 else low.length)
        highOk && lowOk && count ≤ 7

def isIPv6 (t : Text) : Bool :=
  !t.contains '/' && match t.partition? '%' with
    | none => isIPv6Number t
    | some (address, zone) => !zone.isEmpty && !zone.contains '%' && isIPv6Number address

/-- An address of a future version: `v`, hexadecimal digits, a point and something more. -/
def isFutureAddress (t : Text) : Bool :=
  match t with
  | 'v' :: rest =>
    let digits := rest.takeWhile fun c => c.hexValue?.isSome
    match rest.drop digits.length with
    | '.' :: _ :: _ => !digits.isEmpty
    | _ => false
  | _ => false

end Issuer.Url
