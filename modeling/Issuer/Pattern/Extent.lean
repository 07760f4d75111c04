import Issuer.Pattern.Problem
/-!
# Extents

The extent of a part of a pattern: how few and how many code points it may match.  With it goes
the first complaint that shows only once the part is complete, such as a look-behind of varying
width.
-/
namespace Issuer.Pattern

def maxWidth : Nat := 0x10000000000000000

/-- The count that stands for no upper limit; every count given has to be less. -/
def unlimited : Nat := 0xFFFFFFFF

/-- A range of widths and the first complaint about the part that has it. -/
structure Extent where
  least : Nat
  most : Nat
  complaint : Option Complaint
  deriving DecidableEq, Repr

namespace Extent

def empty : Extent := ⟨0, 0, none⟩

def unit : Extent := ⟨1, 1, none⟩

def append (a b : Extent) : Extent :=
  ⟨min (a.least + b.least) maxWidth, min (a.most + b.most) maxWidth, a.complaint.or b.complaint⟩

def either (a b : Extent) : Extent :=
  ⟨min a.least b.least, max a.most b.most, a.complaint.or b.complaint⟩

/-- A part between `least` and `most` times. -/
def times (a : Extent) (least most : Nat) : Extent :=
  ⟨min (a.least * least) maxWidth,
    if most = unlimited && a.most ≠ 0 then maxWidth else min (a.most * most) maxWidth,
    a.complaint⟩

/-- A look-ahead at a part: it takes no width of its own. -/
def ahead (a : Extent) : Extent := ⟨0, 0, a.complaint⟩

/-- A look-behind at a part: the part needs a fixed width, and one that can be counted. -/
def behind (a : Extent) : Extent :=
  let own := if unlimited < a.least then some Complaint.lookBehindTooFar
    else if a.least ≠ a.most then some Complaint.lookBehindVaries
    else none
  ⟨0, 0, own.or a.complaint⟩

end Extent

inductive PieceKind where
  /-- A place between two code points: there is nothing to repeat. -/
  | place
  | repeated
  | other
  deriving DecidableEq

structure Piece where
  kind : PieceKind
  extent : Extent

def Piece.total (pieces : List Piece) : Extent :=
  pieces.foldl (fun after p => p.extent.append after) .empty

end Issuer.Pattern
