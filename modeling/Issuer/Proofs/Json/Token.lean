import Issuer.Json.Read
import Issuer.Json.Write
import Issuer.Proofs.Text.Decimal
import Issuer.Proofs.Text.Encoding
import Issuer.Proofs.Text.Hexadecimal
/-!
# Strings and integers are read as they were written

Inside a string each code point is written as itself, as an escape of one letter or as the escapes
of its UTF-16 units; the reader joins the pairs again.  An integer is read back up to the most
digits that are read, if what follows it cannot belong to a number.
-/
namespace Issuer.Json

open Utf16 (unitsOf)

/-! ## One step of a string -/

theorem scanString_plain {c : CodePoint} (hquote : c ≠ '"') (hcontrol : 0x20 ≤ c.val)
    (hescape : c ≠ '\\') (t : Text) :
    scanString (c :: t) = (scanString t).map fun (s, r) => (.plain c :: s, r) := by
  rw [scanString.eq_def]
  dsimp only
  rw [if_neg hquote, if_neg (Nat.not_lt_of_le hcontrol), if_neg hescape]

theorem scanString_letter {e c : CodePoint} (hu : e ≠ 'u') (he : escaped? e = some c) (t : Text) :
    scanString (('\\' : CodePoint) :: e :: t) =
      (scanString t).map fun (s, r) => (.plain c :: s, r) := by
  rw [scanString.eq_def]
  dsimp only
  rw [if_neg (by decide), if_neg (by decide), if_pos rfl, if_neg hu, he]

theorem scanString_unitEscape {n : Nat} (h : n < 0x10000) (t : Text) :
    scanString (unitEscape n ++ t) = (scanString t).map fun (s, r) => (.unit n :: s, r) := by
  have hdigits : unitEscape n ++ t = ('\\' : CodePoint) :: ('u' : CodePoint) ::
      Text.digit (n / 16 / 16 / 16 % 16) :: Text.digit (n / 16 / 16 % 16) ::
        Text.digit (n / 16 % 16) :: Text.digit (n % 16) :: t := rfl
  have hvalue : ((n / 16 / 16 / 16 % 16 * 16 + n / 16 / 16 % 16) * 16 + n / 16 % 16) * 16 + n % 16 =
      n := by omega
  have hread : ∀ m, (Text.digit (m % 16)).hexValue? = some (m % 16) :=
    fun m => Text.hexValue?_digit (Nat.mod_lt m (by decide))
  rw [hdigits, scanString.eq_def]
  dsimp only
  rw [if_neg (by decide), if_neg (by decide), if_pos rfl, if_pos rfl, hread, hread, hread, hread]
  dsimp only
  rw [hvalue]

theorem scanString_units : ∀ {us : List Nat}, (∀ u ∈ us, u < 0x10000) → ∀ t : Text,
    scanString (us.flatMap unitEscape ++ t) =
      (scanString t).map fun (s, r) => (us.map .unit ++ s, r)
  | [], _, t => by simp
  | u :: us, h, t => by
    rw [List.flatMap_cons, List.append_assoc, scanString_unitEscape (h u List.mem_cons_self),
      scanString_units fun v hv => h v (List.mem_cons_of_mem u hv), Option.map_map]
    rfl

/-! ## Code points -/

def isShort (c : CodePoint) : Bool :=
  (' ' ≤ c && c ≤ '~') || c = '\n' || c = '\r' || c = '\t' || c.val = 0x0C || c.val = 0x08

def scanned (c : CodePoint) : List Scanned :=
  if isShort c then [.plain c] else (unitsOf c).map .unit

/-- **A code point that is not written shortly is written as its UTF-16 units.** -/
theorem writeCodePoint_of_not_isShort {c : CodePoint} (h : isShort c = false) :
    writeCodePoint c = (unitsOf c).flatMap unitEscape := by
  simp only [isShort, Bool.or_eq_false_iff, decide_eq_false_iff_not] at h
  obtain ⟨⟨⟨⟨⟨hplain, hn⟩, hr⟩, ht⟩, hf⟩, hb⟩ := h
  have hquote : c ≠ '"' := by
    rintro rfl
    exact absurd hplain (by decide)
  have hbackslash : c ≠ '\\' := by
    rintro rfl
    exact absurd hplain (by decide)
  rw [writeCodePoint, if_neg hquote, if_neg hbackslash, if_neg hn, if_neg hr, if_neg ht, if_neg hf,
    if_neg hb, hplain, if_neg Bool.false_ne_true, unitsOf]
  split
  · exact (List.append_nil _).symm
  · simp

theorem scanString_of_isShort {c : CodePoint} (h : isShort c = true) (t : Text) :
    scanString (writeCodePoint c ++ t) = (scanString t).map fun (s, r) => (.plain c :: s, r) := by
  rw [writeCodePoint]
  split
  · rename_i hc
    exact hc ▸ scanString_letter (by decide) rfl t
  split
  · rename_i hc
    exact hc ▸ scanString_letter (by decide) rfl t
  split
  · rename_i hc
    exact hc ▸ scanString_letter (by decide) rfl t
  split
  · rename_i hc
    exact hc ▸ scanString_letter (by decide) rfl t
  split
  · rename_i hc
    exact hc ▸ scanString_letter (by decide) rfl t
  split
  · rename_i hc
    obtain rfl : c = ('\x0c' : CodePoint) := Fin.ext hc
    exact scanString_letter (by decide) rfl t
  split
  · rename_i hc
    obtain rfl : c = ('\x08' : CodePoint) := Fin.ext hc
    exact scanString_letter (by decide) rfl t
  · rename_i hquote hbackslash hn hr ht hf hb
    have hplain : (' ' ≤ c && c ≤ '~') = true := by
      simpa [isShort, hn, hr, ht, hf, hb] using h
    rw [if_pos hplain]
    have hcontrol : 0x20 ≤ c.val := by
      simp only [Bool.and_eq_true, decide_eq_true_eq] at hplain
      exact hplain.1
    exact scanString_plain hquote hcontrol hbackslash t

theorem scanString_writeCodePoint (c : CodePoint) (t : Text) :
    scanString (writeCodePoint c ++ t) = (scanString t).map fun (s, r) => (scanned c ++ s, r) := by
  cases hshort : isShort c with
  | true =>
    rw [scanString_of_isShort hshort, scanned, hshort]
    rfl
  | false =>
    rw [writeCodePoint_of_not_isShort hshort, scanned, hshort,
      scanString_units fun u => Utf16.lt_of_mem_unitsOf]
    rfl

/-! ## Strings -/

theorem scanString_written (rest : Text) : ∀ t : Text,
    scanString (t.flatMap writeCodePoint ++ ('"' : CodePoint) :: rest) =
      some (t.flatMap scanned, rest)
  | [] => by
    rw [List.flatMap_nil, List.nil_append, scanString.eq_def]
    dsimp only
    rw [if_pos rfl]
    rfl
  | c :: t => by
    rw [List.flatMap_cons, List.append_assoc, scanString_writeCodePoint, scanString_written rest t]
    rfl

theorem joinEscapes_plain (c : CodePoint) (s : List Scanned) :
    joinEscapes (.plain c :: s) = c :: joinEscapes s := by
  cases s with
  | nil => rfl
  | cons => rw [joinEscapes]; nofun

theorem joinEscapes_unit {u : Nat} (h : Utf16.isHigh u = false) (s : List Scanned) :
    joinEscapes (.unit u :: s) = .ofNat u :: joinEscapes s := by
  match s with
  | [] => rfl
  | .plain c :: s => rfl
  | .unit v :: s => rw [joinEscapes, h, Bool.false_and, if_neg Bool.false_ne_true]

theorem joinEscapes_scanned {c : CodePoint} (h : c.isSurrogate = false) (s : List Scanned) :
    joinEscapes (scanned c ++ s) = c :: joinEscapes s := by
  rw [scanned]
  split
  · exact joinEscapes_plain c s
  rw [unitsOf]
  split
  · rw [List.map_singleton, List.singleton_append, joinEscapes_unit
      (Utf16.isHigh_of_not_isSurrogate h), CodePoint.ofNat_val]
  · rename_i hplane
    -- beyond the first plane two escapes stand for the halves of a pair
    obtain ⟨hhigh, hlow, hpair⟩ := Utf16.pair_of_le (Nat.le_of_not_lt hplane)
    rw [decide_eq_true c.isLt] at hhigh
    rw [List.map_cons, List.map_singleton, List.cons_append, List.singleton_append, joinEscapes,
      hhigh, hlow, hpair, CodePoint.ofNat_val]
    rfl

theorem joinEscapes_written : ∀ {t : Text}, (∀ c ∈ t, c.isSurrogate = false) →
    joinEscapes (t.flatMap scanned) = t
  | [], _ => rfl
  | c :: t, h => by
    rw [List.flatMap_cons, joinEscapes_scanned (h c List.mem_cons_self),
      joinEscapes_written fun d hd => h d (List.mem_cons_of_mem c hd)]

theorem readString_written {t : Text} (h : ∀ c ∈ t, c.isSurrogate = false) (rest : Text) :
    readString (t.flatMap writeCodePoint ++ ('"' : CodePoint) :: rest) = .ok (t, rest) := by
  rw [readString, scanString_written]
  dsimp only
  rw [joinEscapes_written h]

/-! ## Integers -/

/-- A text does not carry on a number that it follows. -/
def EndsNumber (rest : Text) : Prop :=
  ∀ c tail, rest = c :: tail → c.isDigit = false ∧ c ≠ '.' ∧ c ≠ 'e' ∧ c ≠ 'E'

section

variable {rest : Text}

theorem spanDigits_append {ds : Text} (hdigits : ∀ c ∈ ds, c.isDigit = true)
    (h : EndsNumber rest) : spanDigits (ds ++ rest) = (ds, rest) := by
  have hstop : rest.takeWhile CodePoint.isDigit = [] ∧ rest.dropWhile CodePoint.isDigit = rest := by
    cases rest with
    | nil => exact ⟨rfl, rfl⟩
    | cons c tail =>
      have hc : ¬c.isDigit = true := by rw [(h c tail rfl).1]; exact Bool.false_ne_true
      exact ⟨List.takeWhile_cons_of_neg hc, List.dropWhile_cons_of_neg hc⟩
  rw [spanDigits, List.takeWhile_append_of_pos hdigits, List.dropWhile_append_of_pos hdigits,
    hstop.1, hstop.2, List.append_nil]

theorem spanWhole_ofNat (n : Nat) (h : EndsNumber rest) :
    spanWhole (Text.ofNat n ++ rest) = some (Text.ofNat n, rest) := by
  by_cases hn : n = 0
  · subst hn
    rfl
  · obtain ⟨c, ds, hdigits, hc, -⟩ := Text.exists_ofNat_eq_cons hn
    have hspan : spanDigits (Text.ofNat n ++ rest) = (Text.ofNat n, rest) :=
      spanDigits_append (Text.isDigit_of_mem_ofNat n) h
    rw [hdigits] at hspan ⊢
    unfold spanWhole
    split
    · rename_i heq
      cases heq
      exact absurd rfl hc
    · rw [hspan]

theorem spanFraction_eq_none (h : EndsNumber rest) : spanFraction rest = none := by
  unfold spanFraction
  split
  · exact absurd rfl (h _ _ rfl).2.1
  · rfl

theorem spanExponent_eq_none (h : EndsNumber rest) : spanExponent rest = none := by
  match rest with
  | [] => rfl
  | c :: tail =>
    obtain ⟨-, -, he, hE⟩ := h c tail rfl
    unfold spanExponent
    dsimp only
    split
    · rfl
    · rename_i unsigned heq
      split at heq
      · rename_i hcons
        cases hcons
        exact absurd rfl he
      · rename_i hcons
        cases hcons
        exact absurd rfl hE
      · cases heq

theorem readNumber_ofNat (negative : Bool) {n : Nat} (hn : n < 10 ^ Text.maxDigits)
    (h : EndsNumber rest) : readNumber negative (Text.ofNat n ++ rest) =
      .ok (.int (if negative then -(n : Int) else n), rest) := by
  have hlength : ¬Text.maxDigits < (Text.ofNat n).length :=
    Nat.not_lt_of_le (Text.length_ofNat_le (by decide) hn)
  rw [readNumber, spanWhole_ofNat n h]
  dsimp only
  rw [spanFraction_eq_none h]
  dsimp only [Option.map_none, Option.getD_none]
  rw [spanExponent_eq_none h]
  dsimp only
  rw [if_neg hlength, Text.digitsValue_ofNat]

theorem afterPrefix?_of_ne {c d : CodePoint} (h : d ≠ c) (ds t : Text) :
    Text.afterPrefix? (d :: ds) (c :: t) = none := by
  rw [Text.afterPrefix?, if_neg h]

theorem ne_of_isDigit {c d : CodePoint} (hc : c.isDigit = true) (hd : d.isDigit = false) :
    d ≠ c := by
  rintro rfl
  rw [hc] at hd
  cases hd

theorem readScalar_of_isDigit {c : CodePoint} (hc : c.isDigit = true) (t : Text) :
    readScalar (c :: t) = readNumber false (c :: t) := by
  have hnone : ∀ (d : CodePoint) (ds : Text), d.isDigit = false →
      Text.afterPrefix? (d :: ds) (c :: t) = none :=
    fun d ds hd => afterPrefix?_of_ne (ne_of_isDigit hc hd) ds t
  unfold readScalar
  simp only [List.findSome?_cons, List.findSome?_nil, Option.map_none,
    show Text.afterPrefix? "null" (c :: t) = none from hnone _ _ rfl,
    show Text.afterPrefix? "true" (c :: t) = none from hnone _ _ rfl,
    show Text.afterPrefix? "false" (c :: t) = none from hnone _ _ rfl,
    show Text.afterPrefix? "NaN" (c :: t) = none from hnone _ _ rfl,
    show Text.afterPrefix? "Infinity" (c :: t) = none from hnone _ _ rfl,
    show Text.afterPrefix? "-Infinity" (c :: t) = none from hnone _ _ rfl]
  split
  · rename_i heq
    cases heq
    cases hc
  · rfl

theorem readScalar_minus {c : CodePoint} (hc : c.isDigit = true) (t : Text) :
    readScalar (('-' : CodePoint) :: c :: t) = readNumber true (c :: t) := by
  have hnone : Text.afterPrefix? "-Infinity" (('-' : CodePoint) :: c :: t) = none :=
    afterPrefix?_of_ne (ne_of_isDigit hc rfl) "nfinity" t
  unfold readScalar
  simp only [List.findSome?_cons, List.findSome?_nil, Option.map_none, hnone,
    show Text.afterPrefix? "null" (('-' : CodePoint) :: c :: t) = none from rfl,
    show Text.afterPrefix? "true" (('-' : CodePoint) :: c :: t) = none from rfl,
    show Text.afterPrefix? "false" (('-' : CodePoint) :: c :: t) = none from rfl,
    show Text.afterPrefix? "NaN" (('-' : CodePoint) :: c :: t) = none from rfl,
    show Text.afterPrefix? "Infinity" (('-' : CodePoint) :: c :: t) = none from rfl]
  rfl

theorem exists_ofNat_eq_cons_digit (n : Nat) :
    ∃ c ds, Text.ofNat n = c :: ds ∧ c.isDigit = true := by
  by_cases hn : n = 0
  · subst hn
    exact ⟨_, _, rfl, rfl⟩
  · obtain ⟨c, ds, h, -, hc⟩ := Text.exists_ofNat_eq_cons hn
    exact ⟨c, ds, h, hc⟩

theorem readScalar_ofInt {n : Int} (hn : n.natAbs < 10 ^ Text.maxDigits) (h : EndsNumber rest) :
    readScalar (Text.ofInt n ++ rest) = .ok (.int n, rest) := by
  cases n with
  | ofNat n =>
    obtain ⟨c, ds, hdigits, hc⟩ := exists_ofNat_eq_cons_digit n
    have hread := readNumber_ofNat false (n := n) hn h
    rw [hdigits] at hread
    rw [Text.ofInt, hdigits]
    exact (readScalar_of_isDigit hc _).trans hread
  | negSucc n =>
    obtain ⟨c, ds, hdigits, hc⟩ := exists_ofNat_eq_cons_digit (n + 1)
    have hread := readNumber_ofNat true (n := n + 1) hn h
    rw [hdigits] at hread
    rw [Text.ofInt, hdigits]
    exact (readScalar_minus hc _).trans hread

end

end Issuer.Json
