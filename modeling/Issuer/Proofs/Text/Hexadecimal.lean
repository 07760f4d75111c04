import Issuer.Text.Blank
import Issuer.Text.Encoding
import Mathlib.Tactic.IntervalCases
/-!
# Hexadecimal digits

A digit of base sixteen is read as its value in either case, and written in lower case; so reading
and writing one again makes it lower case.  Bytes are written as two digits each.
-/
namespace Issuer

namespace CodePoint

/-! ## Reading one -/

def hexadecimals : Text := "0123456789abcdefABCDEF"

/-- What holds of the first 128 code points holds of all of ASCII. -/
theorem forall_ascii {p : CodePoint → Prop} (h : ∀ n : Fin 128, p (n.castLE (by decide)))
    {c : CodePoint} (ascii : c.isAscii = true) : p c :=
  h ⟨c.val, of_decide_eq_true ascii⟩

theorem isAscii_of_hexValue? {c : CodePoint} {v : Nat} (h : c.hexValue? = some v) :
    c.isAscii = true := by
  have bound {last : CodePoint} (small : last.val < 0x80) (le : c ≤ last) : c.isAscii = true :=
    decide_eq_true (Nat.lt_of_le_of_lt le small)
  simp only [hexValue?, isDigit, Bool.and_eq_true, decide_eq_true_eq] at h
  split at h
  · rename_i digit
    exact bound (by decide) digit.2
  split at h
  · rename_i lower
    exact bound (by decide) lower.2
  split at h
  · rename_i upper
    exact bound (by decide) upper.2
  · cases h

theorem exists_hexValue?_iff {c : CodePoint} :
    (∃ v, c.hexValue? = some v) ↔ c ∈ hexadecimals := by
  have valued : (hexadecimals.all fun c => c.hexValue?.isSome) = true := by decide
  have listed {c : CodePoint} (ascii : c.isAscii = true) :
      c.hexValue?.isSome = true → c ∈ hexadecimals :=
    forall_ascii (p := fun c => c.hexValue?.isSome = true → c ∈ hexadecimals) (by decide) ascii
  refine ⟨fun ⟨v, hv⟩ => listed (isAscii_of_hexValue? hv) (by rw [hv]; rfl), fun h => ?_⟩
  exact Option.isSome_iff_exists.1 (List.all_eq_true.1 valued c h)

theorem hexValue?_spec {c : CodePoint} {v : Nat} (h : c.hexValue? = some v) :
    v < 16 ∧ Text.digit v = c.asciiLower ∧ c.isAsciiBlank = false :=
  forall_ascii (p := fun c => ∀ v ∈ c.hexValue?, v < 16 ∧ Text.digit v = c.asciiLower ∧
    c.isAsciiBlank = false) (by decide) (isAscii_of_hexValue? h) v h

theorem isAscii_of_isAsciiBlank {c : CodePoint} (h : c.isAsciiBlank = true) : c.isAscii = true := by
  simp only [isAsciiBlank, Bool.or_eq_true, Bool.and_eq_true, decide_eq_true_eq, beq_iff_eq] at h
  obtain h | rfl := h
  · exact decide_eq_true (by omega)
  · rfl

end CodePoint

/-! ## Writing one -/

namespace Text

theorem hexValue?_digit {n : Nat} (h : n < 16) : (digit n).hexValue? = some n := by
  interval_cases n <;> rfl

def lowerHexadecimals : Text := "0123456789abcdef"

theorem digit_mem_lowerHexadecimals {n : Nat} (h : n < 16) : digit n ∈ lowerHexadecimals := by
  interval_cases n <;> decide

end Text

namespace Bytes

theorem toHex_cons (b : UInt8) (bytes : Bytes) : toHex (b :: bytes) =
    Text.digit (b.toNat / 16) :: Text.digit (b.toNat % 16) :: toHex bytes := by
  have high : b.toNat / 16 % 16 = b.toNat / 16 :=
    Nat.mod_eq_of_lt (Nat.div_lt_of_lt_mul b.toNat_lt)
  rw [toHex, List.flatMap_cons, Text.hexDigits, Text.hexDigits, Text.hexDigits, high]
  rfl

theorem length_toHex : ∀ bytes : Bytes, bytes.toHex.length = 2 * bytes.length
  | [] => rfl
  | b :: bytes => by
    rw [toHex_cons, List.length_cons, List.length_cons, length_toHex bytes, List.length_cons]
    omega

theorem mem_lowerHexadecimals_of_mem_toHex : ∀ {bytes : Bytes}, ∀ c ∈ bytes.toHex,
    c ∈ Text.lowerHexadecimals
  | [] => nofun
  | b :: bytes => by
    rw [toHex_cons]
    exact List.forall_mem_cons.2
      ⟨Text.digit_mem_lowerHexadecimals (Nat.div_lt_of_lt_mul b.toNat_lt), List.forall_mem_cons.2
        ⟨Text.digit_mem_lowerHexadecimals (Nat.mod_lt _ (by decide)),
          mem_lowerHexadecimals_of_mem_toHex⟩⟩

end Bytes

end Issuer
