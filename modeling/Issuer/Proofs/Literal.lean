import Issuer.Literal
import Issuer.Proofs.Text.Decimal
/-!
# Literals — which texts are integers and booleans

An integer is a sign, which may be left out, and digits.  A text is read as an integer exactly if it
spells one of 64 bits with no more digits than are read, and it is refused for the first of these
that fails (`readInteger_spells`).  So every integer of 64 bits is read as it is written, and
neither zeros before the digits nor a plus sign make a difference.
-/
namespace Issuer.Literal

open CodePoint (isDigit)

/-! ## Spellings of integers -/

/-- The signs that an integer may have. -/
inductive Sign where
  | unsigned
  | plus
  | minus
  deriving DecidableEq, Repr

def Sign.written : Sign → Text
  | unsigned => ""
  | plus => "+"
  | minus => "-"

def Sign.apply : Sign → Nat → Int
  | minus, size => -size
  | _, size => size

structure IsDigits (digits : Text) : Prop where
  nonempty : digits ≠ []
  digit : ∀ c ∈ digits, isDigit c = true

/-- The value of digits in base ten: the last counts ones, the one before it tens. -/
def value (digits : Text) : Nat := Nat.ofDigits 10 (digits.reverse.map CodePoint.digitValue)

/-- **A text spells an integer**: a sign or none, and at most 4300 digits. -/
inductive Spells : Text → Int → Prop where
  | intro (sign : Sign) {digits : Text} (h : IsDigits digits) (short : digits.length ≤ 4300) :
      Spells (sign.written ++ digits) (sign.apply (value digits))

/-- An integer of 64 bits. -/
def Fits (n : Int) : Prop := -2 ^ 63 ≤ n ∧ n ≤ 2 ^ 63 - 1

instance (n : Int) : Decidable (Fits n) := inferInstanceAs (Decidable (_ ∧ _))

/-- **Why a text is refused** as an integer: it is no digits behind a sign, it has too many of them,
or its integer is too large. -/
inductive Refuses : Text → Problem → Prop where
  | malformed {t : Text}
      (h : ∀ (sign : Sign) digits, IsDigits digits → t ≠ sign.written ++ digits) :
      Refuses t (.notInteger t)
  | long (sign : Sign) {digits : Text} (h : IsDigits digits) (long : 4300 < digits.length) :
      Refuses (sign.written ++ digits) (.tooLong digits.length)
  | large {t : Text} {n : Int} (h : Spells t n) (large : ¬ Fits n) : Refuses t (.outOfRange t)

/-! ## Signs and digits -/

theorem ne_sign_of_isDigit {c : CodePoint} (h : isDigit c = true) :
    c ≠ ('-' : CodePoint) ∧ c ≠ ('+' : CodePoint) := by
  constructor <;> rintro rfl <;> exact absurd h (by decide)

theorem splitSign_written (sign : Sign) {digits : Text} (h : IsDigits digits) :
    splitSign (sign.written ++ digits) = (sign == .minus, digits) := by
  cases sign with
  | plus | minus => rfl
  | unsigned =>
    obtain ⟨c, rest, rfl⟩ := List.exists_cons_of_ne_nil h.nonempty
    obtain ⟨minus, plus⟩ := ne_sign_of_isDigit (h.digit c List.mem_cons_self)
    change splitSign (c :: rest) = _
    unfold splitSign
    split
    · rename_i first
      exact absurd (List.cons.inj first).1 minus
    · rename_i first
      exact absurd (List.cons.inj first).1 plus
    · rfl

theorem exists_eq_written_append (t : Text) :
    ∃ sign : Sign, t = sign.written ++ (splitSign t).2 ∧ (splitSign t).1 = (sign == .minus) := by
  unfold splitSign
  split
  · exact ⟨.minus, rfl, rfl⟩
  · exact ⟨.plus, rfl, rfl⟩
  · exact ⟨.unsigned, rfl, rfl⟩

theorem isDigits_iff {digits : Text} :
    IsDigits digits ↔ (digits.isEmpty || !digits.all isDigit) = false := by
  rw [Bool.or_eq_false_iff, Bool.not_eq_false', List.all_eq_true, List.isEmpty_eq_false_iff]
  exact ⟨fun h => ⟨h.nonempty, h.digit⟩, fun h => ⟨h.1, h.2⟩⟩

/-! ## Reading integers -/

theorem readInteger_written (sign : Sign) {digits : Text} (h : IsDigits digits) :
    readInteger (sign.written ++ digits) =
      if 4300 < digits.length then .error (.tooLong digits.length)
      else if Fits (sign.apply (value digits)) then .ok (sign.apply (value digits))
      else .error (.outOfRange (sign.written ++ digits)) := by
  have signed : (if (sign == .minus) = true then -(Text.digitsValue digits : Int)
      else Text.digitsValue digits) = sign.apply (value digits) := by
    rw [Text.digitsValue_eq_ofDigits]
    cases sign <;> rfl
  unfold readInteger
  rw [splitSign_written sign h]
  dsimp only
  rw [isDigits_iff.1 h, if_neg Bool.false_ne_true, signed]
  rfl

theorem readInteger_of_malformed {t : Text}
    (h : ∀ (sign : Sign) digits, IsDigits digits → t ≠ sign.written ++ digits) :
    readInteger t = .error (.notInteger t) := by
  obtain ⟨sign, written, -⟩ := exists_eq_written_append t
  unfold readInteger
  dsimp only
  split
  · rfl
  · rename_i right
    rw [Bool.not_eq_true] at right
    exact absurd written (h sign _ (isDigits_iff.2 right))

theorem readInteger_of_spells {t : Text} {n : Int} (h : Spells t n) (fits : Fits n) :
    readInteger t = .ok n := by
  obtain ⟨sign, h, short⟩ := h
  rw [readInteger_written sign h, if_neg (Nat.not_lt_of_le short), if_pos fits]

theorem readInteger_of_refuses {t : Text} {p : Problem} (h : Refuses t p) :
    readInteger t = .error p := by
  cases h with
  | malformed h => exact readInteger_of_malformed h
  | long sign h long => rw [readInteger_written sign h, if_pos long]
  | large h large =>
    obtain ⟨sign, h, short⟩ := h
    rw [readInteger_written sign h, if_neg (Nat.not_lt_of_le short), if_neg large]

/-- **A text spells an integer of 64 bits, or there is a reason to refuse it.** -/
theorem spells_or_refuses (t : Text) : (∃ n, Spells t n ∧ Fits n) ∨ ∃ p, Refuses t p := by
  by_cases written : ∃ (sign : Sign) (digits : Text), IsDigits digits ∧ t = sign.written ++ digits
  · obtain ⟨sign, digits, h, rfl⟩ := written
    by_cases long : 4300 < digits.length
    · exact .inr ⟨_, .long sign h long⟩
    · have spelled := Spells.intro sign h (Nat.le_of_not_lt long)
      by_cases fits : Fits (sign.apply (value digits))
      · exact .inl ⟨_, spelled, fits⟩
      · exact .inr ⟨_, .large spelled fits⟩
  · exact .inr ⟨_, .malformed fun sign digits h ht => written ⟨sign, digits, h, ht⟩⟩

/-- **A text is read as the integer of 64 bits that it spells.** -/
theorem readInteger_eq_ok_iff {t : Text} {n : Int} :
    readInteger t = .ok n ↔ Spells t n ∧ Fits n := by
  refine ⟨fun h => ?_, fun h => readInteger_of_spells h.1 h.2⟩
  obtain ⟨m, spelled, fits⟩ | ⟨p, refused⟩ := spells_or_refuses t
  · rw [readInteger_of_spells spelled fits] at h
    cases h
    exact ⟨spelled, fits⟩
  · rw [readInteger_of_refuses refused] at h
    cases h

/-! ## What makes no difference

A text that is refused is told, zeros and sign included; so only what is read is compared.
-/

section Digits

variable {digits : Text}

theorem toOption_readInteger (sign : Sign) (h : IsDigits digits) :
    (readInteger (sign.written ++ digits)).toOption =
      if digits.length ≤ 4300 ∧ Fits (sign.apply (value digits)) then
        some (sign.apply (value digits))
      else none := by
  rw [readInteger_written sign h]
  by_cases long : 4300 < digits.length
  · rw [if_pos long, if_neg fun all => absurd long (Nat.not_lt_of_le all.1)]
    rfl
  · rw [if_neg long]
    split
    · rename_i fits
      rw [if_pos ⟨Nat.le_of_not_lt long, fits⟩]
      rfl
    · rename_i large
      rw [if_neg fun all => large all.2]
      rfl

theorem value_zeros (zeros : Nat) :
    value (List.replicate zeros ('0' : CodePoint) ++ digits) = value digits := by
  simp only [value, ← Text.digitsValue_eq_ofDigits, Text.digitsValue_zeros]

theorem IsDigits.zeros (h : IsDigits digits) (zeros : Nat) :
    IsDigits (List.replicate zeros ('0' : CodePoint) ++ digits) where
  nonempty := List.append_ne_nil_of_right_ne_nil _ h.nonempty
  digit := by
    refine List.forall_mem_append.2 ⟨fun c hc => ?_, h.digit⟩
    rw [(List.mem_replicate.1 hc).2]
    rfl

/-- **Zeros before the digits make no difference**, as long as no more digits stand there than are
read. -/
theorem toOption_readInteger_zeros (sign : Sign) (h : IsDigits digits) {zeros : Nat}
    (short : zeros + digits.length ≤ 4300) :
    (readInteger (sign.written ++ (List.replicate zeros ('0' : CodePoint) ++ digits))).toOption =
      (readInteger (sign.written ++ digits)).toOption := by
  have length : (List.replicate zeros ('0' : CodePoint) ++ digits).length ≤ 4300 := by
    rwa [List.length_append, List.length_replicate]
  rw [toOption_readInteger sign (h.zeros zeros), toOption_readInteger sign h, value_zeros]
  exact if_congr (and_congr_left fun _ => iff_of_true length ((Nat.le_add_left _ _).trans short))
    rfl rfl

end Digits

theorem isDigits_ofNat (n : Nat) : IsDigits (Text.ofNat n) where
  nonempty := by
    by_cases zero : n = 0
    · rw [zero]
      exact List.cons_ne_nil _ _
    · obtain ⟨c, rest, written, -⟩ := Text.exists_ofNat_eq_cons zero
      rw [written]
      exact List.cons_ne_nil c rest
  digit := Text.isDigit_of_mem_ofNat n

theorem value_ofNat (n : Nat) : value (Text.ofNat n) = n := by
  rw [value, ← Text.digitsValue_eq_ofDigits, Text.digitsValue_ofNat]

theorem exists_ofInt_eq (n : Int) : ∃ sign : Sign,
    Text.ofInt n = sign.written ++ Text.ofNat n.natAbs ∧ n = sign.apply n.natAbs := by
  cases n with
  | ofNat size => exact ⟨.unsigned, rfl, rfl⟩
  | negSucc size => exact ⟨.minus, rfl, rfl⟩

/-- **An integer of 64 bits is spelled as it is written.** -/
theorem spells_ofInt {n : Int} (fits : Fits n) : Spells (Text.ofInt n) n := by
  obtain ⟨sign, written, signed⟩ := exists_ofInt_eq n
  -- Nineteen digits are enough for 64 bits, far fewer than are read.
  have size : n.natAbs < 10 ^ 19 := by
    unfold Fits at fits
    omega
  have short : (Text.ofNat n.natAbs).length ≤ 4300 :=
    (Text.length_ofNat_le (by decide) size).trans (by decide)
  have spelled := Spells.intro sign (isDigits_ofNat n.natAbs) short
  rwa [value_ofNat, ← written, ← signed] at spelled

/-- **A text is read as an integer exactly if it spells one of 64 bits**, and any other text is
refused.  Every integer of 64 bits is read as it is written; zeros before the digits make no
difference, up to the most digits that are read, nor does a plus sign. -/
theorem readInteger_spells (t : Text) (n : Int) :
    (readInteger t = .ok n ↔ Spells t n ∧ Fits n) ∧
    ((∀ m, ¬ (Spells t m ∧ Fits m)) → ∃ p, readInteger t = .error p ∧ Refuses t p) ∧
    (Fits n → readInteger (Text.ofInt n) = .ok n) ∧
    ∀ (sign : Sign) (digits : Text), IsDigits digits →
      (∀ zeros, zeros + digits.length ≤ 4300 →
        (readInteger
          (sign.written ++ (List.replicate zeros ('0' : CodePoint) ++ digits))).toOption =
            (readInteger (sign.written ++ digits)).toOption) ∧
      (readInteger (('+' : CodePoint) :: digits)).toOption = (readInteger digits).toOption := by
  refine ⟨readInteger_eq_ok_iff, fun unspelled => ?_, fun fits => ?_, fun sign digits h => ⟨?_, ?_⟩⟩
  · obtain ⟨m, spelled⟩ | ⟨p, refused⟩ := spells_or_refuses t
    · exact absurd spelled (unspelled m)
    · exact ⟨p, readInteger_of_refuses refused, refused⟩
  · exact readInteger_of_spells (spells_ofInt fits) fits
  · exact fun zeros short => toOption_readInteger_zeros sign h short
  · exact (toOption_readInteger .plus h).trans (toOption_readInteger .unsigned h).symm

/-- The least integer of 64 bits is read as it is written, and seven is read behind 4299 zeros and a
plus sign, but not behind 4300 zeros. -/
theorem readInteger_spells_least :
    let least : Int := -2 ^ 63
    let seven (zeros : Nat) : Text := List.replicate zeros ('0' : CodePoint) ++ ("7" : Text)
    Fits least ∧ readInteger (Text.ofInt least) = .ok least ∧
    (∀ m, ¬ (Spells (seven 4300) m ∧ Fits m)) ∧
    (∃ p, readInteger (seven 4300) = .error p ∧ Refuses (seven 4300) p) ∧
    IsDigits "7" ∧ (readInteger (("+" : Text) ++ seven 4299)).toOption = some 7 := by
  intro least seven
  have fits : Fits least := ⟨by decide, by decide⟩
  have digits : IsDigits "7" := isDigits_iff.2 (by decide)
  have many : 4300 < (seven 4300).length := by
    rw [List.length_append, List.length_replicate]
    decide
  have long : readInteger (seven 4300) = .error (.tooLong (seven 4300).length) :=
    readInteger_of_refuses (Refuses.long .unsigned (digits.zeros 4300) many)
  have unspelled : ∀ m, ¬ (Spells (seven 4300) m ∧ Fits m) := fun m h => by
    have read := readInteger_eq_ok_iff.2 h
    rw [long] at read
    cases read
  obtain ⟨-, refused, -, -⟩ := readInteger_spells (seven 4300) 7
  obtain ⟨-, -, written, same⟩ := readInteger_spells (seven 4299) least
  refine ⟨fits, written fits, unspelled, refused unspelled, digits, ?_⟩
  exact ((same .plus "7" digits).1 4299 (by decide)).trans (by decide)

/-! ## Booleans -/

theorem readBoolean_eq_ok_iff {t : Text} {b : Bool} :
    readBoolean t = .ok b ↔ t ∈ if b then trueSpellings else falseSpellings := by
  have apart : ∀ s ∈ trueSpellings, s ∉ falseSpellings := by decide
  unfold readBoolean
  by_cases yes : t ∈ trueSpellings
  · rw [if_pos (List.contains_iff_mem.2 yes)]
    cases b with
    | true => exact iff_of_true rfl yes
    | false => exact iff_of_false nofun (apart t yes)
  · rw [if_neg fun h => yes (List.contains_iff_mem.1 h)]
    by_cases no : t ∈ falseSpellings
    · rw [if_pos (List.contains_iff_mem.2 no)]
      cases b with
      | true => exact iff_of_false nofun yes
      | false => exact iff_of_true rfl no
    · rw [if_neg fun h => no (List.contains_iff_mem.1 h)]
      cases b with
      | true => exact iff_of_false nofun yes
      | false => exact iff_of_false nofun no

end Issuer.Literal
