import Issuer.Text.Basic
import Mathlib.Data.Nat.Digits.Defs
import Mathlib.Tactic.IntervalCases
/-!
# Decimal digits

A natural number is written as the digits of its tenth and a last digit.  From this it follows what
stands in the digits: each is a digit, no zero leads, they are as few as the number allows, and
their value is the number.  The value of any digits is that of their places, and zeros before them
do not change it.
-/
namespace Issuer.Text

open CodePoint (isDigit)

theorem decimalDigits_append : ∀ (fuel n : Nat) (tail : Text),
    decimalDigits fuel n tail = decimalDigits fuel n [] ++ tail
  | 0, _, _ => rfl
  | fuel + 1, n, tail => by
    rw [decimalDigits, decimalDigits]
    split
    · rfl
    · rw [decimalDigits_append fuel (n / 10) (digit (n % 10) :: tail),
        decimalDigits_append fuel (n / 10) [digit (n % 10)], List.append_assoc]
      rfl

theorem decimalDigits_eq_of_lt : ∀ {fuel fuel' n : Nat}, n < 10 ^ (fuel + 1) →
    n < 10 ^ (fuel' + 1) →
      ∀ tail, decimalDigits (fuel + 1) n tail = decimalDigits (fuel' + 1) n tail
  | fuel, fuel', n, h, h', tail => by
    rw [decimalDigits, decimalDigits]
    split
    · rfl
    · rename_i hten
      -- a number of two digits leaves no fuel at zero
      cases fuel with
      | zero => exact absurd h hten
      | succ fuel =>
        cases fuel' with
        | zero => exact absurd h' hten
        | succ fuel' =>
          exact decimalDigits_eq_of_lt (Nat.div_lt_of_lt_mul (by rwa [Nat.pow_succ'] at h))
            (Nat.div_lt_of_lt_mul (by rwa [Nat.pow_succ'] at h')) _

theorem lt_pow_log2 (n : Nat) : n < 10 ^ (n.log2 + 1) :=
  Nat.lt_of_lt_of_le Nat.lt_log2_self (Nat.pow_le_pow_left (by decide) _)

theorem ofNat_of_lt {n : Nat} (h : n < 10) : ofNat n = [digit n] := by
  rw [ofNat, decimalDigits, if_pos h]

/-- **A number is written as its tenth and a last digit.** -/
theorem ofNat_of_le {n : Nat} (h : 10 ≤ n) : ofNat n = ofNat (n / 10) ++ [digit (n % 10)] := by
  have hdiv : n / 10 < 10 ^ n.log2 := Nat.div_lt_of_lt_mul (by
    have := lt_pow_log2 n
    rwa [Nat.pow_succ'] at this)
  obtain ⟨fuel, hfuel⟩ : ∃ fuel, n.log2 = fuel + 1 :=
    Nat.exists_eq_succ_of_ne_zero fun hzero => by
      rw [hzero] at hdiv
      omega
  rw [ofNat, decimalDigits, if_neg (Nat.not_lt_of_le h), decimalDigits_append, hfuel, ofNat,
    decimalDigits_eq_of_lt (hfuel ▸ hdiv) (lt_pow_log2 (n / 10))]

/-! ## What stands in the digits -/

theorem digit_spec {n : Nat} (h : n < 10) : (digit n).val = 48 + n := by
  rw [digit, if_pos h, CodePoint.ofNat, dif_pos (by omega)]

theorem isDigit_digit {n : Nat} (h : n < 10) : isDigit (digit n) = true := by
  interval_cases n <;> rfl

theorem isDigit_of_mem_ofNat (n : Nat) : ∀ c ∈ ofNat n, isDigit c = true := by
  induction n using Nat.strong_induction_on with
  | _ n ih =>
    by_cases h : n < 10
    · rw [ofNat_of_lt h]
      simpa using isDigit_digit h
    · rw [ofNat_of_le (Nat.le_of_not_lt h)]
      intro c hc
      obtain hc | hc := List.mem_append.1 hc
      · exact ih (n / 10) (by omega) c hc
      · rw [List.mem_singleton.1 hc]
        exact isDigit_digit (Nat.mod_lt n (by decide))

theorem digitsValue_ofNat (n : Nat) : digitsValue (ofNat n) = n := by
  induction n using Nat.strong_induction_on with
  | _ n ih =>
    by_cases h : n < 10
    · rw [ofNat_of_lt h]
      simp [digitsValue, CodePoint.digitValue, digit_spec h]
    · have hvalue : (digit (n % 10)).digitValue = n % 10 := by
        rw [CodePoint.digitValue, digit_spec (Nat.mod_lt n (by decide)), Nat.add_sub_cancel_left]
      have htenth : (ofNat (n / 10)).foldl (fun n c => 10 * n + c.digitValue) 0 = n / 10 :=
        ih (n / 10) (by omega)
      rw [ofNat_of_le (Nat.le_of_not_lt h), digitsValue, List.foldl_append, htenth, List.foldl_cons,
        List.foldl_nil, hvalue]
      omega

theorem exists_ofNat_eq_cons {n : Nat} (h : n ≠ 0) :
    ∃ c rest, ofNat n = c :: rest ∧ c ≠ '0' ∧ isDigit c = true := by
  induction n using Nat.strong_induction_on with
  | _ n ih =>
    by_cases hten : n < 10
    · refine ⟨digit n, [], ofNat_of_lt hten, fun hzero => h ?_, isDigit_digit hten⟩
      have hval : (digit n).val = 48 := congrArg Fin.val hzero
      rw [digit_spec hten] at hval
      omega
    · obtain ⟨c, rest, htenth, hc⟩ := ih (n / 10) (by omega) (by omega)
      refine ⟨c, rest ++ [digit (n % 10)], ?_, hc⟩
      rw [ofNat_of_le (Nat.le_of_not_lt hten), htenth, List.cons_append]

theorem length_ofNat_le {n k : Nat} (hk : 0 < k) (h : n < 10 ^ k) : (ofNat n).length ≤ k := by
  induction k, hk using Nat.le_induction generalizing n with
  | base => rw [ofNat_of_lt h]; rfl
  | succ k hk ih =>
    by_cases hten : n < 10
    · rw [ofNat_of_lt hten]
      exact Nat.succ_le_succ (Nat.zero_le _)
    · rw [ofNat_of_le (Nat.le_of_not_lt hten), List.length_append]
      exact Nat.succ_le_succ (ih (Nat.div_lt_of_lt_mul (by rwa [Nat.pow_succ'] at h)))

/-! ## What digits are worth -/

theorem digitsValue_eq_ofDigits (digits : Text) :
    digitsValue digits = Nat.ofDigits 10 (digits.reverse.map CodePoint.digitValue) := by
  rw [digitsValue, Nat.ofDigits_eq_foldr, List.foldr_map, List.foldr_reverse]
  simp only [Nat.cast_id, Nat.add_comm]

theorem digitsValue_zeros (zeros : Nat) (digits : Text) :
    digitsValue (List.replicate zeros ('0' : CodePoint) ++ digits) = digitsValue digits := by
  have zero : CodePoint.digitValue '0' = 0 := rfl
  rw [digitsValue_eq_ofDigits, digitsValue_eq_ofDigits, List.reverse_append, List.map_append,
    List.reverse_replicate, List.map_replicate, zero, Nat.ofDigits_append_replicate_zero]

end Issuer.Text
