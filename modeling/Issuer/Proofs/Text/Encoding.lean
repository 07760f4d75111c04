import Issuer.Text.Encoding
import Mathlib.Data.List.Basic
import Mathlib.Tactic.IntervalCases
/-!
# What is encoded is decoded again

The bytes of a text give back the text: in UTF-8 every text, in UTF-32 as well, in UTF-16 every
text without surrogates, which would be taken for halves of pairs.
-/
namespace Issuer

/-- A text of Unicode scalar values: it holds no surrogate. -/
def Text.IsScalar (t : Text) : Prop := ∀ c ∈ t, c.isSurrogate = false

theorem Text.isScalar_append {s t : Text} : (s ++ t).IsScalar ↔ s.IsScalar ∧ t.IsScalar :=
  List.forall_mem_append

theorem CodePoint.ofNat_val (c : CodePoint) : CodePoint.ofNat c.val = c := by
  rw [CodePoint.ofNat, dif_pos c.isLt]

/-! ## Units -/

/-- A number as so many bytes, the highest first. -/
def bigEndian : Nat → Nat → Bytes
  | 0, _ => []
  | size + 1, n => bigEndian size (n / 256) ++ [.ofNat (n % 256)]

def ByteOrder.unit (order : ByteOrder) (size n : Nat) : Bytes :=
  match order with
  | .big => bigEndian size n
  | .little => (bigEndian size n).reverse

theorem foldl_bigEndian : ∀ {size n : Nat}, n < 256 ^ size →
    (bigEndian size n).foldl (fun n b => n * 256 + b.toNat) 0 = n
  | 0, n, h => by
    have : n = 0 := by simpa using h
    rw [this]
    rfl
  | size + 1, n, h => by
    have hhigh : n / 256 < 256 ^ size := Nat.div_lt_of_lt_mul (by rwa [Nat.pow_succ'] at h)
    have hlow : (UInt8.ofNat (n % 256)).toNat = n % 256 := by simp
    rw [bigEndian, List.foldl_append, foldl_bigEndian hhigh, List.foldl_cons, List.foldl_nil, hlow,
      Nat.mul_comm, Nat.div_add_mod]

theorem ByteOrder.value_unit (order : ByteOrder) {size n : Nat} (h : n < 256 ^ size) :
    order.value (order.unit size n) = n := by
  cases order with
  | big => exact foldl_bigEndian h
  | little =>
    rw [ByteOrder.value, ByteOrder.unit, List.reverse_reverse, foldl_bigEndian h]

theorem length_bigEndian : ∀ size n : Nat, (bigEndian size n).length = size
  | 0, _ => rfl
  | size + 1, n => by
    rw [bigEndian, List.length_append, length_bigEndian size, List.length_singleton]

theorem ByteOrder.length_unit (order : ByteOrder) (size n : Nat) :
    (order.unit size n).length = size := by
  cases order with
  | big => exact length_bigEndian size n
  | little => rw [ByteOrder.unit, List.length_reverse, length_bigEndian]

/-- **A number is that of as many bytes as it needs.** -/
theorem ByteOrder.exists_value_eq (order : ByteOrder) {size n : Nat} (h : n < 256 ^ size) :
    ∃ bytes : Bytes, bytes.length = size ∧ order.value bytes = n :=
  ⟨order.unit size n, order.length_unit size n, order.value_unit h⟩

/-! ## UTF-32 -/

namespace Utf32

def encode (order : ByteOrder) (t : Text) : Bytes := t.flatMap fun c => order.unit 4 c.val

/-- **UTF-32 gives back every text.** -/
theorem decode?_encode (order : ByteOrder) (t : Text) :
    decode? order (encode order t) = some t := by
  induction t with
  | nil => rfl
  | cons c t ih =>
    have hvalue : order.value (order.unit 4 c.val) = c.val := order.value_unit (by omega)
    obtain ⟨a, b, d, e, hunit⟩ := List.length_eq_four.1 (order.length_unit 4 c.val)
    rw [hunit] at hvalue
    rw [encode, List.flatMap_cons, hunit]
    change decode? order (a :: b :: d :: e :: encode order t) = _
    rw [decode?, hvalue, if_pos c.isLt, ih, Option.map_some, CodePoint.ofNat_val]

end Utf32

/-! ## UTF-16 -/

namespace Utf16

/-- The units of a code point: itself, or past the basic plane a pair of surrogates. -/
def unitsOf (c : CodePoint) : List Nat :=
  if c.val < 0x10000 then [c.val]
  else [0xD800 + (c.val - 0x10000) / 0x400, 0xDC00 + (c.val - 0x10000) % 0x400]

def encode (order : ByteOrder) (t : Text) : Bytes :=
  (t.flatMap unitsOf).flatMap (order.unit 2)

theorem lt_of_mem_unitsOf {c : CodePoint} {u : Nat} (h : u ∈ unitsOf c) : u < 0x10000 := by
  have hc : c.val < 0x110000 := c.isLt
  rw [unitsOf] at h
  split at h
  · rw [List.mem_singleton.1 h]
    assumption
  · rcases List.mem_pair.1 h with hu | hu <;> omega

theorem units?_flatMap_unit (order : ByteOrder) : ∀ {us : List Nat}, (∀ u ∈ us, u < 0x10000) →
    units? order (us.flatMap (order.unit 2)) = some us
  | [], _ => rfl
  | u :: us, h => by
    have hvalue : order.value (order.unit 2 u) = u := order.value_unit (h u List.mem_cons_self)
    obtain ⟨a, b, hunit⟩ := List.length_eq_two.1 (order.length_unit 2 u)
    rw [hunit] at hvalue
    rw [List.flatMap_cons, hunit]
    change units? order (a :: b :: us.flatMap (order.unit 2)) = _
    rw [units?, hvalue, units?_flatMap_unit order fun v hv => h v (List.mem_cons_of_mem u hv)]
    rfl

theorem pair_of_le {n : Nat} (low : 0x10000 ≤ n) :
    isHigh (0xD800 + (n - 0x10000) / 0x400) = decide (n < 0x110000) ∧
      isLow (0xDC00 + (n - 0x10000) % 0x400) = true ∧
      pair (0xD800 + (n - 0x10000) / 0x400) (0xDC00 + (n - 0x10000) % 0x400) = .ofNat n := by
  refine ⟨?_, ?_, ?_⟩
  · rw [isHigh, Bool.eq_iff_iff]
    simp only [Bool.and_eq_true, decide_eq_true_eq]
    omega
  · rw [isLow]
    simp only [Bool.and_eq_true, decide_eq_true_eq]
    omega
  · exact congrArg CodePoint.ofNat (by omega)

theorem isHigh_of_not_isSurrogate {c : CodePoint} (h : c.isSurrogate = false) :
    isHigh c.val = false := by
  rw [CodePoint.isSurrogate] at h
  rw [isHigh]
  simp only [Bool.and_eq_false_iff, decide_eq_false_iff_not] at h ⊢
  omega

theorem join_cons_of_not_isHigh {u : Nat} (h : isHigh u = false) (us : List Nat) :
    join (u :: us) = .ofNat u :: join us := by
  cases us with
  | nil => rfl
  | cons v us => rw [join, h, Bool.false_and, if_neg Bool.false_ne_true]

theorem join_unitsOf_append {c : CodePoint} (h : c.isSurrogate = false) (us : List Nat) :
    join (unitsOf c ++ us) = c :: join us := by
  rw [unitsOf]
  split
  · rw [List.singleton_append, join_cons_of_not_isHigh (isHigh_of_not_isSurrogate h),
      CodePoint.ofNat_val]
  · rename_i hplane
    obtain ⟨hhigh, hlow, hpair⟩ := pair_of_le (Nat.le_of_not_lt hplane)
    rw [decide_eq_true c.isLt] at hhigh
    rw [List.cons_append, List.singleton_append, join, hhigh, hlow, hpair, CodePoint.ofNat_val]
    rfl

theorem join_flatMap_unitsOf : ∀ {t : Text}, (∀ c ∈ t, c.isSurrogate = false) →
    join (t.flatMap unitsOf) = t
  | [], _ => rfl
  | c :: t, h => by
    rw [List.flatMap_cons, join_unitsOf_append (h c List.mem_cons_self),
      join_flatMap_unitsOf fun d hd => h d (List.mem_cons_of_mem c hd)]

/-- **UTF-16 gives back every text without surrogates.** -/
theorem decode?_encode (order : ByteOrder) {t : Text} (h : ∀ c ∈ t, c.isSurrogate = false) :
    decode? order (encode order t) = some t := by
  have hunits : units? order (encode order t) = some (t.flatMap unitsOf) := by
    refine units?_flatMap_unit order fun u hu => ?_
    obtain ⟨c, -, hc⟩ := List.mem_flatMap.1 hu
    exact lt_of_mem_unitsOf hc
  rw [decode?, hunits, Option.map_some, join_flatMap_unitsOf h]

end Utf16

/-! ## UTF-8 -/

namespace Utf8

variable {surrogates : Bool}

/-- What is decoded after a byte: behind the code point that it ends, or in the sequence that it is
part of. -/
def decodeAfter (surrogates : Bool) (rest : Bytes) : CodePoint ⊕ Pending → Option Text
  | .inl c => (decodeFrom surrogates none rest).map (c :: ·)
  | .inr p => decodeFrom surrogates (some p) rest

theorem decodeFrom_start {b : Nat} (hb : b < 0x100) {step : CodePoint ⊕ Pending}
    (h : start surrogates b = some step) (rest : Bytes) :
    decodeFrom surrogates none (.ofNat b :: rest) = decodeAfter surrogates rest step := by
  have hbyte : (UInt8.ofNat b).toNat = b := UInt8.toNat_ofNat_of_lt' hb
  cases step <;> rw [decodeFrom, hbyte, h, decodeAfter]

theorem decodeFrom_next {bits missing low high m : Nat} (hm : m < 64) (hlow : low ≤ 0x80 + m)
    (hhigh : 0x80 + m ≤ high) (rest : Bytes) :
    decodeFrom surrogates (some ⟨bits, missing, low, high⟩) (.ofNat (0x80 + m) :: rest) =
      decodeAfter surrogates rest (if missing ≤ 1 then .inl (.ofNat (bits * 64 + m))
        else .inr ⟨bits * 64 + m, missing - 1, 0x80, 0xBF⟩) := by
  have hbyte : (UInt8.ofNat (0x80 + m)).toNat = 0x80 + m :=
    UInt8.toNat_ofNat_of_lt' (show 0x80 + m < 256 by omega)
  rw [decodeFrom, hbyte]
  by_cases last : missing ≤ 1
  · simp [Pending.next, hlow, hhigh, last, decodeAfter]
  · simp [Pending.next, hlow, hhigh, last, decodeAfter]

theorem start_of_two {a : Nat} (low : 2 ≤ a) (high : a < 32) :
    start surrogates (0xC0 + a) = some (.inr ⟨a, 1, 0x80, 0xBF⟩) := by
  rw [start, if_neg (by omega), if_neg (by omega), if_pos (by omega), Nat.add_sub_cancel_left]

/-- What starts a sequence of three bytes rules out long forms and, unless they are admitted,
surrogates. -/
theorem start_of_three {a : Nat} (h : a < 16) :
    start surrogates (0xE0 + a) = some (.inr ⟨a, 2, if a = 0 then 0xA0 else 0x80,
      if a = 0xD ∧ surrogates = false then 0x9F else 0xBF⟩) := by
  cases surrogates <;> interval_cases a <;> rfl

theorem start_of_four {a : Nat} (h : a < 5) :
    start surrogates (0xF0 + a) = some (.inr ⟨a, 3, if a = 0 then 0x90 else 0x80,
      if a = 4 then 0x8F else 0xBF⟩) := by
  interval_cases a <;> rfl

/-- **The bytes of a code point are read as it**, those of a surrogate only if it is admitted. -/
theorem decodeFrom_encodeOne_append {c : CodePoint}
    (h : surrogates = true ∨ c.isSurrogate = false) (rest : Bytes) :
    decodeFrom surrogates none (encodeOne c ++ rest) =
      (decodeFrom surrogates none rest).map (c :: ·) := by
  have hc : c.val < 0x110000 := c.isLt
  have hval : ∀ {n : Nat}, n = c.val → CodePoint.ofNat n = c := by
    rintro n rfl
    exact CodePoint.ofNat_val c
  rw [encodeOne]
  split
  · rename_i one
    have hstart : start surrogates c.val = some (.inl c) := by
      rw [start, if_pos one, CodePoint.ofNat_val]
    rw [List.singleton_append, decodeFrom_start (by omega) hstart, decodeAfter]
  split
  · rename_i one two
    rw [List.cons_append, List.singleton_append,
      decodeFrom_start (by omega) (start_of_two (by omega) (by omega)), decodeAfter,
      decodeFrom_next (by omega) (by omega) (by omega), if_pos (by omega), decodeAfter,
      hval (by omega)]
  split
  · rename_i one two three
    have hlow : (if c.val / 4096 = 0 then 0xA0 else 0x80) ≤ 0x80 + c.val / 64 % 64 := by
      split <;> omega
    have hhigh : 0x80 + c.val / 64 % 64 ≤
        if c.val / 4096 = 0xD ∧ surrogates = false then 0x9F else 0xBF := by
      split
      · rename_i hD
        have hlone : c.isSurrogate = false :=
          h.resolve_left fun admitted => by simp [admitted] at hD
        simp only [CodePoint.isSurrogate, Bool.and_eq_false_iff, decide_eq_false_iff_not] at hlone
        omega
      · omega
    rw [List.cons_append, List.cons_append, List.singleton_append,
      decodeFrom_start (by omega) (start_of_three (by omega)), decodeAfter,
      decodeFrom_next (by omega) hlow hhigh, if_neg (by omega), decodeAfter,
      decodeFrom_next (by omega) (by omega) (by omega), if_pos (by omega), decodeAfter,
      hval (by omega)]
  · rename_i one two three
    have hlow : (if c.val / 262144 = 0 then 0x90 else 0x80) ≤ 0x80 + c.val / 4096 % 64 := by
      split <;> omega
    have hhigh : 0x80 + c.val / 4096 % 64 ≤ if c.val / 262144 = 4 then 0x8F else 0xBF := by
      split <;> omega
    rw [List.cons_append, List.cons_append, List.cons_append, List.singleton_append,
      decodeFrom_start (by omega) (start_of_four (by omega)), decodeAfter,
      decodeFrom_next (by omega) hlow hhigh, if_neg (by omega), decodeAfter,
      decodeFrom_next (by omega) (by omega) (by omega), if_neg (by omega), decodeAfter,
      decodeFrom_next (by omega) (by omega) (by omega), if_pos (by omega), decodeAfter,
      hval (by omega)]

theorem decode?_encodeAll {t : Text} (h : surrogates = true ∨ ∀ c ∈ t, c.isSurrogate = false) :
    decode? surrogates (encodeAll t) = some t := by
  induction t with
  | nil => rfl
  | cons c t ih =>
    have hc : surrogates = true ∨ c.isSurrogate = false :=
      h.imp_right fun h => h c List.mem_cons_self
    have ht : decodeFrom surrogates none (encodeAll t) = some t :=
      ih (h.imp_right fun h d hd => h d (List.mem_cons_of_mem c hd))
    change decodeFrom surrogates none (encodeOne c ++ encodeAll t) = _
    rw [decodeFrom_encodeOne_append hc, ht, Option.map_some]

/-- **A text is encoded exactly if it holds no surrogate.** -/
theorem encode?_eq_some_iff {t : Text} {bytes : Bytes} :
    encode? t = some bytes ↔ t.IsScalar ∧ bytes = encodeAll t := by
  have hscalar : t.any CodePoint.isSurrogate = false ↔ t.IsScalar := by
    simp [Text.IsScalar]
  unfold encode?
  by_cases hany : t.any CodePoint.isSurrogate = true
  · have hnot : ¬ t.IsScalar := by simp [← hscalar, hany]
    simp [hany, hnot]
  · rw [Bool.not_eq_true] at hany
    have hall : t.IsScalar := hscalar.1 hany
    simp [hany, hall, encodeAll, eq_comm]

theorem encode?_eq_none_iff {t : Text} : encode? t = none ↔ ¬ t.IsScalar := by
  constructor
  · intro hnone hscalar
    rw [encode?_eq_some_iff.2 ⟨hscalar, rfl⟩] at hnone
    cases hnone
  · intro hnot
    cases henc : encode? t with
    | none => rfl
    | some bytes => exact absurd (encode?_eq_some_iff.1 henc).1 hnot

theorem decode?_of_encode? {t : Text} {bytes : Bytes} (h : encode? t = some bytes) :
    decode? false bytes = some t := by
  obtain ⟨hscalar, rfl⟩ := encode?_eq_some_iff.1 h
  exact decode?_encodeAll (.inr hscalar)

theorem encode?_inj {s t : Text} {bytes : Bytes} (hs : encode? s = some bytes)
    (ht : encode? t = some bytes) : s = t :=
  Option.some.inj ((decode?_of_encode? hs).symm.trans (decode?_of_encode? ht))

end Utf8

end Issuer
