import Issuer.Json.Read
import Issuer.Proofs.Text.Encoding
/-!
# The encoding that the first bytes show

A document may be written in UTF-8, in UTF-16 or in UTF-32, in either order of the bytes, behind a
byte order mark or without one.  A text that starts with an ASCII character, as every JSON text
does, is read back from each of the ten.
-/
namespace Issuer.Json

/-- A form of bytes that a document may have. -/
inductive Form where
  | utf8
  | utf16 (order : ByteOrder)
  | utf32 (order : ByteOrder)

def Form.encode : Form → Text → Bytes
  | utf8 => Utf8.encodeAll
  | utf16 order => Utf16.encode order
  | utf32 order => Utf32.encode order

def byteOrderMark : CodePoint := '\uFEFF'

/-- A text in a form, behind a byte order mark or without one. -/
def Form.transcribe (form : Form) (marked : Bool) (t : Text) : Bytes :=
  form.encode (if marked then byteOrderMark :: t else t)

/-! ## First bytes -/

section

variable {a b c d : UInt8} {bytes : Bytes}

/-- The only byte order mark that starts below 0x80 is that of two zeros. -/
theorem detect_of_ascii (ha : a.toNat < 0x80)
    (hzeros : ¬([0x00, 0x00, 0xFE, 0xFF] : Bytes) <+: a :: bytes) :
    Encoding.detect (a :: bytes) = .ofZeros (a :: bytes) := by
  have hne : ∀ m : UInt8, 0x80 ≤ m.toNat → m ≠ a := by
    rintro m hm rfl
    omega
  have hnone : byteOrderMarks.find? (fun m => m.1.isPrefixOf (a :: bytes)) = none := by
    rw [List.cons_prefix_cons] at hzeros
    refine List.find?_eq_none.2 ?_
    simp [byteOrderMarks, hne] at hzeros ⊢
    exact hzeros
  rw [Encoding.detect, hnone]

theorem detect_of_unmarked (ha : a.toNat < 0x80) (hd : ¬(a = 0 ∧ b = 0 ∧ c = 0xFE)) :
    Encoding.detect (a :: b :: c :: d :: bytes) =
      if a = 0 then (if b = 0 then .utf32 .big 0 else .utf16 .big 0)
      else if b = 0 then (if c = 0 && d = 0 then .utf32 .little 0 else .utf16 .little 0)
      else .utf8 0 := by
  refine detect_of_ascii ha fun h => hd ?_
  simp only [List.cons_prefix_cons] at h
  exact ⟨h.1.symm, h.2.1.symm, h.2.2.1.symm⟩

theorem detect_pair (ha : a.toNat < 0x80) : Encoding.detect [a, b] =
    if a = 0 then .utf16 .big 0 else if b = 0 then .utf16 .little 0 else .utf8 0 :=
  detect_of_ascii ha fun h => absurd h.length_le (by simp)

theorem detect_utf8 (ha : a.toNat < 0x80) (ha0 : a ≠ 0) (hb : bytes.head? ≠ some 0) :
    Encoding.detect (a :: bytes) = .utf8 0 := by
  rw [detect_of_ascii ha fun h => ha0 (List.cons_prefix_cons.1 h).1.symm]
  match bytes with
  | [] | [_, _] => rfl
  | [_] | _ :: _ :: _ :: _ => exact (if_neg ha0).trans (if_neg (by simpa using hb))

theorem detect_marked_utf16_little (hc : c ≠ 0) :
    Encoding.detect (0xFF :: 0xFE :: c :: bytes) = .utf16 .little 2 := by
  have hlonger : ((0 : UInt8) == c) = false := beq_eq_false_iff_ne.2 hc.symm
  simp [Encoding.detect, byteOrderMarks, List.find?, List.isPrefixOf, hlonger]

end

/-! ## Forms -/

section

variable {c : CodePoint} {rest : Text}

theorem ofNat_ne_zero {n : Nat} (h0 : 0 < n) (h : n < 0x100) : UInt8.ofNat n ≠ 0 := by
  intro hzero
  have hn : (UInt8.ofNat n).toNat = n := UInt8.toNat_ofNat_of_lt' h
  rw [hzero] at hn
  exact absurd hn (Nat.ne_of_lt h0)

theorem toNat_ofNat_lt {n : Nat} (h : n < 0x80) : (UInt8.ofNat n).toNat < 0x80 := by
  have hn : (UInt8.ofNat n).toNat = n := UInt8.toNat_ofNat_of_lt' (show n < 256 by omega)
  rwa [hn]

theorem bigEndian_zero : ∀ size : Nat, bigEndian size 0 = List.replicate size 0
  | 0 => rfl
  | size + 1 => by
    rw [bigEndian, Nat.zero_div, bigEndian_zero size, List.replicate_succ']
    rfl

/-- A number of one byte follows bytes that are zero. -/
theorem bigEndian_of_lt {n : Nat} (h : n < 0x100) (size : Nat) :
    bigEndian (size + 1) n = List.replicate size 0 ++ [.ofNat n] := by
  rw [bigEndian, Nat.div_eq_of_lt h, Nat.mod_eq_of_lt h, bigEndian_zero]

theorem head?_encodeAll (hrest : rest.head? ≠ some 0) : (Utf8.encodeAll rest).head? ≠ some 0 := by
  cases rest with
  | nil => nofun
  | cons d rest =>
    have hd0 : 0 < d.val := Nat.pos_of_ne_zero fun h => hrest (congrArg some (Fin.ext h))
    have hd : d.val < 0x110000 := d.isLt
    obtain ⟨n, bytes, hone, h0, h⟩ :
        ∃ n bytes, Utf8.encodeOne d = .ofNat n :: bytes ∧ 0 < n ∧ n < 0x100 := by
      rw [Utf8.encodeOne]
      split
      · exact ⟨_, _, rfl, by omega, by omega⟩
      split
      · exact ⟨_, _, rfl, by omega, by omega⟩
      split
      · exact ⟨_, _, rfl, by omega, by omega⟩
      · exact ⟨_, _, rfl, by omega, by omega⟩
    rw [Utf8.encodeAll, List.flatMap_cons, hone, List.cons_append, List.head?_cons]
    exact fun hzero => ofNat_ne_zero h0 h (Option.some.inj hzero)

theorem decodeText?_utf8 (h0 : 0 < c.val) (h : c.val < 0x80) (hrest : rest.head? ≠ some 0)
    (marked : Bool) :
    decodeText? (Form.utf8.transcribe marked (c :: rest)) = some (c :: rest) := by
  have hread : Utf8.decode? true (Utf8.encodeAll (c :: rest)) = some (c :: rest) :=
    Utf8.decode?_encodeAll (.inl rfl)
  cases marked with
  | true => exact hread
  | false =>
    have hbytes : Utf8.encodeAll (c :: rest) = .ofNat c.val :: Utf8.encodeAll rest := by
      rw [Utf8.encodeAll, List.flatMap_cons, Utf8.encodeOne, if_pos h]
      rfl
    have hdetect : Encoding.detect (Utf8.encodeAll (c :: rest)) = .utf8 0 := by
      rw [hbytes]
      exact detect_utf8 (toNat_ofNat_lt h) (ofNat_ne_zero h0 (by omega)) (head?_encodeAll hrest)
    change decodeText? (Utf8.encodeAll (c :: rest)) = _
    rw [decodeText?, hdetect]
    exact hread

/-- What follows a first character in UTF-16 is nothing, or a unit that is not zero. -/
theorem utf16_encode_eq (order : ByteOrder) (hrest : rest.head? ≠ some 0) :
    Utf16.encode order rest = [] ∨
      ∃ a b bytes, Utf16.encode order rest = a :: b :: bytes ∧ ¬(a = 0 ∧ b = 0) := by
  cases rest with
  | nil => exact .inl rfl
  | cons d rest =>
    have hd0 : 0 < d.val := Nat.pos_of_ne_zero fun h => hrest (congrArg some (Fin.ext h))
    obtain ⟨u, us, hunits, hu0⟩ : ∃ u us, Utf16.unitsOf d = u :: us ∧ 0 < u := by
      rw [Utf16.unitsOf]
      split
      · exact ⟨_, _, rfl, hd0⟩
      · exact ⟨_, _, rfl, by omega⟩
    have hu : u < 0x10000 := Utf16.lt_of_mem_unitsOf (hunits ▸ List.mem_cons_self)
    have hvalue : order.value (order.unit 2 u) = u := order.value_unit hu
    obtain ⟨a, b, hunit⟩ := List.length_eq_two.1 (order.length_unit 2 u)
    refine .inr ⟨a, b, (us ++ rest.flatMap Utf16.unitsOf).flatMap (order.unit 2), ?_, ?_⟩
    · rw [Utf16.encode, List.flatMap_cons, hunits, List.cons_append, List.flatMap_cons, hunit]
      rfl
    · rintro ⟨rfl, rfl⟩
      rw [hunit] at hvalue
      have hzero : order.value [0, 0] = 0 := by cases order <;> rfl
      omega

theorem decodeText?_utf16 (h0 : 0 < c.val) (h : c.val < 0x80) (hrest : rest.head? ≠ some 0)
    (hlone : ∀ d ∈ c :: rest, d.isSurrogate = false) (order : ByteOrder) (marked : Bool) :
    decodeText? ((Form.utf16 order).transcribe marked (c :: rest)) = some (c :: rest) := by
  have hread : Utf16.decode? order (Utf16.encode order (c :: rest)) = some (c :: rest) :=
    Utf16.decode?_encode order hlone
  have hc0 : UInt8.ofNat c.val ≠ 0 := ofNat_ne_zero h0 (by omega)
  have hbytes : Utf16.encode order (c :: rest) =
      order.unit 2 c.val ++ Utf16.encode order rest := by
    rw [Utf16.encode, List.flatMap_cons, Utf16.unitsOf, if_pos (by omega)]
    rfl
  have hbig : bigEndian 2 c.val = [0, .ofNat c.val] := bigEndian_of_lt (by omega) 1
  cases order with
  | big =>
    have hunit : ByteOrder.big.unit 2 c.val = [0, .ofNat c.val] := hbig
    cases marked with
    | true => exact hread
    | false =>
      have hdetect : Encoding.detect (Utf16.encode .big (c :: rest)) = .utf16 .big 0 := by
        rw [hbytes, hunit]
        obtain hnil | ⟨a, b, bytes, hmore, -⟩ := utf16_encode_eq .big hrest
        · rw [hnil]
          exact (detect_pair (by decide)).trans (if_pos rfl)
        · rw [hmore, List.cons_append, List.singleton_append,
            detect_of_unmarked (by decide) (fun hz => hc0 hz.2.1), if_pos rfl, if_neg hc0]
      change decodeText? (Utf16.encode .big (c :: rest)) = _
      rw [decodeText?, hdetect]
      exact hread
  | little =>
    have hunit : ByteOrder.little.unit 2 c.val = [.ofNat c.val, 0] := congrArg List.reverse hbig
    cases marked with
    | true =>
      have hdetect : Encoding.detect (0xFF :: 0xFE :: Utf16.encode .little (c :: rest)) =
          .utf16 .little 2 := by
        rw [hbytes, hunit]
        exact detect_marked_utf16_little hc0
      change decodeText? (0xFF :: 0xFE :: Utf16.encode .little (c :: rest)) = _
      rw [decodeText?, hdetect]
      exact hread
    | false =>
      have hdetect : Encoding.detect (Utf16.encode .little (c :: rest)) = .utf16 .little 0 := by
        rw [hbytes, hunit]
        obtain hnil | ⟨a, b, bytes, hmore, hab⟩ := utf16_encode_eq .little hrest
        · rw [hnil]
          exact (detect_pair (toNat_ofNat_lt h)).trans ((if_neg hc0).trans (if_pos rfl))
        · rw [hmore, List.cons_append, List.singleton_append,
            detect_of_unmarked (toNat_ofNat_lt h) (fun hz => hc0 hz.1), if_neg hc0, if_pos rfl,
            if_neg (by simpa using hab)]
      change decodeText? (Utf16.encode .little (c :: rest)) = _
      rw [decodeText?, hdetect]
      exact hread

theorem decodeText?_utf32 (h0 : 0 < c.val) (h : c.val < 0x80) (order : ByteOrder) (marked : Bool) :
    decodeText? ((Form.utf32 order).transcribe marked (c :: rest)) = some (c :: rest) := by
  have hread : Utf32.decode? order (Utf32.encode order (c :: rest)) = some (c :: rest) :=
    Utf32.decode?_encode order _
  have hc0 : UInt8.ofNat c.val ≠ 0 := ofNat_ne_zero h0 (by omega)
  have hbytes : Utf32.encode order (c :: rest) =
      order.unit 4 c.val ++ Utf32.encode order rest := by
    rw [Utf32.encode, List.flatMap_cons]
    rfl
  have hbig : bigEndian 4 c.val = [0, 0, 0, .ofNat c.val] := bigEndian_of_lt (by omega) 3
  cases marked with
  | true => cases order <;> exact hread
  | false =>
    have hdetect : Encoding.detect (Utf32.encode order (c :: rest)) = .utf32 order 0 := by
      rw [hbytes]
      cases order with
      | big =>
        have hunit : ByteOrder.big.unit 4 c.val = [0, 0, 0, .ofNat c.val] := hbig
        rw [hunit]
        exact (detect_of_unmarked (by decide) (by decide)).trans rfl
      | little =>
        have hunit : ByteOrder.little.unit 4 c.val = [.ofNat c.val, 0, 0, 0] :=
          congrArg List.reverse hbig
        rw [hunit]
        exact (detect_of_unmarked (toNat_ofNat_lt h) (fun hz => hc0 hz.1)).trans
          ((if_neg hc0).trans rfl)
    change decodeText? (Utf32.encode order (c :: rest)) = _
    rw [decodeText?, hdetect]
    exact hread

/-- **A text is read back from every form**, behind a byte order mark or without one, if it starts
with an ASCII character and no zero is next to it. -/
theorem decodeText?_transcribe (form : Form) (marked : Bool) (h0 : 0 < c.val) (h : c.val < 0x80)
    (hrest : rest.head? ≠ some 0) (hlone : ∀ d ∈ c :: rest, d.isSurrogate = false) :
    decodeText? (form.transcribe marked (c :: rest)) = some (c :: rest) := by
  cases form with
  | utf8 => exact decodeText?_utf8 h0 h hrest marked
  | utf16 order => exact decodeText?_utf16 h0 h hrest hlone order marked
  | utf32 order => exact decodeText?_utf32 h0 h order marked

end

end Issuer.Json
