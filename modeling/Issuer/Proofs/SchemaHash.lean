import Issuer.Proofs.Except
import Issuer.Proofs.Text.Encoding
import Issuer.Proofs.Text.Hexadecimal
import Issuer.SchemaHash
import Mathlib.Data.Nat.Digits.Lemmas
/-!
# Encodings of schema hashes

A hash is sixteen bytes, and each of its encodings tells it: the bytes, their digits of base sixteen
and the number that claims store (`encodings_agree`).  A text is read as a hash exactly if it is
made of sixteen pairs of digits, in either case and with blanks of ASCII around them, and the hash
is then written as these digits in lower case.
-/
namespace Issuer.SchemaHash

open CodePoint (hexadecimals)

/-! ## Pairs of digits -/

/-- **A text is made of so many pairs** of digits of base sixteen, with blanks of ASCII before,
between and after them. -/
inductive IsPairs : Nat → Text → Prop where
  | nil : IsPairs 0 []
  | blank {n : Nat} {c : CodePoint} {t : Text} (h : c.isAsciiBlank = true) (rest : IsPairs n t) :
      IsPairs n (c :: t)
  | pair {n : Nat} {a b : CodePoint} {t : Text} (ha : a ∈ hexadecimals) (hb : b ∈ hexadecimals)
      (rest : IsPairs n t) : IsPairs (n + 1) (a :: b :: t)

def digitsOf (t : Text) : Text := (t.filter fun c => !c.isAsciiBlank).map CodePoint.asciiLower

section Reading

variable {t : Text} {a b : CodePoint} {high low : Nat}

theorem readPairs_blank {c : CodePoint} (h : c.isAsciiBlank = true) (position : Nat) :
    readPairs position (c :: t) = readPairs (position + 1) t := by
  rw [readPairs.eq_def]
  dsimp only
  rw [if_pos h]

theorem readPairs_pair (ha : a.hexValue? = some high) (hb : b.hexValue? = some low)
    (position : Nat) : readPairs position (a :: b :: t) =
      (readPairs (position + 2) t).map (UInt8.ofNat (high * 16 + low) :: ·) := by
  rw [readPairs.eq_def]
  dsimp only
  rw [(CodePoint.hexValue?_spec ha).2.2, if_neg Bool.false_ne_true, ha]
  dsimp only
  rw [hb]

theorem digitsOf_blank {c : CodePoint} (h : c.isAsciiBlank = true) :
    digitsOf (c :: t) = digitsOf t := by
  rw [digitsOf, List.filter_cons_of_neg (by rw [h]; exact Bool.false_ne_true), digitsOf]

theorem digitsOf_pair (ha : a.hexValue? = some high) (hb : b.hexValue? = some low) :
    digitsOf (a :: b :: t) = Text.digit high :: Text.digit low :: digitsOf t := by
  obtain ⟨-, higher, unblank⟩ := CodePoint.hexValue?_spec ha
  obtain ⟨-, lower, unblank'⟩ := CodePoint.hexValue?_spec hb
  rw [digitsOf, List.filter_cons_of_pos (by rw [unblank]; rfl),
    List.filter_cons_of_pos (by rw [unblank']; rfl), List.map_cons, List.map_cons, higher, lower,
    digitsOf]

theorem exists_pair_of_readPairs {position : Nat} {bytes : Bytes} (unblank : a.isAsciiBlank = false)
    (h : readPairs position (a :: t) = .ok bytes) : ∃ b rest high low tail, t = b :: rest ∧
      a.hexValue? = some high ∧ b.hexValue? = some low ∧
      readPairs (position + 2) rest = .ok tail ∧ bytes = UInt8.ofNat (high * 16 + low) :: tail := by
  rw [readPairs.eq_def] at h
  dsimp only at h
  rw [unblank, if_neg Bool.false_ne_true] at h
  cases ha : a.hexValue? with
  | none =>
    rw [ha] at h
    cases h
  | some high =>
    rw [ha] at h
    cases t with
    | nil => cases h
    | cons b rest =>
      dsimp only at h
      cases hb : b.hexValue? with
      | none =>
        rw [hb] at h
        cases h
      | some low =>
        rw [hb] at h
        cases read : readPairs (position + 2) rest with
        | error p =>
          rw [read] at h
          cases h
        | ok tail =>
          rw [read] at h
          cases h
          exact ⟨b, rest, high, low, tail, rfl, rfl, hb, read, rfl⟩

theorem toHex_byte (hhigh : high < 16) (hlow : low < 16) (bytes : Bytes) :
    Bytes.toHex (UInt8.ofNat (high * 16 + low) :: bytes) =
      Text.digit high :: Text.digit low :: bytes.toHex := by
  have value : (UInt8.ofNat (high * 16 + low)).toNat = high * 16 + low := by
    rw [UInt8.toNat_ofNat']
    omega
  have first : (high * 16 + low) / 16 = high := by omega
  have second : (high * 16 + low) % 16 = low := by omega
  rw [Bytes.toHex_cons, value, first, second]

end Reading

theorem isPairs_of_readPairs : ∀ {t : Text} {position : Nat} {bytes : Bytes},
    readPairs position t = .ok bytes → IsPairs bytes.length t ∧ bytes.toHex = digitsOf t
  | [], _, _, h => by
    cases h
    exact ⟨.nil, rfl⟩
  | a :: rest, position, bytes, h => by
    -- A blank is skipped alone; any other code point is the first of a pair.
    by_cases blank : a.isAsciiBlank = true
    · rw [readPairs_blank blank] at h
      rw [digitsOf_blank blank]
      exact (isPairs_of_readPairs h).imp_left (.blank blank)
    · rw [Bool.not_eq_true] at blank
      obtain ⟨b, rest, high, low, tail, rfl, ha, hb, read, rfl⟩ := exists_pair_of_readPairs blank h
      obtain ⟨pairs, digits⟩ := isPairs_of_readPairs read
      refine ⟨.pair (CodePoint.exists_hexValue?_iff.1 ⟨high, ha⟩)
        (CodePoint.exists_hexValue?_iff.1 ⟨low, hb⟩) pairs, ?_⟩
      rw [digitsOf_pair ha hb, ← digits,
        toHex_byte (CodePoint.hexValue?_spec ha).1 (CodePoint.hexValue?_spec hb).1]

theorem readPairs_of_isPairs {n : Nat} {t : Text} (h : IsPairs n t) (position : Nat) :
    ∃ bytes : Bytes, readPairs position t = .ok bytes ∧ bytes.length = n := by
  induction h generalizing position with
  | nil => exact ⟨[], rfl, rfl⟩
  | blank h _ ih =>
    rw [readPairs_blank h]
    exact ih (position + 1)
  | pair ha hb _ ih =>
    obtain ⟨high, ha⟩ := CodePoint.exists_hexValue?_iff.2 ha
    obtain ⟨low, hb⟩ := CodePoint.exists_hexValue?_iff.2 hb
    obtain ⟨bytes, read, length⟩ := ih (position + 2)
    rw [readPairs_pair ha hb, read]
    exact ⟨_, rfl, congrArg (· + 1) length⟩

theorem IsPairs.isAscii {n : Nat} {t : Text} (h : IsPairs n t) : ∀ c ∈ t, c.isAscii = true := by
  have ascii {c : CodePoint} (hc : c ∈ hexadecimals) : c.isAscii = true := by
    obtain ⟨v, hv⟩ := CodePoint.exists_hexValue?_iff.2 hc
    exact CodePoint.isAscii_of_hexValue? hv
  induction h with
  | nil => nofun
  | blank h _ ih => exact List.forall_mem_cons.2 ⟨CodePoint.isAscii_of_isAsciiBlank h, ih⟩
  | pair ha hb _ ih =>
    exact List.forall_mem_cons.2 ⟨ascii ha, List.forall_mem_cons.2 ⟨ascii hb, ih⟩⟩

theorem readPairs_toHex : ∀ (bytes : Bytes) (position : Nat),
    readPairs position bytes.toHex = .ok bytes
  | [], _ => rfl
  | b :: bytes, position => by
    have high := Text.hexValue?_digit (Nat.div_lt_of_lt_mul b.toNat_lt : b.toNat / 16 < 16)
    have low := Text.hexValue?_digit (Nat.mod_lt b.toNat (by decide) : b.toNat % 16 < 16)
    have whole : b.toNat / 16 * 16 + b.toNat % 16 = b.toNat := by omega
    rw [Bytes.toHex_cons, readPairs_pair high low, readPairs_toHex bytes, whole, UInt8.ofNat_toNat]
    rfl

/-! ## Hashes as texts -/

variable {t : Text} {h h' : SchemaHash}

theorem ext_bytes (same : h.bytes = h'.bytes) : h = h' := by
  cases h
  cases h'
  cases same
  rfl

theorem ofBytes_eq_ok_iff {bytes : Bytes} : ofBytes bytes = .ok h ↔ bytes = h.bytes := by
  unfold ofBytes
  split
  · rename_i length
    refine ⟨fun read => ?_, fun same => congrArg Except.ok (ext_bytes same)⟩
    rw [← Except.ok.inj read]
  · rename_i length
    refine ⟨nofun, fun same => ?_⟩
    exact absurd (same ▸ h.length_eq) length

theorem ofHex_eq_ok_iff : ofHex t = .ok h ↔ readPairs 0 t = .ok h.bytes := by
  unfold ofHex
  split
  · rename_i position foreign
    -- What is not of ASCII is refused before any pair is read, but it would be no pair either.
    refine ⟨nofun, fun read => ?_⟩
    obtain ⟨inside, outside, -⟩ := List.findIdx?_eq_some_iff_getElem.1 foreign
    have ascii := (isPairs_of_readPairs read).1.isAscii _ (List.getElem_mem inside)
    rw [ascii] at outside
    cases outside
  · rw [bind_eq_ok_iff]
    simp only [ofBytes_eq_ok_iff]
    exact ⟨fun ⟨_, read, same⟩ => same ▸ read, fun read => ⟨_, read, rfl⟩⟩

theorem ofHex_toHex (h : SchemaHash) : ofHex h.toHex = .ok h :=
  ofHex_eq_ok_iff.2 (readPairs_toHex h.bytes 0)

theorem toHex_inj : h.toHex = h'.toHex ↔ h = h' := by
  refine ⟨fun same => ?_, fun same => same ▸ rfl⟩
  have read := ofHex_toHex h
  rw [same, ofHex_toHex h'] at read
  exact (Except.ok.inj read).symm

/-- **A text is read as a hash exactly if it is made of sixteen pairs.** -/
theorem exists_ofHex_iff : (∃ h, ofHex t = .ok h) ↔ IsPairs schemaHashLength t := by
  constructor
  · rintro ⟨h, read⟩
    obtain ⟨pairs, -⟩ := isPairs_of_readPairs (ofHex_eq_ok_iff.1 read)
    rwa [h.length_eq] at pairs
  · intro pairs
    obtain ⟨bytes, read, length⟩ := readPairs_of_isPairs pairs 0
    exact ⟨⟨bytes, length⟩, ofHex_eq_ok_iff.2 read⟩

/-! ## Hashes as numbers -/

/-- **The number counts the bytes from the first on.** -/
theorem toNat_eq_ofDigits (h : SchemaHash) :
    h.toNat = Nat.ofDigits 256 (h.bytes.map UInt8.toNat) := by
  rw [toNat, ByteOrder.value, List.foldl_reverse, Nat.ofDigits_eq_foldr, List.foldr_map]
  simp only [Nat.cast_id, Nat.mul_comm 256, Nat.add_comm]

theorem lt_of_mem_bytes (h : SchemaHash) : ∀ n ∈ h.bytes.map UInt8.toNat, n < 256 := by
  intro n hn
  obtain ⟨b, -, rfl⟩ := List.mem_map.1 hn
  exact b.toNat_lt

theorem toNat_lt (h : SchemaHash) : h.toNat < 2 ^ 128 := by
  have bound := Nat.ofDigits_lt_base_pow_length (by decide) h.lt_of_mem_bytes
  rw [List.length_map, h.length_eq, ← toNat_eq_ofDigits] at bound
  exact bound

theorem toNat_injective : Function.Injective toNat := by
  intro h h' same
  rw [toNat_eq_ofDigits, toNat_eq_ofDigits] at same
  have digits := Nat.ofDigits_inj_of_len_eq (by decide) (by simp [h.length_eq, h'.length_eq])
    h.lt_of_mem_bytes h'.lt_of_mem_bytes same
  exact ext_bytes (List.map_injective_iff.2 (fun _ _ => UInt8.toNat_inj.1) digits)

theorem exists_toNat_eq {n : Nat} (h : n < 2 ^ 128) : ∃ hash : SchemaHash, hash.toNat = n := by
  have small : n < 256 ^ schemaHashLength := by
    rw [schemaHashLength]
    omega
  obtain ⟨bytes, length, value⟩ := ByteOrder.little.exists_value_eq small
  exact ⟨⟨bytes, length⟩, value⟩

/-- **A hash is stored as a number below the 128th power of two, and each of these is a hash.** -/
theorem bijOn_toNat : Set.BijOn toNat Set.univ {n | n < 2 ^ 128} := by
  refine ⟨fun h _ => h.toNat_lt, toNat_injective.injOn, fun n hn => ?_⟩
  obtain ⟨h, same⟩ := exists_toNat_eq hn
  exact ⟨h, Set.mem_univ h, same⟩

/-! ## All encodings -/

theorem beq_iff_bytes : (h == h') = true ↔ h.bytes = h'.bytes := by
  change (h.bytes == h'.bytes) = true ↔ _
  exact beq_iff_eq

theorem bytes_inj : h.bytes = h'.bytes ↔ h = h' := ⟨ext_bytes, fun same => same ▸ rfl⟩

/-- **Each encoding tells a hash.**  It is read from its digits, 32 of lower case, and its number
counts the bytes from the first on; hashes are equal exactly if their bytes, their digits or their
numbers are.  A text is read as a hash exactly if it is made of sixteen pairs of digits with blanks
around them, and the digits of the hash are those of the text in lower case. -/
theorem encodings_agree (h h' : SchemaHash) (t : Text) :
    (ofHex h.toHex = .ok h ∧ h.toHex.length = 32 ∧ ∀ c ∈ h.toHex, c ∈ Text.lowerHexadecimals) ∧
    (h.toNat = Nat.ofDigits 256 (h.bytes.map UInt8.toNat) ∧
      Set.BijOn toNat Set.univ {n | n < 2 ^ 128}) ∧
    (((h == h') = true ↔ h.bytes = h'.bytes) ∧ ((h == h') = true ↔ h.toHex = h'.toHex) ∧
      ((h == h') = true ↔ h.toNat = h'.toNat)) ∧
    ((∃ hash, ofHex t = .ok hash) ↔ IsPairs 16 t) ∧
    (∀ hash, ofHex t = .ok hash → hash.toHex = digitsOf t) ∧
    (¬ IsPairs 16 t → ∃ p, ofHex t = .error p) := by
  refine ⟨⟨ofHex_toHex h, ?_, Bytes.mem_lowerHexadecimals_of_mem_toHex⟩,
    ⟨toNat_eq_ofDigits h, bijOn_toNat⟩, ⟨beq_iff_bytes, ?_, ?_⟩, exists_ofHex_iff,
    fun hash read => (isPairs_of_readPairs (ofHex_eq_ok_iff.1 read)).2, fun unpaired => ?_⟩
  · rw [toHex, Bytes.length_toHex, h.length_eq]
    rfl
  · rw [beq_iff_bytes, toHex_inj, bytes_inj]
  · rw [beq_iff_bytes, bytes_inj, toNat_injective.eq_iff]
  · cases read : ofHex t with
    | error p => exact ⟨p, rfl⟩
    | ok hash => exact absurd (exists_ofHex_iff.1 ⟨hash, read⟩) unpaired

/-- A hash whose first two bytes are ten and eleven. -/
def tenEleven : SchemaHash := ⟨0x0A :: 0x0B :: List.replicate 14 0, rfl⟩

/-- It is read from digits of either case with blanks around the pairs, but not from the same digits
with a blank inside a pair. -/
theorem encodings_agree_tenEleven :
    let zeros : Text := List.replicate 28 ('0' : CodePoint)
    let spread : Text := ("\t0A 0b" : Text) ++ zeros ++ ("\n" : Text)
    let torn : Text := ("0A0 b" : Text) ++ zeros
    ofHex spread = .ok tenEleven ∧ IsPairs 16 spread ∧
    tenEleven.toHex = ("0a0b" : Text) ++ zeros ∧ ofHex tenEleven.toHex = .ok tenEleven ∧
    tenEleven.toNat = Nat.ofDigits 256 [10, 11] ∧
    ¬ IsPairs 16 torn ∧ ∃ p, ofHex torn = .error p := by
  intro zeros spread torn
  have read : ofHex spread = .ok tenEleven := ofHex_eq_ok_iff.2 (by rfl)
  have refused : ofHex torn = .error (.notHex 3) := by rfl
  obtain ⟨⟨again, -⟩, -, -, pairs, digits, -⟩ := encodings_agree tenEleven tenEleven spread
  obtain ⟨-, -, -, paired, -, failed⟩ := encodings_agree tenEleven tenEleven torn
  have unpaired : ¬ IsPairs 16 torn := fun h => by
    obtain ⟨hash, read⟩ := paired.2 h
    rw [refused] at read
    cases read
  exact ⟨read, pairs.1 ⟨_, read⟩, digits _ read, again, by decide, unpaired, failed unpaired⟩

end Issuer.SchemaHash
