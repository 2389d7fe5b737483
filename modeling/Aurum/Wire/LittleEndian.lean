import Mathlib.Data.List.Basic
import Mathlib.Tactic.Ring

/-!
# Little-endian words

Fixed-width little-endian representation of natural numbers as byte lists,
and its specialization to the unsigned machine words.  Encoding at width `n`
keeps a value modulo `256 ^ n`; on byte lists of the right length encoding and
decoding are mutually inverse.
-/

namespace Aurum.Wire.LittleEndian

/-- The `width` lowest bytes of a value, least significant first. -/
def encode : Nat → Nat → List UInt8
  | 0, _ => []
  | width + 1, value => UInt8.ofNat value :: encode width (value / 256)

/-- The number a little-endian byte list spells. -/
def decode : List UInt8 → Nat
  | [] => 0
  | byte :: bytes => byte.toNat + 256 * decode bytes

@[simp]
theorem encode_length (width value : Nat) : (encode width value).length = width := by
  induction width generalizing value with
  | zero => rfl
  | succ width ih => simp [encode, ih]

/-- Decoding an encoded value returns it modulo the width. -/
theorem decode_encode (width value : Nat) :
    decode (encode width value) = value % 256 ^ width := by
  induction width generalizing value with
  | zero => simp [encode, decode, Nat.mod_one]
  | succ width ih =>
      have lowByte : (UInt8.ofNat value).toNat = value % 256 := by simp
      rw [encode, decode, ih, lowByte, Nat.pow_succ, Nat.mul_comm (256 ^ width) 256,
        Nat.mod_mul]

theorem decode_encode_of_lt {width value : Nat} (bound : value < 256 ^ width) :
    decode (encode width value) = value := by
  rw [decode_encode, Nat.mod_eq_of_lt bound]

/-- Every byte list is the encoding of the number it spells. -/
theorem encode_decode (bytes : List UInt8) :
    encode bytes.length (decode bytes) = bytes := by
  induction bytes with
  | nil => rfl
  | cons byte bytes ih =>
      have byteBound : byte.toNat < 256 := byte.toNat_lt
      have quotient : (byte.toNat + 256 * decode bytes) / 256 = decode bytes := by omega
      have lowByte : UInt8.ofNat (byte.toNat + 256 * decode bytes) = byte := by
        apply UInt8.toNat_inj.mp
        rw [UInt8.toNat_ofNat']
        omega
      rw [List.length_cons, encode, decode, quotient, lowByte, ih]

theorem decode_lt (bytes : List UInt8) : decode bytes < 256 ^ bytes.length := by
  induction bytes with
  | nil => simp [decode]
  | cons byte bytes ih =>
      have byteBound : byte.toNat < 256 := byte.toNat_lt
      rw [decode, List.length_cons, Nat.pow_succ]
      omega

/-! ## Machine words -/

/-- The two bytes of a 16-bit word. -/
def le16 (value : UInt16) : List UInt8 :=
  encode 2 value.toNat

/-- The four bytes of a 32-bit word. -/
def le32 (value : UInt32) : List UInt8 :=
  encode 4 value.toNat

/-- The eight bytes of a 64-bit word. -/
def le64 (value : UInt64) : List UInt8 :=
  encode 8 value.toNat

/-- The 16-bit word two bytes spell. -/
def ofLe16 (bytes : List UInt8) : UInt16 :=
  UInt16.ofNat (decode bytes)

/-- The 32-bit word four bytes spell. -/
def ofLe32 (bytes : List UInt8) : UInt32 :=
  UInt32.ofNat (decode bytes)

@[simp]
theorem le16_length (value : UInt16) : (le16 value).length = 2 :=
  encode_length 2 value.toNat

@[simp]
theorem le32_length (value : UInt32) : (le32 value).length = 4 :=
  encode_length 4 value.toNat

@[simp]
theorem le64_length (value : UInt64) : (le64 value).length = 8 :=
  encode_length 8 value.toNat

@[simp]
theorem ofLe16_le16 (value : UInt16) : ofLe16 (le16 value) = value := by
  have bound : value.toNat < 256 ^ 2 := value.toNat_lt
  rw [ofLe16, le16, decode_encode_of_lt bound, UInt16.ofNat_toNat]

@[simp]
theorem ofLe32_le32 (value : UInt32) : ofLe32 (le32 value) = value := by
  have bound : value.toNat < 256 ^ 4 := value.toNat_lt
  rw [ofLe32, le32, decode_encode_of_lt bound, UInt32.ofNat_toNat]

theorem le16_ofLe16 {bytes : List UInt8} (width : bytes.length = 2) :
    le16 (ofLe16 bytes) = bytes := by
  have bound : decode bytes < 2 ^ 16 := by
    have spelled := decode_lt bytes
    rw [width] at spelled
    exact spelled
  rw [le16, ofLe16, UInt16.toNat_ofNat_of_lt' bound, ← width, encode_decode]

theorem le32_ofLe32 {bytes : List UInt8} (width : bytes.length = 4) :
    le32 (ofLe32 bytes) = bytes := by
  have bound : decode bytes < 2 ^ 32 := by
    have spelled := decode_lt bytes
    rw [width] at spelled
    exact spelled
  rw [le32, ofLe32, UInt32.toNat_ofNat_of_lt' bound, ← width, encode_decode]

/-! ## Tables of 16-bit words -/

theorem flatMap_le16_length (values : List UInt16) :
    (values.flatMap le16).length = 2 * values.length := by
  induction values with
  | nil => rfl
  | cons value values ih =>
      rw [List.flatMap_cons, List.length_append, ih, le16_length, List.length_cons]
      ring

/-- Every string of `2 * count` bytes is a table of `count` words. -/
theorem exists_flatMap_le16 {bytes : List UInt8} {count : Nat}
    (width : bytes.length = 2 * count) :
    ∃ values : List UInt16, values.length = count ∧ values.flatMap le16 = bytes := by
  induction count generalizing bytes with
  | zero =>
      have empty : bytes = [] := List.length_eq_zero_iff.mp (by simpa using width)
      exact ⟨[], rfl, empty.symm⟩
  | succ count ih =>
      have wordWidth : (bytes.take 2).length = 2 := by
        rw [List.length_take]
        omega
      have restWidth : (bytes.drop 2).length = 2 * count := by
        rw [List.length_drop]
        omega
      obtain ⟨values, countEq, tableEq⟩ := ih restWidth
      refine ⟨ofLe16 (bytes.take 2) :: values, by rw [List.length_cons, countEq], ?_⟩
      rw [List.flatMap_cons, tableEq, le16_ofLe16 wordWidth, List.take_append_drop]

end Aurum.Wire.LittleEndian
