import Mathlib.Data.List.Basic

/-!
# Bitwise cyclic redundancy checks

The non-reflected shift-register form of a cyclic redundancy check over an
arbitrary register width and generator polynomial, without a final xor.  Bytes
enter most significant bit first.
-/

namespace Aurum.Wire.Crc

/-- Shift one message bit into the register, subtracting the generator when
the bit that leaves differs from it. -/
def shiftBit {width : Nat} (polynomial register : BitVec width) (bit : Bool) : BitVec width :=
  if register.msb = bit then register <<< 1 else (register <<< 1) ^^^ polynomial

/-- The bits of a byte, most significant first. -/
def byteBits (byte : UInt8) : List Bool :=
  [byte.toBitVec.getLsbD 7, byte.toBitVec.getLsbD 6, byte.toBitVec.getLsbD 5,
    byte.toBitVec.getLsbD 4, byte.toBitVec.getLsbD 3, byte.toBitVec.getLsbD 2,
    byte.toBitVec.getLsbD 1, byte.toBitVec.getLsbD 0]

/-- Run the register over a byte string. -/
def process {width : Nat} (polynomial initial : BitVec width) (bytes : List UInt8) :
    BitVec width :=
  (bytes.flatMap byteBits).foldl (shiftBit polynomial) initial

/-- CRC-CCITT: generator `0x1021`, initial register `0xFFFF`. -/
def ccitt (bytes : List UInt8) : UInt16 :=
  UInt16.ofBitVec (process 0x1021#16 0xFFFF#16 bytes)

/-- The check value of the published parameter set, over the digits 1 to 9. -/
example : ccitt [0x31, 0x32, 0x33, 0x34, 0x35, 0x36, 0x37, 0x38, 0x39] = 0x29B1 := by
  decide +kernel

end Aurum.Wire.Crc
