import Aurum.Protocol.Checksum
import Aurum.Wire.Distance
import Mathlib.Tactic.NormNum.Prime

/-!
# How many flipped bits the checksum notices

Although the checksum is stored with its low byte first, a frame is noticed
whenever an odd number of its bits have been flipped, wherever they are.  In a
frame of at most 4095 bytes so are any two, hence any one, two or three.
-/

namespace Aurum.Protocol

open Aurum.Wire

/-- A string with the last two bytes in the order of the register. -/
def upright (bytes : Bytes) : Bytes :=
  bytes.take (bytes.length - 2) ++ (bytes.drop (bytes.length - 2)).reverse

theorem upright_length (bytes : Bytes) : (upright bytes).length = bytes.length := by
  rw [upright, List.length_append, List.length_reverse, ← List.length_append,
    List.take_append_drop]

/-- Bits are only moved. -/
theorem count_bits_upright (bytes : Bytes) :
    (bits (upright bytes)).count true = (bits bytes).count true := by
  have moved : (upright bytes).Perm bytes := by
    have swapped := (List.reverse_perm (bytes.drop (bytes.length - 2))).append_left
      (bytes.take (bytes.length - 2))
    rwa [List.take_append_drop] at swapped
  exact (moved.flatMap_right Crc.byteBits).count_eq true

theorem generator_unit : (Crc.idle generator)^[16] 1#16 = generator := by
  decide +kernel

/-- Differences go unnoticed exactly when they leave the register empty. -/
theorem unnoticed_iff_feed {difference : Bytes} (long : 2 ≤ difference.length) :
    Unnoticed difference ↔ Crc.feed generator 0#16 (bits (upright difference)) = 0#16 := by
  have stored : (bits (difference.drop (difference.length - 2)).reverse).length = 16 := by
    rw [bits_length, List.length_reverse, List.length_drop]
    omega
  rw [upright, bits_append, Crc.feed_append, Crc.feed_eq_iterate_idle generator stored.le,
    Unnoticed]
  constructor
  · intro same
    rw [same, BitVec.xor_self, Function.iterate_fixed (Crc.idle_zero generator)]
  · intro empty
    exact BitVec.xor_eq_zero_iff.mp (Crc.eq_zero_of_iterate_idle generator_constant empty)

/-- The generator is primitive but for its factor of degree one. -/
theorem order_generator : Crc.order generator = 32767 := by
  have steps : ∀ exponent : List Bool, (Crc.idle generator)^[Crc.binary exponent] 1#16 =
      Crc.power generator 1#16 exponent :=
    fun exponent => (Crc.power_eq generator_constant generator_unit exponent).symm
  apply Crc.orderOf_idle generator_constant generator_unit (by decide)
  · have back : Crc.power generator 1#16 (List.replicate 15 true) = 1#16 := by decide +kernel
    exact (steps (List.replicate 15 true)).trans back
  · intro prime isPrime divides
    have factors : prime = 7 ∨ prime = 31 ∨ prime = 151 := by
      have product : prime ∣ 7 * (31 * 151) := divides
      rcases (Nat.Prime.dvd_mul isPrime).mp product with factor | product
      · exact Or.inl ((Nat.prime_dvd_prime_iff_eq isPrime (by norm_num)).mp factor)
      rcases (Nat.Prime.dvd_mul isPrime).mp product with factor | factor
      · exact Or.inr (Or.inl ((Nat.prime_dvd_prime_iff_eq isPrime (by norm_num)).mp factor))
      · exact Or.inr (Or.inr ((Nat.prime_dvd_prime_iff_eq isPrime (by norm_num)).mp factor))
    rcases factors with rfl | rfl | rfl
    -- 32767 / 7 = 4681, 32767 / 31 = 1057 and 32767 / 151 = 217
    · rw [show 32767 / 7 = Crc.binary [true, false, false, true, false, false, true, false, false,
        true, false, false, true] by decide, steps]
      decide +kernel
    · rw [show 32767 / 31 = Crc.binary [true, false, false, false, false, true, false, false, false,
        false, true] by decide, steps]
      decide +kernel
    · rw [show 32767 / 151 = Crc.binary [true, true, false, true, true, false, false, true]
        by decide, steps]
      decide +kernel

namespace Kernel

/-- A valid frame of which an odd number of bits has been flipped is rejected
before any handler runs, and so is one of at most 4095 bytes of which two bits
have been flipped. -/
theorem flips_noticed {frame garbled : Bytes} (valid : completes frame = true)
    (sameLength : garbled.length = frame.length)
    (flipped : Odd ((bits (xorBytes frame garbled)).count true) ∨
      (bits (xorBytes frame garbled)).count true = 2 ∧ frame.length ≤ 4095)
    {σ : Type} (table : HandlerTable σ) (withHeader : Bool) (state : σ) :
    handle table withHeader garbled state = ⟨.rejected, state⟩ := by
  have proper : ∃ lengths rest, lengths.length < 65536 ∧ frame = tabled lengths rest := by
    by_contra malformed
    rw [(dispatched_of_not_tabled malformed).2] at valid
    cases valid
  rcases proper with ⟨lengths, rest, _, rfl⟩
  have long := tabled_length lengths rest
  have differenceLength : (xorBytes (tabled lengths rest) garbled).length =
      (tabled lengths rest).length := by
    rw [xorBytes, List.length_zipWith, sameLength, Nat.min_self]
  apply handle_of_not_tabled
  rintro ⟨otherLengths, otherRest, _, equal⟩
  have unnoticed : Unnoticed (xorBytes (tabled lengths rest) garbled) :=
    (checksummed_iff_unnoticed sameLength).mp ⟨_, equal⟩
  rw [unnoticed_iff_feed (by omega)] at unnoticed
  rw [← count_bits_upright] at flipped
  rcases flipped with odd | ⟨two, short⟩
  · have even := Crc.even_of_feed_eq_zero (by decide) unnoticed
    exact Nat.not_even_iff_odd.mpr odd even
  · apply Crc.feed_two_ne_zero generator_constant generator_unit two _ unnoticed
    rw [bits_length, upright_length, differenceLength, order_generator]
    omega

/-- A bit of the data and one of the checksum have been flipped, more than
sixteen bits apart. -/
theorem flips_noticed_probe :
    handle recorder false (garbledProbe [0x80, 0x00, 0x00, 0x01]) [] = ⟨.rejected, []⟩ := by
  have valid : completes probeFrame = true := by decide +kernel
  have two : (bits (xorBytes probeFrame (garbledProbe [0x80, 0x00, 0x00, 0x01]))).count true = 2 ∧
      probeFrame.length ≤ 4095 := by decide +kernel
  exact flips_noticed valid (by decide +kernel) (Or.inr two) recorder false []

end Kernel

end Aurum.Protocol
