import Aurum.Protocol.Dispatch
import Aurum.Wire.Burst
import Mathlib.Tactic.IntervalCases

/-!
# What the checksum notices

The bits in which two frames differ are taken in the order the checksum
consumes them.  The checksum is stored with its low byte first while its
register is read from the top, so a burst that runs from the data into the
stored checksum can cancel itself out.  There are twelve such bursts, and
every other burst of at most sixteen bits is noticed.
-/

namespace Aurum.Protocol

open Aurum.Wire
open Aurum.Wire.LittleEndian

/-- The exclusive or of two strings of the same length, byte by byte. -/
def xorBytes (first second : Bytes) : Bytes :=
  List.zipWith (· ^^^ ·) first second

/-- The bits of a string, as the checksum consumes them. -/
def bits (bytes : Bytes) : List Bool :=
  bytes.flatMap Crc.byteBits

/-- The generator of the checksum. -/
def generator : BitVec 16 :=
  0x1021#16

/-- A frame with these differences has a right checksum again: what the data
bytes do to the register, the last two bytes do to the stored checksum. -/
def Unnoticed (difference : Bytes) : Prop :=
  Crc.feed generator 0#16 (bits (difference.take (difference.length - 2))) =
    Crc.load 16 (bits (difference.drop (difference.length - 2)).reverse)

instance (difference : Bytes) : Decidable (Unnoticed difference) :=
  inferInstanceAs (Decidable (_ = _))

/-- The differences of the last two data bytes and the two checksum bytes in
the bursts that go unnoticed. -/
def unnoticedBursts : List Bytes :=
  [[0x00, 0x01, 0x21, 0x10], [0x00, 0x02, 0x42, 0x20], [0x00, 0x03, 0x63, 0x30],
    [0x00, 0x04, 0x84, 0x40], [0x00, 0x05, 0xA5, 0x50], [0x00, 0x06, 0xC6, 0x60],
    [0x00, 0x07, 0xE7, 0x70], [0x00, 0x89, 0xA1, 0x00], [0x02, 0x35, 0x94, 0x00],
    [0x08, 0xC5, 0x40, 0x00], [0x11, 0x8A, 0x80, 0x00], [0x19, 0x4F, 0xC0, 0x00]]

/-! ## Bits of strings -/

theorem byteBits_xor (first second : UInt8) :
    Crc.byteBits (first ^^^ second) =
      List.zipWith (· ^^ ·) (Crc.byteBits first) (Crc.byteBits second) := by
  simp [Crc.byteBits, UInt8.toBitVec_xor]

theorem byteBits_length (byte : UInt8) : (Crc.byteBits byte).length = 8 :=
  rfl

theorem bits_length (bytes : Bytes) : (bits bytes).length = 8 * bytes.length := by
  induction bytes with
  | nil => rfl
  | cons byte bytes ih =>
      rw [bits, List.flatMap_cons, List.length_append, byteBits_length, List.length_cons]
      rw [bits] at ih
      omega

theorem bits_append (first second : Bytes) : bits (first ++ second) = bits first ++ bits second :=
  List.flatMap_append

theorem bits_xorBytes {first second : Bytes} (sameLength : first.length = second.length) :
    bits (xorBytes first second) = List.zipWith (· ^^ ·) (bits first) (bits second) := by
  induction first generalizing second with
  | nil => rfl
  | cons byte first ih =>
      cases second with
      | nil => cases sameLength
      | cons other second =>
          have rest := ih (Nat.succ.inj sameLength)
          simp only [bits, xorBytes, List.zipWith_cons_cons, List.flatMap_cons] at rest ⊢
          rw [rest, byteBits_xor, List.zipWith_append]
          simp [byteBits_length]

theorem load_byteBits (byte : UInt8) : Crc.load 8 (Crc.byteBits byte) = byte.toBitVec := by
  apply BitVec.eq_of_getMsbD_eq
  intro position inside
  rw [Crc.getMsbD_load _ inside, Crc.byteBits]
  interval_cases position <;> simp [BitVec.getMsbD]

/-- A string without a bit set is zero. -/
theorem eq_replicate_of_bits {bytes : Bytes}
    (clear : bits bytes = List.replicate (8 * bytes.length) false) :
    bytes = List.replicate bytes.length 0 := by
  induction bytes with
  | nil => rfl
  | cons byte bytes ih =>
      have split : Crc.byteBits byte ++ bits bytes =
          List.replicate 8 false ++ List.replicate (8 * bytes.length) false := by
        rw [List.replicate_append_replicate, Nat.add_comm, ← Nat.mul_succ]
        exact clear
      rcases List.append_inj split rfl with ⟨first, rest⟩
      have zero : byte = 0 := by
        apply UInt8.toBitVec_inj.mp
        rw [← load_byteBits, first]
        decide
      rw [List.length_cons, List.replicate_succ, ← ih rest, zero]

/-- Two bytes fill a register, the first one on top. -/
theorem load_bits_pair (high low : UInt8) :
    Crc.load 16 (bits [high, low]) = high.toBitVec ++ low.toBitVec := by
  apply BitVec.eq_of_getMsbD_eq
  intro position inside
  rw [Crc.getMsbD_load _ inside, BitVec.getMsbD_append]
  simp only [bits, Crc.byteBits, List.flatMap_cons, List.flatMap_nil, List.append_nil]
  interval_cases position <;> simp [BitVec.getMsbD]

/-! ## Bursts across the end of the data -/

/-- The register that the two bytes of a checksum spell in the order they are
stored, from the one that they spell in the order they are read, and back. -/
def swap (register : BitVec 16) : BitVec 16 :=
  register.extractLsb' 0 8 ++ register.extractLsb' 8 8

/-- The last two data bytes and the two checksum bytes. -/
def bytesOf (data stored : BitVec 16) : Bytes :=
  [UInt8.ofBitVec (data.extractLsb' 8 8), UInt8.ofBitVec (data.extractLsb' 0 8),
    UInt8.ofBitVec (stored.extractLsb' 8 8), UInt8.ofBitVec (stored.extractLsb' 0 8)]

theorem swap_append (high low : BitVec 8) : swap (high ++ low) = low ++ high := by
  rw [swap, BitVec.extractLsb'_append_eq_left, BitVec.extractLsb'_append_eq_right]

theorem swap_swap (register : BitVec 16) : swap (swap register) = register := by
  unfold swap
  rw [BitVec.extractLsb'_append_eq_right, BitVec.extractLsb'_append_eq_left]
  exact BitVec.extractLsb'_append_extractLsb'

theorem bytesOf_append (first second third fourth : UInt8) :
    bytesOf (first.toBitVec ++ second.toBitVec) (third.toBitVec ++ fourth.toBitVec) =
      [first, second, third, fourth] := by
  simp only [bytesOf, BitVec.extractLsb'_append_eq_left, BitVec.extractLsb'_append_eq_right,
    UInt8.ofBitVec_toBitVec]

theorem generator_constant : generator.getLsbD 0 = true := by
  decide

/-- The bursts with at most eight bits in the data, by those bits. -/
theorem mem_unnoticedBursts_of_data : ∀ inData < 9, ∀ data < 2 ^ inData,
    swap ((Crc.idle generator)^[16] (BitVec.ofNat 16 data)) <<< (16 - inData) = 0#16 →
      data = 0 ∨
        bytesOf (BitVec.ofNat 16 data) (swap ((Crc.idle generator)^[16] (BitVec.ofNat 16 data))) ∈
          unnoticedBursts := by
  decide +kernel

/-- The bursts with at least eight bits in the data, by those in the
checksum. -/
theorem mem_unnoticedBursts_of_stored : ∀ more < 8, ∀ stored < 2 ^ (8 - more),
    (Crc.back generator)^[16] (swap (BitVec.ofNat 16 stored <<< (more + 8))) >>> (more + 8) =
        0#16 →
      stored = 0 ∨
        bytesOf ((Crc.back generator)^[16] (swap (BitVec.ofNat 16 stored <<< (more + 8))))
            (BitVec.ofNat 16 stored <<< (more + 8)) ∈ unnoticedBursts := by
  decide +kernel

/-- A burst takes up the last bits of the data and as many bits less of the
checksum.  When the one cancels the other, it is one of the twelve. -/
theorem mem_unnoticedBursts {data stored : BitVec 16} {inData : Nat} (few : inData < 16)
    (high : data >>> inData = 0#16) (low : stored <<< (16 - inData) = 0#16)
    (cancels : (Crc.idle generator)^[16] data = swap stored) (differs : data ≠ 0#16) :
    bytesOf data stored ∈ unnoticedBursts := by
  by_cases small : inData < 9
  · have storedEq : stored = swap ((Crc.idle generator)^[16] data) := by
      rw [cancels, swap_swap]
    have bound : data.toNat < 2 ^ inData := by
      have shifted := congrArg BitVec.toNat high
      rw [BitVec.toNat_ushiftRight, Nat.shiftRight_eq_div_pow] at shifted
      exact Nat.lt_of_div_eq_zero (Nat.two_pow_pos _) shifted
    have found := mem_unnoticedBursts_of_data inData small data.toNat bound
    rw [BitVec.ofNat_toNat, BitVec.setWidth_eq, ← storedEq] at found
    rcases found low with zero | member
    · exact absurd (BitVec.eq_of_toNat_eq zero) differs
    · exact member
  · obtain ⟨more, rfl⟩ : ∃ more, inData = more + 8 := ⟨inData - 8, by omega⟩
    have dataEq : data = (Crc.back generator)^[16] (swap stored) := by
      rw [← cancels, Crc.back_iterate_idle generator_constant]
    have storedEq : stored = BitVec.ofNat 16 (stored >>> (more + 8)).toNat <<< (more + 8) := by
      rw [BitVec.ofNat_toNat, BitVec.setWidth_eq]
      apply BitVec.eq_of_getLsbD_eq
      intro position inside
      have bit := congrArg (fun register => register.getLsbD (position + (16 - (more + 8)))) low
      by_cases lowest : position < more + 8
      · have clear : position + (8 - more) < 16 → stored.getLsbD position = false := by
          simpa [lowest] using bit
        rw [clear (by omega)]
        simp [lowest]
      · have back : more + 8 + (position - (more + 8)) = position := by omega
        simp [inside, lowest, back]
    have bound : (stored >>> (more + 8)).toNat < 2 ^ (8 - more) := by
      rw [BitVec.toNat_ushiftRight, Nat.shiftRight_eq_div_pow]
      apply Nat.div_lt_of_lt_mul
      rw [← Nat.pow_add, show more + 8 + (8 - more) = 16 by omega]
      exact stored.isLt
    have found := mem_unnoticedBursts_of_stored more (by omega) _ bound
    rw [← storedEq, ← dataEq] at found
    rcases found high with zero | member
    · have empty : stored = 0#16 := by
        rw [storedEq, zero]
        simp
      have emptied : (Crc.idle generator)^[16] data = 0#16 := by
        rw [cancels, empty]
        decide
      exact absurd (Crc.eq_zero_of_iterate_idle generator_constant emptied) differs
    · exact member

/-! ## Bursts anywhere -/

theorem unnoticed_append_iff (data : Bytes) (third fourth : UInt8) :
    Unnoticed (data ++ [third, fourth]) ↔
      Crc.feed generator 0#16 (bits data) = fourth.toBitVec ++ third.toBitVec := by
  have width : (data ++ [third, fourth]).length - 2 = data.length := by
    simp
  have swapped : [third, fourth].reverse = [fourth, third] := rfl
  rw [Unnoticed, width, List.take_left, List.drop_left, swapped, load_bits_pair]

/-- Nothing in the data and a cancelled checksum: nothing at all. -/
theorem bits_clear {third fourth : UInt8}
    (clear : fourth.toBitVec ++ third.toBitVec = 0#16) : true ∉ bits [third, fourth] := by
  intro set
  have loaded : Crc.load 16 (bits [third, fourth]) = 0#16 := by
    rw [load_bits_pair, ← swap_append, clear]
    decide
  exact Crc.load_ne_zero (Nat.le_of_eq (bits_length _)) set loaded

theorem feed_pair (first second : UInt8) :
    Crc.feed generator 0#16 (bits [first, second]) =
      (Crc.idle generator)^[16] (first.toBitVec ++ second.toBitVec) := by
  have width : (bits [first, second]).length = 16 := by
    rw [bits_length]
    rfl
  rw [Crc.feed_eq_iterate_idle generator (Nat.le_of_eq width), width, BitVec.zero_xor,
    load_bits_pair]

theorem exists_tail {bytes : Bytes} (long : 4 ≤ bytes.length) :
    ∃ front first second third fourth, bytes = front ++ [first, second, third, fourth] := by
  have width : (bytes.drop (bytes.length - 4)).length = 4 := by
    rw [List.length_drop]
    omega
  match tail : bytes.drop (bytes.length - 4), width with
  | [first, second, third, fourth], _ =>
      refine ⟨bytes.take (bytes.length - 4), first, second, third, fourth, ?_⟩
      rw [← tail, List.take_append_drop]

section Tail

variable {front : Bytes} {first second third fourth : UInt8} {before after inData : Nat}
  {burst : List Bool}

theorem bits_pairs :
    bits [first, second, third, fourth] = bits [first, second] ++ bits [third, fourth] :=
  bits_append [first, second] [third, fourth]

/-- Of a burst that leaves the checksum alone, the register keeps something. -/
theorem feed_ne_of_ends (ends : 16 ≤ after) (short : burst.length ≤ 16) (set : true ∈ burst)
    (spread : bits (front ++ [first, second]) ++ bits [third, fourth] =
      List.replicate before false ++ (burst ++ List.replicate after false)) :
    Crc.feed generator 0#16 (bits (front ++ [first, second])) ≠
      fourth.toBitVec ++ third.toBitVec := by
  have rest : List.replicate after false =
      List.replicate (after - 16) false ++ List.replicate 16 false := by
    rw [List.replicate_append_replicate, Nat.sub_add_cancel ends]
  rw [rest, ← List.append_assoc burst, ← List.append_assoc] at spread
  rcases List.append_inj' spread (by rw [bits_length]; simp) with ⟨inData, inStored⟩
  have zeros : ([third, fourth] : Bytes) = List.replicate 2 0 := eq_replicate_of_bits inStored
  cases zeros
  rw [inData]
  exact Crc.feed_ne_zero_of_isBurst generator_constant ⟨_, _, burst, rfl, short, set⟩

/-- A burst that leaves the data alone changes the checksum only. -/
theorem feed_ne_of_starts (starts : 8 * front.length + 16 ≤ before) (set : true ∈ burst)
    (spread : bits (front ++ [first, second]) ++ bits [third, fourth] =
      List.replicate before false ++ (burst ++ List.replicate after false)) :
    Crc.feed generator 0#16 (bits (front ++ [first, second])) ≠
      fourth.toBitVec ++ third.toBitVec := by
  intro unnoticed
  have rest : List.replicate before false =
      List.replicate (8 * front.length + 16) false ++
        List.replicate (before - (8 * front.length + 16)) false := by
    rw [List.replicate_append_replicate, Nat.add_sub_cancel' starts]
  have dataLength : (bits (front ++ [first, second])).length = 8 * front.length + 16 := by
    rw [bits_length, List.length_append]
    rfl
  rw [rest, List.append_assoc] at spread
  rcases List.append_inj spread (by rw [dataLength]; simp) with ⟨inData, inStored⟩
  rw [inData, Crc.feed_zero_replicate_false] at unnoticed
  apply bits_clear unnoticed.symm
  rw [inStored]
  exact List.mem_append_right _ (List.mem_append_left _ set)

/-- Of a burst across the end of the data, the data has the last bits only. -/
theorem data_of_across (spread : bits [first, second, third, fourth] =
      List.replicate (16 - inData) false ++ (burst ++ List.replicate after false)) :
    (first.toBitVec ++ second.toBitVec) >>> inData = 0#16 := by
  apply BitVec.eq_of_getMsbD_eq
  intro position inside
  rw [BitVec.getMsbD_ushiftRight, BitVec.getMsbD_zero]
  by_cases shifted : position < inData
  · simp [shifted]
  · have early : position - inData < 16 - inData ∨
        16 - inData + burst.length ≤ position - inData := Or.inl (by omega)
    have narrow : position - inData < 16 := by omega
    have clear := Crc.getD_burst after early
    rw [← spread, bits_pairs, List.getD_append _ _ _ _ (by rw [bits_length]; exact narrow),
      ← Crc.getMsbD_load _ narrow, load_bits_pair] at clear
    simp [clear]

/-- The checksum has the first bits only, and no more than the data leaves. -/
theorem stored_of_across (short : burst.length ≤ 16)
    (spread : bits [first, second, third, fourth] =
      List.replicate (16 - inData) false ++ (burst ++ List.replicate after false)) :
    (third.toBitVec ++ fourth.toBitVec) <<< (16 - inData) = 0#16 := by
  apply BitVec.eq_of_getMsbD_eq
  intro position inside
  rw [BitVec.getMsbD_shiftLeft, BitVec.getMsbD_zero]
  by_cases beyond : 16 ≤ position + (16 - inData)
  · rw [BitVec.getMsbD_of_ge _ _ beyond]
  · have late : 16 + (position + (16 - inData)) < 16 - inData ∨
        16 - inData + burst.length ≤ 16 + (position + (16 - inData)) := Or.inr (by omega)
    have narrow : position + (16 - inData) < 16 := by omega
    have pairLength : (bits [first, second]).length = 16 := by
      rw [bits_length]
      rfl
    have clear := Crc.getD_burst after late
    rw [← spread, bits_pairs, List.getD_append_right _ _ _ _ (by omega), pairLength,
      Nat.add_sub_cancel_left, ← Crc.getMsbD_load _ narrow, load_bits_pair] at clear
    exact clear

/-- A burst that goes unnoticed starts in the last two bytes of the data and is
one of the twelve. -/
theorem eq_of_unnoticed
    (burst : Crc.IsBurst 16 (bits (front ++ [first, second, third, fourth])))
    (unnoticed : Unnoticed (front ++ [first, second, third, fourth])) :
    front = List.replicate front.length 0 ∧ [first, second, third, fourth] ∈ unnoticedBursts := by
  have joined : front ++ [first, second, third, fourth] =
      (front ++ [first, second]) ++ [third, fourth] := by
    simp
  rw [joined, unnoticed_append_iff] at unnoticed
  rcases burst with ⟨before, after, burst, spread, short, set⟩
  have total := congrArg List.length spread
  simp only [bits_length, List.length_append, List.length_replicate, List.length_cons,
    List.length_nil] at total
  have parts : bits (front ++ [first, second, third, fourth]) =
      bits (front ++ [first, second]) ++ bits [third, fourth] := by
    rw [joined, bits_append]
  by_cases ends : 16 ≤ after
  · exact absurd unnoticed (feed_ne_of_ends ends short set (parts.symm.trans spread))
  by_cases starts : 8 * front.length + 16 ≤ before
  · exact absurd unnoticed (feed_ne_of_starts starts set (parts.symm.trans spread))
  -- The burst runs across the end of the data.
  obtain ⟨inData, few, rfl⟩ : ∃ inData, inData < 16 ∧
      before = 8 * front.length + (16 - inData) :=
    ⟨8 * front.length + 16 - before, by omega, by omega⟩
  rw [← List.replicate_append_replicate, bits_append, List.append_assoc] at spread
  rcases List.append_inj spread (by rw [bits_length]; simp) with ⟨inFront, inTail⟩
  rw [bits_append, Crc.feed_append, inFront, Crc.feed_zero_replicate_false, feed_pair] at unnoticed
  refine ⟨eq_replicate_of_bits inFront, ?_⟩
  rw [← bytesOf_append]
  apply mem_unnoticedBursts few (data_of_across inTail) (stored_of_across short inTail)
  · rw [unnoticed, swap_append]
  · intro clear
    rw [clear, Function.iterate_fixed (Crc.idle_zero generator)] at unnoticed
    have dataClear : true ∉ bits [first, second] := by
      apply bits_clear
      rw [← swap_append, clear]
      decide
    have inBurst : true ∈ bits [first, second, third, fourth] := by
      rw [inTail]
      exact List.mem_append_right _ (List.mem_append_left _ set)
    rw [bits_pairs, List.mem_append] at inBurst
    exact inBurst.elim dataClear (bits_clear unnoticed.symm)

end Tail

/-- Each of the twelve bursts goes unnoticed, in a frame of any length. -/
theorem unnoticed_of_mem {pattern : Bytes} (listed : pattern ∈ unnoticedBursts) (count : Nat) :
    Unnoticed (List.replicate count 0 ++ pattern) := by
  have alone : ∀ pattern ∈ unnoticedBursts, pattern.length = 4 ∧
      Crc.feed generator 0#16 (bits (pattern.take 2)) =
        Crc.load 16 (bits (pattern.drop 2).reverse) := by
    decide +kernel
  rcases alone pattern listed with ⟨width, cancels⟩
  have quiet : bits (List.replicate count 0) = List.replicate (8 * count) false := by
    induction count with
    | zero => rfl
    | succ count ih =>
        rw [List.replicate_succ, bits, List.flatMap_cons, ← bits, ih, Nat.mul_succ, Nat.add_comm,
          ← List.replicate_append_replicate]
        rfl
  have cutAt : (List.replicate count 0 ++ pattern).length - 2 = count + 2 := by
    simp [width]
  have front : (List.replicate count (0 : UInt8)).length = count := List.length_replicate
  rw [Unnoticed, cutAt, List.take_append, List.drop_append, front, Nat.add_sub_cancel_left,
    List.take_of_length_le (by omega), List.drop_eq_nil_of_le (by omega), List.nil_append,
    bits_append, quiet, Crc.feed_append, Crc.feed_zero_replicate_false]
  exact cancels

/-! ## Frames -/

theorem le16_eq_iff {value : UInt16} {low high : UInt8} :
    le16 value = [low, high] ↔ value.toBitVec = high.toBitVec ++ low.toBitVec := by
  have lowBound : low.toBitVec.toNat < 2 ^ 8 := low.toNat_lt
  have joined : (high.toBitVec ++ low.toBitVec).toNat = high.toNat * 256 + low.toNat := by
    rw [BitVec.toNat_append, ← Nat.shiftLeft_add_eq_or_of_lt lowBound, Nat.shiftLeft_eq]
    rfl
  constructor
  · intro stored
    apply BitVec.eq_of_toNat_eq
    have spelled : value = ofLe16 [low, high] := by
      rw [← stored, ofLe16_le16]
    have number : (ofLe16 [low, high]).toNat = low.toNat + 256 * high.toNat := by
      have highBound := high.toNat_lt
      rw [ofLe16, UInt16.toNat_ofNat', decode, decode, decode]
      omega
    rw [joined, spelled]
    exact number.trans (by ring)
  · intro spelled
    have number := congrArg BitVec.toNat spelled
    rw [joined] at number
    have value_eq : value = ofLe16 [low, high] := by
      apply UInt16.toNat_inj.mp
      have bound := value.toNat_lt
      rw [ofLe16, UInt16.toNat_ofNat', decode, decode, decode]
      rw [UInt16.toNat_toBitVec] at number
      omega
    rw [value_eq, le16_ofLe16 rfl]

/-- A string of the length of a frame has a right checksum exactly when its
differences from the frame go unnoticed. -/
theorem checksummed_iff_unnoticed {body garbled : Bytes}
    (sameLength : garbled.length = (checksummed body).length) :
    (∃ other, garbled = checksummed other) ↔ Unnoticed (xorBytes (checksummed body) garbled) := by
  have pair : ∀ stored : Bytes, stored.length = 2 → ∃ low high, stored = [low, high] := by
    intro stored width
    match stored, width with
    | [low, high], _ => exact ⟨low, high, rfl⟩
  rcases pair (le16 (Crc.ccitt body)) (le16_length _) with ⟨low, high, stored⟩
  have frameLength : (checksummed body).length = body.length + 2 := by
    rw [checksummed, List.length_append, le16_length]
  rcases pair (garbled.drop body.length) (by rw [List.length_drop]; omega)
    with ⟨otherLow, otherHigh, otherStored⟩
  have bodyLength : (garbled.take body.length).length = body.length := by
    rw [List.length_take]
    omega
  have garbledEq : garbled = garbled.take body.length ++ [otherLow, otherHigh] := by
    rw [← otherStored, List.take_append_drop]
  have right : (∃ other, garbled = checksummed other) ↔
      le16 (Crc.ccitt (garbled.take body.length)) = [otherLow, otherHigh] := by
    constructor
    · rintro ⟨other, equal⟩
      have otherLength : other.length = body.length := by
        have lengths := congrArg List.length equal
        rw [checksummed, List.length_append, le16_length] at lengths
        omega
      have front : garbled.take body.length = other := by
        rw [equal, checksummed, ← otherLength, List.take_left]
      rw [front, ← otherStored, equal, checksummed, ← otherLength, List.drop_left]
    · intro checks
      refine ⟨garbled.take body.length, ?_⟩
      rw [checksummed, checks]
      exact garbledEq
  have difference : xorBytes (checksummed body) garbled =
      xorBytes body (garbled.take body.length) ++ [low ^^^ otherLow, high ^^^ otherHigh] := by
    conv => lhs; rw [garbledEq]
    rw [checksummed, stored, xorBytes, List.zipWith_append bodyLength.symm]
    rfl
  have register : ∀ bytes : Bytes,
      (Crc.ccitt bytes).toBitVec = Crc.feed generator 0xFFFF#16 (bits bytes) := fun _ => rfl
  have sameLength : (bits body).length = (bits (garbled.take body.length)).length := by
    rw [bits_length, bits_length, bodyLength]
  have linear := Crc.feed_xor generator sameLength 0xFFFF#16 0xFFFF#16
  rw [BitVec.xor_self, ← bits_xorBytes bodyLength.symm, ← register, ← register,
    le16_eq_iff.mp stored] at linear
  rw [right, difference, unnoticed_append_iff, linear, le16_eq_iff, UInt8.toBitVec_xor,
    UInt8.toBitVec_xor, ← BitVec.xor_append, BitVec.xor_right_inj, eq_comm]

namespace Kernel

/-- A valid frame that a burst of at most sixteen bits has hit is rejected
before any handler runs, unless the burst runs from the last two bytes of the
data into the checksum in one of twelve ways; then the checksum is right again. -/
theorem burst_noticed {frame garbled : Bytes} (valid : completes frame = true)
    (sameLength : garbled.length = frame.length)
    (burst : Crc.IsBurst 16 (bits (xorBytes frame garbled))) :
    ((∃ body, garbled = checksummed body) ↔ ∃ pattern ∈ unnoticedBursts,
        xorBytes frame garbled = List.replicate (frame.length - 4) 0 ++ pattern) ∧
      ((¬∃ pattern ∈ unnoticedBursts,
          xorBytes frame garbled = List.replicate (frame.length - 4) 0 ++ pattern) →
        ∀ {σ : Type} (table : HandlerTable σ) (withHeader : Bool) (state : σ),
          handle table withHeader garbled state = ⟨.rejected, state⟩) := by
  have proper : ∃ lengths rest, lengths.length < 65536 ∧ frame = tabled lengths rest := by
    by_contra malformed
    rw [(dispatched_of_not_tabled malformed).2] at valid
    cases valid
  rcases proper with ⟨lengths, rest, _, rfl⟩
  have length := tabled_length lengths rest
  have bodyLength := tabledBody_length lengths rest
  have differenceLength : (xorBytes (tabled lengths rest) garbled).length =
      (tabled lengths rest).length := by
    rw [xorBytes, List.length_zipWith, sameLength, Nat.min_self]
  have noticed : (∃ body, garbled = checksummed body) ↔ ∃ pattern ∈ unnoticedBursts,
      xorBytes (tabled lengths rest) garbled =
        List.replicate ((tabled lengths rest).length - 4) 0 ++ pattern := by
    have restored : (∃ body, garbled = checksummed body) ↔
        Unnoticed (xorBytes (tabled lengths rest) garbled) :=
      checksummed_iff_unnoticed sameLength
    rw [restored]
    constructor
    · intro unnoticed
      rcases exists_tail (by omega : 4 ≤ (xorBytes (tabled lengths rest) garbled).length)
        with ⟨front, first, second, third, fourth, difference⟩
      rw [difference] at differenceLength unnoticed burst
      have frontLength : (tabled lengths rest).length - 4 = front.length := by
        rw [← differenceLength, List.length_append]
        rfl
      rcases eq_of_unnoticed burst unnoticed with ⟨clear, listed⟩
      refine ⟨_, listed, ?_⟩
      rw [frontLength, ← clear]
      exact difference
    · rintro ⟨pattern, listed, difference⟩
      rw [difference]
      exact unnoticed_of_mem listed _
  refine ⟨noticed, fun unlisted σ table withHeader state => ?_⟩
  apply handle_of_not_tabled
  rintro ⟨otherLengths, otherRest, _, equal⟩
  exact unlisted (noticed.mp ⟨_, equal⟩)

/-- A ping with two bytes of payload. -/
def probe : Submessage :=
  ⟨OpCode.ping.byte, .request, Uuid.nil, [0, 0]⟩

def probeFrame : Bytes :=
  checksummed (frameBody [probe.bytes])

/-- The frame after some of its last bytes have changed. -/
def garbledProbe (pattern : Bytes) : Bytes :=
  xorBytes probeFrame (List.replicate (probeFrame.length - pattern.length) 0 ++ pattern)

/-- Two bits of the data have changed and the checksum has not. -/
theorem burst_noticed_probe :
    handle recorder false (garbledProbe [0x02, 0x01, 0x00, 0x00]) [] = ⟨.rejected, []⟩ := by
  have burst : Crc.IsBurst 16
      (bits (xorBytes probeFrame (garbledProbe [0x02, 0x01, 0x00, 0x00]))) := by
    refine ⟨182, 16, [true, false, false, false, false, false, false, false, false, true], ?_⟩
    decide +kernel
  have valid : completes probeFrame = true := by decide +kernel
  have noticed := burst_noticed valid (by decide +kernel) burst
  exact noticed.2 (by decide +kernel) recorder false []

/-- The last bit of the data and four bits of the checksum have changed, within
thirteen bits: the frame is accepted and the changed ping is handled. -/
theorem burst_unnoticed :
    completes probeFrame = true ∧ (garbledProbe [0x00, 0x01, 0x21, 0x10]).length =
        probeFrame.length ∧
      Crc.IsBurst 16 (bits (xorBytes probeFrame (garbledProbe [0x00, 0x01, 0x21, 0x10]))) ∧
      (handle recorder false (garbledProbe [0x00, 0x01, 0x21, 0x10]) []).outcome = .replied [] ∧
      dispatched (garbledProbe [0x00, 0x01, 0x21, 0x10]) = [{ probe with payload := [0, 1] }] := by
  have burst : Crc.IsBurst 16
      (bits (xorBytes probeFrame (garbledProbe [0x00, 0x01, 0x21, 0x10]))) := by
    refine ⟨191, 4, [true, false, false, true, false, false, false, false, true, false, false,
      false, true], ?_⟩
    decide +kernel
  refine ⟨?_, ?_, burst, ?_, ?_⟩ <;> decide +kernel

end Kernel

end Aurum.Protocol
