import Aurum.Wire.Crc
import Mathlib.Data.List.GetD
import Mathlib.Logic.Function.Iterate

/-!
# Burst errors

A cyclic redundancy check is linear over exclusive or, so whether an error
goes unnoticed depends on the differing bits alone.  When the generator has a
constant term the register can be run backwards, and a burst of differences no
longer than the register never leaves it empty.
-/

namespace Aurum.Wire.Crc

variable {width : Nat}

/-- Run the register over a list of bits. -/
def feed (polynomial register : BitVec width) (bits : List Bool) : BitVec width :=
  bits.foldl (shiftBit polynomial) register

/-- One step without a message bit. -/
def idle (polynomial register : BitVec width) : BitVec width :=
  shiftBit polynomial register false

/-- Undo a step without a message bit. -/
def back (polynomial register : BitVec width) : BitVec width :=
  if register.getLsbD 0 then
    ((register ^^^ polynomial) >>> 1) ^^^ BitVec.intMin width
  else
    register >>> 1

/-- The register that holds the given bits, the first one on top. -/
def load (width : Nat) : List Bool → BitVec width
  | [] => 0#(width)
  | bit :: bits => (if bit then BitVec.intMin width else 0#(width)) ^^^ (load width bits >>> 1)

/-- All bits that are set lie within a stretch of the given length, and there
are some. -/
def IsBurst (length : Nat) (bits : List Bool) : Prop :=
  ∃ (before after : Nat) (burst : List Bool),
    bits = List.replicate before false ++ (burst ++ List.replicate after false) ∧
      burst.length ≤ length ∧ true ∈ burst

/-! ## Linearity -/

theorem shiftBit_eq (polynomial register : BitVec width) (bit : Bool) :
    shiftBit polynomial register bit =
      (register <<< 1) ^^^ (if register.msb ^^ bit then polynomial else 0#(width)) := by
  unfold shiftBit
  cases register.msb <;> cases bit <;> simp

theorem shiftBit_xor (polynomial first second : BitVec width) (bit other : Bool) :
    shiftBit polynomial (first ^^^ second) (bit ^^ other) =
      shiftBit polynomial first bit ^^^ shiftBit polynomial second other := by
  have branch : ∀ left right : Bool, (if left ^^ right then polynomial else 0#(width)) =
      (if left then polynomial else 0#(width)) ^^^ (if right then polynomial else 0#(width)) := by
    intro left right
    cases left <;> cases right <;> simp
  have parity : ((first ^^^ second).msb ^^ (bit ^^ other)) =
      ((first.msb ^^ bit) ^^ (second.msb ^^ other)) := by
    rw [BitVec.msb_xor]
    cases first.msb <;> cases second.msb <;> cases bit <;> cases other <;> rfl
  rw [shiftBit_eq, shiftBit_eq, shiftBit_eq, parity, branch, BitVec.shiftLeft_xor_distrib]
  ac_rfl

theorem feed_xor (polynomial : BitVec width) {first second : List Bool}
    (sameLength : first.length = second.length) (left right : BitVec width) :
    feed polynomial (left ^^^ right) (List.zipWith (· ^^ ·) first second) =
      feed polynomial left first ^^^ feed polynomial right second := by
  induction first generalizing second left right with
  | nil =>
      rw [List.length_nil, eq_comm, List.length_eq_zero_iff] at sameLength
      subst sameLength
      rfl
  | cons bit first ih =>
      cases second with
      | nil => cases sameLength
      | cons other second =>
          rw [List.zipWith_cons_cons, feed, List.foldl_cons, shiftBit_xor]
          exact ih (Nat.succ.inj sameLength) _ _

theorem feed_append (polynomial register : BitVec width) (first second : List Bool) :
    feed polynomial register (first ++ second) =
      feed polynomial (feed polynomial register first) second :=
  List.foldl_append

theorem idle_zero (polynomial : BitVec width) : idle polynomial 0#(width) = 0#(width) := by
  simp [idle, shiftBit_eq]

theorem feed_replicate_false (polynomial register : BitVec width) (count : Nat) :
    feed polynomial register (List.replicate count false) = (idle polynomial)^[count] register := by
  induction count generalizing register with
  | zero => rfl
  | succ count ih =>
      rw [List.replicate_succ, feed, List.foldl_cons, Function.iterate_succ_apply]
      exact ih (idle polynomial register)

theorem feed_zero_replicate_false (polynomial : BitVec width) (count : Nat) :
    feed polynomial 0#(width) (List.replicate count false) = 0#(width) := by
  rw [feed_replicate_false, Function.iterate_fixed (idle_zero polynomial)]

/-! ## Running backwards -/

/-- Shifting the top bit out and back in. -/
theorem shiftLeft_shiftRight (register : BitVec width) :
    ((register <<< 1) >>> 1) ^^^ (if register.msb then BitVec.intMin width else 0#(width)) =
      register := by
  apply BitVec.eq_of_getMsbD_eq
  intro position inside
  rw [BitVec.getMsbD_xor, BitVec.getMsbD_ushiftRight, BitVec.getMsbD_shiftLeft,
    BitVec.msb_eq_getMsbD_zero]
  cases position with
  | zero =>
      cases top : register.getMsbD 0 with
      | false => simp
      | true => simp [BitVec.getMsbD_intMin, inside]
  | succ position =>
      have within : position < width := by omega
      cases register.getMsbD 0 <;> simp [BitVec.getMsbD_intMin, inside]

theorem back_idle {polynomial : BitVec width} (constant : polynomial.getLsbD 0 = true)
    (register : BitVec width) : back polynomial (idle polynomial register) = register := by
  have low : (register <<< 1).getLsbD 0 = false := by simp
  have restored := shiftLeft_shiftRight register
  rw [idle, shiftBit_eq, Bool.xor_false, back]
  cases top : register.msb with
  | false =>
      rw [top] at restored
      simp only [Bool.false_eq_true, if_false, BitVec.xor_zero] at restored ⊢
      rw [low, if_neg Bool.false_ne_true, restored]
  | true =>
      rw [top] at restored
      simp only [if_true] at restored ⊢
      rw [BitVec.getLsbD_xor, low, constant, Bool.false_xor, if_pos rfl, BitVec.xor_assoc,
        BitVec.xor_self, BitVec.xor_zero, restored]

theorem back_iterate_idle {polynomial : BitVec width} (constant : polynomial.getLsbD 0 = true)
    (count : Nat) (register : BitVec width) :
    (back polynomial)^[count] ((idle polynomial)^[count] register) = register :=
  Function.LeftInverse.iterate (back_idle constant) count register

/-- An empty register has been empty before. -/
theorem eq_zero_of_iterate_idle {polynomial : BitVec width}
    (constant : polynomial.getLsbD 0 = true) {count : Nat} {register : BitVec width}
    (emptied : (idle polynomial)^[count] register = 0#(width)) : register = 0#(width) := by
  have undone := back_iterate_idle constant count register
  rw [emptied, ← Function.iterate_fixed (idle_zero polynomial) count,
    back_iterate_idle constant] at undone
  exact undone.symm

/-! ## Loading bits -/

theorem getMsbD_load (bits : List Bool) {position : Nat} (inside : position < width) :
    (load width bits).getMsbD position = bits.getD position false := by
  induction bits generalizing position with
  | nil => simp [load]
  | cons bit bits ih =>
      rw [load, BitVec.getMsbD_xor, BitVec.getMsbD_ushiftRight]
      cases position with
      | zero => cases bit <;> simp [BitVec.getMsbD_intMin, inside]
      | succ position =>
          have within : position < width := by omega
          have shifted := ih within
          cases bit <;> simp_all [BitVec.getMsbD_intMin]

/-- A register into which fewer bits were loaded than fit ends in zero. -/
theorem load_shift {bits : List Bool} (short : bits.length < width) :
    (load width bits >>> 1) <<< 1 = load width bits ∧ (load width bits >>> 1).msb = false := by
  constructor
  · apply BitVec.eq_of_getMsbD_eq
    intro position inside
    rw [BitVec.getMsbD_shiftLeft, BitVec.getMsbD_ushiftRight]
    by_cases last : position + 1 < width
    · simp [last]
    · have beyond : bits.length ≤ position := by omega
      rw [getMsbD_load bits inside, List.getD_eq_default _ _ beyond]
      simp [last]
  · simp [BitVec.msb_ushiftRight]

/-- No more bits than fit the register can as well be loaded into it first. -/
theorem feed_eq_iterate_idle (polynomial : BitVec width) {bits : List Bool}
    (short : bits.length ≤ width) (register : BitVec width) :
    feed polynomial register bits =
      (idle polynomial)^[bits.length] (register ^^^ load width bits) := by
  induction bits generalizing register with
  | nil => simp [feed, load]
  | cons bit bits ih =>
      have fewer : bits.length < width := short
      have positive : 0 < width := by omega
      have loaded := load_shift fewer
      have first : shiftBit polynomial register bit ^^^ load width bits =
          idle polynomial (register ^^^ load width (bit :: bits)) := by
        have top : shiftBit polynomial register bit =
            idle polynomial (register ^^^ if bit then BitVec.intMin width else 0#(width)) := by
          rw [idle, shiftBit_eq, shiftBit_eq, BitVec.shiftLeft_xor_distrib, BitVec.msb_xor]
          cases bit with
          | false => simp
          | true =>
              have gone : BitVec.intMin width <<< 1 = 0#(width) := by
                apply BitVec.eq_of_getMsbD_eq
                intro position inside
                simp [BitVec.getMsbD_intMin]
              simp [gone, BitVec.msb_intMin, positive]
        have rest : load width bits = idle polynomial (load width bits >>> 1) := by
          rw [idle, shiftBit_eq, loaded.1, loaded.2]
          simp
        rw [top, load, ← BitVec.xor_assoc]
        conv => lhs; rw [rest]
        exact (shiftBit_xor polynomial _ _ false false).symm
      rw [feed, List.foldl_cons, List.length_cons, Function.iterate_succ_apply, ← first]
      exact ih (Nat.le_of_lt fewer) (shiftBit polynomial register bit)

theorem load_ne_zero {bits : List Bool} (short : bits.length ≤ width) (set : true ∈ bits) :
    load width bits ≠ 0#(width) := by
  intro empty
  rcases List.getElem_of_mem set with ⟨position, inside, isSet⟩
  have bit := getMsbD_load bits (Nat.lt_of_lt_of_le inside short)
  rw [empty, List.getD_eq_getElem _ _ inside, isSet] at bit
  simp at bit

/-- The bits outside the stretch of a burst are not set. -/
theorem getD_burst {before position : Nat} (after : Nat) {burst : List Bool}
    (outside : position < before ∨ before + burst.length ≤ position) :
    (List.replicate before false ++ (burst ++ List.replicate after false)).getD position false =
      false := by
  rcases outside with early | late
  · rw [List.getD_append _ _ _ _ (by simpa using early)]
    simp [List.getD_eq_getElem?_getD]
  · rw [List.getD_append_right _ _ _ _ (by simp; omega),
      List.getD_append_right _ _ _ _ (by simp; omega)]
    simp only [List.getD_eq_getElem?_getD, List.getElem?_replicate]
    split <;> rfl

/-- A burst no longer than the register leaves it different from zero. -/
theorem feed_ne_zero_of_isBurst {polynomial : BitVec width}
    (constant : polynomial.getLsbD 0 = true) {bits : List Bool} (burst : IsBurst width bits) :
    feed polynomial 0#(width) bits ≠ 0#(width) := by
  rcases burst with ⟨before, after, burst, rfl, short, set⟩
  rw [feed_append, feed_zero_replicate_false, feed_append, feed_replicate_false,
    feed_eq_iterate_idle polynomial short, BitVec.zero_xor]
  intro emptied
  exact load_ne_zero short set
    (eq_zero_of_iterate_idle constant (eq_zero_of_iterate_idle constant emptied))

end Aurum.Wire.Crc
