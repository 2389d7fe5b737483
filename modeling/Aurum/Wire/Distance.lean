import Aurum.Wire.Burst
import Mathlib.GroupTheory.OrderOfElement

/-!
# Few scattered errors

The strings of bits that leave the register empty form a linear code.  If the
generator, its leading term included, has an even number of terms, then an even
number of bits is set in every word of the code.  Two bits alone make up a word
exactly when their distance is a multiple of the order of the register's idle
step, which is found by squaring.
-/

namespace Aurum.Wire.Crc

variable {width : Nat}

/-- Whether an odd number of bits is set. -/
def parity (bits : List Bool) : Bool :=
  bits.foldr (· ^^ ·) false

/-- The bits of a register, the top one first. -/
def digits (register : BitVec width) : List Bool :=
  (List.range width).map register.getMsbD

/-- The sum of the multiples of a register that the digits select. -/
def times (polynomial factor : BitVec width) (digits : List Bool) : BitVec width :=
  digits.foldl (fun product digit =>
    idle polynomial product ^^^ if digit then factor else 0#(width)) 0#(width)

/-- The number with the given binary digits, the leading one first. -/
def binary (digits : List Bool) : Nat :=
  digits.foldl (fun number digit => 2 * number + digit.toNat) 0

/-- As many idle steps from a register as the binary digits say, by squaring. -/
def power (polynomial one : BitVec width) (exponent : List Bool) : BitVec width :=
  exponent.foldl (fun register digit =>
    let squared := times polynomial register (digits register)
    if digit then idle polynomial squared else squared) one

/-- After how many idle steps every register is back for the first time. -/
noncomputable def order (polynomial : BitVec width) : Nat :=
  orderOf (show Function.End (BitVec width) from idle polynomial)

/-! ## Parity -/

@[simp]
theorem parity_nil : parity [] = false :=
  rfl

@[simp]
theorem parity_cons (bit : Bool) (bits : List Bool) :
    parity (bit :: bits) = (bit ^^ parity bits) :=
  rfl

@[simp]
theorem parity_append (first second : List Bool) :
    parity (first ++ second) = (parity first ^^ parity second) := by
  induction first with
  | nil => simp
  | cons bit first ih => simp [ih]

theorem parity_zipWith {first second : List Bool} (sameLength : first.length = second.length) :
    parity (List.zipWith (· ^^ ·) first second) = (parity first ^^ parity second) := by
  induction first generalizing second with
  | nil =>
      rw [List.length_nil, eq_comm, List.length_eq_zero_iff] at sameLength
      subst sameLength
      rfl
  | cons bit first ih =>
      cases second with
      | nil => cases sameLength
      | cons other second =>
          rw [List.zipWith_cons_cons, parity_cons, parity_cons, parity_cons,
            ih (Nat.succ.inj sameLength), Bool.xor_assoc, Bool.xor_assoc, Bool.xor_left_comm other]

theorem parity_eq_true_iff {bits : List Bool} : parity bits = true ↔ Odd (bits.count true) := by
  induction bits with
  | nil => simp
  | cons bit bits ih =>
      cases bit with
      | false => simpa using ih
      | true =>
          rw [parity_cons, List.count_cons_self, Nat.odd_add_one, ← ih]
          simp

/-! ## Digits -/

theorem digits_length (register : BitVec width) : (digits register).length = width := by
  simp [digits]

theorem digits_xor (first second : BitVec width) :
    digits (first ^^^ second) = List.zipWith (· ^^ ·) (digits first) (digits second) := by
  simp [digits, List.zipWith_map]

theorem load_digits (register : BitVec width) : load width (digits register) = register := by
  apply BitVec.eq_of_getMsbD_eq
  intro position inside
  rw [getMsbD_load _ inside, digits, List.getD_eq_getElem _ _ (by simpa using inside)]
  simp

theorem parity_shiftLeft (register : BitVec width) :
    parity (digits (register <<< 1)) = (parity (digits register) ^^ register.msb) := by
  cases width with
  | zero => simp [digits, BitVec.msb]
  | succ width =>
      have shifted : digits (register <<< 1) =
          (List.range width).map (fun position => register.getMsbD (position + 1)) ++ [false] := by
        rw [digits, List.range_succ, List.map_append]
        simp [BitVec.getMsbD_shiftLeft]
      have whole : digits register =
          register.msb ::
            (List.range width).map fun position => register.getMsbD (position + 1) := by
        rw [digits, List.range_succ_eq_map, List.map_cons, List.map_map,
          BitVec.msb_eq_getMsbD_zero]
        rfl
      rw [shifted, whole, parity_append, parity_cons, parity_cons, parity_nil]
      cases register.msb <;> simp

theorem parity_xor (first second : BitVec width) :
    parity (digits (first ^^^ second)) = (parity (digits first) ^^ parity (digits second)) := by
  rw [digits_xor, parity_zipWith (by rw [digits_length, digits_length])]

theorem parity_zero : parity (digits 0#(width)) = false := by
  rw [← BitVec.xor_self (x := 0#(width)), parity_xor, Bool.xor_self]

/-- A generator that has an odd number of terms behind its leading one counts the
bits it is fed modulo two. -/
theorem parity_feed {polynomial : BitVec width} (odd : parity (digits polynomial) = true)
    (register : BitVec width) (bits : List Bool) :
    parity (digits (feed polynomial register bits)) =
      (parity (digits register) ^^ parity bits) := by
  induction bits generalizing register with
  | nil => simp [feed]
  | cons bit bits ih =>
      have step : parity (digits (shiftBit polynomial register bit)) =
          (parity (digits register) ^^ bit) := by
        rw [shiftBit_eq, parity_xor, parity_shiftLeft]
        cases register.msb <;> cases bit <;> simp [odd, parity_zero]
      have split : feed polynomial register (bit :: bits) =
          feed polynomial (shiftBit polynomial register bit) bits := rfl
      rw [split, ih, step, parity_cons, Bool.xor_assoc]

/-- An even number of bits is set in every word of such a code. -/
theorem even_of_feed_eq_zero {polynomial : BitVec width}
    (odd : parity (digits polynomial) = true) {bits : List Bool}
    (word : feed polynomial 0#(width) bits = 0#(width)) : Even (bits.count true) := by
  have counted := parity_feed odd 0#(width) bits
  rw [word, parity_zero, Bool.false_xor] at counted
  rw [← Nat.not_odd_iff_even, ← parity_eq_true_iff, ← counted]
  exact Bool.false_ne_true

/-! ## Squaring -/

theorem idle_xor (polynomial first second : BitVec width) :
    idle polynomial (first ^^^ second) = idle polynomial first ^^^ idle polynomial second :=
  shiftBit_xor polynomial first second false false

theorem idle_times (polynomial factor : BitVec width) (digits : List Bool) :
    idle polynomial (times polynomial factor digits) =
      times polynomial (idle polynomial factor) digits := by
  have starts : ∀ product, idle polynomial (digits.foldl (fun product digit =>
      idle polynomial product ^^^ if digit then factor else 0#(width)) product) =
        digits.foldl (fun product digit => idle polynomial product ^^^
          if digit then idle polynomial factor else 0#(width)) (idle polynomial product) := by
    induction digits with
    | nil => exact fun _ => rfl
    | cons digit digits ih =>
        intro product
        rw [List.foldl_cons, ih, List.foldl_cons, idle_xor]
        cases digit with
        | false => simp [idle_zero]
        | true => rfl
  have run := starts 0#(width)
  rwa [idle_zero] at run

theorem iterate_idle_times (polynomial factor : BitVec width) (count : Nat) (digits : List Bool) :
    (idle polynomial)^[count] (times polynomial factor digits) =
      times polynomial ((idle polynomial)^[count] factor) digits := by
  induction count generalizing factor with
  | zero => rfl
  | succ count ih => rw [Function.iterate_succ_apply, idle_times, ih, Function.iterate_succ_apply]

theorem shiftBit_eq_idle (polynomial register : BitVec width) (bit : Bool) :
    shiftBit polynomial register bit =
      idle polynomial register ^^^ if bit then polynomial else 0#(width) := by
  rw [idle, shiftBit_eq, shiftBit_eq]
  cases register.msb with
  | false => cases bit <;> simp
  | true =>
      cases bit with
      | false => simp
      | true =>
          rw [BitVec.xor_assoc]
          simp only [Bool.xor_self, Bool.xor_false, Bool.false_eq_true, if_false, if_true,
            BitVec.xor_self]

theorem feed_eq_times (polynomial : BitVec width) (bits : List Bool) :
    feed polynomial 0#(width) bits = times polynomial polynomial bits :=
  congrArg (fun step => bits.foldl step 0#(width)) (funext₂ (shiftBit_eq_idle polynomial))

section Order

variable {polynomial one : BitVec width} (constant : polynomial.getLsbD 0 = true)
  (unit : (idle polynomial)^[width] one = polynomial)

include constant in
theorem iterate_idle_injective (count : Nat) : Function.Injective (idle polynomial)^[count] :=
  Function.LeftInverse.injective (back_iterate_idle constant count)

include constant unit

/-- What idle steps do to one, they do to all registers. -/
theorem iterate_idle_eq_times (count : Nat) (register : BitVec width) :
    (idle polynomial)^[count] register =
      times polynomial ((idle polynomial)^[count] one) (digits register) := by
  have loaded : (idle polynomial)^[width] register =
      times polynomial polynomial (digits register) := by
    have fed := feed_eq_iterate_idle polynomial (digits_length register).le 0#(width)
    rw [digits_length, load_digits, BitVec.zero_xor] at fed
    rw [← fed, feed_eq_times]
  apply iterate_idle_injective constant width
  calc (idle polynomial)^[width] ((idle polynomial)^[count] register)
      = (idle polynomial)^[count] ((idle polynomial)^[width] register) := by
        rw [← Function.iterate_add_apply, Nat.add_comm, Function.iterate_add_apply]
    _ = times polynomial ((idle polynomial)^[count] ((idle polynomial)^[width] one))
          (digits register) := by rw [loaded, iterate_idle_times, unit]
    _ = times polynomial ((idle polynomial)^[width] ((idle polynomial)^[count] one))
          (digits register) := by
        rw [← Function.iterate_add_apply, Nat.add_comm, Function.iterate_add_apply]
    _ = (idle polynomial)^[width]
          (times polynomial ((idle polynomial)^[count] one) (digits register)) := by
        rw [iterate_idle_times]

theorem power_eq (exponent : List Bool) :
    power polynomial one exponent = (idle polynomial)^[binary exponent] one := by
  induction exponent using List.reverseRecOn with
  | nil => rfl
  | append_singleton exponent digit ih =>
      have squared : times polynomial ((idle polynomial)^[binary exponent] one)
          (digits ((idle polynomial)^[binary exponent] one)) =
            (idle polynomial)^[2 * binary exponent] one := by
        rw [← iterate_idle_eq_times constant unit, ← Function.iterate_add_apply, Nat.two_mul]
      have exponentEq : binary (exponent ++ [digit]) = 2 * binary exponent + digit.toNat := by
        simp [binary]
      have split : power polynomial one (exponent ++ [digit]) =
          if digit then idle polynomial (times polynomial (power polynomial one exponent)
              (digits (power polynomial one exponent)))
            else times polynomial (power polynomial one exponent)
              (digits (power polynomial one exponent)) := by
        simp [power]
      rw [split, ih, squared, exponentEq]
      cases digit with
      | false => rfl
      | true =>
          rw [if_pos rfl, Bool.toNat_true, ← Nat.succ_eq_add_one, Function.iterate_succ_apply']

/-- Idle steps that lead from one back to one do nothing at all. -/
theorem iterate_idle_eq_id_iff {count : Nat} :
    (idle polynomial)^[count] = id ↔ (idle polynomial)^[count] one = one := by
  constructor
  · intro same
    rw [same, id]
  · intro back
    funext register
    rw [iterate_idle_eq_times constant unit, back]
    exact (iterate_idle_eq_times constant unit 0 register).symm

/-- The order of the idle step, from its prime factors. -/
theorem orderOf_idle {count : Nat} (positive : 0 < count)
    (returns : (idle polynomial)^[count] one = one)
    (early : ∀ prime, Nat.Prime prime → prime ∣ count →
      (idle polynomial)^[count / prime] one ≠ one) :
    order polynomial = count := by
  apply orderOf_eq_of_pow_and_pow_div_prime positive
  · exact (iterate_idle_eq_id_iff constant unit).mpr returns
  · intro prime isPrime divides back
    exact early prime isPrime divides ((iterate_idle_eq_id_iff constant unit).mp back)

/-- Two bits with nothing set before, between and behind them make up a word
exactly when their distance is a multiple of the order. -/
theorem feed_two_eq_zero_iff (before between after : Nat) :
    feed polynomial 0#(width) (List.replicate before false ++ true ::
        (List.replicate between false ++ true :: List.replicate after false)) = 0#(width) ↔
      order polynomial ∣ between + 1 := by
  have first : shiftBit polynomial 0#(width) true = polynomial := by simp [shiftBit_eq]
  have second : ∀ register, shiftBit polynomial register true =
      idle polynomial register ^^^ polynomial :=
    fun register => shiftBit_eq_idle polynomial register true
  have run : feed polynomial 0#(width) (List.replicate before false ++ true ::
      (List.replicate between false ++ true :: List.replicate after false)) =
        (idle polynomial)^[after]
          ((idle polynomial)^[between + 1] polynomial ^^^ polynomial) := by
    rw [feed_append, feed_zero_replicate_false, feed, List.foldl_cons, first, ← feed, feed_append,
      feed_replicate_false, feed, List.foldl_cons, second, ← feed, feed_replicate_false,
      Function.iterate_succ_apply']
  have divides : order polynomial ∣ between + 1 ↔ (idle polynomial)^[between + 1] one = one :=
    orderOf_dvd_iff_pow_eq_one.trans (iterate_idle_eq_id_iff constant unit)
  rw [run, divides]
  constructor
  · intro empty
    have same : (idle polynomial)^[between + 1] polynomial = polynomial :=
      BitVec.xor_eq_zero_iff.mp (eq_zero_of_iterate_idle constant empty)
    apply iterate_idle_injective constant width
    rw [← Function.iterate_add_apply, Nat.add_comm, Function.iterate_add_apply, unit, same]
  · intro back
    have same : (idle polynomial)^[between + 1] polynomial = polynomial := by
      have comes := congrArg (idle polynomial)^[width] back
      rwa [← Function.iterate_add_apply, Nat.add_comm, Function.iterate_add_apply, unit] at comes
    rw [same, BitVec.xor_self, Function.iterate_fixed (idle_zero polynomial)]

end Order

/-- Where the two bits stand that are set. -/
theorem exists_two {bits : List Bool} (two : bits.count true = 2) :
    ∃ before between after, bits = List.replicate before false ++ true ::
      (List.replicate between false ++ true :: List.replicate after false) := by
  have clear : ∀ {bits : List Bool}, bits.count true = 0 →
      bits = List.replicate bits.length false := by
    intro bits none
    apply List.eq_replicate_of_mem
    intro bit member
    cases bit with
    | false => rfl
    | true => exact absurd member (List.count_eq_zero.mp none)
  have split : ∀ {bits : List Bool} {count : Nat}, bits.count true = count + 1 →
      ∃ before rest, bits = List.replicate before false ++ true :: rest ∧
        rest.count true = count := by
    intro bits count some
    have member : true ∈ bits := List.count_pos_iff.mp (by omega)
    rcases List.eq_append_cons_of_mem member with ⟨early, rest, rfl, absent⟩
    have none := List.count_eq_zero.mpr absent
    refine ⟨early.length, rest, by rw [← clear none], ?_⟩
    rw [List.count_append, none, List.count_cons_self] at some
    omega
  rcases split two with ⟨before, rest, rfl, one⟩
  rcases split one with ⟨between, rest, rfl, none⟩
  exact ⟨before, between, rest.length, by rw [← clear none]⟩

/-- Among fewer bits than the order no two alone make up a word. -/
theorem feed_two_ne_zero {polynomial one : BitVec width} (constant : polynomial.getLsbD 0 = true)
    (unit : (idle polynomial)^[width] one = polynomial) {bits : List Bool}
    (two : bits.count true = 2)
    (short : bits.length ≤ order polynomial) :
    feed polynomial 0#(width) bits ≠ 0#(width) := by
  rcases exists_two two with ⟨before, between, after, rfl⟩
  rw [Ne, feed_two_eq_zero_iff constant unit]
  intro divides
  have least := Nat.le_of_dvd (Nat.succ_pos between) divides
  simp only [List.length_append, List.length_replicate, List.length_cons] at short
  omega

end Aurum.Wire.Crc
