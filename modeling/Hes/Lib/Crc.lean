import Mathlib.Logic.Function.Iterate

set_option autoImplicit false

namespace Crc

variable {width size : Nat}

/-- One step of a reflected remainder: the lowest bit leaves it. -/
def shift (poly register : BitVec width) : BitVec width :=
  if register.getLsbD 0 then (register >>> 1) ^^^ poly else register >>> 1

/-- The bits of a symbol, the lowest first. -/
def feed (poly register : BitVec width) (symbol : BitVec size) : BitVec width :=
  (shift poly)^[size] (register ^^^ symbol.setWidth width)

def remainder (poly register : BitVec width) (symbols : List (BitVec size)) : BitVec width :=
  symbols.foldl (feed poly) register

/-- The low bits of a register, as many as a symbol has. -/
def low (size : Nat) (register : BitVec width) : BitVec width :=
  (register.setWidth size).setWidth width

theorem remainder_append (poly register : BitVec width) (first second : List (BitVec size)) :
    remainder poly register (first ++ second) = remainder poly (remainder poly register first) second :=
  List.foldl_append

theorem shift_xor (poly first second : BitVec width) :
    shift poly (first ^^^ second) = shift poly first ^^^ shift poly second := by
  apply BitVec.eq_of_getLsbD_eq
  intro index _
  -- the polynomial comes in twice where both registers are odd
  cases odd : first.getLsbD 0 <;> cases other : second.getLsbD 0 <;>
    simp [shift, odd, other] <;> grind

theorem shifts_xor (poly first second : BitVec width) (count : Nat) :
    (shift poly)^[count] (first ^^^ second) =
      (shift poly)^[count] first ^^^ (shift poly)^[count] second := by
  induction count with
  | zero => rfl
  | succ count ih => simp only [Function.iterate_succ_apply', ih, shift_xor]

/-- Without a low bit the polynomial never comes in. -/
theorem shifts_high (poly register : BitVec width) (count : Nat)
    (clear : ∀ index < count, register.getLsbD index = false) :
    (shift poly)^[count] register = register >>> count := by
  induction count with
  | zero => simp
  | succ count ih =>
    have even : (register >>> count).getLsbD 0 = false := by
      simpa using clear count (by omega)
    rw [Function.iterate_succ_apply', ih fun index below => clear index (by omega), shift, even]
    simp [BitVec.shiftRight_add]

theorem low_getLsbD (register : BitVec width) (index : Nat) :
    (low size register).getLsbD index = (decide (index < size) && register.getLsbD index) := by
  rw [low, BitVec.getLsbD_setWidth, BitVec.getLsbD_setWidth]
  by_cases inside : index < width
  next => simp [inside]
  next => simp [BitVec.getLsbD_of_ge register index (by omega)]

theorem low_mask (register : BitVec width) :
    low size register = register &&& (BitVec.allOnes size).setWidth width := by
  apply BitVec.eq_of_getLsbD_eq
  intro index inside
  rw [low_getLsbD, BitVec.getLsbD_and, BitVec.getLsbD_setWidth, BitVec.getLsbD_allOnes, Bool.and_comm]
  simp [inside]

/-- As many steps as a symbol has bits: those of its low bits, and the rest moved down. -/
theorem shifts_split (poly register : BitVec width) (size : Nat) :
    (shift poly)^[size] register = (register >>> size) ^^^ (shift poly)^[size] (low size register) := by
  have parts : register = (register ^^^ low size register) ^^^ low size register := by
    rw [BitVec.xor_assoc, BitVec.xor_self, BitVec.xor_zero]
  have clear : ∀ index < size, (register ^^^ low size register).getLsbD index = false := by
    intro index below
    simp [low_getLsbD, below]
  have moved : (register ^^^ low size register) >>> size = register >>> size := by
    apply BitVec.eq_of_getLsbD_eq
    intro index _
    simp [low_getLsbD, show ¬ size + index < size by omega]
  calc (shift poly)^[size] register
    _ = (shift poly)^[size] (register ^^^ low size register) ^^^
        (shift poly)^[size] (low size register) := by
      conv => lhs; rw [parts]
      exact shifts_xor poly _ _ size
    _ = _ := by rw [shifts_high poly _ size clear, moved]

/-- One look into a table of the symbols' remainders does all the steps of a symbol. -/
theorem feed_table (poly register : BitVec width) (symbol : BitVec size) :
    feed poly register symbol =
      (register >>> size) ^^^ (shift poly)^[size] (low size (register ^^^ symbol.setWidth width)) := by
  have above : (symbol.setWidth width) >>> size = BitVec.ofNat width 0 := by
    apply BitVec.eq_of_getLsbD_eq
    intro index _
    simp
  rw [feed, shifts_split, BitVec.ushiftRight_xor_distrib, above, BitVec.xor_zero]

end Crc
