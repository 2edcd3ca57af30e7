import RenderLoop.Spirv.Constant
import RenderLoop.Binary32

/-!
# RenderLoop — operations on the constants of a shader module

A module can define a constant as the result of an **operation** on others
(`Constant.evaluate`). The type that is asked for decides which operations there
are: those that give a 32-bit integer, a single-precision number or a truth value.
Only the conversions of integers, which keep their kind, are for all widths.

Integers of 32 bits are taken as the numbers they are, with a sign or without one,
both kinds together, and what comes out is brought into the type asked for, modulo
`2 ^ 32`. What an operation passes through are integers of 64 bits. Quotients and
remainders by zero, products that 64 bits with a sign cannot hold, shifts by 32 or
more, and a negative that is too large have no result.
-/

namespace RenderLoop.Spirv

namespace Operation

-- ---------------------------------------------------------------------------
-- Integers
-- ---------------------------------------------------------------------------

/-- A number modulo `2 ^ 64`. -/
def longWord (n : Int) : Int := n % 18446744073709551616

/-- A number that 64 bits with a sign can hold. -/
def fitting? (n : Int) : Option Int :=
  if -9223372036854775808 ≤ n ∧ n < 9223372036854775808 then some n else none

/-- A quotient or remainder; there is none by zero. -/
def divided (f : Int → Int → Int) (n m : Int) : Option Int := if m = 0 then none else some (f n m)

/-- A shift of the lowest 32 bits, which is by less than that. -/
def shifted (f : UInt32 → UInt32 → UInt32) (n m : Int) : Option Int :=
  if UInt32.ofInt m < 32 then some (f (UInt32.ofInt n) (UInt32.ofInt m)).toNat else none

/-- An operation on the lowest 32 bits. -/
def bitwise (f : UInt32 → UInt32 → UInt32) (n m : Int) : Option Int :=
  some (f (UInt32.ofInt n) (UInt32.ofInt m)).toNat

/-- The operations on two integers that give one. A remainder that has a sign is given as an integer
with a sign alone. -/
def onIntegers? (opcode : Nat) (signed : Bool) : Option (Int → Int → Option Int) :=
  match opcode, signed with
  -- sums, products, quotients and remainders
  | 128, _ => some fun n m => some (n + m)
  | 130, _ => some fun n m => some (n - m)
  | 132, _ => some fun n m => fitting? (n * m)
  | 134, _ => some fun n m => divided (· / ·) (longWord n) (longWord m)
  | 135, _ => some (divided Int.tdiv)
  | 137, _ => some fun n m => divided (· % ·) (longWord n) (longWord m)
  | 138, true => some (divided Int.tmod)
  | 139, true => some (divided (· % ·))
  -- shifts and bitwise operations
  | 194, _ => some (shifted (· >>> ·))
  | 195, _ => some (shifted fun n m => (n.toInt32 >>> m.toInt32).toUInt32)
  | 196, _ => some (shifted (· <<< ·))
  | 197, _ => some (bitwise (· ||| ·))
  | 198, _ => some (bitwise (· ^^^ ·))
  | 199, _ => some (bitwise (· &&& ·))
  | _, _ => none

/-- The number that an integer of any width is, if it is of the kind asked for: with a sign or without
one. -/
def integer? (signed : Bool) (c : Constant) : Option Int :=
  match c.type with
  | .int width true =>
    if signed then some (if c.bits < 1 <<< (width - 1) then c.bits else c.bits - 1 <<< width)
    else none
  | .int _ false => if signed then none else some c.bits
  | _ => none

/-- Whether an operation converts integers without a sign, or with one, to another width. -/
def convertsIntegers (opcode : Nat) (signed : Bool) : Bool := opcode == if signed then 114 else 113

/-- The bits of a constant that is converted to an integer of a width, of the same kind. -/
def converted? (width : Nat) (signed : Bool) (c : Constant) : Option Nat :=
  if Constant.isIntegerWidth width then
    (integer? signed c).map fun n : Int => (n % (Nat.pow 2 width : Nat)).toNat
  else none

/-- The negative of a 32-bit integer with a sign; the least one has none. -/
def negative (n : Int) : Option Int := if n = -2147483648 then none else some (-n)

/-- The operations on one constant that give an integer: conversions of single-precision numbers, the
same bits, the negative, the complement. -/
def onConstant? (opcode : Nat) (signed : Bool) (c : Constant) : Option (Option Int) :=
  match opcode, signed with
  | 109, false => c.float?.map fun w => some (Float32.ofBits w).toUInt32.toNat
  | 110, true => c.float?.map fun w => some (Float32.ofBits w).toInt32.toInt
  | 124, _ => c.pattern?.map fun w => some w.toNat
  | 126, true => if c.type = .int 32 true then c.number?.map negative else none
  | 200, _ => c.number?.map fun n => some (-n - 1)
  | _, _ => none

-- ---------------------------------------------------------------------------
-- Single-precision numbers
-- ---------------------------------------------------------------------------

/-- The size of a finite number, as a natural number times a power of two. -/
def significand (x : Float32) : Nat × Int :=
  let bits := x.toBits.toNat
  let exponent := bits / 0x800000 % 256
  let fraction := bits % 0x800000
  if exponent = 0 then (fraction, -149) else (fraction + 0x800000, exponent - 150)

/-- What is left of a number after taking away another as often as it fits; it has the sign of the
first. -/
def floatRemainder (x y : Float32) : Float32 :=
  if x.isNaN || y.isNaN || x.isInf || y == 0 then 0 / 0
  else if y.isInf then x
  else
    let (m, i) := significand x
    let (n, j) := significand y
    let least := min i j
    let rest := (m <<< (i - least).toNat) % (n <<< (j - least).toNat)
    let size := (Float32.ofNat rest).scaleB least
    if x.toBits ≥ 0x80000000 then -size else size

/-- The remainder that is not negative. -/
def floatModulus (x y : Float32) : Float32 :=
  let rest := floatRemainder x y
  if rest < 0 then rest + y.abs else rest

/-- The operations on two single-precision numbers that give one. -/
def onFloats? (opcode : Nat) : Option (Float32 → Float32 → Float32) :=
  match opcode with
  | 129 => some (· + ·)
  | 131 => some (· - ·)
  | 133 => some (· * ·)
  | 136 => some (· / ·)
  | 140 => some floatRemainder
  | 141 => some floatModulus
  | _ => none

/-- Whether a pattern stands for no number. -/
def isNaN (w : Binary32) : Bool := w &&& 0x7fffffff > 0x7f800000

/-- The pattern for no number that is passed on without notice. -/
def quiet (w : Binary32) : Binary32 := w ||| 0x400000

/-- The pattern that stands for the result of an operation that has none. -/
def undefined : Binary32 := 0xffc00000

/-- The pattern of a result. What is no number stays as it is, the first of two. -/
def patternOf (f : Float32 → Float32 → Float32) (a b : Binary32) : Binary32 :=
  if isNaN a then quiet a
  else if isNaN b then quiet b
  else
    let x := f (Float32.ofBits a) (Float32.ofBits b)
    if x.isNaN then undefined else x.toBits

/-- The results of operations on one constant that are single-precision numbers. The negative is the
same pattern with another sign, whatever it stands for. -/
def floatOf? (opcode : Nat) (c : Constant) : Option Binary32 :=
  match opcode with
  | 111 => if c.type = .int 32 true then c.number?.map fun n => (Int32.ofInt n).toFloat32.toBits
    else none
  | 112 => if c.type = .int 32 false then c.number?.map fun n => (UInt32.ofInt n).toFloat32.toBits
    else none
  | 115 => c.float?
  | 124 => c.pattern?
  | 127 => c.float?.map (· ^^^ 0x80000000)
  | _ => none

-- ---------------------------------------------------------------------------
-- Truth values
-- ---------------------------------------------------------------------------

/-- The comparisons of two integers: whether they are equal, and whether they differ. -/
def comparison? (opcode : Nat) : Option (Int → Int → Bool) :=
  match opcode with
  | 170 => some fun n m => n == m
  | 171 => some fun n m => n != m
  | _ => none

end Operation

-- ---------------------------------------------------------------------------
-- Results
-- ---------------------------------------------------------------------------

namespace Constant

open Operation

/-- The bits of a 32-bit integer that an operation gives: the operation may be unfit for its operands,
or have no result for them. -/
def integerBits (opcode : Nat) (outcome : Option (Option Int)) : Except Fault Nat :=
  match outcome with
  | some (some n) => .ok (UInt32.ofInt n).toNat
  | some none => .error (.noResult opcode)
  | none => .error (.unfitOperands opcode)

/-- The bits of the result of an operation. -/
def resultBits (opcode : Nat) (result : Scalar) (operands : List Constant) : Except Fault Nat :=
  let unfit : Except Fault Nat := .error (.unfitOperands opcode)
  match result, operands with
  | .int width signed, [a] =>
    if convertsIntegers opcode signed then
      match converted? width signed a with
      | some bits => .ok bits
      | none => unfit
    else if width = 32 then integerBits opcode (onConstant? opcode signed a)
    else unfit
  | .int 32 signed, [a, b] =>
    match onIntegers? opcode signed, a.number?, b.number? with
    | some f, some n, some m => integerBits opcode (some (f n m))
    | _, _, _ => unfit
  | .float 32, [a] =>
    match floatOf? opcode a with
    | some w => .ok w.toNat
    | none => unfit
  | .float 32, [a, b] =>
    match onFloats? opcode, a.float?, b.float? with
    | some f, some x, some y => .ok (patternOf f x y).toNat
    | _, _, _ => unfit
  | .bool, [a, b] =>
    match comparison? opcode, a.number?, b.number? with
    | some f, some n, some m => .ok (f n m).toNat
    | _, _, _ => unfit
  | _, _ => unfit

/-- The result of an operation on constants, as a constant of the type that is asked for. -/
def evaluate (opcode : Nat) (result : Scalar) (operands : List Constant) :
    Except Fault Constant :=
  (resultBits opcode result operands).map (⟨result, ·⟩)

/-- A result is of the type that was asked for. -/
theorem type_of_evaluate {opcode : Nat} {result : Scalar} {operands : List Constant}
    {c : Constant} (h : evaluate opcode result operands = .ok c) : c.type = result := by
  unfold evaluate at h
  cases hBits : resultBits opcode result operands with
  | error e =>
    rw [hBits] at h
    cases h
  | ok bits =>
    rw [hBits] at h
    cases h
    rfl

end Constant

end RenderLoop.Spirv
