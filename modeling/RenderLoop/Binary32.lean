/-!
# RenderLoop — single-precision numbers as bit patterns

Coordinates, depths and colours are single-precision numbers that the library
passes on without computing with them, so they are kept as **bit patterns**:
a sign bit, eight exponent bits with bias 127, and 23 fraction bits. Two patterns
are compared as patterns.

The one conversion needed is that of a whole number of pixels
(`Binary32.ofNat`): the nearest number that 24 significant bits can hold, a tie
going to the even one.
-/

namespace RenderLoop

/-- A single-precision number, as its 32-bit pattern. -/
abbrev Binary32 := UInt32

namespace Binary32

/-- The pattern of 1. -/
def one : Binary32 := 0x3f800000

/-- The nearest multiple of `2 ^ shift`, in units of it, a tie going to the even one. -/
def roundShift (n shift : Nat) : Nat :=
  let quotient := n >>> shift
  let rest := n - quotient <<< shift
  let half := (1 <<< shift) / 2
  if rest > half || (rest == half && quotient % 2 == 1) then quotient + 1 else quotient

/-- The pattern of the number nearest to `n`. A significand that rounds up to the next power of
two carries into the exponent, as it should. -/
def ofNat (n : Nat) : Binary32 :=
  if n = 0 then 0
  else
    let exponent := n.log2
    let significand :=
      if exponent ≤ 23 then n <<< (23 - exponent) else roundShift n (exponent - 23)
    UInt32.ofNat (((exponent + 126) <<< 23) + significand)

end Binary32

end RenderLoop
