import RenderLoop.Spirv.Instruction

/-!
# RenderLoop — the constants of a shader module

A **constant** is a scalar: its type, and its bits as a natural number. Its value
stands in the words of an instruction (`Constant.ofWords`) or is the result of an
operation on other constants.
-/

namespace RenderLoop.Spirv

/-- A scalar type. -/
inductive Scalar where
  | void
  | bool
  | int (bits : Nat) (signed : Bool)
  | float (bits : Nat)
  deriving DecidableEq, Repr, Inhabited

/-- The size of a scalar in bytes. -/
def Scalar.size? : Scalar → Option Nat
  | void | bool => none
  | int bits _ | float bits => some (bits / 8)

/-- A scalar constant. -/
structure Constant where
  type : Scalar
  bits : Nat
  deriving DecidableEq, Repr, Inhabited

namespace Constant

def ofBool (b : Bool) : Constant := ⟨.bool, b.toNat⟩

/-- The number that a 32-bit integer is, with its sign if its type has one. -/
def number? (c : Constant) : Option Int :=
  match c.type with
  | .int 32 false => some c.bits
  | .int 32 true => some (Int32.ofNat c.bits).toInt
  | _ => none

/-- The pattern of a 32-bit integer or a single-precision number. -/
def pattern? (c : Constant) : Option UInt32 :=
  match c.type with
  | .int 32 _ | .float 32 => some (UInt32.ofNat c.bits)
  | _ => none

/-- The pattern of a single-precision number. -/
def float? (c : Constant) : Option UInt32 :=
  match c.type with
  | .float 32 => some (UInt32.ofNat c.bits)
  | _ => none

/-- The value of a constant that can be the length of an array: a positive 32-bit integer. -/
def length? (c : Constant) : Option Nat :=
  match c.number? with
  | some n => if 0 < n then some n.toNat else none
  | none => none

/-- The lowest bits of a number. -/
def lowBits (width n : Nat) : Nat := n % (1 <<< width)

/-- Whether constants can be integers of a width. -/
def isIntegerWidth (width : Nat) : Bool := [8, 16, 32, 64].contains width

/-- Whether constants can be floats of a width. -/
def isFloatWidth (width : Nat) : Bool := [16, 32, 64].contains width

/-- The constant of a type that some words stand for, lowest word first. A truth value is true
unless all its words are zero; a number takes as many words as its width asks for. -/
def ofWords (type : Scalar) (words : List UInt32) : Except Fault Constant :=
  let bits := natOfBytes (bytesOfWords words)
  let ofWidth (width : Nat) (isWidth : Bool) : Except Fault Constant :=
    if isWidth && words.length == (width + 31) / 32 then .ok ⟨type, lowBits width bits⟩
    else .error .unfitConstant
  match type with
  | .void => .error .unfitConstant
  | .bool => .ok (ofBool (bits != 0))
  | .int width _ => ofWidth width (isIntegerWidth width)
  | .float width => ofWidth width (isFloatWidth width)

end Constant

end RenderLoop.Spirv
