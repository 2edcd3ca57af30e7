import RenderLoop.Bytes
import RenderLoop.Spirv.Standard

/-!
# RenderLoop — the instructions of a shader module

A **module** is a header of five words and a sequence of instructions. The first
word of an instruction holds its length in words and its opcode; the other words
are its operands. A text among the operands ends with the first word whose highest
byte is zero, and consists of the bytes before its first zero byte.

The sequence ends where the words end, and also before an instruction that is
longer than what is left. An instruction that claims to have no words at all is a
fault.
-/

namespace RenderLoop.Spirv

/-- Why a module cannot be read. -/
inductive Fault where
  /-- There are too few words for a header. -/
  | noHeader
  | emptyInstruction
  | missingOperand
  | invalidText
  /-- An opcode that the standard does not assign. -/
  | unassignedOpcode (opcode : Nat)
  /-- Another number that the standard does not assign. -/
  | unassigned (what : String) (number : Nat)
  /-- A number that the standard assigns to something that is not supported. -/
  | unsupported (what : String) (number : Nat)
  | duplicate (what : String) (id : UInt32)
  | unknown (what : String) (id : UInt32)
  /-- A constant whose words do not fit its type. -/
  | unfitConstant
  /-- An operation on constants of types that it does not take or does not give. -/
  | unfitOperands (opcode : Nat)
  /-- An operation that has no result for its operands, such as a division by zero. -/
  | noResult (opcode : Nat)
  /-- Something that can be neither read nor written. -/
  | inaccessible (id : UInt32)
  /-- An instruction where it does not belong. -/
  | misplaced (opcode : Nat)
  deriving DecidableEq, Repr, Inhabited

namespace Fault

def message : Fault → String
  | noHeader => "module without a header"
  | emptyInstruction => "instruction without words"
  | missingOperand => "instruction with too few operands"
  | invalidText => "text is not valid"
  | unassignedOpcode opcode => s!"opcode {opcode} is not assigned"
  | unassigned what number => s!"{what} {number} is not assigned"
  | unsupported what number => s!"{what} {number} is not supported"
  | duplicate what id => s!"{what} {id} is defined twice"
  | unknown what id => s!"{what} {id} is not defined"
  | unfitConstant => "constant does not fit its type"
  | unfitOperands opcode => s!"operands of operation {opcode} do not fit"
  | noResult opcode => s!"operation {opcode} has no result"
  | inaccessible id => s!"{id} can be neither read nor written"
  | misplaced opcode => s!"instruction {opcode} is out of place"

/-- Whether a fault is fatal: the words are then not even a faulty module, or say nothing that
could be worked out. -/
def isFatal : Fault → Bool
  | noHeader | unassignedOpcode _ | noResult _ => true
  | _ => false

end Fault

/-- An instruction. -/
structure Instruction where
  opcode : Nat
  operands : List UInt32
  deriving DecidableEq, Repr, Inhabited

/-- The instructions of a module, up to its end or to an instruction without words. -/
inductive Stream where
  | done
  | broken
  | next (i : Instruction) (rest : Stream)
  deriving DecidableEq, Repr, Inhabited

/-- The number of words of the header. -/
def headerLength : Nat := 5

/-- The instructions in the words after the header. -/
def Stream.ofWords : List UInt32 → Stream
  | [] => .done
  | word :: rest =>
    let count := (word >>> 16).toNat
    if count = 0 then .broken
    else if rest.length < count - 1 then .done
    else .next ⟨(word &&& 0xffff).toNat, rest.take (count - 1)⟩ (ofWords (rest.drop (count - 1)))
  termination_by words => words.length
  decreasing_by simp only [List.length_drop, List.length_cons]; omega

namespace Instruction

/-- The operand at a position. -/
def operand (i : Instruction) (n : Nat) : Except Fault UInt32 :=
  match i.operands[n]? with
  | some word => .ok word
  | none => .error .missingOperand

/-- The words of a text at the front of some words, up to the first word whose highest byte is
zero; `none` if there is no such word. -/
def textWords : List UInt32 → Option (List UInt32)
  | [] => none
  | word :: rest => if word < 0x1000000 then some [word] else (textWords rest).map (word :: ·)

/-- The text that begins at a position of the operands. -/
def text (i : Instruction) (n : Nat) : Except Fault String :=
  match textWords (i.operands.drop n) with
  | none => .error .invalidText
  | some words =>
    let bytes := (bytesOfWords words).takeWhile (· ≠ 0)
    match String.fromUTF8? (ByteArray.mk bytes.toArray) with
    | some text => .ok text
    | none => .error .invalidText

/-- An operand that is one of some assigned numbers. -/
def assigned (i : Instruction) (n : Nat) (what : String) (isAssigned : Nat → Bool) :
    Except Fault Nat := do
  let number := (← i.operand n).toNat
  if isAssigned number then .ok number else .error (.unassigned what number)

end Instruction

end RenderLoop.Spirv
