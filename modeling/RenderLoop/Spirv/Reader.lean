import RenderLoop.Spirv.Declarations

/-!
# RenderLoop — reading a shader module

The instructions of a module come in **sections**, in a fixed order, any of which
may be empty. A reader takes in one instruction at a time: it moves on to the
first section, from the current one on, that the instruction belongs to, and notes
what the instruction declares. In the last section the functions follow one
another, and nothing but source lines stands between them. A function counts once
it ends; one that begins inside another takes its place.
-/

namespace RenderLoop.Spirv

/-- The sections of a module, in order. -/
inductive Section where
  | capabilities
  | extensions
  | imports
  | memoryModel
  | entryPoints
  | executionModes
  | debug
  | annotations
  | declarations
  | functions
  deriving DecidableEq, Repr, Inhabited

namespace Section

/-- All sections, in order. -/
def all : List Section :=
  [capabilities, extensions, imports, memoryModel, entryPoints, executionModes, debug,
    annotations, declarations, functions]

/-- Whether instructions with an opcode belong to a section. -/
def admits (s : Section) (opcode : Nat) : Bool :=
  match s with
  | capabilities => opcode == 17
  | extensions => opcode == 10
  | imports => opcode == 11
  | memoryModel => opcode == 14
  | entryPoints => opcode == 15
  | executionModes => opcode == 16 || opcode == 331
  | debug => inRanges [(2, 7), (330, 330)] opcode
  | annotations => inRanges [(71, 75), (332, 332), (5632, 5633)] opcode
  | declarations =>
    Standard.isTypeOpcode opcode || Standard.isValueOpcode opcode
      || Standard.isCompositeOpcode opcode || Standard.isRemarkOpcode opcode
      || opcode == 52 || opcode == 59
  | functions => opcode == 54 || Standard.isLineOpcode opcode

/-- The first of some sections that admits an opcode, with those after it. -/
def seek (opcode : Nat) : List Section → Option (Section × List Section)
  | [] => none
  | s :: rest => if s.admits opcode then some (s, rest) else seek opcode rest

end Section

/-- The state of reading a module. -/
structure Reader where
  declarations : Declarations := {}
  /-- The sections that are not over yet, the current one first. -/
  ahead : List Section := Section.all
  /-- The function that is being read. -/
  function : Option UInt32 := none
  deriving DecidableEq, Repr, Inhabited

namespace Declarations

/-- Takes in an import. -/
def addImport (d : Declarations) (i : Instruction) : Except Fault Declarations := do
  let id ← i.operand 0
  let _ ← i.text 1
  if d.imports.contains id then .error (.duplicate "import" id)
  else .ok { d with imports := id :: d.imports }

/-- Takes in the memory model: logical or physical addresses, and one of the two models for
graphics. -/
def checkMemoryModel (i : Instruction) : Except Fault Unit := do
  let _ ← i.assigned 0 "addressing model" fun n => n == 0 || n == 5348
  let _ ← i.assigned 1 "memory model" fun n => n == 1 || n == 3

/-- Takes in an entry point. -/
def addEntryPoint (d : Declarations) (i : Instruction) : Except Fault Declarations := do
  let _ ← i.assigned 0 "execution model" Standard.isExecutionModel
  let function ← i.operand 1
  let _ ← i.text 2
  if d.entryPoints.contains function then .error (.duplicate "entry point" function)
  else .ok { d with entryPoints := d.entryPoints ++ [function] }

/-- Takes in an execution mode, which has to be that of an entry point. Its parameters are literal,
or constants that are defined later. -/
def takeMode (d : Declarations) (i : Instruction) : Except Fault Declarations := do
  let function ← i.operand 0
  let _ ← i.assigned 1 "execution mode" Standard.isExecutionMode
  if !d.entryPoints.contains function then .error (.unknown "entry point" function)
  else if i.opcode = 331 then
    .ok { d with modeConstants := d.modeConstants ++ i.operands.drop 2 }
  else .ok d

/-- Takes in a name. Other debugging instructions say nothing of interest. -/
def takeName (d : Declarations) (i : Instruction) : Except Fault Declarations := do
  match i.opcode with
  | 5 => return d.addName ⟨← i.operand 0, none⟩ (← i.text 1)
  | 6 => return d.addName ⟨← i.operand 0, some (← i.operand 1)⟩ (← i.text 2)
  | _ => return d

/-- Takes in a decoration. Groups of decorations are passed over. -/
def takeDecoration (d : Declarations) (i : Instruction) : Except Fault Declarations := do
  match i.opcode with
  | 71 => d.decorate ⟨← i.operand 0, none⟩ i 1
  | 72 => d.decorate ⟨← i.operand 0, some (← i.operand 1)⟩ i 2
  | _ => return d

/-- Takes in an instruction of a section. -/
def take (d : Declarations) (s : Section) (i : Instruction) : Except Fault Declarations :=
  match s with
  | .capabilities | .extensions => .ok d
  | .imports => d.addImport i
  | .memoryModel => (checkMemoryModel i).map fun _ => d
  | .entryPoints => d.addEntryPoint i
  | .executionModes => d.takeMode i
  | .debug => d.takeName i
  | .annotations => d.takeDecoration i
  | .declarations =>
    if i.opcode = 59 then d.defineVariable i
    else if i.opcode = 52 then d.defineResult i
    else if Standard.isValueOpcode i.opcode then d.defineConstant i
    else d.defineType i
  | .functions => .ok d

end Declarations

namespace Reader

/-- Takes in an instruction inside a function: it begins another one, ends this one, or belongs to
it. -/
def stepInside (r : Reader) (function : UInt32) (i : Instruction) : Except Fault Reader := do
  match i.opcode with
  | 54 => return { r with function := some (← i.operand 1) }
  | 56 => return { r with declarations := ← r.declarations.addFunction function, function := none }
  | _ => return { r with declarations := ← r.declarations.takeInside i }

/-- Takes in an instruction outside functions. Only one instruction gives the memory model; the
section is over after it. -/
def stepOutside (r : Reader) (i : Instruction) : Except Fault Reader := do
  match Section.seek i.opcode r.ahead with
  | none => .error (.misplaced i.opcode)
  | some (s, later) =>
    let declarations ← r.declarations.take s i
    let ahead := if s = .memoryModel then later else s :: later
    let function ← if i.opcode = 54 then some <$> i.operand 1 else pure none
    return ⟨declarations, ahead, function⟩

/-- Takes in an instruction. -/
def step (r : Reader) (i : Instruction) : Except Fault Reader :=
  match r.function with
  | some function => r.stepInside function i
  | none => r.stepOutside i

/-- Takes in all instructions. -/
def run (r : Reader) : Stream → Except Fault Reader
  | .done => .ok r
  | .broken => .error .emptyInstruction
  | .next i rest =>
    if Standard.isOpcode i.opcode then do (← r.step i).run rest
    else .error (.unassignedOpcode i.opcode)

end Reader

/-- What a module declares. The constants that execution modes refer to have to be among it. -/
def Declarations.ofWords (words : List UInt32) : Except Fault Declarations := do
  if words.length < headerLength then .error .noHeader
  else
    let d := (← ({} : Reader).run (Stream.ofWords (words.drop headerLength))).declarations
    let _ ← d.constantsOf d.modeConstants
    return d

end RenderLoop.Spirv
