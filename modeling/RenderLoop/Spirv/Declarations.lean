import RenderLoop.Spirv.Operation
import RenderLoop.SortedMap
import RenderLoop.Vertex.Format

/-!
# RenderLoop — the declarations of a shader module

What the instructions before the functions of a module declare: entry points,
names, decorations, types, constants and variables. Instructions name each other
by ids. Only what the resource interface is derived from is kept.

A type is kept with its **size** in bytes, where it has one: scalars, vectors and
pointers, and, with the strides that decorations give, matrices and arrays. A
structure ends with its last member. An array, a structure or a pointer of an
unknown type is left undefined; a vector or a matrix of one is a fault. An array of
fixed length can be written if its elements can.

Variables, types, constants and functions are each defined once. Only a pointer can
be announced before it is defined; until then it is an address of something unknown.
-/

namespace RenderLoop.Spirv

-- ---------------------------------------------------------------------------
-- Types
-- ---------------------------------------------------------------------------

/-- A member of a structure. -/
structure Member where
  name : Option String
  offset : Option Nat
  size : Option Nat
  deriving DecidableEq, Repr, Inhabited

/-- The form of a type. -/
inductive Shape where
  | scalar (s : Scalar)
  | vector (s : Scalar) (count : Nat)
  | matrix (s : Scalar) (rows columns : Nat)
  | array (element : UInt32)
  | struct (members : List Member)
  | pointer (storage : Nat) (target : UInt32)
  /-- A pointer that is only announced. -/
  | address
  | image
  /-- What an earlier pass left at the same place. -/
  | attachment
  | sampler
  /-- An image together with its sampler. -/
  | sampledImage
  | accelerationStructure
  | rayQuery
  deriving DecidableEq, Repr, Inhabited

/-- A type: its form, and its size in bytes if it has one. -/
structure TypeInfo where
  shape : Shape
  size : Option Nat := none
  deriving DecidableEq, Repr, Inhabited

/-- A variable outside functions: the type it holds, and its storage class. -/
structure Variable where
  target : UInt32
  storage : Nat
  deriving DecidableEq, Repr, Inhabited

/-- What a decoration is attached to: an id, or a member of a structure. -/
structure Target where
  id : UInt32
  member : Option UInt32 := none
  deriving DecidableEq, Repr, Inhabited

/-- What a module declares. -/
structure Declarations where
  /-- The sets of instructions that are imported. -/
  imports : List UInt32 := []
  /-- The functions at which execution can begin. -/
  entryPoints : List UInt32 := []
  /-- The constants that execution modes refer to. -/
  modeConstants : List UInt32 := []
  names : List (Target × String) := []
  decorations : List ((Target × Nat) × List UInt32) := []
  types : SortedMap UInt32 TypeInfo := {}
  /-- The scalar constants. -/
  constants : SortedMap UInt32 Constant := {}
  globals : SortedMap UInt32 Variable := {}
  functions : List UInt32 := []
  /-- The pointers into variables that functions make. -/
  accessChains : List UInt32 := []
  deriving DecidableEq, Repr, Inhabited

-- ---------------------------------------------------------------------------
-- Decorations and storage
-- ---------------------------------------------------------------------------

namespace Decoration

def specId : Nat := 1
def bufferBlock : Nat := 3
def arrayStride : Nat := 6
def matrixStride : Nat := 7
def nonWritable : Nat := 24
def nonReadable : Nat := 25
def location : Nat := 30
def binding : Nat := 33
def descriptorSet : Nat := 34
def offset : Nat := 35

end Decoration

namespace StorageClass

def uniformConstant : Nat := 0
def input : Nat := 1
def uniform : Nat := 2
def storageBuffer : Nat := 12

end StorageClass

namespace Declarations

/-- The name of an id or member. -/
def nameOf (d : Declarations) (t : Target) : Option String := d.names.lookup t

/-- Whether a target has a decoration. -/
def decorated (d : Declarations) (t : Target) (decoration : Nat) : Bool :=
  (d.decorations.lookup (t, decoration)).isSome

/-- The value of a decoration. -/
def decoration? (d : Declarations) (t : Target) (decoration : Nat) : Option UInt32 :=
  (d.decorations.lookup (t, decoration)).bind List.head?

/-- Names a target. Its first name counts, and an empty one is none. -/
def addName (d : Declarations) (t : Target) (name : String) : Declarations :=
  if name.isEmpty || (d.nameOf t).isSome then d else { d with names := (t, name) :: d.names }

/-- Decorates a target, with what is left of the operands from position `n` on. -/
def decorate (d : Declarations) (t : Target) (i : Instruction) (n : Nat) :
    Except Fault Declarations := do
  let decoration ← i.assigned n "decoration" Standard.isDecoration
  if d.decorated t decoration then .error (.duplicate "decoration of" t.id)
  else .ok { d with
    decorations := ((t, decoration), i.operands.drop (n + 1)) :: d.decorations }

/-- A member that is decorated as neither readable nor writable is a fault. -/
def checkAccess (d : Declarations) (t : Target) : Except Fault Unit :=
  if d.decorated t Decoration.nonReadable && d.decorated t Decoration.nonWritable then
    .error (.inaccessible t.id)
  else .ok ()

-- ---------------------------------------------------------------------------
-- Defining types
-- ---------------------------------------------------------------------------

/-- The form of a type. -/
def shape? (d : Declarations) (id : UInt32) : Option Shape := (d.types.get? id).map (·.shape)

/-- Defines a type. -/
def define (d : Declarations) (id : UInt32) (info : TypeInfo) : Except Fault Declarations :=
  if d.types.contains id then .error (.duplicate "type" id)
  else .ok { d with types := d.types.insert id info }

/-- The size of a pointer. -/
def pointerSize : Nat := 8

/-- The storage class that a pointer is of. Uniform data that can be written, as their type is marked
when the pointer is defined, are in a buffer of their own class. -/
def pointerStorage (d : Declarations) (storage : Nat) (target : UInt32) : Nat :=
  if storage = StorageClass.uniform ∧ d.decorated ⟨target, none⟩ Decoration.bufferBlock then
    StorageClass.storageBuffer
  else storage

/-- Defines a pointer, which may have been announced. -/
def definePointer (d : Declarations) (id : UInt32) (storage : Nat) (target : UInt32) :
    Except Fault Declarations :=
  let info : TypeInfo := ⟨.pointer (d.pointerStorage storage target) target, some pointerSize⟩
  if !d.types.contains target then .ok d
  else if d.shape? id = some .address then .ok { d with types := d.types.insert id info }
  else d.define id info

/-- The type of a scalar. -/
def scalarInfo (s : Scalar) : TypeInfo := ⟨.scalar s, s.size?⟩

/-- The type of a vector. -/
def vectorInfo (s : Scalar) (count : Nat) : TypeInfo :=
  ⟨.vector s count, s.size?.map (count * ·)⟩

/-- Whether two marks of an image are assigned: whether it has depth, and whether it is read through
a sampler. Each says yes, no, or that it is not known. -/
def isMarked (depth sampled : UInt32) : Bool := depth ≤ 2 && sampled ≤ 2

/-- The dimensionality of images that an earlier pass left. Their marks do not count. -/
def attachmentDimension : Nat := 6

/-- Defines the type of an image. -/
def defineImage (d : Declarations) (i : Instruction) : Except Fault Declarations := do
  let id ← i.operand 0
  let component ← i.operand 1
  let dimension ← i.assigned 2 "image dimensionality" Standard.isImageDimension
  let depth ← i.operand 3
  let sampled ← i.operand 6
  let _ ← i.assigned 7 "image format" Standard.isImageFormat
  match d.shape? component with
  | some (.scalar _) =>
    if dimension = attachmentDimension then d.define id ⟨.attachment, none⟩
    else if isMarked depth sampled then d.define id ⟨.image, none⟩
    else .error (.unsupported "image that is sampled as" sampled.toNat)
  | _ => .error (.unknown "scalar type" component)

/-- The size a type has as the member of a structure. The columns of a matrix are as far apart as
the decoration of the member says. -/
def memberSize (d : Declarations) (t : Target) (info : TypeInfo) : Option Nat :=
  match info.shape with
  | .matrix _ _ columns => (d.decoration? t Decoration.matrixStride).map (·.toNat * columns)
  | _ => info.size

/-- The member of a structure at a position. -/
def memberInfo (d : Declarations) (struct : UInt32) (position : Nat) (info : TypeInfo) :
    Except Fault Member := do
  let t : Target := ⟨struct, some (UInt32.ofNat position)⟩
  d.checkAccess t
  return ⟨d.nameOf t, (d.decoration? t Decoration.offset).map (·.toNat), d.memberSize t info⟩

/-- The members of a structure from a position on; `none` if one has an unknown type. -/
def memberInfos (d : Declarations) (struct : UInt32) (position : Nat) :
    List UInt32 → Except Fault (Option (List Member))
  | [] => .ok (some [])
  | id :: rest =>
    match d.types.get? id with
    | none => .ok none
    | some info => do
      let m ← d.memberInfo struct position info
      return (← d.memberInfos struct (position + 1) rest).map (m :: ·)

/-- The size of a structure: where its last member ends. -/
def structSize (members : List Member) : Option Nat := do
  let last ← members.getLast?
  return (← last.offset) + (← last.size)

/-- The size of an array of some length. -/
def arraySize (d : Declarations) (id : UInt32) (length : Nat) : Option Nat :=
  (d.decoration? ⟨id, none⟩ Decoration.arrayStride).map (·.toNat * length)

/-- Gives an array the mark of its elements for data that can be written, if they have it. -/
def markArray (d : Declarations) (id element : UInt32) : Declarations :=
  if d.decorated ⟨element, none⟩ Decoration.bufferBlock then
    { d with decorations := ((⟨id, none⟩, Decoration.bufferBlock), []) :: d.decorations }
  else d

/-- Defines an array. It has the mark of its elements even if they are of an unknown type. -/
def defineArray (d : Declarations) (id element length : UInt32) : Except Fault Declarations :=
  let marked := d.markArray id element
  if d.types.contains element then
    match (d.constants.get? length).bind Constant.length? with
    | some count => marked.define id ⟨.array element, d.arraySize id count⟩
    | none => .error (.unknown "array length" length)
  else .ok marked

/-- Defines an array whose length is not fixed. -/
def defineOpenArray (d : Declarations) (id element : UInt32) : Except Fault Declarations :=
  if d.types.contains element then d.define id ⟨.array element, d.arraySize id 0⟩ else .ok d

/-- Defines the type of an instruction. The types of functions are of no interest. -/
def defineType (d : Declarations) (i : Instruction) : Except Fault Declarations := do
  match i.opcode with
  -- nothing, truth values, integers, floats
  | 19 => d.define (← i.operand 0) (scalarInfo .void)
  | 20 => d.define (← i.operand 0) (scalarInfo .bool)
  | 21 =>
    let bits ← i.operand 1
    d.define (← i.operand 0) (scalarInfo (.int bits.toNat ((← i.operand 2) != 0)))
  | 22 => d.define (← i.operand 0) (scalarInfo (.float (← i.operand 1).toNat))
  -- vectors and matrices
  | 23 =>
    let component ← i.operand 1
    let count ← i.operand 2
    match d.shape? component with
    | some (.scalar s) => d.define (← i.operand 0) (vectorInfo s count.toNat)
    | _ => .error (.unknown "scalar type" component)
  | 24 =>
    let column ← i.operand 1
    let count ← i.operand 2
    match d.shape? column with
    | some (.vector s rows) => d.define (← i.operand 0) ⟨.matrix s rows count.toNat, none⟩
    | _ => .error (.unknown "vector type" column)
  -- images and samplers
  | 25 => d.defineImage i
  | 26 => d.define (← i.operand 0) ⟨.sampler, none⟩
  | 27 =>
    let image ← i.operand 1
    if d.shape? image = some .image then d.define (← i.operand 0) ⟨.sampledImage, none⟩
    else .error (.unknown "image type" image)
  -- arrays, of fixed length or not
  | 28 => d.defineArray (← i.operand 0) (← i.operand 1) (← i.operand 2)
  | 29 => d.defineOpenArray (← i.operand 0) (← i.operand 1)
  -- structures
  | 30 =>
    let id ← i.operand 0
    match ← d.memberInfos id 0 (i.operands.drop 1) with
    | some members => d.define id ⟨.struct members, structSize members⟩
    | none => .ok d
  -- pointers, and their announcements
  | 32 =>
    let storage ← i.assigned 1 "storage class" Standard.isStorageClass
    d.definePointer (← i.operand 0) storage (← i.operand 2)
  | 39 =>
    let _ ← i.assigned 1 "storage class" Standard.isStorageClass
    d.define (← i.operand 0) ⟨.address, some pointerSize⟩
  -- what rays are traced with
  | 4472 => d.define (← i.operand 0) ⟨.rayQuery, none⟩
  | 5341 => d.define (← i.operand 0) ⟨.accelerationStructure, none⟩
  | _ => .ok d

-- ---------------------------------------------------------------------------
-- Constants
-- ---------------------------------------------------------------------------

/-- Adds a constant. -/
def addConstant (d : Declarations) (id : UInt32) (c : Constant) : Except Fault Declarations :=
  if d.constants.contains id then .error (.duplicate "constant" id)
  else .ok { d with constants := d.constants.insert id c }

/-- The scalar type that a constant is of. -/
def scalarType (d : Declarations) (id : UInt32) : Except Fault Scalar :=
  match d.shape? id with
  | some (.scalar s) => .ok s
  | _ => .error (.unknown "scalar type" id)

/-- The truth value that an instruction is about, if it is about one. -/
def truthOf? (opcode : Nat) : Option Bool :=
  if opcode = 41 ∨ opcode = 48 then some true
  else if opcode = 42 ∨ opcode = 49 then some false
  else none

/-- The value that an instruction gives to a constant of a type. A truth value is one whatever type
it is said to be of. -/
def valueOf (d : Declarations) (i : Instruction) (type : UInt32) : Except Fault Constant :=
  match truthOf? i.opcode with
  | some b => if d.types.contains type then .ok (.ofBool b) else .error (.unknown "type" type)
  | none => do Constant.ofWords (← d.scalarType type) (i.operands.drop 2)

/-- Defines a constant by its value. A constant whose value can be set later has to say under which
number; the value given here counts. -/
def defineConstant (d : Declarations) (i : Instruction) : Except Fault Declarations := do
  let c ← d.valueOf i (← i.operand 0)
  let id ← i.operand 1
  if i.opcode ≥ 48 && (d.decoration? ⟨id, none⟩ Decoration.specId).isNone then
    .error (.unknown "number of constant" id)
  else d.addConstant id c

/-- The constants with some ids. -/
def constantsOf (d : Declarations) (ids : List UInt32) : Except Fault (List Constant) :=
  ids.mapM fun id =>
    match d.constants.get? id with
    | some c => .ok c
    | none => .error (.unknown "constant" id)

/-- Defines a constant as the result of an operation on others. -/
def defineResult (d : Declarations) (i : Instruction) : Except Fault Declarations := do
  let type ← d.scalarType (← i.operand 0)
  let id ← i.operand 1
  let operation ← i.operand 2
  let operands ← d.constantsOf (i.operands.drop 3)
  d.addConstant id (← Constant.evaluate operation.toNat type operands)

-- ---------------------------------------------------------------------------
-- Variables
-- ---------------------------------------------------------------------------

/-- The type that resources in an array have: the element of the array, else the type itself. -/
def resourceType (d : Declarations) (id : UInt32) : UInt32 :=
  match d.shape? id with
  | some (.array element) => element
  | _ => id

/-- Defines a variable. One of an unknown type is left out. The class of its storage is that of its
pointer. -/
def defineVariable (d : Declarations) (i : Instruction) : Except Fault Declarations := do
  let type ← i.operand 0
  let id ← i.operand 1
  let _ ← i.assigned 2 "storage class" Standard.isStorageClass
  match d.shape? type with
  | some (.pointer storage target) =>
    if d.globals.contains id then .error (.duplicate "variable" id)
    else return { d with globals := d.globals.insert id ⟨target, storage⟩ }
  | some _ => .error (.unknown "pointer type" type)
  | none => .ok d

-- ---------------------------------------------------------------------------
-- Functions
-- ---------------------------------------------------------------------------

/-- Adds a function that has been read. -/
def addFunction (d : Declarations) (id : UInt32) : Except Fault Declarations :=
  if d.functions.contains id then .error (.duplicate "function" id)
  else .ok { d with functions := id :: d.functions }

/-- Takes in an instruction inside a function. Only what calls functions and what goes through
pointers is looked at. -/
def takeInside (d : Declarations) (i : Instruction) : Except Fault Declarations := do
  if i.opcode = 57 || Standard.isReadOpcode i.opcode then (i.operand 2).map fun _ => d
  else if Standard.isWriteOpcode i.opcode then (i.operand 0).map fun _ => d
  else if i.opcode = 65 then
    let id ← i.operand 1
    let _ ← i.operand 2
    if d.accessChains.contains id then .error (.duplicate "pointer" id)
    else return { d with accessChains := id :: d.accessChains }
  else return d

end Declarations

end RenderLoop.Spirv
