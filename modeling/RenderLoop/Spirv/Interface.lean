import RenderLoop.Spirv.Reader
import RenderLoop.Shader.Binary
import RenderLoop.Shader.Interface
import RenderLoop.Shader.Stage
import RenderLoop.Checked
import RenderLoop.Op
import RenderLoop.Sorting

/-!
# RenderLoop — the resource interface of a shader module

The **inputs** of a module are its input variables with a location, as far as they
are numeric; they are listed by location. Its **uniform blocks** are the variables
with structures of uniform data, or arrays of them. A block is called like its
structure, else like its variable, else after its slot.

A structure can end beyond what 64 bits can count. A module with a uniform block
that has to do with such a structure has no interface.
-/

namespace RenderLoop.Spirv

namespace Declarations

-- ---------------------------------------------------------------------------
-- Inputs
-- ---------------------------------------------------------------------------

/-- The kind and width of a numeric scalar. -/
def scalarKind? : Scalar → Option (ScalarKind × Nat)
  | .void => none
  | .bool => some (.bool, 32)
  | .int bits true => some (.signedInt, bits)
  | .int bits false => some (.unsignedInt, bits)
  | .float bits => some (.float, bits)

/-- Kind, width, components and columns of a numeric type. -/
def numericShape? : Shape → Option (ScalarKind × Nat × Nat × Nat)
  | .scalar s => (scalarKind? s).map fun (kind, bits) => (kind, bits, 1, 1)
  | .vector s count => (scalarKind? s).map fun (kind, bits) => (kind, bits, count, 1)
  | .matrix s rows columns => (scalarKind? s).map fun (kind, bits) => (kind, bits, rows, columns)
  | _ => none

/-- The input that a variable is, if it is one. -/
def input? (d : Declarations) (id : UInt32) (v : Variable) : Option StageInput := do
  let location ← d.decoration? ⟨id, none⟩ Decoration.location
  let info ← d.types.get? v.target
  let (kind, bits, components, columns) ← numericShape? info.shape
  return ⟨(d.nameOf ⟨id, none⟩).getD "", some location, kind, UInt32.ofNat bits,
    UInt32.ofNat components, UInt32.ofNat columns⟩

-- ---------------------------------------------------------------------------
-- Uniform blocks
-- ---------------------------------------------------------------------------

/-- The slot of a variable. Without a binding it is the first slot of all. -/
def slotOf (d : Declarations) (id : UInt32) : Slot :=
  match d.decoration? ⟨id, none⟩ Decoration.binding with
  | some binding => ⟨(d.decoration? ⟨id, none⟩ Decoration.descriptorSet).getD 0, binding⟩
  | none => ⟨0, 0⟩

/-- The name of a block without a name. -/
def slotName (s : Slot) : String := s!"set{s.set}_binding{s.binding}"

/-- The lowest 32 bits of a size that 64 bits can count; an unknown size is 0. -/
def sizeWord? (size : Option Nat) : Option UInt32 :=
  (Checked.longWord (size.getD 0)).map (·.toUInt32)

/-- A member of a block; what is not known is 0. -/
def blockMember? (m : Member) : Option BlockMember := do
  return ⟨m.name.getD "", UInt32.ofNat (m.offset.getD 0), ← sizeWord? m.size⟩

/-- The members of a type, if it is a structure. -/
def members? (d : Declarations) (id : UInt32) : Option (List Member) :=
  match d.shape? id with
  | some (.struct members) => some members
  | _ => none

/-- The block that a variable is whose data are structures of some type. -/
def blockOf? (d : Declarations) (id type : UInt32) (members : List Member) :
    Option UniformBlock := do
  let slot := d.slotOf id
  let name := ((d.nameOf ⟨type, none⟩).or (d.nameOf ⟨id, none⟩)).getD (slotName slot)
  let size ← sizeWord? ((d.types.get? type).bind (·.size))
  return ⟨name, some slot.set, some slot.binding, size, ← members.mapM blockMember?⟩

/-- Whether data of a storage class are uniform, as opposed to data that can be written. -/
def isUniformStorage (storage : Nat) : Bool :=
  storage == StorageClass.uniformConstant || storage == StorageClass.uniform

/-- The blocks that a variable is: one or none. There is no answer if its size cannot be counted. -/
def blocksOf? (d : Declarations) (id : UInt32) (v : Variable) : Option (List UniformBlock) :=
  let type := d.resourceType v.target
  match d.members? type with
  | some members =>
    if isUniformStorage v.storage then (d.blockOf? id type members).map ([·]) else some []
  | none => some []

-- ---------------------------------------------------------------------------
-- The interface
-- ---------------------------------------------------------------------------

/-- Whether an input may stand before another in the order of locations. -/
def locationLE (a b : StageInput) : Bool := a.location.getD 0 ≤ b.location.getD 0

/-- The inputs, by location; those at one location in the order of their ids. -/
def inputs (d : Declarations) : List StageInput :=
  sortBy locationLE (d.globals.entries.filterMap fun (id, v) =>
    if v.storage == StorageClass.input then d.input? id v else none)

/-- The uniform blocks, in the order of their ids. -/
def blocks? (d : Declarations) : Option (List UniformBlock) :=
  (d.globals.entries.mapM fun (id, v) => d.blocksOf? id v).map List.flatten

end Declarations

/-- The component that reflection logs as. -/
def component : String := "ofvk::vulkan::Reflector"

/-- Finds the resource interface of a stage in its code. -/
def reflect {σ : Type} [Logging σ] (stage : ShaderStage) (code : ShaderCode) :
    Op σ StageInterface := do
  match Declarations.ofWords code with
  | .error fault =>
    if fault.isFatal then Op.abandon
    else
      Op.failBackend component
        s!"SPIR-V reflection failed for {stage.name} stage: {fault.message}"
  | .ok d =>
    if d.entryPoints.isEmpty then
      Op.failBackend component s!"{stage.name} stage module has no entry point"
    else pure ⟨← Op.ofOption d.blocks?, d.inputs⟩

end RenderLoop.Spirv
