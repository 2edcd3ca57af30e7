import RenderLoop.Error

/-!
# RenderLoop — vertex attribute formats

The format of one vertex attribute: the kind of its scalars, their width and the
number of components. Only combinations that devices fetch exist: 32-bit scalars
of every number of components up to four, and 8- and 16-bit integers of one, two
and four components. `VertexFormat.ofComponents?` finds the format of a shader
input and `VertexFormat.sizeBytes` its size.
-/

namespace RenderLoop

/-- The kind of a scalar. -/
inductive ScalarKind where
  | float
  | signedInt
  | unsignedInt
  | bool
  deriving DecidableEq, Repr, Inhabited

def ScalarKind.name : ScalarKind → String
  | float => "Float"
  | signedInt => "SignedInt"
  | unsignedInt => "UnsignedInt"
  | bool => "Bool"

instance : Named ScalarKind := ⟨[.float, .signedInt, .unsignedInt, .bool], ScalarKind.name⟩

/-- Vertex attribute formats. -/
inductive VertexFormat where
  | r32Sfloat
  | r32g32Sfloat
  | r32g32b32Sfloat
  | r32g32b32a32Sfloat
  | r32Sint
  | r32g32Sint
  | r32g32b32Sint
  | r32g32b32a32Sint
  | r32Uint
  | r32g32Uint
  | r32g32b32Uint
  | r32g32b32a32Uint
  | r16Sint
  | r16g16Sint
  | r16g16b16a16Sint
  | r16Uint
  | r16g16Uint
  | r16g16b16a16Uint
  | r8Sint
  | r8g8Sint
  | r8g8b8a8Sint
  | r8Uint
  | r8g8Uint
  | r8g8b8a8Uint
  deriving DecidableEq, Repr, Inhabited

namespace VertexFormat

/-- The format of a vector of scalars. There is none for 64-bit scalars, truth values, three
components of 8 or 16 bits, and more than four components. -/
def ofComponents? (kind : ScalarKind) (bits components : UInt32) : Option VertexFormat :=
  match kind, bits.toNat, components.toNat with
  | .float, 32, 1 => some r32Sfloat
  | .float, 32, 2 => some r32g32Sfloat
  | .float, 32, 3 => some r32g32b32Sfloat
  | .float, 32, 4 => some r32g32b32a32Sfloat
  | .signedInt, 32, 1 => some r32Sint
  | .signedInt, 32, 2 => some r32g32Sint
  | .signedInt, 32, 3 => some r32g32b32Sint
  | .signedInt, 32, 4 => some r32g32b32a32Sint
  | .unsignedInt, 32, 1 => some r32Uint
  | .unsignedInt, 32, 2 => some r32g32Uint
  | .unsignedInt, 32, 3 => some r32g32b32Uint
  | .unsignedInt, 32, 4 => some r32g32b32a32Uint
  | .signedInt, 16, 1 => some r16Sint
  | .signedInt, 16, 2 => some r16g16Sint
  | .signedInt, 16, 4 => some r16g16b16a16Sint
  | .unsignedInt, 16, 1 => some r16Uint
  | .unsignedInt, 16, 2 => some r16g16Uint
  | .unsignedInt, 16, 4 => some r16g16b16a16Uint
  | .signedInt, 8, 1 => some r8Sint
  | .signedInt, 8, 2 => some r8g8Sint
  | .signedInt, 8, 4 => some r8g8b8a8Sint
  | .unsignedInt, 8, 1 => some r8Uint
  | .unsignedInt, 8, 2 => some r8g8Uint
  | .unsignedInt, 8, 4 => some r8g8b8a8Uint
  | _, _, _ => none

/-- The number of components. -/
def componentCount : VertexFormat → UInt32
  | r32Sfloat | r32Sint | r32Uint | r16Sint | r16Uint | r8Sint | r8Uint => 1
  | r32g32Sfloat | r32g32Sint | r32g32Uint | r16g16Sint | r16g16Uint | r8g8Sint | r8g8Uint => 2
  | r32g32b32Sfloat | r32g32b32Sint | r32g32b32Uint => 3
  | r32g32b32a32Sfloat | r32g32b32a32Sint | r32g32b32a32Uint | r16g16b16a16Sint
  | r16g16b16a16Uint | r8g8b8a8Sint | r8g8b8a8Uint => 4

/-- The size of one component in bytes. -/
def componentBytes : VertexFormat → UInt32
  | r16Sint | r16g16Sint | r16g16b16a16Sint | r16Uint | r16g16Uint | r16g16b16a16Uint => 2
  | r8Sint | r8g8Sint | r8g8b8a8Sint | r8Uint | r8g8Uint | r8g8b8a8Uint => 1
  | _ => 4

/-- The size of one element in bytes. -/
def sizeBytes (f : VertexFormat) : UInt32 := f.componentBytes * f.componentCount

/-- The standard name of a format. -/
def name : VertexFormat → String
  | r32Sfloat => "R32_SFLOAT"
  | r32g32Sfloat => "R32G32_SFLOAT"
  | r32g32b32Sfloat => "R32G32B32_SFLOAT"
  | r32g32b32a32Sfloat => "R32G32B32A32_SFLOAT"
  | r32Sint => "R32_SINT"
  | r32g32Sint => "R32G32_SINT"
  | r32g32b32Sint => "R32G32B32_SINT"
  | r32g32b32a32Sint => "R32G32B32A32_SINT"
  | r32Uint => "R32_UINT"
  | r32g32Uint => "R32G32_UINT"
  | r32g32b32Uint => "R32G32B32_UINT"
  | r32g32b32a32Uint => "R32G32B32A32_UINT"
  | r16Sint => "R16_SINT"
  | r16g16Sint => "R16G16_SINT"
  | r16g16b16a16Sint => "R16G16B16A16_SINT"
  | r16Uint => "R16_UINT"
  | r16g16Uint => "R16G16_UINT"
  | r16g16b16a16Uint => "R16G16B16A16_UINT"
  | r8Sint => "R8_SINT"
  | r8g8Sint => "R8G8_SINT"
  | r8g8b8a8Sint => "R8G8B8A8_SINT"
  | r8Uint => "R8_UINT"
  | r8g8Uint => "R8G8_UINT"
  | r8g8b8a8Uint => "R8G8B8A8_UINT"

/-- All formats. -/
def all : List VertexFormat :=
  [r32Sfloat, r32g32Sfloat, r32g32b32Sfloat, r32g32b32a32Sfloat, r32Sint, r32g32Sint,
    r32g32b32Sint, r32g32b32a32Sint, r32Uint, r32g32Uint, r32g32b32Uint, r32g32b32a32Uint,
    r16Sint, r16g16Sint, r16g16b16a16Sint, r16Uint, r16g16Uint, r16g16b16a16Uint, r8Sint,
    r8g8Sint, r8g8b8a8Sint, r8Uint, r8g8Uint, r8g8b8a8Uint]

instance : Named VertexFormat := ⟨all, name⟩

end VertexFormat

end RenderLoop
