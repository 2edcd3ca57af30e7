import RenderLoop.Binary32
import RenderLoop.Bytes
import RenderLoop.Error

/-!
# RenderLoop — meshes and their draw calls

A **mesh** has one array per vertex attribute and an array of indices. Attribute
arrays are not interleaved: each non-empty array is a **stream** of its own, bound
at the binding equal to its attribute's location. A mesh with indices is drawn by
its indices, one without by its vertices.

The three matrices of the default program form one uniform block of 192 bytes.
-/

namespace RenderLoop

/-- A vector of two components in single precision. -/
structure Vector2 where
  x : Binary32
  y : Binary32
  deriving DecidableEq, Repr, Inhabited

/-- A vector of three components. -/
structure Vector3 where
  x : Binary32
  y : Binary32
  z : Binary32
  deriving DecidableEq, Repr, Inhabited

/-- A vector of four components. -/
structure Vector4 where
  x : Binary32
  y : Binary32
  z : Binary32
  w : Binary32
  deriving DecidableEq, Repr, Inhabited

/-- Geometry, one array per attribute. -/
structure Mesh where
  positions : List Vector3 := []
  normals : List Vector3 := []
  colors : List Vector4 := []
  texCoords : List Vector2 := []
  indices : List UInt32 := []
  deriving DecidableEq, Repr, Inhabited

/-- The attribute array of one location, as bytes. -/
structure VertexStream where
  location : UInt32
  bytes : List UInt8
  deriving DecidableEq, Repr, Inhabited

namespace Mesh

def positionLocation : UInt32 := 0
def colorLocation : UInt32 := 1
def normalLocation : UInt32 := 2
def texCoordLocation : UInt32 := 3

def vertexCount (m : Mesh) : UInt32 := UInt32.ofNat m.positions.length

def indexCount (m : Mesh) : UInt32 := UInt32.ofNat m.indices.length

def hasIndices (m : Mesh) : Bool := !m.indices.isEmpty

def bytes2 (v : Vector2) : List UInt8 := bytesOfWords [v.x, v.y]

def bytes3 (v : Vector3) : List UInt8 := bytesOfWords [v.x, v.y, v.z]

def bytes4 (v : Vector4) : List UInt8 := bytesOfWords [v.x, v.y, v.z, v.w]

/-- The non-empty attribute arrays, by ascending location. -/
def streams (m : Mesh) : List VertexStream :=
  [(⟨positionLocation, m.positions.flatMap bytes3⟩ : VertexStream),
    ⟨colorLocation, m.colors.flatMap bytes4⟩,
    ⟨normalLocation, m.normals.flatMap bytes3⟩,
    ⟨texCoordLocation, m.texCoords.flatMap bytes2⟩].filter fun s => !s.bytes.isEmpty

/-- The index array as bytes. -/
def indexBytes (m : Mesh) : List UInt8 := bytesOfWords m.indices

end Mesh

/-- How the polygons of a mesh are drawn. -/
inductive PolyRenderMode where
  | points
  | wireframe
  | fill
  deriving DecidableEq, Repr

instance : Inhabited PolyRenderMode := ⟨.fill⟩

instance : Named PolyRenderMode where
  all := [.points, .wireframe, .fill]
  name
    | .points => "Points"
    | .wireframe => "Wireframe"
    | .fill => "Fill"

/-- A draw command. -/
inductive DrawCall where
  | nonIndexed (vertexCount instanceCount firstVertex firstInstance : UInt32)
  | indexed (indexCount instanceCount firstIndex : UInt32) (vertexOffset : Int32)
    (firstInstance : UInt32)
  deriving DecidableEq, Repr, Inhabited

/-- The draw call of a mesh: all its indices if there are any, else all its vertices. -/
def Mesh.drawCall (m : Mesh) : DrawCall :=
  if m.hasIndices then .indexed m.indexCount 1 0 0 0 else .nonIndexed m.vertexCount 1 0 0

-- ---------------------------------------------------------------------------
-- Matrices
-- ---------------------------------------------------------------------------

/-- A four by four matrix, column after column. -/
structure Matrix4 where
  entries : Vector Binary32 16
  deriving DecidableEq, Repr

namespace Matrix4

def identity : Matrix4 :=
  ⟨#v[.one, 0, 0, 0, 0, .one, 0, 0, 0, 0, .one, 0, 0, 0, 0, .one]⟩

instance : Inhabited Matrix4 := ⟨identity⟩

def bytes (m : Matrix4) : List UInt8 := bytesOfWords m.entries.toList

end Matrix4

/-- The matrix block at set 0, binding 0. -/
structure Matrices where
  projection : Matrix4 := .identity
  model : Matrix4 := .identity
  view : Matrix4 := .identity
  deriving DecidableEq, Repr

namespace Matrices

instance : Inhabited Matrices := ⟨{}⟩

/-- The size of the block in bytes. -/
def size : Nat := 192

def bytes (m : Matrices) : List UInt8 := m.projection.bytes ++ m.model.bytes ++ m.view.bytes

end Matrices

end RenderLoop
