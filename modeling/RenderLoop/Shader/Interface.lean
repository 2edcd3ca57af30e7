import RenderLoop.Vertex.Format

/-!
# RenderLoop — the resource interface of one shader stage

What reflection finds in the module of one stage: its **uniform blocks** with
their members, and its **inputs**. Decorations that a module may leave out (the
set and binding of a block, the location of an input) are optional here; what
stands in for a missing one is decided where the interface is used.
-/

namespace RenderLoop

/-- A member of a uniform block. Offset and size are in bytes. -/
structure BlockMember where
  name : String
  offset : UInt32
  size : UInt32
  deriving DecidableEq, Repr, Inhabited

/-- A uniform block as one stage declares it. -/
structure UniformBlock where
  name : String
  set : Option UInt32 := none
  binding : Option UInt32 := none
  /-- The size of the whole block in bytes. -/
  size : UInt32
  members : List BlockMember := []
  deriving DecidableEq, Repr, Inhabited

/-- An input of a stage; on the vertex stage, a vertex attribute. -/
structure StageInput where
  name : String
  location : Option UInt32 := none
  kind : ScalarKind
  /-- The width of a scalar. -/
  bits : UInt32
  /-- Components per column; 1 for a scalar. -/
  components : UInt32
  /-- Columns; 1 unless the input is a matrix. -/
  columns : UInt32
  deriving DecidableEq, Repr, Inhabited

/-- The resource interface of one stage. -/
structure StageInterface where
  blocks : List UniformBlock := []
  inputs : List StageInput := []
  deriving DecidableEq, Repr, Inhabited

end RenderLoop
