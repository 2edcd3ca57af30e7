import RenderLoop.Error

/-!
# RenderLoop — fixed-function pipeline state

The choices that a graphics pipeline fixes when it is built: how vertices form
primitives, how polygons are filled, which faces are culled, how depths are
compared, whether colours are blended. Viewport and scissor are set while
recording and are no part of the state.

The constructors of each choice are listed in the order of their numbers in the
graphics API, and `number` gives the number.
-/

namespace RenderLoop

/-- How vertices form primitives. -/
inductive Topology where
  | pointList
  | lineList
  | lineStrip
  | triangleList
  | triangleStrip
  | triangleFan
  deriving DecidableEq, Repr, Inhabited

def Topology.number : Topology → Nat
  | pointList => 0
  | lineList => 1
  | lineStrip => 2
  | triangleList => 3
  | triangleStrip => 4
  | triangleFan => 5

instance : Named Topology where
  all := [.pointList, .lineList, .lineStrip, .triangleList, .triangleStrip, .triangleFan]
  name
    | .pointList => "PointList"
    | .lineList => "LineList"
    | .lineStrip => "LineStrip"
    | .triangleList => "TriangleList"
    | .triangleStrip => "TriangleStrip"
    | .triangleFan => "TriangleFan"

/-- How polygons are filled. -/
inductive PolygonMode where
  | fill
  | line
  | point
  deriving DecidableEq, Repr, Inhabited

def PolygonMode.number : PolygonMode → Nat
  | fill => 0
  | line => 1
  | point => 2

instance : Named PolygonMode where
  all := [.fill, .line, .point]
  name
    | .fill => "Fill"
    | .line => "Line"
    | .point => "Point"

/-- Which faces are culled. -/
inductive CullMode where
  | none
  | front
  | back
  | frontAndBack
  deriving DecidableEq, Repr, Inhabited

def CullMode.number : CullMode → Nat
  | none => 0
  | front => 1
  | back => 2
  | frontAndBack => 3

instance : Named CullMode where
  all := [.none, .front, .back, .frontAndBack]
  name
    | .none => "None"
    | .front => "Front"
    | .back => "Back"
    | .frontAndBack => "FrontAndBack"

/-- Which winding makes a face a front face. -/
inductive FrontFace where
  | counterClockwise
  | clockwise
  deriving DecidableEq, Repr, Inhabited

def FrontFace.number : FrontFace → Nat
  | counterClockwise => 0
  | clockwise => 1

instance : Named FrontFace where
  all := [.counterClockwise, .clockwise]
  name
    | .counterClockwise => "CounterClockwise"
    | .clockwise => "Clockwise"

/-- How depths are compared. -/
inductive CompareOp where
  | never
  | less
  | equal
  | lessOrEqual
  | greater
  | notEqual
  | greaterOrEqual
  | always
  deriving DecidableEq, Repr, Inhabited

def CompareOp.number : CompareOp → Nat
  | never => 0
  | less => 1
  | equal => 2
  | lessOrEqual => 3
  | greater => 4
  | notEqual => 5
  | greaterOrEqual => 6
  | always => 7

instance : Named CompareOp where
  all := [.never, .less, .equal, .lessOrEqual, .greater, .notEqual, .greaterOrEqual, .always]
  name
    | .never => "Never"
    | .less => "Less"
    | .equal => "Equal"
    | .lessOrEqual => "LessOrEqual"
    | .greater => "Greater"
    | .notEqual => "NotEqual"
    | .greaterOrEqual => "GreaterOrEqual"
    | .always => "Always"

/-- The fixed-function state of a pipeline. -/
structure PipelineState where
  topology : Topology := .triangleList
  polygonMode : PolygonMode := .fill
  cullMode : CullMode := .none
  frontFace : FrontFace := .counterClockwise
  depthTest : Bool := true
  depthWrite : Bool := true
  depthCompare : CompareOp := .lessOrEqual
  blend : Bool := false
  deriving DecidableEq, Repr

instance : Inhabited PipelineState := ⟨{}⟩

/-- The same state with polygons drawn as lines. -/
def PipelineState.wireframe (s : PipelineState) : PipelineState := { s with polygonMode := .line }

end RenderLoop
