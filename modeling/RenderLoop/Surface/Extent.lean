import RenderLoop.Binary32

/-!
# RenderLoop — extents, viewports and rectangles

Sizes in pixels and the regions derived from them. A whole surface is covered by
the viewport and the rectangle of its extent.
-/

namespace RenderLoop

/-- A size in pixels. -/
structure Extent where
  width : UInt32
  height : UInt32
  deriving DecidableEq, Repr, Inhabited

/-- Whether an extent has no area, as that of a minimised window. -/
def Extent.isEmpty (e : Extent) : Bool := e.width == 0 || e.height == 0

/-- The region that normalised coordinates are mapped to. -/
structure Viewport where
  x : Binary32
  y : Binary32
  width : Binary32
  height : Binary32
  minDepth : Binary32
  maxDepth : Binary32
  deriving DecidableEq, Repr, Inhabited

/-- The viewport over a whole extent, with depths from 0 to 1. -/
def Viewport.ofExtent (e : Extent) : Viewport :=
  ⟨0, 0, .ofNat e.width.toNat, .ofNat e.height.toNat, 0, .one⟩

/-- A rectangle of pixels: a scissor or a render area. -/
structure Rect where
  x : Int32
  y : Int32
  width : UInt32
  height : UInt32
  deriving DecidableEq, Repr, Inhabited

/-- The rectangle over a whole extent. -/
def Rect.ofExtent (e : Extent) : Rect := ⟨0, 0, e.width, e.height⟩

/-- A colour in single precision. -/
structure Color where
  red : Binary32
  green : Binary32
  blue : Binary32
  alpha : Binary32
  deriving DecidableEq, Repr, Inhabited

/-- The value an attachment is cleared to. -/
inductive ClearValue where
  | color (color : Color)
  | depthStencil (depth : Binary32) (stencil : UInt32)
  deriving DecidableEq, Repr, Inhabited

end RenderLoop
