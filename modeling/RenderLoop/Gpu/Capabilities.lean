import RenderLoop.Checked
import RenderLoop.Surface.Choice
import RenderLoop.Surface.Extent

/-!
# RenderLoop — what a surface is capable of

The **capabilities** of a surface bound the images of a swapchain. They decide the
size of the images (`imageExtent`): the surface's own size, unless it leaves the
size open, in which case the size of the window is moved into the bounds. A size
without area is that of a minimised window, for which nothing can be built.

Bounds of which the lower exceeds the upper have no size between them.
-/

namespace RenderLoop

/-- The capabilities of a surface. -/
structure SurfaceCapabilities where
  minImages : UInt32 := 2
  /-- The greatest number of images; 0 is no limit. -/
  maxImages : UInt32 := 8
  /-- The size of the surface, or `open` in the width if the window decides. -/
  current : Extent := ⟨640, 480⟩
  minExtent : Extent := ⟨1, 1⟩
  maxExtent : Extent := ⟨4096, 4096⟩
  /-- The transforms the surface can apply, one bit each. -/
  transforms : UInt32 := 1
  /-- The transform it applies now. -/
  transform : UInt32 := 1
  deriving DecidableEq, Repr

instance : Inhabited SurfaceCapabilities := ⟨{}⟩

namespace SurfaceCapabilities

/-- The width that leaves the size open. -/
def openWidth : UInt32 := 0xffffffff

/-- The size of the images for a window of the size `requested`. -/
def imageExtent (c : SurfaceCapabilities) (requested : Extent) : Option Extent :=
  if c.current.width ≠ openWidth then some c.current
  else do
    let width ← Checked.clamp32 requested.width c.minExtent.width c.maxExtent.width
    let height ← Checked.clamp32 requested.height c.minExtent.height c.maxExtent.height
    return ⟨width, height⟩

/-- Whether the surface has no area now. -/
def isMinimized (c : SurfaceCapabilities) (requested : Extent) : Option Bool :=
  (c.imageExtent requested).map (·.isEmpty)

/-- The transform that leaves images as they are. -/
def identityTransform : UInt32 := 1

/-- The transform of the images: none if possible, else what the surface applies anyway. -/
def imageTransform (c : SurfaceCapabilities) : UInt32 :=
  if c.transforms &&& identityTransform ≠ 0 then identityTransform else c.transform

/-- The number of images for a request. -/
def imageCount (c : SurfaceCapabilities) (requested : UInt32) : UInt32 :=
  chooseImageCount requested c.minImages c.maxImages

end SurfaceCapabilities

end RenderLoop
