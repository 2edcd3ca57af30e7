import RenderLoop.Surface.Choice
import RenderLoop.Surface.Extent
import RenderLoop.Descriptor.SetLayout
import RenderLoop.Shader.Source

/-!
# RenderLoop — configuration

What the host chooses when it sets the renderer up, with defaults for all of it.
-/

namespace RenderLoop

/-- A version of the graphics API. -/
structure ApiVersion where
  major : UInt32
  minor : UInt32
  patch : UInt32
  deriving DecidableEq, Repr, Inhabited

/-- The settings of a renderer. -/
structure RendererConfig where
  /-- The name reported to the driver. -/
  appName : String := "ofvk Application"
  apiVersion : ApiVersion := ⟨1, 1, 92⟩
  /-- Whether the validation layer is asked for. -/
  enableValidation : Bool := true
  /-- The requested number of swapchain images, moved into the surface's limits. -/
  imageCount : UInt32 := 3
  /-- The requested present mode. -/
  presentMode : PresentMode := .fifo
  /-- The colour that frames are cleared to; by default a dark grey of 0.15. -/
  clearColor : Color := ⟨0x3e19999a, 0x3e19999a, 0x3e19999a, .one⟩
  /-- The file the pipeline cache is kept in. -/
  cachePath : String := "testPipelineCache.bin"
  sparseSets : SparseSetPolicy := .error
  /-- The size of the frame buffer in bytes. -/
  allocatorSize : UInt64 := 32 * 1024 * 1024
  /-- The least alignment in the frame buffer; the device may ask for more. -/
  allocatorAlignment : UInt64 := 256
  /-- The stages of the program. -/
  shaders : List ShaderSource := [⟨.vertex, "vert.spv"⟩, ⟨.fragment, "frag.spv"⟩]
  deriving DecidableEq, Repr

instance : Inhabited RendererConfig := ⟨{}⟩

end RenderLoop
