import RenderLoop.Data
import RenderLoop.Shader.Source
import RenderLoop.Surface.Choice
import RenderLoop.Surface.Extent
import RenderLoop.Descriptor.SetLayout
import RenderLoop.Pipeline.State
import RenderLoop.Mesh.Draw
import RenderLoop.Config

/-!
# RenderLoop — reading domain values

How the values of the library are read from plain data. Fields that are left out
have the defaults of their types.
-/

namespace RenderLoop.Data

-- ---------------------------------------------------------------------------
-- Failures
-- ---------------------------------------------------------------------------

instance : Readable Slot := ⟨fun d => do
  let (set, binding) ← ofData d
  return ⟨set, binding⟩⟩

instance : Readable RenderError := ⟨fun d => do
  let s : Reading String := d.get "text"
  match (← d.get "variant" : String) with
  | "BackendError" => return .backend (← s)
  | "OutOfMemory" => return .outOfMemory
  | "InvalidResource" => return .invalidResource (← s)
  | "InitializationFailed" => return .initializationFailed (← s)
  | "NoSurfaceFormat" => return .noSurfaceFormat
  | "SwapchainOutOfDate" => return .swapchainOutOfDate
  | "DeviceLost" => return .deviceLost (← s)
  | "SurfaceLost" => return .surfaceLost (← s)
  | "ShaderNotFound" => return .shaderNotFound (← s)
  | "ShaderCompileFailed" => return .shaderCompileFailed (← d.get "path") (← d.get "message")
  | "BindingMismatch" =>
    return .bindingMismatch (← d.get "block") (← d.get "first") (← d.get "second")
  | "SparseDescriptorSet" => return .sparseDescriptorSet (← d.get "missing_set")
  | "DescriptorPoolExhausted" => return .descriptorPoolExhausted (← s)
  | "InvalidFrameState" => return .invalidFrameState (← d.get "operation") (← d.get "state")
  | _ => unfit "the name of a cause"⟩

/-- A success, read by `value`, or a failure under `label`. -/
def outcome {α : Type} (label : String) (value : Data → Reading α) (d : Data) :
    Reading (Except RenderError α) := do
  if d.has label then return .error (← d.get label) else return .ok (← value d)

/-- A success under `ok` or a failure under `err`. -/
instance {α : Type} [Readable α] : Readable (Except RenderError α) :=
  ⟨outcome "err" fun d => d.get "ok"⟩

-- ---------------------------------------------------------------------------
-- Surfaces
-- ---------------------------------------------------------------------------

instance : Readable Extent := ⟨fun d => do
  let (width, height) ← ofData d
  return ⟨width, height⟩⟩

instance : Readable Color :=
  ⟨ofWords fun ws => match ws with | [r, g, b, a] => some ⟨r, g, b, a⟩ | _ => none⟩

instance : Readable Viewport := ⟨ofWords fun ws => match ws with
  | [x, y, w, h, near, far] => some ⟨x, y, w, h, near, far⟩
  | _ => none⟩

instance : Readable Rect := ⟨fun d => do
  match ← d.items with
  | [x, y, w, h] => return ⟨← ofData x, ← ofData y, ← ofData w, ← ofData h⟩
  | _ => unfit "a rectangle"⟩

instance : Readable ColorSpace := ⟨fun d => match d with
  | text "SrgbNonlinear" => pure .srgbNonlinear
  | text "ExtendedSrgbLinear" => pure .extendedSrgbLinear
  | text "Hdr10St2084" => pure .hdr10St2084
  | d => .other <$> d.get "Other"⟩

instance : Readable SurfaceFormat :=
  ⟨fun d => do return ⟨← d.get "format", ← d.get "color_space"⟩⟩

-- ---------------------------------------------------------------------------
-- Sources and policies
-- ---------------------------------------------------------------------------

instance : Readable ShaderSource := ⟨fun d => do
  let (stage, path) ← ofData d
  return ⟨stage, path⟩⟩

/-- The policy about gaps between sets. -/
def policy (d : Data) : Reading SparseSetPolicy := d.getD "policy" .error

-- ---------------------------------------------------------------------------
-- Pipelines, meshes and settings
-- ---------------------------------------------------------------------------

instance : Readable PipelineState := ⟨fun d => do
  let s : PipelineState := {}
  return ⟨← d.getD "topology" s.topology, ← d.getD "polygon_mode" s.polygonMode,
    ← d.getD "cull_mode" s.cullMode, ← d.getD "front_face" s.frontFace,
    ← d.getD "depth_test" s.depthTest, ← d.getD "depth_write" s.depthWrite,
    ← d.getD "depth_compare" s.depthCompare, ← d.getD "blend_enable" s.blend⟩⟩

instance : Readable Vector2 :=
  ⟨ofWords fun ws => match ws with | [x, y] => some ⟨x, y⟩ | _ => none⟩

instance : Readable Vector3 :=
  ⟨ofWords fun ws => match ws with | [x, y, z] => some ⟨x, y, z⟩ | _ => none⟩

instance : Readable Vector4 :=
  ⟨ofWords fun ws => match ws with | [x, y, z, w] => some ⟨x, y, z, w⟩ | _ => none⟩

instance : Readable Mesh := ⟨fun d => do
  return ⟨← d.getD "positions" [], ← d.getD "normals" [], ← d.getD "colors" [],
    ← d.getD "tex_coords" [], ← d.getD "indices" []⟩⟩

instance : Readable Matrix4 := ⟨ofWords fun ws =>
  if h : ws.toArray.size = 16 then some ⟨⟨ws.toArray, h⟩⟩ else none⟩

instance : Readable Matrices := ⟨fun d => do
  return ⟨← d.getD "projection" default, ← d.getD "model" default, ← d.getD "view" default⟩⟩

instance : Readable ApiVersion :=
  ⟨ofWords fun ws => match ws with | [a, b, c] => some ⟨a, b, c⟩ | _ => none⟩

/-- Settings, with the values of `c` for what is left out. -/
def settings (c : RendererConfig) (d : Data) : Reading RendererConfig := do
  return ⟨← d.getD "app_name" c.appName, ← d.getD "api_version" c.apiVersion,
    ← d.getD "enable_validation" c.enableValidation, ← d.getD "images" c.imageCount,
    ← d.getD "present_mode" c.presentMode, ← d.getD "clear_color" c.clearColor,
    ← d.getD "cache_path" c.cachePath, ← d.getD "policy" c.sparseSets,
    ← d.getD "allocator_size" c.allocatorSize, ← d.getD "allocator_alignment" c.allocatorAlignment,
    ← d.getD "shaders" c.shaders⟩

end RenderLoop.Data
