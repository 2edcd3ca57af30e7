import RenderLoop.Data.Program
import RenderLoop.Data.Rehearsal
import RenderLoop.Renderer.Basic

/-!
# RenderLoop — reports of renderers

A renderer is reported by what its host can ask it for, and what the host gives it (meshes,
pipeline states and settings) with all its fields.
-/

namespace RenderLoop.Data

-- ---------------------------------------------------------------------------
-- Pipelines, meshes and settings
-- ---------------------------------------------------------------------------

instance : Reportable PipelineState :=
  ⟨fun s => record [("topology", report s.topology), ("polygon_mode", report s.polygonMode),
    ("cull_mode", report s.cullMode), ("front_face", report s.frontFace),
    ("depth_test", report s.depthTest), ("depth_write", report s.depthWrite),
    ("depth_compare", report s.depthCompare), ("blend_enable", report s.blend)]⟩

instance : Reportable DrawCall :=
  ⟨fun d => match d with
    | .nonIndexed a b c d =>
      record [("kind", text "NonIndexed"), ("args", report [a, b, c, d])]
    | .indexed a b c d e =>
      record [("kind", text "Indexed"),
        ("args", list [report a, report b, report c, report d, report e])]⟩

instance : Reportable VertexStream :=
  ⟨fun s => list [report s.location, text (hexBytes s.bytes)]⟩

instance : Reportable Mesh :=
  ⟨fun m => record [("num_vertices", report m.vertexCount), ("num_indices", report m.indexCount),
    ("has_indices", report m.hasIndices), ("streams", report m.streams),
    ("index_bytes", text (hexBytes m.indexBytes)), ("draw", report m.drawCall),
    ("is_default", bool (decide (m = {})))]⟩

instance : Reportable RendererConfig :=
  ⟨fun c => record [("app_name", report c.appName),
    ("api_version", report [c.apiVersion.major, c.apiVersion.minor, c.apiVersion.patch]),
    ("enable_validation", report c.enableValidation),
    ("swapchain_image_count", report c.imageCount), ("present_mode", report c.presentMode),
    ("clear_color", report c.clearColor), ("pipeline_cache_path", report c.cachePath),
    ("sparse_set_policy", report c.sparseSets), ("frame_allocator_size", report c.allocatorSize),
    ("frame_allocator_alignment", report c.allocatorAlignment),
    ("default_shaders", report c.shaders)]⟩

-- ---------------------------------------------------------------------------
-- Renderers and their hosts
-- ---------------------------------------------------------------------------

instance : Reportable Renderer :=
  ⟨fun r => record [("state", report r.machine.state), ("frames", report r.machine.framesCompleted),
    ("extent", report r.extent), ("pipelines", report r.pipelines.registry.size),
    ("images", report r.swapchain.images.length), ("generation", report r.program.generation),
    ("stages", report r.program.stages), ("polygon_mode", report r.pipelineState.polygonMode)]⟩

/-- The calls and the log of a stretch, from the world before it to the world after it, oldest
first. -/
def sinceHost (before after : Host) : List (String × Data) :=
  let gained {α : Type} (old new : List α) := (new.take (new.length - old.length)).reverse
  [("calls", list ((gained before.gpu.history after.gpu.history).map fun e => text e.text)),
    ("logs", report (gained before.log after.log))]

/-- The content of a file; nothing if there is none. -/
def ofFile (files : Files) (path : String) : Data :=
  match files.read path with
  | .ok bytes => text (hexBytes bytes)
  | .error _ => null

/-- A part of the frame buffer. -/
def ofFrameMemory (g : Gpu) (offset length : Nat) : Data :=
  report ((g.frameMemory.bind fun m => m.read? offset length).map hexBytes)

end RenderLoop.Data
