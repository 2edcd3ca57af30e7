import RenderLoop.Data
import RenderLoop.Log.Entry
import RenderLoop.Surface.Choice
import RenderLoop.Surface.Extent
import RenderLoop.Surface.Transition

/-!
# RenderLoop — reports of outcomes and surfaces

How failures, log entries and the properties of surfaces are reported. Short tuples of
numbers, such as extents and rectangles, are lists; everything else is a record. A failure
is reported by the name of its cause and its wording, a success by its value.
-/

namespace RenderLoop.Data

-- ---------------------------------------------------------------------------
-- Failures and log entries
-- ---------------------------------------------------------------------------

instance : Reportable RenderError :=
  ⟨fun e => record [("error", text e.causeName), ("message", text e.message)]⟩

/-- A success is reported with its value under `ok`, a failure as the failure. -/
instance {α : Type} [Reportable α] : Reportable (Except RenderError α) :=
  ⟨fun r => match r with
    | .ok a => record [("ok", report a)]
    | .error e => report e⟩

instance : Reportable LogEntry :=
  ⟨fun e => list [report e.severity, text e.source, text e.message, bool e.located]⟩

-- ---------------------------------------------------------------------------
-- Surfaces
-- ---------------------------------------------------------------------------

instance : Reportable Extent := ⟨fun e => report [e.width, e.height]⟩

instance : Reportable Color := ⟨fun c => report [c.red, c.green, c.blue, c.alpha]⟩

instance : Reportable Viewport :=
  ⟨fun v => report [v.x, v.y, v.width, v.height, v.minDepth, v.maxDepth]⟩

instance : Reportable Rect :=
  ⟨fun r => list [report r.x, report r.y, report r.width, report r.height]⟩

instance : Reportable ClearValue :=
  ⟨fun v => match v with
    | .color c => record [("color", report c)]
    | .depthStencil depth stencil =>
      record [("depth", report depth), ("stencil", report stencil)]⟩

instance : Reportable ColorSpace := ⟨fun s => text s.name⟩

instance : Reportable SurfaceFormat := ⟨fun f => list [report f.format, report f.colorSpace]⟩

instance : Reportable ImageTransition :=
  ⟨fun t => record [("old", report t.old), ("new", report t.new),
    ("src_access", report t.sourceAccess.bits), ("dst_access", report t.targetAccess.bits),
    ("src_stage", report t.sourceStage.bits), ("dst_stage", report t.targetStage.bits),
    ("aspect", report t.aspects.bits)]⟩

end RenderLoop.Data
