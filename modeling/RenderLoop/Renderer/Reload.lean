import RenderLoop.Renderer.Resize

/-!
# RenderLoop — changing how meshes are drawn

The state of the pipelines and the program can be changed between frames. Reloading
the program loads its files again; what the device has of it is made again only if a
stage has changed.
-/

namespace RenderLoop.Renderer

/-- Changes the state that meshes are drawn with. -/
def setPipelineState (state : PipelineState) : Action Unit := do
  requireNoFrame "change pipeline state"
  if state ≠ (← get).1.pipelineState then
    set fun r => { r with pipelineState := state }
    buildPipelines

/-- Makes again what the device has of the program. -/
def remakeProgram : Action Unit := do
  GpuContext.waitIdle.onHost
  set fun r => { r with memory := r.memory.withRange (uniformRange r.program) }
  let program := (← get).1.program
  onModules (ShaderModules.sync program)
  onDescriptors (Descriptors.rebuild program (← get).1.memory.region)
  rebuildPipelines

/-- What is logged about a reloaded program. -/
def reloadedEntry (p : Program) (report : CompileReport) : LogEntry :=
  .info component
    s!"Shaders reloaded (generation {p.generation}, {report.errors.length} errors)"

/-- Loads the program again. -/
def reloadShaders : Action CompileReport := do
  requireNoFrame "reload shaders"
  let report ← onProgram (Program.compile tools)
  if report.rebuilt then
    remakeProgram
    Op.log (reloadedEntry (← get).1.program report)
  else Op.log (.debug component "Shaders unchanged")
  pure report

/-- Sets the matrices that meshes are drawn with. -/
def setMatrices (matrices : Matrices) (r : Renderer) : Renderer := { r with matrices }

/-- Sets the colour that frames are cleared to. -/
def setClearColor (clearColor : Color) (r : Renderer) : Renderer :=
  { r with machine := { r.machine with clearColor } }

end RenderLoop.Renderer
