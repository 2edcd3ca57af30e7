import RenderLoop.Renderer.Basic

/-!
# RenderLoop — setting up a renderer

A renderer is made part by part, each from those before it. When a part cannot be
made, all parts made so far are destroyed, the last one first; only what the setup
of the context itself leaves behind stays.
-/

namespace RenderLoop.Renderer

/-- Makes the swapchain and what frames are rendered to. -/
def makeScreen (probe : SurfaceProbe) (setup : CommandBuffer) : Action Unit := do
  let surface := (← get).1.context.surface
  onSwapchain (Swapchain.build surface probe (← get).1.window setup)
  let r := (← get).1
  let depthFormat ← r.context.physical.chooseDepth.onHost
  let targets ← (RenderTargets.create probe.format.format depthFormat r.extent setup).onHost
  set fun r => { r with targets }

/-- Loads the pipeline cache. -/
def loadCache (path : String) : Action Unit := do
  let cache ← (PipelineCache.load (← get).1.context path).onHost
  set fun r => { r with cache }

/-- Makes the framebuffers and runs what has been recorded for the setup. -/
def finishScreen : Action Unit := do
  let swapchain := (← get).1.swapchain
  onTargets (RenderTargets.createFramebuffers swapchain.views swapchain.extent)
  set retarget
  onMachine (Synchronizer.onRecorder Recorder.flushSetup)

/-- Makes the frame buffer. -/
def makeMemory (config : RendererConfig) : Action Unit := do
  let memory ← (FrameMemory.create (← get).1.context config.allocatorSize
    config.allocatorAlignment).onHost
  set fun r => { r with memory }

/-- Compiles the program, which has to have a stage at least. -/
def loadProgram : Action Unit := do
  let report ← onProgram (Program.compile tools)
  if (← get).1.program.stages.isEmpty then
    throw (.initializationFailed
      s!"Default shader has no loadable stage ({report.errors.length} errors)")
  set fun r => { r with memory := r.memory.withRange (uniformRange r.program) }

/-- Makes what the device needs to run the program. -/
def makeProgram : Action Unit := do
  let program := (← get).1.program
  onModules (ShaderModules.create program)
  onDescriptors (Descriptors.build program (← get).1.memory.region)
  buildPipelines

/-- What is logged about a finished renderer. -/
def readyEntry (r : Renderer) : LogEntry :=
  .info component (s!"Renderer ready: {r.extent.width}x{r.extent.height}, " ++
    s!"{r.swapchain.images.length} swapchain images, {r.swapchain.presentMode.name}")

/-- Makes all parts of a renderer that has a device and a frame machine. -/
def makeParts (config : RendererConfig) (probe : SurfaceProbe) : Action Unit := do
  match (← get).1.machine.recorder.setup with
  | none => throw (.initializationFailed "Setup command buffer missing")
  | some setup => do
    makeScreen probe setup
    loadCache config.cachePath
    finishScreen
    makeMemory config
    loadProgram
    makeProgram
    Op.log (← get).1.readyEntry

/-- A renderer whose parts have not been made. -/
def bare (device : GpuDevice) (machine : Synchronizer) (config : RendererConfig)
    (probe : SurfaceProbe) (window : Extent) : Renderer where
  device := device
  machine := machine
  swapchain := .unbuilt config probe.format
  program := { sources := config.shaders, sparseSets := config.sparseSets }
  window := window

/-- Creates the frame machine of a device. -/
def createMachine (device : GpuDevice) (clearColor : Color) : Op Host Synchronizer :=
  (Synchronizer.create clearColor : Op (GpuDevice × Host) _).on (fun h => (device, h)) fun t _ => t.2

/-- Makes a renderer with a device. -/
def createOnDevice (device : GpuDevice) (window : Extent) (config : RendererConfig)
    (probe : SurfaceProbe) : Op Host Renderer := do
  let machine ← createMachine device config.clearColor
  Op.extending (bare device machine config probe window) dismantle (makeParts config probe)

/-- Makes a renderer in a context. -/
def createInContext (context : GpuContext) (window : Extent) (config : RendererConfig) :
    Op Host Renderer := do
  let probe ← SurfaceProbe.take
  let device ← GpuDevice.create context
  (createOnDevice device window config probe).undoing device.destroy

/-- Makes a renderer for a window. -/
def create (window : Window) (config : RendererConfig) : Op Host Renderer := do
  let context ← GpuContext.create window config
  (createInContext context window.extent config).undoing context.destroy

end RenderLoop.Renderer
