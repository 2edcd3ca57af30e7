import RenderLoop.Renderer.Basic

/-!
# RenderLoop — following the window

When the surface changes, everything sized by it is made again: swapchain, depth
image, render pass, framebuffers and the pipelines of the pass. A surface without
area is that of a minimised window; then the old ones stay until there is an area
again.
-/

namespace RenderLoop.Renderer

/-- Fails while a frame is being recorded. -/
def requireNoFrame (operation : String) : Action Unit := do
  let r := (← get).1
  if r.frame.isSome then throw (.invalidFrameState operation r.machine.state.name)

/-- Whether there is nothing to render to now. -/
def hasNoArea : Action Bool := do
  let window := (← get).1.window
  if window.isEmpty then pure true else (Swapchain.isMinimized window).onHost

/-- Makes swapchain, render targets and framebuffers again. -/
def remakeScreen (setup : CommandBuffer) : Action Unit := do
  let r := (← get).1
  onSwapchain (Swapchain.recreate r.context.surface r.window setup)
  let swapchain := (← get).1.swapchain
  onTargets (RenderTargets.recreate swapchain.format.format swapchain.extent setup)
  onTargets (RenderTargets.createFramebuffers swapchain.views swapchain.extent)
  set retarget

/-- What is logged after everything was made again. -/
def resizedEntry (extent : Extent) : LogEntry :=
  .info component s!"Resized to {extent.width}x{extent.height}"

/-- What is logged when there is no area. -/
def deferredEntry : LogEntry :=
  .debug component "Surface has no area, deferring swapchain rebuild"

/-- Makes everything sized by the surface again, unless that has no area. -/
def rebuild : Action Unit := do
  if ← hasNoArea then Op.log deferredEntry
  else
    GpuContext.waitIdle.onHost
    let setup ← onMachine (Synchronizer.onRecorder Recorder.beginSetup)
    remakeScreen setup
    onMachine (Synchronizer.onRecorder Recorder.flushSetup)
    rebuildPipelines
    Op.log (resizedEntry (← get).1.extent)

/-- Follows the window to a new size. -/
def resize (window : Extent) : Action Unit := do
  requireNoFrame "resize"
  set fun r => { r with window }
  rebuild

end RenderLoop.Renderer
