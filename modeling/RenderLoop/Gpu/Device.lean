import RenderLoop.Frame.Device
import RenderLoop.Gpu.Context

/-!
# RenderLoop — the device as frames see it

Command buffers come from one pool of the device. Frames speak of the framebuffer
of an image and of the image at an index; which objects those are is decided by the
**targets**, which are set when images are made and remade. A command about an
image that the targets do not have is left out and logged.
-/

namespace RenderLoop

/-- The objects that the commands of frames refer to. -/
structure FrameTargets where
  pass : Handle := 0
  /-- The framebuffer of each image. -/
  framebuffers : List Handle := []
  images : List Handle := []
  depthImage : Handle := 0
  deriving DecidableEq, Repr, Inhabited

/-- The image a barrier applies to, if there is one. -/
def FrameTargets.image? (t : FrameTargets) : BarrierImage → Option Handle
  | .swapchain index => t.images[index.toNat]?
  | .depthStencil => if t.depthImage = 0 then none else some t.depthImage

/-- The device with its command pool. -/
structure GpuDevice where
  context : GpuContext
  pool : Handle
  targets : FrameTargets := {}

instance : Inhabited GpuDevice := ⟨{ context := default, pool := 0 }⟩

namespace GpuDevice

/-- The component that devices log as. -/
def component : String := "ofvk::vulkan::Device"

/-- Creates the command pool. -/
def create (context : GpuContext) : Op Host GpuDevice := do
  let pool ← Host.setUp component "create command pool" "create command pool"
    (Gpu.create (.commandPool context.family))
  pure { context, pool }

/-- Destroys the command pool, and the command buffers with it. -/
def destroy (d : GpuDevice) : Host → Host := Host.onGpu (Gpu.destroy .commandPool d.pool)

/-- Makes a call on the device. -/
def invoke {α : Type} (name : String) (step : GpuStep α) : Op (GpuDevice × Host) α :=
  (Host.invoke component name step).onHost

/-- Makes a call that answers nothing. -/
def perform (call : GpuCall) : Op (GpuDevice × Host) Unit := invoke call.name (Gpu.perform call)

-- ---------------------------------------------------------------------------
-- Recording
-- ---------------------------------------------------------------------------

/-- The command of the device for a command of a frame, or what is logged if there is none. -/
def resolve (t : FrameTargets) : Command → Except LogEntry GpuCommand
  | .setViewport v => .ok (.setViewport v)
  | .setScissor r => .ok (.setScissor r)
  | .beginRenderPass index area clears =>
    match t.framebuffers[index.toNat]? with
    | some framebuffer => .ok (.beginRenderPass t.pass framebuffer area clears)
    | none => .error (.error component
        s!"No framebuffer for image {index} ({t.framebuffers.length} framebuffers)")
  | .endRenderPass => .ok .endRenderPass
  | .barrier image transition =>
    match t.image? image with
    | some h => .ok (.barrier h transition)
    | none => .error (.error component s!"Barrier on unknown image {image.text}")

end GpuDevice

/-- Records a command of the device. -/
def Host.record (buffer : Handle) (command : GpuCommand) : Host → Host :=
  Host.onGpu (Gpu.happen (.record buffer command) .done)

namespace GpuDevice

/-- Records a command of a frame. -/
def record (b : CommandBuffer) (command : Command) (w : GpuDevice × Host) : GpuDevice × Host :=
  match resolve w.1.targets command with
  | .ok c => (w.1, w.2.record b.handle c)
  | .error entry => Logging.push entry w

/-- Allocates command buffers. -/
def allocate (count : UInt32) : Op (GpuDevice × Host) (List CommandBuffer) := do
  Op.log (.trace component s!"Allocating {count} command buffers")
  let hs ← invoke "vkAllocateCommandBuffers" (Gpu.allocateBuffers (← get).1.pool count)
  pure (hs.map CommandBuffer.mk)

/-- Frees command buffers, if there are any. -/
def free (bs : List CommandBuffer) (w : GpuDevice × Host) : GpuDevice × Host :=
  if bs.isEmpty then w
  else (w.1, w.2.onGpu (Gpu.happen (.freeBuffers w.1.pool (bs.map (·.handle))) .done))

instance : FrameDevice (GpuDevice × Host) where
  createSemaphore := do
    return ⟨← invoke "vkCreateSemaphore" (Gpu.create .semaphore)⟩
  destroySemaphore s w := (w.1, w.2.onGpu (Gpu.destroy .semaphore s.handle))
  allocate := allocate
  free := free
  reset b := perform (.resetBuffer b.handle)
  beginBuffer b := perform (.beginBuffer b.handle)
  endBuffer b := perform (.endBuffer b.handle)
  record := record
  submit b waits signals := perform
    (.submit b.handle (waits.map fun (s, stages) => (s.handle, stages)) (signals.map (·.handle)))
  waitQueue := perform .waitQueue

end GpuDevice

end RenderLoop
