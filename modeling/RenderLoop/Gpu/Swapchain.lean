import RenderLoop.Gpu.Device
import RenderLoop.Gpu.Probe

/-!
# RenderLoop — the swapchain

The images that frames are presented with, and a view of each. A chain is built for
what a probe of the surface reports. Building it again hands the old chain to the
device, which then gives it up: its views and the chain itself are destroyed as
soon as the new chain exists. New images are moved to the layout of presentation by
the setup buffer, so that a frame finds every image in the layout it expects.
-/

namespace RenderLoop

/-- The swapchain. -/
structure Swapchain where
  /-- The chain; 0 before one was built. -/
  handle : Handle := 0
  images : List Handle := []
  views : List Handle := []
  format : SurfaceFormat
  extent : Extent := ⟨0, 0⟩
  /-- The number of images asked for. -/
  requestedImages : UInt32
  /-- The mode asked for. -/
  requestedMode : PresentMode
  presentMode : PresentMode := .fifo
  /-- The image acquired last. -/
  current : UInt32 := 0
  deriving DecidableEq, Repr, Inhabited

namespace Swapchain

/-- The component that swapchains log as. -/
def component : String := "ofvk::vulkan::Swapchain"

/-- A chain that has not been built yet. -/
def unbuilt (config : RendererConfig) (format : SurfaceFormat) : Swapchain :=
  { format, requestedImages := config.imageCount, requestedMode := config.presentMode }

-- ---------------------------------------------------------------------------
-- Building
-- ---------------------------------------------------------------------------

/-- What to ask for when a chain is built for a window of this size, and what is logged about it. -/
def request (c : Swapchain) (surface : Handle) (probe : SurfaceProbe) (window : Extent) :
    Option (SwapchainRequest × List LogEntry) :=
  (probe.capabilities.imageExtent window).map fun extent =>
    ({ surface, minImages := probe.capabilities.imageCount c.requestedImages, format := probe.format,
       extent, transform := probe.capabilities.imageTransform,
       presentMode := PresentMode.choose c.requestedMode probe.presentModes, old := c.handle },
      (PresentMode.fallbackEntry? c.requestedMode probe.presentModes).toList)

/-- Destroys the views. -/
def dropViews (s : Swapchain × Host) : Swapchain × Host :=
  ({ s.1 with views := [] }, s.2.onGpu (Gpu.destroyAll .imageView s.1.views))

/-- Takes over a new chain: what is left of the old one is destroyed. -/
def replace (handle : Handle) (s : Swapchain × Host) : Swapchain × Host :=
  let (c, h) := dropViews s
  ({ c with handle }, h.onGpu (Gpu.destroyIfAny .swapchain c.handle))

/-- Moves a new image to the layout of presentation and makes its view. -/
def addView (setup : CommandBuffer) (format : TextureFormat) (image : Handle) :
    Op (Swapchain × Host) Unit := do
  Op.change fun s => (s.1, s.2.record setup.handle (.barrier image .presentSource))
  let view ← (Host.setUp component "create swapchain image view" "create image view"
    (Gpu.create (.imageView image format .named .color))).onHost
  Op.change fun s => ({ s.1 with views := s.1.views ++ [view] }, s.2)

/-- Makes the views of images in order. -/
def addViews (setup : CommandBuffer) (format : TextureFormat) :
    List Handle → Op (Swapchain × Host) Unit
  | [] => pure ()
  | image :: rest => do
    addView setup format image
    addViews setup format rest

/-- What is logged about a finished chain. -/
def builtEntry (c : Swapchain) : LogEntry :=
  .info component (s!"Swapchain {c.extent.width}x{c.extent.height}, {c.images.length} images, " ++
    c.presentMode.name)

/-- Builds a chain for a window of this size. -/
def build (surface : Handle) (probe : SurfaceProbe) (window : Extent) (setup : CommandBuffer) :
    Op (Swapchain × Host) Unit := do
  let (request, entries) ← Op.ofOption ((← get).1.request surface probe window)
  Op.logAll entries
  let handle ← (Host.setUp component "create swapchain" "create swapchain"
    (Gpu.create (.swapchain request))).onHost
  Op.change (replace handle)
  let images ← (Host.setUp component "get swapchain images" "get swapchain images"
    (Gpu.swapchainImages handle)).onHost
  Op.change fun s => ({ s.1 with images }, s.2)
  addViews setup probe.format.format images
  Op.change fun s => ({ s.1 with
    extent := request.extent, presentMode := request.presentMode, current := 0 }, s.2)
  Op.log (← get).1.builtEntry

/-- What is logged when the surface has a new format. -/
def formatEntries (c : Swapchain) (format : SurfaceFormat) : List LogEntry :=
  if format = c.format then []
  else [.warn component s!"Surface format changed from {c.format.text} to {format.text}"]

/-- Probes the surface and builds the chain again. -/
def recreate (surface : Handle) (window : Extent) (setup : CommandBuffer) :
    Op (Swapchain × Host) Unit := do
  let probe ← SurfaceProbe.take.onHost
  Op.logAll ((← get).1.formatEntries probe.format)
  Op.change fun s => ({ s.1 with format := probe.format }, s.2)
  build surface probe window setup

/-- Destroys views and chain. -/
def destroy (s : Swapchain × Host) : Host :=
  (dropViews s).2.onGpu (Gpu.destroyIfAny .swapchain s.1.handle)

/-- Whether a chain for a window of this size would have no area now. -/
def isMinimized (window : Extent) : Op Host Bool := do
  let capabilities ← Host.invoke component SurfaceProbe.capabilitiesCall SurfaceProbe.askCapabilities
  Op.ofOption (capabilities.isMinimized window)

-- ---------------------------------------------------------------------------
-- Frames
-- ---------------------------------------------------------------------------

/-- Acquires the next image. A chain that no longer fits its surface well is still used. -/
def acquire (signal : Semaphore) : Op (Swapchain × GpuDevice × Host) UInt32 := do
  let (c, _) ← get
  let (index, code) ← (Host.call (Gpu.acquire c.handle signal.handle)).onHost.onSecond
  if code = .suboptimal then
    Op.log (.warn component "Swapchain is suboptimal for the surface")
  else if code ≠ .success then
    code.fail component "vkAcquireNextImageKHR"
  Op.change fun s => ({ s.1 with current := index }, s.2)
  pure index

/-- Presents an image. -/
def present (imageIndex : UInt32) (waits : List Semaphore) :
    Op (Swapchain × GpuDevice × Host) Unit := do
  let (c, _) ← get
  let code ← (Host.call (Gpu.present (waits.map (·.handle)) c.handle imageIndex)).onHost.onSecond
  if code = .suboptimal then
    Op.log (.debug component "Presented to a suboptimal swapchain")
  else if code ≠ .success then
    code.fail component "vkQueuePresentKHR"

instance : FrameWorld (Swapchain × GpuDevice × Host) where
  toFrameDevice := FrameDevice.ofSecond Swapchain
  acquire := acquire
  present := present
  imageCount w := UInt32.ofNat w.1.images.length
  currentImage w := w.1.current

end Swapchain

end RenderLoop
