import RenderLoop.Gpu.Allocation
import RenderLoop.Gpu.Device

/-!
# RenderLoop — render pass, depth image and framebuffers

The render pass draws to a colour image and to the depth image; a **framebuffer**
binds both together, one for each image of the swapchain. All framebuffers share
the depth image, since one frame is rendered at a time.

When the size changes everything is torn down and made again. Whatever fails on the
way, what has been torn down stays so: the pass is 0 and there is no depth image
until both have been made again.
-/

namespace RenderLoop

/-- The depth image and its view. -/
structure DepthImage where
  image : Handle
  /-- The view; 0 before it is made. -/
  view : Handle := 0
  deriving DecidableEq, Repr, Inhabited

/-- The render pass and what it draws to. -/
structure RenderTargets where
  /-- The pass: none before there was one, 0 while it is being replaced. -/
  pass : Option Handle := none
  depthFormat : TextureFormat := .undefined
  depth : Option DepthImage := none
  framebuffers : List Handle := []
  /-- How often the pass was replaced. -/
  generation : UInt64 := 0
  deriving DecidableEq, Repr, Inhabited

namespace RenderTargets

/-- The component that render targets log as. -/
def component : String := "ofvk::vulkan::RenderPass"

/-- The handle of the pass. -/
def passHandle (t : RenderTargets) : Handle := t.pass.getD 0

/-- The depth view; 0 if there is none. -/
def depthView (t : RenderTargets) : Handle := (t.depth.map (·.view)).getD 0

/-- What the commands of frames refer to. -/
def frameTargets (t : RenderTargets) (images : List Handle) : FrameTargets :=
  ⟨t.passHandle, t.framebuffers, images, (t.depth.map (·.image)).getD 0⟩

-- ---------------------------------------------------------------------------
-- The depth image
-- ---------------------------------------------------------------------------

/-- Makes a call of the setup. -/
def setUp {α : Type} (what : String) (step : GpuStep α) : Op Host α :=
  Host.setUp component what what step

/-- Destroys a depth image and its view, if that has been made. -/
def destroyDepth (d : DepthImage) : Host → Host :=
  Host.onGpu fun g => (g.destroyIfAny .imageView d.view).destroy .image d.image

/-- Gives a depth image its memory, moves it to its layout and makes its view. -/
def finishDepth (format : TextureFormat) (image : Handle) (setup : CommandBuffer) :
    Op Host DepthImage := do
  Host.provide component "allocate depth image memory" Gpu.provideDepthMemory
  setUp "bind depth image memory" (Gpu.perform (.bindImage image))
  Op.change (Host.record setup.handle (.barrier image (.depthStencilInit format.depthAspects)))
  let view ← setUp "create depth image view"
    (Gpu.create (.imageView image format .unchanged format.depthAspects))
  pure { image, view }

/-- Creates a depth image. -/
def createDepth (format : TextureFormat) (extent : Extent) (setup : CommandBuffer) :
    Op Host DepthImage := do
  let image ← setUp "create depth image" (Gpu.create (.image format extent))
  (finishDepth format image setup).undoing (Host.onGpu (Gpu.destroy .image image))

-- ---------------------------------------------------------------------------
-- Creation
-- ---------------------------------------------------------------------------

/-- Creates a render pass. -/
def createPass (color depth : TextureFormat) : Op Host Handle :=
  setUp "create render pass" (Gpu.create (.renderPass color depth))

/-- Creates the depth image and the pass. There are no framebuffers yet. -/
def create (color depthFormat : TextureFormat) (extent : Extent) (setup : CommandBuffer) :
    Op Host RenderTargets := do
  let depth ← createDepth depthFormat extent setup
  let pass ← (createPass color depthFormat).undoing (destroyDepth depth)
  pure { pass := some pass, depthFormat, depth := some depth }

/-- Destroys the framebuffers. -/
def dropFramebuffers (s : RenderTargets × Host) : RenderTargets × Host :=
  ({ s.1 with framebuffers := [] }, s.2.onGpu (Gpu.destroyAll .framebuffer s.1.framebuffers))

/-- Creates framebuffers for colour views in order. -/
def addFramebuffers (extent : Extent) : List Handle → Op (RenderTargets × Host) Unit
  | [] => pure ()
  | view :: rest => do
    let t := (← get).1
    let framebuffer ← (setUp "create framebuffer"
      (Gpu.create (.framebuffer t.passHandle [view, t.depthView] extent))).onHost
    Op.change fun s => ({ s.1 with framebuffers := s.1.framebuffers ++ [framebuffer] }, s.2)
    addFramebuffers extent rest

/-- Exchanges the framebuffers for one per colour view. -/
def createFramebuffers (views : List Handle) (extent : Extent) : Op (RenderTargets × Host) Unit := do
  Op.change dropFramebuffers
  addFramebuffers extent views

-- ---------------------------------------------------------------------------
-- Tearing down
-- ---------------------------------------------------------------------------

/-- Destroys framebuffers, pass and depth image. -/
def tearDown (s : RenderTargets × Host) : RenderTargets × Host :=
  let (t, h) := dropFramebuffers s
  let h := h.onGpu (Gpu.destroyAll .renderPass t.pass.toList)
  ({ t with pass := t.pass.map fun _ => 0, depth := none },
    t.depth.toList.foldl (fun h d => destroyDepth d h) h)

/-- Destroys everything. -/
def destroy (s : RenderTargets × Host) : Host := (tearDown s).2

/-- What is logged about a replaced pass. -/
def recreatedEntry (extent : Extent) (generation : UInt64) : LogEntry :=
  .debug component (s!"Render pass recreated at {extent.width}x{extent.height} " ++
    s!"(generation {generation})")

/-- Makes depth image and pass again. Framebuffers have to be created afterwards. -/
def recreate (color : TextureFormat) (extent : Extent) (setup : CommandBuffer) :
    Op (RenderTargets × Host) Unit := do
  Op.change tearDown
  let format := (← get).1.depthFormat
  let depth ← (createDepth format extent setup).onHost
  Op.change fun s => ({ s.1 with depth := some depth }, s.2)
  let pass ← (createPass color format).onHost
  let generation ← Op.ofOption (Checked.add64 (← get).1.generation 1)
  Op.change fun s => ({ s.1 with pass := some pass, generation }, s.2)
  Op.log (recreatedEntry extent generation)

end RenderTargets

end RenderLoop
