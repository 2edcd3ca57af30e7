import RenderLoop.Frame.Device

/-!
# RenderLoop — command buffers by role

All command buffers of a renderer, by what they are used for:

* the **setup** buffer is recorded once and freed when it is flushed;
* there is one **draw** buffer per image of the chain, recorded again every frame;
* the **pre-present** and the **post-present** buffer hold the barriers around
  the presentation of an image.

The number of draw buffers follows the number of images: when they differ, all
draw buffers are exchanged.
-/

namespace RenderLoop

/-- The command buffers of a renderer. -/
structure Recorder where
  setup : Option CommandBuffer := none
  /-- The draw buffer of each image. -/
  draw : List CommandBuffer := []
  prePresent : CommandBuffer
  postPresent : CommandBuffer
  destroyed : Bool := false
  deriving DecidableEq, Repr, Inhabited

namespace Recorder

/-- The component that recorders log as. -/
def component : String := "ofvk::CommandRecorder"

variable {σ : Type} [FrameDevice σ]

/-- Allocates one buffer. -/
def allocateOne : Op σ CommandBuffer := do
  match ← (FrameDevice.allocate 1 : Op σ _) with
  | b :: _ => pure b
  | [] => Op.failBackend component "Command buffer allocation returned no buffer"

/-- Allocates a buffer and begins it. -/
def beginNew : Op σ CommandBuffer := do
  let b ← allocateOne
  FrameDevice.freeOnFailure [b] (FrameDevice.beginBuffer b)
  pure b

/-- Allocates the two buffers of presentation. -/
def allocatePresent : Op σ (CommandBuffer × CommandBuffer) := do
  match ← (FrameDevice.allocate 2 : Op σ _) with
  | [pre, post] => pure (pre, post)
  | others => do
    Op.change (FrameDevice.free others)
    Op.failBackend component s!"Expected 2 present command buffers, got {others.length}"

/-- Allocates all buffers but the draw buffers, and begins the setup buffer. -/
def create : Op σ Recorder := do
  let setup ← beginNew
  let (prePresent, postPresent) ← FrameDevice.freeOnFailure [setup] allocatePresent
  pure { setup := some setup, prePresent, postPresent }

-- ---------------------------------------------------------------------------
-- The setup buffer
-- ---------------------------------------------------------------------------

/-- The setup buffer, begun anew if there is none. -/
def beginSetup : Op (Recorder × σ) CommandBuffer := do
  match (← get).1.setup with
  | some b => pure b
  | none => do
    let b ← beginNew.onSecond
    Op.change fun s => ({ s.1 with setup := some b }, s.2)
    pure b

/-- Ends a buffer, submits it and waits for it. -/
def runToEnd (b : CommandBuffer) : Op σ Unit := do
  FrameDevice.endBuffer b
  FrameDevice.submit b [] []
  FrameDevice.waitQueue

/-- Runs the setup buffer, if there is one, and frees it, also when running it fails. -/
def flushSetup : Op (Recorder × σ) Unit := do
  match (← get).1.setup with
  | none => pure ()
  | some b => do
    Op.change fun s => ({ s.1 with setup := none }, s.2)
    let outcome ← (runToEnd b).onSecond.attempt
    Op.change fun s => (s.1, FrameDevice.free [b] s.2)
    Op.log (.trace component "Setup command buffer flushed")
    Op.ofExcept outcome

-- ---------------------------------------------------------------------------
-- Draw buffers
-- ---------------------------------------------------------------------------

/-- Frees all draw buffers. -/
def dropDraw (s : Recorder × σ) : Recorder × σ :=
  if s.1.draw.isEmpty then s else ({ s.1 with draw := [] }, FrameDevice.free s.1.draw s.2)

/-- Allocates one draw buffer per image. -/
def allocateDraw (images : UInt32) : Op σ (List CommandBuffer) := do
  let bs ← FrameDevice.allocate images
  if bs.length = images.toNat then pure bs
  else do
    Op.change (FrameDevice.free bs)
    Op.failBackend component s!"Expected {images} draw command buffers, got {bs.length}"

/-- Exchanges the draw buffers for as many as there are images. -/
def renewDraw (images : UInt32) : Op (Recorder × σ) Unit := do
  Op.change dropDraw
  let bs ← (allocateDraw images).onSecond
  Op.change fun s => ({ s.1 with draw := bs }, s.2)

/-- The draw buffer at an index. -/
def drawAt (index : UInt32) : Op (Recorder × σ) CommandBuffer := do
  Op.ofOption (← get).1.draw[index.toNat]?

/-- The draw buffer of an image, ready to be begun. A buffer that has been used before is reset. -/
def drawBuffer (index images : UInt32) : Op (Recorder × σ) CommandBuffer := do
  if index ≥ images then
    Op.failBackend component s!"Image index {index} out of range for {images} swapchain images"
  else if (← get).1.draw.length = images.toNat then do
    let b ← drawAt index
    (FrameDevice.reset b).onSecond
    pure b
  else do
    renewDraw images
    drawAt index

-- ---------------------------------------------------------------------------
-- The end
-- ---------------------------------------------------------------------------

/-- Frees the setup buffer, if there is one. -/
def dropSetup (s : Recorder × σ) : Recorder × σ :=
  match s.1.setup with
  | some b => ({ s.1 with setup := none }, FrameDevice.free [b] s.2)
  | none => s

/-- Frees all buffers, once. -/
def destroy (s : Recorder × σ) : Recorder × σ :=
  if s.1.destroyed then s
  else
    let s := dropDraw (dropSetup ({ s.1 with destroyed := true }, s.2))
    (s.1, FrameDevice.free [s.1.prePresent, s.1.postPresent] s.2)

end Recorder

end RenderLoop
