import RenderLoop.Op
import RenderLoop.Checked
import RenderLoop.Surface.Choice
import RenderLoop.Surface.Extent
import RenderLoop.Surface.Transition

/-!
# RenderLoop — the device and the image chain behind a frame

What the frame machinery asks of a world: a **device** that keeps command buffers
and semaphores, takes commands into a buffer and runs a buffer when it is
submitted; and a **chain** of images that are acquired, rendered to and presented.

Commands go into a buffer between its begin and its end and cannot fail there;
everything that talks to the device itself can.
-/

namespace RenderLoop

/-- A command buffer, by its handle. -/
structure CommandBuffer where
  handle : Nat
  deriving DecidableEq, Repr, Inhabited

/-- A binary semaphore, by its handle. -/
structure Semaphore where
  handle : Nat
  deriving DecidableEq, Repr, Inhabited

/-- A command that is recorded into a buffer. -/
inductive Command where
  | setViewport (viewport : Viewport)
  | setScissor (scissor : Rect)
  /-- Begins the render pass on the framebuffer of an image. -/
  | beginRenderPass (framebuffer : UInt32) (area : Rect) (clears : List ClearValue)
  | endRenderPass
  /-- Moves an image to another layout. -/
  | barrier (image : BarrierImage) (transition : ImageTransition)
  deriving DecidableEq, Repr, Inhabited

/-- Worlds with a device. -/
class FrameDevice (σ : Type) extends Logging σ where
  createSemaphore : Op σ Semaphore
  destroySemaphore : Semaphore → σ → σ
  allocate : UInt32 → Op σ (List CommandBuffer)
  free : List CommandBuffer → σ → σ
  /-- Makes a buffer ready to be recorded again. -/
  reset : CommandBuffer → Op σ Unit
  beginBuffer : CommandBuffer → Op σ Unit
  endBuffer : CommandBuffer → Op σ Unit
  record : CommandBuffer → Command → σ → σ
  /-- Submits a buffer. It waits for semaphores, each at some stages, and signals others. -/
  submit : CommandBuffer → List (Semaphore × PipelineStages) → List Semaphore → Op σ Unit
  /-- Waits until everything submitted is done. -/
  waitQueue : Op σ Unit

/-- Worlds with a device and a chain of images. -/
class FrameWorld (σ : Type) extends FrameDevice σ where
  /-- The index of the next image, which is ready once the semaphore is signalled. -/
  acquire : Semaphore → Op σ UInt32
  /-- Queues an image for presentation, after the semaphores. -/
  present : UInt32 → List Semaphore → Op σ Unit
  imageCount : σ → UInt32
  /-- The image acquired last. -/
  currentImage : σ → UInt32

namespace FrameDevice

variable {σ : Type}

/-- The device of a world that is the second component of a larger one. -/
@[reducible] def ofSecond (ρ : Type) [FrameDevice σ] : FrameDevice (ρ × σ) where
  createSemaphore := createSemaphore.onSecond
  destroySemaphore s := fun w => (w.1, destroySemaphore s w.2)
  allocate n := (allocate n).onSecond
  free bs := fun w => (w.1, free bs w.2)
  reset b := (reset b).onSecond
  beginBuffer b := (beginBuffer b).onSecond
  endBuffer b := (endBuffer b).onSecond
  record b c := fun w => (w.1, record b c w.2)
  submit b waits signals := (submit b waits signals).onSecond
  waitQueue := waitQueue.onSecond

/-- Records commands in order. -/
def recordAll [FrameDevice σ] (b : CommandBuffer) (cs : List Command) (w : σ) : σ :=
  cs.foldl (fun w c => record b c w) w

/-- Frees buffers if an operation on them fails. -/
def freeOnFailure [FrameDevice σ] {α : Type} (bs : List CommandBuffer) (op : Op σ α) : Op σ α :=
  op.undoing (free bs)

end FrameDevice

end RenderLoop
