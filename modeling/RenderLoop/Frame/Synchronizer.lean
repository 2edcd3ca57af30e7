import RenderLoop.Frame.Recorder

/-!
# RenderLoop — one frame at a time

The **synchronizer** takes frames through acquisition, recording, submission and
presentation, one after the other. It is idle between frames:

    idle → acquiring → recording → submitted → presenting → postBarrier → idle

A frame begins when an image is acquired and its draw buffer is being recorded. It
ends when the draw buffer has been submitted, the image has been moved to the
layout of presentation, presented and moved back, and the device has finished.

A chain that is out of date is noticed at acquisition or at presentation; the
machine is idle again afterwards. Any other failure loses the machine for good.
-/

namespace RenderLoop

/-- The states of the machine. -/
inductive FrameState where
  | idle
  | acquiring
  | recording
  | submitted
  | presenting
  | postBarrier
  | lost
  deriving DecidableEq, Repr, Inhabited

def FrameState.name : FrameState → String
  | idle => "Idle"
  | acquiring => "Acquiring"
  | recording => "Recording"
  | submitted => "Submitted"
  | presenting => "Presenting"
  | postBarrier => "PostBarrier"
  | lost => "Lost"

instance : Named FrameState :=
  ⟨[.idle, .acquiring, .recording, .submitted, .presenting, .postBarrier, .lost], FrameState.name⟩

/-- A frame that is being recorded. -/
structure Frame where
  imageIndex : UInt32
  buffer : CommandBuffer
  extent : Extent
  deriving DecidableEq, Repr, Inhabited

/-- The frame machine. -/
structure Synchronizer where
  /-- Signalled when an acquired image is ready. -/
  presentComplete : Semaphore
  /-- Signalled when the draw buffer is done. -/
  renderComplete : Semaphore
  recorder : Recorder
  clearColor : Color
  state : FrameState := .idle
  /-- Frames that were presented and finished. -/
  framesCompleted : UInt64 := 0
  destroyed : Bool := false
  deriving DecidableEq, Repr, Inhabited

namespace Synchronizer

/-- The component that the machine logs as. -/
def component : String := "ofvk::FrameSynchronizer"

/-- The values the attachments are cleared to, colour first. -/
def clearValues (s : Synchronizer) : List ClearValue :=
  [.color s.clearColor, .depthStencil .one 0]

-- ---------------------------------------------------------------------------
-- Beginning and end
-- ---------------------------------------------------------------------------

section Device

variable {σ : Type} [FrameDevice σ]

/-- Frees the buffers of a recorder if an operation fails. -/
def destroyOnFailure {α : Type} (r : Recorder) (op : Op σ α) : Op σ α :=
  op.undoing fun w => (Recorder.destroy (r, w)).2

/-- Creates the two semaphores; if there is no second one, the first is destroyed again. -/
def createSemaphores : Op σ (Semaphore × Semaphore) := do
  let first ← FrameDevice.createSemaphore
  let second ← (FrameDevice.createSemaphore : Op σ _).undoing (FrameDevice.destroySemaphore first)
  pure (first, second)

/-- An idle machine, whose setup buffer is being recorded. -/
def create (clearColor : Color) : Op σ Synchronizer := do
  let recorder ← Recorder.create
  let (presentComplete, renderComplete) ← destroyOnFailure recorder createSemaphores
  pure { presentComplete, renderComplete, recorder, clearColor }

/-- Runs an operation on the recorder of the machine. -/
def onRecorder {α : Type} (op : Op (Recorder × σ) α) : Op (Synchronizer × σ) α :=
  op.on (fun s => (s.1.recorder, s.2)) fun r s => ({ s.1 with recorder := r.1 }, r.2)

/-- Destroys the semaphores and frees the buffers, once. -/
def destroy (s : Synchronizer × σ) : Synchronizer × σ :=
  if s.1.destroyed then s
  else
    let (recorder, w) := Recorder.destroy (s.1.recorder, s.2)
    ({ s.1 with recorder, state := .lost, destroyed := true },
      FrameDevice.destroySemaphore s.1.renderComplete
        (FrameDevice.destroySemaphore s.1.presentComplete w))

-- ---------------------------------------------------------------------------
-- States
-- ---------------------------------------------------------------------------

/-- Enters a state. -/
def enter (state : FrameState) : Op (Synchronizer × σ) Unit :=
  Op.change fun s => ({ s.1 with state }, s.2)

/-- Why an operation cannot run now, if it cannot. -/
def refusal? (s : Synchronizer) (expected : FrameState) (operation : String) :
    Option RenderError :=
  if s.state = .lost then some (.deviceLost s!"Cannot {operation}: a previous frame failed")
  else if s.state ≠ expected then some (.invalidFrameState operation s.state.name)
  else none

/-- Fails unless the machine is in the state that an operation needs. -/
def expect (expected : FrameState) (operation : String) : Op (Synchronizer × σ) Unit := do
  match (← get).1.refusal? expected operation with
  | some e => throw e
  | none => pure ()

/-- Loses the machine to a failure. -/
def lose {α : Type} (e : RenderError) : Op (Synchronizer × σ) α := do
  Op.log (.debug component s!"Frame lost while {(← get).1.state.name}")
  enter .lost
  Op.failWith (.report component e) e

/-- Runs an operation whose failure loses the machine. -/
def orLose {α : Type} (op : Op (Synchronizer × σ) α) : Op (Synchronizer × σ) α := do
  match ← op.attempt with
  | .ok a => pure a
  | .error e => lose e

/-- What is logged when the chain is found to be out of date. -/
def outOfDateEntry : LogEntry := .report component .swapchainOutOfDate

-- ---------------------------------------------------------------------------
-- The commands of a frame
-- ---------------------------------------------------------------------------

/-- The commands at the start of a draw buffer. -/
def openingCommands (imageIndex : UInt32) (extent : Extent) (clears : List ClearValue) :
    List Command :=
  [.setViewport (.ofExtent extent), .setScissor (.ofExtent extent),
    .beginRenderPass imageIndex (.ofExtent extent) clears]

/-- Begins the draw buffer of an image. -/
def recordOpening (imageIndex images : UInt32) (extent : Extent) :
    Op (Synchronizer × σ) CommandBuffer := do
  let b ← onRecorder (Recorder.drawBuffer imageIndex images)
  (FrameDevice.beginBuffer b).onSecond
  Op.change fun s =>
    (s.1, FrameDevice.recordAll b (openingCommands imageIndex extent s.1.clearValues) s.2)
  pure b

/-- Ends and submits the draw buffer. -/
def submitDraw (b : CommandBuffer) (ready done : Semaphore) : Op σ Unit := do
  Op.change (FrameDevice.record b .endRenderPass)
  FrameDevice.endBuffer b
  FrameDevice.submit b [(ready, .bottomOfPipe)] [done]

/-- Records and submits a buffer that moves one image to another layout. -/
def submitBarrier (b : CommandBuffer) (imageIndex : UInt32) (t : ImageTransition) : Op σ Unit := do
  FrameDevice.beginBuffer b
  Op.change (FrameDevice.record b (.barrier (.swapchain imageIndex) t))
  FrameDevice.endBuffer b
  FrameDevice.submit b [] []

end Device

-- ---------------------------------------------------------------------------
-- Frames
-- ---------------------------------------------------------------------------

section World

variable {σ : Type} [FrameWorld σ]

/-- Acquires the next image. -/
def acquireImage : Op (Synchronizer × σ) UInt32 := do
  enter .acquiring
  match ← (FrameWorld.acquire (← get).1.presentComplete : Op σ _).onSecond.attempt with
  | .ok index => do
    Op.log (.trace component s!"Acquired swapchain image {index}")
    pure index
  | .error .swapchainOutOfDate => do
    enter .idle
    Op.failWith outOfDateEntry .swapchainOutOfDate
  | .error e => lose e

/-- Begins a frame: acquires an image and begins its draw buffer. -/
def beginFrame (extent : Extent) : Op (Synchronizer × σ) Frame := do
  expect .idle "begin frame"
  let imageIndex ← acquireImage
  let images := FrameWorld.imageCount (← get).2
  let buffer ← orLose (recordOpening imageIndex images extent)
  enter .recording
  pure { imageIndex, buffer, extent }

/-- The state shown when a frame for another image is handed back. -/
def otherImageText (s : Synchronizer) (current frame : UInt32) : String :=
  s!"{s.state.name} on image {current} (frame context is for image {frame})"

/-- Fails unless a frame is for the image acquired last. -/
def expectCurrent (f : Frame) : Op (Synchronizer × σ) Unit := do
  let current := FrameWorld.currentImage (← get).2
  if f.imageIndex ≠ current then
    throw (.invalidFrameState "end frame" ((← get).1.otherImageText current f.imageIndex))
  else pure ()

/-- Presents an image. The answer says whether the chain was still up to date. -/
def presentImage (imageIndex : UInt32) : Op (Synchronizer × σ) Bool := do
  let waits := [(← get).1.renderComplete]
  match ← (FrameWorld.present imageIndex waits : Op σ _).onSecond.attempt with
  | .ok () => pure true
  | .error .swapchainOutOfDate => do
    Op.log outOfDateEntry
    pure false
  | .error e => lose e

/-- Submits the draw buffer of a frame. -/
def finishDraw (f : Frame) : Op (Synchronizer × σ) Unit := do
  let s := (← get).1
  orLose (submitDraw f.buffer s.presentComplete s.renderComplete).onSecond
  enter .submitted

/-- Makes an image ready for presentation. -/
def finishPre (f : Frame) : Op (Synchronizer × σ) Unit := do
  let b := (← get).1.recorder.prePresent
  orLose (submitBarrier b f.imageIndex .prePresent).onSecond

/-- Takes a presented image back and waits for the device. -/
def finishPost (f : Frame) : Op (Synchronizer × σ) Unit := do
  let b := (← get).1.recorder.postPresent
  orLose (do
    submitBarrier b f.imageIndex .postPresent
    FrameDevice.waitQueue).onSecond
  enter .postBarrier

/-- Counts a frame that was presented. -/
def countFrame : Op (Synchronizer × σ) Unit := do
  let n ← Op.ofOption (Checked.add64 (← get).1.framesCompleted 1)
  Op.change fun s => ({ s.1 with framesCompleted := n }, s.2)

/-- Ends a frame: submits and presents it, and waits until the device is done. -/
def endFrame (f : Frame) : Op (Synchronizer × σ) Unit := do
  expect .recording "end frame"
  expectCurrent f
  finishDraw f
  finishPre f
  let presented ← presentImage f.imageIndex
  enter .presenting
  finishPost f
  enter .idle
  if presented then countFrame else throw .swapchainOutOfDate

end World

end Synchronizer

end RenderLoop
