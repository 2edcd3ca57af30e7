import RenderLoop.Rehearsal.History

/-!
# RenderLoop — a device and a chain for rehearsals

A **rehearsal** is a world without a graphics card. Its device hands out handles in
order and notes every call; its chain hands out its images in turn. Both can be
told beforehand to fail: a **fault** names a call by its kind and its number, and
the outcomes of acquisitions and presentations can be scripted.
-/

namespace RenderLoop

/-- What a fault does. -/
inductive FaultEffect where
  /-- The call fails and does not reach the device. -/
  | fail (e : RenderError)
  /-- As many buffers as given are allocated instead of those asked for. -/
  | miscount (buffers : Nat)
  deriving DecidableEq, Repr, Inhabited

/-- A fault at a call, given by its kind and its number from 1. -/
structure DeviceFault where
  call : DeviceCall
  number : Nat
  effect : FaultEffect
  deriving DecidableEq, Repr, Inhabited

/-- A chain of images that are handed out in turn. -/
structure RehearsedChain where
  images : UInt32
  extent : Extent
  /-- The image acquired last. -/
  current : UInt32 := 0
  /-- The image handed out next. -/
  next : UInt32 := 0
  /-- The outcomes of the next acquisitions. -/
  acquireScript : List (Except RenderError UInt32) := []
  /-- The outcomes of the next presentations. -/
  presentScript : List (Except RenderError Unit) := []

instance : Inhabited RehearsedChain := ⟨{ images := 0, extent := ⟨0, 0⟩ }⟩

/-- The format of the images of a rehearsed chain. -/
def RehearsedChain.format : SurfaceFormat := ⟨.b8g8r8a8Unorm, .srgbNonlinear⟩

/-- A world without a graphics card. -/
structure Rehearsal where
  /-- What happened, newest first. -/
  history : DeviceHistory := []
  /-- What was logged, newest first. -/
  log : List LogEntry := []
  nextHandle : Nat := 1
  faults : List DeviceFault := []
  /-- The failure of the next submission. -/
  submitFailure : Option RenderError := none
  /-- The failure of the next wait. -/
  waitFailure : Option RenderError := none
  /-- The number of semaphores there is still room for. -/
  semaphoresLeft : Option UInt32 := none
  chain : RehearsedChain := default

instance : Inhabited Rehearsal := ⟨{}⟩

instance : Logging Rehearsal := ⟨fun e w => { w with log := e :: w.log }⟩

namespace Rehearsal

/-- Adds an event to the history. -/
def happen (e : DeviceEvent) (w : Rehearsal) : Rehearsal := { w with history := e :: w.history }

/-- Notes an event. -/
def note (e : DeviceEvent) : Op Rehearsal Unit := Op.change (happen e)

-- ---------------------------------------------------------------------------
-- Faults
-- ---------------------------------------------------------------------------

/-- The effect of the first fault that is due at the next call of a kind. -/
def effect? (w : Rehearsal) (c : DeviceCall) : Option FaultEffect :=
  let number := w.history.callCount c + 1
  (w.faults.find? fun f => f.call == c && f.number == number).map (·.effect)

/-- Makes a call, unless a fault keeps it from the device. -/
def unlessRefused {α : Type} (c : DeviceCall) (op : Op Rehearsal α) : Op Rehearsal α := do
  match (← get).effect? c with
  | some (.fail e) => do
    note (.refused c)
    throw e
  | _ => op

-- ---------------------------------------------------------------------------
-- The device
-- ---------------------------------------------------------------------------

/-- Takes the next handle. -/
def takeHandle : Op Rehearsal Nat := do
  let n := (← get).nextHandle
  Op.change fun w => { w with nextHandle := n + 1 }
  pure n

/-- Creates a semaphore, if there is room. -/
def createSemaphore : Op Rehearsal Semaphore := do
  match (← get).semaphoresLeft with
  | some left =>
    if left = 0 then do
      note .noSemaphore
      throw .outOfMemory
    else Op.change fun w => { w with semaphoresLeft := some (left - 1) }
  | none => pure ()
  let s : Semaphore := ⟨← takeHandle⟩
  note (.createdSemaphore s)
  pure s

/-- The number of buffers that an allocation of `count` hands out. -/
def allocatedCount (w : Rehearsal) (count : UInt32) : Nat :=
  match w.effect? .allocateBuffers with
  | some (.miscount n) => n
  | _ => count.toNat

/-- Allocates buffers. -/
def allocate (count : UInt32) : Op Rehearsal (List CommandBuffer) := do
  let w ← get
  let n := w.allocatedCount count
  let bs := (List.range' w.nextHandle n).map CommandBuffer.mk
  Op.change fun w => { w with nextHandle := w.nextHandle + n }
  note (.allocated bs)
  pure bs

/-- Submits a buffer. -/
def submit (b : CommandBuffer) (waits : List (Semaphore × PipelineStages))
    (signals : List Semaphore) : Op Rehearsal Unit := do
  match (← get).submitFailure with
  | some e => do
    Op.change fun w => { w with submitFailure := none }
    note (.submitFailed b)
    throw e
  | none => note (.submitted b waits signals)

/-- Waits for the device. -/
def waitIdle : Op Rehearsal Unit := do
  match (← get).waitFailure with
  | some e => do
    Op.change fun w => { w with waitFailure := none }
    note (.waited false)
    throw e
  | none => note (.waited true)

instance : FrameDevice Rehearsal where
  createSemaphore := unlessRefused .createSemaphore createSemaphore
  destroySemaphore s := happen (.destroyedSemaphore s)
  allocate n := unlessRefused .allocateBuffers (allocate n)
  free bs := happen (.freed bs)
  reset b := unlessRefused .resetBuffer (note (.wasReset b))
  beginBuffer b := unlessRefused .beginBuffer (note (.begun b))
  endBuffer b := unlessRefused .endBuffer (note (.ended b))
  record b c := happen (.recorded b c)
  submit b waits signals := unlessRefused .submit (submit b waits signals)
  waitQueue := unlessRefused .waitIdle waitIdle

-- ---------------------------------------------------------------------------
-- The chain
-- ---------------------------------------------------------------------------

/-- The outcome of the next acquisition: the next one in the script, else the next image. A chain
without images has none to hand out. -/
def nextImage (c : RehearsedChain) : Option (Except RenderError UInt32 × RehearsedChain) :=
  match c.acquireScript with
  | outcome :: rest => some (outcome, { c with acquireScript := rest })
  | [] =>
    if c.images = 0 then none
    else some (.ok c.next, { c with next := (c.next + 1) % c.images })

/-- Acquires an image. -/
def acquire (signal : Semaphore) : Op Rehearsal UInt32 := do
  let (outcome, c) ← Op.ofOption (nextImage (← get).chain)
  let c := match outcome with
    | .ok index => { c with current := index }
    | .error _ => c
  Op.change fun w => { w with chain := c }
  note (.acquired signal outcome)
  Op.ofExcept outcome

/-- Presents an image. -/
def present (imageIndex : UInt32) (waits : List Semaphore) : Op Rehearsal Unit := do
  let script := (← get).chain.presentScript
  let outcome := script.headD (.ok ())
  Op.change fun w => { w with chain := { w.chain with presentScript := script.tail } }
  note (.presented imageIndex waits outcome)
  Op.ofExcept outcome

instance : FrameWorld Rehearsal where
  acquire := acquire
  present := present
  imageCount w := w.chain.images
  currentImage w := w.chain.current

end Rehearsal

end RenderLoop
