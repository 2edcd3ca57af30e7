import RenderLoop.Gpu.Call
import RenderLoop.Gpu.Capabilities
import RenderLoop.Memory.Written

/-!
# RenderLoop — a simulated device

A device that carries nothing out, but answers every call as a device would and
keeps the **history** of the calls. Handles are given out in order, so no two
objects ever share one. What the device reports about itself and its surface is
part of its state and can be changed at any time.

**Faults** make calls fail: a fault names a call and which of the calls by that
name, counted since the faults were set, is to end with which code. A call that
fails has no effect but the line in the history.

Calls that ask for information and those for memory are not in the history, but
they are counted and can fail like others.
-/

namespace RenderLoop

-- ---------------------------------------------------------------------------
-- What is simulated
-- ---------------------------------------------------------------------------

/-- A family of queues of a physical device. -/
structure QueueFamily where
  /-- What the queues can do, one bit each; the lowest is drawing. -/
  flags : UInt32
  /-- Whether the queues can present to the surface, or the failure to tell. -/
  present : Except ResultCode Bool

/-- Whether a family's queues can draw. -/
def QueueFamily.draws (q : QueueFamily) : Bool := q.flags &&& 1 ≠ 0

instance : Inhabited QueueFamily := ⟨⟨0, .ok false⟩⟩

/-- What tells a device and its driver from others. -/
structure DeviceIdentity where
  vendor : UInt32
  device : UInt32
  driver : List UInt8
  deriving DecidableEq, Repr, Inhabited

/-- A physical device. -/
structure PhysicalDevice where
  name : String := "Fake GPU"
  version : ApiVersion := ⟨1, 1, 92⟩
  identity : DeviceIdentity := ⟨4318, 7864, (List.range 16).map UInt8.ofNat⟩
  /-- The least alignment of uniform data. -/
  minUniformAlignment : UInt64 := 64
  queues : List QueueFamily := [⟨7, .ok true⟩]
  /-- Whether polygons can be drawn as lines and points. -/
  fillModes : Bool := true
  /-- The numbers of the formats that depth images can have. -/
  depthFormats : List Nat := [130, 126, 129, 124]

instance : Inhabited PhysicalDevice := ⟨{}⟩

/-- A fault at a call: its name and its number from 1, or every call by that name. -/
structure GpuFault where
  call : String
  number : Option Nat
  code : ResultCode
  deriving DecidableEq, Repr, Inhabited

/-- A swapchain with its images, which are handed out in turn. -/
structure SimulatedChain where
  handle : Handle
  images : List Handle
  /-- How many images have been handed out in turn. -/
  turns : Nat := 0
  deriving DecidableEq, Repr, Inhabited

/-- The image whose turn it is. -/
def SimulatedChain.nextImage (c : SimulatedChain) : UInt32 :=
  UInt32.ofNat (c.turns % c.images.length)

/-- A simulated device. -/
structure Gpu where
  devices : List PhysicalDevice := [{}]
  capabilities : SurfaceCapabilities := {}
  /-- The formats of the surface, each with its colour space. -/
  formats : List (Int × Int) := [(44, 0), (37, 0)]
  presentModes : List Int := [0, 1, 2]
  /-- The number of images of new swapchains, if it is not what was asked for. -/
  chainImages : Option UInt32 := none
  faults : List GpuFault := []
  /-- The outcomes of the next acquisitions. -/
  acquireScript : List (UInt32 × ResultCode) := []
  /-- The codes of the next presentations. -/
  presentScript : List ResultCode := []
  /-- The content of pipeline caches. -/
  cacheData : List UInt8 := []
  /-- What happened, newest first. -/
  history : List GpuEvent := []
  nextHandle : Handle := 1
  /-- The calls since the faults were set. -/
  attempts : List String := []
  /-- The swapchains, newest first. -/
  chains : List SimulatedChain := []
  /-- Whether there is memory for depth images. -/
  depthMemory : Bool := false
  /-- The memory of the frame buffer. -/
  frameMemory : Option WrittenMemory := none

instance : Inhabited Gpu := ⟨{}⟩

/-- What a call that can fail does to the device. -/
abbrev GpuStep (α : Type) := Gpu → Except ResultCode α × Gpu

namespace Gpu

-- ---------------------------------------------------------------------------
-- Faults and the history
-- ---------------------------------------------------------------------------

/-- Adds an event to the history. -/
def happen (call : GpuCall) (outcome : GpuOutcome) (g : Gpu) : Gpu :=
  { g with history := ⟨call, outcome⟩ :: g.history }

/-- The code of the first fault that is due at the next call by a name. -/
def refusal? (g : Gpu) (call : String) : Option ResultCode :=
  let number := g.attempts.count call + 1
  (g.faults.find? fun f => f.call == call && f.number.all (· == number)).map (·.code)

/-- Counts a call. -/
def count (call : String) (g : Gpu) : Gpu := { g with attempts := call :: g.attempts }

/-- Sets the faults and begins to count anew. -/
def setFaults (faults : List GpuFault) (g : Gpu) : Gpu := { g with faults, attempts := [] }

/-- Asks for something. -/
def ask {α : Type} (call : String) (answer : Gpu → α) : GpuStep α := fun g =>
  match g.refusal? call with
  | some code => (.error code, g.count call)
  | none => (.ok (answer g), g.count call)

/-- A question that was answered was not refused. -/
theorem ask_ok {α : Type} {call : String} {answer : Gpu → α} {a : α} {g g' : Gpu}
    (h : ask call answer g = (.ok a, g')) : a = answer g ∧ g' = g.count call := by
  rw [ask] at h
  split at h
  · cases h
  · cases h
    exact ⟨rfl, rfl⟩

/-- A question that was not answered was refused. -/
theorem ask_error {α : Type} {call : String} {answer : Gpu → α} {code : ResultCode} {g g' : Gpu}
    (h : ask call answer g = (.error code, g')) :
    g.refusal? call = some code ∧ g' = g.count call := by
  rw [ask] at h
  split at h
  · cases h
    exact ⟨‹_›, rfl⟩
  · cases h

/-- Makes a call that can fail. -/
def attempt {α : Type} (call : GpuCall) (effect : Gpu → α × GpuOutcome × Gpu) : GpuStep α := fun g =>
  match g.refusal? call.name with
  | some code => (.error code, (g.count call.name).happen call (.failed code))
  | none =>
    let (a, outcome, g) := effect (g.count call.name)
    (.ok a, g.happen call outcome)

/-- A call at which a fault is due leaves nothing but a line in the history. -/
theorem attempt_of_refusal {α : Type} {call : GpuCall} {g : Gpu} {code : ResultCode}
    (h : g.refusal? call.name = some code) (effect : Gpu → α × GpuOutcome × Gpu) :
    attempt call effect g = (.error code, (g.count call.name).happen call (.failed code)) := by
  rw [attempt, h]

/-- Any other call has its effect, which the history shows with its outcome. -/
theorem attempt_of_none {α : Type} {call : GpuCall} {g : Gpu} (h : g.refusal? call.name = none)
    (effect : Gpu → α × GpuOutcome × Gpu) :
    attempt call effect g =
      (.ok (effect (g.count call.name)).1,
        (effect (g.count call.name)).2.2.happen call (effect (g.count call.name)).2.1) := by
  rw [attempt, h]

/-- A call that answered was not refused, so it had its effect. -/
theorem attempt_ok {α : Type} {call : GpuCall} {effect : Gpu → α × GpuOutcome × Gpu} {a : α}
    {g g' : Gpu} (h : attempt call effect g = (.ok a, g')) :
    a = (effect (g.count call.name)).1 ∧
      g' = (effect (g.count call.name)).2.2.happen call (effect (g.count call.name)).2.1 := by
  cases hRefusal : g.refusal? call.name with
  | some code =>
    -- a refused call does not answer
    rw [attempt_of_refusal hRefusal] at h
    cases h
  | none =>
    rw [attempt_of_none hRefusal] at h
    cases h
    exact ⟨rfl, rfl⟩

/-- A call that failed was refused. -/
theorem attempt_error {α : Type} {call : GpuCall} {effect : Gpu → α × GpuOutcome × Gpu}
    {code : ResultCode} {g g' : Gpu} (h : attempt call effect g = (.error code, g')) :
    g.refusal? call.name = some code ∧
      g' = (g.count call.name).happen call (.failed code) := by
  cases hRefusal : g.refusal? call.name with
  | some code' =>
    rw [attempt_of_refusal hRefusal] at h
    cases h
    exact ⟨rfl, rfl⟩
  | none =>
    rw [attempt_of_none hRefusal] at h
    cases h

/-- Makes a call that can fail and answers nothing. -/
def perform (call : GpuCall) : GpuStep Unit := attempt call fun g => ((), .done, g)

-- ---------------------------------------------------------------------------
-- Handles
-- ---------------------------------------------------------------------------

/-- Takes the next handle. -/
def takeHandle (g : Gpu) : Handle × Gpu := (g.nextHandle, { g with nextHandle := g.nextHandle + 1 })

/-- Takes the next `n` handles. -/
def takeHandles (n : Nat) (g : Gpu) : List Handle × Gpu :=
  (List.range' g.nextHandle n, { g with nextHandle := g.nextHandle + n })

/-- Adds the images of a new swapchain. -/
def addChain (handle : Handle) (request : SwapchainRequest) (g : Gpu) : Gpu :=
  let (images, g) := g.takeHandles (g.chainImages.getD request.minImages).toNat
  { g with chains := { handle, images } :: g.chains }

/-- What comes with a new object. -/
def settle (creation : Creation) (handle : Handle) (g : Gpu) : Gpu :=
  match creation with
  | .swapchain request => g.addChain handle request
  | _ => g

/-- Creates an object. -/
def create (creation : Creation) : GpuStep Handle :=
  attempt (.create creation) fun g =>
    let (h, g) := g.takeHandle
    (h, .handle h, g.settle creation h)

/-- Destroys an object. -/
def destroy (kind : ObjectKind) (handle : Handle) : Gpu → Gpu := happen (.destroy kind handle) .done

/-- Destroys objects in order. -/
def destroyAll (kind : ObjectKind) (handles : List Handle) (g : Gpu) : Gpu :=
  handles.foldl (fun g h => g.destroy kind h) g

/-- Destroys an object, if there is one. -/
def destroyIfAny (kind : ObjectKind) (handle : Handle) (g : Gpu) : Gpu :=
  if handle = 0 then g else g.destroy kind handle

/-- Takes the queue of the device. -/
def getQueue (family : Nat) (g : Gpu) : Handle × Gpu :=
  let (h, g) := g.takeHandle
  (h, g.happen (.getQueue family) (.handle h))

/-- Allocates command buffers. -/
def allocateBuffers (pool : Handle) (count : UInt32) : GpuStep (List Handle) :=
  attempt (.allocateBuffers pool count) fun g =>
    let (hs, g) := g.takeHandles count.toNat
    (hs, .handles hs, g)

/-- Allocates one descriptor set per layout. -/
def allocateSets (pool : Handle) (layouts : List Handle) : GpuStep (List Handle) :=
  attempt (.allocateSets pool layouts) fun g =>
    let (hs, g) := g.takeHandles layouts.length
    (hs, .handles hs, g)

-- ---------------------------------------------------------------------------
-- Swapchains
-- ---------------------------------------------------------------------------

/-- A swapchain by its handle. -/
def chain? (g : Gpu) (handle : Handle) : Option SimulatedChain :=
  g.chains.find? fun c => c.handle == handle

/-- The images of a swapchain. Only their number is asked for in a way that can fail. -/
def swapchainImages (swapchain : Handle) : GpuStep (List Handle) := fun g =>
  match ask (GpuCall.swapchainImages swapchain).name id g with
  | (.error code, g) => (.error code, g)
  | (.ok _, g) =>
    let images := ((g.chain? swapchain).map (·.images)).getD []
    (.ok images, g.happen (.swapchainImages swapchain) (.handles images))

/-- The outcome of the next acquisition: the next one in the script, else the image whose turn it is. -/
def nextAcquisition (swapchain : Handle) (g : Gpu) : (UInt32 × ResultCode) × Gpu :=
  match g.acquireScript with
  | outcome :: rest => (outcome, { g with acquireScript := rest })
  | [] =>
    let index := ((g.chain? swapchain).map (·.nextImage)).getD 0
    ((index, .success), { g with
      chains := g.chains.map fun c =>
        if c.handle = swapchain then { c with turns := c.turns + 1 } else c })

/-- Acquires an image. -/
def acquire (swapchain semaphore : Handle) (g : Gpu) : (UInt32 × ResultCode) × Gpu :=
  let ((index, code), g) := g.nextAcquisition swapchain
  let outcome := if code.number < 0 then .failed code else .image index code
  ((index, code), g.happen (.acquire swapchain semaphore) outcome)

/-- Presents an image. -/
def present (waits : List Handle) (swapchain : Handle) (image : UInt32) (g : Gpu) :
    ResultCode × Gpu :=
  let code := g.presentScript.headD .success
  (code, { g with presentScript := g.presentScript.tail }.happen
    (.present waits swapchain image) (.presented code))

-- ---------------------------------------------------------------------------
-- Memory
-- ---------------------------------------------------------------------------

/-- Allocates memory of the device. -/
def allocateMemory : GpuStep Unit := ask "vkAllocateMemory" fun _ => ()

/-- Makes memory accessible to the program. -/
def mapMemory : GpuStep Unit := ask "vkMapMemory" fun _ => ()

end Gpu

end RenderLoop
