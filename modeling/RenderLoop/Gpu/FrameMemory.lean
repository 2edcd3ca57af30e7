import RenderLoop.Gpu.Allocation
import RenderLoop.Gpu.Context
import RenderLoop.Descriptor.Write
import RenderLoop.Memory.Linear
import RenderLoop.Mesh.Draw

/-!
# RenderLoop — the frame buffer

One buffer holds everything that the draws of a frame read: vertices, indices and
uniform data. It is filled from the start in every frame, which is safe because a
frame is over before the next one begins. Everything stored is aligned as uniform
data has to be.

Uniform data is padded with zeros to the range that descriptors see, which is large
enough for every uniform block and never smaller than the matrices.
-/

namespace RenderLoop

/-- The frame buffer. -/
structure FrameMemory where
  /-- The buffer; 0 if there is none. -/
  buffer : Handle := 0
  linear : LinearAllocator := .ofCapacity 0 1
  /-- The bytes that uniform descriptors see. -/
  range : UInt64 := UInt64.ofNat Matrices.size
  deriving DecidableEq, Repr, Inhabited

namespace FrameMemory

/-- The component that frame buffers log as. -/
def component : String := "ofvk::vulkan::FrameAllocator"

-- ---------------------------------------------------------------------------
-- Creation
-- ---------------------------------------------------------------------------

/-- Gives a buffer of a size its memory. -/
def provide (buffer : Handle) (size : UInt64) : Op Host Unit := do
  Host.provide component s!"allocate {size} bytes" (Gpu.provideFrameMemory size)
  Host.setUp component "bind frame buffer memory" "bind buffer memory"
    (Gpu.perform (.bindBuffer buffer))

/-- Creates a buffer. The device may ask for a larger alignment. -/
def create (context : GpuContext) (size alignment : UInt64) : Op Host FrameMemory := do
  let alignment := max alignment context.physical.minUniformAlignment
  let buffer ← Host.setUp component "create frame buffer" "create frame buffer"
    (Gpu.create (.buffer size))
  (provide buffer size).undoing (Host.onGpu (Gpu.destroy .buffer buffer))
  Op.log (.debug component s!"Frame allocator: {size} bytes, alignment {alignment}")
  pure { buffer, linear := .ofCapacity size alignment }

/-- Destroys the buffer, if there is one. -/
def destroy (m : FrameMemory) : Host → Host := Host.onGpu (Gpu.destroyIfAny .buffer m.buffer)

-- ---------------------------------------------------------------------------
-- Storing
-- ---------------------------------------------------------------------------

/-- What is logged about a request that does not fit. -/
def exhaustedEntry (a : LinearAllocator) (size : UInt64) : LogEntry :=
  .error component (s!"Frame allocator exhausted: {a.used} of {a.capacity} bytes used, " ++
    s!"{size} requested")

/-- Takes the region for a request. -/
def reserve (size : UInt64) : Op (FrameMemory × Host) UInt64 := do
  let (outcome, linear) := (← get).1.linear.allocate size
  Op.change fun s => ({ s.1 with linear }, s.2)
  match outcome with
  | .ok offset => pure offset
  | .error e => Op.failWith (exhaustedEntry linear size) e

/-- Writes bytes to the memory of the buffer. -/
def write (offset : UInt64) (bytes : List UInt8) : Gpu → Gpu := fun g =>
  { g with frameMemory := g.frameMemory.map fun m => m.write offset.toNat bytes }

/-- Stores bytes and returns their place in the buffer. -/
def store (bytes : List UInt8) : Op (FrameMemory × Host) UInt64 := do
  let offset ← reserve (UInt64.ofNat bytes.length)
  Op.change fun s => (s.1, s.2.onGpu (write offset bytes))
  pure offset

/-- The failure to store more uniform data than descriptors see. -/
def oversized (bytes : Nat) (range : UInt64) : RenderError :=
  .invalidResource (s!"Uniform data of {bytes} bytes exceeds the descriptor range of " ++
    s!"{range} bytes")

/-- Uniform data padded with zeros. -/
def padded (bytes : List UInt8) (range : UInt64) : List UInt8 :=
  bytes ++ List.replicate (range.toNat - bytes.length) 0

/-- Stores uniform data and returns its place in the buffer. -/
def storeUniform (bytes : List UInt8) : Op (FrameMemory × Host) UInt64 := do
  let range := (← get).1.range
  if bytes.length > range.toNat then throw (oversized bytes.length range)
  let offset ← reserve range
  Op.change fun s => (s.1, s.2.onGpu (write offset (padded bytes range)))
  pure offset

-- ---------------------------------------------------------------------------
-- State
-- ---------------------------------------------------------------------------

/-- Makes the whole buffer available again. -/
def reset (m : FrameMemory) : FrameMemory := { m with linear := m.linear.reset }

/-- Sets the range for uniform blocks of up to `range` bytes. -/
def withRange (m : FrameMemory) (range : UInt64) : FrameMemory :=
  { m with range := max range (UInt64.ofNat Matrices.size) }

/-- The region that descriptors are written with. -/
def region (m : FrameMemory) : BufferRegion := ⟨m.buffer, 0, m.range⟩

end FrameMemory

end RenderLoop
