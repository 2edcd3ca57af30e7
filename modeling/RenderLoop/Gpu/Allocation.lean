import RenderLoop.Gpu.Host

/-!
# RenderLoop — memory for images and buffers

Memory is allocated from the device in **blocks** that are larger than what is asked
for. The first depth image gets a block, which is kept for later ones. The frame
buffer gets a block that the program can write to; if the first attempt at that
fails there is a second one, and its failure counts.
-/

namespace RenderLoop

/-- Why there is no memory. -/
inductive AllocationError where
  /-- Nothing was asked for. -/
  | emptyRequest
  /-- The device has no memory to give. -/
  | refused (code : ResultCode)
  /-- The memory cannot be made accessible. -/
  | unmapped (code : ResultCode)
  deriving DecidableEq, Repr, Inhabited

/-- Where to find a section of the manual, as it is written in explanations. -/
def manualSection (name : String) : String :=
  let address := ["https:", "", "registry.khronos.org", "vulkan", "specs", "1.3-extensions",
    "html", "vkspec.html"]
  "<" ++ String.intercalate "/" address ++ "#" ++ name ++ ">"

/-- Result codes in words, as far as the failure of a call for memory can have them. -/
def ResultCode.explanation (r : ResultCode) : String :=
  let explanations : List (Int × String) :=
    [(0, "Command completed successfully"), (1, "A fence or query has not yet completed"),
      (2, "A wait operation has not completed in the specified time"),
      (3, "An event is signaled"), (4, "An event is unsignaled"),
      (5, "A return array was too small for the result"),
      (-1, "A host memory allocation has failed"), (-2, "A device memory allocation has failed"),
      (-3, "Initialization of an object has failed"),
      (-4, "The logical device has been lost. See " ++ manualSection "devsandqueues-lost-device"),
      (-5, "Mapping of a memory object has failed"), (-6, "Layer specified does not exist"),
      (-7, "Extension specified does not exist"),
      (-8, "Requested feature is not available on this device"),
      (-9, "Unable to find a Vulkan driver"),
      (-10, "Too many objects of the type have already been created"),
      (-11, "Requested format is not supported on this device"),
      (-12, "A requested pool allocation has failed due to fragmentation of the pool's memory"),
      (-13, "An unknown error has occurred, due to an implementation or application bug")]
  (explanations.lookup r.number).getD r.name

/-- The text of a failure. -/
def AllocationError.text : AllocationError → String
  | emptyRequest => "InvalidAllocationCreateDesc"
  | refused code =>
    if code = .outOfDeviceMemory then "OutOfMemory"
    else "Internal(\"Unexpected error in vkAllocateMemory: " ++ code.name ++ "\")"
  | unmapped code => "FailedToMap(\"" ++ code.explanation ++ "\")"

/-- What a call for memory does to the device. -/
abbrev AllocationStep (α : Type) := Gpu → Except AllocationError α × Gpu

namespace Gpu

/-- Provides memory for a depth image. -/
def provideDepthMemory : AllocationStep Unit := fun g =>
  if g.depthMemory then (.ok (), g)
  else match allocateMemory g with
    | (.ok (), g) => (.ok (), { g with depthMemory := true })
    | (.error code, g) => (.error (.refused code), g)

/-- Allocates memory and makes it accessible. -/
def allocateAccessible : AllocationStep Unit := fun g =>
  match allocateMemory g with
  | (.error code, g) => (.error (.refused code), g)
  | (.ok (), g) =>
    match mapMemory g with
    | (.error code, g) => (.error (.unmapped code), g)
    | (.ok (), g) => (.ok (), g)

/-- The size of a block that the program can write to, at least. -/
def accessibleBlock : Nat := 64 * 1024 * 1024

/-- The size of the block for a buffer. A large buffer gets a block of exactly its size. -/
def blockSize (size : UInt64) : Nat := max accessibleBlock size.toNat

/-- Allocates accessible memory, in a second attempt if need be. -/
def allocateInTwoAttempts : AllocationStep Unit := fun g =>
  match allocateAccessible g with
  | (.ok (), g) => (.ok (), g)
  | (.error _, g) => allocateAccessible g

/-- Provides memory for a buffer of a size; it is zero at first. -/
def provideFrameMemory (size : UInt64) : AllocationStep Unit := fun g =>
  if size = 0 then (.error .emptyRequest, g)
  else match allocateInTwoAttempts g with
    | (.ok (), g) => (.ok (), { g with frameMemory := some { size := blockSize size } })
    | (.error e, g) => (.error e, g)

end Gpu

/-- Makes a call for memory, or fails for want of it. The text for the log is `noticed`. -/
def Host.provide (source noticed : String) (step : AllocationStep Unit) : Op Host Unit := do
  match ← Host.call step with
  | .ok () => pure ()
  | .error e =>
    Op.failWith (.error source s!"Failed to {noticed}: {e.text}") .outOfMemory

end RenderLoop
