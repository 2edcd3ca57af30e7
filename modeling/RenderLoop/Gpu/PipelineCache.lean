import RenderLoop.Gpu.Context

/-!
# RenderLoop — the pipeline cache

The device keeps what it learned from building pipelines in a cache, which outlives
the renderer in a file. A file that is missing, cannot be read or comes from another
device is no failure: the cache is empty then.

Cache data is only useful to the device that produced it, and begins with a **header**
that says which one that was: the length of the header, its version, the numbers of
vendor and device, and sixteen bytes that identify the driver. `CacheHeader.names`
decides whether data is a device's own.
-/

namespace RenderLoop

-- ---------------------------------------------------------------------------
-- The header of cache data
-- ---------------------------------------------------------------------------

namespace CacheHeader

/-- The length of a header in bytes. -/
def size : Nat := 32

/-- The version of the header that is understood. -/
def version : UInt32 := 1

/-- The word at an offset, if there are four bytes. -/
def wordAt? (data : List UInt8) (offset : Nat) : Option UInt32 :=
  (wordsOfBytes ((data.drop offset).take 4)).head?

/-- Whether data has a whole header that says it is at least as long as that. -/
def isComplete (data : List UInt8) : Bool :=
  decide (size ≤ data.length) && (wordAt? data 0).any fun n => decide (size ≤ n.toNat)

/-- Whether data begins with the header of a device. -/
def names (data : List UInt8) (identity : DeviceIdentity) : Bool :=
  isComplete data && wordAt? data 4 == some version && wordAt? data 8 == some identity.vendor &&
    wordAt? data 12 == some identity.device && (data.drop 16).take 16 == identity.driver

end CacheHeader

-- ---------------------------------------------------------------------------
-- The cache
-- ---------------------------------------------------------------------------

/-- The pipeline cache. -/
structure PipelineCache where
  /-- The cache; 0 if there is none. -/
  handle : Handle := 0
  /-- The file it is kept in. -/
  path : String := ""
  deriving DecidableEq, Repr, Inhabited

namespace PipelineCache

/-- The component that caches log as. -/
def component : String := "ofvk::vulkan::PipelineCache"

/-- What the file has to offer to a device: the initial data, and what is logged. -/
def initial (identity : DeviceIdentity) (path : String) :
    Except FileError (List UInt8) → List UInt8 × LogEntry
  | .ok data =>
    if CacheHeader.names data identity then
      (data, .info component s!"Loaded {data.length} bytes of pipeline cache from '{path}'")
    else
      ([], .warn component s!"Ignoring pipeline cache '{path}': not written by this device")
  | .error .notFound => ([], .debug component s!"No pipeline cache at '{path}'")
  | .error e => ([], .warn component s!"Failed to read pipeline cache '{path}': {e.message}")

/-- Creates the cache with what the file has to offer. -/
def load (context : GpuContext) (path : String) : Op Host PipelineCache := do
  let (data, entry) := initial context.physical.identity path ((← get).files.read path)
  Op.log entry
  let handle ← Host.setUp component "create pipeline cache" "create pipeline cache"
    (Gpu.create (.pipelineCache data))
  pure { handle, path }

/-- Asks for the content of the cache. -/
def content : Op Host (List UInt8) := do
  match ← Host.call (Gpu.ask "vkGetPipelineCacheData" (·.cacheData)) with
  | .ok data => pure data
  | .error code => throw (.backend s!"Failed to get pipeline cache data: {code.name}")

/-- Writes the content of the cache to its file. -/
def save (c : PipelineCache) : Op Host Unit := do
  let data ← content
  match (← get).files.write c.path data with
  | .ok files => do
    Op.change fun h => { h with files }
    Op.log (.debug component s!"Saved {data.length} bytes of pipeline cache to '{c.path}'")
  | .error e => throw (.backend s!"Failed to write pipeline cache '{c.path}': {e.message}")

/-- Destroys the cache, if there is one. -/
def destroy (c : PipelineCache) : Host → Host :=
  Host.onGpu (Gpu.destroyIfAny .pipelineCache c.handle)

end PipelineCache

end RenderLoop
