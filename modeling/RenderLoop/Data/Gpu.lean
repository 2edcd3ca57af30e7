import RenderLoop.Data.Read
import RenderLoop.Gpu.Context
import RenderLoop.Gpu.Message

/-!
# RenderLoop — reading simulated devices

How simulated devices and windows are read from plain data. A device is described
by what differs from another one: fields that are left out stay as they are.
-/

namespace RenderLoop.Data

/-- Capabilities, with those of `c` for what is left out. -/
def capabilities (c : SurfaceCapabilities) (d : Data) : Reading SurfaceCapabilities := do
  return ⟨← d.getD "min_images" c.minImages, ← d.getD "max_images" c.maxImages,
    ← d.getD "current" c.current, ← d.getD "min" c.minExtent, ← d.getD "max" c.maxExtent,
    ← d.getD "transforms" c.transforms, ← d.getD "transform" c.transform⟩

instance : Readable ResultCode := ⟨fun d => ResultCode.mk <$> ofData d⟩

instance : Readable QueueFamily := ⟨fun d => do
  let present ← match d.field "present" with
    | bool b => pure (.ok b)
    | code => .error <$> ofData code
  return ⟨← d.get "flags", present⟩⟩

/-- A physical device, with what `p` has for what is left out. -/
def physicalDevice (p : PhysicalDevice) (d : Data) : Reading PhysicalDevice := do
  let driver ← if d.has "uuid" then (d.field "uuid").bytes else pure p.identity.driver
  return { name := ← d.getD "name" p.name, version := ← d.getD "api" p.version
           identity := ⟨← d.getD "vendor" p.identity.vendor, ← d.getD "device" p.identity.device,
             driver⟩
           minUniformAlignment := ← d.getD "min_uniform_alignment" p.minUniformAlignment
           queues := ← d.getD "queues" p.queues
           fillModes := ← d.getD "fill_mode_non_solid" p.fillModes
           depthFormats := ← d.getD "depth_formats" p.depthFormats }

instance : Readable GpuFault := ⟨fun d => do
  let number ← match d.field "at" with
    | text _ => pure none
    | n => some <$> ofData n
  return ⟨← d.get "call", number, ← d.get "code"⟩⟩

/-- The devices, the first of which may be changed on its own. -/
def physicalDevices (before : List PhysicalDevice) (d : Data) : Reading (List PhysicalDevice) := do
  let devices ← if d.has "devices" then (← (d.field "devices").items).mapM (physicalDevice {})
    else pure before
  match devices with
  | first :: rest => return (← physicalDevice first (d.field "device")) :: rest
  | [] => return []

/-- The outcome of an acquisition. -/
def acquisition (d : Data) : Reading (UInt32 × ResultCode) := do
  return (← d.getD "index" 0, ← d.getD "code" .success)

/-- The bytes of a field, if there is one. -/
def bytes? (d : Data) (key : String) : Reading (Option (List UInt8)) := do
  if d.has key then some <$> (d.field key).bytes else return none

/-- A device after a change. New faults are counted anew. A number of images that is null gives a
swapchain as many as are asked for again. -/
def deviceChange (d : Data) (g : Gpu) : Reading Gpu := do
  let acquireScript ← if d.has "acquire" then (← (d.field "acquire").items).mapM acquisition
    else pure g.acquireScript
  let all ← capabilities g.capabilities (d.field "capabilities")
  let cacheData ← d.bytes? "cache_data"
  let chainImages ← if d.mentions "images" then d.get "images" else pure g.chainImages
  let changed : Gpu := { g with
    devices := ← physicalDevices g.devices d
    capabilities := ← capabilities all (d.field "caps")
    formats := ← d.getD "formats" g.formats
    presentModes := ← d.getD "present_modes" g.presentModes
    chainImages := chainImages
    acquireScript := acquireScript
    presentScript := ← d.getD "present" g.presentScript
    cacheData := cacheData.getD g.cacheData }
  if d.has "fail" then return changed.setFaults (← d.get "fail") else return changed

/-- The window of a record. -/
def window (d : Data) : Reading Window := do
  return ⟨← d.getD "window" ({} : Window).extent, ← d.getD "window_kind" .xlib⟩

/-- A message of the validation layer. -/
def validationMessage (d : Data) : Reading ValidationMessage := do
  return ⟨← d.get "severity", ← d.get "type", ← d.bytes? "id", ← d.bytes? "message"⟩

end RenderLoop.Data
