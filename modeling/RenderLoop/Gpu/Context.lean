import RenderLoop.Gpu.Host
import RenderLoop.Utf8

/-!
# RenderLoop — instance, surface and device

The objects that everything else depends on: the instance of the graphics API, the
messenger of the validation layer if it is asked for, the surface of the window,
the device and its queue. The device is the first with a family of queues that can
draw and can present to the surface.
-/

namespace RenderLoop

/-- The kinds of windows, by what they have to offer. -/
inductive WindowSystem where
  /-- A window with a display. -/
  | xlib
  /-- The display cannot be had. -/
  | noDisplay
  /-- The window cannot be had. -/
  | noWindow
  /-- The display is there but not connected. -/
  | nullDisplay
  /-- A window that no surface can be made for. -/
  | web
  deriving DecidableEq, Repr, Inhabited

instance : Named WindowSystem where
  all := [.xlib, .noDisplay, .noWindow, .nullDisplay, .web]
  name
    | .xlib => "xlib"
    | .noDisplay => "no_display"
    | .noWindow => "no_window"
    | .nullDisplay => "null_display"
    | .web => "web"

/-- The window that is rendered to. -/
structure Window where
  extent : Extent := ⟨640, 480⟩
  system : WindowSystem := .xlib
  deriving DecidableEq, Repr

instance : Inhabited Window := ⟨{}⟩

/-- The objects that everything else depends on. -/
structure GpuContext where
  apiInstance : Handle
  messenger : Option Handle
  surface : Handle
  physical : PhysicalDevice
  device : Handle
  queue : Handle
  /-- The family of the queue. -/
  family : Nat

instance : Inhabited GpuContext := ⟨⟨0, none, 0, {}, 0, 0, 0⟩⟩

/-- The version with a number. -/
def ApiVersion.ofNumber (n : UInt32) : ApiVersion :=
  ⟨(n >>> 22) &&& 0x7f, (n >>> 12) &&& 0x3ff, n &&& 0xfff⟩

def ApiVersion.text (v : ApiVersion) : String := s!"{v.major}.{v.minor}.{v.patch}"

namespace PhysicalDevice

/-- The bytes there is room for in the name of a device. -/
def nameRoom : Nat := 255

/-- The name of a device as the device reports it. -/
def reportedName (d : PhysicalDevice) : String :=
  Utf8.terminated (d.name.toUTF8.toList.take nameRoom)

/-- The version of a device as the device reports it. -/
def reportedVersion (d : PhysicalDevice) : ApiVersion := .ofNumber d.version.number

end PhysicalDevice

namespace GpuContext

/-- The component that contexts log as. -/
def component : String := "ofvk::vulkan::Context"

/-- Makes a call of the setup. -/
def setUp {α : Type} (noticed told : String) (step : GpuStep α) : Op Host α :=
  Host.setUp component noticed told step

/-- Fails the setup with one text for the log and the caller. -/
def refuse {α : Type} (text : String) : Op Host α :=
  Op.failWith (.error component text) (.initializationFailed text)

-- ---------------------------------------------------------------------------
-- Instance and surface
-- ---------------------------------------------------------------------------

/-- Why a handle of the window system cannot be had. -/
def unavailable : String := "the underlying handle is not available"

/-- Fails unless the window has a display that surfaces can be made for. -/
def expectDisplay (window : Window) : Op Host Unit :=
  match window.system with
  | .noDisplay => refuse s!"Failed to get display handle: {unavailable}"
  | .web => refuse s!"Failed to get required extensions: {ResultCode.extensionNotPresent.name}"
  | _ => pure ()

/-- Creates the instance. Its name is passed on as a text that ends at a zero. -/
def createInstance (window : Window) (config : RendererConfig) : Op Host Handle := do
  if config.appName.toList.contains '\x00' then
    throw (.initializationFailed "Application name contains a NUL byte")
  expectDisplay window
  setUp "create Vulkan instance" "create instance" (Gpu.create (.apiInstance config))

/-- Creates the messenger, if the validation layer is asked for. -/
def createMessenger (config : RendererConfig) : Op Host (Option Handle) := do
  if config.enableValidation then
    some <$> setUp "create debug messenger" "create debug messenger" (Gpu.create .messenger)
  else pure none

/-- Creates the surface of a window. -/
def createSurface (window : Window) : Op Host Handle :=
  match window.system with
  | .noWindow => refuse s!"Failed to get window handle: {unavailable}"
  | .nullDisplay => refuse s!"Failed to create surface: {ResultCode.initializationFailed.name}"
  | _ => setUp "create surface" "create surface" (Gpu.create .surface)

-- ---------------------------------------------------------------------------
-- The device
-- ---------------------------------------------------------------------------

/-- Asks whether a family of queues can present to the surface. -/
def canPresent (q : QueueFamily) : Op Host Bool := do
  match ← Host.call (Gpu.ask "vkGetPhysicalDeviceSurfaceSupportKHR" fun _ => q.present) with
  | .ok (.ok b) => pure b
  | _ => pure false

/-- The position of the first family, counted from `index`, that can draw and present. -/
def findFamily (index : Nat) : List QueueFamily → Op Host (Option Nat)
  | [] => pure none
  | q :: rest => do
    if q.draws then
      if ← canPresent q then pure (some index) else findFamily (index + 1) rest
    else findFamily (index + 1) rest

/-- The first device, counted from `number`, with a suitable family, and that family. -/
def findDevice (number : Nat) : List PhysicalDevice → Op Host (Option (Nat × PhysicalDevice × Nat))
  | [] => pure none
  | d :: rest => do
    match ← findFamily 0 d.queues with
    | some family => pure (some (number, d, family))
    | none => findDevice (number + 1) rest

/-- Chooses the device and the family of its queue. -/
def chooseDevice : Op Host (Nat × PhysicalDevice × Nat) := do
  let devices ← setUp "enumerate physical devices" "enumerate physical devices"
    (Gpu.ask "vkEnumeratePhysicalDevices" (·.devices))
  match ← findDevice 1 devices with
  | some choice => pure choice
  | none => refuse "No GPU with a graphics queue that can present"

/-- What is logged about the chosen device. -/
def chosenEntries (d : PhysicalDevice) (family : Nat) : List LogEntry :=
  .info component (s!"Using GPU '{d.reportedName}' (API {d.reportedVersion.text}), " ++
      s!"queue family {family}") ::
    if d.fillModes then [] else [.warn component
      "GPU does not support non-solid fill modes, wireframe pipelines will fail"]

-- ---------------------------------------------------------------------------
-- Beginning and end
-- ---------------------------------------------------------------------------

/-- Creates everything. What exists when a later part fails is left behind. -/
def create (window : Window) (config : RendererConfig) : Op Host GpuContext := do
  let apiInstance ← createInstance window config
  let messenger ← createMessenger config
  let surface ← createSurface window
  let (number, physical, family) ← chooseDevice
  Op.logAll (chosenEntries physical family)
  let device ← setUp "create logical device" "create device"
    (Gpu.create (.device number family physical.fillModes))
  let queue ← Host.call (Gpu.getQueue family)
  pure { apiInstance, messenger, surface, physical, device, queue, family }

/-- Waits until the device has nothing to do. -/
def waitIdle : Op Host Unit :=
  Host.invoke component "vkDeviceWaitIdle" (Gpu.perform .waitDevice)

/-- Destroys everything, after waiting for the device. -/
def destroy (c : GpuContext) : Host → Host :=
  Host.onGpu fun g =>
    let (_, g) := Gpu.perform .waitDevice g
    let g := (g.destroy .device c.device).destroy .surface c.surface
    (g.destroyAll .messenger c.messenger.toList).destroy .apiInstance c.apiInstance

end GpuContext

end RenderLoop
