import RenderLoop.Gpu.Context
import RenderLoop.Gpu.FormatName

/-!
# RenderLoop — probing surface and device

What the surface supports is asked for before every swapchain is built. Formats
that the renderer does not know are skipped; the others decide the colour format.
The depth format is the first candidate that the device can attach.
-/

namespace RenderLoop

/-- What the surface supports. -/
structure SurfaceProbe where
  /-- The format that was chosen. -/
  format : SurfaceFormat
  presentModes : List PresentMode
  capabilities : SurfaceCapabilities
  deriving DecidableEq, Repr, Inhabited

namespace SurfaceProbe

/-- The component that probes log as. -/
def component : String := "ofvk::vulkan::Surface"

/-- The call that asks for the capabilities of a surface. -/
def capabilitiesCall : String := "vkGetPhysicalDeviceSurfaceCapabilitiesKHR"

/-- Asks for the capabilities of the surface. -/
def askCapabilities : GpuStep SurfaceCapabilities := Gpu.ask capabilitiesCall (·.capabilities)

/-- A reported format, if it is known. -/
def known? (reported : Int × Int) : Option SurfaceFormat :=
  (TextureFormat.ofNumber? reported.1).map fun f => ⟨f, .ofNumber reported.2⟩

/-- What is logged about a reported format. -/
def skipEntry? (reported : Int × Int) : Option LogEntry :=
  if (known? reported).isSome then none
  else some (.debug component s!"Skipping unsupported surface format {formatName reported.1}")

/-- Chooses a format from the reported ones. -/
def chooseFormat (reported : List (Int × Int)) : Op Host SurfaceFormat := do
  Op.logAll (reported.filterMap skipEntry?)
  match SurfaceFormat.choose (reported.filterMap known?) with
  | .ok format => do
    Op.log format.chosenEntry
    pure format
  | .error e =>
    Op.failWith
      (.error component s!"No usable surface format ({reported.length} reported by the driver)") e

/-- Probes the surface. -/
def take : Op Host SurfaceProbe := do
  let capabilities ← Host.setUp component "get surface capabilities" "get surface capabilities"
    askCapabilities
  let reported ← Host.setUp component "query surface formats" "get surface formats"
    (Gpu.ask "vkGetPhysicalDeviceSurfaceFormatsKHR" (·.formats))
  let format ← chooseFormat reported
  let modes ← Host.setUp component "query present modes" "get present modes"
    (Gpu.ask "vkGetPhysicalDeviceSurfacePresentModesKHR" (·.presentModes))
  pure ⟨format, modes.filterMap PresentMode.ofNumber?, capabilities⟩

end SurfaceProbe

namespace PhysicalDevice

/-- Whether depth images can have a format. -/
def supportsDepth (d : PhysicalDevice) (f : TextureFormat) : Bool := d.depthFormats.contains f.number

/-- Chooses the depth format. -/
def chooseDepth (d : PhysicalDevice) : Op Host TextureFormat := do
  match chooseDepthFormat d.supportsDepth with
  | .ok format => do
    Op.log (.debug SurfaceProbe.component s!"Depth format {format.name}")
    pure format
  | .error e =>
    Op.failWith (.error SurfaceProbe.component "No supported depth/stencil format") e

end PhysicalDevice

end RenderLoop
