import RenderLoop.Surface.Format
import RenderLoop.Log.Entry

/-!
# RenderLoop — choices about a surface

A surface reports what it supports; these functions decide what is used. They
are pure: the lists come in, the choice goes out, and what is worth logging about
a choice is a value of its own.

* `SurfaceFormat.choose` — the first reported format, or the common 8-bit one
  when the surface accepts anything.
* `chooseDepthFormat` — the first candidate the device supports.
* `PresentMode.choose` — the requested mode if it is available, else `fifo`,
  which always is.
* `chooseImageCount` — the request, moved into the surface's limits.
-/

namespace RenderLoop

-- ---------------------------------------------------------------------------
-- Colour format
-- ---------------------------------------------------------------------------

/-- A colour format together with its colour space. -/
structure SurfaceFormat where
  format : TextureFormat
  colorSpace : ColorSpace
  deriving DecidableEq, Repr, Inhabited

namespace SurfaceFormat

/-- The colour format for a surface that reports `formats`. A lone placeholder means that the
surface accepts any format; the colour space is always that of the first entry. -/
def choose (formats : List SurfaceFormat) : Except RenderError SurfaceFormat :=
  match formats with
  | [] => .error .noSurfaceFormat
  | [⟨.undefined, space⟩] => .ok ⟨.b8g8r8a8Unorm, space⟩
  | first :: _ => .ok first

/-- The text of a format. -/
def text (f : SurfaceFormat) : String :=
  s!"SurfaceFormat \x7b format: {f.format.name}, color_space: {f.colorSpace.name} \x7d"

/-- What is logged about a chosen format. -/
def chosenEntry (f : SurfaceFormat) : LogEntry :=
  .debug "ofvk::Surface" s!"Chose surface format {f.format.name} ({f.colorSpace.name})"

end SurfaceFormat

-- ---------------------------------------------------------------------------
-- Depth format
-- ---------------------------------------------------------------------------

/-- The depth formats in order of preference. -/
def depthFormatCandidates : List TextureFormat :=
  [.d32SfloatS8Uint, .d32Sfloat, .d24UnormS8Uint, .d16UnormS8Uint, .d16Unorm]

/-- The first candidate that is supported. -/
def chooseDepthFormat (supported : TextureFormat → Bool) : Except RenderError TextureFormat :=
  match depthFormatCandidates.find? supported with
  | some format => .ok format
  | none => .error (.initializationFailed "No supported depth/stencil format")

/-- The candidates looked at until one is supported. -/
def depthFormatsTried (supported : TextureFormat → Bool) : List TextureFormat :=
  depthFormatCandidates.takeWhile (fun f => !supported f) ++
    (depthFormatCandidates.find? supported).toList

-- ---------------------------------------------------------------------------
-- Present mode and image count
-- ---------------------------------------------------------------------------

/-- How finished images reach the screen. -/
inductive PresentMode where
  /-- At once, which may tear. -/
  | immediate
  /-- At the next refresh, where the latest image wins. -/
  | mailbox
  /-- At the next refresh, in order. Every surface supports this mode. -/
  | fifo
  /-- At the next refresh, in order, late images at once. -/
  | fifoRelaxed
  deriving DecidableEq, Repr, Inhabited

namespace PresentMode

def name : PresentMode → String
  | immediate => "Immediate"
  | mailbox => "Mailbox"
  | fifo => "Fifo"
  | fifoRelaxed => "FifoRelaxed"

instance : Named PresentMode := ⟨[immediate, mailbox, fifo, fifoRelaxed], name⟩

/-- The requested mode if it is available, else `fifo`. -/
def choose (requested : PresentMode) (available : List PresentMode) : PresentMode :=
  if requested ∈ available then requested else .fifo

/-- The warning about a mode that is not available. -/
def fallbackEntry? (requested : PresentMode) (available : List PresentMode) : Option LogEntry :=
  if requested ∈ available then none
  else some (.warn "ofvk::Surface"
    s!"Present mode {requested.name} not supported, falling back to Fifo")

end PresentMode

/-- The number of images closest to the request within the limits; a maximum of 0 is no limit. -/
def chooseImageCount (requested minimum maximum : UInt32) : UInt32 :=
  let count := max requested minimum
  if maximum > 0 then min count maximum else count

end RenderLoop
