import RenderLoop.Error

/-!
# RenderLoop — image formats and colour spaces

The formats of swapchain images and depth buffers, and the colour spaces a
surface can ask for. A format is written by its standard name, which lists the
components with their widths and the numeric type.
-/

namespace RenderLoop

/-- Formats of swapchain images and depth buffers. -/
inductive TextureFormat where
  /-- Reported by surfaces that accept any format. -/
  | undefined
  | b8g8r8a8Unorm
  | b8g8r8a8Srgb
  | r8g8b8a8Unorm
  | r8g8b8a8Srgb
  | a2b10g10r10Unorm
  | r16g16b16a16Sfloat
  | d16Unorm
  | d16UnormS8Uint
  | d24UnormS8Uint
  | d32Sfloat
  | d32SfloatS8Uint
  deriving DecidableEq, Repr, Inhabited

namespace TextureFormat

/-- All formats. -/
def all : List TextureFormat :=
  [undefined, b8g8r8a8Unorm, b8g8r8a8Srgb, r8g8b8a8Unorm, r8g8b8a8Srgb, a2b10g10r10Unorm,
    r16g16b16a16Sfloat, d16Unorm, d16UnormS8Uint, d24UnormS8Uint, d32Sfloat, d32SfloatS8Uint]

/-- The standard name of a format. -/
def name : TextureFormat → String
  | undefined => "Undefined"
  | b8g8r8a8Unorm => "B8G8R8A8_UNORM"
  | b8g8r8a8Srgb => "B8G8R8A8_SRGB"
  | r8g8b8a8Unorm => "R8G8B8A8_UNORM"
  | r8g8b8a8Srgb => "R8G8B8A8_SRGB"
  | a2b10g10r10Unorm => "A2B10G10R10_UNORM"
  | r16g16b16a16Sfloat => "R16G16B16A16_SFLOAT"
  | d16Unorm => "D16_UNORM"
  | d16UnormS8Uint => "D16_UNORM_S8_UINT"
  | d24UnormS8Uint => "D24_UNORM_S8_UINT"
  | d32Sfloat => "D32_SFLOAT"
  | d32SfloatS8Uint => "D32_SFLOAT_S8_UINT"

instance : Named TextureFormat := ⟨all, name⟩

/-- Whether a format has a depth component. -/
def isDepth : TextureFormat → Bool
  | d16Unorm | d16UnormS8Uint | d24UnormS8Uint | d32Sfloat | d32SfloatS8Uint => true
  | _ => false

/-- Whether a format has a stencil component. -/
def hasStencil : TextureFormat → Bool
  | d16UnormS8Uint | d24UnormS8Uint | d32SfloatS8Uint => true
  | _ => false

end TextureFormat

/-- How colour values of a surface are interpreted. -/
inductive ColorSpace where
  | srgbNonlinear
  | extendedSrgbLinear
  | hdr10St2084
  /-- Any other colour space, by its number. -/
  | other (number : Int)
  deriving DecidableEq, Repr, Inhabited

/-- The name of a colour space; unnamed ones show their number. -/
def ColorSpace.name : ColorSpace → String
  | srgbNonlinear => "SrgbNonlinear"
  | extendedSrgbLinear => "ExtendedSrgbLinear"
  | hdr10St2084 => "Hdr10St2084"
  | other number => s!"Other({number})"

end RenderLoop
