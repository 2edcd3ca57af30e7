import RenderLoop.Surface.Choice
import RenderLoop.Surface.Transition
import RenderLoop.Vertex.Input

/-!
# RenderLoop — the numbers of the graphics API

Enumerations cross the border to the device as numbers. This module gives the
number of each format, colour space, present mode, layout and input rate, and
reads numbers back where the device reports them. Numbers that the library does
not know are read back as `none`, except for colour spaces, which keep them.
-/

namespace RenderLoop

namespace TextureFormat

def number : TextureFormat → Nat
  | undefined => 0
  | r8g8b8a8Unorm => 37
  | r8g8b8a8Srgb => 43
  | b8g8r8a8Unorm => 44
  | b8g8r8a8Srgb => 50
  | a2b10g10r10Unorm => 64
  | r16g16b16a16Sfloat => 97
  | d16Unorm => 124
  | d32Sfloat => 126
  | d16UnormS8Uint => 128
  | d24UnormS8Uint => 129
  | d32SfloatS8Uint => 130

/-- The format with a number. -/
def ofNumber? (n : Int) : Option TextureFormat := all.find? fun f => (f.number : Int) == n

/-- The aspects of a depth attachment: depth, and stencil if the format has it. -/
def depthAspects (f : TextureFormat) : Aspects := if f.hasStencil then .depthStencil else .depth

end TextureFormat

namespace ColorSpace

def number : ColorSpace → Int
  | srgbNonlinear => 0
  | extendedSrgbLinear => 1000104002
  | hdr10St2084 => 1000104008
  | other n => n

def ofNumber (n : Int) : ColorSpace :=
  if n = 0 then .srgbNonlinear
  else if n = 1000104002 then .extendedSrgbLinear
  else if n = 1000104008 then .hdr10St2084
  else .other n

end ColorSpace

namespace VertexFormat

def number : VertexFormat → Nat
  | r8Uint => 13
  | r8Sint => 14
  | r8g8Uint => 20
  | r8g8Sint => 21
  | r8g8b8a8Uint => 41
  | r8g8b8a8Sint => 42
  | r16Uint => 74
  | r16Sint => 75
  | r16g16Uint => 81
  | r16g16Sint => 82
  | r16g16b16a16Uint => 95
  | r16g16b16a16Sint => 96
  | r32Uint => 98
  | r32Sint => 99
  | r32Sfloat => 100
  | r32g32Uint => 101
  | r32g32Sint => 102
  | r32g32Sfloat => 103
  | r32g32b32Uint => 104
  | r32g32b32Sint => 105
  | r32g32b32Sfloat => 106
  | r32g32b32a32Uint => 107
  | r32g32b32a32Sint => 108
  | r32g32b32a32Sfloat => 109

end VertexFormat

namespace PresentMode

def number : PresentMode → Nat
  | immediate => 0
  | mailbox => 1
  | fifo => 2
  | fifoRelaxed => 3

/-- The mode with a number. -/
def ofNumber? (n : Int) : Option PresentMode :=
  (Named.all : List PresentMode).find? fun m => (m.number : Int) == n

end PresentMode

def ImageLayout.number : ImageLayout → Nat
  | undefined => 0
  | colorAttachment => 2
  | depthStencilAttachment => 3
  | presentSource => 1000001002

def InputRate.number : InputRate → Nat
  | perVertex => 0
  | perInstance => 1

end RenderLoop
