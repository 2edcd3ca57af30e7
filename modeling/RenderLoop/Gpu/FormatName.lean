/-!
# RenderLoop — the names of image formats

A surface may report formats that the renderer does not use, and the log names
them. Formats are numbered in **families**: formats with the same components,
one for each numeric type, have consecutive numbers.
-/

namespace RenderLoop

/-- Formats with consecutive numbers. -/
structure FormatFamily where
  /-- The number of the first one. -/
  first : Nat
  names : List String
  deriving DecidableEq, Repr, Inhabited

namespace FormatFamily

/-- The formats of some components, one for each numeric type, with the packing after it. -/
def ofTypes (first : Nat) (components : String) (types : List String) (packing : String := "") :
    FormatFamily :=
  ⟨first, types.map fun t => components ++ "_" ++ t ++ packing⟩

/-- The types of whole numbers, read as fractions and as numbers. -/
def numeric : List String := ["UNORM", "SNORM", "USCALED", "SSCALED", "UINT", "SINT"]

/-- The types of components of eight bits. -/
def bytewise : List String := numeric ++ ["SRGB"]

/-- The types of components of sixteen bits. -/
def halves : List String := numeric ++ ["SFLOAT"]

/-- The types of components of thirty-two and sixty-four bits. -/
def wide : List String := ["UINT", "SINT", "SFLOAT"]

/-- The block sizes of formats that adapt to the image. -/
def adaptiveBlocks : List String :=
  ["4X4", "5X4", "5X5", "6X5", "6X6", "8X5", "8X6", "8X8", "10X5", "10X6", "10X8", "10X10",
    "12X10", "12X12"]

/-- Formats packed into one word. -/
def packed : List FormatFamily :=
  [⟨0, ["UNDEFINED", "R4G4_UNORM_PACK8", "R4G4B4A4_UNORM_PACK16", "B4G4R4A4_UNORM_PACK16",
      "R5G6B5_UNORM_PACK16", "B5G6R5_UNORM_PACK16", "R5G5B5A1_UNORM_PACK16",
      "B5G5R5A1_UNORM_PACK16", "A1R5G5B5_UNORM_PACK16"]⟩,
    ofTypes 51 "A8B8G8R8" bytewise "_PACK32", ofTypes 58 "A2R10G10B10" numeric "_PACK32",
    ofTypes 64 "A2B10G10R10" numeric "_PACK32",
    ⟨122, ["B10G11R11_UFLOAT_PACK32", "E5B9G9R9_UFLOAT_PACK32"]⟩,
    ⟨1000340000, ["A4R4G4B4_UNORM_PACK16", "A4B4G4R4_UNORM_PACK16"]⟩,
    ⟨1000464000, ["R16G16_S10_5_NV"]⟩, ⟨1000470000, ["A1B5G5R5_UNORM_PACK16_KHR", "A8_UNORM_KHR"]⟩]

/-- Formats with components of their own. -/
def plain : List FormatFamily :=
  [ofTypes 9 "R8" bytewise, ofTypes 16 "R8G8" bytewise, ofTypes 23 "R8G8B8" bytewise,
    ofTypes 30 "B8G8R8" bytewise, ofTypes 37 "R8G8B8A8" bytewise, ofTypes 44 "B8G8R8A8" bytewise,
    ofTypes 70 "R16" halves, ofTypes 77 "R16G16" halves, ofTypes 84 "R16G16B16" halves,
    ofTypes 91 "R16G16B16A16" halves, ofTypes 98 "R32" wide, ofTypes 101 "R32G32" wide,
    ofTypes 104 "R32G32B32" wide, ofTypes 107 "R32G32B32A32" wide, ofTypes 110 "R64" wide,
    ofTypes 113 "R64G64" wide, ofTypes 116 "R64G64B64" wide, ofTypes 119 "R64G64B64A64" wide]

/-- Depth and stencil formats. -/
def depth : List FormatFamily :=
  [⟨124, ["D16_UNORM", "X8_D24_UNORM_PACK32", "D32_SFLOAT", "S8_UINT", "D16_UNORM_S8_UINT",
    "D24_UNORM_S8_UINT", "D32_SFLOAT_S8_UINT"]⟩]

/-- Compressed formats, whose names end in the word for a block. -/
def compressed : List FormatFamily :=
  let unormSrgb := ["UNORM", "SRGB"]
  let unormSnorm := ["UNORM", "SNORM"]
  [ofTypes 131 "BC1_RGB" unormSrgb "_BLOCK", ofTypes 133 "BC1_RGBA" unormSrgb "_BLOCK",
    ofTypes 135 "BC2" unormSrgb "_BLOCK", ofTypes 137 "BC3" unormSrgb "_BLOCK",
    ofTypes 139 "BC4" unormSnorm "_BLOCK", ofTypes 141 "BC5" unormSnorm "_BLOCK",
    ofTypes 143 "BC6H" ["UFLOAT", "SFLOAT"] "_BLOCK", ofTypes 145 "BC7" unormSrgb "_BLOCK",
    ofTypes 147 "ETC2_R8G8B8" unormSrgb "_BLOCK", ofTypes 149 "ETC2_R8G8B8A1" unormSrgb "_BLOCK",
    ofTypes 151 "ETC2_R8G8B8A8" unormSrgb "_BLOCK", ofTypes 153 "EAC_R11" unormSnorm "_BLOCK",
    ofTypes 155 "EAC_R11G11" unormSnorm "_BLOCK",
    ⟨157, adaptiveBlocks.flatMap fun b => ["ASTC_" ++ b ++ "_UNORM_BLOCK", "ASTC_" ++ b ++ "_SRGB_BLOCK"]⟩,
    ⟨1000066000, adaptiveBlocks.map fun b => "ASTC_" ++ b ++ "_SFLOAT_BLOCK"⟩,
    ⟨1000054000, unormSrgb.flatMap fun t =>
      ["PVRTC1_2BPP_" ++ t ++ "_BLOCK_IMG", "PVRTC1_4BPP_" ++ t ++ "_BLOCK_IMG",
        "PVRTC2_2BPP_" ++ t ++ "_BLOCK_IMG", "PVRTC2_4BPP_" ++ t ++ "_BLOCK_IMG"]⟩]

/-- Formats of video images, whose components may lie in planes of their own. -/
def video : List FormatFamily :=
  [⟨1000156000, ["G8B8G8R8_422_UNORM", "B8G8R8G8_422_UNORM", "G8_B8_R8_3PLANE_420_UNORM",
      "G8_B8R8_2PLANE_420_UNORM", "G8_B8_R8_3PLANE_422_UNORM", "G8_B8R8_2PLANE_422_UNORM",
      "G8_B8_R8_3PLANE_444_UNORM", "R10X6_UNORM_PACK16", "R10X6G10X6_UNORM_2PACK16",
      "R10X6G10X6B10X6A10X6_UNORM_4PACK16", "G10X6B10X6G10X6R10X6_422_UNORM_4PACK16",
      "B10X6G10X6R10X6G10X6_422_UNORM_4PACK16", "G10X6_B10X6_R10X6_3PLANE_420_UNORM_3PACK16",
      "G10X6_B10X6R10X6_2PLANE_420_UNORM_3PACK16", "G10X6_B10X6_R10X6_3PLANE_422_UNORM_3PACK16",
      "G10X6_B10X6R10X6_2PLANE_422_UNORM_3PACK16", "G10X6_B10X6_R10X6_3PLANE_444_UNORM_3PACK16",
      "R12X4_UNORM_PACK16", "R12X4G12X4_UNORM_2PACK16", "R12X4G12X4B12X4A12X4_UNORM_4PACK16",
      "G12X4B12X4G12X4R12X4_422_UNORM_4PACK16", "B12X4G12X4R12X4G12X4_422_UNORM_4PACK16",
      "G12X4_B12X4_R12X4_3PLANE_420_UNORM_3PACK16", "G12X4_B12X4R12X4_2PLANE_420_UNORM_3PACK16",
      "G12X4_B12X4_R12X4_3PLANE_422_UNORM_3PACK16", "G12X4_B12X4R12X4_2PLANE_422_UNORM_3PACK16",
      "G12X4_B12X4_R12X4_3PLANE_444_UNORM_3PACK16", "G16B16G16R16_422_UNORM",
      "B16G16R16G16_422_UNORM", "G16_B16_R16_3PLANE_420_UNORM", "G16_B16R16_2PLANE_420_UNORM",
      "G16_B16_R16_3PLANE_422_UNORM", "G16_B16R16_2PLANE_422_UNORM",
      "G16_B16_R16_3PLANE_444_UNORM"]⟩,
    ⟨1000330000, ["G8_B8R8_2PLANE_444_UNORM", "G10X6_B10X6R10X6_2PLANE_444_UNORM_3PACK16",
      "G12X4_B12X4R12X4_2PLANE_444_UNORM_3PACK16", "G16_B16R16_2PLANE_444_UNORM"]⟩]

/-- All families. -/
def all : List FormatFamily := packed ++ plain ++ depth ++ compressed ++ video

/-- The name of a member, if the number is one of the family's. -/
def name? (f : FormatFamily) (n : Int) : Option String :=
  if n < f.first then none else f.names[(n - f.first).toNat]?

end FormatFamily

/-- The name of the format with a number, or else the number. -/
def formatName (n : Int) : String := (FormatFamily.all.findSome? (·.name? n)).getD (toString n)

end RenderLoop
