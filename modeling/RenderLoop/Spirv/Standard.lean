/-!
# RenderLoop — numbers of the module standard

Opcodes, decorations, storage classes and the like are numbers with gaps in their
ranges. The tables here say which numbers the standard assigns, core and registered
extensions together; a number outside its table does not occur in a module.
-/

namespace RenderLoop.Spirv

/-- Whether a number lies in one of some closed ranges. -/
def inRanges (ranges : List (Nat × Nat)) (n : Nat) : Bool :=
  ranges.any fun (low, high) => low ≤ n && n ≤ high

namespace Standard

/-- The assigned opcodes. -/
def opcodes : List (Nat × Nat) :=
  [(0, 8), (10, 12), (14, 17), (19, 39), (41, 46), (48, 52), (54, 57), (59, 75), (77, 84),
    (86, 107), (109, 124), (126, 152), (154, 191), (194, 205), (207, 215), (218, 221), (224, 225),
    (227, 242), (245, 257), (259, 271), (274, 288), (291, 366), (400, 403), (4160, 4162),
    (4416, 4416), (4421, 4422), (4428, 4432), (4445, 4460), (4472, 4477), (4479, 4483),
    (5000, 5007), (5011, 5012), (5056, 5056), (5075, 5075), (5078, 5078), (5090, 5090),
    (5249, 5281), (5283, 5283), (5294, 5296), (5299, 5301), (5334, 5341), (5344, 5344),
    (5358, 5362), (5364, 5365), (5380, 5381), (5391, 5397), (5571, 5578), (5580, 5581),
    (5585, 5598), (5600, 5601), (5609, 5611), (5614, 5615), (5630, 5633), (5699, 5816),
    (5818, 5820), (5840, 5843), (5846, 5882), (5887, 5887), (5911, 5913), (5923, 5934),
    (5938, 5938), (5946, 5947), (5949, 5949), (6016, 6032), (6035, 6035), (6086, 6086),
    (6090, 6092), (6116, 6117), (6142, 6143), (6401, 6408)]

def isOpcode (n : Nat) : Bool := inRanges opcodes n

/-- The assigned decorations. -/
def decorations : List (Nat × Nat) :=
  [(0, 11), (13, 47), (4469, 4470), (4487, 4488), (4999, 4999), (5019, 5020), (5078, 5078),
    (5091, 5091), (5248, 5248), (5250, 5250), (5252, 5252), (5256, 5256), (5271, 5273),
    (5285, 5285), (5300, 5300), (5355, 5356), (5386, 5386), (5398, 5401), (5599, 5599),
    (5602, 5602), (5607, 5608), (5624, 5628), (5634, 5636), (5822, 5823), (5825, 5836),
    (5899, 5902), (5905, 5905), (5907, 5907), (5909, 5909), (5914, 5915), (5917, 5919),
    (5921, 5921), (5944, 5944), (6080, 6080), (6085, 6085), (6087, 6087), (6140, 6140),
    (6147, 6148), (6168, 6168), (6170, 6170), (6172, 6173), (6175, 6183), (6442, 6443)]

def isDecoration (n : Nat) : Bool := inRanges decorations n

/-- The assigned execution models. -/
def executionModels : List (Nat × Nat) :=
  [(0, 6), (5267, 5268), (5313, 5318), (5364, 5365)]

def isExecutionModel (n : Nat) : Bool := inRanges executionModels n

/-- The assigned execution modes. -/
def executionModes : List (Nat × Nat) :=
  [(0, 12), (14, 31), (33, 39), (4169, 4171), (4421, 4421), (4446, 4446), (4459, 4463),
    (5017, 5017), (5027, 5027), (5069, 5069), (5071, 5073), (5077, 5077), (5079, 5084),
    (5269, 5270), (5289, 5290), (5298, 5298), (5366, 5371), (5618, 5618), (5620, 5623),
    (5893, 5896), (5903, 5903), (6154, 6154), (6160, 6160), (6417, 6417)]

def isExecutionMode (n : Nat) : Bool := inRanges executionModes n

/-- The assigned storage classes. -/
def storageClasses : List (Nat × Nat) :=
  [(0, 12), (4172, 4172), (5068, 5068), (5076, 5076), (5328, 5329), (5338, 5339), (5342, 5343),
    (5349, 5349), (5385, 5385), (5402, 5402), (5605, 5605), (5936, 5937)]

def isStorageClass (n : Nat) : Bool := inRanges storageClasses n

/-- The assigned dimensionalities of images. -/
def imageDimensions : List (Nat × Nat) := [(0, 6), (4173, 4173)]

def isImageDimension (n : Nat) : Bool := inRanges imageDimensions n

/-- The assigned formats of the texels of images. -/
def imageFormats : List (Nat × Nat) := [(0, 41)]

def isImageFormat (n : Nat) : Bool := inRanges imageFormats n

/-- Opcodes that define a type of a kind that graphics stages have. -/
def isTypeOpcode (n : Nat) : Bool :=
  inRanges [(19, 30), (32, 33), (39, 39), (4472, 4472), (5341, 5341)] n

/-- Opcodes that define a scalar constant by its value. -/
def isValueOpcode (n : Nat) : Bool := inRanges [(41, 43), (48, 50)] n

/-- Opcodes that define a constant made of others, or a constant without a value. -/
def isCompositeOpcode (n : Nat) : Bool := inRanges [(44, 46), (51, 51), (323, 323)] n

/-- Opcodes that may stand among the declarations and declare nothing: undefined values, source
lines, and what extensions add. -/
def isRemarkOpcode (n : Nat) : Bool := inRanges [(1, 1), (8, 8), (12, 12), (317, 317)] n

/-- Opcodes that read a word through a pointer, atomically or not. Flags and what extensions add
are not counted. -/
def isReadOpcode (n : Nat) : Bool := inRanges [(61, 61), (227, 227), (229, 242)] n

/-- Opcodes that only write through a pointer. -/
def isWriteOpcode (n : Nat) : Bool := inRanges [(62, 62), (228, 228)] n

/-- Opcodes for source lines. -/
def isLineOpcode (n : Nat) : Bool := n == 8 || n == 317

end Standard

end RenderLoop.Spirv
