import RenderLoop.Pipeline.State

/-!
# RenderLoop — colour blending

How a fragment's colour is combined with what the attachment holds. Blending, when
it is on, weighs the new colour by its opacity and the old one by the rest, and
keeps the new opacity. When it is off, the new colour replaces the old one.
-/

namespace RenderLoop

/-- A weight in blending. -/
inductive BlendFactor where
  | zero
  | one
  | sourceAlpha
  | oneMinusSourceAlpha
  deriving DecidableEq, Repr, Inhabited

def BlendFactor.number : BlendFactor → Nat
  | zero => 0
  | one => 1
  | sourceAlpha => 6
  | oneMinusSourceAlpha => 7

/-- The blending of one attachment. New and old values are weighed and added. -/
structure ColorBlend where
  enabled : Bool
  sourceColor : BlendFactor := .zero
  targetColor : BlendFactor := .zero
  sourceAlpha : BlendFactor := .zero
  targetAlpha : BlendFactor := .zero
  deriving DecidableEq, Repr, Inhabited

namespace ColorBlend

/-- The number of the operation that adds. -/
def addNumber : Nat := 0

/-- The mask that writes all four components. -/
def writeMask : Nat := 0xf

/-- The blending a pipeline state asks for. -/
def ofState (s : PipelineState) : ColorBlend :=
  if s.blend then ⟨true, .sourceAlpha, .oneMinusSourceAlpha, .one, .zero⟩ else { enabled := false }

/-- The numbers that describe a blending: whether it is on, weights and operation of the colours,
weights and operation of the opacities, and the components written. -/
def numbers (b : ColorBlend) : List Nat :=
  [b.enabled.toNat, b.sourceColor.number, b.targetColor.number, addNumber, b.sourceAlpha.number,
    b.targetAlpha.number, addNumber, writeMask]

end ColorBlend

end RenderLoop
