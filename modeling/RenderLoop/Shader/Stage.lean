import RenderLoop.Error

/-!
# RenderLoop — shader stages

The programmable stages of a pipeline, in the order in which data passes through
them. The stages that see a resource form a **visibility** mask, one bit each.
-/

namespace RenderLoop

/-- A programmable stage of the pipeline. -/
inductive ShaderStage where
  | vertex
  | tessellationControl
  | tessellationEvaluation
  | geometry
  | fragment
  | compute
  deriving DecidableEq, Repr, Inhabited

/-- A set of stages. -/
structure StageMask where
  bits : UInt32
  deriving DecidableEq, Repr, Inhabited

namespace StageMask

/-- The stages of two masks together. -/
def union (a b : StageMask) : StageMask := ⟨a.bits ||| b.bits⟩

/-- The stages of a bit mask, bits without a stage left out. -/
def ofBits (bits : UInt32) : StageMask := ⟨bits &&& 0x3f⟩

end StageMask

namespace ShaderStage

/-- All stages in pipeline order. -/
def all : List ShaderStage :=
  [vertex, tessellationControl, tessellationEvaluation, geometry, fragment, compute]

def name : ShaderStage → String
  | vertex => "Vertex"
  | tessellationControl => "TessellationControl"
  | tessellationEvaluation => "TessellationEvaluation"
  | geometry => "Geometry"
  | fragment => "Fragment"
  | compute => "Compute"

instance : Named ShaderStage := ⟨all, name⟩

/-- The place of a stage in the pipeline. -/
def position : ShaderStage → Nat
  | vertex => 0
  | tessellationControl => 1
  | tessellationEvaluation => 2
  | geometry => 3
  | fragment => 4
  | compute => 5

/-- The mask of one stage. -/
def mask : ShaderStage → StageMask
  | vertex => ⟨0x01⟩
  | tessellationControl => ⟨0x02⟩
  | tessellationEvaluation => ⟨0x04⟩
  | geometry => ⟨0x08⟩
  | fragment => ⟨0x10⟩
  | compute => ⟨0x20⟩

/-- No two stages are at one place. -/
theorem position_injective : ∀ {a b : ShaderStage}, a.position = b.position → a = b := by
  intro a b; cases a <;> cases b <;> decide

/-- Stages are ordered by their place in the pipeline. -/
instance : Ord ShaderStage := ⟨fun a b => compare a.position b.position⟩

instance : Std.TransOrd ShaderStage :=
  inferInstanceAs (Std.TransCmp fun a b : ShaderStage => compareOn position a b)

instance : Std.LawfulEqOrd ShaderStage where
  eq_of_compare h := position_injective (Std.LawfulEqOrd.eq_of_compare h)

end ShaderStage

end RenderLoop
