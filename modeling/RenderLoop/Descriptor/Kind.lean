import RenderLoop.Error

/-!
# RenderLoop — kinds of descriptors

The kinds of resources a descriptor can refer to. Kinds are numbered as in the
graphics API and ordered by that number.
-/

namespace RenderLoop

/-- What a descriptor refers to. -/
inductive DescriptorKind where
  | sampler
  | combinedImageSampler
  | sampledImage
  | storageImage
  | uniformTexelBuffer
  | storageTexelBuffer
  | uniformBuffer
  | storageBuffer
  | uniformBufferDynamic
  | storageBufferDynamic
  | inputAttachment
  deriving DecidableEq, Repr, Inhabited

namespace DescriptorKind

/-- All kinds in the order of their numbers. -/
def all : List DescriptorKind :=
  [sampler, combinedImageSampler, sampledImage, storageImage, uniformTexelBuffer,
    storageTexelBuffer, uniformBuffer, storageBuffer, uniformBufferDynamic,
    storageBufferDynamic, inputAttachment]

def name : DescriptorKind → String
  | sampler => "Sampler"
  | combinedImageSampler => "CombinedImageSampler"
  | sampledImage => "SampledImage"
  | storageImage => "StorageImage"
  | uniformTexelBuffer => "UniformTexelBuffer"
  | storageTexelBuffer => "StorageTexelBuffer"
  | uniformBuffer => "UniformBuffer"
  | storageBuffer => "StorageBuffer"
  | uniformBufferDynamic => "UniformBufferDynamic"
  | storageBufferDynamic => "StorageBufferDynamic"
  | inputAttachment => "InputAttachment"

instance : Named DescriptorKind := ⟨all, name⟩

/-- The number of a kind. -/
def number : DescriptorKind → UInt32
  | sampler => 0
  | combinedImageSampler => 1
  | sampledImage => 2
  | storageImage => 3
  | uniformTexelBuffer => 4
  | storageTexelBuffer => 5
  | uniformBuffer => 6
  | storageBuffer => 7
  | uniformBufferDynamic => 8
  | storageBufferDynamic => 9
  | inputAttachment => 10

/-- Kinds that take an offset at the time they are bound. -/
def isDynamic : DescriptorKind → Bool
  | uniformBufferDynamic | storageBufferDynamic => true
  | _ => false

/-- Kinds have different numbers. -/
theorem number_injective : ∀ {a b : DescriptorKind}, a.number = b.number → a = b := by
  intro a b; cases a <;> cases b <;> decide

/-- Kinds are ordered by their number. -/
instance : Ord DescriptorKind := ⟨fun a b => compare a.number b.number⟩

instance : Std.TransOrd DescriptorKind :=
  inferInstanceAs (Std.TransCmp fun a b : DescriptorKind => compareOn number a b)

instance : Std.LawfulEqOrd DescriptorKind where
  eq_of_compare h := number_injective (Std.LawfulEqOrd.eq_of_compare h)

end DescriptorKind

end RenderLoop
