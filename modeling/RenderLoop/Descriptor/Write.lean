import RenderLoop.Descriptor.SetLayout

/-!
# RenderLoop — planned descriptor writes

All descriptors of a program refer to one region of one buffer, fixed for as long
as the sets live; what differs from draw to draw is chosen by offsets at binding
time. So a plan has one write per binding of every layout, in order, and every
write names the same region.
-/

namespace RenderLoop

/-- A range of bytes in a buffer. -/
structure BufferRegion where
  buffer : Nat
  offset : UInt64
  range : UInt64
  deriving DecidableEq, Repr, Inhabited

/-- The write of one descriptor. -/
structure DescriptorWrite where
  /-- The position of the set, and of its layout. -/
  setIndex : Nat
  binding : UInt32
  kind : DescriptorKind
  count : UInt32
  region : BufferRegion
  deriving DecidableEq, Repr, Inhabited

namespace DescriptorWrite

/-- The writes of one set. -/
def ofLayout (region : BufferRegion) (setIndex : Nat) (layout : SetLayout) :
    List DescriptorWrite :=
  layout.bindings.map fun b => ⟨setIndex, b.slot.binding, b.kind, 1, region⟩

/-- The writes of layouts whose first one has position `first`. -/
def planFrom (region : BufferRegion) (first : Nat) : List SetLayout → List DescriptorWrite
  | [] => []
  | layout :: rest => ofLayout region first layout ++ planFrom region (first + 1) rest

/-- One write per binding of every layout. -/
def plan (layouts : List SetLayout) (region : BufferRegion) : List DescriptorWrite :=
  planFrom region 0 layouts

end DescriptorWrite

end RenderLoop
