import RenderLoop.Checked
import RenderLoop.Error

/-!
# RenderLoop — linear allocation

A **linear allocator** hands out regions of a buffer one after the other, each at
a multiple of its alignment, and takes them all back at once. A request that does
not fit is refused and changes nothing. All arithmetic is on 64-bit words; a sum
that does not fit is a request that does not fit.
-/

namespace RenderLoop

/-- A bump allocator over the bytes below its capacity. -/
structure LinearAllocator where
  capacity : UInt64
  alignment : UInt64
  /-- The first byte that has not been handed out. -/
  head : UInt64 := 0
  deriving DecidableEq, Repr, Inhabited

/-- The least multiple of an alignment that is not below a value, if it fits. -/
def alignUp (value alignment : UInt64) : Option UInt64 :=
  let rest := value % alignment
  if rest = 0 then some value else Checked.add64 value (alignment - rest)

namespace LinearAllocator

/-- An empty allocator; an alignment of 0 counts as 1. -/
def ofCapacity (capacity alignment : UInt64) : LinearAllocator := ⟨capacity, max alignment 1, 0⟩

/-- The region for a request, as its first byte and the byte after its last, if it fits. -/
def fit? (a : LinearAllocator) (size : UInt64) : Option (UInt64 × UInt64) := do
  let offset ← alignUp a.head a.alignment
  let stop ← Checked.add64 offset size
  if stop > a.capacity then none else some (offset, stop)

/-- Hands out `size` bytes. -/
def allocate (a : LinearAllocator) (size : UInt64) : Except RenderError UInt64 × LinearAllocator :=
  match a.fit? size with
  | some (offset, stop) => (.ok offset, { a with head := stop })
  | none => (.error .outOfMemory, a)

/-- Takes everything back. -/
def reset (a : LinearAllocator) : LinearAllocator := { a with head := 0 }

/-- The bytes in use, padding included. -/
def used (a : LinearAllocator) : UInt64 := a.head

end LinearAllocator

end RenderLoop
