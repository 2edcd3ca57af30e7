/-!
# RenderLoop — memory as its writes

Memory that is zero at first and is then written to piece by piece. What it holds
follows from the writes alone: a byte is what was last written over it
(`byteAt_write_inside`, `byteAt_write_outside`).
-/

namespace RenderLoop

/-- A block of memory and what was written to it. -/
structure WrittenMemory where
  size : Nat
  /-- The writes, by their first byte, newest first. -/
  writes : List (Nat × List UInt8) := []
  deriving DecidableEq, Repr, Inhabited

namespace WrittenMemory

/-- Writes bytes from an offset on. -/
def write (m : WrittenMemory) (offset : Nat) (bytes : List UInt8) : WrittenMemory :=
  { m with writes := (offset, bytes) :: m.writes }

/-- What one write put at a place. -/
def written? (place : Nat) (w : Nat × List UInt8) : Option UInt8 :=
  if place < w.1 then none else w.2[place - w.1]?

/-- The byte at a place. -/
def byteAt (m : WrittenMemory) (place : Nat) : UInt8 :=
  (m.writes.findSome? (written? place)).getD 0

/-- A byte of a region that was just written is the one that was written there. -/
theorem byteAt_write_inside (m : WrittenMemory) (offset : Nat) {bytes : List UInt8} {i : Nat}
    (h : i < bytes.length) : (m.write offset bytes).byteAt (offset + i) = bytes[i] := by
  have hi : ¬ offset + i < offset := by omega
  simp [byteAt, write, written?, h, hi]

/-- A write does not change what lies outside of it. -/
theorem byteAt_write_outside (m : WrittenMemory) {offset : Nat} {bytes : List UInt8} {place : Nat}
    (h : place < offset ∨ offset + bytes.length ≤ place) :
    (m.write offset bytes).byteAt place = m.byteAt place := by
  -- the new write says nothing about the place, and the older ones decide as before
  have hw : written? place (offset, bytes) = none := by
    unfold written?
    split
    · rfl
    · rename_i hlt
      refine List.getElem?_eq_none ?_
      show bytes.length ≤ place - offset
      have hlt' : ¬ place < offset := hlt
      omega
  simp [byteAt, write, hw]

/-- The bytes from an offset on, if they lie within the block. -/
def read? (m : WrittenMemory) (offset length : Nat) : Option (List UInt8) :=
  if offset + length ≤ m.size then some ((List.range' offset length).map m.byteAt) else none

end WrittenMemory

end RenderLoop
