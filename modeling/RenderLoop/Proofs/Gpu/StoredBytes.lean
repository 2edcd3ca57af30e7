import RenderLoop.Proofs.Gpu.Storage

/-!
# RenderLoop — stored bytes stay put

Since the frame buffer was last reset, bytes were stored in it again and again, and the
range that uniform data is padded to may have changed in between. All the same every
region holds what was stored in it: the regions of all calls lie one behind the other
(`FrameMemory.Extends`), so none of them is written over.

A call is described by the regions it writes (`FrameMemory.Writes`). They are the same
whatever the memory held before, and apart from them the device stays as it was. A run of
calls writes the regions of its calls in order (`FrameMemory.exists_writes_storeAll`), and
they are all there at its end (`FrameMemory.stored_bytes_stay`).
-/

namespace RenderLoop

open Op

-- ---------------------------------------------------------------------------
-- Regions written in order
-- ---------------------------------------------------------------------------

/-- Regions lie one behind the other, in the order of the list. -/
def Region.Ascending (regions : List Region) : Prop :=
  regions.Pairwise fun r r' => r.stop ≤ r'.place

namespace WrittenMemory

/-- Writes regions in order. -/
def writeAll (m : WrittenMemory) (regions : List Region) : WrittenMemory :=
  regions.foldl (fun m r => m.write r.place r.bytes) m

/-- Writing some regions and then others is writing all of them. -/
theorem writeAll_append (m : WrittenMemory) (regions regions' : List Region) :
    m.writeAll (regions ++ regions') = (m.writeAll regions).writeAll regions' :=
  List.foldl_append

/-- What was there stays while regions behind it are written. -/
theorem Holds.writeAll {m : WrittenMemory} {r : Region} {regions : List Region} (h : m.Holds r)
    (hBehind : ∀ r' ∈ regions, r.stop ≤ r'.place) : (m.writeAll regions).Holds r := by
  induction regions generalizing m with
  | nil => exact h
  | cons r' rest ih =>
    obtain ⟨hHead, hRest⟩ := List.forall_mem_cons.mp hBehind
    exact ih (h.write (.inl hHead)) hRest

/-- Regions that lie one behind the other are all there once they are written. -/
theorem holds_writeAll {m : WrittenMemory} {regions : List Region}
    (hAscending : Region.Ascending regions) (hFit : ∀ r ∈ regions, r.stop ≤ m.size) :
    ∀ r ∈ regions, (m.writeAll regions).Holds r := by
  induction regions generalizing m with
  | nil => exact List.forall_mem_nil _
  | cons r rest ih =>
    obtain ⟨hBehind, hRest⟩ := List.pairwise_cons.mp hAscending
    obtain ⟨hHead, hTail⟩ := List.forall_mem_cons.mp hFit
    exact List.forall_mem_cons.mpr ⟨(m.holds_write hHead).writeAll hBehind, ih hRest hTail⟩

end WrittenMemory

/-- A device after regions were written to the frame buffer in order. -/
def Gpu.filled (g : Gpu) (regions : List Region) : Gpu :=
  { g with frameMemory := g.frameMemory.map fun m => m.writeAll regions }

/-- Nothing was written. -/
theorem Gpu.filled_nil (g : Gpu) : g.filled [] = g := by
  have hSame : (g.frameMemory.map fun m => m.writeAll []) = g.frameMemory := Option.map_id' ..
  rw [filled, hSame]

/-- Regions may be written in two runs. -/
theorem Gpu.filled_append (g : Gpu) (regions regions' : List Region) :
    g.filled (regions ++ regions') = (g.filled regions).filled regions' := by
  simp only [filled, Option.map_map, Function.comp_def, WrittenMemory.writeAll_append]

namespace FrameMemory

-- ---------------------------------------------------------------------------
-- Calls
-- ---------------------------------------------------------------------------

/-- What a frame buffer is called for between two resets. -/
inductive StorageCall where
  | store (bytes : List UInt8)
  | storeUniform (bytes : List UInt8)
  | setRange (range : UInt64)
  deriving DecidableEq, Repr

/-- Serves a call. If something was stored, the answer is what has to be read at the place that came
back: the bytes themselves, or uniform data with zeros up to the range in force. -/
def StorageCall.serve : StorageCall → Op (FrameMemory × Host) (List Region)
  | .store bytes => do
    match ← (FrameMemory.store bytes).attempt with
    | .ok place => pure [⟨place.toNat, bytes⟩]
    | .error _ => pure []
  | .storeUniform bytes => do
    let range := (← get).1.range
    match ← (FrameMemory.storeUniform bytes).attempt with
    | .ok place => pure [⟨place.toNat, bytes ++ List.replicate (range.toNat - bytes.length) 0⟩]
    | .error _ => pure []
  | .setRange range => do
    Op.change fun s => (s.1.withRange range, s.2)
    pure []

/-- Serves calls in order, also after one that failed, and collects what has to be read. -/
def storeAll : List StorageCall → Op (FrameMemory × Host) (List Region)
  | [] => pure []
  | call :: rest => do
    let regions ← call.serve
    return regions ++ (← storeAll rest)

/-- As many bytes as a word can count, which is what a slice has at most. -/
def StorageCall.Sized : StorageCall → Prop
  | .store bytes => bytes.length < UInt64.size
  | .storeUniform _ => True
  | .setRange _ => True

instance (call : StorageCall) : Decidable call.Sized :=
  match call with
  | .store bytes => inferInstanceAs (Decidable (bytes.length < UInt64.size))
  | .storeUniform _ => .isTrue trivial
  | .setRange _ => .isTrue trivial

-- ---------------------------------------------------------------------------
-- Where regions lie
-- ---------------------------------------------------------------------------

/-- From one state of a frame buffer to a later one, regions were taken one behind the other, from
the head on and within the capacity. -/
structure Extends (m : FrameMemory) (regions : List Region) (m' : FrameMemory) : Prop where
  capacity_eq : m'.linear.capacity = m.linear.capacity
  head_le : m.head ≤ m'.head
  start_le : ∀ r ∈ regions, m.head ≤ r.place
  stop_le : ∀ r ∈ regions, r.stop ≤ m'.head
  within_capacity : ∀ r ∈ regions, r.stop ≤ m.linear.capacity.toNat
  ascending : Region.Ascending regions

section Extends

variable {m m' m'' : FrameMemory} {regions regions' : List Region}

/-- Nothing was taken. -/
theorem extends_nil (hSame : m'.linear = m.linear) : Extends m [] m' where
  capacity_eq := congrArg LinearAllocator.capacity hSame
  head_le := Nat.le_of_eq (congrArg (fun a : LinearAllocator => a.head.toNat) hSame.symm)
  start_le := List.forall_mem_nil _
  stop_le := List.forall_mem_nil _
  within_capacity := List.forall_mem_nil _
  ascending := .nil

/-- A region that was handed out extends what is in use. -/
theorem extends_of_fit {size offset stop : UInt64} {bytes : List UInt8}
    (hFit : m.linear.fit? size = some (offset, stop)) (hSize : bytes.length = size.toNat) :
    Extends m [⟨offset.toNat, bytes⟩] { m with linear := { m.linear with head := stop } } := by
  obtain ⟨hHead, hStop, hCapacity⟩ := LinearAllocator.bounds_of_fit hFit
  have hEnd : (⟨offset.toNat, bytes⟩ : Region).stop = stop.toNat := by
    rw [Region.stop, hSize, hStop]
  refine ⟨rfl, ?_, ?_, ?_, ?_, List.pairwise_singleton _ _⟩
  · show m.linear.head.toNat ≤ stop.toNat
    omega
  · exact List.forall_mem_singleton.mpr hHead
  · exact List.forall_mem_singleton.mpr (Nat.le_of_eq hEnd)
  · exact List.forall_mem_singleton.mpr (hEnd ▸ hCapacity)

/-- What is taken later lies behind what was taken first. -/
theorem Extends.append (h : Extends m regions m') (h' : Extends m' regions' m'') :
    Extends m (regions ++ regions') m'' where
  capacity_eq := h'.capacity_eq.trans h.capacity_eq
  head_le := Nat.le_trans h.head_le h'.head_le
  start_le := List.forall_mem_append.mpr
    ⟨h.start_le, fun r hr => Nat.le_trans h.head_le (h'.start_le r hr)⟩
  stop_le := List.forall_mem_append.mpr
    ⟨fun r hr => Nat.le_trans (h.stop_le r hr) h'.head_le, h'.stop_le⟩
  within_capacity := List.forall_mem_append.mpr
    ⟨h.within_capacity, fun r hr => h.capacity_eq ▸ h'.within_capacity r hr⟩
  ascending := List.pairwise_append.mpr ⟨h.ascending, h'.ascending, fun r hr r' hr' =>
    Nat.le_trans (h.stop_le r hr) (h'.start_le r' hr')⟩

end Extends

-- ---------------------------------------------------------------------------
-- What is written
-- ---------------------------------------------------------------------------

/-- From a frame buffer, whatever the host is like, an operation ends with a known frame buffer. It
answers with regions, has written them in order, and has done nothing else to the device. -/
def Writes (op : Op (FrameMemory × Host) (List Region)) (m : FrameMemory) (regions : List Region)
    (m' : FrameMemory) : Prop :=
  ∀ h, ∃ h', start op (m, h) = some (.ok regions, (m', h')) ∧ h'.gpu = h.gpu.filled regions

section Writes

variable {m m' m'' : FrameMemory} {h : Host} {regions regions' : List Region}

/-- An operation that does nothing writes nothing. -/
theorem writes_nil (m : FrameMemory) : Writes (pure []) m [] m := by
  intro h
  exact ⟨h, rfl, h.gpu.filled_nil.symm⟩

/-- What is written by two operations, one after the other. -/
theorem Writes.append {op op' : Op (FrameMemory × Host) (List Region)}
    (hOp : Writes op m regions m') (hOp' : Writes op' m' regions' m'') :
    Writes (do
      let first ← op
      return first ++ (← op')) m (regions ++ regions') m'' := by
  intro h
  obtain ⟨h', hRun, hGpu⟩ := hOp h
  obtain ⟨h'', hRun', hGpu'⟩ := hOp' h'
  refine ⟨h'', ?_, ?_⟩
  · rw [start_bind_of_ok hRun, start_bind_of_ok hRun', start_pure]
  · rw [hGpu', hGpu, Gpu.filled_append]

/-- Storing writes a region of its own, or nothing. -/
theorem exists_writes_store (m : FrameMemory) {bytes : List UInt8}
    (hSized : bytes.length < UInt64.size) :
    ∃ regions m', Writes (StorageCall.store bytes).serve m regions m' ∧ Extends m regions m' := by
  cases hFit : m.linear.fit? (UInt64.ofNat bytes.length) with
  -- there is no room, and nothing is written
  | none =>
    refine ⟨[], m, fun h => ⟨Logging.push (exhaustedEntry m.linear (UInt64.ofNat bytes.length)) h,
      ?_, ?_⟩, extends_nil rfl⟩
    · rw [StorageCall.serve, start_bind, start_attempt, start_store_of_none hFit]
      rfl
    · exact (Gpu.filled_nil _).symm
  | some region =>
    obtain ⟨offset, stop⟩ := region
    refine ⟨_, _, fun h => ⟨h.onGpu (write offset bytes), ?_, rfl⟩,
      extends_of_fit hFit (UInt64.toNat_ofNat_of_lt' hSized).symm⟩
    rw [StorageCall.serve, start_bind, start_attempt, start_store_of_fit hFit]
    rfl

/-- Storing uniform data writes a region of its own, or nothing. -/
theorem exists_writes_storeUniform (m : FrameMemory) (bytes : List UInt8) :
    ∃ regions m', Writes (StorageCall.storeUniform bytes).serve m regions m' ∧
      Extends m regions m' := by
  rcases Nat.lt_or_ge m.range.toNat bytes.length with hLong | hShort
  · -- longer than the range: refused, and not even logged
    refine ⟨[], m, fun h => ⟨h, ?_, (Gpu.filled_nil _).symm⟩, extends_nil rfl⟩
    rw [StorageCall.serve, start_bind_of_ok (start_get _), start_bind, start_attempt,
      start_storeUniform_of_lt hLong]
    rfl
  · cases hFit : m.linear.fit? m.range with
    | none =>
      refine ⟨[], m, fun h => ⟨Logging.push (exhaustedEntry m.linear m.range) h, ?_, ?_⟩,
        extends_nil rfl⟩
      · rw [StorageCall.serve, start_bind_of_ok (start_get _), start_bind, start_attempt,
          start_storeUniform_of_none hShort hFit]
        rfl
      · exact (Gpu.filled_nil _).symm
    | some region =>
      obtain ⟨offset, stop⟩ := region
      refine ⟨_, _, fun h => ⟨h.onGpu (write offset (padded bytes m.range)), ?_, rfl⟩,
        extends_of_fit hFit (length_padded hShort)⟩
      rw [StorageCall.serve, start_bind_of_ok (start_get _), start_bind, start_attempt,
        start_storeUniform_of_fit hShort hFit]
      rfl

/-- Each call writes regions of its own, or nothing. -/
theorem exists_writes_serve (m : FrameMemory) {call : StorageCall} (hSized : call.Sized) :
    ∃ regions m', Writes call.serve m regions m' ∧ Extends m regions m' := by
  cases call with
  | store bytes => exact exists_writes_store m hSized
  | storeUniform bytes => exact exists_writes_storeUniform m bytes
  | setRange range =>
    exact ⟨[], m.withRange range, fun h => ⟨h, rfl, (Gpu.filled_nil _).symm⟩, extends_nil rfl⟩

/-- Calls write the regions of each of them in order. -/
theorem exists_writes_storeAll (m : FrameMemory) {calls : List StorageCall}
    (hSized : ∀ call ∈ calls, call.Sized) :
    ∃ regions m', Writes (storeAll calls) m regions m' ∧ Extends m regions m' := by
  induction calls generalizing m with
  | nil => exact ⟨[], m, writes_nil m, extends_nil rfl⟩
  | cons call rest ih =>
    obtain ⟨hCall, hRest⟩ := List.forall_mem_cons.mp hSized
    obtain ⟨first, m₁, hWrites, hExtends⟩ := exists_writes_serve m hCall
    obtain ⟨others, m₂, hWrites', hExtends'⟩ := ih m₁ hRest
    exact ⟨_, m₂, hWrites.append hWrites', hExtends.append hExtends'⟩

end Writes

-- ---------------------------------------------------------------------------
-- What is read afterwards
-- ---------------------------------------------------------------------------

/-- Regions that were written are all there, if the memory is. -/
theorem Extends.holds {m m' : FrameMemory} {regions : List Region} (hExtends : Extends m regions m')
    {h h' : Host} (hRoom : HasRoom (m, h)) (hGpu : h'.gpu = h.gpu.filled regions) :
    ∀ r ∈ regions, h'.gpu.Holds r := by
  obtain ⟨w, hw, hWhole⟩ := hRoom
  have hWritten : h'.gpu.frameMemory = some (w.writeAll regions) := by
    rw [hGpu]
    show h.gpu.frameMemory.map _ = _
    rw [hw]
    rfl
  have hFit : ∀ r ∈ regions, r.stop ≤ w.size :=
    fun r hr => Nat.le_trans (hExtends.within_capacity r hr) hWhole
  exact fun r hr => ⟨_, hWritten, w.holds_writeAll hExtends.ascending hFit r hr⟩

/-- **Stored bytes stay put.** Calls are served from any state of a frame buffer whose memory is at
least as long as its allocator says; one that was just reset is among them. At the end each region
that was handed out holds its data, uniform data with zeros up to the range that was in force. The
regions lie one behind the other, within the buffer and behind what was in use; they and nothing
else were written to the device. The regions and the state of the buffer do not depend on what the memory
held before. Then, as at any point of the calls, bytes are stored if there is room for them, and
uniform data if there is room for the range and the data is no longer than that; data that is longer
fails, and changes nothing. -/
theorem stored_bytes_stay (m : FrameMemory) {calls : List StorageCall}
    (hSized : ∀ call ∈ calls, call.Sized) :
    ∃ regions m', regions.Pairwise (fun r r' => r.stop ≤ r'.place) ∧
      (∀ r ∈ regions, m.head ≤ r.place ∧ r.stop ≤ m.linear.capacity.toNat) ∧
      ∀ h, HasRoom (m, h) → ∃ h',
        start (storeAll calls) (m, h) = some (.ok regions, (m', h')) ∧
        (∀ r ∈ regions, h'.gpu.Holds r) ∧
        h'.gpu = h.gpu.filled regions ∧
        ∀ bytes : List UInt8,
          ((store bytes).succeeds (m', h') = true ↔
            (m'.linear.fit? (UInt64.ofNat bytes.length)).isSome = true) ∧
          ((storeUniform bytes).succeeds (m', h') = true ↔
            bytes.length ≤ m'.range.toNat ∧ (m'.linear.fit? m'.range).isSome = true) ∧
          (m'.range.toNat < bytes.length → start (storeUniform bytes) (m', h') =
            some (.error (oversized bytes.length m'.range), (m', h'))) := by
  obtain ⟨regions, m', hWrites, hExtends⟩ := exists_writes_storeAll m hSized
  refine ⟨regions, m', hExtends.ascending, fun r hr =>
    ⟨hExtends.start_le r hr, hExtends.within_capacity r hr⟩, fun h hRoom => ?_⟩
  obtain ⟨h', hRun, hGpu⟩ := hWrites h
  exact ⟨h', hRun, hExtends.holds hRoom hGpu, hGpu, fun _ =>
    ⟨succeeds_store_iff, succeeds_storeUniform_iff, start_storeUniform_of_lt⟩⟩

/-- Calls of both kinds with a change of the range in between; the data of the fourth call is too
long then, and there is no room for the last one. -/
def mixedCalls : List StorageCall :=
  [.store [1, 2, 3], .storeUniform [9], .setRange 200, .storeUniform (List.replicate 201 7),
    .storeUniform [5], .store (List.replicate 600 4)]

/-- What these calls leave in a buffer of 1024 bytes with an alignment of 256. -/
def mixedRegions : List Region :=
  [⟨0, [1, 2, 3]⟩, ⟨256, 9 :: List.replicate 191 0⟩, ⟨512, 5 :: List.replicate 199 0⟩]

/-- A host whose frame buffer is full. -/
def fullHost : Host := { gpu := { frameMemory := some ⟨1024, [(0, List.replicate 1024 255)]⟩ } }

/-- Three of the calls store something, over a buffer that was full of other bytes. -/
theorem stored_bytes_stay_over_full : (∀ call ∈ mixedCalls, call.Sized) ∧
    ∃ t, start (storeAll mixedCalls) ({ linear := .ofCapacity 1024 256 }, fullHost) =
        some (.ok mixedRegions, t) ∧ ∀ r ∈ mixedRegions, t.2.gpu.Holds r := by
  have hSized : ∀ call ∈ mixedCalls, call.Sized := by decide +kernel
  have hRoom : HasRoom ({ linear := .ofCapacity 1024 256 }, fullHost) := ⟨_, rfl, Nat.le_refl _⟩
  obtain ⟨regions, m', -, -, hRun⟩ := stored_bytes_stay { linear := .ofCapacity 1024 256 } hSized
  obtain ⟨h', hStart, hHolds, -⟩ := hRun fullHost hRoom
  have hRegions : (start (storeAll mixedCalls) ({ linear := .ofCapacity 1024 256 }, fullHost)).map
      (fun r => r.1.toOption) = some (some mixedRegions) := by
    decide +kernel
  rw [hStart] at hRegions
  cases hRegions
  exact ⟨hSized, _, hStart, hHolds⟩

end FrameMemory

end RenderLoop
