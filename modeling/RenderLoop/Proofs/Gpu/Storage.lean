import RenderLoop.Proofs.Gpu.Bystanders

/-!
# RenderLoop — what the frame buffer holds

The frame buffer hands out **regions** one after the other, and bytes that were
stored in a region are read there for as long as nothing is stored over them.
Storing goes on from the head of the allocator (`FrameMemory.Fills`), so it leaves
alone whatever lies below that; the new region lies between the old head and the new
one (`FrameMemory.Laid`). What storing can come to at all is said once, in
`FrameMemory.ensures_store_of` and `FrameMemory.ensures_storeUniform_of`.

All of this is about a buffer whose memory is there and as large as its allocator
says (`FrameMemory.HasRoom`).
-/

namespace RenderLoop

open Op

-- ---------------------------------------------------------------------------
-- Regions of memory
-- ---------------------------------------------------------------------------

/-- Bytes at a place in memory. -/
structure Region where
  place : Nat
  bytes : List UInt8
  deriving DecidableEq, Repr, Inhabited

namespace Region

/-- The place after the last byte. -/
def stop (r : Region) : Nat := r.place + r.bytes.length

/-- Two regions lie one after the other. -/
def Apart (r r' : Region) : Prop := r.stop ≤ r'.place ∨ r'.stop ≤ r.place

end Region

namespace WrittenMemory

/-- The bytes of a region are what is read there. -/
def Holds (m : WrittenMemory) (r : Region) : Prop := m.read? r.place r.bytes.length = some r.bytes

/-- A region is held if it lies within the memory and each byte is in its place. -/
theorem holds_iff (m : WrittenMemory) (r : Region) :
    m.Holds r ↔ r.stop ≤ m.size ∧
      ∀ i (h : i < r.bytes.length), m.byteAt (r.place + i) = r.bytes[i] := by
  -- reading the region byte by byte gives its bytes exactly if each byte is the one stored
  have hMap : (List.range' r.place r.bytes.length).map m.byteAt = r.bytes ↔
      ∀ i (h : i < r.bytes.length), m.byteAt (r.place + i) = r.bytes[i] := by
    constructor
    · intro hEq i h
      have hi : i < ((List.range' r.place r.bytes.length).map m.byteAt).length := by
        rw [hEq]
        exact h
      have hByte := List.getElem_of_eq hEq hi
      simpa using hByte
    · intro hBytes
      refine List.ext_getElem (by simp) fun i _ h => ?_
      simpa using hBytes i h
  rw [Holds, read?, Region.stop]
  split
  · rename_i hFits
    rw [Option.some.injEq, hMap]
    exact ⟨fun h => ⟨hFits, h⟩, fun h => h.2⟩
  · rename_i hFits
    constructor
    · intro h
      cases h
    · intro h
      exact absurd h.1 hFits

/-- What was just written is there. -/
theorem holds_write (m : WrittenMemory) {r : Region} (hFits : r.stop ≤ m.size) :
    (m.write r.place r.bytes).Holds r :=
  (holds_iff _ r).mpr ⟨hFits, fun _ h => m.byteAt_write_inside r.place h⟩

/-- What was there stays, unless it is written over. -/
theorem Holds.write {m : WrittenMemory} {r r' : Region} (h : m.Holds r) (hApart : r.Apart r') :
    (m.write r'.place r'.bytes).Holds r := by
  obtain ⟨hFits, hBytes⟩ := (holds_iff m r).mp h
  refine (holds_iff _ r).mpr ⟨hFits, fun i hi => ?_⟩
  rw [m.byteAt_write_outside, hBytes i hi]
  simp only [Region.Apart, Region.stop] at hApart
  omega

end WrittenMemory

-- ---------------------------------------------------------------------------
-- Requests
-- ---------------------------------------------------------------------------

/-- Aligning goes up. -/
theorem le_of_alignUp {value alignment offset : UInt64} (h : alignUp value alignment = some offset) :
    value.toNat ≤ offset.toNat := by
  simp only [alignUp] at h
  split at h
  · cases h
    exact Nat.le_refl _
  · rw [Checked.add64_eq_some_iff] at h
    omega

/-- A region that is handed out begins at the head or after it, and ends within the buffer. -/
theorem LinearAllocator.bounds_of_fit {a : LinearAllocator} {size offset stop : UInt64}
    (h : a.fit? size = some (offset, stop)) :
    a.head.toNat ≤ offset.toNat ∧ stop.toNat = offset.toNat + size.toNat ∧
      stop.toNat ≤ a.capacity.toNat := by
  simp only [fit?, Option.bind_eq_bind, Option.bind_eq_some_iff] at h
  obtain ⟨offset', hAlign, stop', hStop, h⟩ := h
  split at h
  · cases h
  · rename_i hFits
    cases h
    refine ⟨le_of_alignUp hAlign, Checked.add64_eq_some_iff.mp hStop, ?_⟩
    exact UInt64.le_iff_toNat_le.mp (UInt64.not_lt.mp hFits)

-- ---------------------------------------------------------------------------
-- The frame buffer
-- ---------------------------------------------------------------------------

/-- The frame buffer of a device holds the bytes of a region. -/
def Gpu.Holds (g : Gpu) (r : Region) : Prop := ∃ m, g.frameMemory = some m ∧ m.Holds r

/-- What is held depends on the memory of the frame buffer alone. -/
theorem Gpu.Holds.of_memory {g g' : Gpu} {r : Region} (h : g.Holds r)
    (hMemory : g'.frameMemory = g.frameMemory) : g'.Holds r := by
  obtain ⟨m, hm, hHolds⟩ := h
  exact ⟨m, hMemory.trans hm, hHolds⟩

namespace FrameMemory

-- ---------------------------------------------------------------------------
-- Runs
-- ---------------------------------------------------------------------------

/-- Uniform data that is not too long is padded to the range. -/
theorem length_padded {bytes : List UInt8} {range : UInt64} (hFits : bytes.length ≤ range.toNat) :
    (padded bytes range).length = range.toNat := by
  rw [padded, List.length_append, List.length_replicate]
  omega

section Runs

variable {m : FrameMemory} {h : Host} {size offset stop : UInt64} {bytes : List UInt8}

/-- A request that there is room for gets its region. -/
theorem start_reserve_of_fit (hFit : m.linear.fit? size = some (offset, stop)) :
    start (reserve size) (m, h) =
      some (.ok offset, ({ m with linear := { m.linear with head := stop } }, h)) := by
  rw [reserve, start_bind_of_ok (start_get _), LinearAllocator.allocate, hFit]
  rfl

/-- Any other request is refused, and nothing but the log changes. -/
theorem start_reserve_of_none (hFit : m.linear.fit? size = none) :
    start (reserve size) (m, h) =
      some (.error .outOfMemory, (m, Logging.push (exhaustedEntry m.linear size) h)) := by
  rw [reserve, start_bind_of_ok (start_get _), LinearAllocator.allocate, hFit]
  rfl

/-- Bytes that there is room for are written where their region begins. -/
theorem start_store_of_fit
    (hFit : m.linear.fit? (UInt64.ofNat bytes.length) = some (offset, stop)) :
    start (store bytes) (m, h) =
      some (.ok offset, ({ m with linear := { m.linear with head := stop } },
        h.onGpu (write offset bytes))) := by
  rw [store, start_bind_of_ok (start_reserve_of_fit hFit)]
  rfl

/-- Bytes that there is no room for are refused. -/
theorem start_store_of_none (hFit : m.linear.fit? (UInt64.ofNat bytes.length) = none) :
    start (store bytes) (m, h) = some (.error .outOfMemory,
      (m, Logging.push (exhaustedEntry m.linear (UInt64.ofNat bytes.length)) h)) := by
  rw [store, start_bind_of_error (start_reserve_of_none hFit)]

/-- Uniform data that is longer than the range is refused, and nothing happens at all. -/
theorem start_storeUniform_of_lt (hLong : m.range.toNat < bytes.length) :
    start (storeUniform bytes) (m, h) =
      some (.error (oversized bytes.length m.range), (m, h)) := by
  rw [storeUniform, start_bind_of_ok (start_get _)]
  dsimp only
  rw [if_pos hLong]
  rfl

/-- Uniform data that is short enough and has room is written with zeros behind it. -/
theorem start_storeUniform_of_fit (hShort : bytes.length ≤ m.range.toNat)
    (hFit : m.linear.fit? m.range = some (offset, stop)) :
    start (storeUniform bytes) (m, h) =
      some (.ok offset, ({ m with linear := { m.linear with head := stop } },
        h.onGpu (write offset (padded bytes m.range)))) := by
  rw [storeUniform, start_bind_of_ok (start_get _)]
  dsimp only
  rw [if_neg (Nat.not_lt.mpr hShort), start_bind_of_ok (start_reserve_of_fit hFit)]
  rfl

/-- Uniform data without room is refused, although it is short enough. -/
theorem start_storeUniform_of_none (hShort : bytes.length ≤ m.range.toNat)
    (hFit : m.linear.fit? m.range = none) :
    start (storeUniform bytes) (m, h) = some (.error .outOfMemory,
      (m, Logging.push (exhaustedEntry m.linear m.range) h)) := by
  rw [storeUniform, start_bind_of_ok (start_get _)]
  dsimp only
  rw [if_neg (Nat.not_lt.mpr hShort), start_bind_of_error (start_reserve_of_none hFit)]

/-- What becomes of bytes: they are stored, or there is no room. -/
theorem ensures_store_of {s : FrameMemory × Host} {ok : UInt64 → FrameMemory × Host → Prop}
    {fail : RenderError → FrameMemory × Host → Prop}
    (hStored : ∀ offset stop, s.1.linear.fit? (UInt64.ofNat bytes.length) = some (offset, stop) →
      ok offset ({ s.1 with linear := { s.1.linear with head := stop } },
        s.2.onGpu (write offset bytes)))
    (hFull : ∀ entry, fail .outOfMemory (s.1, Logging.push entry s.2)) :
    (store bytes).Ensures s ok fail := by
  cases hFit : s.1.linear.fit? (UInt64.ofNat bytes.length) with
  | none => exact (ensures_of_start (start_store_of_none hFit)).mpr (hFull _)
  | some region => exact (ensures_of_start (start_store_of_fit hFit)).mpr (hStored _ _ hFit)

/-- What becomes of uniform data: it is too long, or it is stored, or there is no room. -/
theorem ensures_storeUniform_of {s : FrameMemory × Host} {ok : UInt64 → FrameMemory × Host → Prop}
    {fail : RenderError → FrameMemory × Host → Prop}
    (hTooLong : s.1.range.toNat < bytes.length → fail (oversized bytes.length s.1.range) s)
    (hStored : ∀ offset stop, bytes.length ≤ s.1.range.toNat →
      s.1.linear.fit? s.1.range = some (offset, stop) →
      ok offset ({ s.1 with linear := { s.1.linear with head := stop } },
        s.2.onGpu (write offset (padded bytes s.1.range))))
    (hFull : ∀ entry, fail .outOfMemory (s.1, Logging.push entry s.2)) :
    (storeUniform bytes).Ensures s ok fail := by
  rcases Nat.lt_or_ge s.1.range.toNat bytes.length with hLong | hShort
  · exact (ensures_of_start (start_storeUniform_of_lt hLong)).mpr (hTooLong hLong)
  · cases hFit : s.1.linear.fit? s.1.range with
    | none => exact (ensures_of_start (start_storeUniform_of_none hShort hFit)).mpr (hFull _)
    | some region =>
      exact (ensures_of_start (start_storeUniform_of_fit hShort hFit)).mpr
        (hStored _ _ hShort hFit)

/-- Bytes are stored exactly if there is room for them. -/
theorem succeeds_store_iff : (store bytes).succeeds (m, h) = true ↔
    (m.linear.fit? (UInt64.ofNat bytes.length)).isSome = true := by
  cases hFit : m.linear.fit? (UInt64.ofNat bytes.length) with
  | none =>
    rw [Op.succeeds, start_store_of_none hFit]
    exact iff_of_false Bool.false_ne_true Bool.false_ne_true
  | some region =>
    rw [Op.succeeds, start_store_of_fit hFit]
    exact iff_of_true rfl rfl

/-- Uniform data is stored exactly if it is not too long and there is room for the whole range. -/
theorem succeeds_storeUniform_iff : (storeUniform bytes).succeeds (m, h) = true ↔
    bytes.length ≤ m.range.toNat ∧ (m.linear.fit? m.range).isSome = true := by
  rcases Nat.lt_or_ge m.range.toNat bytes.length with hLong | hShort
  · rw [Op.succeeds, start_storeUniform_of_lt hLong]
    exact iff_of_false Bool.false_ne_true fun hFits => Nat.not_le.mpr hLong hFits.1
  · cases hFit : m.linear.fit? m.range with
    | none =>
      rw [Op.succeeds, start_storeUniform_of_none hShort hFit]
      exact iff_of_false Bool.false_ne_true fun hFits => Bool.false_ne_true hFits.2
    | some region =>
      rw [Op.succeeds, start_storeUniform_of_fit hShort hFit]
      exact iff_of_true rfl ⟨hShort, rfl⟩

end Runs

-- ---------------------------------------------------------------------------
-- Storing goes on
-- ---------------------------------------------------------------------------

/-- The first byte that has not been handed out. -/
def head (m : FrameMemory) : Nat := m.linear.head.toNat

/-- The memory of the buffer is there, as much of it as its allocator hands out. -/
def HasRoom (s : FrameMemory × Host) : Prop :=
  ∃ m, s.2.gpu.frameMemory = some m ∧ s.1.linear.capacity.toNat ≤ m.size

/-- Storing went on from the head; what lies below it stays. -/
structure Fills (s t : FrameMemory × Host) : Prop where
  rest : t.1 = { s.1 with linear := { s.1.linear with head := t.1.linear.head } }
  head : s.1.head ≤ t.1.head
  room : HasRoom s → HasRoom t
  holds : ∀ r, s.2.gpu.Holds r → r.stop ≤ s.1.head → t.2.gpu.Holds r

/-- A region was handed out since the head was at a place, and holds its bytes. -/
structure Laid (start : Nat) (s : FrameMemory × Host) (r : Region) : Prop where
  start_le : start ≤ r.place
  stop_le : r.stop ≤ s.1.head
  holds : s.2.gpu.Holds r

section Fills

variable {s t u : FrameMemory × Host} {r : Region} {start : Nat}

/-- Nothing was stored. -/
theorem fills_of_same (hMemory : t.1 = s.1) (hGpu : t.2.gpu.frameMemory = s.2.gpu.frameMemory) :
    Fills s t := by
  obtain ⟨m, h⟩ := s
  obtain ⟨m', h'⟩ := t
  cases hMemory
  refine ⟨rfl, Nat.le_refl _, ?_, fun r hr _ => hr.of_memory hGpu⟩
  rintro ⟨w, hw, hSize⟩
  exact ⟨w, hGpu.trans hw, hSize⟩

/-- Storing may come to nothing. -/
theorem Fills.refl (s : FrameMemory × Host) : Fills s s := fills_of_same rfl rfl

/-- Storing may come in steps. -/
theorem Fills.trans (h : Fills s t) (h' : Fills t u) : Fills s u where
  rest := by
    rw [h'.rest, h.rest]
  head := Nat.le_trans h.head h'.head
  room hRoom := h'.room (h.room hRoom)
  holds r hr hBelow := h'.holds r (h.holds r hr hBelow) (Nat.le_trans hBelow h.head)

/-- A region that was handed out stays while storing goes on. -/
theorem Laid.fills (h : Laid start s r) (hFills : Fills s t) : Laid start t r where
  start_le := h.start_le
  stop_le := Nat.le_trans h.stop_le hFills.head
  holds := hFills.holds r h.holds h.stop_le

/-- A head that was lower before will do as well. -/
theorem Laid.mono {start' : Nat} (h : Laid start s r) (hLe : start' ≤ start) : Laid start' s r where
  start_le := Nat.le_trans hLe h.start_le
  stop_le := h.stop_le
  holds := h.holds

end Fills

/-- Writing to a region that was just handed out. -/
theorem fills_write {m : FrameMemory} {h : Host} {size offset stop : UInt64} {bytes : List UInt8}
    (hRoom : HasRoom (m, h)) (hFit : m.linear.fit? size = some (offset, stop))
    (hSize : bytes.length = size.toNat) :
    Fills (m, h) ({ m with linear := { m.linear with head := stop } },
        h.onGpu (write offset bytes)) ∧
      Laid m.head ({ m with linear := { m.linear with head := stop } },
        h.onGpu (write offset bytes)) ⟨offset.toNat, bytes⟩ := by
  obtain ⟨hHead, hStop, hCapacity⟩ := LinearAllocator.bounds_of_fit hFit
  obtain ⟨w, hw, hWhole⟩ := hRoom
  -- the memory of the device is the one that has room, with the bytes written
  have hWritten : (h.onGpu (write offset bytes)).gpu.frameMemory =
      some (w.write offset.toNat bytes) := by
    show h.gpu.frameMemory.map _ = _
    rw [hw]
    rfl
  refine ⟨⟨rfl, ?_, fun _ => ⟨_, hWritten, hWhole⟩, fun r hr hBelow => ?_⟩, hHead, ?_, ?_⟩
  · show m.linear.head.toNat ≤ stop.toNat
    omega
  · obtain ⟨w', hw', hHolds⟩ := hr
    cases hw.symm.trans hw'
    -- what lies below the head ends before the region begins
    have hApart : r.Apart ⟨offset.toNat, bytes⟩ := .inl (Nat.le_trans hBelow hHead)
    exact ⟨_, hWritten, hHolds.write hApart⟩
  · show offset.toNat + bytes.length ≤ stop.toNat
    omega
  · refine ⟨_, hWritten, w.holds_write ?_⟩
    show offset.toNat + bytes.length ≤ w.size
    have hCapacity' : m.linear.capacity.toNat ≤ w.size := hWhole
    omega

/-- Stored bytes lie in a region of their own. -/
theorem ensures_store {bytes : List UInt8} {s : FrameMemory × Host} (hRoom : HasRoom s)
    (hSize : bytes.length < UInt64.size) :
    (store bytes).Ensures s
      (fun offset t => Fills s t ∧ t.2.gpu.history = s.2.gpu.history ∧
        Laid s.1.head t ⟨offset.toNat, bytes⟩)
      (fun _ t => Fills s t ∧ t.2.gpu.history = s.2.gpu.history) := by
  refine ensures_store_of (fun offset stop hFit => ?_) fun _ => ⟨fills_of_same rfl rfl, rfl⟩
  obtain ⟨hFills, hLaid⟩ := fills_write hRoom hFit (UInt64.toNat_ofNat_of_lt' hSize).symm
  exact ⟨hFills, rfl, hLaid⟩

/-- Uniform data lies in a region of its own, padded to the range that descriptors see. -/
theorem ensures_storeUniform {bytes : List UInt8} {s : FrameMemory × Host} (hRoom : HasRoom s) :
    (storeUniform bytes).Ensures s
      (fun offset t => Fills s t ∧ t.2.gpu.history = s.2.gpu.history ∧
        Laid s.1.head t ⟨offset.toNat, padded bytes s.1.range⟩)
      (fun _ t => Fills s t ∧ t.2.gpu.history = s.2.gpu.history) := by
  refine ensures_storeUniform_of (fun _ => ⟨.refl s, rfl⟩) (fun offset stop hShort hFit => ?_)
    fun _ => ⟨fills_of_same rfl rfl, rfl⟩
  obtain ⟨hFills, hLaid⟩ := fills_write hRoom hFit (length_padded hShort)
  exact ⟨hFills, rfl, hLaid⟩

end FrameMemory

end RenderLoop
