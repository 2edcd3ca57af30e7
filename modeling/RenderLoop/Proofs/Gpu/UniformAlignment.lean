import Mathlib.Data.UInt
import RenderLoop.Proofs.Gpu.Storage
import RenderLoop.Proofs.Memory.Linear

/-!
# RenderLoop — where uniform data may lie

A device reads uniform data only at multiples of its minimum alignment. The frame
buffer aligns everything to one alignment, the larger one of what was asked for and
what the device needs (`FrameMemory.create`). So every place it gives out is a
multiple of that larger one, whatever was stored before (`FrameMemory.ensures_serveAll`).

The larger one of two alignments need not be a multiple of the smaller one. Which
buffers keep to the alignment of the device is decided by the two alignments and the
size of the buffer (`FrameMemory.aligns_iff_of_create`): if the alignment that was
asked for is the larger one and no multiple of the other, then uniform data that comes
second lies at a place the device refuses, unless there is no room for it.
-/

namespace RenderLoop

open Op

-- ---------------------------------------------------------------------------
-- Places
-- ---------------------------------------------------------------------------

namespace LinearAllocator

variable {a : LinearAllocator} {size offset stop : UInt64}

/-- A region that is handed out begins at a multiple of the alignment. -/
theorem dvd_of_fit (hPositive : 0 < a.alignment.toNat) (h : a.fit? size = some (offset, stop)) :
    a.alignment.toNat ∣ offset.toNat := by
  obtain ⟨hOffset, -⟩ := (fit?_eq_some_iff hPositive).mp h
  rw [hOffset]
  exact dvd_roundUp _ _

/-- From the start of a buffer, a request that there is room for begins at 0. -/
theorem fit?_of_reset (hHead : a.head = 0) (hPositive : 0 < a.alignment.toNat)
    (hFits : size.toNat ≤ a.capacity.toNat) : a.fit? size = some (0, size) := by
  have hNext : a.next = 0 := by
    rw [next, hHead]
    exact roundUp_of_dvd hPositive (Nat.dvd_zero _)
  rw [fit?_eq_some_iff hPositive, hNext]
  exact ⟨rfl, (Nat.zero_add _).symm, hFits⟩

/-- After one byte, a request that there is room for begins at the alignment. -/
theorem fit?_of_one (hHead : a.head = 1) (hPositive : 0 < a.alignment.toNat)
    (hFits : a.alignment.toNat + size.toNat ≤ a.capacity.toNat) :
    a.fit? size = some (a.alignment, a.alignment + size) := by
  have hNext : a.next = a.alignment.toNat := by
    rw [next, hHead]
    exact roundUp_one hPositive
  have hSum : (a.alignment + size).toNat = a.alignment.toNat + size.toNat := by
    rw [UInt64.toNat_add]
    exact Nat.mod_eq_of_lt (Nat.lt_of_le_of_lt hFits a.capacity.toNat_lt)
  rw [fit?_eq_some_iff hPositive, hNext, hSum]
  exact ⟨rfl, rfl, hFits⟩

end LinearAllocator

-- ---------------------------------------------------------------------------
-- Requests
-- ---------------------------------------------------------------------------

namespace FrameMemory

/-- What a frame buffer is asked for. -/
inductive StorageRequest where
  | store (bytes : List UInt8)
  | storeUniform (bytes : List UInt8)
  | reset
  deriving DecidableEq, Repr

/-- Serves a request. Uniform data has a place that matters to the device. -/
def StorageRequest.serve : StorageRequest → Op (FrameMemory × Host) (Option UInt64)
  | .store bytes => do
    let _ ← FrameMemory.store bytes
    pure none
  | .storeUniform bytes => do return some (← FrameMemory.storeUniform bytes)
  | .reset => do
    Op.change fun s => (s.1.reset, s.2)
    pure none

/-- Serves requests in order, also after one that failed, and returns the places of the uniform data
that was stored. -/
def serveAll : List StorageRequest → Op (FrameMemory × Host) (List UInt64)
  | [] => pure []
  | request :: rest => do
    match ← request.serve.attempt with
    | .ok (some place) => return place :: (← serveAll rest)
    | _ => serveAll rest

/-- Whatever a buffer is asked for, uniform data lies at multiples of a number. -/
def Aligns (n : Nat) (s : FrameMemory × Host) : Prop :=
  ∀ requests places t, start (serveAll requests) s = some (.ok places, t) →
    ∀ place ∈ places, n ∣ place.toNat

/-- What requests leave as it is. -/
structure SameShape (s t : FrameMemory × Host) : Prop where
  alignment : t.1.linear.alignment = s.1.linear.alignment
  capacity : t.1.linear.capacity = s.1.linear.capacity
  range : t.1.range = s.1.range

instance : Steady SameShape where
  refl _ := ⟨rfl, rfl, rfl⟩
  trans h h' := ⟨h'.alignment.trans h.alignment, h'.capacity.trans h.capacity,
    h'.range.trans h.range⟩
  push _ _ := ⟨rfl, rfl, rfl⟩

instance : Storing SameShape where
  take _ _ := ⟨rfl, rfl, rfl⟩
  write _ _ _ := ⟨rfl, rfl, rfl⟩

/-- A place for as much as descriptors see: a multiple of the alignment, with room behind it. -/
structure PlaceIn (s : FrameMemory × Host) (place : UInt64) : Prop where
  dvd : s.1.linear.alignment.toNat ∣ place.toNat
  fits : place.toNat + s.1.range.toNat ≤ s.1.linear.capacity.toNat

variable {s t : FrameMemory × Host}

/-- A place is one in every buffer of the same shape. -/
theorem PlaceIn.of_sameShape {place : UInt64} (h : PlaceIn t place) (hShape : SameShape s t) :
    PlaceIn s place := by
  obtain ⟨hDvd, hFits⟩ := h
  rw [hShape.alignment] at hDvd
  rw [hShape.range, hShape.capacity] at hFits
  exact ⟨hDvd, hFits⟩

/-- Uniform data gets such a place. -/
theorem ensures_storeUniform_place (bytes : List UInt8)
    (hPositive : 0 < s.1.linear.alignment.toNat) :
    (storeUniform bytes).Ensures s (fun place _ => PlaceIn s place) (fun _ _ => True) := by
  refine ensures_storeUniform_of (fun _ => trivial) (fun offset stop _ hFit => ?_) fun _ => trivial
  obtain ⟨-, hStop, hCapacity⟩ := LinearAllocator.bounds_of_fit hFit
  exact ⟨LinearAllocator.dvd_of_fit hPositive hFit, by omega⟩

/-- A request leaves the buffer in shape; a place it returns is one. -/
theorem ensures_serve (request : StorageRequest) (hPositive : 0 < s.1.linear.alignment.toNat) :
    request.serve.Ensures s (fun place t => SameShape s t ∧ ∀ p ∈ place, PlaceIn s p)
      (fun _ t => SameShape s t) := by
  -- stored bytes and a reset give no place that a descriptor sees
  have hNone : ∀ p ∈ (none : Option UInt64), PlaceIn s p := fun p hp => nomatch hp
  cases request with
  | store bytes =>
    rw [StorageRequest.serve, ensures_bind]
    refine (within_store (R := SameShape) bytes s).mono (fun _ t hShape => ?_) fun _ _ h => h
    rw [ensures_pure]
    exact ⟨hShape, hNone⟩
  | storeUniform bytes =>
    rw [StorageRequest.serve, ensures_bind]
    refine ((within_storeUniform (R := SameShape) bytes s).and
      (ensures_storeUniform_place bytes hPositive)).mono ?_ fun _ _ h => h.1
    rintro place t ⟨hShape, hPlace⟩
    rw [ensures_pure]
    exact ⟨hShape, fun p hp => Option.some.inj hp ▸ hPlace⟩
  | reset =>
    rw [StorageRequest.serve, ensures_bind, ensures_change, ensures_pure]
    exact ⟨⟨rfl, rfl, rfl⟩, hNone⟩

/-- **All uniform data lies at multiples of the alignment**, and with room behind it, whatever is
asked for in between. -/
theorem ensures_serveAll (requests : List StorageRequest)
    (hPositive : 0 < s.1.linear.alignment.toNat) :
    (serveAll requests).Ensures s (fun places _ => ∀ place ∈ places, PlaceIn s place)
      (fun _ _ => True) := by
  induction requests generalizing s with
  | nil =>
    rw [serveAll, ensures_pure]
    exact List.forall_mem_nil _
  | cons request rest ih =>
    -- a request keeps the shape of the memory, so later places are places in the first one
    have hRest : ∀ t, SameShape s t → (serveAll rest).Ensures t
        (fun places _ => ∀ place ∈ places, PlaceIn s place) fun _ _ => True := by
      intro t hShape
      refine (ih (hShape.alignment ▸ hPositive)).mono ?_ fun _ _ h => h
      exact fun places _ h place hPlace => (h place hPlace).of_sameShape hShape
    rw [serveAll, ensures_bind, ensures_attempt]
    refine (ensures_serve request hPositive).mono ?_ fun _ t hShape => hRest t hShape
    rintro (_ | place) t ⟨hShape, hPlace⟩
    · exact hRest t hShape
    · dsimp only
      rw [ensures_bind]
      refine (hRest t hShape).mono (fun places u hPlaces => ?_) fun _ _ h => h
      rw [ensures_pure]
      exact List.forall_mem_cons.mpr ⟨hPlace place rfl, hPlaces⟩

-- ---------------------------------------------------------------------------
-- New buffers
-- ---------------------------------------------------------------------------

/-- What a new buffer is like. -/
theorem ensures_create_shape (context : GpuContext) (size alignment : UInt64) (h : Host) :
    (create context size alignment).Ensures h
      (fun m _ => m.linear = .ofCapacity size (max alignment context.physical.minUniformAlignment) ∧
        m.range = UInt64.ofNat Matrices.size) (fun _ _ => True) := by
  rw [create, ensures_bind]
  refine (ensures_true _ h).mono (fun buffer h₁ _ => ?_) fun _ _ h => h
  rw [ensures_bind]
  refine (ensures_true _ h₁).mono (fun _ h₂ _ => ?_) fun _ _ h => h
  rw [ensures_bind, ensures_log, ensures_pure]
  exact ⟨rfl, rfl⟩

/-- One byte and then uniform data: the data lies at the alignment. -/
theorem start_serveAll_second {m : FrameMemory} {h : Host} (hHead : m.linear.head = 0)
    (hPositive : 0 < m.linear.alignment.toNat)
    (hFits : m.linear.alignment.toNat + m.range.toNat ≤ m.linear.capacity.toNat) :
    ∃ t, start (serveAll [.store [0], .storeUniform []]) (m, h) =
      some (.ok [m.linear.alignment], t) := by
  have hFirst : m.linear.fit? (UInt64.ofNat [(0 : UInt8)].length) = some (0, 1) :=
    LinearAllocator.fit?_of_reset hHead hPositive (show 1 ≤ _ by omega)
  have hStore : start (store [0]) (m, h) =
      some (.ok 0, ({ m with linear := { m.linear with head := 1 } }, h.onGpu (write 0 [0]))) :=
    start_store_of_fit hFirst
  -- one byte is stored, so the uniform data moves on to the next multiple of the alignment
  have hSecond : ({ m.linear with head := 1 } : LinearAllocator).fit? m.range =
      some (m.linear.alignment, m.linear.alignment + m.range) :=
    LinearAllocator.fit?_of_one rfl hPositive hFits
  have hUniform : ∃ t, start (storeUniform [])
      ({ m with linear := { m.linear with head := 1 } }, h.onGpu (write 0 [0])) =
        some (.ok m.linear.alignment, t) :=
    ⟨_, start_storeUniform_of_fit (Nat.zero_le _) hSecond⟩
  obtain ⟨t, hUniform⟩ := hUniform
  refine ⟨t, ?_⟩
  simp only [serveAll, StorageRequest.serve, start_bind, start_attempt, hStore, hUniform,
    start_pure, Option.map_some, Option.bind_some]

/-- Uniform data in an empty buffer lies at multiples of what divides the alignment, and of other numbers
only if the buffer has no second place for uniform data. -/
theorem aligns_iff {m : FrameMemory} {h : Host} (hHead : m.linear.head = 0)
    (hPositive : 0 < m.linear.alignment.toNat) (n : Nat) :
    Aligns n (m, h) ↔ n ∣ m.linear.alignment.toNat ∨
      m.linear.capacity.toNat < m.linear.alignment.toNat + m.range.toNat := by
  constructor
  · intro hAligns
    by_cases hSmall : m.linear.capacity.toNat < m.linear.alignment.toNat + m.range.toNat
    · exact .inr hSmall
    · -- uniform data that comes after one byte lies at the alignment itself
      obtain ⟨t, hStart⟩ := start_serveAll_second (h := h) hHead hPositive (Nat.not_lt.mp hSmall)
      exact .inl (hAligns _ _ _ hStart _ List.mem_cons_self)
  · intro hCases requests places t hStart place hPlace
    obtain ⟨hDvd, hFits⟩ := (ensures_serveAll requests hPositive).of_ok hStart place hPlace
    rcases hCases with hDivides | hSmall
    · exact Nat.dvd_trans hDivides hDvd
    · -- there is room for uniform data at the start of the buffer only
      dsimp only at hDvd hFits
      have hZero : place.toNat = 0 := Nat.eq_zero_of_dvd_of_lt hDvd (by omega)
      rw [hZero]
      exact Nat.dvd_zero _

/-- **Which buffers keep to the alignment of the device.** All uniform data lies at multiples of the
larger alignment. It lies at multiples of what the device needs if that is the larger one or divides
it, or else if the buffer has no second place for uniform data. -/
theorem aligns_iff_of_create {context : GpuContext} {size alignment : UInt64} {h h' : Host}
    {m : FrameMemory} (hRun : start (create context size alignment) h = some (.ok m, h'))
    (hDevice : 1 ≤ context.physical.minUniformAlignment.toNat) :
    Aligns (max alignment.toNat context.physical.minUniformAlignment.toNat) (m, h') ∧
      (Aligns context.physical.minUniformAlignment.toNat (m, h') ↔
        alignment ≤ context.physical.minUniformAlignment ∨
          context.physical.minUniformAlignment.toNat ∣ alignment.toNat ∨
          size.toNat < alignment.toNat + Matrices.size) := by
  obtain ⟨hLinear, hRange⟩ := (ensures_create_shape context size alignment h).of_ok hRun
  have hAlignment : m.linear.alignment.toNat =
      max alignment.toNat context.physical.minUniformAlignment.toNat := by
    rw [hLinear]
    show (max (max alignment context.physical.minUniformAlignment) 1).toNat = _
    rw [UInt64.toNat_max, UInt64.toNat_max]
    exact Nat.max_eq_left (Nat.le_trans hDevice (Nat.le_max_right _ _))
  have hHead : m.linear.head = 0 := congrArg LinearAllocator.head hLinear
  have hCapacity : m.linear.capacity = size := congrArg LinearAllocator.capacity hLinear
  have hRangeNat : m.range.toNat = Matrices.size := by
    rw [hRange]
    rfl
  -- a memory aligned to the larger of the two is aligned to a number exactly if that divides it, or
  -- nothing fits
  have hIff : ∀ n, Aligns n (m, h') ↔
      n ∣ max alignment.toNat context.physical.minUniformAlignment.toNat ∨
        size.toNat < max alignment.toNat context.physical.minUniformAlignment.toNat + Matrices.size := by
    intro n
    rw [aligns_iff hHead (by omega), hAlignment, hCapacity, hRangeNat]
  refine ⟨(hIff _).mpr (.inl (Nat.dvd_refl _)), (hIff _).trans ?_⟩
  rw [UInt64.le_iff_toNat_le]
  rcases Nat.le_total alignment.toNat context.physical.minUniformAlignment.toNat with hLess | hMore
  · rw [Nat.max_eq_right hLess]
    exact iff_of_true (.inl (Nat.dvd_refl _)) (.inl hLess)
  · rw [Nat.max_eq_left hMore]
    exact (or_iff_right_of_imp fun hLess => .inl (Nat.le_antisymm hLess hMore ▸ Nat.dvd_refl _)).symm

/-- A device that needs multiples of 64 and a host that asks for multiples of 96. -/
theorem aligns_iff_of_create_uneven : ∃ (m : FrameMemory) (h : Host),
    start (create default 65536 96) {} = some (.ok m, h) ∧
      1 ≤ (default : GpuContext).physical.minUniformAlignment.toNat ∧
      Aligns 96 (m, h) ∧ ¬ Aligns 64 (m, h) := by
  have hSucceeds : (create default 65536 96).succeeds {} = true := by decide +kernel
  obtain ⟨m, hRun⟩ := start_of_succeeds hSucceeds
  have hDevice : 1 ≤ (default : GpuContext).physical.minUniformAlignment.toNat := by decide
  obtain ⟨hLarger, hIff⟩ := aligns_iff_of_create hRun hDevice
  exact ⟨m, _, hRun, hDevice, hLarger, fun hAligns => absurd (hIff.mp hAligns) (by decide)⟩

end FrameMemory

end RenderLoop
