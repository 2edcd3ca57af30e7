import Mathlib.Data.UInt
import Mathlib.Order.Bounds.Defs
import RenderLoop.Memory.Linear

/-!
# RenderLoop — linear allocation in exact numbers

An allocator computes with 64-bit words, and a sum that does not fit is a request that
does not fit. In unbounded numbers that is the same as a request that goes beyond the
capacity: rounding up to the alignment (`alignUp_eq`) and adding the size
(`LinearAllocator.fit?_eq_some_iff`) have an answer wherever the region ends within the
capacity, and the answer is the exact one. Alignments need not be powers of two.

What an allocator has handed out since it was last reset is kept in a **ledger**. Its
regions lie one behind the other (`Ledger.Exact`), whatever calls there were and however
many of them failed (`Ledger.spans_of_calls`). A reset gives the whole buffer back: nothing
is in use then, and a request up to the capacity gets the first bytes
(`LinearAllocator.allocate_reset`).
-/

namespace RenderLoop

-- ---------------------------------------------------------------------------
-- Rounding up
-- ---------------------------------------------------------------------------

/-- A number rounded up to a multiple of another one. -/
def roundUp (n k : Nat) : Nat := (n + (k - 1)) / k * k

section Rounding

variable {n k m : Nat}

/-- The rounded number is a multiple. -/
theorem dvd_roundUp (n k : Nat) : k ∣ roundUp n k := Nat.dvd_mul_left ..

/-- The rounded number is not below the number. -/
theorem le_roundUp (n : Nat) (hk : 0 < k) : n ≤ roundUp n k := by
  have hSplit := Nat.div_add_mod (n + (k - 1)) k
  have hRest := Nat.mod_lt (n + (k - 1)) hk
  rw [Nat.mul_comm] at hSplit
  rw [roundUp]
  omega

/-- No multiple that is not below the number is smaller. -/
theorem roundUp_le (hk : 0 < k) (hDvd : k ∣ m) (hLe : n ≤ m) : roundUp n k ≤ m := by
  obtain ⟨q, rfl⟩ := hDvd
  have hLess : (n + (k - 1)) / k < q + 1 := by
    rw [Nat.div_lt_iff_lt_mul hk, Nat.add_mul, Nat.one_mul, Nat.mul_comm q k]
    omega
  rw [roundUp, Nat.mul_comm]
  exact Nat.mul_le_mul_left k (Nat.le_of_lt_succ hLess)

/-- Rounding up gives the least multiple that is not below the number. -/
theorem isLeast_roundUp (n : Nat) (hk : 0 < k) : IsLeast {m | k ∣ m ∧ n ≤ m} (roundUp n k) :=
  ⟨⟨dvd_roundUp n k, le_roundUp n hk⟩, fun _ hm => roundUp_le hk hm.1 hm.2⟩

/-- A multiple stays. -/
theorem roundUp_of_dvd (hk : 0 < k) (hDvd : k ∣ n) : roundUp n k = n :=
  Nat.le_antisymm (roundUp_le hk hDvd (Nat.le_refl n)) (le_roundUp n hk)

/-- The first multiple after 0 is the number itself. -/
theorem roundUp_one (hk : 0 < k) : roundUp 1 k = k := by
  have hPositive : 0 < roundUp 1 k := le_roundUp 1 hk
  exact Nat.le_antisymm (roundUp_le hk (Nat.dvd_refl k) hk)
    (Nat.le_of_dvd hPositive (dvd_roundUp 1 k))

/-- A number that is no multiple is rounded up by what its remainder lacks. -/
theorem roundUp_of_mod (hk : 0 < k) (hRest : n % k ≠ 0) : roundUp n k = n + (k - n % k) := by
  have hLess := Nat.mod_lt n hk
  have hSplit := Nat.div_add_mod n k
  have hNext : n + (k - n % k) = k * (n / k + 1) := by
    rw [Nat.mul_add, Nat.mul_one]
    omega
  refine Nat.le_antisymm (roundUp_le hk ⟨_, hNext⟩ (Nat.le_add_right _ _)) ?_
  -- the multiple before that one is below the number
  obtain ⟨q, hq⟩ := dvd_roundUp n k
  have hLe := le_roundUp n hk
  rw [hq] at hLe
  have hQuotient : n / k < q := by
    by_contra hNot
    have hMul := Nat.mul_le_mul_left k (Nat.not_lt.mp hNot)
    omega
  rw [hq, hNext]
  exact Nat.mul_le_mul_left k hQuotient

end Rounding

/-- Words are rounded up as numbers are, if the result fits. -/
theorem alignUp_eq {value alignment : UInt64} (hPositive : 0 < alignment.toNat) :
    alignUp value alignment = Checked.longWord (roundUp value.toNat alignment.toNat) := by
  have hRest : (value % alignment).toNat = value.toNat % alignment.toNat := UInt64.toNat_mod ..
  simp only [alignUp]
  split
  · -- a multiple is not moved; any other value is moved by what is missing to the next one
    rename_i hZero
    rw [hZero] at hRest
    rw [roundUp_of_dvd hPositive (Nat.dvd_of_mod_eq_zero hRest.symm)]
    exact (Checked.longWord_eq_some_iff.mpr rfl).symm
  · rename_i hSome
    have hNonzero : value.toNat % alignment.toNat ≠ 0 := by
      rw [← hRest]
      exact fun hZero => hSome (UInt64.toNat_inj.mp hZero)
    have hLess : value % alignment ≤ alignment := by
      rw [UInt64.le_iff_toNat_le, hRest]
      exact Nat.le_of_lt (Nat.mod_lt _ hPositive)
    rw [Checked.add64, UInt64.toNat_sub_of_le _ _ hLess, hRest, roundUp_of_mod hPositive hNonzero]

-- ---------------------------------------------------------------------------
-- One request
-- ---------------------------------------------------------------------------

namespace LinearAllocator

variable {a : LinearAllocator} {size offset stop : UInt64}

/-- Where the next region begins: the head, rounded up to the alignment. -/
def next (a : LinearAllocator) : Nat := roundUp a.head.toNat a.alignment.toNat

/-- A request fits if its region ends within the capacity, and the words are the exact numbers. -/
theorem fit?_eq_some_iff (hPositive : 0 < a.alignment.toNat) :
    a.fit? size = some (offset, stop) ↔ offset.toNat = a.next ∧
      stop.toNat = a.next + size.toNat ∧ stop.toNat ≤ a.capacity.toNat := by
  simp only [fit?, alignUp_eq hPositive, Option.bind_eq_bind, Option.bind_eq_some_iff,
    Checked.longWord_eq_some_iff, Checked.add64_eq_some_iff]
  rw [← show a.next = roundUp a.head.toNat a.alignment.toNat from rfl]
  constructor
  · rintro ⟨offset', hOffset, stop', hStop, hSome⟩
    split at hSome
    · cases hSome
    · rename_i hFits
      cases hSome
      rw [hOffset] at hStop
      exact ⟨hOffset, hStop, UInt64.le_iff_toNat_le.mp (UInt64.not_lt.mp hFits)⟩
  · rintro ⟨hOffset, hStop, hFits⟩
    refine ⟨offset, hOffset, stop, by rw [hStop, hOffset], ?_⟩
    exact if_neg (UInt64.not_lt.mpr (UInt64.le_iff_toNat_le.mpr hFits))

/-- A request that ends within the capacity is granted, at the rounded head. -/
theorem allocate_of_le (hPositive : 0 < a.alignment.toNat)
    (hFits : a.next + size.toNat ≤ a.capacity.toNat) :
    ∃ offset stop : UInt64, a.allocate size = (.ok offset, { a with head := stop }) ∧
      offset.toNat = a.next ∧ stop.toNat = a.next + size.toNat := by
  have hCapacity := a.capacity.toNat_lt_size
  have hOffset : (UInt64.ofNat a.next).toNat = a.next := UInt64.toNat_ofNat_of_lt' (by omega)
  have hStop : (UInt64.ofNat (a.next + size.toNat)).toNat = a.next + size.toNat :=
    UInt64.toNat_ofNat_of_lt' (by omega)
  have hFit := (fit?_eq_some_iff hPositive).mpr ⟨hOffset, hStop, by rw [hStop]; exact hFits⟩
  exact ⟨_, _, by rw [allocate, hFit], hOffset, hStop⟩

/-- Any other request is refused, and nothing changes. -/
theorem allocate_of_lt (hPositive : 0 < a.alignment.toNat)
    (hShort : a.capacity.toNat < a.next + size.toNat) :
    a.allocate size = (.error .outOfMemory, a) := by
  have hNone : a.fit? size = none := by
    rw [Option.eq_none_iff_forall_not_mem]
    rintro ⟨offset, stop⟩ hFit
    obtain ⟨-, hStop, hFits⟩ := (fit?_eq_some_iff hPositive).mp hFit
    omega
  rw [allocate, hNone]

theorem allocate_ok_iff (hPositive : 0 < a.alignment.toNat) :
    (∃ offset, (a.allocate size).1 = .ok offset) ↔ a.next + size.toNat ≤ a.capacity.toNat := by
  rcases Nat.lt_or_ge a.capacity.toNat (a.next + size.toNat) with hShort | hFits
  · rw [allocate_of_lt hPositive hShort]
    exact iff_of_false (fun ⟨_, hOk⟩ => nomatch hOk) (Nat.not_le.mpr hShort)
  · obtain ⟨offset, stop, hGranted, -⟩ := allocate_of_le hPositive hFits
    rw [hGranted]
    exact iff_of_true ⟨offset, rfl⟩ hFits

/-- What is granted is the region behind the head, and only the head moves. -/
theorem of_allocate_ok {b : LinearAllocator} (hPositive : 0 < a.alignment.toNat)
    (h : a.allocate size = (.ok offset, b)) :
    offset.toNat = a.next ∧ b.head.toNat = a.next + size.toNat ∧ b = { a with head := b.head } := by
  have hFits : a.next + size.toNat ≤ a.capacity.toNat :=
    (allocate_ok_iff hPositive).mp ⟨offset, congrArg Prod.fst h⟩
  obtain ⟨offset', stop, hGranted, hOffset, hStop⟩ := allocate_of_le hPositive hFits
  rw [hGranted] at h
  cases h
  exact ⟨hOffset, hStop, rfl⟩

/-- Only memory can run out, and nothing is taken then. -/
theorem of_allocate_error {b : LinearAllocator} {e : RenderError}
    (h : a.allocate size = (.error e, b)) : e = .outOfMemory ∧ b = a := by
  rw [allocate] at h
  split at h <;> cases h
  exact ⟨rfl, rfl⟩

/-- After a reset all of the capacity can be had again, from the first byte on. -/
theorem allocate_reset (hFits : size ≤ a.capacity) :
    a.reset.allocate size = (.ok 0, { a with head := size }) := by
  have hOffset : alignUp 0 a.alignment = some 0 := by
    rw [alignUp, UInt64.zero_mod, if_pos rfl]
  have hStop : Checked.add64 0 size = some size :=
    Checked.add64_eq_some_iff.mpr (Nat.zero_add _).symm
  have hFit : a.reset.fit? size = some (0, size) := by
    simp only [fit?, reset, hOffset, hStop, Option.bind_eq_bind, Option.bind_some]
    exact if_neg (UInt64.not_lt.mpr hFits)
  rw [allocate, hFit]
  rfl

end LinearAllocator

-- ---------------------------------------------------------------------------
-- Histories
-- ---------------------------------------------------------------------------

/-- A region that was handed out. -/
structure Span where
  offset : UInt64
  size : UInt64
  deriving DecidableEq, Repr

/-- The place after the last byte. -/
def Span.stop (s : Span) : Nat := s.offset.toNat + s.size.toNat

/-- What an allocator is called for. -/
inductive LinearCall where
  | allocate (size : UInt64)
  | reset
  deriving DecidableEq, Repr

/-- An allocator with the regions that it has handed out since the last reset, newest first. -/
structure Ledger where
  allocator : LinearAllocator
  spans : List Span := []
  deriving DecidableEq, Repr

namespace Ledger

/-- Serves a call. -/
def serve (l : Ledger) : LinearCall → Ledger
  | .allocate size =>
    match l.allocator.allocate size with
    | (.ok offset, allocator) => ⟨allocator, ⟨offset, size⟩ :: l.spans⟩
    | (.error _, allocator) => ⟨allocator, l.spans⟩
  | .reset => ⟨l.allocator.reset, []⟩

/-- A new allocator after calls in order. -/
def ofCalls (capacity alignment : UInt64) (calls : List LinearCall) : Ledger :=
  calls.foldl serve { allocator := .ofCapacity capacity alignment }

/-- The end of the newest region, which is what has been in use since the last reset. -/
def stop (l : Ledger) : Nat := (l.spans.head?.map Span.stop).getD 0

/-- The allocator has kept its capacity and its alignment, which is at least 1, and the regions lie
one behind the other, at multiples of the alignment and up to the head. -/
structure Exact (capacity alignment : UInt64) (l : Ledger) : Prop where
  capacity_eq : l.allocator.capacity = capacity
  alignment_eq : l.allocator.alignment.toNat = max alignment.toNat 1
  head_le : l.allocator.head.toNat ≤ capacity.toNat
  head_eq : l.allocator.head.toNat = l.stop
  dvd : ∀ s ∈ l.spans, max alignment.toNat 1 ∣ s.offset.toNat
  stop_le : ∀ s ∈ l.spans, s.stop ≤ l.allocator.head.toNat
  apart : l.spans.Pairwise fun later earlier => earlier.stop ≤ later.offset.toNat

variable {capacity alignment : UInt64} {l : Ledger}

theorem exact_new (capacity alignment : UInt64) :
    Exact capacity alignment { allocator := .ofCapacity capacity alignment } where
  capacity_eq := rfl
  alignment_eq := UInt64.toNat_max ..
  head_le := Nat.zero_le _
  head_eq := rfl
  dvd := List.forall_mem_nil _
  stop_le := List.forall_mem_nil _
  apart := .nil

theorem Exact.positive (h : Exact capacity alignment l) : 0 < l.allocator.alignment.toNat := by
  rw [h.alignment_eq]
  exact Nat.le_max_right _ _

/-- The next offset is the head, rounded up. -/
theorem Exact.next_eq (h : Exact capacity alignment l) :
    l.allocator.next = roundUp l.allocator.head.toNat (max alignment.toNat 1) := by
  rw [LinearAllocator.next, h.alignment_eq]

/-- A call leaves the regions that remain where they are, and puts a new one behind them. -/
theorem Exact.serve (h : Exact capacity alignment l) (call : LinearCall) :
    Exact capacity alignment (l.serve call) := by
  cases call with
  | reset =>
    exact ⟨h.capacity_eq, h.alignment_eq, Nat.zero_le _, rfl, List.forall_mem_nil _,
      List.forall_mem_nil _, .nil⟩
  | allocate size =>
    -- either the span does not fit and nothing changes, or it starts at or after the head
    rcases Nat.lt_or_ge l.allocator.capacity.toNat (l.allocator.next + size.toNat) with
      hShort | hFits
    · rw [Ledger.serve, LinearAllocator.allocate_of_lt h.positive hShort]
      exact h
    · obtain ⟨offset, stop, hGranted, hOffset, hStop⟩ :=
        LinearAllocator.allocate_of_le h.positive hFits
      -- every earlier span ends by the head, so the new one is apart from all
      have hHead : l.allocator.head.toNat ≤ offset.toNat := by
        rw [hOffset]
        exact le_roundUp _ h.positive
      have hEnd : (⟨offset, size⟩ : Span).stop = stop.toNat := by
        rw [Span.stop, hOffset, hStop]
      rw [Ledger.serve, hGranted]
      refine ⟨h.capacity_eq, h.alignment_eq, ?_, hEnd.symm, ?_, ?_, ?_⟩
      · show stop.toNat ≤ capacity.toNat
        rw [hStop, ← h.capacity_eq]
        exact hFits
      · refine List.forall_mem_cons.mpr ⟨?_, h.dvd⟩
        rw [hOffset, h.next_eq]
        exact dvd_roundUp _ _
      · refine List.forall_mem_cons.mpr ⟨Nat.le_of_eq hEnd, fun s hs => ?_⟩
        refine Nat.le_trans (h.stop_le s hs) (Nat.le_trans hHead ?_)
        rw [← hEnd]
        exact Nat.le_add_right _ _
      · exact List.pairwise_cons.mpr ⟨fun s hs => Nat.le_trans (h.stop_le s hs) hHead, h.apart⟩

theorem exact_ofCalls (capacity alignment : UInt64) (calls : List LinearCall) :
    Exact capacity alignment (ofCalls capacity alignment calls) := by
  induction calls using List.reverseRecOn with
  | nil => exact exact_new capacity alignment
  | append_singleton calls call ih =>
    rw [ofCalls, List.foldl_append]
    exact ih.serve call

/-- **Linear allocation is exact.** After any calls, a request is granted exactly if, in unbounded
numbers, the head rounded up to the alignment and the size together are within the capacity. It
then gets the rounded head, and the new head is behind the region; a request that is refused changes
nothing. All regions since the last reset begin at multiples of the alignment, end within the
capacity and within what is in use, and each one begins where those before it have ended or later,
so that no byte is in two of them. What is in use ends with the newest region, and a reset leaves
nothing in use. An alignment of 0 counts as 1. -/
theorem spans_of_calls (capacity alignment : UInt64) (calls : List LinearCall) :
    let l := ofCalls capacity alignment calls
    let place := roundUp l.allocator.head.toNat (max alignment.toNat 1)
    IsLeast {n | max alignment.toNat 1 ∣ n ∧ l.allocator.head.toNat ≤ n} place ∧
      (∀ size : UInt64,
        ((∃ offset, (l.allocator.allocate size).1 = .ok offset) ↔
          place + size.toNat ≤ capacity.toNat) ∧
        (∀ offset a, l.allocator.allocate size = (.ok offset, a) →
          offset.toNat = place ∧ a.head.toNat = place + size.toNat ∧
            a = { l.allocator with head := a.head }) ∧
        ∀ e a, l.allocator.allocate size = (.error e, a) → e = .outOfMemory ∧ a = l.allocator) ∧
      (∀ s ∈ l.spans, max alignment.toNat 1 ∣ s.offset.toNat ∧ s.stop ≤ capacity.toNat ∧
        s.stop ≤ l.allocator.used.toNat) ∧
      (l.spans.Pairwise fun later earlier => earlier.stop ≤ later.offset.toNat) ∧
      l.allocator.used.toNat = l.stop := by
  intro l place
  have hExact : Exact capacity alignment l := exact_ofCalls capacity alignment calls
  have hPlace : l.allocator.next = place := hExact.next_eq
  refine ⟨isLeast_roundUp _ (Nat.le_max_right _ _), fun size => ?_, fun s hs => ?_, hExact.apart,
    hExact.head_eq⟩
  · rw [← hExact.capacity_eq, ← hPlace]
    exact ⟨LinearAllocator.allocate_ok_iff hExact.positive,
      fun _ _ => LinearAllocator.of_allocate_ok hExact.positive,
      fun _ _ => LinearAllocator.of_allocate_error⟩
  · exact ⟨hExact.dvd s hs, Nat.le_trans (hExact.stop_le s hs) hExact.head_le, hExact.stop_le s hs⟩

/-- Multiples of 96 in 250 bytes: there is room for two regions of 50 bytes each, and for a third
one only after a reset. -/
example : (ofCalls 250 96 [.allocate 50, .allocate 50, .allocate 59]).spans = [⟨96, 50⟩, ⟨0, 50⟩] ∧
    (ofCalls 250 96 [.allocate 50, .allocate 50, .reset, .allocate 59]).spans = [⟨0, 59⟩] := by
  decide

end Ledger

end RenderLoop
