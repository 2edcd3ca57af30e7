import RenderLoop.Frame.Recorder
import RenderLoop.Proofs.Rehearsal.Plan

/-!
# RenderLoop — what a recorder does in a rehearsal

For each operation of a recorder, all ways it can end: what it answers, what has
become of the recorder, and what the device went through. Each way is a
constructor of an inductive predicate on outcomes (`BeginOutcome`, `FlushOutcome`,
`DrawOutcome`, `RecorderOutcome`), and the operation ensures that one of them is
the case. Whatever is shown of recorders later is shown of these.
-/

namespace RenderLoop

open Rehearsal

-- ---------------------------------------------------------------------------
-- Allocation
-- ---------------------------------------------------------------------------

/-- A device handed out new buffers. -/
structure Rehearsal.Allocated (w : Rehearsal) (bs : List CommandBuffer) (w' : Rehearsal) : Prop where
  buffers : bs = (List.range' w.nextHandle bs.length).map CommandBuffer.mk
  history : w'.history = .allocated bs :: w.history
  nextHandle : w'.nextHandle = w.nextHandle + bs.length
  images : w'.chain.images = w.chain.images
  current : w'.chain.current = w.chain.current

/-- An allocation hands out the next handles and records them, or is refused and records that. -/
theorem Rehearsal.ensures_allocate (count : UInt32) (w : Rehearsal) :
    (FrameDevice.allocate count : Op Rehearsal (List CommandBuffer)).Ensures w
      (fun bs w' => Allocated w bs w')
      (fun _ w' => w'.history = .refused .allocateBuffers :: w.history ∧ Kept w w') := by
  show (unlessRefused .allocateBuffers (allocate count)).Ensures w _ _
  rw [unlessRefused, Op.ensures_bind, Op.ensures_get]
  split
  · simp only [note, Op.ensures_bind, Op.ensures_change, Op.ensures_throw]
    exact ⟨rfl, rfl, rfl, rfl⟩
  · simp only [allocate, note, Op.ensures_bind, Op.ensures_get, Op.ensures_change, Op.ensures_pure]
    refine ⟨?_, rfl, ?_, rfl, rfl⟩
    · rw [List.length_map, List.length_range']
    · rw [List.length_map, List.length_range']
      rfl

/-- As many buffers are handed out as were asked for, unless a fault miscounts them. -/
theorem Rehearsal.ensures_allocate_count (count : UInt32) (w : Rehearsal) :
    (FrameDevice.allocate count : Op Rehearsal (List CommandBuffer)).Ensures w
      (fun bs _ => bs.length = w.allocatedCount count) (fun _ _ => True) := by
  show (unlessRefused .allocateBuffers (allocate count)).Ensures w _ _
  rw [unlessRefused, Op.ensures_bind, Op.ensures_get]
  split
  · simp only [note, Op.ensures_bind, Op.ensures_change, Op.ensures_throw]
  · simp only [allocate, note, Op.ensures_bind, Op.ensures_get, Op.ensures_change, Op.ensures_pure,
      List.length_map, List.length_range']

namespace Recorder

/-- What becomes of a history when buffers are freed; nothing, if there are none. -/
def freedIfAny (bs : List CommandBuffer) (h : DeviceHistory) : DeviceHistory :=
  if bs.isEmpty then h else .freed bs :: h

-- ---------------------------------------------------------------------------
-- The setup buffer
-- ---------------------------------------------------------------------------

/-- The ways in which beginning a new buffer ends. -/
inductive NewOutcome (w : Rehearsal) : Except RenderError CommandBuffer → Rehearsal → Prop
  | notAllocated {e : RenderError} {w' : Rehearsal}
    (hHistory : w'.history = .refused .allocateBuffers :: w.history) (hKept : Kept w w') :
    NewOutcome w (.error e) w'
  | noBuffer {e : RenderError} {w₁ w' : Rehearsal} (hAllocated : Allocated w [] w₁)
    (hHistory : w'.history = w₁.history) (hKept : Kept w₁ w') : NewOutcome w (.error e) w'
  | notBegun {e : RenderError} {b : CommandBuffer} {others : List CommandBuffer}
    {w₁ w' : Rehearsal} (hAllocated : Allocated w (b :: others) w₁)
    (hHistory : w'.history = .freed [b] :: .refused .beginBuffer :: w₁.history)
    (hKept : Kept w₁ w') (hCount : others.length + 1 = w.allocatedCount 1) :
    NewOutcome w (.error e) w'
  | begun {b : CommandBuffer} {others : List CommandBuffer} {w₁ w' : Rehearsal}
    (hAllocated : Allocated w (b :: others) w₁) (hHistory : w'.history = .begun b :: w₁.history)
    (hKept : Kept w₁ w') (hCount : others.length + 1 = w.allocatedCount 1) :
    NewOutcome w (.ok b) w'

/-- Beginning a new buffer ends in one of its ways. -/
theorem ensures_beginNew (w : Rehearsal) :
    (beginNew : Op Rehearsal CommandBuffer).Ensures w
      (fun b w' => NewOutcome w (.ok b) w') (fun e w' => NewOutcome w (.error e) w') := by
  rw [beginNew, allocateOne]
  simp only [Op.ensures_bind, Op.ensures_pure]
  refine ((ensures_allocate 1 w).and (ensures_allocate_count 1 w)).mono ?_ ?_
  · rintro bs w₁ ⟨hAllocated, hCount⟩
    -- a driver that miscounts may hand out no buffer at all
    cases bs with
    | nil =>
      simp only [Op.failBackend, Op.ensures_failWith]
      exact .noBuffer hAllocated rfl (kept_push _ w₁)
    | cons b others =>
      simp only [Op.ensures_pure, FrameDevice.freeOnFailure, Op.ensures_undoing]
      refine (carriesOut_beginBuffer b w₁).mono ?_ ?_
      · rintro - w' ⟨hHistory, hKept⟩
        exact .begun hAllocated hHistory hKept hCount
      · rintro e w' ⟨hBroken, hKept⟩
        obtain ⟨-, rfl, hHistory⟩ := hBroken.of_single
        exact .notBegun hAllocated (congrArg _ hHistory) (hKept.trans (kept_happen _ w')) hCount
  · rintro e w' ⟨⟨hHistory, hKept⟩, -⟩
    exact .notAllocated hHistory hKept

/-- The ways in which asking for a setup buffer ends. -/
inductive SetupOutcome (r : Recorder) (w : Rehearsal) :
    Except RenderError CommandBuffer → Recorder × Rehearsal → Prop
  | present {b : CommandBuffer} (hSetup : r.setup = some b) : SetupOutcome r w (.ok b) (r, w)
  | failed {e : RenderError} {w' : Rehearsal} (hSetup : r.setup = none)
    (hNew : NewOutcome w (.error e) w') : SetupOutcome r w (.error e) (r, w')
  | begun {b : CommandBuffer} {w' : Rehearsal} (hSetup : r.setup = none)
    (hNew : NewOutcome w (.ok b) w') : SetupOutcome r w (.ok b) ({ r with setup := some b }, w')

/-- Asking for a setup buffer ends in one of these ways. -/
theorem ensures_beginSetup (r : Recorder) (w : Rehearsal) :
    (beginSetup : Op (Recorder × Rehearsal) CommandBuffer).Ensures (r, w)
      (fun b s => SetupOutcome r w (.ok b) s) (fun e s => SetupOutcome r w (.error e) s) := by
  rw [beginSetup, Op.ensures_bind, Op.ensures_get]
  split
  · rename_i b hSetup
    rw [Op.ensures_pure]
    exact .present hSetup
  · rename_i hSetup
    simp only [Op.ensures_bind, Op.ensures_onSecond, Op.ensures_change, Op.ensures_pure]
    exact (ensures_beginNew w).mono (fun b w' hNew => .begun hSetup hNew)
      (fun e w' hNew => .failed hSetup hNew)

/-- What is planned for a buffer that is run to its end. -/
def flushPlan (b : CommandBuffer) : Plan := [.finish b, .submit b [] [], .wait]

theorem carriesOut_runToEnd (b : CommandBuffer) : CarriesOut (runToEnd b) (flushPlan b) := by
  refine (carriesOut_endBuffer b).bind fun _ => ?_
  refine (carriesOut_submit b [] []).bind fun _ => ?_
  exact carriesOut_waitQueue

/-- The ways in which flushing the setup buffer ends. -/
inductive FlushOutcome (r : Recorder) (w : Rehearsal) :
    Except RenderError Unit → Recorder × Rehearsal → Prop
  | nothing (hSetup : r.setup = none) : FlushOutcome r w (.ok ()) (r, w)
  | flushed {b : CommandBuffer} {w' : Rehearsal} (hSetup : r.setup = some b)
    (hHistory : w'.history = .freed [b] :: (flushPlan b).after w.history) (hKept : Kept w w') :
    FlushOutcome r w (.ok ()) ({ r with setup := none }, w')
  | failed {e : RenderError} {b : CommandBuffer} {h : DeviceHistory} {w' : Rehearsal}
    (hSetup : r.setup = some b) (hBroken : (flushPlan b).BrokenOff w.history h)
    (hHistory : w'.history = .freed [b] :: h) (hKept : Kept w w') :
    FlushOutcome r w (.error e) ({ r with setup := none }, w')

/-- Flushing the setup buffer ends in one of these ways: the buffer is freed in any case. -/
theorem ensures_flushSetup (r : Recorder) (w : Rehearsal) :
    (flushSetup : Op (Recorder × Rehearsal) Unit).Ensures (r, w)
      (fun a s => FlushOutcome r w (.ok a) s) (fun e s => FlushOutcome r w (.error e) s) := by
  rw [flushSetup, Op.ensures_bind, Op.ensures_get]
  split
  · rename_i hSetup
    rw [Op.ensures_pure]
    exact .nothing hSetup
  · rename_i b hSetup
    simp only [Op.ensures_bind, Op.ensures_change, Op.ensures_attempt, Op.ensures_onSecond,
      Op.ensures_log, Op.ensures_ofExcept]
    -- freed after the run, whether or not the run came to its end
    refine (carriesOut_runToEnd b w).mono ?_ ?_
    · rintro - w' ⟨hHistory, hKept⟩
      exact .flushed hSetup (congrArg _ hHistory) (hKept.trans ⟨rfl, rfl, rfl⟩)
    · rintro e w' ⟨hBroken, hKept⟩
      exact .failed hSetup hBroken rfl (hKept.trans ⟨rfl, rfl, rfl⟩)

-- ---------------------------------------------------------------------------
-- Draw buffers
-- ---------------------------------------------------------------------------

/-- The ways in which asking for the draw buffer of an image ends. -/
inductive DrawOutcome (index images : UInt32) (r : Recorder) (w : Rehearsal) :
    Except RenderError CommandBuffer → Recorder × Rehearsal → Prop
  | outOfRange {e : RenderError} {w' : Rehearsal} (hIndex : images ≤ index)
    (hHistory : w'.history = w.history) (hKept : Kept w w') :
    DrawOutcome index images r w (.error e) (r, w')
  | reset {b : CommandBuffer} {w' : Rehearsal} (hCount : r.draw.length = images.toNat)
    (hBuffer : r.draw[index.toNat]? = some b) (hHistory : w'.history = .wasReset b :: w.history)
    (hKept : Kept w w') : DrawOutcome index images r w (.ok b) (r, w')
  | notReset {e : RenderError} {w' : Rehearsal} (hCount : r.draw.length = images.toNat)
    (hHistory : w'.history = .refused .resetBuffer :: w.history) (hKept : Kept w w') :
    DrawOutcome index images r w (.error e) (r, w')
  | renewed {b : CommandBuffer} {bs : List CommandBuffer} {w₁ w' : Rehearsal}
    (hDropped : w₁.history = freedIfAny r.draw w.history) (hKept : Kept w w₁)
    (hAllocated : Allocated w₁ bs w') (hCount : bs.length = images.toNat)
    (hBuffer : bs[index.toNat]? = some b) :
    DrawOutcome index images r w (.ok b) ({ r with draw := bs }, w')
  | notAllocated {e : RenderError} {w' : Rehearsal}
    (hHistory : w'.history = .refused .allocateBuffers :: freedIfAny r.draw w.history)
    (hKept : Kept w w') : DrawOutcome index images r w (.error e) ({ r with draw := [] }, w')
  | miscounted {e : RenderError} {bs : List CommandBuffer} {w₁ w₂ w' : Rehearsal}
    (hDropped : w₁.history = freedIfAny r.draw w.history) (hKept : Kept w w₁)
    (hAllocated : Allocated w₁ bs w₂) (hHistory : w'.history = .freed bs :: w₂.history)
    (hKept' : Kept w₂ w') : DrawOutcome index images r w (.error e) ({ r with draw := [] }, w')

/-- Dropping the draw buffers empties the list and frees what was in it. -/
theorem history_dropDraw (r : Recorder) (w : Rehearsal) :
    (dropDraw (r, w)).1 = { r with draw := [] } ∧
      (dropDraw (r, w)).2.history = freedIfAny r.draw w.history ∧
      Kept w (dropDraw (r, w)).2 := by
  obtain ⟨setup, draw, pre, post, destroyed⟩ := r
  cases draw with
  | nil => exact ⟨rfl, rfl, Kept.refl w⟩
  | cons b rest => exact ⟨rfl, rfl, kept_happen _ w⟩

/-- Draw buffers are handed out in the number of the images, or not kept at all. -/
theorem ensures_allocateDraw (images : UInt32) (w : Rehearsal) :
    (allocateDraw images : Op Rehearsal (List CommandBuffer)).Ensures w
      (fun bs w' => Allocated w bs w' ∧ bs.length = images.toNat)
      (fun _ w' => (w'.history = .refused .allocateBuffers :: w.history ∧ Kept w w') ∨
        ∃ bs w₁, Allocated w bs w₁ ∧ w'.history = .freed bs :: w₁.history ∧ Kept w₁ w') := by
  rw [allocateDraw, Op.ensures_bind]
  refine (ensures_allocate images w).mono ?_ (fun e w' h => .inl h)
  intro bs w₁ hAllocated
  refine Op.ensures_ite ?_ ?_
  · intro hCount
    rw [Op.ensures_pure]
    exact ⟨hAllocated, hCount⟩
  · intro _
    simp only [Op.ensures_bind, Op.ensures_change, Op.failBackend, Op.ensures_failWith]
    exact .inr ⟨bs, w₁, hAllocated, rfl, rfl, rfl, rfl⟩

/-- Asking for the draw buffer of an image ends in one of its ways. -/
theorem ensures_drawBuffer (index images : UInt32) (r : Recorder) (w : Rehearsal) :
    (drawBuffer index images : Op (Recorder × Rehearsal) CommandBuffer).Ensures (r, w)
      (fun b s => DrawOutcome index images r w (.ok b) s)
      (fun e s => DrawOutcome index images r w (.error e) s) := by
  rw [drawBuffer]
  refine Op.ensures_ite ?_ ?_
  · intro hIndex
    rw [Op.failBackend, Op.ensures_failWith]
    exact .outOfRange hIndex rfl (kept_push _ w)
  · intro _
    rw [Op.ensures_bind, Op.ensures_get]
    refine Op.ensures_ite ?_ ?_
    · intro hCount
      simp only [drawAt, Op.ensures_bind, Op.ensures_get, Op.ensures_ofOption,
        Op.ensures_onSecond, Op.ensures_pure]
      intro b hBuffer
      refine (carriesOut_reset b w).mono ?_ ?_
      · rintro - w' ⟨hHistory, hKept⟩
        exact .reset hCount hBuffer hHistory hKept
      · rintro e w' ⟨hBroken, hKept⟩
        obtain ⟨-, rfl, hHistory⟩ := hBroken.of_single
        exact .notReset hCount hHistory hKept
    · intro _
      -- the number of images has changed: all buffers are freed before new ones are allocated
      obtain ⟨hDrop, hDropped, hKept⟩ := history_dropDraw r w
      simp only [renewDraw, drawAt, Op.ensures_bind, Op.ensures_get, Op.ensures_ofOption,
        Op.ensures_onSecond, Op.ensures_change]
      rw [hDrop]
      refine (ensures_allocateDraw images _).mono ?_ ?_
      · rintro bs w' ⟨hAllocated, hCount⟩ b hBuffer
        exact .renewed hDropped hKept hAllocated hCount hBuffer
      · rintro e w' (⟨hHistory, hKept'⟩ | ⟨bs, w₁, hAllocated, hHistory, hKept'⟩)
        · exact .notAllocated (by rw [hHistory, hDropped]) (hKept.trans hKept')
        · exact .miscounted hDropped hKept hAllocated hHistory hKept'

-- ---------------------------------------------------------------------------
-- Beginning and end
-- ---------------------------------------------------------------------------

/-- What becomes of a history when the buffers of a recorder are freed. -/
def released (r : Recorder) (h : DeviceHistory) : DeviceHistory :=
  .freed [r.prePresent, r.postPresent] :: freedIfAny r.draw (freedIfAny r.setup.toList h)

/-- A recorder without buffers. -/
def emptied (r : Recorder) : Recorder := { r with setup := none, draw := [], destroyed := true }

/-- Dropping the setup buffer frees it, if there is one. -/
theorem history_dropSetup (r : Recorder) (w : Rehearsal) :
    (dropSetup (r, w)).1 = { r with setup := none } ∧
      (dropSetup (r, w)).2.history = freedIfAny r.setup.toList w.history ∧
      Kept w (dropSetup (r, w)).2 := by
  obtain ⟨setup, draw, pre, post, destroyed⟩ := r
  cases setup with
  | none => exact ⟨rfl, rfl, Kept.refl w⟩
  | some b => exact ⟨rfl, rfl, kept_happen _ w⟩

/-- Destroying a recorder frees all of its buffers, the first time. -/
theorem destroy_of_alive (r : Recorder) (w : Rehearsal) (hAlive : r.destroyed = false) :
    (destroy (r, w)).1 = r.emptied ∧ (destroy (r, w)).2.history = r.released w.history ∧
      Kept w (destroy (r, w)).2 := by
  obtain ⟨hSetup, hSetupHistory, hSetupKept⟩ := history_dropSetup { r with destroyed := true } w
  obtain ⟨hDraw, hDrawHistory, hDrawKept⟩ :=
    history_dropDraw (dropSetup ({ r with destroyed := true }, w)).1
      (dropSetup ({ r with destroyed := true }, w)).2
  -- the setup buffer goes first, then the draw buffers, then those around the presentation
  rw [destroy, if_neg (by rw [hAlive]; exact Bool.false_ne_true)]
  refine ⟨?_, ?_, (hSetupKept.trans hDrawKept).trans (kept_happen _ _)⟩
  · show (dropDraw _).1 = _
    rw [hDraw, hSetup]
    rfl
  · let s := dropDraw (dropSetup ({ r with destroyed := true }, w))
    show DeviceEvent.freed [s.1.prePresent, s.1.postPresent] :: s.2.history = _
    rw [show s.1 = _ from hDraw, show s.2.history = _ from hDrawHistory, hSetupHistory, hSetup]
    rfl

/-- The second time, nothing happens. -/
theorem destroy_of_destroyed (s : Recorder × Rehearsal) (hDestroyed : s.1.destroyed = true) :
    destroy s = s := by
  rw [destroy, if_pos hDestroyed]

/-- The ways in which creating a recorder ends. -/
inductive RecorderOutcome (w : Rehearsal) : Except RenderError Recorder → Rehearsal → Prop
  | noSetup {e : RenderError} {w' : Rehearsal} (hNew : NewOutcome w (.error e) w') :
    RecorderOutcome w (.error e) w'
  | notAllocated {e : RenderError} {b : CommandBuffer} {w₁ w' : Rehearsal}
    (hNew : NewOutcome w (.ok b) w₁)
    (hHistory : w'.history = .freed [b] :: .refused .allocateBuffers :: w₁.history)
    (hKept : Kept w₁ w') : RecorderOutcome w (.error e) w'
  | miscounted {e : RenderError} {b : CommandBuffer} {others : List CommandBuffer}
    {w₁ w₂ w' : Rehearsal} (hNew : NewOutcome w (.ok b) w₁) (hAllocated : Allocated w₁ others w₂)
    (hHistory : w'.history = .freed [b] :: .freed others :: w₂.history) (hKept : Kept w₂ w') :
    RecorderOutcome w (.error e) w'
  | created {b pre post : CommandBuffer} {w₁ w' : Rehearsal} (hNew : NewOutcome w (.ok b) w₁)
    (hAllocated : Allocated w₁ [pre, post] w') :
    RecorderOutcome w (.ok { setup := some b, prePresent := pre, postPresent := post }) w'

/-- Creating a recorder ends in one of its ways. -/
theorem ensures_create (w : Rehearsal) :
    (create : Op Rehearsal Recorder).Ensures w
      (fun r w' => RecorderOutcome w (.ok r) w') (fun e w' => RecorderOutcome w (.error e) w') := by
  rw [create, Op.ensures_bind]
  refine (ensures_beginNew w).mono ?_ (fun e w' hNew => .noSetup hNew)
  intro b w₁ hNew
  simp only [allocatePresent, FrameDevice.freeOnFailure, Op.ensures_bind, Op.ensures_undoing,
    Op.ensures_pure]
  refine (ensures_allocate 2 w₁).mono ?_ ?_
  · intro bs w₂ hAllocated
    -- two buffers are matched; any other number is given back
    split
    · rw [Op.ensures_pure]
      exact .created hNew hAllocated
    · simp only [Op.ensures_bind, Op.ensures_change, Op.failBackend, Op.ensures_failWith]
      exact .miscounted hNew hAllocated rfl ⟨rfl, rfl, rfl⟩
  · rintro e w' ⟨hHistory, hKept⟩
    exact .notAllocated hNew (congrArg _ hHistory) (hKept.trans (kept_happen _ w'))

end Recorder

end RenderLoop
