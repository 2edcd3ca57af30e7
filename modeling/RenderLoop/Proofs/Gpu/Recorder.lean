import RenderLoop.Proofs.Gpu.Buffers

/-!
# RenderLoop — the recorder on the device

What the operations of a recorder do to the device. The setup buffer is none of the
buffers that frames are made of (`Recorder.Apart`), so recording frames leaves its
commands alone; flushing it needs it to be submittable (`ensures_flushSetup_scene`).
-/

namespace RenderLoop

open GpuHistory Op

-- ---------------------------------------------------------------------------
-- Setup buffers
-- ---------------------------------------------------------------------------

namespace Recorder

/-- The buffers that frames are made of. -/
def frames (r : Recorder) : List CommandBuffer := r.prePresent :: r.postPresent :: r.draw

/-- Whether a buffer is the setup buffer. -/
def IsSetup (r : Recorder) (x : Handle) : Prop := ∃ b ∈ r.setup, b.handle = x

/-- The buffers of a recorder were made before a mark, and the setup buffer is not one of frames. -/
structure Apart (r : Recorder) (n : Handle) : Prop where
  setup : ∀ x, r.IsSetup x → x < n
  frames : ∀ b ∈ r.frames, b.handle < n
  apart : ∀ b ∈ r.frames, ¬ r.IsSetup b.handle

variable {r : Recorder} {n n' : Handle}

/-- What was made before a mark was made before a later one. -/
theorem Apart.mono (h : r.Apart n) (hLe : n ≤ n') : r.Apart n' where
  setup x hx := Nat.lt_of_lt_of_le (h.setup x hx) hLe
  frames b hb := Nat.lt_of_lt_of_le (h.frames b hb) hLe
  apart := h.apart

/-- The setup buffer of a recorder is the one that it has. -/
theorem isSetup_some {b : CommandBuffer} {x : Handle} :
    IsSetup { r with setup := some b } x ↔ b.handle = x := by
  simp only [IsSetup, Option.mem_some_iff, exists_eq_left']

/-- A recorder without a setup buffer has none. -/
theorem not_isSetup_none {x : Handle} : ¬ IsSetup { r with setup := none } x := by
  rintro ⟨b, hb, -⟩
  cases hb

/-- A new setup buffer. -/
theorem Apart.withSetup (h : r.Apart n) {b : CommandBuffer} (hNew : n ≤ b.handle)
    (hb : b.handle < n') : Apart { r with setup := some b } n' := by
  refine ⟨?_, fun b' hb' => ?_, fun b' hb' hSetup => ?_⟩
  · intro x hx
    rw [← isSetup_some.mp hx]
    exact hb
  · exact Nat.lt_trans (Nat.lt_of_lt_of_le (h.frames b' hb') hNew) hb
  · rw [isSetup_some] at hSetup
    exact Nat.not_lt.mpr hNew (hSetup ▸ h.frames b' hb')

/-- Without a setup buffer there is nothing to keep apart. -/
theorem Apart.withoutSetup (h : r.Apart n) : Apart { r with setup := none } n where
  setup _ hx := absurd hx not_isSetup_none
  frames := h.frames
  apart _ _ := not_isSetup_none

/-- Other draw buffers: none, or new ones. -/
theorem Apart.withDraw (h : r.Apart n) (hLe : n ≤ n') {bs : List CommandBuffer}
    (hNew : ∀ b ∈ bs, n ≤ b.handle ∧ b.handle < n') : Apart { r with draw := bs } n' := by
  -- a buffer of frames is a new draw buffer, or was one of frames before
  have hFrames : ∀ b ∈ Recorder.frames { r with draw := bs },
      (n ≤ b.handle ∧ b.handle < n') ∨ b ∈ r.frames := by
    intro b hb
    rcases List.mem_cons.mp hb with rfl | hb
    · exact .inr List.mem_cons_self
    · rcases List.mem_cons.mp hb with rfl | hb
      · exact .inr (List.mem_cons_of_mem _ List.mem_cons_self)
      · exact .inl (hNew b hb)
  refine ⟨fun x hx => Nat.lt_of_lt_of_le (h.setup x hx) hLe, ?_, ?_⟩
  · intro b hb
    rcases hFrames b hb with hMade | hOld
    · exact hMade.2
    · exact Nat.lt_of_lt_of_le (h.frames b hOld) hLe
  · intro b hb hSetup
    rcases hFrames b hb with hMade | hOld
    · exact Nat.not_lt.mpr hMade.1 (h.setup _ hSetup)
    · exact h.apart b hOld hSetup

/-- Beginning a new buffer, in any world in which allocating and beginning are understood. -/
theorem ensures_beginNew_of {σ : Type} [FrameDevice σ] {s : σ}
    {allocated : List CommandBuffer → σ → Prop} {ok : CommandBuffer → σ → Prop}
    {fail : RenderError → σ → Prop} (hAllocate : (FrameDevice.allocate 1).Ensures s allocated fail)
    (hNone : ∀ t, ¬ allocated [] t)
    (hBegin : ∀ b bs t, allocated (b :: bs) t → (FrameDevice.beginBuffer b).Ensures t
      (fun _ u => ok b u) (fun e u => fail e (FrameDevice.free [b] u))) :
    (beginNew : Op σ CommandBuffer).Ensures s ok fail := by
  rw [beginNew, ensures_bind, allocateOne, ensures_bind]
  refine hAllocate.mono ?_ (fun _ _ h => h)
  intro bs t hAllocated
  cases bs with
  | nil => exact absurd hAllocated (hNone t)
  | cons b bs =>
    simp only [ensures_pure, ensures_bind, FrameDevice.freeOnFailure, ensures_undoing]
    exact hBegin b bs t hAllocated

/-- A buffer that was begun after a mark and has no commands. -/
structure New (n : Handle) (b : CommandBuffer) (g : Gpu) : Prop where
  ge : n ≤ b.handle
  lt : b.handle < g.nextHandle
  empty : commands b.handle g.history = []

/-- A new buffer stands above every mark so far and has no commands. -/
theorem ensures_beginNew_scene (w : Scene) :
    (beginNew : Op Scene CommandBuffer).Ensures w
      (fun b w' => Scene.Serves True (· < w.gpu.nextHandle) w w' ∧
        New w.gpu.nextHandle b (Scene.gpu w'))
      (fun _ w' => Scene.Serves True (· < w.gpu.nextHandle) w w' ∧ w.gpu.faults ≠ []) := by
  refine ensures_beginNew_of (Scene.ensures_allocate _ 1 w) ?_ ?_
  · rintro w' ⟨-, hCount, -⟩
    cases hCount
  · rintro b bs w₁ ⟨hServes, -, hNew⟩
    obtain ⟨hGe, hLt⟩ := hNew b List.mem_cons_self
    refine (Scene.ensures_beginBuffer (· < w.gpu.nextHandle) b (Nat.not_lt.mpr hGe) w₁).mono ?_ ?_
    · rintro - w₂ ⟨hServes', hEmpty⟩
      exact ⟨hServes.then hServes', hGe, Nat.lt_of_lt_of_le hLt hServes'.risks.spares.nextHandle,
        hEmpty⟩
    · rintro e w₂ ⟨hServes', hFaults⟩
      exact ⟨(hServes.then hServes').then (Scene.serves_free _ [b] w₂), hServes.faults ▸ hFaults⟩

/-- The setup buffer that is there, or a new one. -/
theorem ensures_beginSetup_scene (r : Recorder) (w : Scene) (hApart : r.Apart w.gpu.nextHandle) :
    (beginSetup : Op (Recorder × Scene) CommandBuffer).Ensures (r, w)
      (fun b s => s.1 = { r with setup := some b } ∧ Scene.Serves True r.IsSetup w s.2 ∧
        s.1.Apart s.2.gpu.nextHandle ∧
        (r.setup = some b ∨ r.setup = none ∧ commands b.handle s.2.gpu.history = []))
      (fun _ s => s.1 = r ∧ Scene.Serves True r.IsSetup w s.2 ∧ w.gpu.faults ≠ []) := by
  rw [beginSetup, ensures_bind, ensures_get]
  dsimp only
  cases hSetup : r.setup with
  | some b =>
    rw [ensures_pure]
    -- a setup buffer that is there is taken as it is
    have hSame : r = { r with setup := some b } := by rw [← hSetup]
    exact ⟨hSame, .refl w, hApart, .inl rfl⟩
  | none =>
    simp only [ensures_bind, ensures_onSecond, ensures_change, ensures_pure]
    refine (ensures_beginNew_scene w).mono ?_ ?_
    · rintro b w' ⟨hServes, hNew⟩
      exact ⟨trivial, hServes.mono hApart.setup, hApart.withSetup hNew.ge hNew.lt,
        .inr ⟨trivial, hNew.empty⟩⟩
    · rintro e w' ⟨hServes, hFaults⟩
      exact ⟨trivial, hServes.mono hApart.setup, hFaults⟩

/-- Running a buffer needs it to be submittable. -/
theorem ensures_runToEnd_scene (kept : Handle → Prop) (b : CommandBuffer) (w : Scene) :
    (runToEnd b : Op Scene Unit).Ensures w
      (fun _ w' => Scene.Serves (Submittable w.gpu.history b.handle) kept w w')
      (fun _ w' => Scene.Serves (Submittable w.gpu.history b.handle) kept w w') := by
  rw [runToEnd, ensures_bind]
  refine (Scene.ensures_endBuffer (fun _ => True) b w).mono ?_ ?_
  · intro _ w₁ hEnded
    -- ending it changes nothing in its commands
    have hSubmittable : Submittable w₁.gpu.history b.handle ↔
        Submittable w.gpu.history b.handle :=
      hEnded.risks.spares.history.submittable_iff (hEnded.risks.commands _ trivial)
    have hEnded' : Scene.Serves True kept w w₁ := hEnded.mono fun _ _ => trivial
    rw [ensures_bind]
    refine (Scene.ensures_submit kept b [] [] w₁).mono ?_ ?_
    · intro _ w₂ hSubmitted
      have hBoth := (hEnded'.then hSubmitted).congr hSubmittable
      refine (Scene.ensures_waitQueue kept w₂).mono ?_ ?_
      · intro _ w₃ hWaited
        exact (hBoth.trans hWaited).congr (iff_of_eq (and_true _))
      · rintro e w₃ ⟨hWaited, -⟩
        exact (hBoth.trans hWaited).congr (iff_of_eq (and_true _))
    · rintro e w₂ ⟨hSubmitted, -⟩
      exact (hEnded'.then hSubmitted).congr hSubmittable
  · rintro e w₁ ⟨hEnded, hFaults⟩
    exact (hEnded.mono fun _ _ => trivial).cut hFaults fun _ => trivial

/-- Whatever comes of it, the setup buffer is gone, and it should have been submittable. -/
theorem ensures_flushSetup_scene (kept : Handle → Prop) (r : Recorder) (w : Scene) :
    (flushSetup : Op (Recorder × Scene) Unit).Ensures (r, w)
      (fun _ s => s.1 = { r with setup := none } ∧
        Scene.Serves (∀ b ∈ r.setup, Submittable w.gpu.history b.handle) kept w s.2)
      (fun _ s => s.1 = { r with setup := none } ∧
        Scene.Serves (∀ b ∈ r.setup, Submittable w.gpu.history b.handle) kept w s.2) := by
  rw [flushSetup, ensures_bind, ensures_get]
  dsimp only
  cases hSetup : r.setup with
  | none =>
    rw [ensures_pure]
    have hSame : r = { r with setup := none } := by rw [← hSetup]
    exact ⟨hSame, (Scene.Serves.refl w).congr ⟨fun _ => nofun, fun _ => trivial⟩⟩
  | some b =>
    -- it is freed and an entry is logged, however the run ended
    have hRun : ∀ {w' : Scene}, Scene.Serves (Submittable w.gpu.history b.handle) kept w w' →
        ∀ e, Scene.Serves (∀ b' ∈ some b, Submittable w.gpu.history b'.handle) kept w
          (Logging.push e (FrameDevice.free [b] w')) := by
      intro w' hServes e
      refine ((hServes.trans (Scene.serves_free _ [b] w')).congr ?_).push e
      simp only [and_true, Option.mem_some_iff, forall_eq']
    simp only [ensures_bind, ensures_change, ensures_attempt, ensures_onSecond, ensures_log,
      ensures_ofExcept]
    refine (ensures_runToEnd_scene kept b w).mono ?_ ?_
    · intro _ w' hServes
      exact ⟨rfl, hRun hServes _⟩
    · intro _ w' hServes
      exact ⟨rfl, hRun hServes _⟩

-- ---------------------------------------------------------------------------
-- Draw buffers
-- ---------------------------------------------------------------------------

/-- Draw buffers were used or renewed. -/
structure Redrawn (r : Recorder) (w : Scene) (s : Recorder × Scene) : Prop where
  setup : s.1.setup = r.setup
  apart : s.1.Apart s.2.gpu.nextHandle
  serves : Scene.Serves True r.IsSetup w s.2

/-- Draw buffers are among those of frames. -/
theorem mem_frames_of_draw {b : CommandBuffer} (hb : b ∈ r.draw) : b ∈ r.frames :=
  List.mem_cons_of_mem _ (List.mem_cons_of_mem _ hb)

/-- Draw buffers were used, and something else was done to the device. -/
theorem Redrawn.serves_then {s : Recorder × Scene} (h : Redrawn r w s) {w'' : Scene}
    (hServes : Scene.Serves True r.IsSetup s.2 w'') : Redrawn r w (s.1, w'') where
  setup := h.setup
  apart := h.apart.mono hServes.risks.spares.nextHandle
  serves := h.serves.then hServes

/-- Looking up a draw buffer changes nothing. -/
theorem ensures_drawAt (index : UInt32) (s : Recorder × Scene) :
    (drawAt index : Op (Recorder × Scene) CommandBuffer).Ensures s
      (fun b t => b ∈ s.1.draw ∧ t = s) (fun _ _ => False) := by
  rw [drawAt, ensures_bind, ensures_get, ensures_ofOption]
  intro b hb
  exact ⟨List.mem_of_getElem? hb, rfl⟩

/-- The draw buffers are freed, which is allowed in any case. -/
theorem serves_dropDraw (r : Recorder) (w : Scene) (kept : Handle → Prop) :
    (dropDraw (r, w)).1 = { r with draw := [] } ∧ Scene.Serves True kept w (dropDraw (r, w)).2 := by
  rw [dropDraw]
  split
  · rename_i hEmpty
    rw [List.isEmpty_iff] at hEmpty
    refine ⟨?_, .refl w⟩
    show r = { r with draw := [] }
    rw [← hEmpty]
  · exact ⟨rfl, Scene.serves_free kept _ w⟩

/-- The draw buffers of an allocation are new, and only a fault keeps them back. -/
theorem ensures_allocateDraw_scene (images : UInt32) (w : Scene) (kept : Handle → Prop) :
    (allocateDraw images : Op Scene (List CommandBuffer)).Ensures w
      (fun bs w' => Scene.Serves True kept w w' ∧
        ∀ b ∈ bs, w.gpu.nextHandle ≤ b.handle ∧ b.handle < (Scene.gpu w').nextHandle)
      (fun _ w' => Scene.Serves True kept w w' ∧ w.gpu.faults ≠ []) := by
  rw [allocateDraw, ensures_bind]
  refine (Scene.ensures_allocate kept images w).mono ?_ (fun _ _ h => h)
  rintro bs w' ⟨hServes, hCount, hNew⟩
  rw [if_pos hCount, ensures_pure]
  exact ⟨hServes, hNew⟩

/-- The draw buffers are others now, or there are none because of a fault. -/
theorem ensures_renewDraw (images : UInt32) (r : Recorder) (w : Scene)
    (hApart : r.Apart w.gpu.nextHandle) :
    (renewDraw images : Op (Recorder × Scene) Unit).Ensures (r, w) (fun _ s => Redrawn r w s)
      (fun _ s => Redrawn r w s ∧ w.gpu.faults ≠ []) := by
  obtain ⟨hDropped, hServes⟩ := serves_dropDraw r w r.IsSetup
  simp only [renewDraw, ensures_bind, ensures_change, ensures_onSecond]
  generalize dropDraw (r, w) = s at hDropped hServes
  obtain ⟨r₁, w₁⟩ := s
  dsimp only at hDropped hServes
  subst hDropped
  have hNext : w.gpu.nextHandle ≤ w₁.gpu.nextHandle := hServes.risks.spares.nextHandle
  refine (ensures_allocateDraw_scene images w₁ r.IsSetup).mono ?_ ?_
  · rintro bs w₂ ⟨hAllocated, hNew⟩
    refine ⟨rfl, (hApart.mono hNext).withDraw hAllocated.risks.spares.nextHandle hNew, ?_⟩
    exact hServes.then hAllocated
  · rintro e w₂ ⟨hAllocated, hFaults⟩
    refine ⟨⟨rfl, ?_, hServes.then hAllocated⟩, hServes.faults ▸ hFaults⟩
    exact (hApart.mono hNext).withDraw hAllocated.risks.spares.nextHandle (List.forall_mem_nil _)

/-- A draw buffer is one of frames. It can be had for every image, unless there are faults. -/
theorem ensures_drawBuffer_scene (index images : UInt32) (r : Recorder) (w : Scene)
    (hApart : r.Apart w.gpu.nextHandle) :
    (drawBuffer index images : Op (Recorder × Scene) CommandBuffer).Ensures (r, w)
      (fun b s => Redrawn r w s ∧ b ∈ s.1.draw ∧ index < images)
      (fun _ s => Redrawn r w s ∧ (index < images → w.gpu.faults ≠ [])) := by
  rw [drawBuffer]
  refine ensures_ite (fun hIndex => ?_) fun hIndex => ?_
  · rw [failBackend, ensures_failWith]
    exact ⟨⟨rfl, hApart, (Scene.Serves.refl w).push _⟩, fun hLess => absurd hIndex (UInt32.not_le.mpr hLess)⟩
  · -- the image is one of the chain
    have hLess : index < images := UInt32.not_le.mp hIndex
    rw [ensures_bind, ensures_get]
    refine ensures_ite (fun _ => ?_) fun _ => ?_
    · rw [ensures_bind]
      refine (ensures_drawAt index (r, w)).mono ?_ (fun _ _ h => h.elim)
      rintro b _ ⟨hb, rfl⟩
      rw [ensures_bind, ensures_onSecond]
      have hOther := hApart.apart b (mem_frames_of_draw hb)
      refine (Scene.ensures_reset r.IsSetup b hOther w).mono ?_ ?_
      · intro _ w' hReset
        rw [ensures_pure]
        exact ⟨⟨rfl, hApart.mono hReset.risks.spares.nextHandle, hReset⟩, hb, hLess⟩
      · rintro e w' ⟨hReset, hFaults⟩
        exact ⟨⟨rfl, hApart.mono hReset.risks.spares.nextHandle, hReset⟩, fun _ => hFaults⟩
    · rw [ensures_bind]
      refine (ensures_renewDraw images r w hApart).mono ?_ ?_
      · intro _ s hRedrawn
        refine (ensures_drawAt index s).mono ?_ (fun _ _ h => h.elim)
        rintro b _ ⟨hb, rfl⟩
        exact ⟨hRedrawn, hb, hLess⟩
      · rintro e s ⟨hRedrawn, hFaults⟩
        exact ⟨hRedrawn, fun _ => hFaults⟩

-- ---------------------------------------------------------------------------
-- Creation
-- ---------------------------------------------------------------------------

/-- A recorder was created: its setup buffer has no commands. -/
structure Created (r : Recorder) (w w' : GpuDevice × Host) : Prop where
  device : w'.1 = w.1
  risks : Gpu.Risks True (fun _ => False) w.2.gpu w'.2.gpu
  apart : r.Apart w'.2.gpu.nextHandle
  empty : ∀ b ∈ r.setup, commands b.handle w'.2.gpu.history = []

/-- A call that passes by leaves a new recorder as it is. -/
theorem Created.passes {w w' w'' : GpuDevice × Host} (h : r.Created w w') (hDevice : w''.1 = w'.1)
    (hPasses : w'.2.gpu.Passes w''.2.gpu) : r.Created w w'' := by
  refine ⟨hDevice.trans h.device, (h.risks.trans hPasses.risks).congr (iff_of_eq (true_and _)), ?_, ?_⟩
  · exact h.apart.mono hPasses.nextHandle
  · intro b hb
    rw [hPasses.history.commands, h.empty b hb]

/-- A new buffer has no commands, also on a device without a swapchain. -/
theorem ensures_beginNew_device (w : GpuDevice × Host) :
    (beginNew : Op (GpuDevice × Host) CommandBuffer).Ensures w
      (fun b w' => w'.1 = w.1 ∧ Gpu.Risks True (fun _ => False) w.2.gpu w'.2.gpu ∧
        b.handle < w'.2.gpu.nextHandle ∧ commands b.handle w'.2.gpu.history = [])
      (fun _ _ => True) := by
  refine ensures_beginNew_of ((GpuDevice.ensures_allocate 1 w).mono (fun _ _ h => h)
    fun _ _ _ => trivial) ?_ ?_
  · rintro w' ⟨-, -, hCount, -⟩
    cases hCount
  · rintro b bs w₁ ⟨hDevice, hPasses, -, hNew⟩
    refine GpuDevice.ensures_perform (.beginBuffer b.handle) w₁ ?_ (fun _ _ _ _ _ _ => trivial)
    intro w₂ hDevice' hGpu
    -- beginning the buffer empties it, and its handle is below the next one
    let g := w₁.2.gpu.count (GpuCall.beginBuffer b.handle).name
    obtain ⟨hRisks, hEmpty⟩ :
        Gpu.Risks True (fun _ => False) g (g.happen (.beginBuffer b.handle) .done) ∧
          commands b.handle (g.happen (.beginBuffer b.handle) .done).history = [] :=
      Gpu.risks_empty (.inl rfl) id g
    have hBegun := (hPasses.trans (Gpu.passes_count _ _)).risks.trans hRisks
    rw [← hGpu] at hBegun hEmpty
    refine ⟨hDevice'.trans hDevice, hBegun.congr (iff_of_eq (true_and _)), ?_, hEmpty⟩
    rw [hGpu]
    exact (hNew b List.mem_cons_self).2

/-- A new recorder has three buffers, one of them for the setup. -/
theorem ensures_create_device (w : GpuDevice × Host) :
    (create : Op (GpuDevice × Host) Recorder).Ensures w (fun r w' => r.Created w w')
      (fun _ _ => True) := by
  rw [create, ensures_bind]
  refine (ensures_beginNew_device w).mono ?_ (fun _ _ _ => trivial)
  rintro setup w₁ ⟨hDevice, hRisks, hSetup, hEmpty⟩
  rw [ensures_bind, FrameDevice.freeOnFailure, ensures_undoing, allocatePresent, ensures_bind]
  refine (GpuDevice.ensures_allocate 2 w₁).mono ?_ (fun _ _ _ => trivial)
  rintro bs w₂ ⟨hDevice', hPasses, hCount, hNew⟩
  match bs, hCount with
  | [pre, post], _ =>
    rw [ensures_pure, ensures_pure]
    -- the other two were allocated after the setup buffer
    have hFrames : ∀ b ∈ [pre, post], b.handle < w₂.2.gpu.nextHandle ∧ setup.handle ≠ b.handle := by
      intro b hb
      obtain ⟨hGe, hLt⟩ := hNew b hb
      exact ⟨hLt, Nat.ne_of_lt (Nat.lt_of_lt_of_le hSetup hGe)⟩
    refine ⟨hDevice'.trans hDevice, (hRisks.trans hPasses.risks).congr (iff_of_eq (true_and _)),
      ⟨?_, fun b hb => (hFrames b hb).1, ?_⟩, ?_⟩
    · rintro x ⟨b, ⟨⟩, rfl⟩
      exact Nat.lt_of_lt_of_le hSetup hPasses.nextHandle
    · rintro b hb ⟨b', ⟨⟩, hSame⟩
      exact (hFrames b hb).2 hSame
    · rintro b ⟨⟩
      rw [hPasses.history.commands, hEmpty]

end Recorder

/-- A new machine is idle, and its setup buffer has no commands. -/
theorem Synchronizer.ensures_create_device (clearColor : Color) (w : GpuDevice × Host) :
    (create clearColor : Op (GpuDevice × Host) Synchronizer).Ensures w
      (fun m w' => m.recorder.Created w w' ∧ m.state = .idle) (fun _ _ => True) := by
  -- a semaphore is of no interest to the buffers
  have hSemaphore : ∀ w : GpuDevice × Host,
      (FrameDevice.createSemaphore : Op (GpuDevice × Host) Semaphore).Ensures w
        (fun _ w' => w'.1 = w.1 ∧ w.2.gpu.Passes w'.2.gpu) (fun _ _ => True) := by
    intro w
    show (do return ⟨← GpuDevice.invoke "vkCreateSemaphore" (Gpu.create .semaphore)⟩ :
      Op (GpuDevice × Host) Semaphore).Ensures _ _ _
    rw [ensures_bind]
    refine GpuDevice.ensures_invoke _ ?_ (fun _ _ _ _ _ _ => trivial)
    intro x g hCreate
    rw [ensures_pure]
    have hKind : Creation.semaphore.kind ≠ .swapchain := nofun
    exact ⟨rfl, (Gpu.create_ok hKind hCreate).2.1⟩
  rw [create, ensures_bind]
  refine (Recorder.ensures_create_device w).mono ?_ (fun _ _ _ => trivial)
  intro r w₁ hCreated
  rw [ensures_bind, destroyOnFailure, ensures_undoing, createSemaphores, ensures_bind]
  refine (hSemaphore w₁).mono ?_ (fun _ _ _ => trivial)
  rintro first w₂ ⟨hDevice₂, hPasses₂⟩
  rw [ensures_bind, ensures_undoing]
  refine (hSemaphore w₂).mono ?_ (fun _ _ _ => trivial)
  rintro second w₃ ⟨hDevice₃, hPasses₃⟩
  rw [ensures_pure, ensures_pure]
  exact ⟨hCreated.passes (hDevice₃.trans hDevice₂) (hPasses₂.trans hPasses₃), rfl⟩

end RenderLoop
