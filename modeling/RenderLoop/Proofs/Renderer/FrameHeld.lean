import RenderLoop.Proofs.Renderer.ScreenWork
import RenderLoop.Proofs.Renderer.Upkeep

/-!
# RenderLoop — the frame a renderer holds

A renderer and its frame machine each have an idea of whether there is a frame: one
holds it or not, the other is recording or not. They are brought up to date at
different moments, but between calls they agree, whichever calls to the device fail
(`InOrder`): a frame is held exactly while the machine is recording, it is for the
image acquired last, and its buffer is the draw buffer of that image.

Runs carry along the last call that began a frame (`Run`). The frame that is held is
the one that this call began (`frame_of_run`). As long as it is held, calls that would
pull something from under it are refused; as long as there is none, so are those that
need one. A refused call changes nothing at all.
-/

namespace RenderLoop

open GpuHistory Op

/-- A buffer was begun while the history of a device went on. -/
def GpuHistory.BegunIn (b : Handle) (h h' : GpuHistory) : Prop :=
  ∃ before, h <:+ before ∧ (⟨.beginBuffer b, .done⟩ :: before) <:+ h'

/-- A longer stretch of history has what a shorter one has. -/
theorem GpuHistory.BegunIn.mono {b : Handle} {h₀ h h' h₁ : GpuHistory} (hBegun : BegunIn b h h')
    (hBefore : h₀ <:+ h) (hAfter : h' <:+ h₁) : BegunIn b h₀ h₁ := by
  obtain ⟨before, hStart, hEnd⟩ := hBegun
  exact ⟨before, hBefore.trans hStart, hEnd.trans hAfter⟩

-- ---------------------------------------------------------------------------
-- The draw buffer of an image
-- ---------------------------------------------------------------------------

/-- What is looked up under an index is what stands there. -/
theorem Recorder.ensures_drawAt_slot {σ : Type} [FrameDevice σ] (index : UInt32)
    (s : Recorder × σ) :
    (drawAt index : Op (Recorder × σ) CommandBuffer).Ensures s
      (fun b t => t = s ∧ t.1.draw[index.toNat]? = some b) (fun _ _ => True) := by
  rw [drawAt, ensures_bind, ensures_get, ensures_ofOption]
  exact fun b hb => ⟨rfl, hb⟩

/-- The draw buffer of an image is the one at its place. -/
theorem Recorder.ensures_drawBuffer_slot {σ : Type} [FrameDevice σ] (index images : UInt32)
    (s : Recorder × σ) :
    (drawBuffer index images : Op (Recorder × σ) CommandBuffer).Ensures s
      (fun b t => t.1.draw[index.toNat]? = some b) (fun _ _ => True) := by
  rw [drawBuffer]
  refine ensures_ite (fun _ => ?_) (fun _ => ?_)
  · rw [failBackend, ensures_failWith]
    trivial
  · rw [ensures_bind, ensures_get]
    refine ensures_ite (fun _ => ?_) (fun _ => ?_)
    · rw [ensures_bind]
      refine (ensures_drawAt_slot index s).mono ?_ (fun _ _ h => h)
      rintro b _ ⟨rfl, hSlot⟩
      rw [ensures_bind, ensures_onSecond]
      refine (ensures_true _ _).mono (fun _ _ _ => ?_) (fun _ _ h => h)
      rw [ensures_pure]
      exact hSlot
    · rw [ensures_bind]
      -- the draw buffers are renewed first; how does not matter here
      refine (ensures_true _ s).mono (fun _ t _ => ?_) (fun _ _ h => h)
      exact (ensures_drawAt_slot index t).mono (fun _ _ h => h.2) (fun _ _ h => h)

namespace Synchronizer

variable {m : Synchronizer} {w : Scene}

/-- A draw buffer is opened by beginning it. -/
theorem ensures_recordOpening_begun (index images : UInt32) (extent : Extent) (m : Synchronizer)
    (w : Scene) :
    (recordOpening index images extent : Op (Synchronizer × Scene) CommandBuffer).Ensures (m, w)
      (fun b s => s.1.recorder.draw[index.toNat]? = some b ∧
        BegunIn b.handle w.gpu.history s.2.gpu.history)
      (fun _ _ => True) := by
  simp only [recordOpening, onRecorder, ensures_bind, ensures_on, ensures_onSecond, ensures_change,
    ensures_pure]
  have hGrows := Recorder.beyond_drawBuffer (R := Growing (σ := Scene)) index images (m.recorder, w)
  refine ((Recorder.ensures_drawBuffer_slot index images (m.recorder, w)).and hGrows).mono ?_
    (fun _ _ _ => trivial)
  rintro b ⟨r, w₁⟩ ⟨hSlot, hGrows₁⟩
  have hBefore : w.gpu.history <:+ w₁.gpu.history := hGrows₁.history
  refine Scene.ensures_perform (.beginBuffer b.handle) w₁ ?_ (fun _ _ _ _ _ _ _ => trivial)
  intro w₂ _ _ hGpu
  refine ⟨hSlot, w₁.gpu.history, hBefore, ?_⟩
  -- the opening commands come after the buffer was begun
  have hOpened := within_recordAll (R := Growing (σ := Scene)) b
    (openingCommands index extent m.clearValues) w₂
  have hBegun : w₂.gpu.history = ⟨.beginBuffer b.handle, .done⟩ :: w₁.gpu.history := by
    rw [hGpu]
    rfl
  rw [← hBegun]
  exact hOpened.history

/-- A frame that begins is for the draw buffer of its image, which is begun. -/
theorem ensures_beginFrame_begun (extent : Extent) (m : Synchronizer) (w : Scene) :
    (beginFrame extent : Op (Synchronizer × Scene) Frame).Ensures (m, w)
      (fun f s => s.1.recorder.draw[f.imageIndex.toNat]? = some f.buffer ∧
        BegunIn f.buffer.handle w.gpu.history s.2.gpu.history)
      (fun _ _ => True) := by
  rw [beginFrame, ensures_bind]
  refine ensures_expect _ _ m w (fun _ => ?_) (fun _ _ => trivial)
  rw [ensures_bind]
  refine (beyond_acquireImage (R := Growing (σ := Scene)) (m, w)).mono ?_ (fun _ _ _ => trivial)
  rintro i ⟨m₁, w₁⟩ hGrows
  have hBefore : w.gpu.history <:+ w₁.gpu.history := hGrows.history
  rw [ensures_bind, ensures_get, ensures_bind]
  refine ensures_orLose (ensures_recordOpening_begun i _ extent m₁ w₁ |>.mono ?_ fun _ _ h => h)
    (fun _ _ _ _ _ _ => trivial)
  rintro b ⟨m₂, w₂⟩ ⟨hSlot, hBegun⟩
  simp only [enter, ensures_bind, ensures_change, ensures_pure]
  exact ⟨hSlot, hBegun.mono hBefore (List.suffix_refl _)⟩

end Synchronizer

namespace Renderer

variable {s t u : Renderer × Host} {f : Frame}

-- ---------------------------------------------------------------------------
-- Order
-- ---------------------------------------------------------------------------

/-- A frame is held, and its buffer is the draw buffer of its image. -/
structure Holds (s : Renderer × Host) (f : Frame) : Prop extends Recording s f where
  slot : s.1.machine.recorder.draw[f.imageIndex.toNat]? = some f.buffer

/-- A renderer and its frame machine agree. -/
structure InOrder (s : Renderer × Host) : Prop where
  tidy : Tidy s
  frames : Resting s ∨ ∃ f, Holds s f

/-- A frame that is held was held before. -/
def KeepsFrame (s t : Renderer × Host) : Prop := t.1.frame = s.1.frame ∨ t.1.frame = none

/-- A frame was begun, with its buffer. -/
def BeginsFrame (s t : Renderer × Host) : Prop :=
  ∃ f, t.1.frame = some f ∧ BegunIn f.buffer.handle s.2.gpu.history t.2.gpu.history

/-- Without a frame the machine rests. -/
theorem InOrder.resting (h : InOrder s) (hFrame : s.1.frame = none) : Resting s := by
  rcases h.frames with hResting | ⟨f, hHolds⟩
  · exact hResting
  · rw [hHolds.frame] at hFrame
    cases hFrame

/-- With a frame the machine is recording that frame. -/
theorem InOrder.holds (h : InOrder s) (hFrame : s.1.frame = some f) : Holds s f := by
  rcases h.frames with hResting | ⟨f', hHolds⟩
  · rw [hResting.frame] at hFrame
    cases hFrame
  · obtain rfl : f' = f := Option.some.inj (hHolds.frame.symm.trans hFrame)
    exact hHolds

/-- What happens beside frames keeps the order. -/
theorem InOrder.of_beside {H : GpuHistory → GpuHistory → Prop} (h : InOrder s)
    (hBeside : Beside H s t) (hTidy : Tidy t) : InOrder t := by
  refine ⟨hTidy, ?_⟩
  rcases h.frames with hResting | ⟨f, hHolds⟩
  · refine .inl ⟨hBeside.frame.trans hResting.frame, ?_⟩
    rw [hBeside.state]
    exact hResting.state
  · refine .inr ⟨f, ⟨hBeside.frame.trans hHolds.frame, hBeside.state.trans hHolds.state, ?_, ?_⟩, ?_⟩
    · rw [hBeside.swapchain]
      exact hHolds.image
    · rw [hBeside.recorder]
      exact hHolds.draw
    · rw [hBeside.recorder]
      exact hHolds.slot

/-- What happens aside keeps the order. -/
theorem InOrder.of_aside (h : InOrder s) (hAside : Aside s t) : InOrder t :=
  h.of_beside hAside (h.tidy.of_serves (hAside.serves h.tidy))

-- ---------------------------------------------------------------------------
-- Rebuilds
-- ---------------------------------------------------------------------------

/-- What touches nothing leaves a renderer at rest. -/
theorem Untouched.resting (h : Untouched s t) (hResting : Resting s) : Resting t where
  frame := h.frame.trans hResting.frame
  state := by rw [h.state]; exact hResting.state

/-- A rebuild that was completed leaves a renderer at rest. -/
theorem Completed.calm (h : Completed s t) (hResting : Resting s) : Tidy t ∧ Resting t := by
  obtain ⟨hPrepared, hRemade, -, hFinished⟩ := h
  have hRest := hPrepared.resting hResting
  refine ⟨hRemade.tidy.of_serves hFinished.toServes, ?_, ?_⟩
  · rw [hFinished.frame, hRemade.frame]
    exact hRest.frame
  · rw [hFinished.state, hRemade.state]
    exact hRest.state

/-- A rebuild that broke off leaves a renderer at rest. -/
theorem BrokenOff.calm (h : BrokenOff s t) (hResting : Resting s) : Tidy t ∧ Resting t := by
  obtain ⟨hPrepared, hTorn⟩ := h
  have hRest := hPrepared.resting hResting
  refine ⟨hTorn.tidy, hTorn.frame.trans hRest.frame, ?_⟩
  rw [hTorn.machine]
  exact hRest.state

-- ---------------------------------------------------------------------------
-- Calls
-- ---------------------------------------------------------------------------

/-- A call that begins no frame. -/
def Keeps (s t : Renderer × Host) : Prop := InOrder t ∧ KeepsFrame s t

/-- However a rebuild ends, there is no frame after it if there was none before. -/
theorem ensures_rebuild_keeps (hTidy : Tidy u) (hResting : Resting u) :
    rebuild.Ensures u (fun _ t => Keeps s t) (fun _ t => Keeps s t) := by
  have hCalm : ∀ {t}, Tidy t ∧ Resting t → Keeps s t :=
    fun h => ⟨⟨h.1, .inl h.2⟩, .inr h.2.frame⟩
  have hUntouched : ∀ {t}, Untouched u t → Tidy t ∧ Resting t :=
    fun h => ⟨hTidy.of_serves h.toServes, h.resting hResting⟩
  refine (ensures_rebuild hTidy).mono (fun _ t h => hCalm ?_) (fun _ t h => hCalm ?_)
  · rcases h with ⟨h, -⟩ | h
    · -- deferred: there is no area to rebuild for
      exact hUntouched h
    · exact h.calm hResting
  · rcases h with h | ⟨h | h, -⟩
    · exact h.calm hResting
    · exact hUntouched h
    · exact h.calm hResting

/-- What happens aside begins no frame. -/
theorem keeps_of_aside (h : InOrder s) (hAside : Aside s t) : Keeps s t :=
  ⟨h.of_aside hAside, .inl hAside.frame⟩

/-- An operation that stays aside begins no frame. -/
theorem ensures_keeps_of_aside {op : Action Unit} (hOp : op.Within Aside) (h : InOrder s) :
    op.Ensures s (fun _ t => Keeps s t) (fun _ t => Keeps s t) := by
  have hKeeps : ∀ t, Aside s t → Keeps s t := fun _ hAside => keeps_of_aside h hAside
  exact (hOp s).mono (fun _ => hKeeps) fun _ => hKeeps

/-- Drawing goes on with the same frame. -/
theorem ensures_draw_keeps (mesh : Mesh) (mode : PolyRenderMode) (h : InOrder s) :
    (draw mesh mode).Ensures s (fun _ t => Keeps s t) (fun _ t => Keeps s t) := by
  refine ensures_draw_of_drawn mesh mode (fun f t hFrame hDrawn => ?_) ⟨h, .inl rfl⟩
  have hServes := hDrawn.serves h.tidy (h.holds hFrame).draw
  exact ⟨h.of_beside hDrawn (h.tidy.of_serves hServes), .inl hDrawn.frame⟩

/-- A resize rebuilds only while there is no frame. -/
theorem ensures_resize_keeps (window : Extent) (h : InOrder s) :
    (resize window).Ensures s (fun _ t => Keeps s t) (fun _ t => Keeps s t) := by
  refine ensures_resize_of ⟨h, .inl rfl⟩ fun hFrame hAside => ?_
  have hBefore := h.of_aside hAside
  exact ensures_rebuild_keeps hBefore.tidy (hBefore.resting hFrame)

/-- The machine begins a frame, or is as idle or lost as before. -/
theorem ensures_beginMachine_order (extent : Extent) (h : InOrder s) :
    (onMachine (Synchronizer.beginFrame extent)).Ensures s
      (fun f t => InOrder ({ t.1 with frame := some f }, t.2) ∧
        BegunIn f.buffer.handle s.2.gpu.history t.2.gpu.history)
      (fun e t => InOrder t ∧ t.1.frame = s.1.frame ∧ (e = .swapchainOutOfDate → Resting t)) := by
  have hMachine := Synchronizer.ensures_beginFrame_scene extent s.1.machine (scene s) h.tidy.apart
  have hBegins := Synchronizer.ensures_beginFrame_begun extent s.1.machine (scene s)
  rw [onMachine, ensures_on]
  refine (hMachine.and hBegins).mono ?_ ?_
  · rintro f m ⟨⟨hIdle, hBegun⟩, hSlot, hNew⟩
    have hLost : s.1.machine.state = .lost → m.1.state = .lost := by
      rw [hIdle]
      rintro ⟨⟩
    have hTidy := h.tidy.of_serves (serves_of_kept hBegun.toKept hLost)
    have hOrder : Tidy ({ (withMachinery m s).1 with frame := some f }, (withMachinery m s).2) :=
      ⟨hTidy.orderly, hTidy.apart, hTidy.chain, hTidy.targets⟩
    exact ⟨⟨hOrder, .inr ⟨f, ⟨rfl, hBegun.state, hBegun.image, hBegun.draw⟩, hSlot⟩⟩, hNew⟩
  · rintro e m ⟨⟨-, rfl, hCause⟩ | ⟨hIdle, hNotBegun⟩, -⟩
    · -- the machine was not idle, and nothing happened
      exact ⟨h, rfl, fun hOutOfDate => absurd hOutOfDate hCause⟩
    · have hLost : s.1.machine.state = .lost → m.1.state = .lost := by
        rw [hIdle]
        rintro ⟨⟩
      have hResting : Resting s := by
        rcases h.frames with hResting | ⟨f, hHolds⟩
        · exact hResting
        · rw [hHolds.state] at hIdle
          cases hIdle
      have hResting' : Resting (withMachinery m s) := ⟨hResting.frame, hNotBegun.state⟩
      have hTidy := h.tidy.of_serves (serves_of_kept hNotBegun.toKept hLost)
      exact ⟨⟨hTidy, .inl hResting'⟩, rfl, fun _ => hResting'⟩

/-- A call that begins a frame holds it; one that fails holds none it did not hold before. -/
theorem ensures_beginFrame_order (h : InOrder s) :
    beginFrame.Ensures s (fun _ t => InOrder t ∧ BeginsFrame s t) (fun _ t => Keeps s t) := by
  have hReset : InOrder ({ s.1 with memory := s.1.memory.reset }, s.2) :=
    h.of_aside (aside_of_passes (.refl s.2.gpu))
  refine ensures_beginFrame_of ((ensures_beginMachine_order _ hReset).mono ?_ ?_)
  · rintro f t ⟨hOrder, hNew⟩
    exact ⟨hOrder, f, rfl, hNew⟩
  · rintro e t ⟨hOrder, hFrame, hResting⟩
    exact ⟨fun _ => ⟨hOrder, .inl hFrame⟩, fun hOutOfDate _ =>
      ensures_rebuild_keeps hOrder.tidy (hResting hOutOfDate)⟩

/-- Ending a frame gives it up, however it goes; only after that there may be a rebuild. -/
theorem ensures_endFrame_keeps (h : InOrder s) :
    endFrame.Ensures s (fun _ t => Keeps s t) (fun _ t => Keeps s t) := by
  have hEnded : ∀ {f t}, Serves (Synchronizer.EndsWell f (scene s)) s t ∧ Resting t → Keeps s t := by
    rintro f t ⟨hServes, hResting⟩
    exact ⟨⟨h.tidy.of_serves hServes, .inl hResting⟩, .inr hResting.frame⟩
  refine ensures_endFrame_of (fun _ => ⟨h, .inl rfl⟩) fun f hFrame =>
    (ensures_endMachine_serves h.tidy (h.holds hFrame).toRecording).mono
      (fun _ _ hServes => hEnded hServes) fun e t hServes => ?_
  refine ⟨fun _ => hEnded hServes, fun _ _ => ?_⟩
  have hTidy := h.tidy.of_serves hServes.1
  have hAside : Aside t (Logging.push outOfDateEntry t) := Steady.push _ _
  exact ensures_rebuild_keeps (hTidy.of_serves (hAside.serves hTidy)) (hServes.2.of_aside hAside)

/-- Every call keeps the order. One that begins a frame holds it afterwards, and no other call holds
one that was not held before. -/
theorem ensures_serve_order (c : Request) (h : InOrder s) :
    (serve c).Ensures s
      (fun _ t => InOrder t ∧ (c = .beginFrame ∧ BeginsFrame s t ∨ c ≠ .beginFrame ∧ KeepsFrame s t))
      (fun _ t => Keeps s t) := by
  have hOther : c ≠ .beginFrame → (serve c).Ensures s (fun _ t => Keeps s t) (fun _ t => Keeps s t) →
      (serve c).Ensures s
        (fun _ t => InOrder t ∧
          (c = .beginFrame ∧ BeginsFrame s t ∨ c ≠ .beginFrame ∧ KeepsFrame s t))
        (fun _ t => Keeps s t) :=
    fun hNot hKeeps => hKeeps.mono (fun _ _ h => ⟨h.1, .inr ⟨hNot, h.2⟩⟩) fun _ _ h => h
  -- most calls stay aside of frames; the others are taken one by one
  by_cases hAside : c.isAside = true
  · refine hOther ?_ (ensures_keeps_of_aside (aside_serve hAside) h)
    rintro rfl
    cases hAside
  cases c with
  | beginFrame =>
    exact (ensures_beginFrame_order h).mono (fun _ _ h => ⟨h.1, .inl ⟨rfl, h.2⟩⟩) fun _ _ h => h
  | draw mesh mode => exact hOther nofun (ensures_draw_keeps mesh mode h)
  | endFrame => exact hOther nofun (ensures_endFrame_keeps h)
  | resize window => exact hOther nofun (ensures_resize_keeps window h)
  | follow script =>
    refine hOther nofun ?_
    rw [serve, ensures_change]
    refine ⟨⟨h.tidy.follow script, ?_⟩, .inl rfl⟩
    rcases h.frames with hResting | ⟨f, hHolds⟩
    · exact .inl ⟨hResting.frame, hResting.state⟩
    · exact .inr ⟨f, ⟨hHolds.frame, hHolds.state, hHolds.image, hHolds.draw⟩, hHolds.slot⟩
  | _ => exact absurd rfl hAside

-- ---------------------------------------------------------------------------
-- New renderers
-- ---------------------------------------------------------------------------

/-- The frame that is held stays the same. -/
def SameFrame (s t : Renderer × Host) : Prop := t.1.frame = s.1.frame

instance : Steady SameFrame where
  refl _ := rfl
  trans h h' := Eq.trans h' h
  push _ _ := rfl

/-- Operations on other parts leave the frame alone. -/
theorem sameFrame_on {τ α : Type} {op : Op τ α} {part : Renderer × Host → τ}
    {withPart : τ → Renderer × Host → Renderer × Host}
    (h : ∀ t s, (withPart t s).1.frame = s.1.frame) : (op.on part withPart).Within SameFrame := by
  intro s
  rw [ensures_on]
  exact (ensures_true op _).mono (fun _ t _ => h t s) fun _ t _ => h t s

section Parts

variable {α : Type}

/-- What is done with the host is not done to the frame. -/
theorem sameFrame_onHost (op : Op Host α) : (op.onHost : Action α).Within SameFrame := by
  intro s
  rw [Op.onHost, ensures_onSecond]
  exact (ensures_true op _).mono (fun _ _ _ => rfl) fun _ _ _ => rfl

/-- What is done with the swapchain is not done to the frame. -/
theorem sameFrame_onSwapchain (op : Op (Swapchain × Host) α) :
    (onSwapchain op).Within SameFrame := by
  apply sameFrame_on
  exact fun _ _ => rfl

/-- What is done with the render targets is not done to the frame. -/
theorem sameFrame_onTargets (op : Op (RenderTargets × Host) α) :
    (onTargets op).Within SameFrame := by
  apply sameFrame_on
  exact fun _ _ => rfl

/-- What is done with the machine is not done to the frame. -/
theorem sameFrame_onMachine (op : Op Machinery α) : (onMachine op).Within SameFrame := by
  apply sameFrame_on
  exact fun _ _ => rfl

/-- Other fields of a renderer can be set. -/
theorem sameFrame_set {f : Renderer → Renderer}
    (h : ∀ r, (f r).frame = r.frame := by exact fun _ => rfl) : (set f).Within SameFrame :=
  within_change fun s => h s.1

end Parts

/-- Making the screen begins no frame. -/
theorem sameFrame_makeScreen (probe : SurfaceProbe) (setup : CommandBuffer) :
    (makeScreen probe setup).Within SameFrame := by
  refine within_get.bind fun _ => ?_
  refine within_get.bind fun _ => ?_
  refine (sameFrame_onSwapchain _).bind fun _ => ?_
  refine within_get.bind fun _ => ?_
  refine (sameFrame_onHost _).bind fun _ => ?_
  refine (sameFrame_onHost _).bind fun _ => ?_
  exact sameFrame_set

/-- Finishing the screen leaves the frame that is held. -/
theorem sameFrame_finishScreen : finishScreen.Within SameFrame := by
  have hRetarget : (set retarget).Within SameFrame := sameFrame_set
  refine within_get.bind fun _ => ?_
  refine (sameFrame_onTargets _).bind fun _ => ?_
  refine hRetarget.bind fun _ => ?_
  exact sameFrame_onMachine _

/-- Making the parts of a setup leaves the frame that is held. -/
theorem sameFrame_makeParts (config : RendererConfig) (probe : SurfaceProbe) :
    (makeParts config probe).Within SameFrame := by
  have hAside : ∀ {op : Action Unit}, op.Within Aside → op.Within SameFrame :=
    fun hOp => hOp.mono fun _ _ h => h.frame
  refine within_get.bind fun s => ?_
  split
  · exact within_throw _
  · refine (sameFrame_makeScreen probe _).bind fun _ => ?_
    refine (hAside (aside_loadCache _)).bind fun _ => ?_
    refine sameFrame_finishScreen.bind fun _ => ?_
    refine (hAside (aside_makeMemory config)).bind fun _ => ?_
    refine (hAside aside_loadProgram).bind fun _ => ?_
    refine (hAside aside_makeProgram).bind fun _ => ?_
    refine within_get.bind fun _ => ?_
    exact within_log _

/-- A new renderer holds no frame. -/
theorem ensures_create_noFrame (window : Window) (config : RendererConfig) (h : Host) :
    (create window config).Ensures h (fun r _ => r.frame = none) (fun _ _ => True) := by
  refine ensures_create_of_parts (P := fun t => t.1.frame = none) (fun probe _ _ _ => ?_) h
  exact (sameFrame_makeParts config probe _).mono (fun _ _ h => h) fun _ _ _ => trivial

/-- A new renderer is in order, and holds no frame. -/
theorem ensures_create_order (window : Window) (config : RendererConfig) (h : Host)
    (hNew : h.gpu.IsNew) :
    (create window config).Ensures h (fun r h' => InOrder (r, h') ∧ r.frame = none)
      (fun _ _ => True) := by
  refine ((ensures_create window config h hNew).and (ensures_create_noFrame window config h)).mono
    ?_ (fun _ _ _ => trivial)
  rintro r h' ⟨hFit, hFrame⟩
  exact ⟨⟨hFit.tidy, .inl (hFit.resting hFrame)⟩, hFrame⟩

-- ---------------------------------------------------------------------------
-- Runs
-- ---------------------------------------------------------------------------

/-- A call that began a frame: the renderer before and after it. -/
structure Beginning where
  before : Renderer × Host
  after : Renderer × Host

/-- Runs of a renderer from its creation on, with the last call that began a frame. Any call to the
device may fail. -/
inductive Run : Option Beginning → Renderer × Host → Prop
  | created {window : Window} {config : RendererConfig} {h h' : Host} {r : Renderer}
    (hNew : h.gpu.IsNew) (hRun : start (create window config) h = some (.ok r, h')) :
    Run none (r, h')
  | began {last : Option Beginning} {s t : Renderer × Host} (hRun : Run last s)
    (hBegin : start beginFrame s = some (.ok (), t)) : Run (some ⟨s, t⟩) t
  | other {last : Option Beginning} {s t : Renderer × Host} {c : Request}
    {r : Except RenderError Unit} (hRun : Run last s) (hServe : start (serve c) s = some (r, t))
    (hOther : c ≠ .beginFrame ∨ ∃ e, r = .error e) : Run last t

/-- The last call that began a frame began this one, with its buffer. -/
def Beginning.Began (b : Beginning) (f : Frame) : Prop :=
  b.after.1.frame = some f ∧
    BegunIn f.buffer.handle b.before.2.gpu.history b.after.2.gpu.history

/-- Every renderer of a run is in order, and the frame it holds is the one that the last call to
begin a frame began. -/
theorem inOrder_of_run {last : Option Beginning} (h : Run last s) :
    InOrder s ∧ ∀ f, s.1.frame = some f → ∃ b, last = some b ∧ b.Began f := by
  -- a call that begins no frame keeps what is known of the one there is
  have hKept : ∀ {s t : Renderer × Host} {last : Option Beginning}, KeepsFrame s t →
      (∀ f, s.1.frame = some f → ∃ b, last = some b ∧ b.Began f) →
      ∀ f, t.1.frame = some f → ∃ b, last = some b ∧ b.Began f := by
    intro s t last hKeeps hBefore f hFrame
    rcases hKeeps with hSame | hNone
    · exact hBefore f (hSame ▸ hFrame)
    · rw [hNone] at hFrame
      cases hFrame
  induction h with
  | @created window config h h' r hNew hRun =>
    obtain ⟨hOrder, hNone⟩ := (ensures_create_order window config h hNew).of_ok hRun
    refine ⟨hOrder, fun f hFrame => ?_⟩
    rw [hNone] at hFrame
    cases hFrame
  | @began last s t hRun hBegin ih =>
    obtain ⟨hOrder, f, hFrame, hNew⟩ := (ensures_beginFrame_order ih.1).of_ok hBegin
    refine ⟨hOrder, fun f' hFrame' => ⟨⟨s, t⟩, rfl, hFrame', ?_⟩⟩
    obtain rfl : f = f' := Option.some.inj (hFrame.symm.trans hFrame')
    exact hNew
  | @other last s t c r hRun hServe hOther ih =>
    have hOutcome := ensures_serve_order c ih.1 r t hServe
    cases r with
    | error e => exact ⟨hOutcome.1, hKept hOutcome.2 ih.2⟩
    | ok a =>
      -- a call to begin a frame that is among the others has failed
      have hNot : c ≠ .beginFrame := hOther.resolve_right nofun
      obtain ⟨hOrder, ⟨hBegin, -⟩ | ⟨-, hKeeps⟩⟩ := hOutcome
      · exact absurd hBegin hNot
      · exact ⟨hOrder, hKept hKeeps ih.2⟩

-- ---------------------------------------------------------------------------
-- Refusals
-- ---------------------------------------------------------------------------

/-- What must not happen during a frame is refused while one is held. -/
theorem start_requireNoFrame (hFrame : s.1.frame = some f) (operation : String) :
    start (requireNoFrame operation) s =
      some (.error (.invalidFrameState operation s.1.machine.state.name), s) := by
  rw [requireNoFrame, start_bind_of_ok (start_get s)]
  simp only [hFrame, Option.isSome_some, if_true, start_throw]

/-- What needs a frame is refused while none is held. -/
theorem start_currentFrame_none (hFrame : s.1.frame = none) (operation : String) :
    start (currentFrame operation) s =
      some (.error (.invalidFrameState operation s.1.machine.state.name), s) := by
  rw [currentFrame, start_bind_of_ok (start_get s)]
  simp only [hFrame, start_throw]

/-- The check of the image passes for the frame that is held. -/
theorem Recording.start_expectCurrent (h : Recording s f) :
    start (Synchronizer.expectCurrent f) (machinery s) = some (.ok (), machinery s) := by
  have hCurrent : ¬ f.imageIndex ≠ FrameWorld.currentImage (machinery s).2 :=
    fun hNe => hNe h.image
  rw [Synchronizer.expectCurrent, start_bind_of_ok (start_get _), if_neg hCurrent, start_pure]

/-- **A renderer and its frame machine agree**, whatever it was asked for and whichever calls to the
device failed. A frame is held exactly while the machine is recording. It is the one that the last
call to begin a frame began, for the image acquired last; its buffer was begun by that call and is
the draw buffer of the image. While it is held, resizing, reloading and changing the pipeline state
are refused, and the check of the image at its end passes. While none is held, drawing and ending are
refused. A refused call changes nothing, neither of the renderer nor of the device. -/
theorem frame_of_run {last : Option Beginning} (hRun : Run last s) :
    (s.1.frame.isSome ↔ s.1.machine.state = .recording) ∧
      (∀ f, s.1.frame = some f →
        f.imageIndex = s.1.swapchain.current ∧
        s.1.machine.recorder.draw[f.imageIndex.toNat]? = some f.buffer ∧
        (∃ b, last = some b ∧ b.Began f) ∧
        (∀ window, start (resize window) s =
          some (.error (.invalidFrameState "resize" "Recording"), s)) ∧
        start reloadShaders s =
          some (.error (.invalidFrameState "reload shaders" "Recording"), s) ∧
        (∀ state, start (setPipelineState state) s =
          some (.error (.invalidFrameState "change pipeline state" "Recording"), s)) ∧
        start (Synchronizer.expectCurrent f) (machinery s) = some (.ok (), machinery s)) ∧
      (s.1.frame = none →
        (∀ mesh mode, start (draw mesh mode) s =
          some (.error (.invalidFrameState "draw" s.1.machine.state.name), s)) ∧
        start endFrame s =
          some (.error (.invalidFrameState "end frame" s.1.machine.state.name), s)) := by
  obtain ⟨hOrder, hLast⟩ := inOrder_of_run hRun
  refine ⟨?_, fun f hFrame => ?_, fun hFrame => ⟨fun mesh mode => ?_, ?_⟩⟩
  · rcases hOrder.frames with hResting | ⟨f, hHolds⟩
    · rw [hResting.frame]
      rcases hResting.state with hIdle | hLost
      · simp [hIdle]
      · simp [hLost]
    · simp [hHolds.frame, hHolds.state]
  · -- a frame is held, so the machine is recording it
    have hHolds := hOrder.holds hFrame
    have hRefused := start_requireNoFrame hFrame
    rw [hHolds.state] at hRefused
    exact ⟨hHolds.image, hHolds.slot, hLast f hFrame,
      fun window => start_bind_of_error (hRefused "resize") _,
      start_bind_of_error (hRefused "reload shaders") _,
      fun state => start_bind_of_error (hRefused "change pipeline state") _,
      hHolds.toRecording.start_expectCurrent⟩
  · exact start_bind_of_error (start_currentFrame_none hFrame "draw") _
  · exact start_bind_of_error (start_currentFrame_none hFrame "end frame") _

-- ---------------------------------------------------------------------------
-- A frame that cannot be submitted
-- ---------------------------------------------------------------------------

/-- A renderer that was created begins a run. -/
theorem run_of_created {window : Window} {config : RendererConfig} {h : Host}
    (hNew : h.gpu.IsNew) (hCreated : created? window config h = some s) : Run none s :=
  .created hNew (start_of_created hCreated)

/-- A new renderer that has begun a frame. -/
def sampleOpened : Renderer × Host := beginFrame.after sample

/-- That renderer on a device that submits nothing any more. -/
def sampleStuck : Renderer × Host :=
  (sampleOpened.1, sampleOpened.2.onGpu (Gpu.follow { faults := some [⟨"vkQueueSubmit", none, ⟨-4⟩⟩] }))

/-- The frame that was begun is held, so the window cannot be followed. Ending it fails; then there
is none to draw into. -/
theorem frame_of_run_stuck :
    ∃ b f, Run (some b) sampleStuck ∧ sampleStuck.1.frame = some f ∧ b.Began f ∧
      start (resize ⟨800, 600⟩) sampleStuck =
        some (.error (.invalidFrameState "resize" "Recording"), sampleStuck) ∧
      ∃ u, Run (some b) u ∧ u.1.frame = none ∧
        start endFrame u = some (.error (.invalidFrameState "end frame" "Lost"), u) := by
  have hSample : Run none sample :=
    run_of_created ⟨rfl, rfl, Nat.one_pos⟩ (Option.some_get isSome_sample).symm
  have hBegins : beginFrame.succeeds sample = true := by decide +kernel
  obtain ⟨_, hBegin⟩ := start_of_succeeds hBegins
  have hBegun := hSample.began hBegin
  have hStuck : Run (some ⟨sample, sampleOpened⟩) sampleStuck :=
    hBegun.other (c := .follow _) (r := .ok ()) rfl (.inl nofun)
  have hSome : sampleStuck.1.frame.isSome = true := by decide +kernel
  obtain ⟨f, hFrame⟩ := Option.isSome_iff_exists.mp hSome
  -- the first submission fails, and the machine is lost
  have hFails : endFrame.fails sampleStuck = true := by decide +kernel
  obtain ⟨e, hEnd⟩ := start_of_fails hFails
  have hEnded := hStuck.other (c := .endFrame) hEnd (.inl nofun)
  have hNone : (endFrame.after sampleStuck).1.frame = none := by decide +kernel
  have hLost : (endFrame.after sampleStuck).1.machine.state = .lost := by decide +kernel
  have hHeld := (frame_of_run hStuck).2.1 f hFrame
  have hRefused := (frame_of_run hEnded).2.2 hNone
  rw [hLost] at hRefused
  obtain ⟨b, hLast, hBegan⟩ := hHeld.2.2.1
  exact ⟨b, f, hLast ▸ hStuck, hFrame, hBegan, hHeld.2.2.2.1 ⟨800, 600⟩, endFrame.after sampleStuck,
    hLast ▸ hEnded, hNone, hRefused.2⟩

end Renderer

end RenderLoop
