import RenderLoop.Proofs.Gpu.Recorder

/-!
# RenderLoop — frames on the device

What the frame machine does to the device. Frames write the buffers of frames only,
so the commands of the setup buffer stay (`Synchronizer.Kept`).

A frame that begins finds its draw buffer with the commands of its opening
(`OpenedFor`). A frame that ends submits that buffer, and barriers on its image: the
history stays clean if the buffer can be finished and the image is still there
(`EndsWell`), and without faults only if so.
-/

namespace RenderLoop

open GpuHistory Op

-- ---------------------------------------------------------------------------
-- Images
-- ---------------------------------------------------------------------------

namespace Scene

variable {w w' : Scene} {P : Prop} {kept : Handle → Prop}

/-- What is logged does not show on the device. -/
theorem Serves.logged {w'' : Scene} (h : Serves P kept w w') (hLogged : Logged w' w'') :
    Serves P kept w w'' :=
  hLogged.keeps (fun e _ h => h.push e) h

/-- What becomes of a code is logged, and it fails unless it stands for success. -/
theorem ensures_failing {α : Type} (code : ResultCode) (source call : String) (w : Scene)
    {ok : α → Scene → Prop} {fail : RenderError → Scene → Prop}
    (hFail : ∀ e w', Logged w w' → fail e w') :
    (code.fail source call : Op Scene α).Ensures w ok fail := by
  have hLogged : (logAll (code.entry? source call).toList : Op Scene Unit).Ensures w
      (fun _ w' => Logged w w') fail :=
    ensures_logAll (fun e _ h => h.push e) _ .here
  show (do logAll (code.entry? source call).toList
           throw (code.cause call) : Op Scene α).Ensures _ _ _
  rw [ensures_bind]
  refine hLogged.mono ?_ (fun _ _ h => h)
  intro _ w' hLogged
  rw [ensures_throw]
  exact hFail _ w' hLogged

/-- Everything but the image acquired last is as it was, and the device passed by. -/
structure Asked (w w' : Scene) : Prop where
  device : w'.2.1 = w.2.1
  passes : w.gpu.Passes w'.gpu

theorem Asked.push {w w' : Scene} (h : Asked w w') (e : LogEntry) :
    Asked w (Logging.push e w') where
  device := h.device
  passes := h.passes

/-- A scripted image is given out as it stands in the script. -/
theorem gpu_acquire_code (swapchain semaphore : Handle) (g : Gpu) {j : UInt32}
    (h : g.acquireScript.head? = some (j, .success)) :
    (g.acquire swapchain semaphore).1 = (j, .success) := by
  obtain ⟨rest, hScript⟩ : ∃ rest, g.acquireScript = (j, .success) :: rest :=
    List.head?_eq_some_iff.mp h
  rw [Gpu.acquire, Gpu.nextAcquisition, hScript]

/-- What there is after an acquisition. -/
structure Acquired (w : Scene) (i : UInt32) (w' : Scene) : Prop extends Asked w w' where
  chain : w'.1 = { w.1 with current := i }
  script : ∀ j, w.gpu.acquireScript.head? = some (j, .success) → i = j

/-- What there is after a failed acquisition. -/
structure NotAcquired (w w' : Scene) : Prop extends Asked w w' where
  chain : w'.1 = w.1
  script : ∀ j, w.gpu.acquireScript.head? ≠ some (j, .success)

/-- An acquisition gives the scripted image, and it fails only if no image is scripted next. -/
theorem ensures_acquire (signal : Semaphore) (w : Scene) :
    (FrameWorld.acquire signal : Op Scene UInt32).Ensures w (fun i w' => Acquired w i w')
      (fun _ w' => NotAcquired w w') := by
  show (Swapchain.acquire signal).Ensures w _ _
  obtain ⟨c, d, h⟩ := w
  have hPasses : Gpu.Passes h.gpu (h.gpu.acquire c.handle signal.handle).2 :=
    Gpu.routine_acquire c.handle signal.handle h.gpu
  have hScript : ∀ j, h.gpu.acquireScript.head? = some (j, .success) →
      (h.gpu.acquire c.handle signal.handle).1 = (j, .success) :=
    fun j => gpu_acquire_code c.handle signal.handle h.gpu
  simp only [Swapchain.acquire, ensures_bind, ensures_get, Op.onHost, ensures_onSecond, Host.call,
    ensures_act]
  generalize h.gpu.acquire c.handle signal.handle = answer at hPasses hScript ⊢
  obtain ⟨⟨index, code⟩, g⟩ := answer
  have hAsked : Asked (c, d, h) (c, d, { h with gpu := g }) := ⟨rfl, hPasses⟩
  -- either way of success goes on like this
  have hDone : ∀ w' : Scene, w'.1 = c → Asked (c, d, h) w' →
      (do change fun s => ({ s.1 with current := index }, s.2)
          pure index : Op Scene UInt32).Ensures w' (fun i w'' => Acquired (c, d, h) i w'')
        (fun _ w'' => NotAcquired (c, d, h) w'') := by
    rintro ⟨c', d', h'⟩ hChain hAsked
    dsimp only at hChain
    subst hChain
    rw [ensures_bind, ensures_change, ensures_pure]
    exact ⟨⟨hAsked.device, hAsked.passes⟩, rfl, fun j hj => congrArg Prod.fst (hScript j hj)⟩
  -- suboptimal, failed, or done
  refine ensures_ite (fun _ => ?_) fun _ => ensures_ite (fun hCode => ?_) fun _ => ?_
  · rw [ensures_bind, ensures_log]
    exact hDone _ rfl (hAsked.push _)
  · rw [ensures_bind]
    refine ensures_failing _ _ _ _ fun e w' hLogged => ?_
    refine hLogged.keeps (fun e _ h => ⟨h.toAsked.push e, h.chain, h.script⟩) ⟨hAsked, rfl, ?_⟩
    exact fun j hj => hCode (congrArg Prod.snd (hScript j hj))
  · exact hDone _ rfl hAsked

/-- A presentation serves the device without a condition, whatever comes of it. -/
theorem ensures_present (kept : Handle → Prop) (index : UInt32) (waits : List Semaphore)
    (w : Scene) :
    (FrameWorld.present index waits : Op Scene Unit).Ensures w (fun _ w' => Serves True kept w w')
      (fun _ w' => Serves True kept w w') := by
  show (Swapchain.present index waits).Ensures w _ _
  obtain ⟨c, d, h⟩ := w
  simp only [Swapchain.present, ensures_bind, ensures_get, Op.onHost, ensures_onSecond, Host.call,
    ensures_act]
  have hPasses : Gpu.Passes h.gpu (h.gpu.present (waits.map (·.handle)) c.handle index).2 :=
    Gpu.routine_present _ _ _ _
  have hServes : Serves True kept (c, d, h) (c, d, { h with
      gpu := (h.gpu.present (waits.map (·.handle)) c.handle index).2 }) :=
    serves_of_risks hPasses.risks
  -- whether the presentation is suboptimal, fails or is accepted, the device has served it
  refine ensures_ite (fun _ => ?_) fun _ => ensures_ite (fun _ => ?_) fun _ => ?_
  · rw [ensures_log]
    exact hServes.push _
  · exact ensures_failing _ _ _ _ fun e w' hLogged => hServes.logged hLogged
  · rw [ensures_pure]
    exact hServes

end Scene

-- ---------------------------------------------------------------------------
-- The beginning of a frame
-- ---------------------------------------------------------------------------

/-- The commands of a draw buffer that was opened for an image, newest first. Without a framebuffer
no render pass begins. -/
inductive OpenedFor (t : FrameTargets) (i : UInt32) : List GpuCommand → Prop
  | framed {framebuffer : Handle} (hFramebuffer : t.framebuffers[i.toNat]? = some framebuffer)
    (viewport : Viewport) (scissor area : Rect) (clears : List ClearValue) :
    OpenedFor t i [.beginRenderPass t.pass framebuffer area clears, .setScissor scissor,
      .setViewport viewport]
  | unframed (hFramebuffer : t.framebuffers[i.toNat]? = none) (viewport : Viewport)
    (scissor : Rect) : OpenedFor t i [.setScissor scissor, .setViewport viewport]

/-- A draw buffer that was just opened can be finished if its render pass began, with a pass and a
framebuffer that are there. -/
theorem OpenedFor.finishable_iff {t : FrameTargets} {i : UInt32} {h : GpuHistory} {b : Handle}
    (hOpened : OpenedFor t i (commands b h)) :
    Finishable h b ↔ (∃ f, t.framebuffers[i.toNat]? = some f ∧ ¬ Destroyed h .framebuffer f) ∧
      ¬ Destroyed h .renderPass t.pass := by
  rw [GpuHistory.finishable_iff]
  generalize commands b h = cs at hOpened ⊢
  cases hOpened with
  | @framed framebuffer hFramebuffer viewport scissor area clears =>
    have hPaired : Paired [.endRenderPass, .beginRenderPass t.pass framebuffer area clears,
        .setScissor scissor, .setViewport viewport] := ⟨rfl, trivial⟩
    rw [and_iff_left hPaired, hFramebuffer]
    simp only [List.forall_mem_cons, Dangles, not_or, not_false_eq_true, List.not_mem_nil,
      false_implies, implies_true, and_true, Option.some.injEq, exists_eq_left']
    exact and_comm
  -- no render pass began, so there is none to end
  | unframed hFramebuffer viewport scissor =>
    rw [hFramebuffer]
    refine ⟨fun ⟨_, hPaired⟩ => absurd hPaired.1 Bool.false_ne_true, ?_⟩
    rintro ⟨⟨f, hSome, -⟩, -⟩
    cases hSome

namespace Synchronizer

variable {m : Synchronizer} {w : Scene}

/-- Beginning a frame keeps the setup buffer, the chain but for the image acquired last, and the
targets. -/
structure Kept (m : Synchronizer) (w : Scene) (s : Synchronizer × Scene) : Prop where
  setup : s.1.recorder.setup = m.recorder.setup
  apart : s.1.recorder.Apart s.2.gpu.nextHandle
  chain : ∃ i, s.2.1 = { w.1 with current := i }
  device : s.2.2.1 = w.2.1
  risks : Gpu.Risks True m.recorder.IsSetup w.gpu s.2.gpu

/-- Recording commands in order. -/
theorem serves_recordAll (b : CommandBuffer) (kept : Handle → Prop) (hKept : ¬ kept b.handle)
    (cs : List Command) (w : Scene) :
    Scene.Serves True kept w (FrameDevice.recordAll b cs w) ∧
      commands b.handle (Scene.gpu (FrameDevice.recordAll b cs w)).history =
        cs.reverse.flatMap (fun c => (GpuDevice.resolve w.targets c).toOption.toList) ++
          commands b.handle w.gpu.history := by
  induction cs generalizing w with
  | nil => exact ⟨.refl w, rfl⟩
  | cons c rest ih =>
    obtain ⟨hFirst, hCommand⟩ := Scene.serves_record kept b hKept c w
    obtain ⟨hRest, hCommands⟩ := ih (FrameDevice.record b c w)
    refine ⟨hFirst.then hRest, hCommands.trans ?_⟩
    rw [hCommand, hFirst.targets, List.reverse_cons, List.flatMap_append, List.append_assoc]
    simp only [List.flatMap_cons, List.flatMap_nil, List.append_nil]

/-- The opening commands, recorded into an empty buffer, open it. -/
theorem openedFor_of_empty (index : UInt32) (extent : Extent) (clears : List ClearValue)
    (t : FrameTargets) :
    OpenedFor t index ((openingCommands index extent clears).reverse.flatMap
      (fun c => (GpuDevice.resolve t c).toOption.toList) ++ []) := by
  cases hFramebuffer : t.framebuffers[index.toNat]? with
  | some framebuffer =>
    simp only [openingCommands, GpuDevice.resolve, List.reverse_cons, List.reverse_nil,
      List.nil_append, List.cons_append, List.flatMap_cons, List.flatMap_nil, List.append_nil,
      hFramebuffer, Except.toOption, Option.toList_some]
    exact .framed hFramebuffer _ _ _ _
  | none =>
    simp only [openingCommands, GpuDevice.resolve, List.reverse_cons, List.reverse_nil,
      List.nil_append, List.cons_append, List.flatMap_cons, List.flatMap_nil, List.append_nil,
      hFramebuffer, Except.toOption, Option.toList_some, Option.toList_none]
    exact .unframed hFramebuffer _ _

/-- A draw buffer is opened, or a fault is in the way. -/
theorem ensures_recordOpening_scene (index images : UInt32) (extent : Extent)
    (hApart : m.recorder.Apart w.gpu.nextHandle) :
    (recordOpening index images extent : Op (Synchronizer × Scene) CommandBuffer).Ensures (m, w)
      (fun b s => s.1 = { m with recorder := s.1.recorder } ∧
        m.recorder.Redrawn w (s.1.recorder, s.2) ∧ b ∈ s.1.recorder.draw ∧ index < images ∧
        OpenedFor w.targets index (commands b.handle s.2.gpu.history))
      (fun _ s => s.1 = { m with recorder := s.1.recorder } ∧
        m.recorder.Redrawn w (s.1.recorder, s.2) ∧ (index < images → w.gpu.faults ≠ [])) := by
  simp only [recordOpening, onRecorder, ensures_bind, ensures_on, ensures_onSecond, ensures_change,
    ensures_pure]
  refine (Recorder.ensures_drawBuffer_scene index images m.recorder w hApart).mono ?_ ?_
  · rintro b ⟨r, w₁⟩ ⟨hRedrawn, hb, hIndex⟩
    -- draw buffers are never the setup buffer, whose commands have to stay
    have hOther : ¬ m.recorder.IsSetup b.handle := by
      have hApart' := hRedrawn.apart.apart b (Recorder.mem_frames_of_draw hb)
      rw [Recorder.IsSetup, hRedrawn.setup] at hApart'
      exact hApart'
    refine (Scene.ensures_beginBuffer m.recorder.IsSetup b hOther w₁).mono ?_ ?_
    · rintro - w₂ ⟨hBegun, hEmpty⟩
      obtain ⟨hServes, hCommands⟩ := serves_recordAll b m.recorder.IsSetup hOther
        (openingCommands index extent m.clearValues) w₂
      refine ⟨trivial, hRedrawn.serves_then (hBegun.then hServes), hb, hIndex, ?_⟩
      show OpenedFor w.targets index (commands b.handle (Scene.gpu
        (FrameDevice.recordAll b (openingCommands index extent m.clearValues) w₂)).history)
      rw [hCommands, hEmpty, hBegun.targets, hRedrawn.serves.targets]
      exact openedFor_of_empty index extent m.clearValues w.targets
    · rintro e w₂ ⟨hBegun, hFaults⟩
      exact ⟨trivial, hRedrawn.serves_then hBegun, fun _ => hRedrawn.serves.faults ▸ hFaults⟩
  · rintro e ⟨r, w₁⟩ ⟨hRedrawn, hHindered⟩
    exact ⟨trivial, hRedrawn, hHindered⟩

/-- What there is after an acquisition, or after none. -/
theorem ensures_acquireImage_scene (m : Synchronizer) (w : Scene) :
    (acquireImage : Op (Synchronizer × Scene) UInt32).Ensures (m, w)
      (fun i s => s.1 = { m with state := .acquiring } ∧ Scene.Acquired w i s.2)
      (fun _ s => s.1.recorder = m.recorder ∧ (s.1.state = .idle ∨ s.1.state = .lost) ∧
        Scene.NotAcquired w s.2) := by
  simp only [acquireImage, enter, ensures_bind, ensures_change, ensures_get, ensures_attempt,
    ensures_onSecond]
  refine (Scene.ensures_acquire m.presentComplete w).mono ?_ ?_
  · intro i w' hAcquired
    simp only [ensures_log, ensures_pure]
    exact ⟨rfl, hAcquired.toAsked.push _, hAcquired.chain, hAcquired.script⟩
  · intro e w' hNot
    -- only the log is written after a failed acquisition
    have hPush : ∀ {w''}, Logged w' w'' → Scene.NotAcquired w w'' := fun hLogged =>
      hLogged.keeps (fun e _ h => ⟨h.toAsked.push e, h.chain, h.script⟩) hNot
    split
    · simp_all
    · rename_i hCause
      cases hCause
      simp only [ensures_bind, ensures_change, ensures_failWith]
      exact ⟨rfl, .inl rfl, hPush (.push _ .here)⟩
    · rename_i hError
      cases hError
      exact ensures_lose _ _ _ fun w'' hLogged => ⟨rfl, .inr rfl, hPush hLogged⟩

/-- A frame began. -/
structure Begun (m : Synchronizer) (w : Scene) (f : Frame) (s : Synchronizer × Scene) : Prop
    extends Kept m w s where
  state : s.1.state = .recording
  image : f.imageIndex = s.2.1.current
  draw : f.buffer ∈ s.1.recorder.draw
  index : f.imageIndex < UInt32.ofNat w.1.images.length
  opened : OpenedFor w.targets f.imageIndex (commands f.buffer.handle s.2.gpu.history)
  script : ∀ j, w.gpu.acquireScript.head? = some (j, .success) → f.imageIndex = j

/-- No frame began, because there was no image or because of a fault. -/
structure NotBegun (m : Synchronizer) (w : Scene) (s : Synchronizer × Scene) : Prop
    extends Kept m w s where
  state : s.1.state = .idle ∨ s.1.state = .lost
  hindered : ∀ j, w.gpu.acquireScript.head? = some (j, .success) →
    j < UInt32.ofNat w.1.images.length → w.gpu.faults ≠ []

/-- An acquisition and what was done to the recorder afterwards. -/
theorem kept_of_redrawn {i : UInt32} {w₁ : Scene} {s : Synchronizer × Scene}
    (hAcquired : Scene.Acquired w i w₁) (hRedrawn : m.recorder.Redrawn w₁ (s.1.recorder, s.2)) :
    Kept m w s where
  setup := hRedrawn.setup
  apart := hRedrawn.apart
  chain := ⟨i, hRedrawn.serves.chain.trans hAcquired.chain⟩
  device := hRedrawn.serves.device.trans hAcquired.device
  risks := (hAcquired.passes.risks.trans hRedrawn.serves.risks).congr (iff_of_eq (true_and _))

/-- Opening the draw buffer of an image that was acquired begins the frame, or a fault or an image
that there is no framebuffer for loses it. -/
theorem ensures_openFrame_scene {i : UInt32} {w₁ : Scene} (extent : Extent) (m : Synchronizer)
    (w : Scene) (hAcquired : Scene.Acquired w i w₁) (hApart : m.recorder.Apart w.gpu.nextHandle) :
    (do
      let buffer ← orLose (recordOpening i (UInt32.ofNat w.1.images.length) extent)
      enter .recording
      pure ⟨i, buffer, extent⟩ : Op (Synchronizer × Scene) Frame).Ensures
        ({ m with state := .acquiring }, w₁)
        (fun f s => Begun m w f s) (fun _ s => NotBegun m w s) := by
  have hTargets : w₁.targets = w.targets := congrArg GpuDevice.targets hAcquired.device
  have hFaults : w₁.gpu.faults = w.gpu.faults := Gpu.faults_of_setting hAcquired.passes.setting
  have hApart₁ := hApart.mono hAcquired.passes.nextHandle
  have hOpening := ensures_recordOpening_scene (m := { m with state := .acquiring }) i
    (UInt32.ofNat w.1.images.length) extent hApart₁
  rw [ensures_bind]
  refine ensures_orLose (hOpening.mono ?_ (fun _ _ h => h)) ?_
  · rintro b ⟨m₂, w₂⟩ ⟨-, hRedrawn, hb, hIndex, hOpened⟩
    simp only [enter, ensures_bind, ensures_change, ensures_pure]
    refine ⟨kept_of_redrawn hAcquired ⟨hRedrawn.setup, hRedrawn.apart, hRedrawn.serves⟩,
      rfl, ?_, hb, hIndex, hTargets ▸ hOpened, hAcquired.script⟩
    show i = w₂.1.current
    rw [hRedrawn.serves.chain, hAcquired.chain]
  · rintro e m₂ w₂ w₃ ⟨-, hRedrawn, hHindered⟩ hLogged
    have hKept : Kept m w ({ m₂ with state := .lost }, w₃) :=
      hLogged.keeps (P := fun w₃ => Kept m w ({ m₂ with state := .lost }, w₃))
        (fun _ _ h => ⟨h.setup, h.apart, h.chain, h.device, h.risks⟩)
        (kept_of_redrawn hAcquired ⟨hRedrawn.setup, hRedrawn.apart, hRedrawn.serves⟩)
    refine ⟨hKept, .inr rfl, ?_⟩
    -- an image that is scripted is the one that was acquired
    intro j hScript hIndex
    rw [← hAcquired.script j hScript] at hIndex
    exact hFaults ▸ hHindered hIndex

/-- All that can come of beginning a frame. -/
theorem ensures_beginFrame_scene (extent : Extent) (m : Synchronizer) (w : Scene)
    (hApart : m.recorder.Apart w.gpu.nextHandle) :
    (beginFrame extent : Op (Synchronizer × Scene) Frame).Ensures (m, w)
      (fun f s => m.state = .idle ∧ Begun m w f s)
      (fun e s => (m.state ≠ .idle ∧ s = (m, w) ∧ e ≠ .swapchainOutOfDate) ∨
        (m.state = .idle ∧ NotBegun m w s)) := by
  rw [beginFrame, ensures_bind]
  refine ensures_expect _ _ m w (fun hIdle => ?_) fun e hRefusal =>
    .inl ⟨ne_of_refused (by decide) hRefusal, rfl, ne_outOfDate_of_refused hRefusal⟩
  rw [ensures_bind]
  refine (ensures_acquireImage_scene m w).mono ?_ ?_
  · rintro i ⟨m₁, w₁⟩ ⟨rfl, hAcquired⟩
    have hImages : FrameWorld.imageCount w₁ = UInt32.ofNat w.1.images.length := by
      show UInt32.ofNat w₁.1.images.length = _
      rw [hAcquired.chain]
    -- the number of images is the one before the acquisition
    rw [ensures_bind, ensures_get]
    dsimp only
    rw [hImages]
    exact (ensures_openFrame_scene extent m w hAcquired hApart).mono
      (fun _ _ hBegun => ⟨hIdle, hBegun⟩) fun _ _ hNotBegun => .inr ⟨hIdle, hNotBegun⟩
  · rintro e ⟨m₁, w₁⟩ ⟨hRecorder, hState, hNot⟩
    dsimp only at hRecorder hState hNot
    refine .inr ⟨hIdle, ⟨?_, ?_, ⟨w.1.current, hNot.chain⟩, hNot.device, hNot.passes.risks⟩, hState,
      fun j hScript => absurd hScript (hNot.script j)⟩
    · exact congrArg Recorder.setup hRecorder
    · show m₁.recorder.Apart w₁.gpu.nextHandle
      rw [hRecorder]
      exact hApart.mono hNot.passes.nextHandle

-- ---------------------------------------------------------------------------
-- The end of a frame
-- ---------------------------------------------------------------------------

/-- The image that barriers of a frame are for is there, if there is one at all. -/
def ImageThere (i : UInt32) (w : Scene) : Prop :=
  ∀ x, w.targets.images[i.toNat]? = some x → ¬ ImageGone w.gpu.history x

/-- What the end of a frame needs. -/
structure EndsWell (f : Frame) (w : Scene) : Prop where
  finishable : Finishable w.gpu.history f.buffer.handle
  image : ImageThere f.imageIndex w

variable {P Q : Prop} {kept : Handle → Prop}

/-- Serving the device does not take an image away. -/
theorem imageThere_iff {w' : Scene} {i : UInt32} (hServes : Scene.Serves P kept w w') :
    ImageThere i w' ↔ ImageThere i w := by
  rw [ImageThere, ImageThere, hServes.targets]
  exact forall₂_congr fun x _ => not_congr hServes.risks.spares.history.imageGone_iff

/-- Submitting the draw buffer needs it to be finishable. -/
theorem ensures_submitDraw (kept : Handle → Prop) (b : CommandBuffer) (hKept : ¬ kept b.handle)
    (ready done : Semaphore) (w : Scene) :
    (submitDraw b ready done : Op Scene Unit).Ensures w
      (fun _ w' => Scene.Serves (Finishable w.gpu.history b.handle) kept w w')
      (fun _ w' => Scene.Serves (Finishable w.gpu.history b.handle) kept w w' ∧
        w.gpu.faults ≠ []) := by
  obtain ⟨hRecorded, hCommands⟩ := Scene.serves_record kept b hKept .endRenderPass w
  rw [submitDraw, ensures_bind, ensures_change, ensures_bind]
  generalize FrameDevice.record b .endRenderPass w = w₁ at hRecorded hCommands ⊢
  refine (Scene.ensures_endBuffer (fun _ => True) b w₁).mono ?_ ?_
  · intro _ w₂ hEnded
    have hBoth : Scene.Serves True kept w w₂ := hRecorded.then (hEnded.mono fun _ _ => trivial)
    -- ending the render pass adds the one command that `Finishable` speaks of
    have hSubmittable : Submittable w₂.gpu.history b.handle ↔
        Finishable w.gpu.history b.handle :=
      hBoth.risks.spares.history.submittable_of_ended
        ((hEnded.risks.commands _ trivial).trans hCommands)
    refine (Scene.ensures_submit kept b _ _ w₂).mono ?_ ?_
    · intro _ w₃ hSubmitted
      exact (hBoth.then hSubmitted).congr hSubmittable
    · rintro e w₃ ⟨hSubmitted, hFaults⟩
      exact ⟨(hBoth.then hSubmitted).congr hSubmittable, hBoth.faults ▸ hFaults⟩
  · rintro e w₂ ⟨hEnded, hFaults⟩
    have hFaults' : w.gpu.faults ≠ [] := hRecorded.faults ▸ hFaults
    refine ⟨(hRecorded.then (hEnded.mono fun _ _ => trivial)).cut hFaults' fun _ => trivial, hFaults'⟩

/-- The commands of a barrier on the image of a frame are submittable just if that is there. -/
theorem submittable_barrier {i : UInt32} {t : ImageTransition} {b : Handle} {w w' : Scene}
    (hServes : Scene.Serves P kept w w')
    (hCommands : commands b w'.gpu.history =
      (GpuDevice.resolve w.targets (.barrier (.swapchain i) t)).toOption.toList) :
    Submittable w'.gpu.history b ↔ ImageThere i w := by
  rw [← imageThere_iff hServes, submittable_iff, hCommands, ImageThere, hServes.targets,
    GpuDevice.resolve, FrameTargets.image?]
  cases w.targets.images[i.toNat]? with
  | none =>
    exact ⟨fun _ => nofun, fun _ => ⟨nofun, trivial⟩⟩
  | some x =>
    show (∀ c ∈ [GpuCommand.barrier x t], ¬ Dangles w'.gpu.history c) ∧ True ↔ _
    simp only [List.mem_singleton, forall_eq, and_true, Option.some.injEq, forall_eq']
    exact Iff.rfl

/-- Submitting a barrier needs the image. -/
theorem ensures_submitBarrier (kept : Handle → Prop) (b : CommandBuffer) (hKept : ¬ kept b.handle)
    (i : UInt32) (t : ImageTransition) (w : Scene) :
    (submitBarrier b i t : Op Scene Unit).Ensures w
      (fun _ w' => Scene.Serves (ImageThere i w) kept w w')
      (fun _ w' => Scene.Serves (ImageThere i w) kept w w' ∧ w.gpu.faults ≠ []) := by
  rw [submitBarrier, ensures_bind]
  refine (Scene.ensures_beginBuffer kept b hKept w).mono ?_ ?_
  · rintro - w₁ ⟨hBegun, hEmpty⟩
    obtain ⟨hRecorded, hCommands⟩ := Scene.serves_record kept b hKept (.barrier (.swapchain i) t) w₁
    rw [ensures_bind, ensures_change, ensures_bind]
    generalize FrameDevice.record b (.barrier (.swapchain i) t) w₁ = w₂ at hRecorded hCommands ⊢
    have hTwo := hBegun.then hRecorded
    refine (Scene.ensures_endBuffer (fun _ => True) b w₂).mono ?_ ?_
    · intro _ w₃ hEnded
      have hAll : Scene.Serves True kept w w₃ := hTwo.then (hEnded.mono fun _ _ => trivial)
      -- the buffer holds the one barrier, which can be submitted exactly if its image is there
      have hSubmittable : Submittable w₃.gpu.history b.handle ↔ ImageThere i w := by
        refine submittable_barrier (t := t) hAll ?_
        rw [hEnded.risks.commands _ trivial, hCommands, hEmpty, List.append_nil, hBegun.targets]
      refine (Scene.ensures_submit kept b [] [] w₃).mono ?_ ?_
      · intro _ w₄ hSubmitted
        exact (hAll.then hSubmitted).congr hSubmittable
      · rintro e w₄ ⟨hSubmitted, hFaults⟩
        exact ⟨(hAll.then hSubmitted).congr hSubmittable, hAll.faults ▸ hFaults⟩
    · rintro e w₃ ⟨hEnded, hFaults⟩
      have hFaults' : w.gpu.faults ≠ [] := hTwo.faults ▸ hFaults
      exact ⟨(hTwo.then (hEnded.mono fun _ _ => trivial)).cut hFaults' fun _ => trivial, hFaults'⟩
  · rintro e w₁ ⟨hBegun, hFaults⟩
    exact ⟨hBegun.cut hFaults fun _ => trivial, hFaults⟩

/-- A part of the end of a frame: it takes the machine on, or a fault loses the machine; either way
the device was served under a condition. -/
def Runs {α : Type} (op : Op (Synchronizer × Scene) α) (m m' : Synchronizer) (P : Scene → Prop)
    (kept : Handle → Prop) : Prop :=
  ∀ w, op.Ensures (m, w)
    (fun _ s => s.1 = m' ∧ Scene.Serves (P w) kept w s.2)
    (fun _ s => s.1 = { m with state := .lost } ∧ Scene.Serves (P w) kept w s.2 ∧
      w.gpu.faults ≠ [])

/-- What is done with the device alone is a part of the end, with the machine lost if it fails. -/
theorem runs_orLose {α : Type} {op : Op Scene α} {P : Scene → Prop}
    (hOp : ∀ w, op.Ensures w (fun _ w' => Scene.Serves (P w) kept w w')
      (fun _ w' => Scene.Serves (P w) kept w w' ∧ w.gpu.faults ≠ [])) (m : Synchronizer) :
    Runs (orLose op.onSecond) m m P kept := by
  intro w
  have hSecond : op.onSecond.Ensures (m, w)
      (fun _ s => s.1 = m ∧ Scene.Serves (P w) kept w s.2)
      (fun _ s => s.1 = m ∧ Scene.Serves (P w) kept w s.2 ∧ w.gpu.faults ≠ []) := by
    rw [ensures_onSecond]
    exact (hOp w).mono (fun _ w' h => ⟨rfl, h⟩) (fun _ w' h => ⟨rfl, h⟩)
  refine ensures_orLose hSecond ?_
  rintro e m' w₁ w' ⟨hMachine, hServes, hFaults⟩ hLogged
  dsimp only at hMachine
  rw [hMachine]
  exact ⟨rfl, hServes.logged hLogged, hFaults⟩

/-- Two parts one after the other, each under its condition. -/
theorem Runs.bind {α β : Type} {op : Op (Synchronizer × Scene) α}
    {next : α → Op (Synchronizer × Scene) β} {m m' m'' : Synchronizer} {P Q : Scene → Prop}
    (hOp : Runs op m m' P kept)
    (hLost : ({ m' with state := .lost } : Synchronizer) = { m with state := .lost })
    (hStays : ∀ {w w'}, Scene.Serves (P w) kept w w' → (Q w' ↔ Q w))
    (hNext : ∀ a, Runs (next a) m' m'' Q kept) :
    Runs (op >>= next) m m'' (fun w => P w ∧ Q w) kept := by
  intro w
  rw [ensures_bind]
  refine (hOp w).mono ?_ ?_
  · rintro a ⟨m₁, w₁⟩ ⟨hMachine, hServes⟩
    dsimp only at hMachine hServes
    subst hMachine
    -- the second condition is asked of the scene that the first part left, which makes no
    -- difference
    have hBoth : ∀ {w₂}, Scene.Serves (Q w₁) kept w₁ w₂ → Scene.Serves (P w ∧ Q w) kept w w₂ :=
      fun hServes' => (hServes.trans hServes').congr (and_congr_right fun _ => hStays hServes)
    refine (hNext a w₁).mono ?_ ?_
    · exact fun b s ⟨hMachine, hServes'⟩ => ⟨hMachine, hBoth hServes'⟩
    · exact fun e s ⟨hMachine, hServes', hFaults⟩ =>
        ⟨hMachine.trans hLost, hBoth hServes', hServes.faults ▸ hFaults⟩
  · exact fun e s ⟨hMachine, hServes, hFaults⟩ => ⟨hMachine, hServes.cut hFaults And.left, hFaults⟩

/-- Entering a state does nothing on the device. -/
theorem runs_enter (state : FrameState) (m : Synchronizer) :
    Runs (enter state) m { m with state } (fun _ => True) kept := by
  intro w
  rw [enter, ensures_change]
  exact ⟨rfl, .refl w⟩

/-- A condition may be put in other words. -/
theorem Runs.congr {α : Type} {op : Op (Synchronizer × Scene) α} {m m' : Synchronizer}
    {P Q : Scene → Prop} (h : Runs op m m' P kept) (hPQ : ∀ w, P w ↔ Q w) : Runs op m m' Q kept := by
  intro w
  exact (h w).mono (fun _ _ ⟨hMachine, hServes⟩ => ⟨hMachine, hServes.congr (hPQ w)⟩) fun _ _
    ⟨hMachine, hServes, hFaults⟩ => ⟨hMachine, hServes.congr (hPQ w), hFaults⟩

/-- The draw buffer has to be finishable. -/
theorem runs_finishDraw (f : Frame) (m : Synchronizer) (hKept : ¬ kept f.buffer.handle) :
    Runs (finishDraw f) m { m with state := .submitted }
      (fun w => Finishable w.gpu.history f.buffer.handle) kept := by
  have hSubmit := (runs_orLose (ensures_submitDraw kept f.buffer hKept m.presentComplete
    m.renderComplete) m).bind rfl (fun _ => Iff.rfl) fun _ => runs_enter .submitted m
  intro w
  rw [finishDraw, ensures_bind, ensures_get]
  exact hSubmit.congr (fun _ => iff_of_eq (and_true _)) w

/-- The image has to be there before it is presented. -/
theorem runs_finishPre (f : Frame) (m : Synchronizer)
    (hKept : ¬ kept m.recorder.prePresent.handle) :
    Runs (finishPre f) m m (ImageThere f.imageIndex) kept := by
  intro w
  rw [finishPre, ensures_bind, ensures_get]
  exact runs_orLose (ensures_submitBarrier kept _ hKept f.imageIndex .prePresent) m w

/-- The image has to be there after it is presented. -/
theorem runs_finishPost (f : Frame) (m : Synchronizer)
    (hKept : ¬ kept m.recorder.postPresent.handle) :
    Runs (finishPost f) m { m with state := .postBarrier } (ImageThere f.imageIndex) kept := by
  -- the barrier is submitted, and then the queue is waited for
  have hBarrier : ∀ w : Scene, (do
      submitBarrier m.recorder.postPresent f.imageIndex .postPresent
      FrameDevice.waitQueue : Op Scene Unit).Ensures w
        (fun _ w' => Scene.Serves (ImageThere f.imageIndex w) kept w w')
        (fun _ w' => Scene.Serves (ImageThere f.imageIndex w) kept w w' ∧ w.gpu.faults ≠ []) := by
    intro w
    rw [ensures_bind]
    refine (ensures_submitBarrier kept _ hKept f.imageIndex .postPresent w).mono ?_ (fun _ _ h => h)
    intro _ w₁ hServes
    refine (Scene.ensures_waitQueue kept w₁).mono ?_ ?_
    · exact fun _ w₂ hWaited => (hServes.trans hWaited).congr (iff_of_eq (and_true _))
    · exact fun _ w₂ ⟨hWaited, hFaults⟩ =>
        ⟨(hServes.trans hWaited).congr (iff_of_eq (and_true _)), hServes.faults ▸ hFaults⟩
  have hPost := (runs_orLose hBarrier m).bind rfl (fun _ => Iff.rfl)
    fun _ => runs_enter .postBarrier m
  intro w
  rw [finishPost, ensures_bind, ensures_get]
  exact hPost.congr (fun _ => iff_of_eq (and_true _)) w

/-- What a frame does before its image is presented. -/
theorem runs_approach (f : Frame) (m : Synchronizer) (hDraw : ¬ kept f.buffer.handle)
    (hPre : ¬ kept m.recorder.prePresent.handle) :
    Runs (do finishDraw f; finishPre f) m { m with state := .submitted } (EndsWell f) kept := by
  refine ((runs_finishDraw f m hDraw).bind rfl imageThere_iff
    fun _ => runs_finishPre f { m with state := .submitted } hPre).congr fun w => ?_
  exact ⟨fun ⟨hFinishable, hImage⟩ => ⟨hFinishable, hImage⟩,
    fun ⟨hFinishable, hImage⟩ => ⟨hFinishable, hImage⟩⟩

/-- What a frame does after its image was presented. -/
theorem runs_departure (f : Frame) (m : Synchronizer)
    (hPost : ¬ kept m.recorder.postPresent.handle) :
    Runs (do enter .presenting; finishPost f; enter .idle) m { m with state := .idle }
      (ImageThere f.imageIndex) kept := by
  have hIdle := ((runs_finishPost f { m with state := .presenting } hPost).bind rfl
    (fun _ => Iff.rfl) fun _ => runs_enter .idle _).congr fun _ => iff_of_eq (and_true _)
  exact ((runs_enter .presenting m).bind rfl imageThere_iff fun _ => hIdle).congr
    fun _ => iff_of_eq (true_and _)

/-- Presenting an image serves the device, also if that loses the machine. -/
theorem ensures_presentImage_scene (kept : Handle → Prop) (index : UInt32) (m : Synchronizer)
    (w : Scene) :
    (presentImage index : Op (Synchronizer × Scene) Bool).Ensures (m, w)
      (fun _ s => s.1 = m ∧ Scene.Serves True kept w s.2)
      (fun _ s => s.1 = { m with state := .lost } ∧ Scene.Serves True kept w s.2) := by
  simp only [presentImage, ensures_bind, ensures_get, ensures_attempt, ensures_onSecond]
  refine (Scene.ensures_present kept index [m.renderComplete] w).mono ?_ ?_
  · intro _ w' hServes
    rw [ensures_pure]
    exact ⟨rfl, hServes⟩
  · intro e w' hServes
    split
    · simp_all
    · rename_i hCause
      cases hCause
      simp only [ensures_bind, ensures_log, ensures_pure]
      exact ⟨rfl, hServes.push _⟩
    · rename_i hError
      cases hError
      exact ensures_lose _ _ _ fun w'' hLogged => ⟨rfl, hServes.logged hLogged⟩

/-- A frame ended, however that went. -/
structure Ended (m : Synchronizer) (f : Frame) (w : Scene) (s : Synchronizer × Scene) : Prop where
  recorder : s.1.recorder = m.recorder
  state : s.1.state = .idle ∨ s.1.state = .lost
  serves : Scene.Serves (EndsWell f w) m.recorder.IsSetup w s.2

/-- Finishing a frame whose buffer is one of frames. -/
theorem ensures_finishFrame_scene (f : Frame) (m : Synchronizer) (w : Scene)
    (hApart : m.recorder.Apart w.gpu.nextHandle) (hDraw : f.buffer ∈ m.recorder.draw) :
    (finishFrame f : Op (Synchronizer × Scene) Unit).Ensures (m, w)
      (fun _ s => Ended m f w s) (fun _ s => Ended m f w s) := by
  have hKept := hApart.apart
  have hFrame := hKept _ (Recorder.mem_frames_of_draw hDraw)
  have hPre := hKept m.recorder.prePresent List.mem_cons_self
  have hPost := hKept m.recorder.postPresent (List.mem_cons_of_mem _ List.mem_cons_self)
  refine ensures_finishFrame_of
    (P := fun s => s.1 = { m with state := .submitted } ∧
      Scene.Serves (EndsWell f w) m.recorder.IsSetup w s.2)
    (Q := fun _ s => s.1 = { m with state := .submitted } ∧
      Scene.Serves (EndsWell f w) m.recorder.IsSetup w s.2)
    (R := fun _ s => s.1 = { m with state := .idle } ∧
      Scene.Serves (EndsWell f w) m.recorder.IsSetup w s.2) ?_ ?_ ?_ ?_ ?_
  · refine (runs_approach f m hFrame hPre w).mono (fun _ _ h => h) ?_
    rintro e ⟨m₁, w₁⟩ ⟨rfl, hServes, -⟩
    exact ⟨rfl, .inr rfl, hServes⟩
  · rintro ⟨m₁, w₁⟩ ⟨rfl, hApproach⟩
    refine (ensures_presentImage_scene m.recorder.IsSetup f.imageIndex _ w₁).mono ?_ ?_
    · rintro presented s ⟨hMachine, hPresented⟩
      exact ⟨hMachine, (hApproach.trans hPresented).congr (iff_of_eq (and_true _))⟩
    · rintro e ⟨m₂, w₂⟩ ⟨rfl, hPresented⟩
      exact ⟨rfl, .inr rfl, (hApproach.trans hPresented).congr (iff_of_eq (and_true _))⟩
  · rintro presented ⟨m₂, w₂⟩ ⟨rfl, hShown⟩
    dsimp only at hShown
    -- the image is still there, as nothing so far destroys one
    have hWhole : ∀ {w₃}, Scene.Serves (ImageThere f.imageIndex w₂) m.recorder.IsSetup w₂ w₃ →
        Scene.Serves (EndsWell f w) m.recorder.IsSetup w w₃ := by
      intro w₃ hServes
      refine (hShown.trans hServes).congr ⟨And.left, fun hWell => ⟨hWell, ?_⟩⟩
      exact (imageThere_iff hShown).mpr hWell.image
    refine (runs_departure f _ hPost w₂).mono ?_ ?_
    · exact fun _ s ⟨hMachine, hServes⟩ => ⟨hMachine, hWhole hServes⟩
    · rintro e ⟨m₃, w₃⟩ ⟨rfl, hServes, -⟩
      exact ⟨rfl, .inr rfl, hWhole hServes⟩
  · rintro ⟨m₃, w₃⟩ frames ⟨rfl, hServes⟩ -
    exact ⟨rfl, .inl rfl, hServes⟩
  · rintro ⟨m₃, w₃⟩ ⟨rfl, hServes⟩
    exact ⟨rfl, .inl rfl, hServes⟩

/-- The end of a frame whose buffer is one of frames. -/
theorem ensures_endFrame_scene (f : Frame) (m : Synchronizer) (w : Scene)
    (hRecording : m.state = .recording) (hImage : f.imageIndex = w.1.current)
    (hApart : m.recorder.Apart w.gpu.nextHandle) (hDraw : f.buffer ∈ m.recorder.draw) :
    (endFrame f : Op (Synchronizer × Scene) Unit).Ensures (m, w)
      (fun _ s => Ended m f w s) (fun _ s => Ended m f w s) := by
  refine ensures_endFrame_of ?_ ?_ fun _ _ => ensures_finishFrame_scene f m w hApart hDraw
  · intro _ hRefusal
    exact absurd hRecording (ne_of_refused (by decide) hRefusal)
  · intro _ hOther
    exact absurd hImage hOther

end Synchronizer

end RenderLoop
