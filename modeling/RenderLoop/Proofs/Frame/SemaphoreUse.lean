import RenderLoop.Proofs.Frame.Session

/-!
# RenderLoop — the two semaphores of the frame machine

The machine keeps the discipline of binary semaphores (`SemaphoreRule`) with its
two, whatever the device and the chain do, and neither is signalled while it is idle
(`semaphoreRule_of_reachable`).

The invariant is `Session.Signals`: between calls no semaphore is signalled while
the machine is idle, and while it is recording the first one is and the second one
is not. Only the two halves of a frame have to do with semaphores; what the
recorder does is calm.
-/

namespace RenderLoop

open DeviceHistory Rehearsal

section Recorder

variable {ready done : Semaphore}

-- ---------------------------------------------------------------------------
-- The recorder is calm
-- ---------------------------------------------------------------------------

namespace Recorder

/-- Freeing some buffers is calm. -/
theorem calm_freedIfAny (bs : List CommandBuffer) (h : DeviceHistory) :
    Calm ready done h (freedIfAny bs h) := by
  rw [freedIfAny]
  split
  · exact .refl _ _ _
  · exact (Calm.refl _ _ _).cons trivial

/-- Freeing all of them is calm. -/
theorem calm_released (r : Recorder) (h : DeviceHistory) : Calm ready done h (r.released h) :=
  ((calm_freedIfAny _ h).trans (calm_freedIfAny _ _)).cons trivial

/-- Allocating buffers is calm. -/
theorem calm_allocated {w w' : Rehearsal} {bs : List CommandBuffer}
    (hAllocated : Allocated w bs w') : Calm ready done w.history w'.history := by
  rw [hAllocated.history]
  exact (Calm.refl _ _ _).cons trivial

/-- Beginning a new buffer is calm. -/
theorem calm_newOutcome {w w' : Rehearsal} {out : Except RenderError CommandBuffer}
    (hOutcome : NewOutcome w out w') : Calm ready done w.history w'.history := by
  cases hOutcome with
  | notAllocated hHistory _ =>
    rw [hHistory]
    exact (Calm.refl _ _ _).cons trivial
  | noBuffer hAllocated hHistory _ =>
    rw [hHistory]
    exact calm_allocated hAllocated
  | notBegun hAllocated hHistory _ =>
    rw [hHistory]
    refine ((calm_allocated hAllocated).cons ?_).cons ?_ <;> trivial
  | begun hAllocated hHistory _ =>
    rw [hHistory]
    exact (calm_allocated hAllocated).cons trivial

/-- Asking for a setup buffer is calm. -/
theorem calm_setupOutcome {r : Recorder} {w : Rehearsal} {out : Except RenderError CommandBuffer}
    {t : Recorder × Rehearsal} (hOutcome : SetupOutcome r w out t) :
    Calm ready done w.history t.2.history := by
  cases hOutcome with
  | present _ => exact .refl _ _ _
  | failed _ hNew => exact calm_newOutcome hNew
  | begun _ hNew => exact calm_newOutcome hNew

/-- Running a setup buffer is calm: it neither waits nor signals. -/
theorem calm_flushPlan (b : CommandBuffer) : ∀ i ∈ flushPlan b, i.Calm := by
  simp only [flushPlan, List.forall_mem_cons]
  exact ⟨calm_finish b, calm_submit b, calm_wait, by simp⟩

/-- A flush of the setup buffer is calm. -/
theorem calm_flushOutcome {r : Recorder} {w : Rehearsal} {out : Except RenderError Unit}
    {t : Recorder × Rehearsal} (hOutcome : FlushOutcome r w out t) :
    Calm ready done w.history t.2.history := by
  cases hOutcome with
  | nothing _ => exact .refl _ _ _
  | @flushed b w' _ hHistory _ =>
    show Calm ready done w.history w'.history
    rw [hHistory]
    exact (calm_after (calm_flushPlan b) _).cons trivial
  | @failed _ b h w' _ hBroken hHistory _ =>
    show Calm ready done w.history w'.history
    rw [hHistory]
    exact (calm_brokenOff (calm_flushPlan b) hBroken).cons trivial

/-- Choosing a draw buffer is calm. -/
theorem calm_drawOutcome {index images : UInt32} {r : Recorder} {w : Rehearsal}
    {out : Except RenderError CommandBuffer} {t : Recorder × Rehearsal}
    (hOutcome : DrawOutcome index images r w out t) : Calm ready done w.history t.2.history := by
  cases hOutcome with
  | @outOfRange _ w' _ hHistory _ =>
    show Calm ready done w.history w'.history
    rw [hHistory]
    exact .refl _ _ _
  -- a reset signals nothing
  | @reset _ w' _ _ hHistory _ | @notReset _ w' _ hHistory _ =>
    show Calm ready done w.history w'.history
    rw [hHistory]
    exact (Calm.refl _ _ _).cons trivial
  -- nor do freeing and allocating
  | renewed hDropped _ hAllocated _ _ =>
    refine Calm.trans ?_ (calm_allocated hAllocated)
    rw [hDropped]
    exact calm_freedIfAny _ _
  | @notAllocated _ w' hHistory _ =>
    show Calm ready done w.history w'.history
    rw [hHistory]
    exact (calm_freedIfAny _ _).cons trivial
  | @miscounted _ _ w₁ w₂ w' hDropped _ hAllocated hHistory _ =>
    show Calm ready done w.history w'.history
    rw [hHistory]
    refine (Calm.trans ?_ (calm_allocated hAllocated)).cons trivial
    rw [hDropped]
    exact calm_freedIfAny _ _

/-- Creating a recorder is calm. -/
theorem calm_recorderOutcome {w w' : Rehearsal} {out : Except RenderError Recorder}
    (hOutcome : RecorderOutcome w out w') : Calm ready done w.history w'.history := by
  cases hOutcome with
  | noSetup hNew => exact calm_newOutcome hNew
  | notAllocated hNew hHistory _ =>
    rw [hHistory]
    refine ((calm_newOutcome hNew).cons ?_).cons ?_ <;> trivial
  | miscounted hNew hAllocated hHistory _ =>
    rw [hHistory]
    refine (((calm_newOutcome hNew).trans (calm_allocated hAllocated)).cons ?_).cons ?_ <;> trivial
  | created hNew hAllocated => exact (calm_newOutcome hNew).trans (calm_allocated hAllocated)

end Recorder

namespace Synchronizer

/-- Opening a draw buffer is calm. -/
theorem calm_openingPlan (b : CommandBuffer) (index : UInt32) (extent : Extent)
    (clears : List ClearValue) : ∀ i ∈ openingPlan b index extent clears, i.Calm := by
  simp only [openingPlan, openingCommands, List.map, List.forall_mem_cons]
  exact ⟨calm_begin b, calm_record b _, calm_record b _, calm_record b _, by simp⟩

/-- The opening of a frame is calm as far as it gets. -/
theorem calm_openingOutcome {index images : UInt32} {extent : Extent} {clears : List ClearValue}
    {r : Recorder} {w : Rehearsal} {out : Except RenderError CommandBuffer}
    {t : Recorder × Rehearsal} (hOutcome : OpeningOutcome index images extent clears r w out t) :
    Calm ready done w.history t.2.history := by
  cases hOutcome with
  | noBuffer hDraw => exact Recorder.calm_drawOutcome hDraw
  | @notBegun _ _ _ w₁ w' hDraw hHistory _ =>
    show Calm ready done w.history w'.history
    rw [hHistory]
    exact (Recorder.calm_drawOutcome hDraw).cons trivial
  | @opened b _ w₁ w' hDraw hHistory _ =>
    show Calm ready done w.history w'.history
    rw [hHistory]
    exact (Recorder.calm_drawOutcome hDraw).trans (calm_after (calm_openingPlan b _ _ _) _)

end Synchronizer

end Recorder

-- ---------------------------------------------------------------------------
-- Frames
-- ---------------------------------------------------------------------------

namespace Synchronizer

/-- What is signalled in each state of the machine. -/
inductive Signals (ready done : Semaphore) (h : DeviceHistory) : FrameState → Prop
  | idle (hReady : ¬ Signalled ready h) (hDone : ¬ Signalled done h) : Signals ready done h .idle
  | recording (hReady : Signalled ready h) (hDone : ¬ Signalled done h) :
    Signals ready done h .recording
  | lost : Signals ready done h .lost

/-- What is true of the semaphores of a machine between any two calls. -/
structure Disciplined (m : Synchronizer) (w : Rehearsal) : Prop where
  obeys : w.history.Obeys (SemaphoreRule m.presentComplete m.renderComplete)
  different : m.presentComplete ≠ m.renderComplete
  signals : Signals m.presentComplete m.renderComplete w.history m.state

variable {m : Synchronizer} {w w' : Rehearsal}

/-- What is calm leaves the signals as they are. -/
theorem Signals.calm {ready done : Semaphore} {h h' : DeviceHistory} {state : FrameState}
    (hSignals : Signals ready done h state) (hCalm : Calm ready done h h') :
    Signals ready done h' state := by
  cases hSignals with
  | idle hReady hDone =>
    exact .idle ((not_congr (hCalm.signalled ready)).mpr hReady)
      ((not_congr (hCalm.signalled done)).mpr hDone)
  | recording hReady hDone =>
    exact .recording ((hCalm.signalled ready).mpr hReady)
      ((not_congr (hCalm.signalled done)).mpr hDone)
  | lost => exact .lost

/-- Neither semaphore is signalled while the machine is idle. -/
theorem Disciplined.idle (hDisciplined : Disciplined m w) (hIdle : m.state = .idle) :
    ¬ Signalled m.presentComplete w.history ∧ ¬ Signalled m.renderComplete w.history := by
  have hSignals := hDisciplined.signals
  rw [hIdle] at hSignals
  cases hSignals with
  | idle hReady hDone => exact ⟨hReady, hDone⟩

/-- The first one is while it is recording, and the second one is not. -/
theorem Disciplined.recording (hDisciplined : Disciplined m w) (hRecording : m.state = .recording) :
    Signalled m.presentComplete w.history ∧ ¬ Signalled m.renderComplete w.history := by
  have hSignals := hDisciplined.signals
  rw [hRecording] at hSignals
  cases hSignals with
  | recording hReady hDone => exact ⟨hReady, hDone⟩

/-- An idle machine may acquire: its first semaphore is not signalled yet. -/
theorem Disciplined.obeys_acquired (hDisciplined : Disciplined m w) (hIdle : m.state = .idle)
    {out : Except RenderError UInt32} (hAcquired : Acquired m w out w') :
    w'.history.Obeys (SemaphoreRule m.presentComplete m.renderComplete) := by
  rw [hAcquired.history]
  exact ⟨(hDisciplined.idle hIdle).1, hDisciplined.obeys⟩

/-- A frame that began has an image that is ready, or will be. -/
theorem Disciplined.began (hDisciplined : Disciplined m w) {extent : Extent} {f : Frame}
    {t : Synchronizer × Rehearsal} (hOutcome : BeginOutcome extent m w (.ok f) t) :
    Disciplined t.1 t.2 := by
  cases hOutcome with
  | @begun index b r w₁ w' hIdle hAcquired hOpening =>
    have hObeys := hDisciplined.obeys_acquired hIdle hAcquired
    have hCalm : Calm m.presentComplete m.renderComplete w₁.history w'.history :=
      calm_openingOutcome hOpening
    refine ⟨hCalm.obeys hObeys, hDisciplined.different, Signals.calm ?_ hCalm⟩
    rw [hAcquired.history]
    refine .recording (.inl rfl) ?_
    -- the acquisition signals the first semaphore, which is not the second
    rintro (hSame | hDone)
    · exact hDisciplined.different hSame
    · exact (hDisciplined.idle hIdle).2 hDone

/-- A frame that did not begin leaves the machine disciplined, or lost. -/
theorem Disciplined.notBegan (hDisciplined : Disciplined m w) {extent : Extent} {e : RenderError}
    {t : Synchronizer × Rehearsal} (hOutcome : BeginOutcome extent m w (.error e) t) :
    Disciplined t.1 t.2 := by
  cases hOutcome with
  | refused _ => exact hDisciplined
  | outOfDate hIdle hAcquired =>
    refine ⟨hDisciplined.obeys_acquired hIdle hAcquired, hDisciplined.different, ?_⟩
    rw [hAcquired.history]
    exact .idle (hDisciplined.idle hIdle).1 (hDisciplined.idle hIdle).2
  -- a failed acquisition signals nothing, and the machine is lost
  | notAcquired hIdle _ hAcquired =>
    exact ⟨hDisciplined.obeys_acquired hIdle hAcquired, hDisciplined.different, .lost⟩
  | @lost _ index r w₁ w₂ w' hIdle hAcquired hOpening hHistory hKept =>
    -- the opening submits nothing, so the acquired semaphore stays signalled on a lost machine
    have hCalm : Calm m.presentComplete m.renderComplete w₁.history w₂.history :=
      calm_openingOutcome hOpening
    refine ⟨?_, hDisciplined.different, .lost⟩
    show w'.history.Obeys _
    rw [hHistory]
    exact hCalm.obeys (hDisciplined.obeys_acquired hIdle hAcquired)

/-- A barrier is submitted without semaphores. -/
theorem calm_barrierPlan (b : CommandBuffer) (index : UInt32) (t : ImageTransition) :
    ∀ i ∈ barrierPlan b index t, i.Calm := by
  simp only [barrierPlan, List.forall_mem_cons]
  exact ⟨calm_begin b, calm_record b _, calm_finish b, calm_submit b, by simp⟩

section FramePlan

variable {h : DeviceHistory}

/-- The draw buffer waits for the image that is ready, and drawing is done afterwards. -/
theorem signals_drawPlan (hDifferent : m.presentComplete ≠ m.renderComplete)
    (hObeys : h.Obeys (SemaphoreRule m.presentComplete m.renderComplete))
    (hReady : Signalled m.presentComplete h) (hDone : ¬ Signalled m.renderComplete h)
    (b : CommandBuffer) :
    ((drawPlan m b).after h).Obeys (SemaphoreRule m.presentComplete m.renderComplete) ∧
      ¬ Signalled m.presentComplete ((drawPlan m b).after h) ∧
      Signalled m.renderComplete ((drawPlan m b).after h) := by
  refine ⟨⟨⟨?_, ?_, fun _ => ⟨h, rfl⟩, ?_⟩, trivial, trivial, hObeys⟩, ?_, .inl (.head _)⟩
  · intro s hs
    rw [List.mem_singleton.mp hs]
    exact hReady
  · intro s hs hSignalled
    rw [List.mem_singleton.mp hs] at hSignalled
    exact absurd hSignalled hDone
  · exact fun hMem => hDifferent (List.mem_singleton.mp hMem).symm
  · rintro (hMem | ⟨hNotWaited, -⟩)
    · exact hDifferent (List.mem_singleton.mp hMem)
    · exact hNotWaited (.head _)

/-- A presentation that reached its queue waited for the drawing to be done. -/
theorem signals_present (hDifferent : m.presentComplete ≠ m.renderComplete)
    (hObeys : h.Obeys (SemaphoreRule m.presentComplete m.renderComplete))
    (hReady : ¬ Signalled m.presentComplete h) (hDone : Signalled m.renderComplete h)
    (index : UInt32) {outcome : Except RenderError Unit} (hOutcome : Presentable outcome) :
    (Plan.after [presentIntent m index outcome] h).Obeys
        (SemaphoreRule m.presentComplete m.renderComplete) ∧
      ¬ Signalled m.presentComplete (Plan.after [presentIntent m index outcome] h) ∧
      ¬ Signalled m.renderComplete (Plan.after [presentIntent m index outcome] h) := by
  refine ⟨⟨⟨?_, ?_⟩, hObeys⟩, fun hSignalled => hReady hSignalled.2,
    fun hSignalled => hSignalled.1 hOutcome (.head _)⟩
  · intro s hs
    rw [List.mem_singleton.mp hs]
    exact hDone
  · exact fun hMem => hDifferent (List.mem_singleton.mp hMem)

/-- All of the end of a frame is disciplined, and leaves neither semaphore signalled. -/
theorem signals_framePlan (hDifferent : m.presentComplete ≠ m.renderComplete)
    (hObeys : h.Obeys (SemaphoreRule m.presentComplete m.renderComplete))
    (hReady : Signalled m.presentComplete h) (hDone : ¬ Signalled m.renderComplete h) (f : Frame)
    {outcome : Except RenderError Unit} (hOutcome : Presentable outcome) :
    ((framePlan m f outcome).after h).Obeys (SemaphoreRule m.presentComplete m.renderComplete) ∧
      ¬ Signalled m.presentComplete ((framePlan m f outcome).after h) ∧
      ¬ Signalled m.renderComplete ((framePlan m f outcome).after h) := by
  have hPre : ∀ h, Calm m.presentComplete m.renderComplete h
      ((barrierPlan m.recorder.prePresent f.imageIndex .prePresent).after h) :=
    calm_after (calm_barrierPlan _ _ _)
  have hPost : ∀ h, Calm m.presentComplete m.renderComplete h
      (Plan.after [.wait] ((barrierPlan m.recorder.postPresent f.imageIndex .postPresent).after h)) :=
    fun h => (calm_after (calm_barrierPlan _ _ _) h).trans
      (calm_after (List.forall_mem_singleton.mpr calm_wait) _)
  -- drawn, with the second semaphore signalled; then presented, which waits for it
  obtain ⟨hObeys₁, hReady₁, hDone₁⟩ := signals_drawPlan hDifferent hObeys hReady hDone f.buffer
  have hCalm := hPre ((drawPlan m f.buffer).after h)
  obtain ⟨hObeys₂, hReady₂, hDone₂⟩ := signals_present hDifferent (hCalm.obeys hObeys₁)
    ((not_congr (hCalm.signalled _)).mpr hReady₁) ((hCalm.signalled _).mpr hDone₁)
    f.imageIndex hOutcome
  rw [framePlan]
  simp only [Plan.after_append]
  exact ⟨(hPost _).obeys hObeys₂, (not_congr ((hPost _).signalled _)).mpr hReady₂,
    (not_congr ((hPost _).signalled _)).mpr hDone₂⟩

/-- A failure at the end of a frame is as good as what was planned in its place. -/
theorem excusable_framePlan_semaphores (f : Frame) (outcome : Except RenderError Unit) :
    ∀ i ∈ framePlan m f outcome,
      i.Excusable (SemaphoreRule m.presentComplete m.renderComplete) := by
  refine forall_mem_framePlan (fun b _ => ?_) (fun b _ c => fun _ hFails => hFails.elim)
    (fun b _ => ?_) (fun b _ waits signals => ?_) (fun index out => ?_) ?_ outcome
  · rintro - rfl h -
    trivial
  · rintro - rfl h -
    trivial
  · rintro - (rfl | rfl) h - <;> trivial
  · rintro - ⟨cause, -, rfl⟩ h hRule
    exact hRule
  · rintro - (rfl | rfl) h - <;> trivial

end FramePlan

/-- However a frame ends, each of its steps was allowed; and unless it is lost neither semaphore is
signalled. -/
theorem Disciplined.ended (hDisciplined : Disciplined m w) {f : Frame}
    {out : Except RenderError Unit} {t : Synchronizer × Rehearsal}
    (hOutcome : EndOutcome f m w out t) : Disciplined t.1 t.2 := by
  have hPlan : m.state = .recording → ∀ outcome, Presentable outcome → _ :=
    fun hRecording outcome => signals_framePlan hDisciplined.different hDisciplined.obeys
      (hDisciplined.recording hRecording).1 (hDisciplined.recording hRecording).2 f
  cases hOutcome with
  | refused _ => exact hDisciplined
  | otherImage _ _ _ => exact hDisciplined
  | @lost _ outcome w' hRecording _ hOutcome hBroken _ =>
    -- the plan broke off, so that what happened is part of what is allowed
    have hObeys := (hPlan hRecording outcome hOutcome).1
    exact ⟨Plan.obeys_of_brokenOff hBroken (excusable_framePlan_semaphores f outcome) hObeys,
      hDisciplined.different, .lost⟩
  | @outOfDate w' hRecording _ hHistory _ =>
    obtain ⟨hObeys, hReady, hDone⟩ := hPlan hRecording _ (.inr rfl)
    rw [← hHistory] at hObeys hReady hDone
    exact ⟨hObeys, hDisciplined.different, .idle hReady hDone⟩
  | @finished frames w' hRecording _ _ hHistory _ =>
    obtain ⟨hObeys, hReady, hDone⟩ := hPlan hRecording _ (.inl rfl)
    rw [← hHistory] at hObeys hReady hDone
    exact ⟨hObeys, hDisciplined.different, .idle hReady hDone⟩

/-- What the recorder does leaves the semaphores as they are. -/
theorem Disciplined.calm (hDisciplined : Disciplined m w)
    (hCalm : Calm m.presentComplete m.renderComplete w.history w'.history) :
    Disciplined m w' where
  obeys := hCalm.obeys hDisciplined.obeys
  different := hDisciplined.different
  signals := hDisciplined.signals.calm hCalm

/-- Destruction does nothing to signals. -/
theorem Disciplined.gone (hDisciplined : Disciplined m w) :
    Disciplined (destroy (m, w)).1 (destroy (m, w)).2 := by
  cases hDestroyed : m.destroyed with
  | true =>
    rw [destroy_of_destroyed (m, w) hDestroyed]
    exact hDisciplined
  | false =>
    -- the recorder may have been destroyed already, when the machine could not be finished
    have hRecorder : Calm m.presentComplete m.renderComplete w.history
        (Recorder.destroy (m.recorder, w)).2.history := by
      cases hAlive : m.recorder.destroyed with
      | true =>
        rw [Recorder.destroy_of_destroyed _ hAlive]
        exact .refl _ _ _
      | false =>
        rw [(Recorder.destroy_of_alive m.recorder w hAlive).2.1]
        exact Recorder.calm_released _ _
    rw [destroy, if_neg (by rw [hDestroyed]; exact Bool.false_ne_true)]
    refine ⟨Calm.obeys ?_ hDisciplined.obeys, hDisciplined.different, .lost⟩
    refine (hRecorder.cons ?_).cons ?_ <;> trivial

/-- The semaphores of a new machine are different, and nothing has signalled them. -/
theorem disciplined_of_created {clearColor : Color} (hNew : w.history = [])
    (hOutcome : CreateOutcome clearColor w (.ok m) w') : Disciplined m w' := by
  cases hOutcome with
  | @created r s s' w₁ w₂ _ hRecorder hFirst hSecond =>
    have hCalm : Calm s s' w.history w₁.history := Recorder.calm_recorderOutcome hRecorder
    rw [hNew] at hCalm
    have hUnsignalled : ∀ s'', ¬ Signalled s'' w'.history := by
      intro s''
      rw [hSecond.history, hFirst.history]
      exact fun hSignalled => (hCalm.signalled s'').mp hSignalled.2.2
    refine ⟨?_, ?_, .idle (hUnsignalled s) (hUnsignalled s')⟩
    · rw [hSecond.history, hFirst.history]
      exact ⟨trivial, trivial, hCalm.obeys trivial⟩
    · show s ≠ s'
      -- the handle of the second semaphore is the next one after that of the first
      rintro rfl
      have hHandles := hSecond.handle
      rw [hFirst.handle, hFirst.nextHandle] at hHandles
      exact Nat.succ_ne_self _ hHandles.symm

end Synchronizer

-- ---------------------------------------------------------------------------
-- Sessions
-- ---------------------------------------------------------------------------

namespace Session

open Synchronizer

variable {s t : Session}

/-- One call keeps the semaphores of a machine disciplined. -/
theorem disciplined_of_call (hDisciplined : Disciplined s.machine s.world) {c : Call}
    (hCall : s.call c = some t) : Disciplined t.machine t.world := by
  cases callOutcome_of_call hCall with
  | began hOutcome => exact hDisciplined.began hOutcome
  | notBegan hOutcome => exact hDisciplined.notBegan hOutcome
  | ended hOutcome => exact hDisciplined.ended hOutcome
  | setup hOutcome =>
    have hCalm := hDisciplined.calm (Recorder.calm_setupOutcome hOutcome)
    exact ⟨hCalm.obeys, hCalm.different, hCalm.signals⟩
  | flushed hOutcome =>
    have hCalm := hDisciplined.calm (Recorder.calm_flushOutcome hOutcome)
    exact ⟨hCalm.obeys, hCalm.different, hCalm.signals⟩
  | destroyed => exact hDisciplined.gone
  | followed => exact ⟨hDisciplined.obeys, hDisciplined.different, hDisciplined.signals⟩

/-- The machine is disciplined after any calls. -/
theorem disciplined_of_reachable {allowed : Session → Call → Prop}
    (hReachable : Reachable allowed s) : Disciplined s.machine s.world := by
  induction hReachable with
  | created hNew hRun => exact disciplined_of_created hNew ((ensures_create _ _).of_ok hRun)
  | call c _ _ hCall ih => exact disciplined_of_call ih hCall

/-- **The semaphores are disciplined.** Whatever calls are made and whatever fails: no semaphore
is signalled while it is signalled, none is waited for while it is not, only draw submissions wait
for the first and only presentations for the second, and neither is signalled while the machine
is idle. -/
theorem semaphoreRule_of_reachable {allowed : Session → Call → Prop}
    (hReachable : Reachable allowed s) :
    s.world.history.Obeys
        (SemaphoreRule s.machine.presentComplete s.machine.renderComplete) ∧
      (s.machine.state = .idle → ¬ Signalled s.machine.presentComplete s.world.history ∧
        ¬ Signalled s.machine.renderComplete s.world.history) := by
  have hDisciplined := disciplined_of_reachable hReachable
  exact ⟨hDisciplined.obeys, hDisciplined.idle⟩

/-- A machine that presents one image and finds the chain out of date with the next. -/
theorem semaphoreRule_of_two_frames :
    let w : Rehearsal := { chain :=
      { images := 2, extent := ⟨640, 480⟩
        presentScript := [.ok (), .error .swapchainOutOfDate] } }
    ∃ s, Reachable Faithful s ∧ w.history = [] ∧ s.machine.state = .idle ∧
      s.machine.framesCompleted = 1 ∧ s.world.history.length = 43 ∧
      s.world.history.Obeys
        (SemaphoreRule s.machine.presentComplete s.machine.renderComplete) ∧
      ¬ Signalled s.machine.presentComplete s.world.history ∧
      ¬ Signalled s.machine.renderComplete s.world.history := by
  intro w
  -- one full frame, and one whose presentation finds the chain out of date
  have hSteps : ∃ m w' s₁ s₂ s₃ s₄, Op.start (create default) w = some (.ok m, w') ∧
      Session.call ⟨m, w', none⟩ (.beginFrame ⟨640, 480⟩) = some s₁ ∧
      s₁.frame = some ⟨0, ⟨6⟩, ⟨640, 480⟩⟩ ∧
      s₁.call (.endFrame ⟨0, ⟨6⟩, ⟨640, 480⟩⟩) = some s₂ ∧
      s₂.call (.beginFrame ⟨640, 480⟩) = some s₃ ∧
      s₃.frame = some ⟨1, ⟨7⟩, ⟨640, 480⟩⟩ ∧
      s₃.call (.endFrame ⟨1, ⟨7⟩, ⟨640, 480⟩⟩) = some s₄ ∧
      s₄.machine.state = .idle ∧ s₄.machine.framesCompleted = 1 ∧
      s₄.world.history.length = 43 :=
    ⟨_, _, _, _, _, _, rfl, rfl, rfl, rfl, rfl, rfl, rfl, rfl, rfl, rfl⟩
  obtain ⟨m, w', s₁, s₂, s₃, s₄, hRun, hBegin, hFrame, hEnd, hBegin', hFrame', hEnd', hIdle,
    hCount, hLength⟩ := hSteps
  have hReachable : Reachable Faithful s₄ :=
    ((((Reachable.created rfl hRun).call (.beginFrame ⟨640, 480⟩) trivial hBegin).call
      (.endFrame _) hFrame hEnd).call (.beginFrame ⟨640, 480⟩) trivial hBegin').call
      (.endFrame _) hFrame' hEnd'
  have hRule := semaphoreRule_of_reachable hReachable
  exact ⟨s₄, hReachable, rfl, hIdle, hCount, hLength, hRule.1, hRule.2 hIdle⟩

end Session

end RenderLoop
