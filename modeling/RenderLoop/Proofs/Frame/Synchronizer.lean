import RenderLoop.Proofs.Frame.Machine
import RenderLoop.Proofs.Frame.Recorder
import RenderLoop.Proofs.Rehearsal.SemaphoreRule

/-!
# RenderLoop — what the frame machine does in a rehearsal

For the beginning and the end of a frame, all ways they can end
(`BeginOutcome`, `EndOutcome`). What the end of a frame makes the device do is one
plan, from the last command of the draw buffer to the wait for the device
(`framePlan`); a frame that is lost is one whose plan broke off.
-/

namespace RenderLoop

open Rehearsal

namespace Synchronizer

/-- The history does not show what was logged. -/
theorem kept_of_logged {w w' : Rehearsal} (hLogged : Logged w w') :
    w'.history = w.history ∧ Kept w w' := by
  refine hLogged.keeps (P := fun t => t.history = w.history ∧ Kept w t) ?_ ⟨rfl, Kept.refl w⟩
  rintro e t ⟨hHistory, hKept⟩
  exact ⟨hHistory, hKept.trans (kept_push e t)⟩

-- ---------------------------------------------------------------------------
-- The beginning of a frame
-- ---------------------------------------------------------------------------

/-- What is planned at the start of a draw buffer. -/
def openingPlan (b : CommandBuffer) (index : UInt32) (extent : Extent) (clears : List ClearValue) :
    Plan :=
  .begin b :: (openingCommands index extent clears).map (Intent.record b)

/-- Recording commands is one event for each of them. -/
theorem history_recordAll (b : CommandBuffer) (cs : List Command) (w : Rehearsal) :
    (FrameDevice.recordAll b cs w).history = Plan.after (cs.map (Intent.record b)) w.history ∧
      Kept w (FrameDevice.recordAll b cs w) := by
  induction cs generalizing w with
  | nil => exact ⟨rfl, Kept.refl w⟩
  | cons c rest ih =>
    obtain ⟨hHistory, hKept⟩ := ih (FrameDevice.record b c w)
    exact ⟨hHistory, (kept_happen _ w).trans hKept⟩

/-- The ways in which opening the draw buffer of an image ends. The recorder may have changed also
when it fails. -/
inductive OpeningOutcome (index images : UInt32) (extent : Extent) (clears : List ClearValue)
    (r : Recorder) (w : Rehearsal) : Except RenderError CommandBuffer → Recorder × Rehearsal → Prop
  | noBuffer {e : RenderError} {s : Recorder × Rehearsal}
    (hDraw : Recorder.DrawOutcome index images r w (.error e) s) :
    OpeningOutcome index images extent clears r w (.error e) s
  | notBegun {e : RenderError} {b : CommandBuffer} {r' : Recorder} {w₁ w' : Rehearsal}
    (hDraw : Recorder.DrawOutcome index images r w (.ok b) (r', w₁))
    (hHistory : w'.history = .refused .beginBuffer :: w₁.history) (hKept : Kept w₁ w') :
    OpeningOutcome index images extent clears r w (.error e) (r', w')
  | opened {b : CommandBuffer} {r' : Recorder} {w₁ w' : Rehearsal}
    (hDraw : Recorder.DrawOutcome index images r w (.ok b) (r', w₁))
    (hHistory : w'.history = (openingPlan b index extent clears).after w₁.history)
    (hKept : Kept w₁ w') : OpeningOutcome index images extent clears r w (.ok b) (r', w')

/-- Opening the draw buffer of an image ends in one of its ways, and changes the recorder alone. -/
theorem ensures_recordOpening (index images : UInt32) (extent : Extent) (m : Synchronizer)
    (w : Rehearsal) :
    (recordOpening index images extent : Op (Synchronizer × Rehearsal) CommandBuffer).Ensures (m, w)
      (fun b s => s.1 = { m with recorder := s.1.recorder } ∧
        OpeningOutcome index images extent m.clearValues m.recorder w (.ok b) (s.1.recorder, s.2))
      (fun e s => s.1 = { m with recorder := s.1.recorder } ∧
        OpeningOutcome index images extent m.clearValues m.recorder w (.error e)
          (s.1.recorder, s.2)) := by
  simp only [recordOpening, onRecorder, Op.ensures_bind, Op.ensures_on, Op.ensures_onSecond,
    Op.ensures_change, Op.ensures_pure]
  refine (Recorder.ensures_drawBuffer index images m.recorder w).mono ?_ ?_
  · rintro b ⟨r, w₁⟩ hDraw
    refine (carriesOut_beginBuffer b w₁).mono ?_ ?_
    · rintro - w₂ ⟨hBegun, hKept⟩
      obtain ⟨hRecorded, hKept'⟩ :=
        history_recordAll b (openingCommands index extent m.clearValues) w₂
      refine ⟨trivial, .opened hDraw ?_ (hKept.trans hKept')⟩
      rw [openingPlan, Plan.after]
      rw [hBegun] at hRecorded
      exact hRecorded
    · rintro e w' ⟨hBroken, hKept⟩
      -- beginning the buffer is the only step of the opening that can fail
      obtain ⟨-, rfl, hHistory⟩ := hBroken.of_single
      exact ⟨trivial, .notBegun hDraw hHistory hKept⟩
  · rintro e ⟨r, w'⟩ hDraw
    exact ⟨trivial, .noBuffer hDraw⟩

/-- A chain handed out an image, or did not. -/
structure Acquired (m : Synchronizer) (w : Rehearsal) (outcome : Except RenderError UInt32)
    (w' : Rehearsal) : Prop where
  history : w'.history = .acquired m.presentComplete outcome :: w.history
  nextHandle : w'.nextHandle = w.nextHandle
  images : w'.chain.images = w.chain.images
  current : w'.chain.current = outcome.toOption.getD w.chain.current

/-- The ways in which the beginning of a frame ends. -/
inductive BeginOutcome (extent : Extent) (m : Synchronizer) (w : Rehearsal) :
    Except RenderError Frame → Synchronizer × Rehearsal → Prop
  | refused {e : RenderError} (hRefusal : m.refusal? .idle "begin frame" = some e) :
    BeginOutcome extent m w (.error e) (m, w)
  | outOfDate {w' : Rehearsal} (hIdle : m.state = .idle)
    (hAcquired : Acquired m w (.error .swapchainOutOfDate) w') :
    BeginOutcome extent m w (.error .swapchainOutOfDate) ({ m with state := .idle }, w')
  | notAcquired {e : RenderError} {w' : Rehearsal} (hIdle : m.state = .idle)
    (hCause : e ≠ .swapchainOutOfDate) (hAcquired : Acquired m w (.error e) w') :
    BeginOutcome extent m w (.error e) ({ m with state := .lost }, w')
  | lost {e : RenderError} {index : UInt32} {r : Recorder} {w₁ w₂ w' : Rehearsal}
    (hIdle : m.state = .idle) (hAcquired : Acquired m w (.ok index) w₁)
    (hOpening : OpeningOutcome index w.chain.images extent m.clearValues m.recorder w₁ (.error e)
      (r, w₂))
    (hHistory : w'.history = w₂.history) (hKept : Kept w₂ w') :
    BeginOutcome extent m w (.error e) ({ m with recorder := r, state := .lost }, w')
  | begun {index : UInt32} {b : CommandBuffer} {r : Recorder} {w₁ w' : Rehearsal}
    (hIdle : m.state = .idle) (hAcquired : Acquired m w (.ok index) w₁)
    (hOpening : OpeningOutcome index w.chain.images extent m.clearValues m.recorder w₁ (.ok b)
      (r, w')) :
    BeginOutcome extent m w (.ok ⟨index, b, extent⟩)
      ({ m with recorder := r, state := .recording }, w')

/-- An acquisition is recorded with its outcome. -/
theorem ensures_acquire (m : Synchronizer) (w : Rehearsal) :
    (FrameWorld.acquire m.presentComplete : Op Rehearsal UInt32).Ensures w
      (fun index w' => Acquired m w (.ok index) w') (fun e w' => Acquired m w (.error e) w') := by
  show (acquire m.presentComplete).Ensures w _ _
  simp only [acquire, note, Op.ensures_bind, Op.ensures_get, Op.ensures_ofOption,
    Op.ensures_change, Op.ensures_ofExcept]
  rintro ⟨outcome, c⟩ hNext
  -- handing out the next image changes neither the number of images nor, yet, the current one
  have hChain : c.images = w.chain.images ∧ c.current = w.chain.current := by
    rw [nextImage] at hNext
    split at hNext
    · cases hNext
      exact ⟨rfl, rfl⟩
    · split at hNext
      · cases hNext
      · cases hNext
        exact ⟨rfl, rfl⟩
  cases outcome with
  | ok index => exact ⟨rfl, rfl, hChain.1, rfl⟩
  | error e => exact ⟨rfl, rfl, hChain.1, hChain.2⟩

/-- The log is no part of it. -/
theorem Acquired.push {m : Synchronizer} {w w' : Rehearsal} {outcome : Except RenderError UInt32}
    (h : Acquired m w outcome w') (e : LogEntry) : Acquired m w outcome (Logging.push e w') where
  history := h.history
  nextHandle := h.nextHandle
  images := h.images
  current := h.current

/-- What keeps the history and the chain leaves an acquisition as it was. -/
theorem Acquired.keep {m : Synchronizer} {w w₁ w' : Rehearsal} {outcome : Except RenderError UInt32}
    (h : Acquired m w outcome w₁) (hHistory : w'.history = w₁.history) (hKept : Kept w₁ w') :
    Acquired m w outcome w' where
  history := hHistory.trans h.history
  nextHandle := hKept.nextHandle.trans h.nextHandle
  images := hKept.images.trans h.images
  current := hKept.current.trans h.current

/-- An acquisition for a frame hands out an image, or ends the beginning of the frame. -/
theorem ensures_acquireImage (m : Synchronizer) (w : Rehearsal) (hIdle : m.state = .idle) :
    (acquireImage : Op (Synchronizer × Rehearsal) UInt32).Ensures (m, w)
      (fun index s => s.1 = { m with state := .acquiring } ∧ Acquired m w (.ok index) s.2)
      (fun e s => ∀ extent, BeginOutcome extent m w (.error e) s) := by
  simp only [acquireImage, enter, Op.ensures_bind, Op.ensures_change, Op.ensures_get,
    Op.ensures_attempt, Op.ensures_onSecond]
  refine (ensures_acquire m w).mono ?_ ?_
  · intro index w' hAcquired
    simp only [Op.ensures_log, Op.ensures_pure]
    exact ⟨rfl, hAcquired.push _⟩
  · intro e w₁ hAcquired
    split
    · simp_all
    · -- out of date, which leaves the machine idle
      rename_i hCause
      cases hCause
      simp only [Op.ensures_bind, Op.ensures_change, Op.ensures_failWith]
      exact fun extent => .outOfDate hIdle (hAcquired.push _)
    · rename_i hCause hError
      cases hError
      refine ensures_lose _ _ _ ?_
      intro w' hLogged extent
      obtain ⟨hHistory, hKept⟩ := kept_of_logged hLogged
      exact .notAcquired hIdle hCause (hAcquired.keep hHistory hKept)

/-- The beginning of a frame ends in one of its ways. -/
theorem ensures_beginFrame (extent : Extent) (m : Synchronizer) (w : Rehearsal) :
    (beginFrame extent : Op (Synchronizer × Rehearsal) Frame).Ensures (m, w)
      (fun f s => BeginOutcome extent m w (.ok f) s)
      (fun e s => BeginOutcome extent m w (.error e) s) := by
  rw [beginFrame, Op.ensures_bind]
  refine ensures_expect _ _ m w ?_ (fun e hRefusal => .refused hRefusal)
  intro hIdle
  rw [Op.ensures_bind]
  refine (ensures_acquireImage m w hIdle).mono ?_ (fun e s hOutcome => hOutcome extent)
  rintro index ⟨m₁, w₁⟩ ⟨hMachine, hAcquired⟩
  dsimp only at hMachine hAcquired
  subst hMachine
  simp only [Op.ensures_bind, Op.ensures_get]
  -- the acquisition does not change the number of images
  have hImages : FrameWorld.imageCount w₁ = w.chain.images := hAcquired.images
  rw [hImages]
  refine ensures_orLose ((ensures_recordOpening index _ extent _ w₁).mono ?_ (fun _ _ h => h)) ?_
  · rintro b ⟨m₂, w'⟩ ⟨hMachine, hOpening⟩
    dsimp only at hMachine hOpening
    rw [hMachine]
    simp only [enter, Op.ensures_change, Op.ensures_pure]
    exact .begun hIdle hAcquired hOpening
  · rintro e m₂ w₂ w' ⟨hMachine, hOpening⟩ hLogged
    obtain ⟨hHistory, hKept⟩ := kept_of_logged hLogged
    dsimp only at hMachine hOpening
    rw [hMachine]
    exact .lost hIdle hAcquired hOpening hHistory hKept

-- ---------------------------------------------------------------------------
-- The end of a frame
-- ---------------------------------------------------------------------------

/-- What is planned for the draw buffer of a frame. -/
def drawPlan (m : Synchronizer) (b : CommandBuffer) : Plan :=
  [.record b .endRenderPass, .finish b,
    .submit b [(m.presentComplete, .bottomOfPipe)] [m.renderComplete]]

/-- What is planned for a buffer that moves an image to another layout. -/
def barrierPlan (b : CommandBuffer) (index : UInt32) (t : ImageTransition) : Plan :=
  [.begin b, .record b (.barrier (.swapchain index) t), .finish b, .submit b [] []]

/-- What is planned for a presentation with an outcome; it fails with any other cause. -/
def presentIntent (m : Synchronizer) (index : UInt32) (outcome : Except RenderError Unit) :
    Intent :=
  ⟨.presented index [m.renderComplete] outcome,
    fun e => ∃ cause, cause ≠ .swapchainOutOfDate ∧
      e = .presented index [m.renderComplete] (.error cause)⟩

/-- What is planned for the end of a frame whose presentation has an outcome. -/
def framePlan (m : Synchronizer) (f : Frame) (outcome : Except RenderError Unit) : Plan :=
  drawPlan m f.buffer ++ barrierPlan m.recorder.prePresent f.imageIndex .prePresent ++
    [presentIntent m f.imageIndex outcome] ++
    barrierPlan m.recorder.postPresent f.imageIndex .postPresent ++ [.wait]

/-- The part of it before the presentation. -/
def approachPlan (m : Synchronizer) (f : Frame) : Plan :=
  drawPlan m f.buffer ++ barrierPlan m.recorder.prePresent f.imageIndex .prePresent

/-- The part of it after the presentation. -/
def departurePlan (m : Synchronizer) (f : Frame) : Plan :=
  barrierPlan m.recorder.postPresent f.imageIndex .postPresent ++ [.wait]

section Parts

variable {m : Synchronizer} {f : Frame} {outcome : Except RenderError Unit}
  {h h' : DeviceHistory}

/-- The plan of a frame is its two parts with the presentation in between. -/
theorem framePlan_eq : framePlan m f outcome =
    approachPlan m f ++ (presentIntent m f.imageIndex outcome :: departurePlan m f) := by
  simp only [framePlan, approachPlan, departurePlan, List.append_assoc, List.cons_append,
    List.nil_append]

/-- After the whole plan come the events of the parts, one after another. -/
theorem after_framePlan : (framePlan m f outcome).after h = (departurePlan m f).after
    (.presented f.imageIndex [m.renderComplete] outcome :: (approachPlan m f).after h) := by
  rw [framePlan_eq, Plan.after_append]
  rfl

/-- What breaks off before the presentation breaks the plan off. -/
theorem brokenOff_of_approach (hBroken : (approachPlan m f).BrokenOff h h') :
    (framePlan m f outcome).BrokenOff h h' := by
  rw [framePlan_eq]
  exact hBroken.append _

/-- A plan breaks off at a presentation with any failure that it may not answer. -/
theorem brokenOff_of_present {cause : RenderError} (hCause : cause ≠ .swapchainOutOfDate) :
    (framePlan m f outcome).BrokenOff h
      (.presented f.imageIndex [m.renderComplete] (.error cause) :: (approachPlan m f).after h) := by
  rw [framePlan_eq]
  exact .prepend _ (.here ⟨cause, hCause, rfl⟩)

/-- What breaks off after the presentation breaks off the whole end of a frame. -/
theorem brokenOff_of_departure (hBroken : (departurePlan m f).BrokenOff
      (.presented f.imageIndex [m.renderComplete] outcome :: (approachPlan m f).after h) h') :
    (framePlan m f outcome).BrokenOff h h' := by
  rw [framePlan_eq]
  exact .prepend _ (.later hBroken)

end Parts

/-- The buffers that a frame is ended with. -/
def frameEnders (m : Synchronizer) (f : Frame) : List CommandBuffer :=
  [f.buffer, m.recorder.prePresent, m.recorder.postPresent]

/-- A property of the steps of a frame: its three buffers are begun, recorded into, finished and
submitted. -/
theorem forall_mem_framePlan {P : Intent → Prop} {m : Synchronizer} {f : Frame}
    (hBegin : ∀ b ∈ m.frameEnders f, P (.begin b))
    (hRecord : ∀ b ∈ m.frameEnders f, ∀ c, P (.record b c))
    (hFinish : ∀ b ∈ m.frameEnders f, P (.finish b))
    (hSubmit : ∀ b ∈ m.frameEnders f, ∀ waits signals, P (.submit b waits signals))
    (hPresent : ∀ index out, P (m.presentIntent index out)) (hWait : P .wait)
    (outcome : Except RenderError Unit) : ∀ i ∈ m.framePlan f outcome, P i := by
  have hDraw : f.buffer ∈ m.frameEnders f := .head _
  have hPre : m.recorder.prePresent ∈ m.frameEnders f := .tail _ (.head _)
  have hPost : m.recorder.postPresent ∈ m.frameEnders f := .tail _ (.tail _ (.head _))
  simp only [framePlan, drawPlan, barrierPlan, List.cons_append, List.nil_append,
    List.forall_mem_cons]
  exact ⟨hRecord _ hDraw _, hFinish _ hDraw, hSubmit _ hDraw _ _,
    hBegin _ hPre, hRecord _ hPre _, hFinish _ hPre, hSubmit _ hPre _ _, hPresent _ _,
    hBegin _ hPost, hRecord _ hPost _, hFinish _ hPost, hSubmit _ hPost _ _, hWait, by simp⟩

/-- Submitting the draw buffer carries its plan out. -/
theorem carriesOut_submitDraw (m : Synchronizer) (b : CommandBuffer) :
    CarriesOut (submitDraw b m.presentComplete m.renderComplete) (drawPlan m b) := by
  refine (carriesOut_record b _).bind fun _ => ?_
  refine (carriesOut_endBuffer b).bind fun _ => ?_
  exact carriesOut_submit b _ _

/-- Submitting a barrier carries out the plan of that barrier. -/
theorem carriesOut_submitBarrier (b : CommandBuffer) (index : UInt32) (t : ImageTransition) :
    CarriesOut (submitBarrier b index t) (barrierPlan b index t) := by
  refine (carriesOut_beginBuffer b).bind fun _ => ?_
  refine (carriesOut_record b _).bind fun _ => ?_
  refine (carriesOut_endBuffer b).bind fun _ => ?_
  exact carriesOut_submit b [] []

/-- A presentation is recorded with its outcome. -/
theorem ensures_present (m : Synchronizer) (index : UInt32) (w : Rehearsal) :
    (FrameWorld.present index [m.renderComplete] : Op Rehearsal Unit).Ensures w
      (fun _ w' => w'.history = .presented index [m.renderComplete] (.ok ()) :: w.history ∧
        Kept w w')
      (fun e w' => w'.history = .presented index [m.renderComplete] (.error e) :: w.history ∧
        Kept w w') := by
  show (present index [m.renderComplete]).Ensures w _ _
  simp only [present, note, Op.ensures_bind, Op.ensures_get, Op.ensures_change,
    Op.ensures_ofExcept]
  cases w.chain.presentScript.headD (.ok ()) with
  | ok a => exact ⟨rfl, rfl, rfl, rfl⟩
  | error e => exact ⟨rfl, rfl, rfl, rfl⟩

/-- The ways in which the end of a frame ends. -/
inductive EndOutcome (f : Frame) (m : Synchronizer) (w : Rehearsal) :
    Except RenderError Unit → Synchronizer × Rehearsal → Prop
  | refused {e : RenderError} (hRefusal : m.refusal? .recording "end frame" = some e) :
    EndOutcome f m w (.error e) (m, w)
  | otherImage {e : RenderError} (hRecording : m.state = .recording)
    (hImage : f.imageIndex ≠ w.chain.current)
    (hCause : e = .invalidFrameState "end frame" (m.otherImageText w.chain.current f.imageIndex)) :
    EndOutcome f m w (.error e) (m, w)
  | lost {e : RenderError} {outcome : Except RenderError Unit} {w' : Rehearsal}
    (hRecording : m.state = .recording) (hImage : f.imageIndex = w.chain.current)
    (hOutcome : Presentable outcome)
    (hBroken : (framePlan m f outcome).BrokenOff w.history w'.history) (hKept : Kept w w') :
    EndOutcome f m w (.error e) ({ m with state := .lost }, w')
  | outOfDate {w' : Rehearsal} (hRecording : m.state = .recording)
    (hImage : f.imageIndex = w.chain.current)
    (hHistory : w'.history = (framePlan m f (.error .swapchainOutOfDate)).after w.history)
    (hKept : Kept w w') :
    EndOutcome f m w (.error .swapchainOutOfDate) ({ m with state := .idle }, w')
  | finished {frames : UInt64} {w' : Rehearsal} (hRecording : m.state = .recording)
    (hImage : f.imageIndex = w.chain.current)
    (hFrames : Checked.add64 m.framesCompleted 1 = some frames)
    (hHistory : w'.history = (framePlan m f (.ok ())).after w.history) (hKept : Kept w w') :
    EndOutcome f m w (.ok ()) ({ m with state := .idle, framesCompleted := frames }, w')

/-- An operation that is part of the end of a frame: it goes on when a part of the plan has been
carried out, and loses the machine when that part breaks off. -/
def Advances {α : Type} (op : Op (Synchronizer × Rehearsal) α) (m m' : Synchronizer) (p : Plan) :
    Prop :=
  ∀ w, op.Ensures (m, w)
    (fun _ s => s.1 = m' ∧ s.2.history = p.after w.history ∧ Kept w s.2)
    (fun _ s => s.1 = { m with state := .lost } ∧ p.BrokenOff w.history s.2.history ∧ Kept w s.2)

/-- What carries out a plan on the device advances the machine by it. -/
theorem advances_orLose {α : Type} {op : Op Rehearsal α} {p : Plan} (hOp : CarriesOut op p)
    (m : Synchronizer) : Advances (orLose op.onSecond) m m p := by
  intro w
  have hSecond : op.onSecond.Ensures (m, w)
      (fun _ s => s.1 = m ∧ s.2.history = p.after w.history ∧ Kept w s.2)
      (fun _ s => s.1 = m ∧ p.BrokenOff w.history s.2.history ∧ Kept w s.2) := by
    rw [Op.ensures_onSecond]
    exact (hOp w).mono (fun _ w' h => ⟨rfl, h⟩) (fun _ w' h => ⟨rfl, h⟩)
  refine ensures_orLose hSecond ?_
  rintro e m' w₁ w' ⟨hMachine, hBroken, hKept⟩ hLogged
  obtain ⟨hHistory, hKept'⟩ := kept_of_logged hLogged
  dsimp only at hMachine hBroken
  rw [hMachine]
  exact ⟨rfl, hHistory ▸ hBroken, hKept.trans hKept'⟩

/-- Parts of the end of a frame follow each other. -/
theorem Advances.bind {α β : Type} {op : Op (Synchronizer × Rehearsal) α}
    {next : α → Op (Synchronizer × Rehearsal) β} {m m' m'' : Synchronizer} {p q : Plan}
    (hOp : Advances op m m' p)
    (hLost : ({ m' with state := .lost } : Synchronizer) = { m with state := .lost })
    (hNext : ∀ a, Advances (next a) m' m'' q) : Advances (op >>= next) m m'' (p ++ q) := by
  intro w
  rw [Op.ensures_bind]
  refine (hOp w).mono ?_ ?_
  · rintro a ⟨m₁, w₁⟩ ⟨hMachine, hHistory, hKept⟩
    dsimp only at hMachine hHistory hKept
    subst hMachine
    -- what follows starts at the history where the first part ended
    refine (hNext a w₁).mono ?_ ?_
    · rintro b ⟨m₂, w₂⟩ ⟨hMachine, hHistory', hKept'⟩
      rw [Plan.after_append, ← hHistory]
      exact ⟨hMachine, hHistory', hKept.trans hKept'⟩
    · rintro e ⟨m₂, w₂⟩ ⟨hMachine, hBroken, hKept'⟩
      rw [hHistory] at hBroken
      exact ⟨hMachine.trans hLost, hBroken.prepend p, hKept.trans hKept'⟩
  · rintro e s ⟨hMachine, hBroken, hKept⟩
    exact ⟨hMachine, hBroken.append q, hKept⟩

/-- A change of state advances by nothing. -/
theorem advances_enter (state : FrameState) (m : Synchronizer) :
    Advances (enter state) m { m with state } [] := by
  intro w
  rw [enter, Op.ensures_change]
  exact ⟨rfl, rfl, Kept.refl w⟩

/-- First the draw buffer is submitted. -/
theorem advances_finishDraw (f : Frame) (m : Synchronizer) :
    Advances (finishDraw f) m { m with state := .submitted } (drawPlan m f.buffer) := by
  intro w
  simp only [finishDraw, enter, Op.ensures_bind, Op.ensures_get, Op.ensures_change]
  refine (advances_orLose (carriesOut_submitDraw m f.buffer) m w).mono ?_ (fun _ _ h => h)
  rintro - ⟨m', w'⟩ ⟨hMachine, hHistory, hKept⟩
  dsimp only at hMachine
  rw [hMachine]
  exact ⟨rfl, hHistory, hKept⟩

/-- Then the image is moved for its presentation. -/
theorem advances_finishPre (f : Frame) (m : Synchronizer) :
    Advances (finishPre f) m m (barrierPlan m.recorder.prePresent f.imageIndex .prePresent) := by
  intro w
  simp only [finishPre, Op.ensures_bind, Op.ensures_get]
  exact advances_orLose (carriesOut_submitBarrier _ _ _) m w

/-- After the presentation the image is moved back, for which the device is waited for. -/
theorem advances_finishPost (f : Frame) (m : Synchronizer) :
    Advances (finishPost f) m { m with state := .postBarrier }
      (barrierPlan m.recorder.postPresent f.imageIndex .postPresent ++ [.wait]) := by
  intro w
  simp only [finishPost, enter, Op.ensures_bind, Op.ensures_get, Op.ensures_change]
  refine (advances_orLose ((carriesOut_submitBarrier _ _ _).bind fun _ =>
    carriesOut_waitQueue) m w).mono ?_ (fun _ _ h => h)
  rintro - ⟨m', w'⟩ ⟨hMachine, hHistory, hKept⟩
  dsimp only at hMachine
  rw [hMachine]
  exact ⟨rfl, hHistory, hKept⟩

/-- What the answer of a presentation says about its outcome. -/
def presentOutcome (presented : Bool) : Except RenderError Unit :=
  if presented then .ok () else .error .swapchainOutOfDate

/-- What a presentation answers is an outcome after which a frame goes on. -/
theorem presentable_presentOutcome (presented : Bool) : Presentable (presentOutcome presented) := by
  cases presented with
  | true => exact .inl rfl
  | false => exact .inr rfl

/-- A presentation answers whether the chain was up to date, or loses the machine. -/
theorem ensures_presentImage (index : UInt32) (m : Synchronizer) (w : Rehearsal) :
    (presentImage index : Op (Synchronizer × Rehearsal) Bool).Ensures (m, w)
      (fun presented s => s.1 = m ∧
        s.2.history = .presented index [m.renderComplete] (presentOutcome presented) :: w.history ∧
        Kept w s.2)
      (fun _ s => s.1 = { m with state := .lost } ∧
        (∃ cause, cause ≠ .swapchainOutOfDate ∧
          s.2.history = .presented index [m.renderComplete] (.error cause) :: w.history) ∧
        Kept w s.2) := by
  simp only [presentImage, Op.ensures_bind, Op.ensures_get, Op.ensures_attempt,
    Op.ensures_onSecond]
  refine (ensures_present m index w).mono ?_ ?_
  · rintro - w' ⟨hHistory, hKept⟩
    rw [Op.ensures_pure]
    exact ⟨rfl, hHistory, hKept⟩
  · rintro e w₁ ⟨hHistory, hKept⟩
    split
    · simp_all
    · -- an outdated chain is logged and is no failure of the frame
      rename_i hCause
      cases hCause
      simp only [Op.ensures_bind, Op.ensures_log, Op.ensures_pure]
      exact ⟨rfl, hHistory, hKept.trans (kept_push _ w₁)⟩
    · rename_i hCause hError
      cases hError
      refine ensures_lose _ _ _ ?_
      intro w' hLogged
      obtain ⟨hHistory', hKept'⟩ := kept_of_logged hLogged
      exact ⟨rfl, ⟨_, hCause, hHistory'.trans hHistory⟩, hKept.trans hKept'⟩

/-- What a frame does before its image is presented. -/
theorem advances_approach (f : Frame) (m : Synchronizer) :
    Advances (do finishDraw f; finishPre f) m { m with state := .submitted } (approachPlan m f) :=
  (advances_finishDraw f m).bind rfl fun _ => advances_finishPre f _

/-- What a frame does after its image was presented. -/
theorem advances_departure (f : Frame) (m : Synchronizer) :
    Advances (do enter .presenting; finishPost f; enter .idle) m { m with state := .idle }
      (departurePlan m f) := by
  have hIdle := (advances_finishPost f { m with state := .presenting }).bind rfl fun _ =>
    advances_enter .idle _
  rw [List.append_nil] at hIdle
  exact (advances_enter .presenting m).bind rfl fun _ => hIdle

/-- The machine and the device in the course of finishing a frame. -/
def Reached (m : Synchronizer) (w : Rehearsal) (state : FrameState) (h : DeviceHistory)
    (s : Synchronizer × Rehearsal) : Prop :=
  s.1 = { m with state } ∧ s.2.history = h ∧ Kept w s.2

/-- Finishing a frame carries its plan out, or loses the machine where the plan breaks off. -/
theorem ensures_finishFrame (f : Frame) (m : Synchronizer) (w : Rehearsal)
    (hRecording : m.state = .recording) (hImage : f.imageIndex = w.chain.current) :
    (finishFrame f : Op (Synchronizer × Rehearsal) Unit).Ensures (m, w)
      (fun a s => EndOutcome f m w (.ok a) s) (fun e s => EndOutcome f m w (.error e) s) := by
  let presented (a : Bool) : DeviceHistory :=
    .presented f.imageIndex [m.renderComplete] (presentOutcome a) ::
      (approachPlan m f).after w.history
  refine ensures_finishFrame_of
    (P := Reached m w .submitted ((approachPlan m f).after w.history))
    (Q := fun a => Reached m w .submitted (presented a))
    (R := fun a => Reached m w .idle ((framePlan m f (presentOutcome a)).after w.history))
    ?_ ?_ ?_ ?_ ?_
  · -- up to the presentation
    refine (advances_approach f m w).mono (fun _ _ h => h) ?_
    rintro e ⟨m₁, w₁⟩ ⟨rfl, hBroken, hKept⟩
    exact .lost hRecording hImage (.inl rfl) (brokenOff_of_approach hBroken) hKept
  · -- the presentation itself
    rintro ⟨m₁, w₁⟩ ⟨rfl, hHistory₁, hKept₁⟩
    dsimp only at hHistory₁ hKept₁
    refine (ensures_presentImage f.imageIndex _ w₁).mono ?_ ?_
    · rintro a s ⟨hMachine, hHistory₂, hKept₂⟩
      rw [hHistory₁] at hHistory₂
      exact ⟨hMachine, hHistory₂, hKept₁.trans hKept₂⟩
    · rintro e ⟨m₂, w₂⟩ ⟨rfl, ⟨cause, hCause, hHistory₂⟩, hKept₂⟩
      dsimp only at hHistory₂
      refine .lost hRecording hImage (.inl rfl) ?_ (hKept₁.trans hKept₂)
      rw [hHistory₂, hHistory₁]
      exact brokenOff_of_present hCause
  · -- after it, whatever it answered
    rintro a ⟨m₂, w₂⟩ ⟨rfl, hHistory₂, hKept₂⟩
    dsimp only at hHistory₂ hKept₂
    refine (advances_departure f _ w₂).mono ?_ ?_
    · rintro - s ⟨hMachine, hHistory₃, hKept₃⟩
      rw [hHistory₂] at hHistory₃
      exact ⟨hMachine, hHistory₃.trans after_framePlan.symm, hKept₂.trans hKept₃⟩
    · rintro e ⟨m₃, w₃⟩ ⟨rfl, hBroken, hKept₃⟩
      rw [hHistory₂] at hBroken
      exact .lost hRecording hImage (presentable_presentOutcome a) (brokenOff_of_departure hBroken)
        (hKept₂.trans hKept₃)
  · rintro ⟨m₃, w₃⟩ frames ⟨rfl, hHistory, hKept⟩ hFrames
    exact .finished hRecording hImage hFrames hHistory hKept
  · rintro ⟨m₃, w₃⟩ ⟨rfl, hHistory, hKept⟩
    exact .outOfDate hRecording hImage hHistory hKept

/-- The end of a frame: it is refused, or finished. -/
theorem ensures_endFrame (f : Frame) (m : Synchronizer) (w : Rehearsal) :
    (endFrame f : Op (Synchronizer × Rehearsal) Unit).Ensures (m, w)
      (fun a s => EndOutcome f m w (.ok a) s) (fun e s => EndOutcome f m w (.error e) s) := by
  refine ensures_endFrame_of ?_ ?_ (ensures_finishFrame f m w)
  · exact fun _ hRefusal => .refused hRefusal
  · exact fun hRecording hOther => .otherImage hRecording hOther rfl

-- ---------------------------------------------------------------------------
-- Creation and destruction
-- ---------------------------------------------------------------------------

/-- The events of a semaphore that could not be created. -/
def NoSemaphore (e : DeviceEvent) : Prop := e = .refused .createSemaphore ∨ e = .noSemaphore

/-- A device handed out a new semaphore. -/
structure Created (w : Rehearsal) (s : Semaphore) (w' : Rehearsal) : Prop where
  handle : s.handle = w.nextHandle
  history : w'.history = .createdSemaphore s :: w.history
  nextHandle : w'.nextHandle = w.nextHandle + 1

/-- A semaphore is made with the next handle, or it is not made. -/
theorem ensures_createSemaphore (w : Rehearsal) :
    (FrameDevice.createSemaphore : Op Rehearsal Semaphore).Ensures w
      (fun s w' => Created w s w')
      (fun _ w' => ∃ e, NoSemaphore e ∧ w'.history = e :: w.history ∧
        w'.nextHandle = w.nextHandle) := by
  show (unlessRefused .createSemaphore Rehearsal.createSemaphore).Ensures w _ _
  rw [unlessRefused, Op.ensures_bind, Op.ensures_get]
  -- a fault refuses the call, no semaphore is left, or one is created
  split
  · simp only [note, Op.ensures_bind, Op.ensures_change, Op.ensures_throw]
    exact ⟨_, .inl rfl, rfl, rfl⟩
  · simp only [Rehearsal.createSemaphore, note, takeHandle, Op.ensures_bind, Op.ensures_get]
    split
    · refine Op.ensures_ite ?_ ?_
      · intro _
        simp only [Op.ensures_bind, Op.ensures_change, Op.ensures_throw]
        exact ⟨_, .inr rfl, rfl, rfl⟩
      · intro _
        simp only [Op.ensures_bind, Op.ensures_change, Op.ensures_get, Op.ensures_pure]
        exact ⟨rfl, rfl, rfl⟩
    · simp only [Op.ensures_bind, Op.ensures_change, Op.ensures_get, Op.ensures_pure]
      exact ⟨rfl, rfl, rfl⟩

/-- The ways in which creating a machine ends. -/
inductive CreateOutcome (clearColor : Color) (w : Rehearsal) :
    Except RenderError Synchronizer → Rehearsal → Prop
  | noRecorder {e : RenderError} {w' : Rehearsal}
    (hRecorder : Recorder.RecorderOutcome w (.error e) w') :
    CreateOutcome clearColor w (.error e) w'
  | noFirst {e : RenderError} {r : Recorder} {event : DeviceEvent} {w₁ w' : Rehearsal}
    (hRecorder : Recorder.RecorderOutcome w (.ok r) w₁) (hEvent : NoSemaphore event)
    (hHistory : w'.history = r.released (event :: w₁.history)) :
    CreateOutcome clearColor w (.error e) w'
  | noSecond {e : RenderError} {r : Recorder} {s : Semaphore} {event : DeviceEvent}
    {w₁ w₂ w' : Rehearsal} (hRecorder : Recorder.RecorderOutcome w (.ok r) w₁)
    (hFirst : Created w₁ s w₂) (hEvent : NoSemaphore event)
    (hHistory : w'.history = r.released (.destroyedSemaphore s :: event :: w₂.history)) :
    CreateOutcome clearColor w (.error e) w'
  | created {r : Recorder} {s s' : Semaphore} {w₁ w₂ w' : Rehearsal}
    (hRecorder : Recorder.RecorderOutcome w (.ok r) w₁) (hFirst : Created w₁ s w₂)
    (hSecond : Created w₂ s' w') :
    CreateOutcome clearColor w
      (.ok { presentComplete := s, renderComplete := s', recorder := r, clearColor }) w'

/-- The creation of a machine ends in one of its ways. -/
theorem ensures_create (clearColor : Color) (w : Rehearsal) :
    (create clearColor : Op Rehearsal Synchronizer).Ensures w
      (fun m w' => CreateOutcome clearColor w (.ok m) w')
      (fun e w' => CreateOutcome clearColor w (.error e) w') := by
  rw [create, Op.ensures_bind]
  refine (Recorder.ensures_create w).mono ?_ (fun e w' hRecorder => .noRecorder hRecorder)
  intro r w₁ hRecorder
  -- a new recorder can still be destroyed when a semaphore fails
  have hAlive : r.destroyed = false := by
    cases hRecorder
    rfl
  simp only [createSemaphores, destroyOnFailure, Op.ensures_bind, Op.ensures_undoing,
    Op.ensures_pure]
  refine (ensures_createSemaphore w₁).mono ?_ ?_
  · intro s w₂ hFirst
    refine (ensures_createSemaphore w₂).mono (fun s' w' hSecond => .created hRecorder hFirst hSecond) ?_
    rintro e w₃ ⟨event, hEvent, hHistory, -⟩
    refine .noSecond hRecorder hFirst hEvent ?_
    rw [(Recorder.destroy_of_alive r _ hAlive).2.1]
    exact congrArg (fun h => r.released (.destroyedSemaphore s :: h)) hHistory
  · rintro e w₂ ⟨event, hEvent, hHistory, -⟩
    refine .noFirst hRecorder hEvent ?_
    rw [(Recorder.destroy_of_alive r _ hAlive).2.1, hHistory]

theorem destroy_of_destroyed (s : Synchronizer × Rehearsal) (hDestroyed : s.1.destroyed = true) :
    destroy s = s := by
  rw [destroy, if_pos hDestroyed]

theorem destroy_of_alive (m : Synchronizer) (w : Rehearsal) (hAlive : m.destroyed = false)
    (hRecorder : m.recorder.destroyed = false) :
    (destroy (m, w)).1 =
        { m with recorder := m.recorder.emptied, state := .lost, destroyed := true } ∧
      (destroy (m, w)).2.history = .destroyedSemaphore m.renderComplete ::
        .destroyedSemaphore m.presentComplete :: m.recorder.released w.history ∧
      Kept w (destroy (m, w)).2 := by
  obtain ⟨hEmptied, hHistory, hKept⟩ := Recorder.destroy_of_alive m.recorder w hRecorder
  rw [destroy, if_neg (by rw [hAlive]; exact Bool.false_ne_true)]
  refine ⟨?_, ?_, hKept.nextHandle, hKept.images, hKept.current⟩
  · show ({ m with recorder := (Recorder.destroy (m.recorder, w)).1, state := .lost,
                   destroyed := true } : Synchronizer) = _
    rw [hEmptied]
  · exact congrArg (fun h => .destroyedSemaphore m.renderComplete ::
      .destroyedSemaphore m.presentComplete :: h) hHistory

end Synchronizer

end RenderLoop
