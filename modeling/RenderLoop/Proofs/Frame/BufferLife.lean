import RenderLoop.Proofs.Frame.OwnedBuffers
import RenderLoop.Proofs.Frame.Session

/-!
# RenderLoop — the command buffers of the frame machine

The machine keeps to the life cycle of command buffers (`BufferRule`), whatever
the device and the chain do: in every faithful session, each event of the history
was allowed when it happened (`bufferRule_of_run`).

The recorder answers for its buffers between any two calls (`Recorder.Sound`). What
those of frames are doing depends on the state of the machine (`Session.Phase`):
they are all at rest while it is idle, all but the draw buffer of the current frame
are at rest while it is recording, and nothing is known once it is lost, since
nothing is done with them then but to free them.

The end of a frame is one plan, so that the rule is checked on all of it
(`obeys_framePlan`); a frame that is lost on the way needs no argument of its own.
-/

namespace RenderLoop

open DeviceHistory Rehearsal

-- ---------------------------------------------------------------------------
-- Frames
-- ---------------------------------------------------------------------------

namespace Synchronizer

/-- An acquisition is no matter of buffers. -/
theorem Acquired.sound {m : Synchronizer} {w w' : Rehearsal} {r : Recorder}
    {out : Except RenderError UInt32} (hAcquired : Acquired m w out w') (hSound : r.Sound w) :
    r.Sound w' := by
  refine hSound.of_undisturbed ?_ (Nat.le_of_eq hAcquired.nextHandle.symm) ?_
  · rw [hAcquired.history]
    exact ⟨trivial, hSound.obeys⟩
  · intro b _
    rw [hAcquired.history]
    exact undisturbed_cons List.not_mem_nil _

/-- An acquisition does not disturb a buffer. -/
theorem Acquired.rests {m : Synchronizer} {w w' : Rehearsal} {r : Recorder}
    {out : Except RenderError UInt32} (hAcquired : Acquired m w out w') (hRests : r.Rests w) :
    r.Rests w' := by
  intro b hb
  rw [hAcquired.history]
  exact hRests b hb

/-- A draw buffer is open: it alone is being recorded. -/
structure Opened (r : Recorder) (b : CommandBuffer) (w : Rehearsal) : Prop where
  sound : r.Sound w
  mem : b ∈ r.draw
  recording : Recording b w.history
  others : ∀ b' ∈ r.frameBuffers, b' ≠ b → AtRest b' w.history

/-- The opening of a frame avoids all buffers but the one it opens. -/
theorem avoids_openingPlan {b b' : CommandBuffer} (hNe : b' ≠ b) (index : UInt32) (extent : Extent)
    (clears : List ClearValue) : ∀ i ∈ openingPlan b index extent clears, i.Avoids b' := by
  simp only [openingPlan, openingCommands, List.map, List.forall_mem_cons]
  exact ⟨avoids_begin hNe, avoids_record hNe _, avoids_record hNe _, avoids_record hNe _, by simp⟩

/-- The opening of a frame frees no buffer. -/
theorem freesNone_openingPlan (b : CommandBuffer) (index : UInt32) (extent : Extent)
    (clears : List ClearValue) : ∀ i ∈ openingPlan b index extent clears, i.FreesNone := by
  simp only [openingPlan, openingCommands, List.map, List.forall_mem_cons]
  exact ⟨freesNone_begin b, freesNone_record b _, freesNone_record b _, freesNone_record b _,
    by simp⟩

/-- With a buffer that is alive and at rest the opening of a frame keeps to the rule. -/
theorem obeys_openingPlan {b : CommandBuffer} {h : DeviceHistory} (hObeys : h.Obeys BufferRule)
    (hLive : b ∈ h.liveBuffers) (hRest : AtRest b h) (index : UInt32) (extent : Extent)
    (clears : List ClearValue) : ((openingPlan b index extent clears).after h).Obeys BufferRule :=
  ⟨⟨hLive, .inl rfl⟩, ⟨hLive, .inl rfl⟩, ⟨hLive, .inl rfl⟩, ⟨hLive, hRest⟩, hObeys⟩

variable {index images : UInt32} {extent : Extent} {clears : List ClearValue} {r r' : Recorder}
  {w w' : Rehearsal}

/-- An opening that succeeds leaves its draw buffer open. -/
theorem opened_of_openingOutcome {b : CommandBuffer} (hAlive : r.destroyed = false)
    (hSound : r.Sound w) (hRests : r.Rests w)
    (hOutcome : OpeningOutcome index images extent clears r w (.ok b) (r', w')) :
    Opened r' b w' ∧ r' = { r with draw := r'.draw } := by
  cases hOutcome with
  | opened hDraw hHistory hKept =>
    have hDrawn := Recorder.drawn_of_drawOutcome hAlive hSound hRests hDraw
    have hAlive' : r'.destroyed = false := by
      rw [hDrawn.same]
      exact hAlive
    have hFrame := Recorder.mem_frameBuffers_of_draw hAlive' hDrawn.mem
    have hLive := hDrawn.sound.live b (Recorder.mem_owned_of_frame hFrame)
    -- the history goes on by the plan of the opening, which avoids all buffers but `b`
    refine ⟨⟨⟨?_, ?_, hDrawn.sound.nodup, ?_, ?_⟩, hDrawn.mem, ?_, ?_⟩, hDrawn.same⟩
    · rw [hHistory]
      exact obeys_openingPlan hDrawn.sound.obeys hLive (hDrawn.rests b hFrame) _ _ _
    · rw [hKept.nextHandle]
      exact hDrawn.sound.fresh
    · intro b' hb'
      rw [hHistory]
      exact live_after (freesNone_openingPlan b _ _ _) (hDrawn.sound.live b' hb')
    · intro b' hSetup
      have hNe := (hDrawn.sound.ne_setup hSetup hFrame).symm
      rw [hHistory]
      exact (undisturbed_after (avoids_openingPlan hNe _ _ _) _).recording.mpr
        (hDrawn.sound.setup b' hSetup)
    · rw [hHistory]
      exact .inl rfl
    · intro b' hb' hNe
      rw [hHistory]
      exact (undisturbed_after (avoids_openingPlan hNe _ _ _) _).atRest (hDrawn.rests b' hb')

/-- One that fails leaves the recorder sound. -/
theorem sound_of_openingOutcome {e : RenderError} (hAlive : r.destroyed = false)
    (hSound : r.Sound w) (hRests : r.Rests w)
    (hOutcome : OpeningOutcome index images extent clears r w (.error e) (r', w')) :
    r'.Sound w' ∧ r' = { r with draw := r'.draw } := by
  cases hOutcome with
  | noBuffer hDraw => exact Recorder.sound_of_drawOutcome hAlive hSound hDraw
  | notBegun hDraw hHistory hKept =>
    have hDrawn := Recorder.drawn_of_drawOutcome hAlive hSound hRests hDraw
    refine ⟨hDrawn.sound.of_undisturbed ?_ (Nat.le_of_eq hKept.nextHandle.symm) ?_, hDrawn.same⟩
    · rw [hHistory]
      exact ⟨trivial, hDrawn.sound.obeys⟩
    · intro b' _
      rw [hHistory]
      exact undisturbed_cons List.not_mem_nil _

-- ---------------------------------------------------------------------------
-- The end of a frame
-- ---------------------------------------------------------------------------

/-- The end of a frame avoids every buffer but its three. -/
theorem avoids_framePlan {m : Synchronizer} {f : Frame} {b : CommandBuffer}
    (hNot : b ∉ m.frameEnders f) (outcome : Except RenderError Unit) :
    ∀ i ∈ m.framePlan f outcome, i.Avoids b := by
  have hNe : ∀ b' ∈ m.frameEnders f, b ≠ b' := by
    rintro b' hb' rfl
    exact hNot hb'
  refine forall_mem_framePlan (fun b' hb' => avoids_begin (hNe b' hb'))
    (fun b' hb' c => avoids_record (hNe b' hb') c) (fun b' hb' => avoids_finish (hNe b' hb'))
    (fun b' hb' waits signals => avoids_submit (hNe b' hb') waits signals) ?_ (avoids_wait b) outcome
  refine fun index out => ⟨List.not_mem_nil, ?_⟩
  rintro - ⟨cause, -, rfl⟩
  exact List.not_mem_nil

/-- The end of a frame frees no buffer. -/
theorem freesNone_framePlan (m : Synchronizer) (f : Frame) (outcome : Except RenderError Unit) :
    ∀ i ∈ m.framePlan f outcome, i.FreesNone := by
  refine forall_mem_framePlan (fun b _ => freesNone_begin b) (fun b _ c => freesNone_record b c)
    (fun b _ => freesNone_finish b) (fun b _ waits signals => freesNone_submit b waits signals) ?_
    freesNone_wait outcome
  refine fun index out => ⟨rfl, ?_⟩
  rintro - ⟨cause, -, rfl⟩
  rfl

/-- No step of a frame's end can fail in a way that breaks the rule. -/
theorem excusable_framePlan (m : Synchronizer) (f : Frame) (outcome : Except RenderError Unit) :
    ∀ i ∈ m.framePlan f outcome, i.Excusable BufferRule := by
  refine forall_mem_framePlan (fun b _ => excusable_begin b) (fun b _ c => excusable_record b c)
    (fun b _ => excusable_finish b) (fun b _ waits signals => excusable_submit b waits signals) ?_
    excusable_wait outcome
  refine fun index out => excusable_of_no_buffers ?_
  rintro - ⟨cause, -, rfl⟩
  rfl

section FramePlan

variable {m : Synchronizer} {f : Frame} {h : DeviceHistory}

/-- What the end of a frame needs: its buffers are alive and different, its draw buffer is being
recorded and the other two are at rest. -/
structure Endable (m : Synchronizer) (f : Frame) (h : DeviceHistory) : Prop where
  obeys : h.Obeys BufferRule
  live : ∀ b ∈ m.frameEnders f, b ∈ h.liveBuffers
  nodup : (m.frameEnders f).Nodup
  recording : Recording f.buffer h
  pre : AtRest m.recorder.prePresent h
  post : AtRest m.recorder.postPresent h

/-- All of the end of a frame keeps to the rule. -/
theorem obeys_framePlan (hEndable : Endable m f h) (outcome : Except RenderError Unit) :
    ((m.framePlan f outcome).after h).Obeys BufferRule := by
  obtain ⟨hObeys, hLive, hNodup, hRecording, ⟨hPreRecording, hPrePending⟩, hPostRecording,
    hPostPending⟩ := hEndable
  have hDrawLive : f.buffer ∈ h.liveBuffers := hLive _ (.head _)
  have hPreLive : m.recorder.prePresent ∈ h.liveBuffers := hLive _ (.tail _ (.head _))
  have hPostLive : m.recorder.postPresent ∈ h.liveBuffers := hLive _ (.tail _ (.tail _ (.head _)))
  simp only [frameEnders, List.nodup_cons, List.mem_cons, List.not_mem_nil, or_false,
    not_or] at hNodup
  obtain ⟨⟨hDrawPre, hDrawPost⟩, hPrePost, -⟩ := hNodup
  -- each event of the plan is checked at once; the three buffers being different is what tells
  -- their states apart
  simp only [framePlan, drawPlan, barrierPlan, List.cons_append, List.nil_append, Plan.after,
    Intent.record, Intent.begin, Intent.finish, Intent.submit, Intent.wait, presentIntent, Obeys,
    BufferRule, AtRest, Recording, Pending, Ready, liveBuffers, hDrawLive, hPreLive, hPostLive,
    hDrawPre, hDrawPost, hPrePost, hRecording, hPreRecording, hPrePending, hPostRecording,
    hPostPending, hObeys, true_and, and_true, true_or, or_false, false_or, ne_eq, not_false_iff,
    and_false, not_true_eq_false]

/-- Nothing that was at rest is recorded afterwards, and the draw buffer is not either. -/
theorem recording_framePlan {b : CommandBuffer} {outcome : Except RenderError Unit}
    (hRecording : Recording b ((m.framePlan f outcome).after h)) :
    b ≠ f.buffer ∧ Recording b h := by
  obtain ⟨hPost, hPostBegun | ⟨hPre, hPreBegun | ⟨hDraw, hRest⟩⟩⟩ := hRecording
  · exact absurd hPostBegun hPost
  · exact absurd hPreBegun hPre
  · exact ⟨hDraw.symm, hRest⟩

/-- The plan ends with a wait, after which no buffer is pending. -/
theorem not_pending_framePlan (b : CommandBuffer) (outcome : Except RenderError Unit) :
    ¬ Pending b ((m.framePlan f outcome).after h) :=
  id

end FramePlan

end Synchronizer

-- ---------------------------------------------------------------------------
-- Sessions
-- ---------------------------------------------------------------------------

namespace Session

open Synchronizer

/-- What the buffers of frames are doing in each state of the machine. -/
inductive Phase (s : Session) : FrameState → Prop
  | idle (hRests : s.machine.recorder.Rests s.world) : Phase s .idle
  | recording {f : Frame} (hFrame : s.frame = some f)
    (hOpened : Opened s.machine.recorder f.buffer s.world) : Phase s .recording
  | lost : Phase s .lost

/-- What is true of the buffers of a machine between any two calls. -/
structure Sound (s : Session) : Prop where
  recorder : s.machine.recorder.Sound s.world
  phase : Phase s s.machine.state
  destroyed : s.machine.recorder.destroyed = s.machine.destroyed
  lost : s.machine.destroyed = true → s.machine.state = .lost

variable {s : Session}

/-- A machine that is not lost has its recorder. -/
theorem Sound.alive (hSound : Sound s) (hState : s.machine.state ≠ .lost) :
    s.machine.recorder.destroyed = false := by
  rw [hSound.destroyed]
  cases hDestroyed : s.machine.destroyed with
  | false => rfl
  | true => exact absurd (hSound.lost hDestroyed) hState

/-- The buffers of frames rest while the machine is idle. -/
theorem Sound.rests (hSound : Sound s) (hIdle : s.machine.state = .idle) :
    s.machine.recorder.Rests s.world := by
  have hPhase := hSound.phase
  rw [hIdle] at hPhase
  cases hPhase with
  | idle hRests => exact hRests

/-- While it is recording, the draw buffer of its frame is open. -/
theorem Sound.opened (hSound : Sound s) {f : Frame} (hRecording : s.machine.state = .recording)
    (hFrame : s.frame = some f) : Opened s.machine.recorder f.buffer s.world := by
  have hPhase := hSound.phase
  rw [hRecording] at hPhase
  cases hPhase with
  | recording hFrame' hOpened =>
    rw [hFrame] at hFrame'
    cases hFrame'
    exact hOpened

/-- A lost machine has to answer for its buffers only. -/
theorem sound_of_lost {m : Synchronizer} {w : Rehearsal} {frame : Option Frame}
    (hRecorder : m.recorder.Sound w) (hDestroyed : m.recorder.destroyed = m.destroyed)
    (hLost : m.state = .lost) : Sound ⟨m, w, frame⟩ where
  recorder := hRecorder
  phase := by
    show Phase _ m.state
    rw [hLost]
    exact .lost
  destroyed := hDestroyed
  lost _ := hLost

-- ---------------------------------------------------------------------------
-- Calls
-- ---------------------------------------------------------------------------

/-- What spares the buffers of frames keeps the phase. -/
theorem phase_of_spares {state : FrameState} {r : Recorder} {w : Rehearsal}
    (hPhase : Phase s state) (hAlive : state ≠ .lost → s.machine.recorder.destroyed = false)
    (hSpares : s.machine.recorder.Spares s.world r w) :
    Phase ⟨{ s.machine with recorder := r }, w, s.frame⟩ state := by
  have hSame := hSpares.same
  have hFrames : r.frameBuffers = s.machine.recorder.frameBuffers := by
    rw [hSame]
    rfl
  cases hPhase with
  | idle hRests =>
    refine .idle fun b hb => ?_
    rw [hFrames] at hb
    exact (hSpares.undisturbed b hb).atRest (hRests b hb)
  -- the draw buffer of the frame is one of those that are spared
  | @recording f hFrame hOpened =>
    have hFrameBuffer := Recorder.mem_frameBuffers_of_draw (hAlive (by decide)) hOpened.mem
    refine .recording hFrame ⟨hSpares.sound, ?_, ?_, ?_⟩
    · rw [hSame]
      exact hOpened.mem
    · exact (hSpares.undisturbed _ hFrameBuffer).recording.mpr hOpened.recording
    · intro b hb hNe
      rw [hFrames] at hb
      exact (hSpares.undisturbed b hb).atRest (hOpened.others b hb hNe)
  | lost => exact .lost

/-- Operations on the setup buffer do not matter to frames. -/
theorem Sound.spared (hSound : Sound s) {r : Recorder} {w : Rehearsal}
    (hSpares : s.machine.recorder.Spares s.world r w) :
    Sound ⟨{ s.machine with recorder := r }, w, s.frame⟩ where
  recorder := hSpares.sound
  phase := phase_of_spares hSound.phase hSound.alive hSpares
  destroyed := by
    rw [hSpares.same]
    exact hSound.destroyed
  lost := hSound.lost

/-- A frame that began left its draw buffer open. -/
theorem Sound.began (hSound : Sound s) {extent : Extent} {f : Frame}
    {t : Synchronizer × Rehearsal} (hOutcome : BeginOutcome extent s.machine s.world (.ok f) t) :
    Sound ⟨t.1, t.2, some f⟩ := by
  cases hOutcome with
  | begun hIdle hAcquired hOpening =>
    have hAlive := hSound.alive (by rw [hIdle]; decide)
    obtain ⟨hOpened, hSame⟩ := opened_of_openingOutcome hAlive (hAcquired.sound hSound.recorder)
      (hAcquired.rests (hSound.rests hIdle)) hOpening
    refine ⟨hOpened.sound, .recording rfl hOpened, ?_, ?_⟩
    · rw [hSame]
      exact hSound.destroyed
    · intro hDestroyed
      have hLost := hSound.lost hDestroyed
      rw [hIdle] at hLost
      cases hLost

/-- A frame that did not begin leaves the machine idle, or lost with a sound recorder. -/
theorem Sound.notBegan (hSound : Sound s) {extent : Extent} {e : RenderError}
    {t : Synchronizer × Rehearsal}
    (hOutcome : BeginOutcome extent s.machine s.world (.error e) t) :
    Sound ⟨t.1, t.2, s.frame⟩ := by
  cases hOutcome with
  | refused _ => exact hSound
  -- no image was acquired, so nothing was recorded
  | outOfDate hIdle hAcquired =>
    refine ⟨hAcquired.sound hSound.recorder, .idle (hAcquired.rests (hSound.rests hIdle)),
      hSound.destroyed, ?_⟩
    intro hDestroyed
    rw [← hIdle]
    exact hSound.lost hDestroyed
  | notAcquired hIdle _ hAcquired =>
    exact sound_of_lost (hAcquired.sound hSound.recorder) hSound.destroyed rfl
  | @lost _ index r w₁ w₂ w' hIdle hAcquired hOpening hHistory hKept =>
    have hAlive := hSound.alive (by rw [hIdle]; decide)
    -- the recorder is sound wherever the opening broke off; the machine is lost
    obtain ⟨hRecorder, hSame⟩ := sound_of_openingOutcome hAlive
      (hAcquired.sound hSound.recorder) (hAcquired.rests (hSound.rests hIdle)) hOpening
    refine sound_of_lost (hRecorder.of_undisturbed ?_ (Nat.le_of_eq hKept.nextHandle.symm) ?_) ?_ rfl
    · rw [hHistory]
      exact hRecorder.obeys
    · intro b _
      rw [hHistory]
      exact .refl b _
    · rw [hSame]
      exact hSound.destroyed

/-- The end of the frame that began last finds its buffers as it needs them. -/
theorem Sound.endable (hSound : Sound s) {f : Frame} (hRecording : s.machine.state = .recording)
    (hFrame : s.frame = some f) : Endable s.machine f s.world.history := by
  have hAlive := hSound.alive (by rw [hRecording]; decide)
  have hOpened := hSound.opened hRecording hFrame
  have hFrames := Recorder.frameBuffers_of_alive hAlive
  have hEnders : ∀ b ∈ s.machine.frameEnders f, b ∈ s.machine.recorder.frameBuffers := by
    rw [hFrames]
    intro b hb
    rcases List.mem_cons.mp hb with rfl | hPresent
    · exact List.mem_append_left _ hOpened.mem
    · exact List.mem_append_right _ hPresent
  -- the draw buffer is none of the two around the presentation
  have hNodup := (List.nodup_append.mp hSound.recorder.nodup).2.1
  rw [hFrames] at hNodup
  obtain ⟨-, hPresentNodup, hDisjoint⟩ := List.nodup_append.mp hNodup
  have hNe : ∀ b ∈ [s.machine.recorder.prePresent, s.machine.recorder.postPresent],
      b ≠ f.buffer :=
    fun b hb hEq => hDisjoint f.buffer hOpened.mem b hb hEq.symm
  have hRests : ∀ b ∈ [s.machine.recorder.prePresent, s.machine.recorder.postPresent],
      AtRest b s.world.history :=
    fun b hb => hOpened.others b (hEnders b (.tail _ hb)) (hNe b hb)
  exact {
    obeys := hSound.recorder.obeys
    live := fun b hb =>
      hSound.recorder.live b (Recorder.mem_owned_of_frame (hEnders b hb))
    nodup := List.nodup_cons.mpr ⟨fun hb => hNe f.buffer hb rfl, hPresentNodup⟩
    recording := hOpened.recording
    pre := hRests _ (.head _)
    post := hRests _ (.tail _ (.head _)) }

/-- The setup buffer is none of those that end a frame. -/
theorem Sound.setup_not_mem (hSound : Sound s) {f : Frame}
    (hRecording : s.machine.state = .recording) (hFrame : s.frame = some f) {b : CommandBuffer}
    (hSetup : s.machine.recorder.setup = some b) : b ∉ s.machine.frameEnders f := by
  have hAlive := hSound.alive (by rw [hRecording]; decide)
  have hOpened := hSound.opened hRecording hFrame
  intro hb
  have hFrameBuffer : b ∈ s.machine.recorder.frameBuffers := by
    rw [Recorder.frameBuffers_of_alive hAlive]
    rcases List.mem_cons.mp hb with rfl | hPresent
    · exact List.mem_append_left _ hOpened.mem
    · exact List.mem_append_right _ hPresent
  exact hSound.recorder.ne_setup hSetup hFrameBuffer rfl

/-- The end of a frame leaves the recorder answering for its buffers, as far as it gets. -/
theorem sound_after_frame {r : Recorder} {w w' : Rehearsal} (hSound : r.Sound w)
    (hObeys : w'.history.Obeys BufferRule) (hKept : Kept w w')
    (hLive : ∀ b, b ∈ w.history.liveBuffers → b ∈ w'.history.liveBuffers)
    (hSetup : ∀ b, r.setup = some b → Undisturbed b w.history w'.history) : r.Sound w' where
  obeys := hObeys
  fresh := by
    rw [hKept.nextHandle]
    exact hSound.fresh
  nodup := hSound.nodup
  live b hb := hLive b (hSound.live b hb)
  setup b hb := (hSetup b hb).recording.mpr (hSound.setup b hb)

/-- All of the end of a frame leaves the buffers of frames at rest. -/
theorem Sound.finished (hSound : Sound s) {f : Frame} (hRecording : s.machine.state = .recording)
    (hFrame : s.frame = some f) {outcome : Except RenderError Unit} {w' : Rehearsal}
    (hHistory : w'.history = (s.machine.framePlan f outcome).after s.world.history)
    (hKept : Kept s.world w') :
    s.machine.recorder.Sound w' ∧ s.machine.recorder.Rests w' := by
  have hEndable := hSound.endable hRecording hFrame
  have hOpened := hSound.opened hRecording hFrame
  refine ⟨sound_after_frame hSound.recorder ?_ hKept ?_ ?_, ?_⟩
  · rw [hHistory]
    exact obeys_framePlan hEndable outcome
  · intro b hLive
    rw [hHistory]
    exact live_after (freesNone_framePlan _ f outcome) hLive
  · intro b hSetup
    rw [hHistory]
    exact undisturbed_after
      (avoids_framePlan (hSound.setup_not_mem hRecording hFrame hSetup) outcome) _
  · -- what is recorded after the plan was recorded before it, and only the draw buffer was
    intro b hb
    rw [hHistory]
    refine ⟨fun hStill => ?_, not_pending_framePlan b outcome⟩
    obtain ⟨hNe, hBefore⟩ := recording_framePlan hStill
    exact (hOpened.others b hb hNe).1 hBefore

/-- The end of a frame leaves its buffers at rest, or the machine lost. -/
theorem Sound.ended (hSound : Sound s) {f : Frame} (hFrame : s.frame = some f)
    {out : Except RenderError Unit} {t : Synchronizer × Rehearsal}
    (hOutcome : EndOutcome f s.machine s.world out t) : Sound ⟨t.1, t.2, s.frame⟩ := by
  have hNotDestroyed : s.machine.state = .recording → s.machine.destroyed = true → False := by
    intro hRecording hDestroyed
    have hLost := hSound.lost hDestroyed
    rw [hRecording] at hLost
    cases hLost
  cases hOutcome with
  | refused _ => exact hSound
  | otherImage _ _ _ => exact hSound
  | @lost _ outcome w' hRecording _ _ hBroken hKept =>
    refine sound_of_lost (sound_after_frame hSound.recorder ?_ hKept ?_ ?_) hSound.destroyed rfl
    · -- a prefix of the plan keeps to the rule, since all of it does
      exact Plan.obeys_of_brokenOff hBroken (excusable_framePlan _ f outcome)
        (obeys_framePlan (hSound.endable hRecording hFrame) outcome)
    · exact fun b => live_brokenOff (freesNone_framePlan _ f outcome) hBroken
    · exact fun b hSetup => undisturbed_brokenOff
        (avoids_framePlan (hSound.setup_not_mem hRecording hFrame hSetup) outcome) hBroken
  | outOfDate hRecording _ hHistory hKept =>
    obtain ⟨hRecorder, hRests⟩ := hSound.finished hRecording hFrame hHistory hKept
    exact ⟨hRecorder, .idle hRests, hSound.destroyed,
      fun hDestroyed => (hNotDestroyed hRecording hDestroyed).elim⟩
  | finished hRecording _ _ hHistory hKept =>
    obtain ⟨hRecorder, hRests⟩ := hSound.finished hRecording hFrame hHistory hKept
    exact ⟨hRecorder, .idle hRests, hSound.destroyed,
      fun hDestroyed => (hNotDestroyed hRecording hDestroyed).elim⟩

/-- Destroying a machine frees what it answers for. -/
theorem Sound.gone (hSound : Sound s) :
    Sound ⟨(destroy s.both).1, (destroy s.both).2, s.frame⟩ := by
  cases hDestroyed : s.machine.destroyed with
  | true =>
    rw [destroy_of_destroyed s.both hDestroyed]
    exact hSound
  | false =>
    have hAlive := hSound.destroyed.trans hDestroyed
    obtain ⟨hMachine, hHistory, hKept⟩ := destroy_of_alive s.machine s.world hDestroyed hAlive
    have hRecorder : s.machine.recorder.emptied.Sound
        { s.world with history := s.machine.recorder.released s.world.history } :=
      hSound.recorder.released hAlive rfl
    refine sound_of_lost ?_ ?_ ?_
    · rw [both, hMachine]
      -- both semaphores are destroyed after the buffers are freed
      refine hRecorder.of_undisturbed ?_ (Nat.le_of_eq hKept.nextHandle.symm) ?_
      · rw [hHistory]
        exact ⟨trivial, trivial, hRecorder.obeys⟩
      · intro b hb
        cases hb
    · rw [both, hMachine]
      rfl
    · rw [both, hMachine]

/-- A script is about what comes, a phase about what happened. -/
theorem phase_follow {state : FrameState} (hPhase : Phase s state) (script : Script) :
    Phase { s with world := s.world.follow script } state := by
  cases hPhase with
  | idle hRests => exact .idle hRests
  | recording hFrame hOpened =>
    obtain ⟨⟨hObeys, hFresh, hNodup, hLive, hSetup⟩, hMem, hRecording, hOthers⟩ := hOpened
    exact .recording hFrame ⟨⟨hObeys, hFresh, hNodup, hLive, hSetup⟩, hMem, hRecording, hOthers⟩
  | lost => exact .lost

/-- A new script does not matter to what happened so far. -/
theorem Sound.followed (hSound : Sound s) (script : Script) :
    Sound { s with world := s.world.follow script } := by
  obtain ⟨⟨hObeys, hFresh, hNodup, hLive, hSetup⟩, hPhase, hDestroyed, hLost⟩ := hSound
  exact ⟨⟨hObeys, hFresh, hNodup, hLive, hSetup⟩, phase_follow hPhase script, hDestroyed, hLost⟩

/-- One call keeps the buffers of a machine in order. -/
theorem Sound.call (hSound : Sound s) {c : Call} {t : Session} (hFaithful : Faithful s c)
    (hCall : s.call c = some t) : Sound t := by
  cases callOutcome_of_call hCall with
  | began hOutcome => exact hSound.began hOutcome
  | notBegan hOutcome => exact hSound.notBegan hOutcome
  | ended hOutcome => exact hSound.ended hFaithful hOutcome
  | setup hOutcome => exact hSound.spared (Recorder.spares_setupOutcome hSound.recorder hOutcome)
  | flushed hOutcome => exact hSound.spared (Recorder.spares_flushOutcome hSound.recorder hOutcome)
  | destroyed => exact hSound.gone
  | followed => exact hSound.followed _

-- ---------------------------------------------------------------------------
-- Creation
-- ---------------------------------------------------------------------------

/-- A failure to make a semaphore names no buffer. -/
theorem noSemaphore_buffers {e : DeviceEvent} (hEvent : NoSemaphore e) : e.buffers = [] := by
  rcases hEvent with rfl | rfl <;> rfl

/-- A new semaphore is no matter of buffers. -/
theorem sound_of_createdSemaphore {r : Recorder} {w w' : Rehearsal} {sem : Semaphore}
    (hSound : r.Sound w) (hRests : r.Rests w) (hCreated : Created w sem w') :
    r.Sound w' ∧ r.Rests w' := by
  refine ⟨hSound.of_undisturbed ?_ ?_ ?_, fun b hb => ?_⟩
  · rw [hCreated.history]
    exact ⟨trivial, hSound.obeys⟩
  · rw [hCreated.nextHandle]
    exact Nat.le_succ _
  · intro b _
    rw [hCreated.history]
    exact undisturbed_cons List.not_mem_nil _
  · rw [hCreated.history]
    exact hRests b hb

/-- A recorder may be destroyed after an event that is no matter of buffers. -/
theorem obeys_released {r : Recorder} {w : Rehearsal} {e : DeviceEvent}
    (hAlive : r.destroyed = false) (hSound : r.Sound w) (hNone : e.buffers = []) :
    (r.released (e :: w.history)).Obeys BufferRule := by
  have hMore : r.Sound { w with history := e :: w.history } :=
    hSound.of_undisturbed ⟨bufferRule_of_no_buffers hNone _, hSound.obeys⟩ (Nat.le_refl _)
      fun b _ => undisturbed_cons (by rw [hNone]; exact List.not_mem_nil) _
  have hEmptied : r.emptied.Sound { w with history := r.released (e :: w.history) } :=
    hMore.released hAlive rfl
  exact hEmptied.obeys

/-- A machine is created with its buffers in order. -/
theorem sound_of_createOutcome {clearColor : Color} {w w' : Rehearsal} {m : Synchronizer}
    (hObeys : w.history.Obeys BufferRule) (hOutcome : CreateOutcome clearColor w (.ok m) w') :
    Sound ⟨m, w', none⟩ := by
  cases hOutcome with
  | created hRecorder hFirst hSecond =>
    obtain ⟨hSound, hRests, hAlive, -⟩ := Recorder.sound_of_created hObeys hRecorder
    obtain ⟨hSound₁, hRests₁⟩ := sound_of_createdSemaphore hSound hRests hFirst
    obtain ⟨hSound₂, hRests₂⟩ := sound_of_createdSemaphore hSound₁ hRests₁ hSecond
    exact ⟨hSound₂, .idle hRests₂, hAlive, fun hDestroyed => by cases hDestroyed⟩

/-- A creation that fails keeps to the rule as well. -/
theorem obeys_of_createOutcome {clearColor : Color} {w w' : Rehearsal} {e : RenderError}
    (hObeys : w.history.Obeys BufferRule) (hOutcome : CreateOutcome clearColor w (.error e) w') :
    w'.history.Obeys BufferRule := by
  cases hOutcome with
  | noRecorder hRecorder => exact Recorder.obeys_of_not_created hObeys hRecorder
  -- without a semaphore the recorder's buffers are released again
  | noFirst hRecorder hEvent hHistory =>
    obtain ⟨hSound, -, hAlive, -⟩ := Recorder.sound_of_created hObeys hRecorder
    rw [hHistory]
    exact obeys_released hAlive hSound (noSemaphore_buffers hEvent)
  | @noSecond _ _ sem event w₁ w₂ _ hRecorder hFirst hEvent hHistory =>
    obtain ⟨hSound, hRests, hAlive, -⟩ := Recorder.sound_of_created hObeys hRecorder
    obtain ⟨hSound₁, -⟩ := sound_of_createdSemaphore hSound hRests hFirst
    -- the failed second semaphore names no buffer
    have hSound₂ : Recorder.Sound _ { w₂ with history := event :: w₂.history } :=
      hSound₁.of_undisturbed
        ⟨bufferRule_of_no_buffers (noSemaphore_buffers hEvent) _, hSound₁.obeys⟩ (Nat.le_refl _)
        fun b _ => undisturbed_cons
          (by rw [noSemaphore_buffers hEvent]; exact List.not_mem_nil) _
    rw [hHistory]
    exact obeys_released hAlive hSound₂ rfl

/-- The buffers of a machine are in order in every faithful session. -/
theorem sound_of_reachable (hReachable : Reachable Faithful s) : Sound s := by
  induction hReachable with
  | created hNew hRun =>
    refine sound_of_createOutcome (by rw [hNew]; trivial)
      ((ensures_create _ _).of_ok hRun)
  | call c _ hFaithful hCall ih => exact ih.call hFaithful hCall

-- ---------------------------------------------------------------------------
-- After the destruction
-- ---------------------------------------------------------------------------

/-- Frames are refused and destruction does nothing; neither touches the machine or the world. -/
structure Inert (s : Session) : Prop where
  beginFrame : ∀ extent, Op.start (Synchronizer.beginFrame extent) s.both =
    some (.error (.deviceLost "Cannot begin frame: a previous frame failed"), s.both)
  endFrame : ∀ f, Op.start (Synchronizer.endFrame f) s.both =
    some (.error (.deviceLost "Cannot end frame: a previous frame failed"), s.both)
  destroy : Synchronizer.destroy s.both = s.both

/-- A destroyed machine is inert. -/
theorem Sound.inert (hSound : Sound s) (hDestroyed : s.machine.destroyed = true) : Inert s := by
  have hLost := hSound.lost hDestroyed
  refine ⟨fun extent => ?_, fun f => ?_, destroy_of_destroyed s.both hDestroyed⟩
  · -- a destroyed machine is lost, so every call is refused before it does anything
    have hRefused : s.machine.refusal? .idle "begin frame" =
        some (.deviceLost "Cannot begin frame: a previous frame failed") := by
      rw [refusal?, if_pos hLost]
      rfl
    rw [Synchronizer.beginFrame, expect, bind_assoc, Op.start_bind_of_ok (Op.start_get _)]
    simp only [both, hRefused]
    exact Op.start_bind_of_error (Op.start_throw _ _) _
  · have hRefused : s.machine.refusal? .recording "end frame" =
        some (.deviceLost "Cannot end frame: a previous frame failed") := by
      rw [refusal?, if_pos hLost]
      rfl
    rw [Synchronizer.endFrame, expect, bind_assoc, Op.start_bind_of_ok (Op.start_get _)]
    simp only [both, hRefused]
    exact Op.start_bind_of_error (Op.start_throw _ _) _

/-- No call brings a destroyed machine back. -/
theorem destroyed_of_call {c : Call} {t : Session} (hCall : s.call c = some t)
    (hDestroyed : s.machine.destroyed = true) : t.machine.destroyed = true := by
  cases callOutcome_of_call hCall with
  | began hOutcome =>
    cases hOutcome
    exact hDestroyed
  | notBegan hOutcome => cases hOutcome <;> exact hDestroyed
  | ended hOutcome => cases hOutcome <;> exact hDestroyed
  | setup _ => exact hDestroyed
  | flushed _ => exact hDestroyed
  | destroyed =>
    rw [destroy_of_destroyed s.both hDestroyed]
    exact hDestroyed
  | followed => exact hDestroyed

/-- No number of calls brings a destroyed machine back. -/
theorem destroyed_of_leads {allowed : Session → Call → Prop} {t : Session}
    (hLeads : Leads allowed s t) (hDestroyed : s.machine.destroyed = true) :
    t.machine.destroyed = true := by
  induction hLeads with
  | here => exact hDestroyed
  | call c _ _ hCall ih => exact destroyed_of_call hCall ih

/-- Destruction leaves a machine destroyed, whether it was before or not. -/
theorem destroyed_of_call_destroy {t : Session} (hCall : s.call .destroy = some t) :
    t.machine.destroyed = true := by
  cases hCall
  show (Synchronizer.destroy s.both).1.destroyed = true
  rw [Synchronizer.destroy]
  split
  · assumption
  · rfl

/-- **Command buffers are used as they may be.** From the creation of a machine on, whether it
succeeds or not, every event was allowed when it happened, whatever fails and however the chain
changes. Once the machine has been destroyed it answers to frames that the device is lost, and it
does nothing more. -/
theorem bufferRule_of_run {clearColor : Color} {w w' : Rehearsal}
    {r : Except RenderError Synchronizer} (hNew : w.history = [])
    (hRun : Op.start (create clearColor) w = some (r, w')) :
    w'.history.Obeys BufferRule ∧
      ∀ m s, r = .ok m → Leads Faithful ⟨m, w', none⟩ s →
        s.world.history.Obeys BufferRule ∧
          ∀ t u, s.call .destroy = some t → Leads Faithful t u →
            u.world.history.Obeys BufferRule ∧ Inert u := by
  have hObeys : w.history.Obeys BufferRule := by
    rw [hNew]
    trivial
  have hOutcome := ensures_create clearColor w r w' hRun
  constructor
  · cases r with
    | ok m => exact (sound_of_createOutcome hObeys hOutcome).recorder.obeys
    | error e => exact obeys_of_createOutcome hObeys hOutcome
  · -- a run that reaches `s` is a run of the machine from its creation on
    rintro m s rfl hLeads
    have hReachable := (Reachable.created hNew hRun).leads hLeads
    refine ⟨(sound_of_reachable hReachable).recorder.obeys, ?_⟩
    intro t u hCall hLeads'
    have hSound := sound_of_reachable ((hReachable.call .destroy trivial hCall).leads hLeads')
    exact ⟨hSound.recorder.obeys,
      hSound.inert (destroyed_of_leads hLeads' (destroyed_of_call_destroy hCall))⟩

/-- A machine that takes one frame through a chain of two images and is destroyed. -/
theorem bufferRule_of_one_frame :
    let w : Rehearsal := { chain := { images := 2, extent := ⟨640, 480⟩ } }
    let f : Frame := ⟨0, ⟨6⟩, ⟨640, 480⟩⟩
    ∃ m w' s t, w.history = [] ∧ Op.start (create default) w = some (.ok m, w') ∧
      Leads Faithful ⟨m, w', none⟩ s ∧ s.frame = some f ∧ s.machine.framesCompleted = 1 ∧
      s.call .destroy = some t ∧ t.world.history.length = 29 ∧
      t.world.history.Obeys BufferRule ∧ Inert t := by
  intro w f
  have hSteps : ∃ m w' s₁ s₂ t, Op.start (create default) w = some (.ok m, w') ∧
      Session.call ⟨m, w', none⟩ (.beginFrame ⟨640, 480⟩) = some s₁ ∧ s₁.frame = some f ∧
      s₁.call (.endFrame f) = some s₂ ∧ s₂.frame = some f ∧ s₂.machine.framesCompleted = 1 ∧
      s₂.call .destroy = some t ∧ t.world.history.length = 29 :=
    ⟨_, _, _, _, _, rfl, rfl, rfl, rfl, rfl, rfl, rfl, rfl⟩
  obtain ⟨m, w', s₁, s₂, t, hRun, hBegin, hFrame, hEnd, hStill, hCount, hDestroy, hLength⟩ := hSteps
  have hLeads : Leads Faithful ⟨m, w', none⟩ s₂ :=
    .call (.endFrame f) (.call (.beginFrame ⟨640, 480⟩) .here trivial hBegin) hFrame hEnd
  have hRule := (bufferRule_of_run (w := w) rfl hRun).2 m s₂ rfl hLeads
  exact ⟨m, w', s₂, t, rfl, hRun, hLeads, hStill, hCount, hDestroy, hLength,
    hRule.2 t t hDestroy .here⟩

end Session

end RenderLoop
