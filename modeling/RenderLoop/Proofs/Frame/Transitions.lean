import RenderLoop.Proofs.Frame.Progress
import RenderLoop.Proofs.Rehearsal.Cause

/-!
# RenderLoop — the transitions of the frame machine

Between calls the machine is idle, recording or lost. The beginning of a frame takes
it from idle to recording, the end from recording to idle, and a failure loses it;
only a chain that is out of date leaves it idle. A call for which it is in the wrong
state is refused and changes nothing.

What becomes of the machine is put down to what became of its calls on the device
and on the chain (`Begins`, `Ends`): a frame ends where it began exactly if its whole
plan was carried out, and otherwise it fails with the failure of the last call.

The theorem is `transitions_of_reachable`. It holds whatever frames are handed back.
-/

namespace RenderLoop

open Rehearsal

-- ---------------------------------------------------------------------------
-- What the end of a frame fails with
-- ---------------------------------------------------------------------------

namespace Synchronizer

variable {α : Type}

/-- The rehearsal of a machine. -/
abbrev world (s : Synchronizer × Rehearsal) : Rehearsal := s.2

/-- Entering a state makes no call. -/
theorem passesOn_enter (state : FrameState) : PassesOn world (enter state) :=
  passesOn_change fun s => SameFate.refl s.2

/-- A machine is lost with the failure of the call that is to blame. -/
theorem passesOn_lose_of_blamed {e : RenderError} {w : Rehearsal} {s : Synchronizer × Rehearsal}
    (hBlamed : Blamed w e s.2) :
    (lose e : Op (Synchronizer × Rehearsal) α).Ensures s (fun _ t => SameFate w t.2)
      (fun e t => Blamed w e t.2) := by
  obtain ⟨event, before, hHistory, hCause⟩ := hBlamed
  refine ensures_lose e s.1 s.2 fun w' hLogged => ?_
  exact ⟨event, before, (kept_of_logged hLogged).1.trans hHistory, hCause⟩

/-- What passes failures on, loses the machine with them. -/
theorem passesOn_orLose {op : Op Rehearsal α} (hOp : PassesOn id op) :
    PassesOn world (orLose op.onSecond) := by
  intro s
  rw [orLose, Op.ensures_bind, Op.ensures_attempt]
  refine (hOp.onSecond s).mono ?_ ?_
  · intro a t hSame
    rw [Op.ensures_pure]
    exact hSame
  · intro e t hBlamed
    exact passesOn_lose_of_blamed hBlamed

/-- The submission of a draw buffer passes failures on. -/
theorem passesOn_submitDraw (b : CommandBuffer) (ready done : Semaphore) :
    PassesOn id (submitDraw b ready done) := by
  refine (passesOn_record b _).bind fun _ => ?_
  refine (passesOn_endBuffer b).bind fun _ => ?_
  exact passesOn_submit b _ _

/-- The submission of a barrier passes failures on. -/
theorem passesOn_submitBarrier (b : CommandBuffer) (index : UInt32) (t : ImageTransition) :
    PassesOn id (submitBarrier b index t) := by
  refine (passesOn_beginBuffer b).bind fun _ => ?_
  refine (passesOn_record b _).bind fun _ => ?_
  refine (passesOn_endBuffer b).bind fun _ => ?_
  exact passesOn_submit b _ _

theorem passesOn_finishDraw (f : Frame) : PassesOn world (finishDraw f) := by
  refine .of_get fun _ => ?_
  refine (passesOn_orLose (passesOn_submitDraw _ _ _)).bind fun _ => ?_
  exact passesOn_enter _

theorem passesOn_finishPre (f : Frame) : PassesOn world (finishPre f) :=
  .of_get fun _ => passesOn_orLose (passesOn_submitBarrier _ _ _)

/-- The work after a presentation passes failures on. -/
theorem passesOn_finishPost (f : Frame) : PassesOn world (finishPost f) := by
  refine .of_get fun _ => ?_
  refine (passesOn_orLose ?_).bind fun _ => passesOn_enter _
  exact (passesOn_submitBarrier _ _ _).bind fun _ => passesOn_waitQueue

/-- A presentation passes failures on, unless the chain is out of date, which is no failure here. -/
theorem passesOn_presentImage (index : UInt32) : PassesOn world (presentImage index) := by
  refine .of_get fun _ => ?_
  intro s
  rw [Op.ensures_bind, Op.ensures_attempt, Op.ensures_onSecond]
  refine (ensures_present_sameFate index _ s.2).mono ?_ ?_
  · intro _ w hSame
    rw [Op.ensures_pure]
    exact hSame
  · rintro e w ⟨hSame, hBlamed⟩
    -- a success is not among the failures; out of date; or another failure, which loses the machine
    split
    · rename_i hOk
      cases hOk
    · simp only [Op.ensures_bind, Op.ensures_log, Op.ensures_pure]
      exact hSame.trans (sameFate_push _ w)
    · rename_i hError
      cases hError
      exact passesOn_lose_of_blamed hBlamed

/-- The parts of a frame before the presentation pass failures on. -/
theorem passesOn_approach (f : Frame) : PassesOn world (do finishDraw f; finishPre f) := by
  refine (passesOn_finishDraw f).bind fun _ => ?_
  exact passesOn_finishPre f

/-- The parts of a frame after the presentation pass failures on. -/
theorem passesOn_departure (f : Frame) :
    PassesOn world (do enter .presenting; finishPost f; enter .idle) := by
  refine (passesOn_enter _).bind fun _ => ?_
  refine (passesOn_finishPost f).bind fun _ => ?_
  exact passesOn_enter _

/-- A frame that is lost fails with the failure of the last call. -/
theorem ensures_endFrame_blamed (f : Frame) (m : Synchronizer) (w : Rehearsal)
    (hRecording : m.state = .recording) :
    (endFrame f : Op (Synchronizer × Rehearsal) Unit).Ensures (m, w) (fun _ _ => True)
      (fun e t => t.1.state = .lost → Blamed w e t.2) := by
  have hNotLost : ∀ {e}, m.state = .lost → Blamed w e w := by
    intro e hLost
    rw [hRecording] at hLost
    cases hLost
  refine ensures_endFrame_of (fun _ _ => hNotLost) (fun _ _ => hNotLost) fun _ _ => ?_
  refine ensures_finishFrame_of (P := fun s => SameFate w s.2)
    (Q := fun _ s => SameFate w s.2)
    (R := fun _ s => s.1.state = .idle) ?_ ?_ ?_ (fun _ _ _ _ => trivial) ?_
  · exact (passesOn_approach f (m, w)).mono (fun _ _ h => h) (fun _ _ hBlamed _ => hBlamed)
  · intro s₁ hSame₁
    exact (passesOn_presentImage _ s₁).mono (fun _ _ hSame₂ => hSame₁.trans hSame₂)
      (fun _ _ hBlamed _ => hSame₁.blamed hBlamed)
  · intro _ s₂ hSame
    refine ((passesOn_departure f s₂).and (advances_departure f s₂.1 s₂.2)).mono ?_ ?_
    · rintro - s₃ ⟨-, hMachine, -⟩
      exact congrArg Synchronizer.state hMachine
    · rintro e s₃ ⟨hBlamed, -⟩ _
      exact hSame.blamed hBlamed
  · -- the frame ends idle, whatever its presentation answered
    intro s hIdle hLost
    rw [hIdle] at hLost
    cases hLost

-- ---------------------------------------------------------------------------
-- Where the two halves of a frame lead
-- ---------------------------------------------------------------------------

/-- The failure of a call that is refused. -/
def refusal (m : Synchronizer) (operation : String) : RenderError :=
  if m.state = .lost then .deviceLost s!"Cannot {operation}: a previous frame failed"
  else .invalidFrameState operation m.state.name

/-- The states of a machine between calls. -/
def AtRest (m : Synchronizer) : Prop :=
  m.state = .idle ∨ m.state = .recording ∨ m.state = .lost

/-- The beginning of a frame takes an idle machine somewhere, after one acquisition. -/
structure Begins (m : Synchronizer) (w : Rehearsal) (r : Except RenderError Frame)
    (t : Synchronizer × Rehearsal) : Prop where
  atRest : t.1.AtRest
  recording : t.1.state = .recording ↔ ∃ f, r = .ok f
  idle : ∃ outcome, (.acquired m.presentComplete outcome :: w.history) <:+ t.2.history ∧
    (t.1.state = .idle ↔ outcome = .error .swapchainOutOfDate)
  outOfDate : t.1.state = .idle → r = .error .swapchainOutOfDate

/-- The end of a frame takes a recording machine somewhere. It is idle again if all that was planned
has been carried out, whatever the presentation answered of what it may answer; otherwise the plan
broke off, and the failure is that of the call at which it did. -/
structure Ends (f : Frame) (m : Synchronizer) (w : Rehearsal) (r : Except RenderError Unit)
    (t : Synchronizer × Rehearsal) : Prop where
  idle : t.1.state = .idle ↔
    ∃ outcome, Presentable outcome ∧ t.2.history = (m.framePlan f outcome).after w.history
  answer : t.1.state = .idle →
    Presentable r ∧ t.2.history = (m.framePlan f r).after w.history
  lost : t.1.state ≠ .idle → t.1.state = .lost ∧ ∃ e outcome, r = .error e ∧ Blamed w e t.2 ∧
    Presentable outcome ∧ (m.framePlan f outcome).BrokenOff w.history t.2.history

/-- In the wrong state an operation is refused, in words about that state. -/
theorem refusal?_of_ne {m : Synchronizer} {expected : FrameState} (h : m.state ≠ expected)
    (operation : String) : m.refusal? expected operation = some (m.refusal operation) := by
  simp only [refusal?, refusal, if_pos h]
  split <;> rfl

/-- In any other state than the one that is expected, an operation is refused. -/
theorem start_expect_bind_of_ne {m : Synchronizer} {expected : FrameState}
    (h : m.state ≠ expected) (operation : String) (w : Rehearsal)
    (next : Unit → Op (Synchronizer × Rehearsal) α) :
    Op.start (expect expected operation >>= next) (m, w) =
      some (.error (m.refusal operation), m, w) := by
  refine Op.start_bind_of_error ?_ next
  rw [expect, Op.start_bind_of_ok (Op.start_get _)]
  simp only [refusal?_of_ne h, Op.start_throw]

/-- In the state that is expected it goes on. -/
theorem start_expect_bind {m : Synchronizer} {expected : FrameState} (h : m.state = expected)
    (hAlive : expected ≠ .lost) (operation : String) (w : Rehearsal)
    (next : Unit → Op (Synchronizer × Rehearsal) α) :
    Op.start (expect expected operation >>= next) (m, w) = Op.start (next ()) (m, w) := by
  refine Op.start_bind_of_ok ?_ next
  subst h
  rw [expect, Op.start_bind_of_ok (Op.start_get _)]
  simp only [refusal?, if_neg hAlive, ne_eq, not_true, if_false, Op.start_pure]

/-- A frame for another image is refused. -/
theorem start_endFrame_of_otherImage {f : Frame} {m : Synchronizer} {w : Rehearsal}
    (hRecording : m.state = .recording) (hImage : f.imageIndex ≠ w.chain.current) :
    Op.start (endFrame f) (m, w) = some (.error (.invalidFrameState "end frame"
      (m.otherImageText w.chain.current f.imageIndex)), m, w) := by
  rw [endFrame, start_expect_bind hRecording (by decide)]
  refine Op.start_bind_of_error ?_ _
  have hImage' : f.imageIndex ≠ FrameWorld.currentImage w := hImage
  rw [expectCurrent, Op.start_bind_of_ok (Op.start_get _)]
  simp only [if_pos hImage', Op.start_bind_of_ok (Op.start_get _), Op.start_throw]
  rfl

-- ---------------------------------------------------------------------------
-- The beginning of a frame
-- ---------------------------------------------------------------------------

/-- Freeing buffers adds to the history. -/
theorem suffix_freedIfAny (bs : List CommandBuffer) (h : DeviceHistory) :
    h <:+ Recorder.freedIfAny bs h := by
  rw [Recorder.freedIfAny]
  split
  · exact List.suffix_refl h
  · exact List.suffix_cons _ h

/-- Carrying out a plan adds to the history. -/
theorem suffix_after (p : Plan) (h : DeviceHistory) : h <:+ p.after h := by
  refine Plan.keeps_after (P := fun h' => h <:+ h') ?_ (List.suffix_refl h)
  intro _ _ h' hSuffix
  exact hSuffix.trans (List.suffix_cons _ h')

/-- Asking for a draw buffer adds to the history. -/
theorem suffix_drawOutcome {index images : UInt32} {r : Recorder} {w : Rehearsal}
    {outcome : Except RenderError CommandBuffer} {t : Recorder × Rehearsal}
    (h : Recorder.DrawOutcome index images r w outcome t) : w.history <:+ t.2.history := by
  cases h with
  | outOfRange hIndex hHistory => exact hHistory ▸ List.suffix_refl _
  | reset hCount hBuffer hHistory => exact hHistory ▸ List.suffix_cons _ _
  | notReset hCount hHistory => exact hHistory ▸ List.suffix_cons _ _
  | renewed hDropped hKept hAllocated =>
    rw [hAllocated.history, hDropped]
    exact (suffix_freedIfAny _ _).trans (List.suffix_cons _ _)
  | notAllocated hHistory =>
    rw [hHistory]
    exact (suffix_freedIfAny _ _).trans (List.suffix_cons _ _)
  | miscounted hDropped hKept hAllocated hHistory =>
    rw [hHistory, hAllocated.history, hDropped]
    exact ((suffix_freedIfAny _ _).trans (List.suffix_cons _ _)).trans (List.suffix_cons _ _)

/-- Opening a draw buffer adds to the history. -/
theorem suffix_openingOutcome {index images : UInt32} {extent : Extent} {clears : List ClearValue}
    {r : Recorder} {w : Rehearsal} {outcome : Except RenderError CommandBuffer}
    {t : Recorder × Rehearsal} (h : OpeningOutcome index images extent clears r w outcome t) :
    w.history <:+ t.2.history := by
  cases h with
  | noBuffer hDraw => exact suffix_drawOutcome hDraw
  | notBegun hDraw hHistory =>
    rw [hHistory]
    exact (suffix_drawOutcome hDraw).trans (List.suffix_cons _ _)
  | opened hDraw hHistory =>
    rw [hHistory]
    exact (suffix_drawOutcome hDraw).trans (suffix_after _ _)

/-- However the beginning of a frame ends, it is by the rules. -/
theorem begins_of_outcome {extent : Extent} {m : Synchronizer} {w : Rehearsal}
    {r : Except RenderError Frame} {t : Synchronizer × Rehearsal} (hIdle : m.state = .idle)
    (h : BeginOutcome extent m w r t) : Begins m w r t := by
  cases h with
  | refused hRefusal => exact absurd hIdle (ne_of_refused (by decide) hRefusal)
  | outOfDate _ hAcquired =>
    refine ⟨.inl rfl, by simp, ⟨.error .swapchainOutOfDate, ?_, by simp⟩, fun _ => rfl⟩
    exact hAcquired.history ▸ List.suffix_refl _
  | @notAcquired e _ _ hCause hAcquired =>
    refine ⟨.inr (.inr rfl), by simp, ⟨.error e, ?_, by simp [hCause]⟩, by simp⟩
    exact hAcquired.history ▸ List.suffix_refl _
  | @lost e index _ _ _ _ _ hAcquired hOpening hHistory =>
    refine ⟨.inr (.inr rfl), by simp, ⟨.ok index, ?_, by simp⟩, by simp⟩
    rw [← hAcquired.history, hHistory]
    exact suffix_openingOutcome hOpening
  -- what the opening adds to the history comes after the acquisition
  | @begun index _ _ _ _ _ hAcquired hOpening =>
    refine ⟨.inr (.inl rfl), by simp, ⟨.ok index, ?_, by simp⟩, by simp⟩
    rw [← hAcquired.history]
    exact suffix_openingOutcome hOpening

-- ---------------------------------------------------------------------------
-- The end of a frame
-- ---------------------------------------------------------------------------

/-- Once all of a frame is done, nobody is to blame: the last call was the wait for the device. -/
theorem not_blamed_after {f : Frame} {m : Synchronizer} {outcome : Except RenderError Unit}
    {w w' : Rehearsal} {e : RenderError}
    (hHistory : w'.history = (m.framePlan f outcome).after w.history) : ¬ Blamed w e w' := by
  rintro ⟨event, before, hLast, hCause⟩
  rw [hHistory, framePlan, Plan.after_append] at hLast
  cases hLast
  cases hCause

/-- However the end of a frame ends, it is by the rules. -/
theorem ends_of_outcome {f : Frame} {m : Synchronizer} {w : Rehearsal}
    {r : Except RenderError Unit} {t : Synchronizer × Rehearsal} (hRecording : m.state = .recording)
    (hImage : f.imageIndex = w.chain.current) (h : EndOutcome f m w r t)
    (hBlamed : ∀ e, r = .error e → t.1.state = .lost → Blamed w e t.2) : Ends f m w r t := by
  cases h with
  | refused hRefusal => exact absurd hRecording (ne_of_refused (by decide) hRefusal)
  | otherImage _ hOther => exact absurd hImage hOther
  | @lost e outcome w' _ _ hOutcome hBroken =>
    refine ⟨?_, by simp, fun _ => ⟨rfl, e, outcome, rfl, hBlamed e rfl rfl, hOutcome, hBroken⟩⟩
    -- a frame that is lost did not carry its plan out: the last call of a whole plan did not fail
    constructor
    · rintro ⟨⟩
    · rintro ⟨outcome', -, hAfter⟩
      exact absurd (hBlamed e rfl rfl) (not_blamed_after hAfter)
  | outOfDate _ _ hHistory =>
    exact ⟨iff_of_true rfl ⟨_, .inr rfl, hHistory⟩, fun _ => ⟨.inr rfl, hHistory⟩, by simp⟩
  | finished _ _ _ hHistory =>
    exact ⟨iff_of_true rfl ⟨_, .inl rfl, hHistory⟩, fun _ => ⟨.inl rfl, hHistory⟩, by simp⟩

end Synchronizer

-- ---------------------------------------------------------------------------
-- Sessions
-- ---------------------------------------------------------------------------

namespace Session

open Synchronizer

/-- The rules by which a session goes on. -/
structure Transitions (s : Session) : Prop where
  atRest : s.machine.AtRest
  beginRefused : s.machine.state ≠ .idle → ∀ extent,
    Op.start (beginFrame extent) s.both =
      some (.error (s.machine.refusal "begin frame"), s.both)
  begins : s.machine.state = .idle → ∀ extent r t,
    Op.start (beginFrame extent) s.both = some (r, t) → Begins s.machine s.world r t
  beginReturns : s.world.chain.images ≠ 0 → ∀ extent,
    (Op.start (beginFrame extent) s.both).isSome
  endRefused : s.machine.state ≠ .recording → ∀ f,
    Op.start (endFrame f) s.both = some (.error (s.machine.refusal "end frame"), s.both)
  otherImage : s.machine.state = .recording → ∀ f : Frame,
    f.imageIndex ≠ s.world.chain.current → Op.start (endFrame f) s.both =
      some (.error (.invalidFrameState "end frame"
        (s.machine.otherImageText s.world.chain.current f.imageIndex)), s.both)
  ends : s.machine.state = .recording → ∀ f : Frame, f.imageIndex = s.world.chain.current →
    ∀ r t, Op.start (endFrame f) s.both = some (r, t) → Ends f s.machine s.world r t
  endReturns : s.machine.framesCompleted.toNat + 1 < UInt64.size → ∀ f,
    (Op.start (endFrame f) s.both).isSome
  destroys : (Synchronizer.destroy s.both).1.state = .lost

/-- Between calls the machine is at rest, and once destroyed it is lost. -/
structure Settled (m : Synchronizer) : Prop where
  atRest : m.AtRest
  lost_of_destroyed : m.destroyed = true → m.state = .lost

/-- A machine at rest is settled, if it is not destroyed. -/
theorem settled_of_alive {m : Synchronizer} (hAtRest : m.AtRest) (hAlive : m.destroyed = false) :
    Settled m where
  atRest := hAtRest
  lost_of_destroyed hDestroyed := absurd (hAlive.symm.trans hDestroyed) Bool.false_ne_true

/-- A lost one is settled in any case. -/
theorem settled_of_lost {m : Synchronizer} (hLost : m.state = .lost) : Settled m where
  atRest := .inr (.inr hLost)
  lost_of_destroyed _ := hLost

/-- A machine that is not lost is not destroyed. -/
theorem Settled.alive {m : Synchronizer} (h : Settled m) {state : FrameState}
    (hState : m.state = state) (hNotLost : state ≠ .lost) : m.destroyed = false := by
  cases hDestroyed : m.destroyed with
  | false => rfl
  | true => exact absurd (hState.symm.trans (h.lost_of_destroyed hDestroyed)) hNotLost

/-- The beginning of a frame leaves the machine settled. -/
theorem Settled.of_beginOutcome {extent : Extent} {m : Synchronizer} {w : Rehearsal}
    {r : Except RenderError Frame} {t : Synchronizer × Rehearsal} (h : Settled m)
    (hOutcome : BeginOutcome extent m w r t) : Settled t.1 := by
  cases hOutcome with
  | refused _ => exact h
  | outOfDate hIdle _ => exact settled_of_alive (.inl rfl) (h.alive hIdle nofun)
  | notAcquired _ _ _ => exact settled_of_lost rfl
  | lost _ _ _ _ _ => exact settled_of_lost rfl
  | begun hIdle _ _ => exact settled_of_alive (.inr (.inl rfl)) (h.alive hIdle nofun)

/-- The end of a frame leaves the machine settled. -/
theorem Settled.of_endOutcome {f : Frame} {m : Synchronizer} {w : Rehearsal}
    {r : Except RenderError Unit} {t : Synchronizer × Rehearsal} (h : Settled m)
    (hOutcome : EndOutcome f m w r t) : Settled t.1 := by
  cases hOutcome with
  | refused _ => exact h
  | otherImage _ _ => exact h
  | lost _ _ _ _ _ => exact settled_of_lost rfl
  | outOfDate hRecording _ _ _ =>
    exact settled_of_alive (.inl rfl) (h.alive hRecording nofun)
  | finished hRecording _ _ _ _ =>
    exact settled_of_alive (.inl rfl) (h.alive hRecording nofun)

/-- A destroyed machine is lost, whatever it was. -/
theorem Settled.lost_of_destroy {s : Synchronizer × Rehearsal} (h : Settled s.1) :
    (Synchronizer.destroy s).1.state = .lost := by
  rw [Synchronizer.destroy]
  split
  · rename_i hDestroyed
    exact h.lost_of_destroyed hDestroyed
  · rfl

/-- Any call leaves the machine settled. -/
theorem Settled.of_call {s t : Session} {c : Call} (h : Settled s.machine)
    (hCall : s.call c = some t) : Settled t.machine := by
  cases callOutcome_of_call hCall with
  | began hOutcome => exact h.of_beginOutcome hOutcome
  | notBegan hOutcome => exact h.of_beginOutcome hOutcome
  | ended hOutcome => exact h.of_endOutcome hOutcome
  | setup _ => exact ⟨h.atRest, h.lost_of_destroyed⟩
  | flushed _ => exact ⟨h.atRest, h.lost_of_destroyed⟩
  | destroyed => exact settled_of_lost (Settled.lost_of_destroy h)
  | followed => exact h

/-- The machine is settled at any time. -/
theorem settled_of_reachable {allowed : Session → Call → Prop} {s : Session}
    (hReachable : Reachable allowed s) : Settled s.machine := by
  induction hReachable with
  | created hNew hRun =>
    cases ensures_create _ _ _ _ hRun with
    | created _ _ => exact settled_of_alive (.inl rfl) rfl
  | call c _ _ hCall ih => exact ih.of_call hCall

/-- A settled machine goes by the rules. -/
theorem Settled.transitions {s : Session} (h : Settled s.machine) : Transitions s where
  atRest := h.atRest
  beginRefused hState extent := start_expect_bind_of_ne hState _ _ _
  begins hIdle extent r t hRun := by
    have hOutcome := ensures_beginFrame extent _ _ _ _ hRun
    cases r <;> exact begins_of_outcome hIdle hOutcome
  beginReturns hImages extent :=
    returns_beginFrame extent s.machine fun signal => returns_acquire signal hImages
  endRefused hState f := start_expect_bind_of_ne hState _ _ _
  otherImage hRecording f hImage := start_endFrame_of_otherImage hRecording hImage
  ends hRecording f hImage r t hRun := by
    have hOutcome := ensures_endFrame f _ _ _ _ hRun
    -- a frame that is lost at its end is lost by a failure that the run notes
    have hBlamed := ensures_endFrame_blamed f _ _ hRecording _ _ hRun
    cases r with
    | ok _ => exact ends_of_outcome hRecording hImage hOutcome nofun
    | error e =>
      refine ends_of_outcome hRecording hImage hOutcome ?_
      rintro _ ⟨⟩ hLost
      exact hBlamed hLost
  endReturns hFrames f := returns_endFrame f s.world hFrames
  destroys := h.lost_of_destroy

/-- **The machine goes by its rules** at any time between calls: after any calls, with any frames
handed back, whatever fails and however the chain changes. -/
theorem transitions_of_reachable {s : Session} (hReachable : Reachable (fun _ _ => True) s) :
    Transitions s :=
  (settled_of_reachable hReachable).transitions

/-- A machine with a frame open on a chain of two images, and the wait for the device about to
fail. -/
theorem transitions_of_open_frame :
    let w : Rehearsal := { chain := { images := 2, extent := ⟨640, 480⟩ } }
    let script : Script := { waitFailure := some (.deviceLost "lost"), chain := w.chain }
    ∃ s, Reachable (fun _ _ => True) s ∧ s.machine.state = .recording ∧
      s.world.waitFailure = script.waitFailure ∧ Transitions s := by
  intro w script
  have hSteps : ∃ m w' s₁ s₂, Op.start (create default) w = some (.ok m, w') ∧
      Session.call ⟨m, w', none⟩ (.beginFrame ⟨640, 480⟩) = some s₁ ∧
      s₁.call (.follow script) = some s₂ ∧ s₂.machine.state = .recording ∧
      s₂.world.waitFailure = script.waitFailure :=
    ⟨_, _, _, _, rfl, rfl, rfl, rfl, rfl⟩
  obtain ⟨m, w', s₁, s₂, hRun, hBegin, hFollow, hState, hFailure⟩ := hSteps
  have hReachable : Reachable (fun _ _ => True) s₂ :=
    ((Reachable.created (w := w) rfl hRun).call _ trivial hBegin).call _ trivial hFollow
  exact ⟨s₂, hReachable, hState, hFailure, transitions_of_reachable hReachable⟩

end Session

end RenderLoop
