import RenderLoop.Proofs.Frame.Machine
import RenderLoop.Proofs.Frame.Steadfast

/-!
# RenderLoop — frames come to an end

Where every call on the device is answered (`Answering`), so is every operation of
the recorder and of the frame machine, from any world. There are three that may be
abandoned: the acquisition of an image, if the chain has none to hand out; the
choice of a draw buffer, which a recorder has for every image once it renewed them
(`total_drawBuffer`); and the counting of a frame, once the counter has run out
(`returns_endFrame`).
-/

namespace RenderLoop

open Op

/-- Every call on the device is answered. -/
class Answering (σ : Type) [FrameDevice σ] : Prop where
  allocate : ∀ count, (FrameDevice.allocate count : Op σ _).Total
  reset : ∀ b, (FrameDevice.reset b : Op σ Unit).Total
  beginBuffer : ∀ b, (FrameDevice.beginBuffer b : Op σ Unit).Total
  endBuffer : ∀ b, (FrameDevice.endBuffer b : Op σ Unit).Total
  submit : ∀ b waits signals, (FrameDevice.submit b waits signals : Op σ Unit).Total
  waitQueue : (FrameDevice.waitQueue : Op σ Unit).Total

/-- Every presentation is answered as well. -/
class Presenting (σ : Type) [FrameWorld σ] : Prop extends Answering σ where
  present : ∀ index waits, (FrameWorld.present index waits : Op σ Unit).Total

-- ---------------------------------------------------------------------------
-- The recorder
-- ---------------------------------------------------------------------------

namespace Recorder

variable {σ : Type}

/-- There is a buffer for every image. -/
theorem returns_drawAt {index images : UInt32} (hIndex : index < images) {s : Recorder × σ}
    (hCount : s.1.draw.length = images.toNat) :
    (drawAt index : Op (Recorder × σ) CommandBuffer).Returns s := by
  refine total_get.returns_bind ?_
  rw [ensures_get, returns_ofOption, isSome_getElem?, hCount]
  exact UInt32.lt_iff_toNat_lt.mp hIndex

/-- Draw buffers are only kept in the number of the images. -/
theorem length_allocateDraw [FrameDevice σ] (images : UInt32) (w : σ) :
    (allocateDraw images : Op σ (List CommandBuffer)).Ensures w
      (fun bs _ => bs.length = images.toNat) (fun _ _ => True) := by
  rw [allocateDraw, ensures_bind]
  refine (ensures_true _ w).mono (fun bs t _ => ?_) fun _ _ h => h
  refine ensures_ite (fun hCount => ?_) fun _ => ?_
  · rw [ensures_pure]
    exact hCount
  · rw [ensures_bind, ensures_change, failBackend, ensures_failWith]
    exact trivial

section Device

variable [FrameDevice σ] [hDevice : Answering σ]

/-- A new buffer is begun, or the failure is answered. -/
theorem total_beginNew : (beginNew : Op σ CommandBuffer).Total := by
  refine ((hDevice.allocate 1).bind fun bs => ?_).bind fun b =>
    ((hDevice.beginBuffer b).undoing _).bind fun _ => total_pure b
  cases bs with
  | nil => exact total_failWith _ _
  | cons b others => exact total_pure b

/-- A setup buffer is begun, or the attempt fails. -/
theorem total_beginSetup : (beginSetup : Op (Recorder × σ) CommandBuffer).Total := by
  refine total_get.bind fun s => ?_
  split
  · exact total_pure _
  · refine total_beginNew.onSecond.bind fun _ => ?_
    refine (total_change _).bind fun _ => ?_
    exact total_pure _

theorem total_runToEnd (b : CommandBuffer) : (runToEnd b : Op σ Unit).Total := by
  refine (hDevice.endBuffer b).bind fun _ => ?_
  refine (hDevice.submit b [] []).bind fun _ => ?_
  exact hDevice.waitQueue

/-- Flushing ends, whatever the run of the buffer came to. -/
theorem total_flushSetup : (flushSetup : Op (Recorder × σ) Unit).Total := by
  refine total_get.bind fun s => ?_
  split
  · exact total_pure _
  · refine (total_change _).bind fun _ => ?_
    refine (total_runToEnd _).onSecond.attempt.bind fun _ => ?_
    refine (total_change _).bind fun _ => ?_
    refine (total_log _).bind fun _ => ?_
    exact total_ofExcept _

theorem total_allocateDraw (images : UInt32) :
    (allocateDraw images : Op σ (List CommandBuffer)).Total := by
  refine (hDevice.allocate images).bind fun bs => total_ite (total_pure bs) ?_
  exact (total_change _).bind fun _ => total_failWith _ _

/-- There is a draw buffer for every image, at the latest once they are renewed. -/
theorem total_drawBuffer (index images : UInt32) :
    (drawBuffer index images : Op (Recorder × σ) CommandBuffer).Total := by
  intro s
  rw [drawBuffer]
  split
  · exact total_failWith _ _ s
  · rename_i hIndex
    have hLess : index < images := UInt32.not_le.mp hIndex
    refine total_get.returns_bind ?_
    rw [ensures_get]
    split
    · rename_i hCount
      -- a buffer for every image is there already
      rw [Op.returns_bind]
      refine ⟨returns_drawAt hLess hCount, (ensures_true _ s).mono (fun b t _ => ?_) fun _ _ h => h⟩
      exact ((hDevice.reset b).onSecond.bind fun _ => total_pure b) t
    · -- else they are allocated anew, in the number of the images, and the draw buffer is among
      -- them
      have hRenew : (renewDraw images : Op (Recorder × σ) Unit).Total := by
        refine (total_change _).bind fun _ => ?_
        refine (total_allocateDraw images).onSecond.bind fun _ => ?_
        exact total_change _
      refine hRenew.returns_bind ?_
      simp only [renewDraw, ensures_bind, ensures_change, ensures_onSecond]
      refine (length_allocateDraw images _).mono ?_ (fun _ _ _ => trivial)
      exact fun bs _ hCount => returns_drawAt hLess hCount

end Device

end Recorder

-- ---------------------------------------------------------------------------
-- The machine
-- ---------------------------------------------------------------------------

namespace Synchronizer

variable {σ : Type}

/-- Entering a state cannot fail. -/
theorem total_enter (state : FrameState) : (enter state : Op (Synchronizer × σ) Unit).Total :=
  total_change _

theorem total_expect (expected : FrameState) (operation : String) :
    (expect expected operation : Op (Synchronizer × σ) Unit).Total := by
  refine total_get.bind fun s => ?_
  split
  · exact total_throw _
  · exact total_pure _

section Device

variable [FrameDevice σ]

/-- Losing the machine ends. -/
theorem total_lose {α : Type} (e : RenderError) : (lose e : Op (Synchronizer × σ) α).Total := by
  refine total_get.bind fun _ => ?_
  refine (total_log _).bind fun _ => ?_
  refine (total_enter _).bind fun _ => ?_
  exact total_failWith _ _

/-- An operation that loses the machine where it fails comes to an end if the operation does. -/
theorem total_orLose {α : Type} {op : Op (Synchronizer × σ) α} (hOp : op.Total) :
    (orLose op).Total := by
  refine hOp.attempt.bind fun r => ?_
  split
  · exact total_pure _
  · exact total_lose _

variable [hDevice : Answering σ]

/-- The opening of a frame is recorded, or the failure is answered. -/
theorem total_recordOpening (index images : UInt32) (extent : Extent) :
    (recordOpening index images extent : Op (Synchronizer × σ) CommandBuffer).Total := by
  refine ((Recorder.total_drawBuffer index images).on _ _).bind fun b => ?_
  refine (hDevice.beginBuffer b).onSecond.bind fun _ => ?_
  refine (total_change _).bind fun _ => ?_
  exact total_pure b

/-- A barrier is submitted, or the attempt fails. -/
theorem total_submitBarrier (b : CommandBuffer) (index : UInt32) (t : ImageTransition) :
    (submitBarrier b index t : Op σ Unit).Total := by
  refine (hDevice.beginBuffer b).bind fun _ => ?_
  refine (total_change _).bind fun _ => ?_
  refine (hDevice.endBuffer b).bind fun _ => ?_
  exact hDevice.submit b [] []

end Device

section World

variable [FrameWorld σ]

theorem total_expectCurrent (f : Frame) :
    (expectCurrent f : Op (Synchronizer × σ) Unit).Total := by
  refine total_get.bind fun _ => ?_
  exact total_ite (total_get.bind fun _ => total_throw _) (total_pure ())

variable [hWorld : Presenting σ]

/-- A frame's own buffer is ended and submitted, or the attempt fails. -/
theorem total_finishDraw (f : Frame) : (finishDraw f : Op (Synchronizer × σ) Unit).Total := by
  have hSubmit : ∀ ready done, (submitDraw f.buffer ready done : Op σ Unit).Total := by
    intro ready done
    refine (total_change _).bind fun _ => ?_
    refine (hWorld.endBuffer _).bind fun _ => ?_
    exact hWorld.submit _ _ _
  refine total_get.bind fun _ => ?_
  refine (total_orLose (hSubmit _ _).onSecond).bind fun _ => ?_
  exact total_enter _

theorem total_finishPre (f : Frame) : (finishPre f : Op (Synchronizer × σ) Unit).Total := by
  refine total_get.bind fun _ => ?_
  exact total_orLose (total_submitBarrier _ _ _).onSecond

/-- The last barrier is submitted and waited for, or the machine is lost. -/
theorem total_finishPost (f : Frame) : (finishPost f : Op (Synchronizer × σ) Unit).Total := by
  refine total_get.bind fun _ => ?_
  refine (total_orLose ((total_submitBarrier _ _ _).bind fun _ => hWorld.waitQueue).onSecond).bind
    fun _ => ?_
  exact total_enter _

/-- A presentation is answered: with success, with a chain out of date, or with another failure. -/
theorem total_presentImage (index : UInt32) :
    (presentImage index : Op (Synchronizer × σ) Bool).Total := by
  refine total_get.bind fun _ => ?_
  refine (hWorld.present _ _).onSecond.attempt.bind fun r => ?_
  split
  · exact total_pure _
  · exact (total_log _).bind fun _ => total_pure _
  · exact total_lose _

end World

-- ---------------------------------------------------------------------------
-- The machine stays as it is
-- ---------------------------------------------------------------------------

/-- No frame was counted. -/
def SameCount (s t : Synchronizer × σ) : Prop := t.1.framesCompleted = s.1.framesCompleted

instance [Logging σ] : Steady (SameCount : Synchronizer × σ → Synchronizer × σ → Prop) where
  refl _ := rfl
  trans h h' := Eq.trans h' h
  push _ _ := rfl

/-- The world alone counts nothing. -/
theorem within_onSecond {α : Type} (op : Op σ α) :
    (op.onSecond : Op (Synchronizer × σ) α).Within SameCount := by
  intro s
  rw [ensures_onSecond]
  exact (ensures_true op s.2).mono (fun _ _ _ => rfl) fun _ _ _ => rfl

theorem within_enter (state : FrameState) :
    (enter state : Op (Synchronizer × σ) Unit).Within SameCount :=
  within_change fun _ => rfl

section Device

variable [FrameDevice σ]

/-- The opening of a frame counts nothing. -/
theorem within_recordOpening (index images : UInt32) (extent : Extent) :
    (recordOpening index images extent : Op (Synchronizer × σ) CommandBuffer).Within SameCount := by
  have hBuffer : (onRecorder (Recorder.drawBuffer index images) :
      Op (Synchronizer × σ) CommandBuffer).Within SameCount := by
    intro s
    rw [onRecorder, ensures_on]
    exact (ensures_true _ _).mono (fun _ _ _ => rfl) fun _ _ _ => rfl
  have hRecord : ∀ f : Synchronizer × σ → σ,
      (change fun s : Synchronizer × σ => (s.1, f s)).Within SameCount :=
    fun f => within_change fun _ => rfl
  refine hBuffer.bind fun _ => ?_
  refine (within_onSecond _).bind fun _ => ?_
  refine (hRecord _).bind fun _ => ?_
  exact within_pure _

end Device

section World

variable [FrameWorld σ]

theorem within_finishDraw (f : Frame) :
    (finishDraw f : Op (Synchronizer × σ) Unit).Within SameCount := by
  refine within_get.bind fun _ => ?_
  refine (within_orLose (within_enter _) (within_onSecond _)).bind fun _ => ?_
  exact within_enter _

theorem within_finishPre (f : Frame) :
    (finishPre f : Op (Synchronizer × σ) Unit).Within SameCount := by
  refine within_get.bind fun _ => ?_
  exact within_orLose (within_enter _) (within_onSecond _)

theorem within_finishPost (f : Frame) :
    (finishPost f : Op (Synchronizer × σ) Unit).Within SameCount := by
  refine within_get.bind fun _ => ?_
  refine (within_orLose (within_enter _) (within_onSecond _)).bind fun _ => ?_
  exact within_enter _

/-- An acquisition counts nothing. -/
theorem within_acquireImage :
    (acquireImage : Op (Synchronizer × σ) UInt32).Within SameCount := by
  refine (within_enter _).bind fun _ => ?_
  refine within_get.bind fun _ => ?_
  refine (within_onSecond _).attempt.bind fun r => ?_
  split
  · exact (within_log _).bind fun _ => within_pure _
  · exact (within_enter _).bind fun _ => within_failWith _ _
  · exact within_lose (within_enter _) _

/-- Beginning a frame counts none. -/
theorem within_beginFrame (extent : Extent) :
    (beginFrame extent : Op (Synchronizer × σ) Frame).Within SameCount := by
  refine (within_expect _ _).bind fun _ => ?_
  refine within_acquireImage.bind fun _ => ?_
  refine within_get.bind fun _ => ?_
  refine (within_orLose (within_enter _) (within_recordOpening _ _ _)).bind fun _ => ?_
  refine (within_enter _).bind fun _ => ?_
  exact within_pure _

theorem within_presentImage (index : UInt32) :
    (presentImage index : Op (Synchronizer × σ) Bool).Within SameCount := by
  refine within_get.bind fun _ => ?_
  refine (within_onSecond _).attempt.bind fun r => ?_
  split
  · exact within_pure _
  · exact (within_log _).bind fun _ => within_pure _
  · exact within_lose (within_enter _) _

end World

-- ---------------------------------------------------------------------------
-- Frames
-- ---------------------------------------------------------------------------

/-- A frame begins, or fails to, where an image can be acquired. -/
theorem returns_beginFrame [FrameWorld σ] [Presenting σ] (extent : Extent) (m : Synchronizer) {w : σ}
    (hAcquire : ∀ signal, (FrameWorld.acquire signal : Op σ UInt32).Returns w) :
    (beginFrame extent : Op (Synchronizer × σ) Frame).Returns (m, w) := by
  refine (total_expect _ _).returns_bind ?_
  refine ensures_expect _ _ m w (fun _ => ?_) fun _ _ => trivial
  rw [Op.returns_bind]
  constructor
  · refine (total_enter _).returns_bind ?_
    simp only [enter, ensures_change, Op.returns_bind, returns_get, ensures_get, true_and,
      returns_attempt, returns_onSecond]
    refine ⟨hAcquire _, (ensures_true _ _).mono (fun r t _ => ?_) fun _ _ h => h⟩
    split
    · -- whatever the acquisition comes to, what follows it ends
      exact ((total_log _).bind fun _ => total_pure _) t
    · exact ((total_enter _).bind fun _ => total_failWith _ _) t
    · exact total_lose _ t
  · refine (ensures_true _ _).mono (fun index t _ => ?_) fun _ _ h => h
    exact (total_get.bind fun _ => (total_orLose (total_recordOpening _ _ _)).bind fun _ =>
      (total_enter _).bind fun _ => total_pure _) t

/-- A frame is counted while the counter has not run out. -/
theorem returns_countFrame {s : Synchronizer × σ}
    (hFrames : s.1.framesCompleted.toNat + 1 < UInt64.size) :
    (countFrame : Op (Synchronizer × σ) Unit).Returns s := by
  refine total_get.returns_bind ?_
  rw [ensures_get, Op.returns_bind, returns_ofOption]
  constructor
  · have hCount : Checked.add64 s.1.framesCompleted 1 =
        some (UInt64.ofNat (s.1.framesCompleted.toNat + 1)) := by
      rw [Checked.add64_eq_some_iff, UInt64.toNat_ofNat_of_lt' hFrames]
      rfl
    rw [hCount]
    rfl
  · rw [ensures_ofOption]
    exact fun n _ => total_change _ s

/-- A frame ends, or fails to, where it can be counted. -/
theorem returns_endFrame [FrameWorld σ] [Presenting σ] (f : Frame) {m : Synchronizer} (w : σ)
    (hFrames : m.framesCompleted.toNat + 1 < UInt64.size) :
    (endFrame f : Op (Synchronizer × σ) Unit).Returns (m, w) := by
  refine (total_expect _ _).returns_bind_within (within_expect (R := SameCount) _ _)
    fun _ s₁ h₁ => ?_
  refine (total_expectCurrent f).returns_bind_within (within_expectCurrent (R := SameCount) f)
    fun _ s₂ h₂ => ?_
  refine (total_finishDraw f).returns_bind_within (within_finishDraw f) fun _ s₃ h₃ => ?_
  refine (total_finishPre f).returns_bind_within (within_finishPre f) fun _ s₄ h₄ => ?_
  refine (total_presentImage _).returns_bind_within (within_presentImage _) fun presented s₅ h₅ => ?_
  refine (total_enter _).returns_bind_within (within_enter _) fun _ s₆ h₆ => ?_
  refine (total_finishPost f).returns_bind_within (within_finishPost f) fun _ s₇ h₇ => ?_
  refine (total_enter _).returns_bind_within (within_enter _) fun _ s₈ h₈ => ?_
  -- no step counted, so that the counter is still the one of the beginning
  cases presented with
  | true =>
    refine returns_countFrame ?_
    rw [h₈, h₇, h₆, h₅, h₄, h₃, h₂, h₁]
    exact hFrames
  | false => exact total_throw _ _

end Synchronizer

end RenderLoop
