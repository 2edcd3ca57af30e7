import RenderLoop.Frame.Synchronizer
import RenderLoop.Proofs.Op.Within

/-!
# RenderLoop — what calls on the device keep to

A relation between worlds that every call on the device keeps to (`Steadfast`) is
kept by the recorder and by the frame machine as well, whatever becomes of a frame
(`Synchronizer.beyond_beginFrame`, `Synchronizer.beyond_endFrame`), and while the machine
is made and destroyed.
-/

namespace RenderLoop

open Op

/-- Relations that every call on the device keeps to. -/
class Steadfast {σ : Type} [FrameDevice σ] (R : σ → σ → Prop) : Prop extends Steady R where
  allocate : ∀ count, (FrameDevice.allocate count : Op σ _).Within R
  free : ∀ bs w, R w (FrameDevice.free bs w)
  reset : ∀ b, (FrameDevice.reset b : Op σ Unit).Within R
  beginBuffer : ∀ b, (FrameDevice.beginBuffer b : Op σ Unit).Within R
  endBuffer : ∀ b, (FrameDevice.endBuffer b : Op σ Unit).Within R
  record : ∀ b c w, R w (FrameDevice.record b c w)
  submit : ∀ b waits signals, (FrameDevice.submit b waits signals : Op σ Unit).Within R
  waitQueue : (FrameDevice.waitQueue : Op σ Unit).Within R

/-- The calls that create and destroy semaphores keep to the relation as well. -/
class SteadfastSemaphores {σ : Type} [FrameDevice σ] (R : σ → σ → Prop) : Prop extends
    Steadfast R where
  createSemaphore : (FrameDevice.createSemaphore : Op σ Semaphore).Within R
  destroySemaphore : ∀ x w, R w (FrameDevice.destroySemaphore x w)

/-- Every acquisition and every presentation keeps to it as well. -/
class SteadfastChain {σ : Type} [FrameWorld σ] (R : σ → σ → Prop) : Prop extends Steadfast R where
  acquire : ∀ signal, (FrameWorld.acquire signal : Op σ UInt32).Within R
  present : ∀ index waits, (FrameWorld.present index waits : Op σ Unit).Within R

/-- The worlds behind two states are in a relation. -/
def Beyond {σ ρ : Type} (R : σ → σ → Prop) (s t : ρ × σ) : Prop := R s.2 t.2

instance {σ ρ : Type} [Logging σ] {R : σ → σ → Prop} [hR : Steady R] :
    Steady (Beyond R : ρ × σ → ρ × σ → Prop) where
  refl s := hR.refl s.2
  trans h h' := hR.trans h h'
  push e s := hR.push e s.2

section Beyond

variable {σ ρ α : Type} {R : σ → σ → Prop}

/-- An operation on the world alone keeps to it beyond whatever stands before it. -/
theorem Op.Within.beyond {op : Op σ α} (hOp : op.Within R) :
    (op.onSecond : Op (ρ × σ) α).Within (Beyond R) :=
  hOp.on fun _ _ h => h

/-- A change of both keeps to a relation that it keeps to on the world. -/
theorem beyond_change {f : ρ × σ → ρ × σ} (h : ∀ s, R s.2 (f s).2) :
    (change f).Within (Beyond R) :=
  within_change h

/-- A change of the first component leaves the world as it is. -/
theorem beyond_first [Logging σ] [hR : Steady R] (f : ρ × σ → ρ) :
    (change fun s => (f s, s.2)).Within (Beyond R) :=
  within_change fun s => hR.refl s.2

/-- What a recorder keeps to, it keeps to inside a machine. -/
theorem Synchronizer.beyond_onRecorder {op : Op (Recorder × σ) α} (hOp : op.Within (Beyond R)) :
    (onRecorder op).Within (Beyond R) :=
  hOp.on fun _ _ h => h

end Beyond

-- ---------------------------------------------------------------------------
-- The recorder
-- ---------------------------------------------------------------------------

section Device

variable {σ : Type} [FrameDevice σ] {R : σ → σ → Prop} [hR : Steadfast R]

namespace Recorder

/-- A buffer that could not be begun is freed. -/
theorem within_beginNew : (beginNew : Op σ CommandBuffer).Within R := by
  have hOne : (allocateOne : Op σ CommandBuffer).Within R := by
    refine (hR.allocate 1).bind fun bs => ?_
    split
    · exact within_pure _
    · exact within_failWith _ _
  refine hOne.bind fun b => ?_
  refine ((hR.beginBuffer b).undoing (hR.free [b])).bind fun _ => ?_
  exact within_pure b

theorem beyond_beginSetup : (beginSetup : Op (Recorder × σ) CommandBuffer).Within (Beyond R) := by
  refine within_get.bind fun s => ?_
  split
  · exact within_pure _
  · refine within_beginNew.beyond.bind fun _ => ?_
    refine (beyond_first _).bind fun _ => ?_
    exact within_pure _

/-- The setup buffer is freed after its run, whatever came of the run. -/
theorem beyond_flushSetup : (flushSetup : Op (Recorder × σ) Unit).Within (Beyond R) := by
  have hRun : ∀ b, (runToEnd b : Op σ Unit).Within R := by
    intro b
    refine (hR.endBuffer b).bind fun _ => ?_
    refine (hR.submit b [] []).bind fun _ => ?_
    exact hR.waitQueue
  refine within_get.bind fun s => ?_
  split
  · exact within_pure _
  · rename_i b _
    refine (beyond_first _).bind fun _ => ?_
    refine (hRun b).beyond.attempt.bind fun _ => ?_
    refine (beyond_change fun s => hR.free [b] s.2).bind fun _ => ?_
    refine (within_log _).bind fun _ => ?_
    exact within_ofExcept _

theorem beyond_dropDraw (s : Recorder × σ) : Beyond R s (dropDraw s) := by
  rw [dropDraw]
  split
  · exact hR.refl s.2
  · exact hR.free _ s.2

/-- A draw buffer is reset, or all of them are dropped and allocated anew. -/
theorem beyond_drawBuffer (index images : UInt32) :
    (drawBuffer index images : Op (Recorder × σ) CommandBuffer).Within (Beyond R) := by
  have hDrawAt : (drawAt index : Op (Recorder × σ) CommandBuffer).Within (Beyond R) :=
    within_get.bind fun _ => within_ofOption _
  have hAllocate : (allocateDraw images : Op σ (List CommandBuffer)).Within R := by
    refine (hR.allocate images).bind fun bs => within_ite (within_pure bs) ?_
    exact (within_change (hR.free bs)).bind fun _ => within_failWith _ _
  have hDrop : (change dropDraw : Op (Recorder × σ) Unit).Within (Beyond R) :=
    within_change beyond_dropDraw
  -- out of range, present, or to be renewed
  refine within_ite (within_failWith _ _) (within_get.bind fun s => within_ite ?_ ?_)
  · refine hDrawAt.bind fun b => ?_
    refine (hR.reset b).beyond.bind fun _ => ?_
    exact within_pure b
  · exact (hDrop.bind fun _ => hAllocate.beyond.bind fun _ => beyond_first _).bind fun _ => hDrawAt

/-- A new recorder has buffers, which are freed if not all of them are there. -/
theorem within_create : (create : Op σ Recorder).Within R := by
  have hPresent : (allocatePresent : Op σ (CommandBuffer × CommandBuffer)).Within R := by
    refine (hR.allocate 2).bind fun bs => ?_
    split
    · exact within_pure _
    · exact (within_change (hR.free _)).bind fun _ => within_failWith _ _
  refine within_beginNew.bind fun b => ?_
  refine (hPresent.undoing (hR.free [b])).bind fun _ => ?_
  exact within_pure _

/-- Destroying a recorder only frees. -/
theorem beyond_destroy (s : Recorder × σ) : Beyond R s (destroy s) := by
  have hSetup : ∀ s : Recorder × σ, Beyond R s (dropSetup s) := by
    intro s
    rw [dropSetup]
    split
    · exact hR.free _ s.2
    · exact hR.refl s.2
  -- the buffers around the presentation are freed last
  -- the buffers around the presentation are freed last
  rw [destroy]
  split
  · exact hR.refl s.2
  · have hDropped := hSetup ({ s.1 with destroyed := true }, s.2)
    exact hR.trans (hR.trans hDropped (beyond_dropDraw _)) (hR.free _ _)

end Recorder

-- ---------------------------------------------------------------------------
-- The frame machine
-- ---------------------------------------------------------------------------

namespace Synchronizer

variable {α : Type}

theorem beyond_enter (state : FrameState) :
    (enter state : Op (Synchronizer × σ) Unit).Within (Beyond R) :=
  beyond_first _

section Lose

variable {R : Synchronizer × σ → Synchronizer × σ → Prop} [Steady R]

theorem within_expect (expected : FrameState) (operation : String) :
    (expect expected operation : Op (Synchronizer × σ) Unit).Within R := by
  refine within_get.bind fun s => ?_
  split
  · exact within_throw _
  · exact within_pure _

/-- Losing the machine is an entry of the log and a change of state. -/
theorem within_lose (hEnter : (enter .lost : Op (Synchronizer × σ) Unit).Within R) (e : RenderError) :
    (lose e : Op (Synchronizer × σ) α).Within R := by
  refine within_get.bind fun _ => ?_
  refine (within_log _).bind fun _ => ?_
  refine hEnter.bind fun _ => ?_
  exact within_failWith _ _

/-- A failure of an operation ends in the state `lost`, and the relation reaches as far. -/
theorem within_orLose (hEnter : (enter .lost : Op (Synchronizer × σ) Unit).Within R)
    {op : Op (Synchronizer × σ) α} (hOp : op.Within R) : (orLose op).Within R := by
  refine hOp.attempt.bind fun r => ?_
  split
  · exact within_pure _
  · exact within_lose hEnter _

end Lose

theorem beyond_lose (e : RenderError) : (lose e : Op (Synchronizer × σ) α).Within (Beyond R) :=
  within_lose (beyond_enter _) e

theorem beyond_orLose {op : Op (Synchronizer × σ) α} (hOp : op.Within (Beyond R)) :
    (orLose op).Within (Beyond R) :=
  within_orLose (beyond_enter _) hOp

/-- Commands are recorded one after another. -/
theorem within_recordAll (b : CommandBuffer) (cs : List Command) (w : σ) :
    R w (FrameDevice.recordAll b cs w) := by
  induction cs generalizing w with
  | nil => exact hR.refl w
  | cons c rest ih => exact hR.trans (hR.record b c w) (ih _)

/-- The opening of a frame takes a draw buffer, begins it and records into it. -/
theorem beyond_recordOpening (index images : UInt32) (extent : Extent) :
    (recordOpening index images extent : Op (Synchronizer × σ) CommandBuffer).Within (Beyond R) := by
  refine (beyond_onRecorder (Recorder.beyond_drawBuffer index images)).bind fun b => ?_
  refine (hR.beginBuffer b).beyond.bind fun _ => ?_
  refine (beyond_change fun s => within_recordAll b _ s.2).bind fun _ => ?_
  exact within_pure b

theorem within_submitDraw (b : CommandBuffer) (ready done : Semaphore) :
    (submitDraw b ready done : Op σ Unit).Within R := by
  refine (within_change (hR.record b _)).bind fun _ => ?_
  refine (hR.endBuffer b).bind fun _ => ?_
  exact hR.submit b _ _

theorem within_submitBarrier (b : CommandBuffer) (index : UInt32) (t : ImageTransition) :
    (submitBarrier b index t : Op σ Unit).Within R := by
  refine (hR.beginBuffer b).bind fun _ => ?_
  refine (within_change (hR.record b _)).bind fun _ => ?_
  refine (hR.endBuffer b).bind fun _ => ?_
  exact hR.submit b _ _

end Synchronizer

end Device

-- ---------------------------------------------------------------------------
-- Beginning and end
-- ---------------------------------------------------------------------------

namespace Synchronizer

variable {σ : Type} [FrameDevice σ] {R : σ → σ → Prop} [hR : SteadfastSemaphores R]

/-- Making a frame machine keeps to what the device keeps to, whatever is taken back. -/
theorem within_create (clearColor : Color) : (create clearColor : Op σ Synchronizer).Within R := by
  have hSemaphores : (createSemaphores : Op σ (Semaphore × Semaphore)).Within R := by
    refine hR.createSemaphore.bind fun first => ?_
    refine (hR.createSemaphore.undoing (hR.destroySemaphore first)).bind fun _ => ?_
    exact within_pure _
  refine Recorder.within_create.bind fun recorder => ?_
  refine (hSemaphores.undoing fun w => Recorder.beyond_destroy (recorder, w)).bind fun _ => ?_
  exact within_pure _

/-- Destroying a frame machine keeps to what the device keeps to. -/
theorem beyond_destroy (s : Synchronizer × σ) : Beyond R s (destroy s) := by
  rw [destroy]
  split
  · exact hR.refl s.2
  · have hRecorder : R s.2 (Recorder.destroy (s.1.recorder, s.2)).2 := Recorder.beyond_destroy _
    exact hR.trans hRecorder (hR.trans (hR.destroySemaphore _ _) (hR.destroySemaphore _ _))

end Synchronizer

-- ---------------------------------------------------------------------------
-- Frames
-- ---------------------------------------------------------------------------

namespace Synchronizer

variable {σ : Type} [FrameWorld σ]

theorem within_expectCurrent {R : Synchronizer × σ → Synchronizer × σ → Prop} [Steady R] (f : Frame) :
    (expectCurrent f : Op (Synchronizer × σ) Unit).Within R := by
  refine within_get.bind fun _ => ?_
  exact within_ite (within_get.bind fun _ => within_throw _) (within_pure ())

variable {R : σ → σ → Prop} [hR : SteadfastChain R]

/-- An acquisition ends with an image, with a chain out of date, or with the machine lost. -/
theorem beyond_acquireImage : (acquireImage : Op (Synchronizer × σ) UInt32).Within (Beyond R) := by
  refine (beyond_enter _).bind fun _ => ?_
  refine within_get.bind fun s => ?_
  refine (hR.acquire s.1.presentComplete).beyond.attempt.bind fun r => ?_
  split
  · exact (within_log _).bind fun _ => within_pure _
  · exact (beyond_enter _).bind fun _ => within_failWith _ _
  · exact beyond_lose _

/-- Beginning a frame keeps to what the device keeps to. -/
theorem beyond_beginFrame (extent : Extent) :
    (beginFrame extent : Op (Synchronizer × σ) Frame).Within (Beyond R) := by
  refine (within_expect _ _).bind fun _ => ?_
  refine beyond_acquireImage.bind fun _ => ?_
  refine within_get.bind fun _ => ?_
  refine (beyond_orLose (beyond_recordOpening _ _ _)).bind fun _ => ?_
  refine (beyond_enter _).bind fun _ => ?_
  exact within_pure _

theorem beyond_presentImage (index : UInt32) :
    (presentImage index : Op (Synchronizer × σ) Bool).Within (Beyond R) := by
  refine within_get.bind fun s => ?_
  refine (hR.present index [s.1.renderComplete]).beyond.attempt.bind fun r => ?_
  -- presented, out of date, or lost
  split
  · exact within_pure _
  · exact (within_log _).bind fun _ => within_pure _
  · exact beyond_lose _

/-- Ending a frame keeps to what the device keeps to. -/
theorem beyond_endFrame (f : Frame) :
    (endFrame f : Op (Synchronizer × σ) Unit).Within (Beyond R) := by
  have hDraw : (finishDraw f : Op (Synchronizer × σ) Unit).Within (Beyond R) := by
    refine within_get.bind fun _ => ?_
    refine (beyond_orLose (within_submitDraw _ _ _).beyond).bind fun _ => ?_
    exact beyond_enter _
  have hPre : (finishPre f : Op (Synchronizer × σ) Unit).Within (Beyond R) :=
    within_get.bind fun _ => beyond_orLose (within_submitBarrier _ _ _).beyond
  have hPost : (finishPost f : Op (Synchronizer × σ) Unit).Within (Beyond R) := by
    refine within_get.bind fun _ => ?_
    refine (beyond_orLose ((within_submitBarrier _ _ _).bind fun _ => hR.waitQueue).beyond).bind
      fun _ => ?_
    exact beyond_enter _
  have hCount : (countFrame : Op (Synchronizer × σ) Unit).Within (Beyond R) := by
    refine within_get.bind fun _ => ?_
    refine (within_ofOption _).bind fun _ => ?_
    exact beyond_first _
  -- both checks, then the frame in the order it is finished
  refine (within_expect _ _).bind fun _ => ?_
  refine (within_expectCurrent f).bind fun _ => ?_
  refine hDraw.bind fun _ => ?_
  refine hPre.bind fun _ => ?_
  refine (beyond_presentImage _).bind fun _ => ?_
  refine (beyond_enter _).bind fun _ => ?_
  refine hPost.bind fun _ => ?_
  refine (beyond_enter _).bind fun _ => ?_
  exact within_ite hCount (within_throw _)

end Synchronizer

end RenderLoop
