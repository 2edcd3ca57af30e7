import RenderLoop.Proofs.Frame.Session
import RenderLoop.Proofs.Frame.Totality

/-!
# RenderLoop — no call is abandoned

A chain with images always has one to hand out, and a recorder that renewed its
draw buffers has one for each of them. So a call of a session whose chain has images
comes to an end, with an answer or with a failure, as long as its frames can be
counted (`isSome_call`).

Most operations come to an end from any world (`Op.Total`); the three that may not
are the acquisition of an image, the choice of a draw buffer and the counting of a
frame.
-/

namespace RenderLoop

open Rehearsal

open Op

-- ---------------------------------------------------------------------------
-- The device
-- ---------------------------------------------------------------------------

namespace Rehearsal

theorem total_note (e : DeviceEvent) : (note e).Total := total_change _

/-- A call that may be refused is answered, if it is answered when it is not refused. -/
theorem total_unlessRefused {α : Type} (c : DeviceCall) {op : Op Rehearsal α} (hOp : op.Total) :
    (unlessRefused c op).Total := by
  refine total_get.bind fun w => ?_
  split
  · exact (total_note _).bind fun _ => total_throw _
  · exact hOp

theorem total_allocate (count : UInt32) :
    (FrameDevice.allocate count : Op Rehearsal (List CommandBuffer)).Total := by
  refine total_unlessRefused _ ?_
  refine total_get.bind fun _ => ?_
  refine (total_change _).bind fun _ => ?_
  refine (total_note _).bind fun _ => ?_
  exact total_pure _

theorem total_reset (b : CommandBuffer) : (FrameDevice.reset b : Op Rehearsal Unit).Total :=
  total_unlessRefused _ (total_note _)

theorem total_beginBuffer (b : CommandBuffer) :
    (FrameDevice.beginBuffer b : Op Rehearsal Unit).Total :=
  total_unlessRefused _ (total_note _)

theorem total_endBuffer (b : CommandBuffer) : (FrameDevice.endBuffer b : Op Rehearsal Unit).Total :=
  total_unlessRefused _ (total_note _)

/-- A submission is answered, also the one that fails. -/
theorem total_submit (b : CommandBuffer) (waits : List (Semaphore × PipelineStages))
    (signals : List Semaphore) : (FrameDevice.submit b waits signals : Op Rehearsal Unit).Total := by
  refine total_unlessRefused _ (total_get.bind fun w => ?_)
  split
  · refine (total_change _).bind fun _ => ?_
    refine (total_note _).bind fun _ => ?_
    exact total_throw _
  · exact total_note _

/-- A wait is answered. -/
theorem total_waitQueue : (FrameDevice.waitQueue : Op Rehearsal Unit).Total := by
  refine total_unlessRefused _ (total_get.bind fun w => ?_)
  split
  · refine (total_change _).bind fun _ => ?_
    refine (total_note _).bind fun _ => ?_
    exact total_throw _
  · exact total_note _

/-- A presentation is answered with the outcome that the chain has for it. -/
theorem total_present (index : UInt32) (waits : List Semaphore) :
    (FrameWorld.present index waits : Op Rehearsal Unit).Total := by
  show (present index waits).Total
  refine total_get.bind fun _ => ?_
  refine (total_change _).bind fun _ => ?_
  refine (total_note _).bind fun _ => ?_
  exact total_ofExcept _

/-- A chain with images has one to hand out. -/
theorem returns_acquire (signal : Semaphore) {w : Rehearsal} (hImages : w.chain.images ≠ 0) :
    (FrameWorld.acquire signal : Op Rehearsal UInt32).Returns w := by
  show (acquire signal).Returns w
  refine total_get.returns_bind ?_
  rw [ensures_get, Op.returns_bind, returns_ofOption]
  constructor
  · -- the script has an outcome, or the chain goes on to its next image
    rw [nextImage]
    split
    · rfl
    · rw [if_neg hImages]
      rfl
  · rw [ensures_ofOption]
    intro next _
    exact (total_change _).bind (fun _ => (total_note _).bind fun _ => total_ofExcept _) w

instance : Presenting Rehearsal where
  allocate := total_allocate
  reset := total_reset
  beginBuffer := total_beginBuffer
  endBuffer := total_endBuffer
  submit := total_submit
  waitQueue := total_waitQueue
  present := total_present

end Rehearsal

-- ---------------------------------------------------------------------------
-- Sessions
-- ---------------------------------------------------------------------------

/-- **No call is abandoned** while the chain has images and the next frame can be counted. -/
theorem Session.isSome_call (s : Session) (c : Call) (hImages : s.world.chain.images ≠ 0)
    (hFrames : s.machine.framesCompleted.toNat + 1 < UInt64.size) : (s.call c).isSome := by
  -- a chain to acquire from matters to the beginning of a frame, the counter to its end
  cases c with
  | beginFrame extent =>
    rw [call, Option.isSome_map]
    exact Synchronizer.returns_beginFrame extent s.machine fun signal => returns_acquire signal hImages
  | endFrame f =>
    rw [call, Option.isSome_map]
    exact Synchronizer.returns_endFrame f s.world hFrames
  | beginSetup =>
    rw [call, Option.isSome_map]
    exact Recorder.total_beginSetup.on _ _ _
  | flushSetup =>
    rw [call, Option.isSome_map]
    exact Recorder.total_flushSetup.on _ _ _
  | destroy => rfl
  | follow script => rfl

end RenderLoop
