import RenderLoop.Proofs.Renderer.Attested
import RenderLoop.Proofs.Renderer.FrameData

/-!
# RenderLoop — one frame, one image

A **picture** is an image of a swapchain with everything that a frame for it refers to:
its view, the framebuffer made of that view, the depth image beside it and the pass
(`Picture`). What belongs together in it can be read off the calls that made its parts
(`Picture.MadeIn`), and of the current screen there is one for each index
(`Screened.picture`).

A frame begins on the picture of the index that it acquired, and ends on the same one:
render pass, barriers and presentation all name parts of it, and everything has the size
of its swapchain (`oneImage_of_beginFrame`). What is called in between does not matter,
as long as it is not the end of the frame.
-/

namespace RenderLoop

open GpuHistory Op

-- ---------------------------------------------------------------------------
-- Pictures
-- ---------------------------------------------------------------------------

/-- An image of a swapchain, and what a frame for it refers to. -/
structure Picture where
  chain : Handle
  index : UInt32
  image : Handle
  view : Handle
  depth : Handle
  depthView : Handle
  pass : Handle
  framebuffer : Handle
  extent : Extent
  deriving DecidableEq, Repr, Inhabited

namespace Picture

/-- The parts of a picture belong together. The chain was asked for in the size of the picture, and
the image is the one of the chain at the index. The framebuffer was made for the pass, of the view of
that image and of the view of the depth image, in the same size; and the depth image was moved to its
layout by a buffer that was submitted and waited for. -/
structure MadeIn (p : Picture) (h : GpuHistory) : Prop where
  chain : ∃ request, Made h (.swapchain request) p.chain ∧ request.extent = p.extent
  image : ∃ images, Listed h p.chain images ∧ images[p.index.toNat]? = some p.image
  view : ViewOf h p.image p.view
  depthView : ViewOf h p.depth p.depthView
  pass : ∃ color depth, Made h (.renderPass color depth) p.pass
  framebuffer : Made h (.framebuffer p.pass [p.view, p.depthView] p.extent) p.framebuffer
  settled : Settled h p.depth

/-- What the device looks up at the index is the picture. -/
structure Told (p : Picture) (t : FrameTargets) : Prop where
  pass : t.pass = p.pass
  framebuffer : t.framebuffers[p.index.toNat]? = some p.framebuffer
  image : t.images[p.index.toNat]? = some p.image

/-- The commands that open a render pass on a picture, the last one first. -/
def opening (p : Picture) (clears : List ClearValue) : List GpuCommand :=
  [.beginRenderPass p.pass p.framebuffer (.ofExtent p.extent) clears,
    .setScissor (.ofExtent p.extent), .setViewport (.ofExtent p.extent)]

/-- The calls at the end of a frame on a picture, the last one first: the draw buffer is submitted,
and the image is moved for presentation, presented, and moved back, unless the presentation loses the
machine. -/
def ending (p : Picture) (f : Frame) (m : Synchronizer) (code : ResultCode) : GpuHistory :=
  (if code.isLoss then []
    else did (Synchronizer.barrierCalls m.recorder.postPresent p.image .postPresent ++
      [.waitQueue])) ++
  ⟨.present [m.renderComplete.handle] p.chain p.index, .presented code⟩ ::
    did (Synchronizer.closingCalls f.buffer m.presentComplete m.renderComplete ++
      Synchronizer.barrierCalls m.recorder.prePresent p.image .prePresent)

end Picture

namespace Renderer

variable {s t u v : Renderer × Host} {p : Picture} {f : Frame} {request : Request}

/-- A frame ends on a picture. Anything after that is because its chain is out of date. -/
def Closes (p : Picture) (f : Frame) (u v : Renderer × Host) : Prop :=
  ∃ code later, v.2.gpu.history = later ++ p.ending f u.1.machine code ++ u.2.gpu.history ∧
    (code ≠ .outOfDate → later = [])

/-- A frame is held on a picture: the picture is still the one that the device looks up, and since the
render pass began, there was nothing but drawing. -/
structure Held (p : Picture) (f : Frame) (s : Renderer × Host) : Prop where
  frame : s.1.frame = some f
  chain : s.1.swapchain.handle = p.chain
  told : p.Told s.1.device.targets
  drawn : ∃ clears cs, commands f.buffer.handle s.2.gpu.history = cs ++ p.opening clears ∧
    ∀ c ∈ cs, c.isDrawing = true

/-- Drawing into the buffer of the frame keeps what the frame holds. -/
theorem Held.of_drawn (h : Held p f s) (hDrawn : Drawn f.buffer.handle s t) : Held p f t := by
  obtain ⟨clears, cs, hCommands, hDrawing⟩ := h.drawn
  obtain ⟨cs', hCommands', hDrawing'⟩ := hDrawn.goes.history.drawn
  refine ⟨hDrawn.frame.trans h.frame, ?_, ?_, clears, cs' ++ cs, ?_, ?_⟩
  · rw [hDrawn.swapchain]
    exact h.chain
  · rw [hDrawn.device]
    exact h.told
  · rw [hCommands', hCommands, List.append_assoc]
  · exact List.forall_mem_append.mpr ⟨hDrawing', hDrawing⟩

/-- Only its end takes a frame away. -/
theorem Held.step (h : Held p f s) (hFit : Fit s) (hStep : Step s request t)
    (hOther : request ≠ .endFrame) : Held p f t := by
  obtain ⟨r, hRun⟩ := hStep
  by_cases hAside : request.isAside = true
  · have hPasses := aside_serve (R := Gpu.Passes) hAside s r t hRun
    cases r <;> exact h.of_drawn (hPasses.mono fun hGoes => hGoes.mono Passes.draws)
  cases request with
  | beginFrame =>
    -- a second frame is refused while one is recorded
    have hAgain := start_beginFrame_of_recording (hFit.pending h.frame).state
    change start beginFrame s = some (r, t) at hRun
    rw [hAgain] at hRun
    cases hRun
    exact ⟨h.frame, h.chain, h.told, h.drawn⟩
  | draw mesh mode =>
    have hHeld : ∀ f' t, s.1.frame = some f' → Drawn f'.buffer.handle s t → Held p f t := by
      intro f' t hFrame hDrawn
      obtain rfl : f = f' := Option.some.inj (h.frame.symm.trans hFrame)
      exact h.of_drawn hDrawn
    have hDraw := ensures_draw_of_drawn mesh mode hHeld h r t hRun
    cases r <;> exact hDraw
  | endFrame => exact absurd rfl hOther
  | resize window =>
    -- a resize is refused during a frame
    obtain rfl := eq_of_refused h.frame hRun
    exact h
  | follow script =>
    cases hRun
    refine ⟨h.frame, h.chain, h.told, ?_⟩
    rw [(quiet_follow script s).commands]
    exact h.drawn
  | _ => exact absurd rfl hAside

end Renderer

end RenderLoop
