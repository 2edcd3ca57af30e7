import RenderLoop.Proofs.Gpu.Screen
import RenderLoop.Proofs.Renderer.Aside

/-!
# RenderLoop — renderers that are fit

Between calls, a renderer holds only what its device gave out (`Tidy`), everything
submitted so far could be, the last rebuild left things sound, and it is either at
rest (`Resting`) or has a frame that can be ended (`Pending`). Such a renderer is
**fit** (`Fit`).

What a call does beside frames keeps a renderer fit (`Fit.of_aside`). A call that
ends or cuts short what the machine was doing serves the device under a condition
(`Serves`), and carries over the parts of which the screen is made.
-/

namespace RenderLoop.Renderer

open GpuHistory Op

variable {s t u : Renderer × Host} {P Q : Prop}

/-- The scene that a renderer's frames are made in. -/
def scene (s : Renderer × Host) : Scene := (s.1.swapchain, s.1.device, s.2)

-- ---------------------------------------------------------------------------
-- Fitness
-- ---------------------------------------------------------------------------

/-- A renderer holds what its device gave out. -/
structure Tidy (s : Renderer × Host) : Prop where
  orderly : s.2.gpu.Orderly
  apart : s.1.machine.recorder.Apart s.2.gpu.nextHandle
  chain : s.1.swapchain.handle < s.2.gpu.nextHandle
  targets : s.1.targets.Below s.2.gpu.nextHandle

/-- There is no frame. -/
structure Resting (s : Renderer × Host) : Prop where
  frame : s.1.frame = none
  state : s.1.machine.state = .idle ∨ s.1.machine.state = .lost

/-- There is a frame. -/
structure Recording (s : Renderer × Host) (f : Frame) : Prop where
  frame : s.1.frame = some f
  state : s.1.machine.state = .recording
  image : f.imageIndex = s.1.swapchain.current
  draw : f.buffer ∈ s.1.machine.recorder.draw

/-- There is a frame, and it can be ended. -/
structure Pending (s : Renderer × Host) (f : Frame) : Prop extends Recording s f where
  well : Synchronizer.EndsWell f (scene s)

/-- A renderer between calls. -/
structure Fit (s : Renderer × Host) : Prop where
  tidy : Tidy s
  clean : Clean s.2.gpu.history
  sound : Sound s
  frames : Resting s ∨ ∃ f, Pending s f

-- ---------------------------------------------------------------------------
-- Images to render to
-- ---------------------------------------------------------------------------

/-- What can be rendered to stays so while it is spared. -/
theorem Renderable.of_spares {targets : FrameTargets} {h h' : GpuHistory} {i : UInt32}
    (hRenderable : Renderable targets h i) (hSpares : Spares h h') : Renderable targets h' i := by
  obtain ⟨f, hFramebuffer, hAlive⟩ := hRenderable.framebuffer
  refine ⟨⟨f, hFramebuffer, ?_⟩, ?_, ?_⟩
  · exact fun hDestroyed => hAlive (hSpares.destroyed rfl hDestroyed)
  · exact fun hDestroyed => hRenderable.pass (hSpares.destroyed rfl hDestroyed)
  · exact fun x hImage hGone => hRenderable.image x hImage (hSpares.imageGone hGone)

/-- A frame that just began can be ended if its image can be rendered to. -/
theorem endsWell_of_begun {m : Synchronizer} {w : Scene} {f : Frame} {r : Synchronizer × Scene}
    (hBegun : Synchronizer.Begun m w f r) :
    Synchronizer.EndsWell f r.2 ↔ Renderable w.targets w.gpu.history f.imageIndex := by
  have hSpares : Spares w.gpu.history r.2.gpu.history := hBegun.risks.spares.history
  have hTargets : r.2.targets = w.targets := congrArg GpuDevice.targets hBegun.device
  have hFinishable := hBegun.opened.finishable_iff
  constructor
  · -- what is alive after the beginning was alive before it
    intro hWell
    obtain ⟨⟨framebuffer, hFramebuffer, hAlive⟩, hPass⟩ := hFinishable.mp hWell.finishable
    refine ⟨⟨framebuffer, hFramebuffer, ?_⟩, ?_, ?_⟩
    · exact fun hDestroyed => hAlive (hDestroyed.of_suffix hSpares.suffix)
    · exact fun hDestroyed => hPass (hDestroyed.of_suffix hSpares.suffix)
    · intro x hImage hGone
      rw [← hTargets] at hImage
      exact hWell.image x hImage (hGone.of_suffix hSpares.suffix)
  · intro hRenderable
    have hAfter := hRenderable.of_spares hSpares
    refine ⟨hFinishable.mpr ⟨hAfter.framebuffer, hAfter.pass⟩, ?_⟩
    intro x hImage
    rw [hTargets] at hImage
    exact hAfter.image x hImage

-- ---------------------------------------------------------------------------
-- Calls on the device
-- ---------------------------------------------------------------------------

/-- A call that serves the device under a condition, and carries over the screen. A setup buffer
that is left is the one that was there. -/
structure Serves (P : Prop) (s t : Renderer × Host) : Prop where
  setup : ∀ b ∈ t.1.machine.recorder.setup, b ∈ s.1.machine.recorder.setup
  apart : t.1.machine.recorder.Apart t.2.gpu.nextHandle
  lost : s.1.machine.state = .lost → t.1.machine.state = .lost
  handle : t.1.swapchain.handle = s.1.swapchain.handle
  images : t.1.swapchain.images = s.1.swapchain.images
  device : t.1.device = s.1.device
  targets : t.1.targets = s.1.targets
  risks : Gpu.Risks P s.1.machine.recorder.IsSetup s.2.gpu t.2.gpu

/-- Serving the device leaves a renderer tidy. -/
theorem Tidy.of_serves (hTidy : Tidy s) (h : Serves P s t) : Tidy t := by
  have hNext : s.2.gpu.nextHandle ≤ t.2.gpu.nextHandle := h.risks.spares.nextHandle
  refine ⟨hTidy.orderly.of_spares h.risks.spares, h.apart, ?_, ?_⟩
  · rw [h.handle]
    exact Nat.lt_of_lt_of_le hTidy.chain hNext
  · rw [h.targets]
    exact hTidy.targets.mono hNext

/-- Serving the device leaves a renderer sound. -/
theorem Sound.of_serves (hSound : Sound s) (h : Serves P s t) : Sound t := by
  constructor
  · intro b hb
    have hSetup := h.setup b hb
    rw [h.risks.commands b.handle ⟨b, hSetup, rfl⟩]
    exact hSound.setup b hSetup
  · intro hLost i hi
    rw [h.images] at hi
    rw [h.device]
    exact (hSound.screen (fun hState => hLost (h.lost hState)) i hi).of_spares h.risks.spares.history

/-- What happens beside frames needs nothing, if it leaves the setup buffer alone. -/
theorem Beside.serves {H : GpuHistory → GpuHistory → Prop} (h : Beside H s t) (hTidy : Tidy s)
    (hSpares : s.2.gpu.Spares t.2.gpu)
    (hSetup : ∀ x, s.1.machine.recorder.IsSetup x →
      commands x t.2.gpu.history = commands x s.2.gpu.history)
    (hClean : Clean s.2.gpu.history → Clean t.2.gpu.history) : Serves True s t where
  setup b hb := by rwa [← h.recorder]
  apart := by
    rw [h.recorder]
    exact hTidy.apart.mono h.goes.nextHandle
  lost hState := h.state.trans hState
  handle := congrArg Swapchain.handle h.swapchain
  images := congrArg Swapchain.images h.swapchain
  device := h.device
  targets := h.targets
  risks := ⟨hSpares, hSetup, fun _ => hClean, fun _ _ => trivial⟩

/-- What happens aside serves the device, without a condition. -/
theorem Aside.serves (h : Aside s t) (hTidy : Tidy s) : Serves True s t := by
  have hHistory := h.passes.history
  exact Beside.serves h hTidy h.passes.spares (fun x _ => hHistory.commands x) hHistory.clean

/-- Beginning a frame, however that went, needs nothing. -/
theorem serves_of_kept {m : Machinery} (h : Synchronizer.Kept s.1.machine (scene s) m)
    (hLost : s.1.machine.state = .lost → m.1.state = .lost) : Serves True s (withMachinery m s) where
  setup b hb := by rwa [← h.setup]
  apart := h.apart
  lost := hLost
  handle := by
    obtain ⟨i, hChain⟩ := h.chain
    exact (congrArg Swapchain.handle hChain :)
  images := by
    obtain ⟨i, hChain⟩ := h.chain
    exact (congrArg Swapchain.images hChain :)
  device := h.device
  targets := rfl
  risks := h.risks

/-- Ending a frame needs the frame to end well. -/
theorem serves_of_ended {m : Machinery} {f : Frame} (hTidy : Tidy s)
    (hState : s.1.machine.state ≠ .lost) (h : Synchronizer.Ended s.1.machine f (scene s) m) :
    Serves (Synchronizer.EndsWell f (scene s)) s (withMachinery m s) where
  setup b hb := by rwa [← h.recorder]
  apart := by
    show m.1.recorder.Apart (Scene.gpu m.2).nextHandle
    rw [h.recorder]
    exact hTidy.apart.mono h.serves.risks.spares.nextHandle
  lost hLost := absurd hLost hState
  handle := congrArg Swapchain.handle h.serves.chain
  images := congrArg Swapchain.images h.serves.chain
  device := h.serves.device
  targets := rfl
  risks := h.serves.risks

-- ---------------------------------------------------------------------------
-- Beside frames
-- ---------------------------------------------------------------------------

/-- A renderer at rest stays at rest while things happen aside. -/
theorem Resting.of_aside (h : Resting s) (hAside : Aside s t) : Resting t where
  frame := hAside.frame.trans h.frame
  state := by rw [hAside.state]; exact h.state

/-- A frame can be ended as long as its buffer is as it was, or was only drawn into. -/
theorem Pending.of_spares {f : Frame} (h : Pending s f) (hFrame : t.1.frame = s.1.frame)
    (hRecorder : t.1.machine.recorder = s.1.machine.recorder)
    (hState : t.1.machine.state = s.1.machine.state) (hSwapchain : t.1.swapchain = s.1.swapchain)
    (hDevice : t.1.device = s.1.device) (hSpares : Spares s.2.gpu.history t.2.gpu.history)
    (hFinishable : Finishable t.2.gpu.history f.buffer.handle) : Pending t f where
  frame := hFrame.trans h.frame
  state := hState.trans h.state
  image := by
    rw [hSwapchain]
    exact h.image
  draw := by
    rw [hRecorder]
    exact h.draw
  well := by
    refine ⟨hFinishable, fun x hImage hGone => ?_⟩
    have hTargets : (scene t).targets = (scene s).targets := congrArg GpuDevice.targets hDevice
    rw [hTargets] at hImage
    exact h.well.image x hImage (hSpares.imageGone hGone)

/-- A pending frame stays pending while things happen aside. -/
theorem Pending.of_aside {f : Frame} (h : Pending s f) (hAside : Aside s t) : Pending t f := by
  have hSpares := hAside.passes.spares.history
  have hFinishable := hSpares.finishable_iff (hAside.passes.history.commands f.buffer.handle)
  exact h.of_spares hAside.frame hAside.recorder hAside.state hAside.swapchain hAside.device hSpares
    (hFinishable.mpr h.well.finishable)

/-- What happens beside frames keeps a renderer fit. -/
theorem Fit.of_aside (h : Fit s) (hAside : Aside s t) : Fit t where
  tidy := h.tidy.of_serves (hAside.serves h.tidy)
  clean := hAside.passes.history.clean h.clean
  sound := h.sound.of_serves (hAside.serves h.tidy)
  frames := h.frames.imp (fun hResting => hResting.of_aside hAside)
    fun ⟨f, hPending⟩ => ⟨f, hPending.of_aside hAside⟩

-- ---------------------------------------------------------------------------
-- Another script
-- ---------------------------------------------------------------------------

/-- The device remembers everything when its script changes. -/
theorem follow_keeps (script : GpuScript) (g : Gpu) :
    (g.follow script).history = g.history ∧ (g.follow script).nextHandle = g.nextHandle ∧
      (g.follow script).stock = g.stock := by
  rw [Gpu.follow]
  split <;> exact ⟨rfl, rfl, rfl⟩

/-- Another script keeps a renderer tidy. -/
theorem Tidy.follow (h : Tidy s) (script : GpuScript) :
    Tidy (s.1, s.2.onGpu (Gpu.follow script)) := by
  obtain ⟨hHistory, hNext, hStock⟩ := follow_keeps script s.2.gpu
  let g := s.2.gpu.follow script
  -- a script changes neither the history nor the count of handles
  have hOrderly : g.Orderly := by
    refine ⟨?_, ?_, ?_, ?_⟩
    · rw [hNext]
      exact h.orderly.pos
    · rw [hHistory, hNext]
      exact h.orderly.destroyed
    · rw [hHistory, hNext]
      exact h.orderly.listed
    · rw [hStock, hNext]
      exact h.orderly.stock
  refine ⟨hOrderly, ?_, ?_, ?_⟩
  · show s.1.machine.recorder.Apart g.nextHandle
    rw [hNext]
    exact h.apart
  · show s.1.swapchain.handle < g.nextHandle
    rw [hNext]
    exact h.chain
  · show s.1.targets.Below g.nextHandle
    rw [hNext]
    exact h.targets

/-- Another script keeps a renderer fit. -/
theorem Fit.follow (h : Fit s) (script : GpuScript) : Fit (s.1, s.2.onGpu (Gpu.follow script)) := by
  have hHistory := (follow_keeps script s.2.gpu).1
  let g := s.2.gpu.follow script
  refine ⟨h.tidy.follow script, ?_, ⟨?_, ?_⟩, ?_⟩
  · -- a script changes what comes, not what happened
    show Clean g.history
    rw [hHistory]
    exact h.clean
  · show ∀ b ∈ s.1.machine.recorder.setup, commands b.handle g.history = []
    rw [hHistory]
    exact h.sound.setup
  · show s.1.machine.state ≠ .lost → ∀ i < UInt32.ofNat s.1.swapchain.images.length,
      Renderable s.1.device.targets g.history i
    rw [hHistory]
    exact h.sound.screen
  · refine h.frames.imp (fun hResting => ⟨hResting.frame, hResting.state⟩) ?_
    rintro ⟨f, hPending⟩
    refine ⟨f, hPending.of_spares rfl rfl rfl rfl rfl ?_ ?_⟩
    · show Spares s.2.gpu.history g.history
      rw [hHistory]
      exact .refl _
    · show Finishable g.history f.buffer.handle
      rw [hHistory]
      exact hPending.well.finishable

end RenderLoop.Renderer
