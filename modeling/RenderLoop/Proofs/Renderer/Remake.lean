import RenderLoop.Proofs.Renderer.Fit

/-!
# RenderLoop — the screen is made again

Making the screen again replaces the swapchain, then what there is to render to,
then the framebuffers; only after that, the device is told of the new targets.

When it succeeds (`Remade`), every image can be rendered to, and the images of
before are gone. When it breaks off (`Torn`), the setup buffer has barriers on images
that the next attempt will destroy, if they are not destroyed yet (`Tied`); and the
device still has the targets of before. It breaks off only if something hinders it.
-/

namespace RenderLoop.Renderer

open GpuHistory Op

variable {s t u : Renderer × Host} {b : Handle}

-- ---------------------------------------------------------------------------
-- What a screen needs
-- ---------------------------------------------------------------------------

/-- Where swapchain, pass and framebuffers were made after a mark, every image can be rendered to. -/
theorem renderable_of_built {mark : Handle} {g : Gpu} {c : Swapchain} {targets targets' : RenderTargets}
    (hMarked : g.Marked mark) (hImages : ∀ x ∈ c.images, mark ≤ x)
    (hViews : c.views.length = c.images.length) (hPass : ∃ p, targets.pass = some p ∧ mark ≤ p)
    (hFramed : RenderTargets.Framed mark { targets with framebuffers := [] } targets' g c.views.length)
    {i : UInt32} (hi : i < UInt32.ofNat c.images.length) :
    Renderable (targets'.frameTargets c.images) g.history i := by
  obtain ⟨fs, hFs, hCount, hMade⟩ := hFramed.made
  obtain ⟨p, hSome, hAbove⟩ := hPass
  -- there is a framebuffer for every view, and a view for every image
  have hLess : i.toNat < fs.length := by
    have hBound := UInt32.lt_iff_toNat_lt.mp hi
    rw [UInt32.toNat_ofNat'] at hBound
    rw [hCount, hViews]
    exact Nat.lt_of_lt_of_le hBound (Nat.mod_le _ _)
  refine ⟨⟨fs[i.toNat], ?_, ?_⟩, ?_, ?_⟩
  · show targets'.framebuffers[i.toNat]? = some fs[i.toNat]
    rw [hFs]
    exact List.getElem?_eq_getElem hLess
  · exact hMarked.alive rfl (hMade _ (List.getElem_mem hLess)).1
  · show ¬ Destroyed g.history .renderPass (targets'.pass.getD 0)
    rw [hFramed.pass]
    show ¬ Destroyed g.history .renderPass (targets.pass.getD 0)
    rw [hSome]
    exact hMarked.alive rfl hAbove
  · intro x hImage
    exact hMarked.image_alive (hImages x (List.mem_of_getElem? hImage))

/-- Framebuffers were made with the next handles, as all else was. -/
theorem below_of_framed {mark : Handle} {targets targets' : RenderTargets} {g : Gpu} {count : Nat}
    (hFramed : RenderTargets.Framed mark { targets with framebuffers := [] } targets' g count)
    (hBelow : targets.Below g.nextHandle) : targets'.Below g.nextHandle := by
  obtain ⟨fs, hFs, -, hMade⟩ := hFramed.made
  refine ⟨?_, ?_, ?_⟩
  · rw [hFramed.pass]
    exact hBelow.pass
  · rw [hFramed.depth]
    exact hBelow.depth
  · rw [hFs]
    exact fun f hf => (hMade f hf).2

/-- Framebuffers were made for a new chain, and the device was told. -/
structure Raised (mark b : Handle) (own : Handle → Prop) (s t : Renderer × Host) : Prop where
  machine : t.1.machine = s.1.machine
  frame : t.1.frame = s.1.frame
  swapchain : t.1.swapchain = s.1.swapchain
  below : t.1.targets.Below t.2.gpu.nextHandle
  advanced : Gpu.Advanced mark b own s.2.gpu t.2.gpu
  screen : ∀ i < UInt32.ofNat t.1.swapchain.images.length,
    Renderable t.1.device.targets t.2.gpu.history i

/-- That broke off. -/
structure NotRaised (b : Handle) (own : Handle → Prop) (s t : Renderer × Host) : Prop where
  machine : t.1.machine = s.1.machine
  frame : t.1.frame = s.1.frame
  swapchain : t.1.swapchain = s.1.swapchain
  depth : t.1.targets.depth = s.1.targets.depth
  below : t.1.targets.Below t.2.gpu.nextHandle
  brokeOff : Gpu.BrokeOff b own s.2.gpu t.2.gpu

/-- The end of every making of the screen. -/
theorem ensures_raise {mark b : Handle} (own : Handle → Prop) (hPre : s.2.gpu.Preparing mark)
    (hBuilt : s.1.swapchain.Built mark s.2.gpu)
    (hPass : ∃ p, s.1.targets.pass = some p ∧ mark ≤ p)
    (hBelow : s.1.targets.Below s.2.gpu.nextHandle) (hNone : s.1.targets.framebuffers = []) :
    (do
      onTargets (RenderTargets.createFramebuffers s.1.swapchain.views s.1.swapchain.extent)
      set retarget : Action Unit).Ensures s
      (fun _ t => Raised mark b own s t) (fun _ t => NotRaised b own s t) := by
  have hNoneBelow : ∀ f ∈ s.1.targets.framebuffers, f < mark := by
    rw [hNone]
    exact nofun
  rw [ensures_bind, onTargets, ensures_on]
  refine (RenderTargets.ensures_createFramebuffers _ _ s.1.targets s.2 hPre hNoneBelow
    b own).mono ?_ ?_
  · rintro - ⟨targets, h⟩ ⟨hFramed, hAdvanced⟩
    dsimp only at hFramed hAdvanced
    rw [set, ensures_change]
    refine ⟨rfl, rfl, rfl, ?_, hAdvanced, fun i hi => ?_⟩
    · exact below_of_framed hFramed (hBelow.mono hAdvanced.remakes.nextHandle)
    · exact renderable_of_built hAdvanced.preparing.marked hBuilt.images hBuilt.views hPass hFramed hi
  · -- the framebuffers made before the refusal are still among the targets
    rintro e ⟨targets, h⟩ ⟨⟨count, hFramed⟩, hBroken⟩
    dsimp only at hFramed hBroken
    refine ⟨rfl, rfl, rfl, hFramed.depth, ?_, hBroken⟩
    exact below_of_framed hFramed (hBelow.mono hBroken.remakes.nextHandle)

-- ---------------------------------------------------------------------------
-- Making it again
-- ---------------------------------------------------------------------------

/-- An image of the chain or of the depth image, or one that was destroyed. -/
def Tied (s : Renderer × Host) (x : Handle) : Prop :=
  s.1.swapchain.Owns s.2.gpu x ∨
    0 < x ∧ (Destroyed s.2.gpu.history .image x ∨ s.1.targets.Depth x)

/-- The screen was made. -/
structure Remade (b : Handle) (s t : Renderer × Host) : Prop where
  recorder : t.1.machine.recorder = s.1.machine.recorder
  state : t.1.machine.state = s.1.machine.state
  frame : t.1.frame = s.1.frame
  tidy : Tidy t
  remakes : Gpu.Remakes b (fun x => ¬ ImageGone t.2.gpu.history x) s.2.gpu t.2.gpu
  screen : ∀ i < UInt32.ofNat t.1.swapchain.images.length,
    Renderable t.1.device.targets t.2.gpu.history i

/-- Making the screen again broke off. -/
structure Torn (b : Handle) (s t : Renderer × Host) : Prop where
  machine : t.1.machine = s.1.machine
  frame : t.1.frame = s.1.frame
  tidy : Tidy t
  remakes : Gpu.Remakes b (Tied t) s.2.gpu t.2.gpu
  hindered : ¬ s.2.gpu.Obliging

/-- A device that made the screen again as far as this is orderly, and so is the renderer. -/
theorem tidy_of_remakes {own : Handle → Prop} (hTidy : Tidy s)
    (hRecorder : t.1.machine.recorder = s.1.machine.recorder)
    (hOrderly : t.2.gpu.Orderly) (hRemakes : Gpu.Remakes b own s.2.gpu t.2.gpu)
    (hChain : t.1.swapchain.handle < t.2.gpu.nextHandle)
    (hTargets : t.1.targets.Below t.2.gpu.nextHandle) : Tidy t := by
  refine ⟨hOrderly, ?_, hChain, hTargets⟩
  rw [hRecorder]
  exact hTidy.apart.mono hRemakes.nextHandle

/-- What there is to render to was made again for a new chain. -/
structure Outfitted (mark b : Handle) (s t : Renderer × Host) : Prop extends
    Raised mark b (mark ≤ ·) s t where
  gone : ∀ x, 0 < x → s.1.targets.Depth x → Destroyed t.2.gpu.history .image x

/-- That broke off. -/
structure Stripped (b : Handle) (s t : Renderer × Host) : Prop where
  machine : t.1.machine = s.1.machine
  frame : t.1.frame = s.1.frame
  swapchain : t.1.swapchain = s.1.swapchain
  below : t.1.targets.Below t.2.gpu.nextHandle
  brokeOff : Gpu.BrokeOff b
    (fun x => 0 < x ∧ (Destroyed t.2.gpu.history .image x ∨ t.1.targets.Depth x)) s.2.gpu t.2.gpu

/-- Everything after the swapchain. -/
theorem ensures_outfit {mark : Handle} (setup : CommandBuffer) (hPre : s.2.gpu.Preparing mark)
    (hBuilt : s.1.swapchain.Built mark s.2.gpu) (hBelow : s.1.targets.Below mark) :
    (do
      onTargets (RenderTargets.recreate s.1.swapchain.format.format s.1.swapchain.extent setup)
      onTargets (RenderTargets.createFramebuffers s.1.swapchain.views s.1.swapchain.extent)
      set retarget : Action Unit).Ensures s
      (fun _ t => Outfitted mark setup.handle s t) (fun _ t => Stripped setup.handle s t) := by
  rw [ensures_bind, onTargets, ensures_on]
  refine (RenderTargets.ensures_recreate _ _ setup s.1.targets s.2 hPre hBelow).mono ?_ ?_
  · rintro - ⟨t₁, h₁⟩ ⟨⟨hAbove, hBelow₁, hNone⟩, hAdvanced, hGone⟩
    dsimp only at hAbove hBelow₁ hNone hAdvanced hGone ⊢
    -- the depth images were made by this rebuild, so they lie above the mark
    have hDepth : ∀ x, t₁.Depth x → mark ≤ x := by
      rintro x ⟨d, hd, rfl⟩
      exact hAbove.depth d hd
    have hBuilt₁ : s.1.swapchain.Built mark h₁.gpu := hBuilt.of_remakes hAdvanced.remakes
    refine (ensures_raise (s := ({ s.1 with targets := t₁ }, h₁)) (b := setup.handle) t₁.Depth
      hAdvanced.preparing hBuilt₁ hAbove.pass hBelow₁ hNone).mono ?_ ?_
    · -- what the new targets replaced stays gone while the framebuffers are made
      intro _ t hRaised
      refine ⟨⟨hRaised.machine, hRaised.frame, hRaised.swapchain, hRaised.below,
        (hAdvanced.trans hRaised.advanced).mono hDepth, hRaised.screen⟩, fun x hPos hOld => ?_⟩
      exact (hGone x hPos hOld).of_suffix hRaised.advanced.remakes.suffix
    · intro e t hNotRaised
      refine ⟨hNotRaised.machine, hNotRaised.frame, hNotRaised.swapchain, hNotRaised.below,
        (hNotRaised.brokeOff.after hAdvanced.remakes).mono fun x hx => ?_⟩
      refine ⟨Nat.lt_of_lt_of_le hPre.marked.pos (hDepth x hx), .inr ?_⟩
      show ∃ d ∈ t.1.targets.depth, d.image = x
      rw [hNotRaised.depth]
      exact hx
  · rintro e ⟨t₁, h₁⟩ ⟨hBelow₁, hBroken⟩
    exact ⟨rfl, rfl, rfl, hBelow₁, hBroken⟩

section Chain

variable {mark : Handle} {c : Swapchain} {h : Host}

/-- With a new chain and all that goes with it, the screen is made. -/
theorem remade_of_outfitted (hTidy : Tidy s)
    (hChain : Swapchain.Rebuilt mark b s.1.swapchain s.2.gpu c h.gpu)
    (hOutfitted : Outfitted mark b ({ s.1 with swapchain := c }, h) t) : Remade b s t := by
  have hMarked := hOutfitted.advanced.preparing.marked
  have hRemakes := (hChain.advanced.remakes.mono hChain.built.images).trans
    hOutfitted.advanced.remakes
  have hRecorder : t.1.machine.recorder = s.1.machine.recorder :=
    congrArg Synchronizer.recorder hOutfitted.machine
  refine ⟨hRecorder, congrArg Synchronizer.state hOutfitted.machine, hOutfitted.frame, ?_,
    hRemakes.mono fun x hx => hMarked.image_alive hx, hOutfitted.screen⟩
  refine tidy_of_remakes hTidy hRecorder hOutfitted.advanced.preparing.orderly hRemakes ?_
    hOutfitted.below
  rw [hOutfitted.swapchain]
  exact Nat.lt_of_lt_of_le hChain.built.handle_lt hOutfitted.advanced.remakes.nextHandle

/-- What the screen had before is gone then. -/
theorem gone_of_outfitted (hChain : Swapchain.Rebuilt mark b s.1.swapchain s.2.gpu c h.gpu)
    (hOutfitted : Outfitted mark b ({ s.1 with swapchain := c }, h) t) {x : Handle}
    (hx : Tied s x) : ImageGone t.2.gpu.history x := by
  have hLater : h.gpu.history <:+ t.2.gpu.history := hOutfitted.advanced.remakes.suffix
  have hSuffix := hChain.advanced.remakes.suffix.trans hLater
  rcases hx with ⟨hPos, images, hListed, hx⟩ | ⟨hPos, hDestroyed | hDepth⟩
  · exact .inr ⟨s.1.swapchain.handle, images, hListed.of_suffix hSuffix, hx,
      (hChain.gone hPos).of_suffix hLater⟩
  · exact .inl (hDestroyed.of_suffix hSuffix)
  · exact .inl (hOutfitted.gone x hPos hDepth)

/-- The screen may break off with a new chain that there is nothing to render to for. -/
theorem torn_of_stripped (hTidy : Tidy s) (hPos : 0 < mark)
    (hChain : Swapchain.Rebuilt mark b s.1.swapchain s.2.gpu c h.gpu)
    (hStripped : Stripped b ({ s.1 with swapchain := c }, h) t) : Torn b s t := by
  have hRemakes := hStripped.brokeOff.remakes
  have hOwns : ∀ x ∈ c.images, t.1.swapchain.Owns t.2.gpu x := by
    intro x hx
    rw [hStripped.swapchain]
    exact ⟨Nat.lt_of_lt_of_le hPos hChain.built.handle_ge, c.images,
      hChain.built.listed.of_suffix hRemakes.suffix, hx⟩
  have hBroken : Gpu.BrokeOff b (Tied t) s.2.gpu t.2.gpu :=
    (hStripped.brokeOff.mono fun x hx => .inr hx).after
      (hChain.advanced.remakes.mono fun x hx => .inl (hOwns x hx))
  refine ⟨hStripped.machine, hStripped.frame, ?_, hBroken.remakes, hBroken.hindered⟩
  refine tidy_of_remakes hTidy (congrArg Synchronizer.recorder hStripped.machine) hBroken.orderly
    hBroken.remakes ?_ hStripped.below
  rw [hStripped.swapchain]
  exact Nat.lt_of_lt_of_le hChain.built.handle_lt hRemakes.nextHandle

/-- The screen may break off with the chain already. -/
theorem torn_of_stopped (hTidy : Tidy s) (hStopped : Swapchain.Stopped b s.2.gpu c h.gpu) :
    Torn b s ({ s.1 with swapchain := c }, h) := by
  have hRemakes := hStopped.brokeOff.remakes
  exact ⟨rfl, rfl, tidy_of_remakes hTidy rfl hStopped.brokeOff.orderly hRemakes hStopped.handle_lt
    (hTidy.targets.mono hRemakes.nextHandle), hRemakes.mono fun x hx => .inl hx,
    hStopped.brokeOff.hindered⟩

end Chain

/-- All that can come of making the screen again. What was there before is destroyed if all goes
well. -/
theorem ensures_remakeScreen (setup : CommandBuffer) (hTidy : Tidy s) :
    (remakeScreen setup).Ensures s
      (fun _ t => Remade setup.handle s t ∧ ∀ x, Tied s x → ImageGone t.2.gpu.history x)
      (fun _ t => Torn setup.handle s t) := by
  have hPre : s.2.gpu.Preparing s.2.gpu.nextHandle := ⟨hTidy.orderly, hTidy.orderly.marked⟩
  have hTargets := hTidy.targets
  have hChain := hTidy.chain
  -- all that was made before lies below the next handle, which is the mark of this rebuild
  generalize s.2.gpu.nextHandle = mark at hPre hTargets hChain
  rw [remakeScreen, ensures_bind, ensures_get, ensures_bind, onSwapchain, ensures_on]
  refine (Swapchain.ensures_recreate _ _ setup s.1.swapchain s.2 hPre hChain).mono ?_ ?_
  · rintro - ⟨c, h₁⟩ hRebuilt
    dsimp only at hRebuilt ⊢
    rw [ensures_bind, ensures_get]
    refine (ensures_outfit (s := ({ s.1 with swapchain := c }, h₁)) setup
      hRebuilt.advanced.preparing hRebuilt.built hTargets).mono ?_ ?_
    · intro _ t hOutfitted
      exact ⟨remade_of_outfitted hTidy hRebuilt hOutfitted,
        fun x hx => gone_of_outfitted hRebuilt hOutfitted hx⟩
    · intro e t hStripped
      exact torn_of_stripped hTidy hPre.marked.pos hRebuilt hStripped
  · rintro e ⟨c, h₁⟩ hStopped
    exact torn_of_stopped hTidy hStopped

end RenderLoop.Renderer
