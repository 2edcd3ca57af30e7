import RenderLoop.Proofs.Gpu.Made
import RenderLoop.Proofs.Gpu.Screen

/-!
# RenderLoop — what a screen was made from

Swapchain, views, framebuffers and depth image are kept in lists beside each other.
That entries at the same place belong together can be read off the history of the
device: the images are those that were found for the chain, each view was made of its
image (`Swapchain.MadeIn`), and each framebuffer of its view, together with the view of
the one depth image (`RenderTargets.MadeIn`, `RenderTargets.FramedBy`). Each of the
operations that make these lists leaves them so, if it returns.

The depth image gets its layout by a barrier in the setup buffer (`MovesDepth`). What is
made after it goes on with the buffer as it is (`Gpu.Carries`), so the barrier is still
there when the buffer is submitted.
-/

namespace RenderLoop

open GpuHistory Op

-- ---------------------------------------------------------------------------
-- Histories
-- ---------------------------------------------------------------------------

namespace GpuHistory

variable {h h' : GpuHistory}

/-- A view was made of an image. -/
def ViewOf (h : GpuHistory) (image view : Handle) : Prop :=
  ∃ format channels aspects, Made h (.imageView image format channels aspects) view

/-- A view stays that of its image. -/
theorem ViewOf.of_suffix {image view : Handle} (hView : ViewOf h image view) (hSuffix : h <:+ h') :
    ViewOf h' image view := by
  obtain ⟨format, channels, aspects, hMade⟩ := hView
  exact ⟨format, channels, aspects, hMade.of_suffix hSuffix⟩

/-- A buffer moves an image to the layout of depth attachments. -/
def MovesDepth (h : GpuHistory) (b image : Handle) : Prop :=
  ∃ t : ImageTransition, t.new = .depthStencilAttachment ∧ .barrier image t ∈ commands b h

/-- An image was moved to the layout of depth attachments, by a buffer that was submitted and
waited for. -/
def Settled (h : GpuHistory) (image : Handle) : Prop :=
  ∃ b before, MovesDepth before b image ∧
    (⟨.waitQueue, .done⟩ :: ⟨.submit b [] [], .done⟩ :: before) <:+ h

/-- A depth image stays settled. -/
theorem Settled.of_suffix {image : Handle} (hSettled : Settled h image) (hSuffix : h <:+ h') :
    Settled h' image := by
  obtain ⟨b, before, hMoves, hWaited⟩ := hSettled
  exact ⟨b, before, hMoves, hWaited.trans hSuffix⟩

end GpuHistory

-- ---------------------------------------------------------------------------
-- A buffer that is left as it is
-- ---------------------------------------------------------------------------

namespace Gpu

variable {b : Handle} {g g' g'' : Gpu}

/-- A device goes on, and a buffer keeps its commands. -/
structure Carries (b : Handle) (g g' : Gpu) : Prop where
  history : g.history <:+ g'.history
  commands : commands b g.history <:+ commands b g'.history

/-- Where the history is the same, so are the commands. -/
theorem carries_of_same (hHistory : g'.history = g.history) : Carries b g g' := by
  constructor
  · rewrite [hHistory]
    exact List.suffix_refl _
  · rewrite [hHistory]
    exact List.suffix_refl _

theorem Carries.trans (h : Carries b g g') (h' : Carries b g' g'') : Carries b g g'' where
  history := h.history.trans h'.history
  commands := h.commands.trans h'.commands

/-- A barrier stays in a buffer that is left as it is. -/
theorem Carries.movesDepth {image : Handle} (h : Carries b g g')
    (hMoves : MovesDepth g.history b image) : MovesDepth g'.history b image := by
  obtain ⟨t, hLayout, hBarrier⟩ := hMoves
  exact ⟨t, hLayout, h.commands.mem hBarrier⟩

instance : Routine (Carries b) where
  refl _ := carries_of_same rfl
  trans := .trans
  of_same hHistory _ _ _ _ := carries_of_same hHistory
  takeHandles _ _ := carries_of_same rfl
  happen hRoutine g := by
    have hPasses := passes_cons hRoutine g.history
    refine ⟨hPasses.suffix, ?_⟩
    show GpuHistory.commands b g.history <:+ GpuHistory.commands b _
    rw [← hPasses.commands b]
    exact List.suffix_refl _

/-- Destroying touches no commands. -/
theorem carries_destroy (kind : ObjectKind) (x : Handle) (g : Gpu) : Carries b g (g.destroy kind x) where
  history := List.suffix_cons _ _
  commands := List.suffix_refl _

theorem carries_destroyAll (kind : ObjectKind) (xs : List Handle) (g : Gpu) :
    Carries b g (g.destroyAll kind xs) := by
  induction xs generalizing g with
  | nil => exact carries_of_same rfl
  | cons x rest ih => exact (carries_destroy kind x g).trans (ih _)

end Gpu

/-- The device of a world goes on, and a buffer keeps its commands. -/
abbrev Carrying (b : Handle) {σ : Type} [Logging σ] [Simulated σ] : σ → σ → Prop :=
  Along (Gpu.Carries b)

/-- An object that the setup asks for is made. -/
theorem Host.ensures_setUpObject (source noticed told : String) (c : Creation) (s : Host) :
    (Host.setUp source noticed told (Gpu.create c)).Ensures s
      (fun x t => Made t.gpu.history c x ∧ Growing s t) (fun _ _ => True) := by
  have hMade : (Host.setUp source noticed told (Gpu.create c)).Ensures s
      (fun x t => Made t.gpu.history c x) (fun _ _ => True) :=
    Host.ensures_setUp _ _ _ (fun _ _ hCreate => Gpu.made_of_create hCreate) fun _ _ _ _ _ _ => trivial
  exact (hMade.and (within_setUp _ _ _ (Gpu.grows_create c) s)).mono (fun _ _ h => h)
    fun _ _ _ => trivial

/-- The same with a look at a buffer, if it is not a swapchain. -/
theorem Host.ensures_setUpCarrying (source noticed told : String) {c : Creation}
    (hKind : c.kind ≠ .swapchain) (b : Handle) (s : Host) :
    (Host.setUp source noticed told (Gpu.create c)).Ensures s
      (fun x t => Made t.gpu.history c x ∧ Carrying b s t) (fun _ _ => True) := by
  have hMade := Host.ensures_setUpObject source noticed told c s
  refine (hMade.and (within_setUp (R := Gpu.Carries b) _ _ _ (Gpu.routine_create hKind) s)).mono
    ?_ fun _ _ _ => trivial
  rintro x t ⟨⟨hNew, -⟩, hCarrying⟩
  exact ⟨hNew, hCarrying⟩

-- ---------------------------------------------------------------------------
-- Swapchains
-- ---------------------------------------------------------------------------

namespace Swapchain

variable {h h' : GpuHistory}

/-- What a swapchain was made from: it was asked for in its size, its images are those that were
found for it, and there is a view of each. -/
structure MadeIn (c : Swapchain) (h : GpuHistory) : Prop where
  chain : ∃ request, Made h (.swapchain request) c.handle ∧ request.extent = c.extent
  images : Listed h c.handle c.images
  views : List.Forall₂ (ViewOf h) c.images c.views

/-- A swapchain stays made from what it was made from. -/
theorem MadeIn.of_suffix {c : Swapchain} (hMade : c.MadeIn h) (hSuffix : h <:+ h') : c.MadeIn h' := by
  obtain ⟨request, hChain, hExtent⟩ := hMade.chain
  exact ⟨⟨request, hChain.of_suffix hSuffix, hExtent⟩, hMade.images.of_suffix hSuffix,
    hMade.views.imp fun _ _ hView => hView.of_suffix hSuffix⟩

/-- Views are added for images one by one, each made of its own. -/
theorem ensures_addViews_made (setup : CommandBuffer) (format : TextureFormat) (images : List Handle)
    (s : Swapchain × Host) :
    (addViews setup format images).Ensures s
      (fun _ t => Growing s t ∧ ∃ views, t.1 = { s.1 with views := s.1.views ++ views } ∧
        List.Forall₂ (ViewOf t.2.gpu.history) images views) (fun _ _ => True) := by
  induction images generalizing s with
  | nil =>
    rw [addViews, ensures_pure]
    exact ⟨Gpu.Grows.refl _, [], by rw [List.append_nil], .nil⟩
  | cons image rest ih =>
    simp only [addViews, addView, ensures_bind, ensures_change, Op.onHost, ensures_onSecond]
    refine (Host.ensures_setUpObject _ _ _ _ _).mono ?_ fun _ _ h => h
    rintro view h₁ ⟨hMade, hGrows₁⟩
    refine (ih _).mono ?_ fun _ _ h => h
    rintro - t ⟨hGrows₂, views, hViews, hRest⟩
    -- the barrier for the image is recorded before its view is made
    have hRecorded : Growing s.2 (s.2.record setup.handle (.barrier image .presentSource)) :=
      Gpu.grows_happen _ _ s.2.gpu
    refine ⟨(hRecorded.trans hGrows₁).trans hGrows₂, view :: views, ?_, .cons ?_ hRest⟩
    · rw [hViews, List.append_assoc]
      rfl
    · exact ⟨format, _, _, hMade.of_suffix hGrows₂.history⟩

/-- The images of a chain are found. -/
theorem ensures_findImages_made (chain : Handle) (h : Host) :
    (Host.setUp component "get swapchain images" "get swapchain images"
        (Gpu.swapchainImages chain)).Ensures h
      (fun images t => Listed t.gpu.history chain images ∧ Growing h t) (fun _ _ => True) := by
  have hListed : (Host.setUp component "get swapchain images" "get swapchain images"
      (Gpu.swapchainImages chain)).Ensures h
        (fun images t => Listed t.gpu.history chain images) (fun _ _ => True) := by
    refine Host.ensures_setUp _ _ _ ?_ fun _ _ _ _ _ _ => trivial
    intro images g hFound
    rw [Gpu.swapchainImages] at hFound
    split at hFound
    · cases hFound
    · cases hFound
      exact List.mem_cons_self
  exact (hListed.and (Host.within_setUp _ _ _ (Gpu.unsized_swapchainImages chain) h)).mono
    (fun _ _ h => h) fun _ _ _ => trivial

/-- A chain that was built was made from what the history says. -/
theorem ensures_build_made (surface : Handle) (probe : SurfaceProbe) (window : Extent)
    (setup : CommandBuffer) (s : Swapchain × Host) :
    (build surface probe window setup).Ensures s (fun _ t => t.1.MadeIn t.2.gpu.history)
      (fun _ _ => True) := by
  simp only [build, ensures_bind, ensures_get, ensures_ofOption]
  rintro ⟨request, entries⟩ -
  -- what is logged about the request does not matter
  refine (ensures_true _ s).mono (fun _ s₁ _ => ?_) fun _ _ h => h
  simp only [Op.onHost, ensures_onSecond, ensures_change]
  refine (Host.ensures_setUpObject _ _ _ _ _).mono ?_ fun _ _ h => h
  rintro chain h₂ ⟨hChain, -⟩
  -- what the chain replaces is destroyed before its images are found
  have hReplaced : Growing h₂ (replace chain (s₁.1, h₂)).2 :=
    Gpu.Grows.trans (Gpu.unsized_destroyAll .imageView s₁.1.views h₂.gpu)
      (Gpu.unsized_destroyIfAny _ _ _)
  refine (ensures_findImages_made chain _).mono ?_ fun _ _ h => h
  rintro images h₃ ⟨hListed, hFound⟩
  refine (ensures_addViews_made setup _ images _).mono ?_ fun _ _ h => h
  rintro - ⟨c, h₄⟩ ⟨hGrows, views, hc, hViews⟩
  dsimp only at hGrows hc hViews
  subst hc
  simp only [ensures_log]
  have hChain' := hChain.of_suffix ((hReplaced.trans hFound).trans hGrows).history
  exact ⟨⟨request, hChain', rfl⟩, hListed.of_suffix hGrows.history, hViews⟩

end Swapchain

-- ---------------------------------------------------------------------------
-- Render targets
-- ---------------------------------------------------------------------------

namespace RenderTargets

variable {h h' : GpuHistory} {t : RenderTargets}

/-- There are a pass and a depth image with its view, from what the history says. -/
structure MadeIn (t : RenderTargets) (h : GpuHistory) : Prop where
  pass : ∃ pass color depth, t.pass = some pass ∧ Made h (.renderPass color depth) pass
  depth : ∃ d, t.depth = some d ∧ ViewOf h d.image d.view

/-- Render targets stay made from what they were made from. -/
theorem MadeIn.of_suffix (hMade : t.MadeIn h) (hSuffix : h <:+ h') : t.MadeIn h' := by
  obtain ⟨pass, color, depth, hPass, hObject⟩ := hMade.pass
  obtain ⟨d, hDepth, hView⟩ := hMade.depth
  exact ⟨⟨pass, color, depth, hPass, hObject.of_suffix hSuffix⟩, d, hDepth, hView.of_suffix hSuffix⟩

/-- There is a framebuffer for each view: of that and the depth view, for the pass and in a size. -/
def FramedBy (t : RenderTargets) (views : List Handle) (extent : Extent) (h : GpuHistory) : Prop :=
  List.Forall₂ (fun view f => Made h (.framebuffer t.passHandle [view, t.depthView] extent) f) views
    t.framebuffers

/-- Framebuffers stay made of their views. -/
theorem FramedBy.of_suffix {views : List Handle} {extent : Extent}
    (hFramed : t.FramedBy views extent h) (hSuffix : h <:+ h') : t.FramedBy views extent h' :=
  hFramed.imp fun _ _ hMade => hMade.of_suffix hSuffix

/-- A depth image has its view, and the setup buffer moves it to its layout. -/
theorem ensures_createDepth_made (format : TextureFormat) (extent : Extent) (setup : CommandBuffer)
    (s : Host) :
    (createDepth format extent setup).Ensures s
      (fun d t => ViewOf t.gpu.history d.image d.view ∧
        MovesDepth t.gpu.history setup.handle d.image) (fun _ _ => True) := by
  rw [createDepth, ensures_bind]
  refine (ensures_true _ s).mono (fun image s₁ _ => ?_) fun _ _ h => h
  rw [ensures_undoing, finishDepth, ensures_bind]
  refine (ensures_true _ s₁).mono (fun _ s₂ _ => ?_) fun _ _ h => h
  rw [ensures_bind]
  refine (ensures_true _ s₂).mono (fun _ s₃ _ => ?_) fun _ _ h => h
  simp only [ensures_bind, ensures_change, ensures_pure]
  -- the barrier is recorded once there is memory, and the view is made after it
  have hMoves : MovesDepth (s₃.record setup.handle
      (.barrier image (.depthStencilInit format.depthAspects))).gpu.history setup.handle image := by
    refine ⟨.depthStencilInit format.depthAspects, rfl, ?_⟩
    show _ ∈ commands setup.handle (Gpu.happen _ _ s₃.gpu).history
    rw [Gpu.commands_record_self]
    exact List.mem_cons_self
  refine (Host.ensures_setUpCarrying _ _ _ (by rintro ⟨⟩) setup.handle _).mono ?_ fun _ _ h => h
  rintro view t ⟨hView, hCarries⟩
  exact ⟨⟨format, _, _, hView⟩, hCarries.movesDepth hMoves⟩

/-- A render pass is made, and the setup buffer left as it is. -/
theorem ensures_createPass_made (color depth : TextureFormat) (b : Handle) (s : Host) :
    (createPass color depth).Ensures s
      (fun pass t => Made t.gpu.history (.renderPass color depth) pass ∧ Carrying b s t)
      (fun _ _ => True) :=
  Host.ensures_setUpCarrying _ _ _ (by rintro ⟨⟩) b s

/-- The setup buffer moves the depth image to its layout. -/
def Moved (t : RenderTargets) (b : Handle) (h : GpuHistory) : Prop :=
  ∀ x, t.Depth x → MovesDepth h b x

/-- New render targets are a depth image with its view, and a pass. -/
theorem ensures_create_made (color depth : TextureFormat) (extent : Extent) (setup : CommandBuffer)
    (s : Host) :
    (create color depth extent setup).Ensures s
      (fun t u => t.MadeIn u.gpu.history ∧ t.Moved setup.handle u.gpu.history) (fun _ _ => True) := by
  rw [create, ensures_bind]
  refine (ensures_createDepth_made depth extent setup s).mono ?_ fun _ _ h => h
  rintro d s₁ ⟨hView, hMoves⟩
  rw [ensures_bind, ensures_undoing]
  refine (ensures_createPass_made color depth setup.handle s₁).mono ?_ fun _ _ h => h
  rintro pass s₂ ⟨hPass, hCarries⟩
  rw [ensures_pure]
  refine ⟨⟨⟨pass, color, depth, rfl, hPass⟩, d, rfl, hView.of_suffix hCarries.history⟩, ?_⟩
  -- the one depth image is the one just made
  rintro x ⟨d', ⟨⟩, rfl⟩
  exact hCarries.movesDepth hMoves

/-- Framebuffers are added for views one by one, each made of its own. -/
theorem ensures_addFramebuffers_made (extent : Extent) (b : Handle) (views : List Handle)
    (s : RenderTargets × Host) :
    (addFramebuffers extent views).Ensures s
      (fun _ t => Carrying b s t ∧ ∃ fs, t.1 = { s.1 with framebuffers := s.1.framebuffers ++ fs } ∧
        List.Forall₂ (fun view f =>
          Made t.2.gpu.history (.framebuffer s.1.passHandle [view, s.1.depthView] extent) f) views fs)
      (fun _ _ => True) := by
  induction views generalizing s with
  | nil =>
    rw [addFramebuffers, ensures_pure]
    exact ⟨Gpu.carries_of_same rfl, [], by rw [List.append_nil], .nil⟩
  | cons view rest ih =>
    simp only [addFramebuffers, ensures_bind, ensures_get, ensures_change, Op.onHost,
      ensures_onSecond]
    refine (Host.ensures_setUpCarrying _ _ _ (by rintro ⟨⟩) b _).mono ?_ fun _ _ h => h
    rintro f h₁ ⟨hMade, hFirst⟩
    refine (ih _).mono ?_ fun _ _ h => h
    rintro - t ⟨hRest, fs, hFs, hAll⟩
    refine ⟨hFirst.trans hRest, f :: fs, ?_, .cons (hMade.of_suffix hRest.history) hAll⟩
    rw [hFs, List.append_assoc]
    rfl

/-- New framebuffers are made of the views. Pass and depth image stay. -/
theorem ensures_createFramebuffers_made (views : List Handle) (extent : Extent) (b : Handle)
    (s : RenderTargets × Host) :
    (createFramebuffers views extent).Ensures s
      (fun _ t => Carrying b s t ∧ t.1 = { s.1 with framebuffers := t.1.framebuffers } ∧
        t.1.FramedBy views extent t.2.gpu.history)
      (fun _ _ => True) := by
  have hDropped : Carrying b s (dropFramebuffers s) := Gpu.carries_destroyAll _ _ s.2.gpu
  rw [createFramebuffers, ensures_bind, ensures_change]
  refine (ensures_addFramebuffers_made extent b views _).mono ?_ fun _ _ h => h
  rintro - ⟨t, u⟩ ⟨hAdded, fs, hFs, hFramed⟩
  dsimp only at hAdded hFs hFramed
  subst hFs
  exact ⟨hDropped.trans hAdded, rfl, hFramed⟩

end RenderTargets

end RenderLoop
