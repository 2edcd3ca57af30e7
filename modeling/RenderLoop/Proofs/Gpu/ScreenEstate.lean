import RenderLoop.Proofs.Gpu.Holdings

/-!
# RenderLoop — what the context and the screen answer for

The **estate** of a part of a renderer is what it has to destroy in the end. Each
operation of a part keeps the books of the device balanced with the estate of the part
and a **rest** that others answer for, also when it fails. What an operation mentions
beside its own part has to be in that rest.

This module has the context (`GpuContext`), the swapchain and the render targets. While
a context is created nothing is destroyed (`Gpu.Fills`), so what a failed creation leaves
behind is still there.
-/

namespace RenderLoop

open GpuHistory Op Estate

-- ---------------------------------------------------------------------------
-- Buffers to record into
-- ---------------------------------------------------------------------------

/-- A command buffer is there, and so is its pool. -/
def Estate.HasBuffer (estate : Estate) (b : CommandBuffer) : Prop :=
  ∃ pool, .commandBuffer pool b.handle ∈ estate ∧ .object .commandPool pool ∈ estate

/-- A buffer that others answer for is there, too. -/
theorem Estate.HasBuffer.right {rest : Estate} {b : CommandBuffer} (h : rest.HasBuffer b)
    (estate : Estate) : (estate + rest).HasBuffer b := by
  obtain ⟨pool, hBuffer, hPool⟩ := h
  exact ⟨pool, Multiset.mem_add.mpr (.inr hBuffer), Multiset.mem_add.mpr (.inr hPool)⟩

namespace Gpu

variable {g : Gpu} {estate : Estate}

/-- Recording a command mentions the buffer and what the command mentions. -/
theorem Lends.record (h : g.Lends estate) {b : CommandBuffer} (hBuffer : estate.HasBuffer b)
    {c : GpuCommand} (hMentions : ∀ m ∈ c.mentions, Permits g.history m) :
    (g.happen (.record b.handle c) .done).Lends estate := by
  obtain ⟨pool, hMem, hPool⟩ := hBuffer
  exact h.happen ⟨rfl, rfl, rfl⟩ (List.forall_mem_cons.mpr ⟨h.permits_buffer hPool hMem, hMentions⟩)

/-- What holds however a step ends holds of the device after it. -/
theorem Does.snd {α : Type} {step : GpuStep α} {P : Gpu → Prop}
    (h : Does step g (fun _ g' => P g') P) : P (step g).2 := by
  rw [Does] at h
  split at h <;> (rename_i hStep; rw [hStep]; exact h)

-- ---------------------------------------------------------------------------
-- Devices that took nothing back
-- ---------------------------------------------------------------------------

/-- The books balance, and nothing was taken back yet. -/
structure Fills (g : Gpu) (estate : Estate) : Prop extends Lends g estate where
  untaken : taken g.history = []

/-- The books of a new device are empty. -/
theorem fills_of_new (hHistory : g.history = []) (hPos : 0 < g.nextHandle) : g.Fills 0 := by
  refine ⟨lends_of_new hHistory hPos, ?_⟩
  rw [hHistory]
  rfl

namespace Fills

/-- All that was given out is in the estate. -/
theorem given_eq (h : g.Fills estate) : (given g.history : Estate) = estate := by
  rw [h.balance, h.untaken, Multiset.coe_nil, zero_add]

/-- A device that was only asked is as full as before. -/
theorem of_asked {g' : Gpu} (h : g.Fills estate) (hAsked : OnlyAsked g g') : g'.Fills estate := by
  refine ⟨h.toLends.of_asked hAsked, ?_⟩
  rw [hAsked.history]
  exact h.untaken

/-- A queue is no entry of the books. -/
theorem getQueue (h : g.Fills estate) (family : Nat) : (g.getQueue family).2.Fills estate :=
  ⟨h.toLends.getQueue family, h.untaken⟩

/-- An object that is created is added to what is there; nothing is taken back, also when that
fails. -/
theorem does_create {c : Creation} (h : g.Fills estate)
    (hMentions : ∀ m ∈ c.mentions, Permits g.history m) :
    Does (create c) g (fun x g' => x ≠ 0 ∧ g'.Fills (Estate.object c.kind x + estate))
      (fun g' => g'.Fills estate) := by
  have hUntaken : taken (create c g).2.history = [] := by
    -- whichever way it goes, the history has one more event that is no destruction
    cases hRefusal : g.refusal? (GpuCall.create c).name with
    | some code =>
      rw [create, attempt_of_refusal hRefusal]
      exact h.untaken
    | none =>
      rw [create, attempt_of_none hRefusal]
      cases c <;> exact h.untaken
  have hLends := h.toLends.does_create hMentions
  rw [Does] at hLends ⊢
  split <;> (rename_i hStep; rw [hStep] at hLends hUntaken)
  · exact ⟨hLends.1, hLends.2, hUntaken⟩
  · exact ⟨hLends, hUntaken⟩

end Fills

end Gpu

-- ---------------------------------------------------------------------------
-- The context
-- ---------------------------------------------------------------------------

namespace GpuContext

/-- The queue goes with the device. -/
def estate (c : GpuContext) : Estate :=
  object .device c.device + (object .surface c.surface +
    (objects .messenger c.messenger.toList + object .apiInstance c.apiInstance))

/-- Everything goes back to the device. -/
theorem lends_destroy {c : GpuContext} {rest : Estate} {s : Host}
    (h : s.gpu.Lends (c.estate + rest)) : (c.destroy s).gpu.Lends rest := by
  have hIdle : (Gpu.perform .waitDevice s.gpu).2.Lends (c.estate + rest) :=
    (h.does_perform (List.forall_mem_nil _)).snd
  simp only [estate, add_assoc] at hIdle
  exact hIdle.destroy.destroy.destroyAll.destroy

/-- The device goes first, and the instance last. -/
theorem history_destroy (c : GpuContext) (s : Host) :
    (c.destroy s).gpu.history = ⟨.destroy .apiInstance c.apiInstance, .done⟩ ::
      (c.messenger.toList.map (fun x => ⟨.destroy .messenger x, .done⟩) ++
        ⟨.destroy .surface c.surface, .done⟩ :: ⟨.destroy .device c.device, .done⟩ ::
          (Gpu.perform .waitDevice s.gpu).2.history) := by
  rw [destroy]
  cases c.messenger <;> rfl

/-- The device was taken back, if there was one. -/
theorem mem_taken_destroy {c : GpuContext} (hDevice : c.device ≠ 0) (s : Host) :
    .object .device c.device ∈ taken (c.destroy s).gpu.history := by
  refine List.mem_flatMap.mpr ⟨⟨.destroy .device c.device, .done⟩, ?_, ?_⟩
  · rw [history_destroy]
    simp
  · simp [GpuEvent.taken, hDevice]

variable {s : Host} {estate : Estate}

/-- Creating an object of the context. -/
theorem ensures_make {c : Creation} (noticed told : String) (h : s.gpu.Fills estate)
    (hMentions : c.mentions = []) :
    (setUp noticed told (Gpu.create c)).Ensures s
      (fun x t => x ≠ 0 ∧ t.gpu.Fills (object c.kind x + estate))
      (fun _ t => t.gpu.Fills estate) := by
  refine Host.ensures_setUp_of_does _ _ _ (h.does_create ?_)
  rw [hMentions]
  exact List.forall_mem_nil _

/-- The instance, or nothing: a display that does not suit is refused before. -/
theorem ensures_createInstance (window : Window) (config : RendererConfig) (h : s.gpu.Fills estate) :
    (createInstance window config).Ensures s
      (fun x t => t.gpu.Fills (object .apiInstance x + estate)) (fun _ t => t.gpu.Fills estate) := by
  -- a window without a display is refused before the device is called
  have hDisplay : (expectDisplay window).Within (Along Gpu.OnlyAsked) := by
    rw [expectDisplay]
    split
    · exact within_failWith _ _
    · exact within_failWith _ _
    · exact within_pure ()
  have hRest : (do expectDisplay window
                   setUp "create Vulkan instance" "create instance"
                     (Gpu.create (.apiInstance config))).Ensures s
      (fun x t => t.gpu.Fills (object .apiInstance x + estate)) (fun _ t => t.gpu.Fills estate) := by
    rw [ensures_bind]
    refine (hDisplay s).mono (fun _ t hAsked => ?_) fun _ t hAsked => h.of_asked hAsked
    exact (ensures_make _ _ (h.of_asked hAsked) rfl).mono (fun _ _ h => h.2) fun _ _ h => h
  refine ensures_ite (fun _ => ?_) fun _ => hRest
  rw [ensures_bind, ensures_throw]
  exact h

/-- The messenger, if the configuration asks for one. -/
theorem ensures_createMessenger (config : RendererConfig) (h : s.gpu.Fills estate) :
    (createMessenger config).Ensures s
      (fun x t => t.gpu.Fills (objects .messenger x.toList + estate))
      (fun _ t => t.gpu.Fills estate) := by
  refine ensures_ite (fun _ => ?_) fun _ => ?_
  · rw [ensures_map]
    refine (ensures_make _ _ h rfl).mono (fun x t hMade => ?_) fun _ _ h => h
    rw [Option.toList_some, objects_cons, objects_nil, add_zero]
    exact hMade.2
  · rw [ensures_pure, Option.toList_none, objects_nil, zero_add]
    exact h

/-- The surface, or nothing, as for a window that can have none. -/
theorem ensures_createSurface (window : Window) (h : s.gpu.Fills estate) :
    (createSurface window).Ensures s
      (fun x t => t.gpu.Fills (object .surface x + estate)) (fun _ t => t.gpu.Fills estate) := by
  rw [createSurface]
  split
  · exact (ensures_failWith _ _ _).mpr h
  · exact (ensures_failWith _ _ _).mpr h
  · exact (ensures_make _ _ h rfl).mono (fun _ _ h => h.2) fun _ _ h => h

/-- Nothing was taken back, and there is no device. -/
def Stranded (g : Gpu) : Prop := ∃ estate, g.Fills estate ∧ ∀ x, .object .device x ∉ estate

/-- What is made before the device. -/
theorem stranded_of_fills (surface : Handle) (messengers : List Handle) {apiInstance : Handle}
    {g : Gpu} (h : g.Fills (object .surface surface + (objects .messenger messengers +
      object .apiInstance apiInstance))) : Stranded g := by
  refine ⟨_, h, fun x hDevice => ?_⟩
  simp only [Multiset.mem_add] at hDevice
  rcases hDevice with hx | hx | hx
  · obtain ⟨y, ⟨⟩⟩ := exists_of_mem_object hx
  · obtain ⟨y, ⟨⟩⟩ := exists_of_mem_objects hx
  · obtain ⟨y, ⟨⟩⟩ := exists_of_mem_object hx

/-- A context that cannot be created gives nothing back. -/
theorem ensures_create (window : Window) (config : RendererConfig) (h : s.gpu.Fills 0) :
    (create window config).Ensures s (fun c t => c.device ≠ 0 ∧ t.gpu.Fills c.estate)
      (fun _ t => Stranded t.gpu) := by
  rw [create, ensures_bind]
  refine (ensures_createInstance window config h).mono (fun apiInstance s₁ h₁ => ?_)
    -- the first step to fail decides what is left behind, and a device is never in it
    fun _ _ h => ⟨0, h, fun _ => Multiset.notMem_zero _⟩
  rw [add_zero] at h₁
  rw [ensures_bind]
  refine (ensures_createMessenger config h₁).mono (fun messenger s₂ h₂ => ?_)
    fun _ _ h => stranded_of_fills 0 [] (by simpa using h)
  rw [ensures_bind]
  refine (ensures_createSurface window h₂).mono (fun surface s₃ h₃ => ?_)
    fun _ _ h => stranded_of_fills 0 _ (by simpa using h)
  rw [ensures_bind]
  refine (within_chooseDevice (R := Gpu.OnlyAsked) s₃).mono (fun choice s₄ hAsked => ?_)
    fun _ _ hAsked => stranded_of_fills _ _ (h₃.of_asked hAsked)
  obtain ⟨number, physical, family⟩ := choice
  have hLogged : (logAll (chosenEntries physical family) : Op Host Unit).Ensures s₄
      (fun _ t => t.gpu.Fills _) (fun _ t => Stranded t.gpu) :=
    ensures_logAll (fun _ _ h => h) _ (h₃.of_asked hAsked)
  rw [ensures_bind]
  refine hLogged.mono (fun _ s₅ h₅ => ?_) fun _ _ h => h
  rw [ensures_bind]
  refine (ensures_make _ _ h₅ rfl).mono (fun device s₆ hMade => ?_)
    fun _ _ h => stranded_of_fills _ _ h
  rw [ensures_bind, Host.call, ensures_act, ensures_pure]
  exact ⟨hMade.1, hMade.2.getQueue family⟩

end GpuContext

-- ---------------------------------------------------------------------------
-- The swapchain
-- ---------------------------------------------------------------------------

namespace Swapchain

variable {c : Swapchain} {h : Host} {rest : Estate}

/-- The images come with the chain. -/
def estate (c : Swapchain) : Estate := objects .imageView c.views + object .swapchain c.handle

/-- A chain whose images were found. -/
structure Backed (c : Swapchain) (h : GpuHistory) : Prop where
  handle : c.handle ≠ 0
  listed : Listed h c.handle c.images

/-- The images of a chain stay listed as the history goes on. -/
theorem Backed.of_suffix {h h' : GpuHistory} (hBacked : c.Backed h) (hSuffix : h <:+ h') :
    c.Backed h' where
  handle := hBacked.handle
  listed := hBacked.listed.of_suffix hSuffix

/-- A chain is there, if it has a handle. -/
theorem mem_estate (hHandle : c.handle ≠ 0) : .object .swapchain c.handle ∈ c.estate :=
  (has_object .swapchain c.handle).right _ hHandle

/-- Everything goes back to the device. -/
theorem lends_destroy (hLends : h.gpu.Lends (c.estate + rest)) : (destroy (c, h)).gpu.Lends rest := by
  rw [estate, add_assoc] at hLends
  exact hLends.destroyAll.destroyIfAny

/-- A new chain takes the place of the old one. -/
theorem lends_replace {handle : Handle}
    (hLends : h.gpu.Lends (object .swapchain handle + (c.estate + rest))) :
    (replace handle (c, h)).2.gpu.Lends ((replace handle (c, h)).1.estate + rest) := by
  have hOld : object .swapchain handle + (c.estate + rest) =
      objects .imageView c.views + (object .swapchain c.handle +
        (object .swapchain handle + rest)) := by
    rw [estate]
    ac_rfl
  rw [hOld] at hLends
  show Gpu.Lends _ (0 + object .swapchain handle + rest)
  rw [zero_add]
  exact hLends.destroyAll.destroyIfAny

/-- Each image is put into the setup buffer and gets a view; both mention an image that was
listed. -/
theorem ensures_addViews_of_lends (setup : CommandBuffer) (format : TextureFormat)
    {images : List Handle} (hLends : h.gpu.Lends (c.estate + rest)) (hBacked : c.Backed h.gpu.history)
    (hSetup : rest.HasBuffer setup) (hImages : ∀ x ∈ images, x ∈ c.images) :
    (addViews setup format images).Ensures (c, h)
      (fun _ t => t.2.gpu.Lends (t.1.estate + rest) ∧ t.1.Backed t.2.gpu.history)
      (fun _ t => t.2.gpu.Lends (t.1.estate + rest)) := by
  induction images generalizing c h with
  | nil =>
    rw [addViews, ensures_pure]
    exact ⟨hLends, hBacked⟩
  | cons image images ih =>
    have hChain : .object .swapchain c.handle ∈ c.estate + rest :=
      Multiset.mem_add.mpr (.inl (mem_estate hBacked.handle))
    have hImage : Permits h.gpu.history (.image image) :=
      hLends.permits_listed hChain hBacked.listed (hImages image List.mem_cons_self)
    -- first its barrier
    have hRecorded : (h.record setup.handle (.barrier image .presentSource)).gpu.Lends
        (c.estate + rest) :=
      hLends.record (hSetup.right _) (List.forall_mem_singleton.mpr hImage)
    generalize hHost : h.record setup.handle (.barrier image .presentSource) = h₁ at hRecorded
    have hSuffix : h.gpu.history <:+ h₁.gpu.history := hHost ▸ List.suffix_cons _ _
    have hBacked₁ := hBacked.of_suffix hSuffix
    have hImage₁ : Permits h₁.gpu.history (.image image) :=
      hRecorded.permits_listed hChain hBacked₁.listed (hImages image List.mem_cons_self)
    simp only [addViews, addView, ensures_bind, ensures_change, Op.onHost, ensures_onSecond, hHost]
    -- then its view
    have hMake := Host.ensures_setUp_of_does component "create swapchain image view"
      "create image view" (hRecorded.does_create (c := .imageView image format .named .color)
        (List.forall_mem_singleton.mpr hImage₁))
    refine (hMake.and (Host.within_setUp _ _ _ (Gpu.grows_create _) h₁)).mono ?_ ?_
    · rintro view h₂ ⟨⟨-, hMade⟩, hGrows⟩
      have hNew : object .imageView view + (c.estate + rest) =
          estate { c with views := c.views ++ [view] } + rest := by
        rw [estate, estate, objects_append, objects_cons, objects_nil, add_zero]
        ac_rfl
      exact ih (by rw [← hNew]; exact hMade)
        ⟨hBacked.handle, hBacked₁.listed.of_suffix hGrows.history⟩
        fun x hx => hImages x (List.mem_cons_of_mem _ hx)
    · exact fun _ _ hFailed => hFailed.1

/-- What is asked for names the surface and the chain that there is. -/
theorem request_mentions {surface : Handle} {probe : SurfaceProbe} {window : Extent}
    {request : SwapchainRequest} {entries : List LogEntry}
    (hRequest : c.request surface probe window = some (request, entries)) :
    (Creation.swapchain request).mentions =
      [.object .surface surface, .object .swapchain c.handle] := by
  obtain ⟨extent, -, hEq⟩ := Option.map_eq_some_iff.mp hRequest
  cases hEq
  rfl

/-- A chain is built in place of the one there is. -/
theorem ensures_build_of_lends {surface : Handle} (probe : SurfaceProbe) (window : Extent)
    {setup : CommandBuffer} (hLends : h.gpu.Lends (c.estate + rest))
    (hSurface : rest.Has .surface surface) (hSetup : rest.HasBuffer setup) :
    (build surface probe window setup).Ensures (c, h)
      (fun _ t => t.2.gpu.Lends (t.1.estate + rest) ∧ t.1.Backed t.2.gpu.history)
      (fun _ t => t.2.gpu.Lends (t.1.estate + rest)) := by
  simp only [build, ensures_bind, ensures_get, ensures_ofOption]
  rintro ⟨request, entries⟩ hRequest
  have hLogged : (logAll entries).Ensures (c, h)
      (fun _ t => t.1 = c ∧ t.2.gpu.Lends (t.1.estate + rest))
      (fun _ t => t.2.gpu.Lends (t.1.estate + rest)) :=
    ensures_logAll (fun _ _ h => h) _ ⟨rfl, hLends⟩
  refine hLogged.mono ?_ fun _ _ h => h
  rintro - ⟨c₁, h₁⟩ ⟨rfl, hLends₁⟩
  simp only [Op.onHost, ensures_onSecond, ensures_change]
  -- the old chain is handed over to the new one, so it has to be there as well
  have hMentions : ∀ m ∈ (Creation.swapchain request).mentions, Permits h₁.gpu.history m := by
    rw [request_mentions hRequest]
    exact List.forall_mem_cons.mpr ⟨hLends₁.permits_object (hSurface.right _),
      List.forall_mem_singleton.mpr
        (hLends₁.permits_object (((has_object .swapchain c₁.handle).right _).left rest))⟩
  refine (Host.ensures_setUp_of_does _ _ _ (hLends₁.does_create hMentions)).mono ?_ fun _ _ h => h
  rintro handle h₂ ⟨hNew, hCreated⟩
  -- now the old chain is destroyed, and the estate is that of the new one
  have hReplaced : (replace handle (c₁, h₂)).2.gpu.Lends
      ((replace handle (c₁, h₂)).1.estate + rest) := lends_replace hCreated
  have hHandle : (replace handle (c₁, h₂)).1.handle = handle := rfl
  generalize replace handle (c₁, h₂) = s at hReplaced hHandle
  obtain ⟨c₃, h₃⟩ := s
  dsimp only at hReplaced hHandle
  subst hHandle
  have hChain : .object .swapchain c₃.handle ∈ c₃.estate + rest :=
    Multiset.mem_add.mpr (.inl (mem_estate hNew))
  refine (Host.ensures_setUp_of_does _ _ _ (hReplaced.does_swapchainImages hChain)).mono ?_
    fun _ _ h => h
  rintro images h₄ ⟨hListed, hLends₄⟩
  refine (ensures_addViews_of_lends (c := { c₃ with images }) setup probe.format.format hLends₄
    ⟨hNew, hListed⟩ hSetup fun _ hx => hx).mono ?_ fun _ _ h => h
  rintro - ⟨c₅, h₅⟩ ⟨hLends₅, hBacked⟩
  simp only [ensures_log]
  exact ⟨hLends₅, hBacked.handle, hBacked.listed⟩

/-- A chain is built for what the surface offers now. -/
theorem ensures_recreate_of_lends {surface : Handle} (window : Extent) {setup : CommandBuffer}
    (hLends : h.gpu.Lends (c.estate + rest)) (hSurface : rest.Has .surface surface)
    (hSetup : rest.HasBuffer setup) :
    (recreate surface window setup).Ensures (c, h)
      (fun _ t => t.2.gpu.Lends (t.1.estate + rest) ∧ t.1.Backed t.2.gpu.history)
      (fun _ t => t.2.gpu.Lends (t.1.estate + rest)) := by
  rw [recreate, ensures_bind, Op.onHost, ensures_onSecond]
  refine (SurfaceProbe.within_take (R := Gpu.OnlyAsked) h).mono (fun probe h₁ hAsked => ?_)
    fun _ _ hAsked => hLends.of_asked hAsked
  have hLogged : (logAll (c.formatEntries probe.format)).Ensures (c, h₁)
      (fun _ t => t.1 = c ∧ t.2.gpu.Lends (t.1.estate + rest))
      (fun _ t => t.2.gpu.Lends (t.1.estate + rest)) :=
    ensures_logAll (fun _ _ h => h) _ ⟨rfl, hLends.of_asked hAsked⟩
  rw [ensures_bind, ensures_get, ensures_bind]
  refine hLogged.mono ?_ fun _ _ h => h
  rintro - ⟨c₁, h₂⟩ ⟨rfl, hLends₂⟩
  rw [ensures_bind, ensures_change]
  exact ensures_build_of_lends (c := { c₁ with format := probe.format }) probe window hLends₂ hSurface
    hSetup

end Swapchain

-- ---------------------------------------------------------------------------
-- Render targets
-- ---------------------------------------------------------------------------

/-- The view and the image itself; the memory goes with the image. -/
def DepthImage.estate (d : DepthImage) : Estate := object .imageView d.view + object .image d.image

namespace RenderTargets

variable {t : RenderTargets} {h : Host} {rest : Estate} {setup : CommandBuffer}

/-- The framebuffers, the pass and the depth image. -/
def estate (t : RenderTargets) : Estate :=
  objects .framebuffer t.framebuffers +
    (objects .renderPass t.pass.toList + (t.depth.toList.map DepthImage.estate).sum)

/-- The pass of the targets is there, if they have one. -/
theorem has_pass (t : RenderTargets) : t.estate.Has .renderPass t.passHandle := by
  cases hPass : t.pass with
  | none =>
    rw [passHandle, hPass]
    exact fun hNone => absurd rfl hNone
  | some p =>
    have hMem : (objects .renderPass t.pass.toList).Has .renderPass p := by
      rw [hPass]
      exact has_of_mem (List.mem_singleton_self p)
    rw [passHandle, hPass]
    exact (hMem.left _).right _

/-- Each framebuffer is there. -/
theorem has_framebuffer {x : Handle} (hx : x ∈ t.framebuffers) : t.estate.Has .framebuffer x :=
  (has_of_mem hx).left _

/-- View and image of the depth image are there. -/
theorem has_depth {d : DepthImage} (hDepth : t.depth = some d) :
    t.estate.Has .imageView d.view ∧ t.estate.Has .image d.image := by
  have hSum : (t.depth.toList.map DepthImage.estate).sum = d.estate := by
    rw [hDepth]
    exact List.sum_singleton
  rw [estate, hSum]
  exact ⟨(((has_object _ _).left _).right _).right _, (((has_object _ _).right _).right _).right _⟩

/-- The view that framebuffers attach is there, if there is a depth image. -/
theorem has_depthView (t : RenderTargets) : t.estate.Has .imageView t.depthView := by
  cases hDepth : t.depth with
  | none =>
    rw [depthView, hDepth]
    exact fun hNone => absurd rfl hNone
  | some d =>
    rw [depthView, hDepth]
    exact (has_depth hDepth).1

-- ---------------------------------------------------------------------------
-- The depth image
-- ---------------------------------------------------------------------------

/-- A depth image is given back with its view. -/
theorem lends_destroyDepth {d : DepthImage} (hLends : h.gpu.Lends (d.estate + rest)) :
    (destroyDepth d h).gpu.Lends rest := by
  rw [DepthImage.estate, add_assoc] at hLends
  exact hLends.destroyIfAny.destroy

/-- An image gets memory, a barrier and a view; if one of them fails, the image alone is left. -/
theorem ensures_finishDepth_of_lends (format : TextureFormat) {image : Handle}
    (hLends : h.gpu.Lends (object .image image + rest)) (hSetup : rest.HasBuffer setup) :
    (finishDepth format image setup).Ensures h (fun d t => t.gpu.Lends (d.estate + rest))
      (fun _ t => t.gpu.Lends (object .image image + rest)) := by
  have hImage : (object .image image + rest).Has .image image := (has_object _ _).left _
  rw [finishDepth, ensures_bind]
  refine (Host.within_provideDepth (R := Gpu.OnlyAsked) _ _ h).mono (fun _ h₁ hAsked => ?_)
    fun _ _ hAsked => hLends.of_asked hAsked
  have hLends₁ := hLends.of_asked hAsked
  have hMentions : ∀ m ∈ (GpuCall.bindImage image).mentions, Permits h₁.gpu.history m :=
    List.forall_mem_singleton.mpr (hLends₁.permits_object hImage)
  -- memory is provided, and bound to the image
  have hBind := Host.ensures_setUp_of_does component "bind depth image memory"
    "bind depth image memory" (hLends₁.does_perform hMentions)
  rw [ensures_bind]
  refine hBind.mono (fun _ h₂ hLends₂ => ?_) fun _ _ h => h
  rw [ensures_bind, ensures_change, ensures_bind]
  -- the layout of the image is set in the setup buffer, before there is a view
  have hRecorded : (h₂.record setup.handle (.barrier image (.depthStencilInit
      format.depthAspects))).gpu.Lends (object .image image + rest) :=
    hLends₂.record (hSetup.right _) (List.forall_mem_singleton.mpr (hLends₂.permits_image hImage))
  have hMentions := List.forall_mem_singleton.mpr (hRecorded.permits_image hImage)
  refine (Host.ensures_setUp_of_does _ _ _ (hRecorded.does_create
    (c := .imageView image format .unchanged format.depthAspects) hMentions)).mono
    (fun view h₃ hMade => ?_) fun _ _ h => h
  rw [ensures_pure, DepthImage.estate, add_assoc]
  exact hMade.2

/-- A depth image is there as a whole, or not at all. -/
theorem ensures_createDepth_of_lends (format : TextureFormat) (extent : Extent)
    (hLends : h.gpu.Lends rest) (hSetup : rest.HasBuffer setup) :
    (createDepth format extent setup).Ensures h (fun d t => t.gpu.Lends (d.estate + rest))
      (fun _ t => t.gpu.Lends rest) := by
  rw [createDepth, ensures_bind]
  refine (Host.ensures_setUp_of_does _ _ _ (hLends.does_create (c := .image format extent)
    (List.forall_mem_nil _))).mono (fun image h₁ hMade => ?_) fun _ _ h => h
  rw [ensures_undoing]
  exact (ensures_finishDepth_of_lends format hMade.2 hSetup).mono (fun _ _ h => h)
    fun _ _ h => h.destroy

-- ---------------------------------------------------------------------------
-- The whole
-- ---------------------------------------------------------------------------

/-- A render pass, or nothing. -/
theorem ensures_createPass_of_lends (color depth : TextureFormat) (hLends : h.gpu.Lends rest) :
    (createPass color depth).Ensures h (fun x t => t.gpu.Lends (object .renderPass x + rest))
      (fun _ t => t.gpu.Lends rest) := by
  have hDoes := hLends.does_create (c := .renderPass color depth) (List.forall_mem_nil _)
  refine (Host.ensures_setUp_of_does _ _ _ hDoes).mono ?_ fun _ _ h => h
  exact fun _ _ hMade => hMade.2

/-- New targets have a depth image and a pass; without the pass, the depth image is destroyed
again. -/
theorem ensures_create_of_lends (color depthFormat : TextureFormat) (extent : Extent)
    (hLends : h.gpu.Lends rest) (hSetup : rest.HasBuffer setup) :
    (create color depthFormat extent setup).Ensures h (fun t u => u.gpu.Lends (t.estate + rest))
      (fun _ u => u.gpu.Lends rest) := by
  rw [create, ensures_bind]
  refine (ensures_createDepth_of_lends depthFormat extent hLends hSetup).mono (fun depth h₁ h₁' => ?_)
    fun _ _ h => h
  rw [ensures_bind, ensures_undoing]
  refine (ensures_createPass_of_lends color depthFormat h₁').mono (fun pass h₂ hMade => ?_)
    fun _ _ hFailed => lends_destroyDepth hFailed
  rw [ensures_pure]
  have hEstate : RenderTargets.estate { pass := some pass, depthFormat, depth := some depth } =
      object .renderPass pass + depth.estate := by
    show 0 + (object .renderPass pass + 0 + (depth.estate + 0)) = _
    rw [zero_add, add_zero, add_zero]
  rw [hEstate, add_assoc]
  exact hMade

/-- The framebuffers are given back, and the others stay. -/
theorem lends_dropFramebuffers (hLends : h.gpu.Lends (t.estate + rest)) :
    (dropFramebuffers (t, h)).2.gpu.Lends ((dropFramebuffers (t, h)).1.estate + rest) := by
  rw [estate, add_assoc] at hLends
  rw [dropFramebuffers, estate, objects_nil, zero_add]
  exact hLends.destroyAll

/-- Targets that were torn down. -/
structure Bare (t : RenderTargets) : Prop where
  framebuffers : t.framebuffers = []
  pass : objects .renderPass t.pass.toList = 0
  depth : t.depth = none

/-- Nobody answers for targets that were torn down. -/
theorem Bare.estate_eq (h : t.Bare) : t.estate = 0 := by
  rw [estate, h.framebuffers, h.pass, h.depth]
  rfl

/-- Targets whose depth image was made again. -/
theorem Bare.estate_withDepth (h : t.Bare) (d : DepthImage) :
    estate { t with depth := some d } = d.estate := by
  rw [estate, h.framebuffers, h.pass, objects_nil, zero_add, zero_add]
  exact List.sum_singleton

/-- Targets whose pass was made again, too. -/
theorem Bare.estate_withPass (h : t.Bare) (d : DepthImage) (pass : Handle) (generation : UInt64) :
    estate { t with depth := some d, pass := some pass, generation } =
      object .renderPass pass + d.estate := by
  rw [estate, h.framebuffers, objects_nil, zero_add, Option.toList_some, objects_cons, objects_nil,
    add_zero]
  exact congrArg _ List.sum_singleton

/-- Tearing down leaves no framebuffers, no depth image, and no pass that is still there. -/
theorem bare_tearDown (s : RenderTargets × Host) : (tearDown s).1.Bare := by
  refine ⟨rfl, ?_, rfl⟩
  show objects .renderPass (s.1.pass.map fun _ => 0).toList = 0
  -- a pass that was destroyed keeps its place, with no handle in it
  cases s.1.pass with
  | none => rfl
  | some p =>
    rw [Option.map_some, Option.toList_some, objects_cons, object_zero]
    rfl

/-- What is torn down goes back to the device. -/
theorem lends_tearDown (hLends : h.gpu.Lends (t.estate + rest)) :
    (tearDown (t, h)).2.gpu.Lends rest := by
  rw [estate, add_assoc, add_assoc] at hLends
  have hPass := hLends.destroyAll.destroyAll
  -- framebuffers and pass are gone, what is left is the depth image
  cases hDepth : t.depth with
  | none =>
    rw [hDepth, Option.toList_none, List.map_nil, List.sum_nil, zero_add] at hPass
    simp only [tearDown, dropFramebuffers, hDepth, Option.toList_none, List.foldl_nil]
    exact hPass
  | some d =>
    rw [hDepth, Option.toList_some, List.map_singleton, List.sum_singleton] at hPass
    simp only [tearDown, dropFramebuffers, hDepth, Option.toList_some, List.foldl_cons,
      List.foldl_nil]
    exact lends_destroyDepth (by exact hPass)

/-- So it does when the targets are destroyed. -/
theorem lends_destroy (hLends : h.gpu.Lends (t.estate + rest)) : (destroy (t, h)).gpu.Lends rest :=
  lends_tearDown hLends

/-- Each view gets a framebuffer, which attaches the view, the depth image and the pass that are
there. -/
theorem ensures_addFramebuffers_of_lends (extent : Extent) {views : List Handle}
    (hLends : h.gpu.Lends (t.estate + rest)) (hViews : ∀ x ∈ views, rest.Has .imageView x) :
    (addFramebuffers extent views).Ensures (t, h)
      (fun _ u => u.2.gpu.Lends (u.1.estate + rest))
      (fun _ u => u.2.gpu.Lends (u.1.estate + rest)) := by
  induction views generalizing t h with
  | nil =>
    rw [addFramebuffers, ensures_pure]
    exact hLends
  | cons view views ih =>
    simp only [addFramebuffers, ensures_bind, ensures_get, ensures_change, Op.onHost,
      ensures_onSecond]
    -- a framebuffer mentions the pass, a view and the depth view, which are all lent
    have hMentions : ∀ m ∈ (Creation.framebuffer t.passHandle [view, t.depthView] extent).mentions,
        Permits h.gpu.history m := by
      refine List.forall_mem_cons.mpr ⟨hLends.permits_object (t.has_pass.left rest),
        hLends.permits_objects ?_⟩
      exact List.forall_mem_cons.mpr ⟨(hViews view List.mem_cons_self).right _,
        List.forall_mem_singleton.mpr (t.has_depthView.left rest)⟩
    refine (Host.ensures_setUp_of_does _ _ _ (hLends.does_create hMentions)).mono
      (fun framebuffer h₁ hMade => ?_) fun _ _ h => h
    have hNew : object .framebuffer framebuffer + (t.estate + rest) =
        estate { t with framebuffers := t.framebuffers ++ [framebuffer] } + rest := by
      rw [estate, estate, objects_append, objects_cons, objects_nil, add_zero]
      ac_rfl
    exact ih (by rw [← hNew]; exact hMade.2) fun x hx => hViews x (List.mem_cons_of_mem _ hx)

/-- New framebuffers take the place of the old ones. -/
theorem ensures_createFramebuffers_of_lends (extent : Extent) {views : List Handle}
    (hLends : h.gpu.Lends (t.estate + rest)) (hViews : ∀ x ∈ views, rest.Has .imageView x) :
    (createFramebuffers views extent).Ensures (t, h)
      (fun _ u => u.2.gpu.Lends (u.1.estate + rest))
      (fun _ u => u.2.gpu.Lends (u.1.estate + rest)) := by
  rw [createFramebuffers, ensures_bind, ensures_change]
  exact ensures_addFramebuffers_of_lends extent (lends_dropFramebuffers hLends) hViews

/-- The targets are torn down and made again; the ones that could be made stay if the next cannot
be. -/
theorem ensures_recreate_of_lends (color : TextureFormat) (extent : Extent)
    (hLends : h.gpu.Lends (t.estate + rest)) (hSetup : rest.HasBuffer setup) :
    (recreate color extent setup).Ensures (t, h)
      (fun _ u => u.2.gpu.Lends (u.1.estate + rest))
      (fun _ u => u.2.gpu.Lends (u.1.estate + rest)) := by
  have hTorn := lends_tearDown hLends
  have hBare := bare_tearDown (t, h)
  rw [recreate, ensures_bind, ensures_change, ensures_bind, ensures_get]
  generalize tearDown (t, h) = s at hTorn hBare
  obtain ⟨t₁, h₁⟩ := s
  rw [ensures_bind, Op.onHost, ensures_onSecond]
  refine (ensures_createDepth_of_lends t₁.depthFormat extent hTorn hSetup).mono
    (fun depth h₂ hDepth => ?_) fun _ u hFailed => ?_
  · rw [ensures_bind, ensures_change, ensures_bind, Op.onHost, ensures_onSecond]
    refine (ensures_createPass_of_lends color t₁.depthFormat hDepth).mono
      (fun pass h₃ hPass => ?_) fun _ u hFailed => ?_
    · simp only [ensures_bind, ensures_get, ensures_ofOption, ensures_change, ensures_log]
      intro generation _
      show h₃.gpu.Lends (estate { t₁ with depth := some depth, pass := some pass, generation } + rest)
      rw [hBare.estate_withPass, add_assoc]
      exact hPass
    · -- there is a depth image, but no pass
      show u.gpu.Lends (estate { t₁ with depth := some depth } + rest)
      rw [hBare.estate_withDepth]
      exact hFailed
  · -- there is not even a depth image
    show u.gpu.Lends (t₁.estate + rest)
    rw [hBare.estate_eq, zero_add]
    exact hFailed

end RenderTargets

end RenderLoop
