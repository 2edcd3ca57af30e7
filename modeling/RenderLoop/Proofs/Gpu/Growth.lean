import RenderLoop.Gpu.RenderTargets
import RenderLoop.Proofs.Frame.Steadfast
import RenderLoop.Proofs.Gpu.Bystanders

/-!
# RenderLoop — devices that only grow

Beside routine calls there are those that make and tear down the screen, and those that
record and submit. A relation that every call keeps to as long as it creates nothing of
a size (`Gpu.Unsized`) is kept to by all of these, if only it **admits** the sizes of
what they create (`Gpu.Admits`): the swapchain, the depth image and the framebuffers.

Whatever calls are made, the history of a device **grows**: events are added to it,
and none is taken back. And no call but storing touches the memory of the frame
buffer (`Gpu.Grows`).
-/

namespace RenderLoop

namespace Gpu

/-- Relations between devices that every call keeps to that creates nothing of a size. -/
class Unsized (R : Gpu → Gpu → Prop) : Prop extends Silent R where
  takeHandles : ∀ n g, R g (g.takeHandles n).2
  addChain : ∀ x request g, R g (g.addChain x request)
  happen : ∀ {call : GpuCall}, call.size? = none → ∀ outcome g, R g (g.happen call outcome)

instance {R : Gpu → Gpu → Prop} [hR : Unsized R] : Plain R where
  takeHandles := hR.takeHandles
  happen _ hSize := hR.happen hSize _

/-- What has this size may be created. -/
def Admits (R : Gpu → Gpu → Prop) (size : Extent) : Prop :=
  ∀ creation : Creation, creation.size? = some size → ∀ outcome g,
    R g (g.happen (.create creation) outcome)

section Unsized

variable {R : Gpu → Gpu → Prop} [hR : Unsized R]

/-- A call that creates nothing of a size is kept to. -/
theorem unsized_perform {call : GpuCall} (hSize : call.size? = none := by rfl) (g : Gpu) :
    R g (perform call g).2 :=
  silent_attempt (fun _ => hR.happen hSize _) hR.refl (fun _ => hR.happen hSize _) g

/-- Creating a swapchain adds its images as well. -/
theorem create_of_happen {creation : Creation}
    (h : ∀ outcome g, R g (g.happen (.create creation) outcome)) (g : Gpu) :
    R g (create creation g).2 := by
  refine silent_create (hR.takeHandles 1) (fun x g => ?_) h g
  cases creation <;> first | exact hR.addChain x _ g | exact hR.refl g

/-- What has an admitted size is created. -/
theorem Admits.create {creation : Creation} {size : Extent} (h : Admits R size)
    (hSize : creation.size? = some size := by rfl) (g : Gpu) : R g (create creation g).2 :=
  create_of_happen (h creation hSize) g

/-- Every destruction is kept to. -/
theorem unsized_destroy (kind : ObjectKind) (x : Handle) (g : Gpu) : R g (g.destroy kind x) :=
  hR.happen rfl _ g

/-- The destruction of several objects is kept to. -/
theorem unsized_destroyAll (kind : ObjectKind) (xs : List Handle) (g : Gpu) :
    R g (g.destroyAll kind xs) := by
  induction xs generalizing g with
  | nil => exact hR.refl g
  | cons x rest ih => exact hR.trans (unsized_destroy kind x g) (ih (g.destroy kind x))

theorem unsized_destroyIfAny (kind : ObjectKind) (x : Handle) (g : Gpu) :
    R g (g.destroyIfAny kind x) := by
  rw [destroyIfAny]
  split
  · exact hR.refl g
  · exact unsized_destroy kind x g

/-- Finding the images of a swapchain is kept to. -/
theorem unsized_swapchainImages (swapchain : Handle) (g : Gpu) :
    R g (swapchainImages swapchain g).2 := by
  have hAsk : R g (ask (GpuCall.swapchainImages swapchain).name id g).2 := silent_ask _ _ g
  rw [swapchainImages]
  -- the question may fail; its answer is recorded
  split <;> (rename_i hEq; rw [hEq] at hAsk)
  · exact hAsk
  · exact hR.trans hAsk (hR.happen rfl _ _)

end Unsized

-- ---------------------------------------------------------------------------
-- Growth
-- ---------------------------------------------------------------------------

/-- Events are added to the history of a device, and the memory of the frame buffer stays. -/
structure Grows (g g' : Gpu) : Prop where
  history : g.history <:+ g'.history
  frameMemory : g'.frameMemory = g.frameMemory

section Grows

variable {g g' g'' : Gpu}

/-- A device with the same history and the same memory grows, by nothing. -/
theorem grows_of_same (hHistory : g'.history = g.history)
    (hMemory : g'.frameMemory = g.frameMemory) : Grows g g' := by
  refine ⟨?_, hMemory⟩
  rewrite [hHistory]
  exact List.suffix_refl _

theorem Grows.refl (g : Gpu) : Grows g g := grows_of_same rfl rfl

theorem Grows.trans (h : Grows g g') (h' : Grows g' g'') : Grows g g'' where
  history := h.history.trans h'.history
  frameMemory := h'.frameMemory.trans h.frameMemory

theorem grows_happen (call : GpuCall) (outcome : GpuOutcome) (g : Gpu) :
    Grows g (g.happen call outcome) where
  history := List.suffix_cons _ _
  frameMemory := rfl

instance : Unsized Grows where
  refl := .refl
  trans := .trans
  of_same hHistory _ _ _ hMemory := grows_of_same hHistory hMemory
  takeHandles _ _ := grows_of_same rfl rfl
  addChain _ _ _ := grows_of_same rfl rfl
  happen _ := grows_happen _

/-- Whatever is created, the history grows. -/
theorem admits_grows (size : Extent) : Admits Grows size := fun _ _ => grows_happen _

theorem grows_create (creation : Creation) (g : Gpu) : Grows g (create creation g).2 :=
  create_of_happen (grows_happen _) g

end Grows

end Gpu

/-- The device of a world grows. -/
abbrev Growing {σ : Type} [Logging σ] [Simulated σ] : σ → σ → Prop := Along Gpu.Grows

open Op Host

variable {R : Gpu → Gpu → Prop} [hR : Gpu.Unsized R]

-- ---------------------------------------------------------------------------
-- The swapchain
-- ---------------------------------------------------------------------------

namespace Swapchain

/-- What a swapchain replaces is destroyed, its views first. -/
theorem within_replace (handle : Handle) :
    (change (replace handle) : Op (Swapchain × Host) Unit).Within (Along R) := by
  refine within_change fun s => ?_
  have hViews := Gpu.unsized_destroyAll (R := R) .imageView s.1.views s.2.gpu
  exact hR.trans hViews (Gpu.unsized_destroyIfAny _ _ _)

/-- Each image gets its barrier and its view. -/
theorem within_addViews (setup : CommandBuffer) (format : TextureFormat) (images : List Handle) :
    (addViews setup format images).Within (Along R) := by
  induction images with
  | nil => exact within_pure ()
  | cons image rest ih =>
    refine Within.bind ?_ fun _ => ih
    refine (within_besideGpu fun _ => hR.happen rfl _).bind fun _ => ?_
    exact (within_setUp _ _ _ (Gpu.plain_create rfl)).onHost.bind fun _ => within_beside

/-- Building a swapchain creates one thing of a size, which has that of the surface. -/
theorem within_build (surface : Handle) {probe : SurfaceProbe} {window : Extent}
    (setup : CommandBuffer)
    (hSize : ∀ size, probe.capabilities.imageExtent window = some size → Gpu.Admits R size) :
    (build surface probe window setup).Within (Along R) := by
  refine within_get.bind fun s => within_ofOption_bind fun r hRequest => ?_
  -- the request has the extent that the capabilities allow the window
  obtain ⟨size, hExtent, rfl⟩ := Option.map_eq_some_iff.mp hRequest
  refine (within_logAll _).bind fun _ => ?_
  refine (within_setUp _ _ _ (hSize size hExtent).create).onHost.bind fun handle => ?_
  refine (within_replace handle).bind fun _ => ?_
  refine (within_setUp _ _ _ (Gpu.unsized_swapchainImages _)).onHost.bind fun images => ?_
  refine within_beside.bind fun _ => ?_
  refine (within_addViews setup _ images).bind fun _ => ?_
  refine within_beside.bind fun _ => ?_
  refine within_get.bind fun _ => ?_
  exact within_log _

theorem growing_build (surface : Handle) (probe : SurfaceProbe) (window : Extent)
    (setup : CommandBuffer) : (build surface probe window setup).Within Growing :=
  within_build surface setup fun size _ => Gpu.admits_grows size

theorem growing_recreate (surface : Handle) (window : Extent) (setup : CommandBuffer) :
    (recreate surface window setup).Within Growing := by
  refine SurfaceProbe.within_take.onHost.bind fun _ => ?_
  refine within_get.bind fun _ => ?_
  refine (within_logAll _).bind fun _ => ?_
  refine within_beside.bind fun _ => ?_
  exact growing_build _ _ _ _

end Swapchain

-- ---------------------------------------------------------------------------
-- Render targets
-- ---------------------------------------------------------------------------

namespace RenderTargets

theorem along_destroyDepth (d : DepthImage) (h : Host) : Along R h (destroyDepth d h) := by
  have hView := Gpu.unsized_destroyIfAny (R := R) .imageView d.view h.gpu
  exact hR.trans hView (Gpu.unsized_destroy _ _ _)

/-- Tearing render targets down only destroys. -/
theorem along_tearDown (s : RenderTargets × Host) : Along R s (tearDown s) := by
  have hDepths : ∀ (ds : List DepthImage) h,
      Along R h (ds.foldl (fun h d => destroyDepth d h) h) := by
    intro ds
    induction ds with
    | nil => exact fun h => hR.refl h.gpu
    | cons d rest ih => exact fun h => hR.trans (along_destroyDepth d h) (ih _)
  -- the framebuffers go first, then the render pass, then the depth image
  let h := (dropFramebuffers s).2.onGpu (Gpu.destroyAll .renderPass s.1.pass.toList)
  have hScreen : Along R s.2 h :=
    hR.trans (Gpu.unsized_destroyAll .framebuffer s.1.framebuffers s.2.gpu)
      (Gpu.unsized_destroyAll .renderPass s.1.pass.toList _)
  exact hR.trans hScreen (hDepths s.1.depth.toList h)

variable {extent : Extent} (hSize : Gpu.Admits R extent)

include hSize

/-- A depth image is created at its extent, and destroyed again if it is not finished. -/
theorem within_createDepth (format : TextureFormat) (setup : CommandBuffer) :
    (createDepth format extent setup).Within (Along R) := by
  have hFinish : ∀ image, (finishDepth format image setup).Within (Along R) := by
    intro image
    refine (within_provideDepth _ _).bind fun _ => ?_
    refine (within_setUp _ _ _ Gpu.unsized_perform).bind fun _ => ?_
    refine (within_change (along_onGpu (hR.happen rfl _))).bind fun _ => ?_
    exact (within_setUp _ _ _ (Gpu.plain_create rfl)).bind fun _ => within_pure _
  refine (within_setUp _ _ _ hSize.create).bind fun image => ?_
  exact (hFinish image).undoing (along_onGpu (Gpu.unsized_destroy _ _))

/-- Render targets are a depth image and a render pass. -/
theorem within_create (color depthFormat : TextureFormat) (setup : CommandBuffer) :
    (create color depthFormat extent setup).Within (Along R) := by
  refine (within_createDepth hSize depthFormat setup).bind fun depth => ?_
  refine ((within_setUp _ _ _ (Gpu.plain_create rfl)).undoing (along_destroyDepth depth)).bind
    fun _ => ?_
  exact within_pure _

/-- The framebuffers are created at the extent, in place of those there were. -/
theorem within_createFramebuffers (views : List Handle) :
    (createFramebuffers views extent).Within (Along R) := by
  have hAdd : (addFramebuffers extent views).Within (Along R) := by
    induction views with
    | nil => exact within_pure ()
    | cons view rest ih =>
      refine within_get.bind fun _ => ?_
      refine (within_setUp _ _ _ hSize.create).onHost.bind fun _ => ?_
      refine within_beside.bind fun _ => ?_
      exact ih
  exact (within_besideGpu fun _ => Gpu.unsized_destroyAll _ _).bind fun _ => hAdd

/-- Render targets that are created anew are torn down first. -/
theorem within_recreate (color : TextureFormat) (setup : CommandBuffer) :
    (recreate color extent setup).Within (Along R) := by
  refine (within_change along_tearDown).bind fun _ => ?_
  refine within_get.bind fun _ => ?_
  refine (within_createDepth hSize _ _).onHost.bind fun _ => ?_
  refine within_beside.bind fun _ => ?_
  refine (within_setUp _ _ _ (Gpu.plain_create rfl)).onHost.bind fun _ => ?_
  refine within_get.bind fun _ => ?_
  refine (within_ofOption _).bind fun _ => ?_
  refine within_beside.bind fun _ => ?_
  exact within_log _

omit hSize

theorem growing_create (color depthFormat : TextureFormat) (extent : Extent) (setup : CommandBuffer) :
    (create color depthFormat extent setup).Within Growing :=
  within_create (Gpu.admits_grows extent) color depthFormat setup

theorem growing_createFramebuffers (views : List Handle) (extent : Extent) :
    (createFramebuffers views extent).Within Growing :=
  within_createFramebuffers (Gpu.admits_grows extent) views

theorem growing_recreate (color : TextureFormat) (extent : Extent) (setup : CommandBuffer) :
    (recreate color extent setup).Within Growing :=
  within_recreate (Gpu.admits_grows extent) color setup

end RenderTargets

-- ---------------------------------------------------------------------------
-- Frames
-- ---------------------------------------------------------------------------

namespace GpuDevice

theorem within_invoke {α : Type} (name : String) {step : GpuStep α}
    (h : ∀ g : Gpu, R g (step g).2) : (invoke name step).Within (Along R) :=
  (Host.within_invoke component name h).onHost

theorem within_perform {call : GpuCall} (hSize : call.size? = none := by rfl) :
    (perform call).Within (Along R) :=
  within_invoke call.name (Gpu.unsized_perform hSize)

theorem within_allocate (count : UInt32) : (allocate count).Within (Along R) := by
  refine (within_log _).bind fun _ => ?_
  refine within_get.bind fun w => ?_
  refine Within.bind ?_ fun _ => within_pure _
  exact within_invoke "vkAllocateCommandBuffers" (Gpu.routine_allocateBuffers w.1.pool count)

/-- A command is recorded if there is one of the device for it, and logged if not. -/
theorem along_record (b : CommandBuffer) (c : Command) (w : GpuDevice × Host) :
    Along R w (record b c w) := by
  rw [record]
  split
  · exact hR.happen rfl _ w.2.gpu
  · exact Steady.push _ w

theorem along_free (bs : List CommandBuffer) (w : GpuDevice × Host) : Along R w (free bs w) := by
  rw [free]
  split
  · exact Steady.refl w
  · exact hR.happen rfl _ w.2.gpu

instance : SteadfastSemaphores (Along R : GpuDevice × Host → GpuDevice × Host → Prop) where
  createSemaphore :=
    (within_invoke "vkCreateSemaphore" (Gpu.plain_create rfl)).bind fun _ => within_pure _
  destroySemaphore x w := Gpu.unsized_destroy .semaphore x.handle w.2.gpu
  allocate := within_allocate
  free := along_free
  reset _ := within_perform
  beginBuffer _ := within_perform
  endBuffer _ := within_perform
  record := along_record
  submit _ _ _ := within_perform
  waitQueue := within_perform

end GpuDevice

namespace Swapchain

theorem within_fail {σ α : Type} [Logging σ] [Simulated σ] (code : ResultCode)
    (source call : String) : (code.fail source call : Op σ α).Within (Along R) := by
  refine (within_logAll _).bind fun _ => ?_
  exact within_throw _

/-- An acquisition creates nothing. -/
theorem within_acquire (signal : Semaphore) : (acquire signal).Within (Along R) := by
  refine within_get.bind fun w => ?_
  refine (within_call (Gpu.routine_acquire w.1.handle signal.handle)).onHost.onSecond.bind fun r => ?_
  -- the index becomes the current one, whether the code was suboptimal or not
  have hRest : (do change fun s : Swapchain × GpuDevice × Host => ({ s.1 with current := r.1 }, s.2)
                   pure r.1).Within (Along R) :=
    within_beside.bind fun _ => within_pure _
  refine within_ite ((within_log _).bind fun _ => hRest) (within_ite ?_ hRest)
  exact (within_fail _ _ _).bind fun _ => hRest

/-- A presentation creates nothing. -/
theorem within_present (index : UInt32) (waits : List Semaphore) :
    (present index waits).Within (Along R) := by
  refine within_get.bind fun w => ?_
  refine (within_call (Gpu.routine_present _ w.1.handle index)).onHost.onSecond.bind fun r => ?_
  exact within_ite (within_log _) (within_ite (within_fail _ _ _) (within_pure ()))

instance : SteadfastChain
    (Along R : Swapchain × GpuDevice × Host → Swapchain × GpuDevice × Host → Prop) where
  allocate count := (Steadfast.allocate count).onSecond
  free bs w := GpuDevice.along_free bs w.2
  reset b := (Steadfast.reset b).onSecond
  beginBuffer b := (Steadfast.beginBuffer b).onSecond
  endBuffer b := (Steadfast.endBuffer b).onSecond
  record b c w := GpuDevice.along_record b c w.2
  submit b waits signals := (Steadfast.submit b waits signals).onSecond
  waitQueue := Steadfast.waitQueue.onSecond
  acquire := within_acquire
  present := within_present

end Swapchain

end RenderLoop
