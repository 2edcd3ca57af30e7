import RenderLoop.Proofs.Gpu.Made
import RenderLoop.Proofs.Renderer.Binding
import RenderLoop.Proofs.Renderer.Draw
import RenderLoop.Proofs.Renderer.ScreenWork

/-!
# RenderLoop — renderers have room for frames

The memory of the frame buffer is there from the creation of a renderer on, as much
of it as the allocator hands out (`Renderer.hasRoom_of_reachable`), and what has been
handed out lies within the buffer (`Renderer.contained_of_reachable`). Only draws store
anything; nothing else touches what is there, nor the buffer and its size
(`Renderer.KeepsMemory`). So what storing keeps to holds of the frame buffers of all
renderers, once it holds of new ones (`Renderer.memory_of_reachable`).
-/

namespace RenderLoop

open GpuHistory Op

-- ---------------------------------------------------------------------------
-- Creation
-- ---------------------------------------------------------------------------

namespace FrameMemory

/-- Where memory was provided, the device has a block of it, with nothing written. -/
theorem frameMemory_of_provide {size : UInt64} {g g' : Gpu}
    (h : Gpu.provideFrameMemory size g = (.ok (), g')) :
    g'.frameMemory = some { size := Gpu.blockSize size } := by
  rw [Gpu.provideFrameMemory] at h
  split at h
  · cases h
  · split at h <;> cases h
    rfl

/-- A buffer that got its memory has as much of it as was asked for. -/
theorem ensures_provide (buffer : Handle) (size : UInt64) (h : Host) :
    (provide buffer size).Ensures h
      (fun _ h' => h'.gpu.frameMemory = some { size := Gpu.blockSize size }) (fun _ _ => True) := by
  rw [provide, ensures_bind, Host.provide, ensures_bind, Host.call, ensures_act]
  cases hStep : Gpu.provideFrameMemory size h.gpu with
  | mk r g =>
    cases r with
    | ok a =>
      rw [ensures_pure]
      refine (Host.within_setUp (R := Gpu.Grows) _ _ _ Gpu.unsized_perform _).mono ?_
        fun _ _ _ => trivial
      exact fun _ _ hGrows => hGrows.frameMemory.trans (frameMemory_of_provide hStep)
    | error e =>
      rw [ensures_failWith]
      exact trivial

/-- A new buffer has room for everything that its allocator hands out. -/
theorem ensures_create (context : GpuContext) (size alignment : UInt64) (h : Host) :
    (create context size alignment).Ensures h (fun m h' => HasRoom (m, h')) (fun _ _ => True) := by
  rw [create, ensures_bind]
  refine (ensures_true _ h).mono (fun buffer h₁ _ => ?_) fun _ _ h => h
  rw [ensures_bind, ensures_undoing]
  refine (ensures_provide buffer size h₁).mono (fun _ h₂ hMemory => ?_) fun _ _ h => h
  rw [ensures_bind, ensures_log, ensures_pure]
  exact ⟨_, hMemory, Nat.le_max_right _ _⟩

instance : Unlogged HasRoom := ⟨id⟩

instance : Storing (Preserving HasRoom) where
  take _ _ hRoom := hRoom
  write := by
    rintro s offset bytes ⟨m, hMemory, hSize⟩
    exact ⟨m.write offset.toNat bytes, congrArg (Option.map _) hMemory, hSize⟩

/-- The buffer was made as large as its allocator, which has handed out no more than that. -/
structure Contained (s : FrameMemory × Host) : Prop where
  made : Made s.2.gpu.history (.buffer s.1.linear.capacity) s.1.buffer
  head_le : s.1.head ≤ s.1.linear.capacity.toNat

/-- Nothing of a new buffer has been handed out. -/
theorem ensures_create_contained (context : GpuContext) (size alignment : UInt64) (h : Host) :
    (create context size alignment).Ensures h (fun m h' => Contained (m, h')) (fun _ _ => True) := by
  rw [create, ensures_bind]
  refine Host.ensures_setUp _ _ _ (fun buffer g hCreate => ?_) fun _ _ _ _ _ _ => trivial
  have hMade := Gpu.made_of_create hCreate
  rw [ensures_bind, ensures_undoing]
  refine (within_provide (R := Gpu.Passes) buffer size { h with gpu := g }).mono
    (fun _ h₂ hPasses => ?_)
    fun _ _ _ => trivial
  rw [ensures_bind, ensures_log, ensures_pure]
  exact ⟨hMade.of_suffix hPasses.spares.history.suffix, Nat.zero_le _⟩

instance : Unlogged Contained := ⟨fun h => ⟨h.made, h.head_le⟩⟩

instance : Storing (Preserving Contained) where
  take _ hFit h := ⟨h.made, (LinearAllocator.bounds_of_fit hFit).2.2⟩
  write _ _ _ h := ⟨h.made, h.head_le⟩

end FrameMemory

namespace Renderer

variable {s t u : Renderer × Host} {c : Request} {α : Type}

-- ---------------------------------------------------------------------------
-- Calls that store nothing
-- ---------------------------------------------------------------------------

/-- The frame buffer keeps its size and what is in it; at most, all of it is taken back. -/
structure KeepsMemory (s t : Renderer × Host) : Prop where
  buffer : t.1.memory.buffer = s.1.memory.buffer
  capacity : t.1.memory.linear.capacity = s.1.memory.linear.capacity
  head : t.1.memory.head ≤ s.1.memory.head
  grows : s.2.gpu.Grows t.2.gpu

/-- A device that grows has the same memory for its frame buffer. -/
theorem keepsMemory_of_grows {r : Renderer} {h h' : Host} (hGrows : h.gpu.Grows h'.gpu) :
    KeepsMemory (r, h) (r, h') where
  buffer := rfl
  capacity := rfl
  head := Nat.le_refl _
  grows := hGrows

instance : Steady KeepsMemory where
  refl _ := keepsMemory_of_grows (.refl _)
  trans h h' := ⟨h'.buffer.trans h.buffer, h'.capacity.trans h.capacity,
    Nat.le_trans h'.head h.head, h.grows.trans h'.grows⟩
  push _ _ := keepsMemory_of_grows (.refl _)

/-- Memory that is kept has room as before. -/
theorem KeepsMemory.room (h : KeepsMemory s t) (hRoom : FrameMemory.HasRoom (store s)) :
    FrameMemory.HasRoom (store t) := by
  obtain ⟨m, hMemory, hSize⟩ := hRoom
  refine ⟨m, h.grows.frameMemory.trans hMemory, ?_⟩
  show t.1.memory.linear.capacity.toNat ≤ m.size
  rw [h.capacity]
  exact hSize

/-- No more is handed out of memory that is kept. -/
theorem KeepsMemory.contained (h : KeepsMemory s t) (hContained : FrameMemory.Contained (store s)) :
    FrameMemory.Contained (store t) := by
  constructor
  · show Made t.2.gpu.history (.buffer t.1.memory.linear.capacity) t.1.memory.buffer
    rw [h.buffer, h.capacity]
    exact hContained.made.of_suffix h.grows.history
  · show t.1.memory.head ≤ t.1.memory.linear.capacity.toNat
    rw [h.capacity]
    exact Nat.le_trans h.head hContained.head_le

/-- Work on the screen keeps the frame buffer. -/
theorem ScreenWork.keepsMemory (h : ScreenWork s t) : KeepsMemory s t where
  buffer := congrArg (·.buffer) h.memory
  capacity := congrArg (·.linear.capacity) h.memory
  head := Nat.le_of_eq (congrArg FrameMemory.head h.memory)
  grows := h.grows

/-- Fields can be set that are not about the frame buffer. -/
theorem keepsMemory_set {f : Renderer → Renderer}
    (hBuffer : ∀ r, (f r).memory.buffer = r.memory.buffer := by exact fun _ => rfl)
    (hLinear : ∀ r, (f r).memory.linear = r.memory.linear := by exact fun _ => rfl) :
    (set f).Within KeepsMemory := by
  refine within_change fun s => ⟨hBuffer s.1, ?_, ?_, .refl s.2.gpu⟩
  · exact congrArg (·.capacity) (hLinear s.1)
  · exact Nat.le_of_eq (congrArg (·.head.toNat) (hLinear s.1))

/-- The frame buffer is kept by what is done with the program. -/
theorem keepsMemory_onProgram {op : Op (Program × Host) α} (hOp : op.Within Growing) :
    (onProgram op).Within KeepsMemory :=
  hOp.on fun _ _ h => ⟨rfl, rfl, Nat.le_refl _, h⟩

/-- The frame buffer is kept by what is done with the shader modules. -/
theorem keepsMemory_onModules {op : Op (ShaderModules × Host) α} (hOp : op.Within Growing) :
    (onModules op).Within KeepsMemory :=
  hOp.on fun _ _ h => ⟨rfl, rfl, Nat.le_refl _, h⟩

/-- The frame buffer is kept by what is done with the descriptors. -/
theorem keepsMemory_onDescriptors {op : Op (Descriptors × Host) α} (hOp : op.Within Growing) :
    (onDescriptors op).Within KeepsMemory :=
  hOp.on fun _ _ h => ⟨rfl, rfl, Nat.le_refl _, h⟩

/-- The frame buffer is kept by what is done with the pipelines. -/
theorem keepsMemory_onPipelines {op : Op (Pipelines × Host) α} (hOp : op.Within Growing) :
    (onPipelines op).Within KeepsMemory :=
  hOp.on fun _ _ h => ⟨rfl, rfl, Nat.le_refl _, h⟩

/-- Building pipelines keeps the frame buffer. -/
theorem keepsMemory_buildPipelines : buildPipelines.Within KeepsMemory := by
  refine within_get.bind fun _ => ?_
  exact keepsMemory_onPipelines (Pipelines.within_buildPair _ _)

/-- Building pipelines anew keeps the frame buffer. -/
theorem keepsMemory_rebuildPipelines : rebuildPipelines.Within KeepsMemory := by
  refine within_get.bind fun _ => ?_
  exact keepsMemory_onPipelines (Pipelines.within_rebuildPair _ _)

instance : Working KeepsMemory where
  screen h := h.keepsMemory
  reset _ _ := ⟨rfl, rfl, Nat.zero_le _, .refl _⟩
  buildPipelines := keepsMemory_buildPipelines
  rebuildPipelines := keepsMemory_rebuildPipelines

/-- Compiling a program keeps the frame buffer. -/
theorem keepsMemory_compile : (onProgram (Program.compile tools)).Within KeepsMemory :=
  keepsMemory_onProgram (Program.within_compile Program.toolsPass_spirv)

/-- Making a program again on the device changes the range that uniform data is padded to, not the
buffer. -/
theorem keepsMemory_remakeProgram : remakeProgram.Within KeepsMemory := by
  refine (within_of_screenWork (screenWork_onHost GpuContext.within_waitIdle)).bind fun _ => ?_
  refine (keepsMemory_set).bind fun _ => ?_
  refine within_get.bind fun _ => ?_
  refine (keepsMemory_onModules (ShaderModules.within_sync _)).bind fun _ => ?_
  refine within_get.bind fun _ => ?_
  refine (keepsMemory_onDescriptors (Descriptors.within_rebuild _ _)).bind fun _ => ?_
  exact keepsMemory_rebuildPipelines

/-- A reload keeps the frame buffer. -/
theorem keepsMemory_reloadShaders : reloadShaders.Within KeepsMemory := by
  refine (within_requireNoFrame _).bind fun _ => ?_
  refine keepsMemory_compile.bind fun report => ?_
  refine within_ite ?_ ?_
  · refine keepsMemory_remakeProgram.bind fun _ => ?_
    refine within_get.bind fun _ => ?_
    refine (within_log _).bind fun _ => ?_
    exact within_pure _
  · exact (within_log _).bind fun _ => within_pure _

/-- Everything but a draw leaves the frame buffer alone. -/
theorem keepsMemory_serve (hDraw : ∀ mesh mode, c ≠ .draw mesh mode) :
    (serve c).Within KeepsMemory := by
  by_cases hReload : c = .reloadShaders
  · subst hReload
    exact keepsMemory_reloadShaders.bind fun _ => within_pure ()
  · exact within_serve hDraw hReload

/-- However a call ends that is no draw, the frame buffer is kept. -/
theorem Step.keepsMemory (hStep : Step s c t) (hDraw : ∀ mesh mode, c ≠ .draw mesh mode) : KeepsMemory s t := by
  obtain ⟨r, hRun⟩ := hStep
  have h := keepsMemory_serve hDraw s r t hRun
  cases r <;> exact h

-- ---------------------------------------------------------------------------
-- All renderers
-- ---------------------------------------------------------------------------

section Conditions

variable {P : FrameMemory × Host → Prop} [hStoring : FrameMemory.Storing (Preserving P)]

/-- What storing keeps and recording does not concern, all steps of a draw keep. -/
theorem drawSteps_of_kept (b : CommandBuffer)
    (hKept : ∀ {s t : Renderer × Host}, KeepsMemory s t → P (store s) → P (store t)) :
    DrawSteps b (Preserving fun s => P (store s)) := by
  refine drawSteps_of_record (fun bytes => ?_) (fun bytes => ?_) fun _ _ => ?_
  · exact (FrameMemory.within_store (R := Preserving P) bytes).on fun _ _ h => h
  · exact (FrameMemory.within_storeUniform (R := Preserving P) bytes).on fun _ _ h => h
  · exact within_change fun s => hKept (keepsMemory_of_grows (Gpu.grows_happen _ _ s.2.gpu))

instance : Unlogged fun s : Renderer × Host => P (store s) :=
  ⟨fun {e s} h => hStoring.push e (store s) h⟩

/-- A draw stores, and leaves the frame buffer alone otherwise. -/
theorem within_draw_of_kept (mesh : Mesh) (mode : PolyRenderMode)
    (hKept : ∀ {s t : Renderer × Host}, KeepsMemory s t → P (store s) → P (store t)) :
    (draw mesh mode).Within (Preserving fun s => P (store s)) :=
  within_draw (fun b => drawSteps_of_kept b hKept) mesh mode

omit hStoring in
/-- Making the frame buffer gives a renderer one; what is made after it leaves that alone. -/
theorem ensures_makeParts_of_memory (config : RendererConfig) (probe : SurfaceProbe)
    (hCreate : ∀ context size alignment h,
      (FrameMemory.create context size alignment).Ensures h (fun m h' => P (m, h')) (fun _ _ => True))
    (hKept : ∀ {s t : Renderer × Host}, KeepsMemory s t → P (store s) → P (store t)) :
    (makeParts config probe).Ensures s (fun _ t => P (store t)) (fun _ _ => True) := by
  have hMakeMemory : ∀ s, (makeMemory config).Ensures s (fun _ t => P (store t))
      (fun _ _ => True) := by
    intro s
    rw [makeMemory, ensures_bind, ensures_get, ensures_bind, Op.onHost, ensures_onSecond]
    refine (hCreate _ _ _ s.2).mono (fun m h hMade => ?_) fun _ _ h => h
    rw [set, ensures_change]
    exact hMade
  have hLoad : loadProgram.Within KeepsMemory := by
    refine keepsMemory_compile.bind fun _ => ?_
    refine within_get.bind fun _ => ?_
    exact within_ite ((within_throw _).bind fun _ => keepsMemory_set) keepsMemory_set
  have hMake : makeProgram.Within KeepsMemory := by
    refine within_get.bind fun _ => ?_
    refine (keepsMemory_onModules (ShaderModules.within_create _)).bind fun _ => ?_
    refine within_get.bind fun _ => ?_
    refine (keepsMemory_onDescriptors (Descriptors.within_build _ _)).bind fun _ => ?_
    exact keepsMemory_buildPipelines
  have hRest : (do
      loadProgram
      makeProgram
      Op.log (← get).1.readyEntry : Action Unit).Within KeepsMemory := by
    refine hLoad.bind fun _ => ?_
    refine hMake.bind fun _ => ?_
    refine within_get.bind fun _ => ?_
    exact within_log _
  rw [makeParts, ensures_bind, ensures_get]
  split
  · rw [ensures_throw]
    exact trivial
  · rw [ensures_bind]
    -- screen, cache and framebuffers come first, whatever they do
    refine (ensures_true _ _).mono (fun _ s₁ _ => ?_) fun _ _ h => h
    rw [ensures_bind]
    refine (ensures_true _ _).mono (fun _ s₂ _ => ?_) fun _ _ h => h
    rw [ensures_bind]
    refine (ensures_true _ _).mono (fun _ s₃ _ => ?_) fun _ _ h => h
    rw [ensures_bind]
    refine (hMakeMemory s₃).mono (fun _ s₄ hMade => ?_) fun _ _ h => h
    exact (hRest s₄).mono (fun _ _ h => hKept h hMade) fun _ _ _ => trivial

/-- What holds of new frame buffers holds of those of all renderers, if it is kept. -/
theorem memory_of_reachable {allowed : Renderer × Host → Request → Renderer × Host → Prop}
    (hCreate : ∀ context size alignment h,
      (FrameMemory.create context size alignment).Ensures h (fun m h' => P (m, h')) (fun _ _ => True))
    (hKept : ∀ {s t : Renderer × Host}, KeepsMemory s t → P (store s) → P (store t))
    (hReachable : Reachable allowed s) : P (store s) := by
  induction hReachable with
  | @created window config h h' r _ hRun =>
    exact (ensures_create_of_parts (fun probe _ _ _ =>
      ensures_makeParts_of_memory config probe hCreate hKept) h).of_ok hRun
  | @step s t c _ hStep _ ih =>
    by_cases hDraw : ∃ mesh mode, c = .draw mesh mode
    · obtain ⟨mesh, mode, rfl⟩ := hDraw
      obtain ⟨r, hRun⟩ := hStep
      have hStored := (within_draw_of_kept mesh mode hKept).preserves ih r t hRun
      cases r <;> exact hStored
    · exact hKept (hStep.keepsMemory fun mesh mode h => hDraw ⟨mesh, mode, h⟩) ih

end Conditions

/-- **Renderers have room for frames**, from their creation on. -/
theorem hasRoom_of_reachable {allowed : Renderer × Host → Request → Renderer × Host → Prop}
    (hReachable : Reachable allowed s) : FrameMemory.HasRoom (store s) :=
  memory_of_reachable FrameMemory.ensures_create (fun h => h.room) hReachable

/-- What was handed out of the frame buffer lies within it. -/
theorem contained_of_reachable {allowed : Renderer × Host → Request → Renderer × Host → Prop}
    (hReachable : Reachable allowed s) : FrameMemory.Contained (store s) :=
  memory_of_reachable FrameMemory.ensures_create_contained (fun h => h.contained) hReachable

end Renderer

end RenderLoop
