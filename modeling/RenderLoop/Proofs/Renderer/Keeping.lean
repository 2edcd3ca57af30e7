import RenderLoop.Proofs.Renderer.Draw
import RenderLoop.Proofs.Renderer.Estate
import RenderLoop.Proofs.Renderer.ScreenWork

/-!
# RenderLoop — calls that keep the books

Changing the pipeline state, reloading the program and working on frames keep the books
of a renderer balanced and its parts linked, whether they return or fail
(`Renderer.Linked`). What a call does to one part is known from that part; here it only
remains to say that the others were left alone, and that the history of the device grew.
-/

namespace RenderLoop.Renderer

open GpuHistory Op Estate

variable {s t : Renderer × Host} {c : GpuContext} {pool : Handle} {α : Type}

-- ---------------------------------------------------------------------------
-- Parts
-- ---------------------------------------------------------------------------

/-- What is done on the host, and leaves what the device lends alone. -/
theorem linked_onHost {op : Op Host α} (hGrowing : op.Within Growing)
    (hLends : ∀ {h : Host} {estate : Estate}, h.gpu.Lends estate →
      op.Ensures h (fun _ t => t.gpu.Lends estate) (fun _ t => t.gpu.Lends estate)) :
    (op.onHost : Action α).Within (Preserving (Linked c pool)) := by
  refine within_preserving fun s h => ?_
  rw [Op.onHost, ensures_onSecond]
  exact ((hLends h.lends).and (hGrowing s.2)).mono
    (fun _ _ h' => h.of_lends h'.1 h'.2.history) fun _ _ h' => h.of_lends h'.1 h'.2.history

/-- Pipelines refer to other parts, and no part refers to them. -/
theorem Linked.ensures_onPipelines (h : Linked c pool s) {op : Op (Pipelines × Host) α}
    (hGrowing : op.Within Growing)
    (hOp : op.Ensures (s.1.pipelines, s.2)
      (fun _ t => t.2.gpu.Lends (t.1.estate + s.1.others .pipelines))
      (fun _ t => t.2.gpu.Lends (t.1.estate + s.1.others .pipelines))) :
    (onPipelines op).Ensures s (fun _ t => Linked c pool t) (fun _ t => Linked c pool t) := by
  have hLinked : ∀ {p : Pipelines} {g : Host}, g.gpu.Lends (p.estate + s.1.others .pipelines) →
      s.2.gpu.Grows g.gpu → Linked c pool ({ s.1 with pipelines := p }, g) :=
    fun hLends hGrows => h.of_balanced (h.change .pipelines hLends rfl rfl rfl) hGrows.history
      rfl rfl rfl rfl
  rw [onPipelines, ensures_on]
  exact (hOp.and (hGrowing _)).mono (fun _ _ h' => hLinked h'.1 h'.2)
    fun _ _ h' => hLinked h'.1 h'.2

/-- No part refers to the modules once the pipelines are there. -/
theorem Linked.ensures_onModules (h : Linked c pool s) {op : Op (ShaderModules × Host) α}
    (hGrowing : op.Within Growing)
    (hOp : op.Ensures (s.1.modules, s.2)
      (fun _ t => t.2.gpu.Lends (t.1.estate + s.1.others .modules))
      (fun _ t => t.2.gpu.Lends (t.1.estate + s.1.others .modules))) :
    (onModules op).Ensures s (fun _ t => Linked c pool t) (fun _ t => Linked c pool t) := by
  have hLinked : ∀ {m : ShaderModules} {g : Host}, g.gpu.Lends (m.estate + s.1.others .modules) →
      s.2.gpu.Grows g.gpu → Linked c pool ({ s.1 with modules := m }, g) :=
    fun hLends hGrows => h.of_balanced (h.change .modules hLends rfl rfl rfl) hGrows.history
      rfl rfl rfl rfl
  rw [onModules, ensures_on]
  exact (hOp.and (hGrowing _)).mono (fun _ _ h' => hLinked h'.1 h'.2)
    fun _ _ h' => hLinked h'.1 h'.2

/-- New sets come from the pool there is then. -/
theorem Linked.ensures_onDescriptors (h : Linked c pool s) {op : Op (Descriptors × Host) α}
    (hGrowing : op.Within Growing)
    (hOp : op.Ensures (s.1.descriptors, s.2)
      (fun _ t => t.2.gpu.Lends (t.1.estate + s.1.others .descriptors) ∧ t.1.Backed t.2.gpu.history)
      (fun _ t => t.2.gpu.Lends (t.1.estate + s.1.others .descriptors) ∧
        t.1.Backed t.2.gpu.history)) :
    (onDescriptors op).Ensures s (fun _ t => Linked c pool t) (fun _ t => Linked c pool t) := by
  have hLinked : ∀ {d : Descriptors} {g : Host}, g.gpu.Lends (d.estate + s.1.others .descriptors) →
      d.Backed g.gpu.history → s.2.gpu.Grows g.gpu →
        Linked c pool ({ s.1 with descriptors := d }, g) := by
    intro d g hLends hBacked hGrows
    have hBalanced : Balanced c pool ({ s.1 with descriptors := d }, g) :=
      h.change .descriptors hLends rfl rfl rfl
    exact ⟨⟨hBalanced, h.chain.of_suffix hGrows.history, hBacked⟩, h.targets⟩
  rw [onDescriptors, ensures_on]
  exact (hOp.and (hGrowing _)).mono (fun _ _ h' => hLinked h'.1.1 h'.1.2 h'.2)
    fun _ _ h' => hLinked h'.1.1 h'.1.2 h'.2

/-- The targets are those of the same swapchain. -/
theorem Sourced.ensures_onTargets (h : Sourced c pool s) {op : Op (RenderTargets × Host) α}
    (hGrowing : op.Within Growing)
    (hOp : op.Ensures (s.1.targets, s.2)
      (fun _ t => t.2.gpu.Lends (t.1.estate + s.1.others .targets))
      (fun _ t => t.2.gpu.Lends (t.1.estate + s.1.others .targets))) :
    (onTargets op).Ensures s
      (fun _ t => Sourced c pool t ∧ t.1.swapchain = s.1.swapchain ∧ t.1.machine = s.1.machine)
      (fun _ t => Sourced c pool t) := by
  have hSourced : ∀ {r : RenderTargets} {g : Host}, g.gpu.Lends (r.estate + s.1.others .targets) →
      s.2.gpu.Grows g.gpu → Sourced c pool ({ s.1 with targets := r }, g) :=
    fun hLends hGrows => h.of_balanced (h.change .targets hLends rfl rfl rfl) hGrows.history rfl rfl
  rw [onTargets, ensures_on]
  exact (hOp.and (hGrowing _)).mono (fun _ _ h' => ⟨hSourced h'.1 h'.2, rfl, rfl⟩)
    fun _ _ h' => hSourced h'.1 h'.2

-- ---------------------------------------------------------------------------
-- Pipelines and the program
-- ---------------------------------------------------------------------------

/-- Waiting for the device changes nothing in its books. -/
theorem lends_waitIdle {h : Host} {estate : Estate} (hLends : h.gpu.Lends estate) :
    GpuContext.waitIdle.Ensures h (fun _ t => t.gpu.Lends estate) (fun _ t => t.gpu.Lends estate) :=
  Host.ensures_invoke_of_does _ _ (hLends.does_perform (List.forall_mem_nil _))

/-- Waiting for the device changes nothing in the books of the renderer. -/
theorem linked_waitIdle :
    (GpuContext.waitIdle.onHost : Action Unit).Within (Preserving (Linked c pool)) :=
  linked_onHost GpuContext.within_waitIdle lends_waitIdle

/-- Building pipelines keeps the books. -/
theorem linked_buildPipelines : buildPipelines.Within (Preserving (Linked c pool)) := by
  refine within_get_bind fun s h => ?_
  have hLends := h.lends_part .pipelines
  exact h.ensures_onPipelines (Pipelines.within_buildPair _ _)
    (Pipelines.ensures_buildPair_of_lends _ hLends (backed_basis s.1))

/-- Building pipelines anew keeps the books. -/
theorem linked_rebuildPipelines : rebuildPipelines.Within (Preserving (Linked c pool)) := by
  refine within_get_bind fun s h => ?_
  have hLends := h.lends_part .pipelines
  exact h.ensures_onPipelines (Pipelines.within_rebuildPair _ _)
    (Pipelines.ensures_rebuildPair_of_lends _ hLends (backed_basis s.1))

/-- Setting the pipeline state keeps the books. -/
theorem linked_setPipelineState (state : PipelineState) :
    (setPipelineState state).Within (Preserving (Linked c pool)) := by
  refine (within_requireNoFrame _).bind fun _ => ?_
  refine within_get.bind fun _ => ?_
  refine within_ite ?_ (within_pure ())
  exact Within.bind (within_change fun _ h => h.of_settings) fun _ => linked_buildPipelines

/-- A program is not made of objects, so compiling it keeps the books. -/
theorem linked_compile : (onProgram (Program.compile tools)).Within (Preserving (Linked c pool)) := by
  refine within_preserving fun s h => ?_
  have hSame : ∀ {p : Program} {g : Host}, s.2.gpu = g.gpu →
      Linked c pool ({ s.1 with program := p }, g) := by
    intro p g hGpu
    have hProgram : Linked c pool ({ s.1 with program := p }, s.2) := h.of_settings
    exact hProgram.of_lends (hGpu ▸ hProgram.lends) (hGpu ▸ List.suffix_refl _)
  rw [onProgram, ensures_on]
  exact (Program.within_compile (R := (· = ·)) Program.toolsPass_spirv (s.1.program, s.2)).mono
    (fun _ _ h' => hSame h') fun _ _ h' => hSame h'

/-- Making modules, descriptors and pipelines again keeps the books. -/
theorem linked_remakeProgram : remakeProgram.Within (Preserving (Linked c pool)) := by
  have hModules : ∀ p, (onModules (ShaderModules.sync p)).Within (Preserving (Linked c pool)) :=
    fun p => within_preserving fun s h => h.ensures_onModules (ShaderModules.within_sync p)
      (ShaderModules.ensures_sync_of_lends p (h.lends_part .modules))
  have hDescriptors : ∀ p, (do
      onDescriptors (Descriptors.rebuild p (← get).1.memory.region)).Within
        (Preserving (Linked c pool)) :=
    fun p => within_get_bind fun s h => h.ensures_onDescriptors (Descriptors.within_rebuild p _)
      (Descriptors.ensures_rebuild_of_lends p (h.lends_part .descriptors) (has_region s.1))
  refine linked_waitIdle.bind fun _ => ?_
  refine Within.bind (within_change fun _ h => h.of_settings) fun _ => ?_
  refine within_get.bind fun s => ?_
  refine (hModules s.1.program).bind fun _ => ?_
  rw [← bind_assoc]
  exact (hDescriptors s.1.program).bind fun _ => linked_rebuildPipelines

/-- Reloading the program keeps the books. -/
theorem linked_reloadShaders : reloadShaders.Within (Preserving (Linked c pool)) := by
  refine (within_requireNoFrame _).bind fun _ => ?_
  refine linked_compile.bind fun report => ?_
  refine within_ite ?_ ((within_log _).bind fun _ => within_pure _)
  refine linked_remakeProgram.bind fun _ => ?_
  refine within_get.bind fun _ => ?_
  refine (within_log _).bind fun _ => ?_
  exact within_pure _

-- ---------------------------------------------------------------------------
-- The screen
-- ---------------------------------------------------------------------------

/-- Framebuffers are made for the views there are. -/
theorem Sourced.ensures_createFramebuffers (h : Sourced c pool s) (extent : Extent) :
    (onTargets (RenderTargets.createFramebuffers s.1.swapchain.views extent)).Ensures s
      (fun _ t => Sourced c pool t) (fun _ t => Sourced c pool t) := by
  have hLends := RenderTargets.ensures_createFramebuffers_of_lends extent (h.lends_part .targets)
    (has_view s.1)
  refine (h.ensures_onTargets (RenderTargets.growing_createFramebuffers _ _) hLends).mono ?_ ?_
  · exact fun _ _ h => h.1
  · exact fun _ _ h => h

/-- Making the screen again keeps the books in any case, and its parts linked if it succeeds. -/
theorem Linked.ensures_remakeScreen (h : Linked c pool s) {setup : CommandBuffer}
    (hSetup : s.1.machine.recorder.setup = some setup) :
    (remakeScreen setup).Ensures s (fun _ t => Linked c pool t) (fun _ t => Balanced c pool t) := by
  rw [remakeScreen, ensures_bind, ensures_get, ensures_bind, onSwapchain, ensures_on]
  refine ((Swapchain.ensures_recreate_of_lends s.1.window (h.lends_part .swapchain) (has_surface _)
    (h.hasBuffer hSetup (by decide) (by decide))).and (Swapchain.growing_recreate _ _ _ _)).mono ?_
    fun _ _ h' => h.change .swapchain h'.1 rfl rfl rfl
  rintro - ⟨chain, h₁⟩ ⟨⟨hLends, hBacked⟩, hGrows⟩
  -- the targets still refer to the old images here, so the parts are not linked until the end
  have hChanged : Balanced c pool ({ s.1 with swapchain := chain }, h₁) :=
    h.change .swapchain hLends rfl rfl rfl
  have h₁' : Sourced c pool ({ s.1 with swapchain := chain }, h₁) :=
    ⟨hChanged, hBacked, h.sets.of_suffix hGrows.history⟩
  rw [ensures_bind, ensures_get, ensures_bind]
  refine (h₁'.ensures_onTargets (RenderTargets.growing_recreate _ _ _)
    (RenderTargets.ensures_recreate_of_lends _ _ (h₁'.lends_part .targets)
      (h₁'.hasBuffer hSetup (by decide) (by decide)))).mono ?_ fun _ _ h => h.toBalanced
  rintro - t ⟨h₂, hChain, -⟩
  rw [ensures_bind, ← show t.1.swapchain = chain from hChain]
  refine (h₂.ensures_createFramebuffers _).mono (fun _ _ h₃ => ?_) fun _ _ h => h.toBalanced
  rw [set, ensures_change]
  exact h₃.linked_retarget

/-- Asking for the area keeps the books. -/
theorem linked_hasNoArea : hasNoArea.Within (Preserving (Linked c pool)) := by
  refine within_get.bind fun s => ?_
  exact within_ite (within_pure true) <| linked_onHost (Swapchain.within_isMinimized _) fun hLends
    => (Swapchain.within_isMinimized (R := Gpu.OnlyAsked) s.1.window _).mono (fun _ _ hAsked =>
    hLends.of_asked hAsked) fun _ _ hAsked => hLends.of_asked hAsked

-- ---------------------------------------------------------------------------
-- Frames
-- ---------------------------------------------------------------------------

/-- What the frame machine does with its own, while the commands of frames refer to what is there. -/
theorem linked_onMachine {op : Op Machinery α}
    (hOp : ∀ s, op.Within (Preserving (MachineBooks s))) :
    (onMachine op).Within (Preserving (Linked c pool)) := by
  refine within_preserving fun s h => ?_
  rw [onMachine, ensures_on]
  exact ((hOp s).preserves (h.machineBooks h.backed)).mono (fun _ _ h' => h.of_machineBooks h')
    fun _ _ h' => h.of_machineBooks h'

/-- Beginning a setup buffer keeps the books. -/
theorem linked_beginSetup :
    (onMachine (Synchronizer.onRecorder Recorder.beginSetup)).Within (Preserving (Linked c pool)) := by
  refine linked_onMachine fun _ => Synchronizer.within_onRecorder fun _ => ?_
  refine within_preserving fun _ h => ?_
  exact (Recorder.ensures_beginSetup_of_books h).mono (fun _ _ h' => h'.1) fun _ _ h' => h'

/-- Running and freeing the setup buffer keeps the books. -/
theorem linked_flushSetup :
    (onMachine (Synchronizer.onRecorder Recorder.flushSetup)).Within (Preserving (Linked c pool)) := by
  refine linked_onMachine fun _ => ?_
  exact Synchronizer.within_onRecorder fun _ => Recorder.within_flushSetup

/-- Beginning a frame on the machine keeps the books. -/
theorem linked_beginMachine (extent : Extent) :
    (onMachine (Synchronizer.beginFrame extent)).Within (Preserving (Linked c pool)) :=
  linked_onMachine fun _ => Synchronizer.within_beginFrame_of_books extent

/-- A frame can be ended whose buffer is one that the machine has. -/
theorem Linked.ensures_endMachine (h : Linked c pool s) {f : Frame}
    (hDraw : f.buffer ∈ s.1.machine.recorder.draw) :
    (onMachine (Synchronizer.endFrame f)).Ensures s (fun _ t => Linked c pool t)
      (fun _ t => Linked c pool t) := by
  rw [onMachine, ensures_on]
  exact ((Synchronizer.within_endFrame_of_books f).preserves ⟨h.machineBooks h.backed, hDraw⟩).mono
    (fun _ _ h' => h.of_machineBooks h'.toBalanced) fun _ _ h' => h.of_machineBooks h'.toBalanced

-- ---------------------------------------------------------------------------
-- Draws
-- ---------------------------------------------------------------------------

/-- There is a buffer of the machine to draw into. -/
structure Drawable (c : GpuContext) (pool : Handle) (b : CommandBuffer) (s : Renderer × Host) : Prop
    extends Linked c pool s where
  draw : b ∈ s.1.machine.recorder.draw

variable {b : CommandBuffer}

instance : Unlogged (Drawable c pool b) where
  push h := ⟨(inferInstance : Unlogged (Linked c pool)).push h.toLinked, h.draw⟩

/-- The buffer is there, with its pool. -/
theorem Drawable.hasBuffer (h : Drawable c pool b s) : s.1.estate.HasBuffer b := by
  refine ⟨s.1.device.pool, ?_, ?_⟩
  · rw [estate_eq s.1 .machine]
    exact Multiset.mem_add.mpr
      (.inl (Multiset.mem_add.mpr (.inl (Recorder.mem_estate_of_draw _ h.draw))))
  · rw [estate_eq s.1 .machine]
    exact Multiset.mem_add.mpr (.inr (h.mem_pool (by decide)))

/-- Commands may be recorded that mention what is there. -/
theorem Drawable.ensures_record (h : Drawable c pool b s) {command : GpuCommand}
    (hMentions : ∀ m ∈ command.mentions, Permits s.2.gpu.history m) :
    (record b command).Ensures s (fun _ t => Drawable c pool b t)
      (fun _ t => Drawable c pool b t) := by
  rw [record, ensures_change]
  exact ⟨h.of_lends (h.lends.record h.hasBuffer hMentions) (List.suffix_cons _ _), h.draw⟩

/-- A command that mentions nothing may always be recorded. -/
theorem drawable_record {command : GpuCommand} (hMentions : command.mentions = []) :
    (record b command).Within (Preserving (Drawable c pool b)) :=
  within_preserving fun _ h => h.ensures_record (hMentions ▸ List.forall_mem_nil _)

/-- Storing bytes leaves a buffer to draw into. -/
theorem drawable_onMemory {op : Op (FrameMemory × Host) α} (hOp : op.Within FrameMemory.Stores) :
    (onMemory op).Within (Preserving (Drawable c pool b)) := by
  refine within_preserving fun s h => ?_
  have hStored : ∀ t, FrameMemory.Stores (s.1.memory, s.2) t →
      Drawable c pool b ({ s.1 with memory := t.1 }, t.2) := by
    intro t hStores
    -- the frame buffer is the same object afterwards
    have hLends : t.2.gpu.Lends (t.1.estate + s.1.others .memory) := by
      rw [FrameMemory.estate, hStores.buffer]
      exact (h.lends_part .memory).of_asked hStores.asked
    have hBalanced : Balanced c pool ({ s.1 with memory := t.1 }, t.2) :=
      h.change .memory hLends rfl rfl rfl
    have hSuffix : s.2.gpu.history <:+ t.2.gpu.history := hStores.asked.history ▸ List.suffix_refl _
    exact ⟨h.of_balanced hBalanced hSuffix rfl rfl rfl rfl, h.draw⟩
  rw [onMemory, ensures_on]
  exact (hOp _).mono (fun _ t h' => hStored t h') fun _ t h' => hStored t h'

/-- The frame buffer may be mentioned. -/
theorem Drawable.permits_memory (h : Drawable c pool b s) :
    Permits s.2.gpu.history (.object .buffer s.1.memory.buffer) :=
  (h.lends_part .memory).permits_object ((has_object _ _).left _)

/-- The sets that a draw binds are there. -/
theorem drawable_bindSets : (bindSets b).Within (Preserving (Drawable c pool b)) := by
  refine within_get.bind fun _ => ?_
  refine (within_uniformOffsets (fun bytes => drawable_onMemory (FrameMemory.within_storeUniform
    bytes)) _ _).bind fun offsets => ?_
  refine within_get_bind fun s h => ?_
  cases hCommand : s.1.descriptors.bindCommand? offsets with
  | some command =>
    exact h.ensures_record
      (Descriptors.permits_bindCommand (h.lends_part .descriptors) h.sets hCommand)
  | none => exact (ensures_pure _ _).mpr h

/-- The pipeline that a draw binds is there. -/
theorem drawable_bindPipeline (mode : PolyRenderMode) :
    (bindPipeline b mode).Within (Preserving (Drawable c pool b)) := by
  refine within_get_bind fun s h => ?_
  cases hPair : s.1.pipelines.pair with
  | some pair =>
    exact h.ensures_record (List.forall_mem_singleton.mpr ((h.lends_part .pipelines).permits_object
      ((Pipelines.has_select hPair mode).left _)))
  | none => exact (ensures_pure _ _).mpr h

/-- The vertices that a draw binds are in the frame buffer. -/
theorem drawable_bindStreams (streams : List VertexStream) :
    (bindStreams b streams).Within (Preserving (Drawable c pool b)) := by
  induction streams with
  | nil => exact within_pure ()
  | cons stream rest ih =>
    refine Within.bind ?_ fun _ => ih
    refine (drawable_onMemory (FrameMemory.within_store stream.bytes)).bind fun _ => ?_
    exact within_get_bind fun _ h =>
      h.ensures_record (List.forall_mem_singleton.mpr h.permits_memory)

/-- The indices that a draw binds are in the frame buffer. -/
theorem drawable_bindIndices (mesh : Mesh) :
    (bindIndices b mesh).Within (Preserving (Drawable c pool b)) := by
  refine within_ite ?_ (within_pure ())
  refine (drawable_onMemory (FrameMemory.within_store mesh.indexBytes)).bind fun _ => ?_
  exact within_get_bind fun _ h => h.ensures_record (List.forall_mem_singleton.mpr h.permits_memory)

/-- A draw mentions what is there. -/
theorem drawable_drawMesh (mesh : Mesh) (mode : PolyRenderMode) :
    (drawMesh b mesh mode).Within (Preserving (Drawable c pool b)) := by
  refine drawable_bindSets.bind fun _ => ?_
  refine (drawable_bindPipeline mode).bind fun _ => ?_
  refine within_get.bind fun _ => ?_
  refine (drawable_bindStreams _).bind fun _ => ?_
  refine (drawable_bindIndices mesh).bind fun _ => ?_
  refine drawable_record ?_
  cases mesh.drawCall <;> rfl

/-- Drawing into a buffer that the machine has keeps the books. -/
theorem Linked.ensures_draw (h : Linked c pool s) (mesh : Mesh) (mode : PolyRenderMode)
    (hDraw : ∀ f, s.1.frame = some f → f.buffer ∈ s.1.machine.recorder.draw) :
    (draw mesh mode).Ensures s (fun _ t => Linked c pool t) (fun _ t => Linked c pool t) := by
  rw [draw, ensures_bind]
  refine ensures_currentFrame _ (fun f hFrame => ?_) fun _ _ => h
  have hMesh : Within (Preserving (Drawable c pool f.buffer)) (if mesh.vertexCount = 0 then
      Op.log (.trace component "Skipping draw of an empty mesh")
    else drawMesh f.buffer mesh mode) := within_ite (within_log _) (drawable_drawMesh mesh mode)
  exact (hMesh.preserves ⟨h, hDraw f hFrame⟩).mono (fun _ _ h => h.toLinked) fun _ _ h => h.toLinked

end RenderLoop.Renderer
