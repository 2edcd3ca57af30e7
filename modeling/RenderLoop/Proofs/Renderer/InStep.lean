import RenderLoop.Proofs.Gpu.Made
import RenderLoop.Proofs.Renderer.Draw
import RenderLoop.Proofs.Renderer.ScreenWork

/-!
# RenderLoop — renderers in step with their program

A renderer is **in step** with its program when modules, descriptors and pipelines
were all made for the program as it is (`Renderer.InStep`). Calls that leave the
program alone keep a renderer in step, however they end (`Renderer.KeepsStep`): most
of them do not touch what was made for it, and those that build pipelines build them
from what is there.
-/

namespace RenderLoop

open Op

namespace FrameMemory

/-- The region that descriptors see stays, and the history of the device grows. -/
structure KeepsRegion (s t : FrameMemory × Host) : Prop where
  region : t.1.region = s.1.region
  history : s.2.gpu.history <:+ t.2.gpu.history

instance : Storing KeepsRegion where
  refl _ := ⟨rfl, List.suffix_refl _⟩
  trans h h' := ⟨h'.region.trans h.region, h.history.trans h'.history⟩
  push _ _ := ⟨rfl, List.suffix_refl _⟩
  take _ _ := ⟨rfl, List.suffix_refl _⟩
  write _ _ _ := ⟨rfl, List.suffix_refl _⟩

end FrameMemory

namespace Renderer

/-- What the device has of the program was made for the program as it is. -/
structure InStep (s : Renderer × Host) : Prop where
  modules : s.1.modules.MadeFor s.1.program s.2.gpu.history
  descriptors : s.1.descriptors.MadeFor s.1.program s.1.memory.region s.2.gpu.history
  pipelines : s.1.pipelines.MadeFor s.1.basis s.2.gpu.history

/-- The program and what was made for it stay, but for pipelines, which are in step if they were. -/
structure KeepsStep (s t : Renderer × Host) : Prop where
  program : s.1.program.SameButHashes t.1.program
  modules : t.1.modules = s.1.modules
  descriptors : t.1.descriptors = s.1.descriptors
  region : t.1.memory.region = s.1.memory.region
  history : s.2.gpu.history <:+ t.2.gpu.history
  pipelines : s.1.pipelines.MadeFor s.1.basis s.2.gpu.history →
    t.1.pipelines.MadeFor t.1.basis t.2.gpu.history

variable {s t u : Renderer × Host} {c : Request} {α : Type}

/-- What keeps step with the modules keeps them in step. -/
theorem InStep.kept (h : InStep s) (hKeeps : KeepsStep s t) : InStep t := by
  refine ⟨?_, ?_, hKeeps.pipelines h.pipelines⟩
  · rw [hKeeps.modules]
    exact (h.modules.of_suffix hKeeps.history).congr hKeeps.program
  · rw [hKeeps.descriptors, hKeeps.region]
    exact (h.descriptors.of_suffix hKeeps.history).congr hKeeps.program

/-- Pipelines that stay are in step as long as what they were made from stays. -/
theorem keepsStep_of_same (hPipelines : t.1.pipelines = s.1.pipelines)
    (hHistory : s.2.gpu.history <:+ t.2.gpu.history)
    (hProgram : s.1.program.SameButHashes t.1.program := by rfl)
    (hModules : t.1.modules = s.1.modules := by rfl)
    (hDescriptors : t.1.descriptors = s.1.descriptors := by rfl)
    (hRegion : t.1.memory.region = s.1.memory.region := by rfl) : KeepsStep s t := by
  refine ⟨hProgram, hModules, hDescriptors, hRegion, hHistory, fun hMade => ?_⟩
  have hInput : t.1.program.vertexInput = s.1.program.vertexInput := by rw [hProgram]
  rw [hPipelines]
  exact (hMade.of_suffix hHistory).congr (congrArg ShaderModules.modules hModules) hInput
    (congrArg Descriptors.pipelineLayout hDescriptors)

instance : Steady KeepsStep where
  refl _ := keepsStep_of_same rfl (List.suffix_refl _)
  trans h h' := ⟨h.program.trans h'.program, h'.modules.trans h.modules,
    h'.descriptors.trans h.descriptors, h'.region.trans h.region, h.history.trans h'.history,
    fun hMade => h'.pipelines (h.pipelines hMade)⟩
  push _ _ := keepsStep_of_same rfl (List.suffix_refl _)

-- ---------------------------------------------------------------------------
-- Pipelines
-- ---------------------------------------------------------------------------

/-- Building pipelines from what is there keeps them in step, if it does so when it returns. When it
fails, it leaves the pair in use alone. -/
theorem keepsStep_onPipelines {op : Op (Pipelines × Host) Unit} (hGrowing : op.Within Growing)
    (hOp : s.1.pipelines.MadeFor s.1.basis s.2.gpu.history →
      op.Ensures (s.1.pipelines, s.2) (fun _ t => t.1.MadeFor s.1.basis t.2.gpu.history)
        (fun _ t => s.1.basis.Stock t.2.gpu.history t.1.registry ∧ t.1.pair = s.1.pipelines.pair)) :
    (onPipelines op).Ensures s (fun _ t => KeepsStep s t) (fun _ t => KeepsStep s t) := by
  rw [onPipelines, ensures_on]
  have hKeeps : ∀ t : Pipelines × Host, Growing (s.1.pipelines, s.2) t →
      (s.1.pipelines.MadeFor s.1.basis s.2.gpu.history → t.1.MadeFor s.1.basis t.2.gpu.history) →
        KeepsStep s ({ s.1 with pipelines := t.1 }, t.2) :=
    fun t hGrown hMade => ⟨.refl _, rfl, rfl, rfl, hGrown.history, hMade⟩
  intro r t hRun
  have hGrown := hGrowing (s.1.pipelines, s.2) r t hRun
  cases r with
  | ok _ => exact hKeeps t hGrown fun hMade => (hOp hMade).of_ok hRun
  | error e =>
    refine hKeeps t hGrown fun hMade => ?_
    obtain ⟨hStock, hPair⟩ := (hOp hMade).of_error hRun
    exact Pipelines.MadeFor.kept (s := (s.1.pipelines, s.2)) hMade hStock hPair hGrown

theorem keepsStep_buildPipelines : buildPipelines.Within KeepsStep := by
  intro s
  rw [buildPipelines, ensures_bind, ensures_get]
  exact keepsStep_onPipelines (Pipelines.within_buildPair _ _)
    fun hMade => Pipelines.ensures_buildPair _ _ hMade.stock

theorem keepsStep_rebuildPipelines : rebuildPipelines.Within KeepsStep := by
  intro s
  rw [rebuildPipelines, ensures_bind, ensures_get]
  exact keepsStep_onPipelines (Pipelines.within_rebuildPair _ _)
    fun _ => Pipelines.ensures_rebuildPair _ _

-- ---------------------------------------------------------------------------
-- Calls
-- ---------------------------------------------------------------------------

instance : Working KeepsStep where
  screen h := by
    refine keepsStep_of_same h.pipelines h.grows.history ?_ h.modules h.descriptors
      (congrArg FrameMemory.region h.memory)
    rw [h.program]
    exact .refl _
  reset _ _ := keepsStep_of_same rfl (List.suffix_refl _)
  buildPipelines := keepsStep_buildPipelines
  rebuildPipelines := keepsStep_rebuildPipelines

theorem drawSteps_keepsStep (b : CommandBuffer) : DrawSteps b KeepsStep := by
  have hMemory : ∀ {op : Op (FrameMemory × Host) UInt64}, op.Within FrameMemory.KeepsRegion →
      (onMemory op).Within KeepsStep := fun hOp =>
    hOp.on fun s t h => keepsStep_of_same rfl h.history (.refl _) rfl rfl h.region
  refine drawSteps_of_record ?_ ?_ ?_
  · exact fun bytes => hMemory (FrameMemory.within_store bytes)
  · exact fun bytes => hMemory (FrameMemory.within_storeUniform bytes)
  · exact fun c _ => within_change fun s => keepsStep_of_same rfl (List.suffix_cons _ _)

/-- Drawing leaves the modules and the program alone. -/
theorem keepsStep_draw (mesh : Mesh) (mode : PolyRenderMode) : (draw mesh mode).Within KeepsStep :=
  within_draw drawSteps_keepsStep mesh mode

/-- Everything but a reload keeps a renderer in step. -/
theorem Step.keepsStep (hStep : Step s c t) (hReload : c ≠ .reloadShaders) : KeepsStep s t := by
  have hServe : (serve c).Within KeepsStep := by
    by_cases hDraw : ∃ mesh mode, c = .draw mesh mode
    · obtain ⟨mesh, mode, rfl⟩ := hDraw
      exact keepsStep_draw mesh mode
    · exact within_serve (fun mesh mode h => hDraw ⟨mesh, mode, h⟩) hReload
  obtain ⟨r, hRun⟩ := hStep
  have hKeeps := hServe s r t hRun
  cases r <;> exact hKeeps

end Renderer

end RenderLoop
