import RenderLoop.Proofs.Gpu.ScreenEstate
import RenderLoop.Proofs.SortedMap

/-!
# RenderLoop — what a program's parts answer for

The estates of the parts that a program is run with: the pipeline cache, the frame
buffer, the shader modules, the descriptors and the pipelines.

Set layouts and pipelines are shared. A set layout is made for the first set that asks
for it, and is destroyed with the whole. A pipeline is destroyed as soon as neither the
registry nor the pair in use refers to it, so what there is at any time is what is
referred to (`Pipelines.estate`); an update destroys the difference (`lends_update`).
-/

namespace RenderLoop

open GpuHistory Op Estate

variable {h : Host} {rest : Estate}

-- ---------------------------------------------------------------------------
-- The pipeline cache
-- ---------------------------------------------------------------------------

namespace PipelineCache

/-- A pipeline cache is one object. -/
def estate (c : PipelineCache) : Estate := object .pipelineCache c.handle

/-- Loading creates one cache, whatever the file holds. -/
theorem ensures_load_of_lends (context : GpuContext) (path : String) (hLends : h.gpu.Lends rest) :
    (load context path).Ensures h (fun c t => t.gpu.Lends (c.estate + rest))
      (fun _ t => t.gpu.Lends rest) := by
  simp only [load, ensures_bind, ensures_get, ensures_log, ensures_pure]
  have hLogged : (Logging.push (initial context.physical.identity path (h.files.read path)).2
      h).gpu.Lends rest := hLends
  exact (Host.ensures_setUp_of_does _ _ _ (hLogged.does_create (c := .pipelineCache _)
    (List.forall_mem_nil _))).mono (fun _ _ hMade => hMade.2) fun _ _ h => h

/-- A cache that is destroyed is answered for no more. -/
theorem lends_destroy {c : PipelineCache} (hLends : h.gpu.Lends (c.estate + rest)) :
    (c.destroy h).gpu.Lends rest :=
  hLends.destroyIfAny

end PipelineCache

-- ---------------------------------------------------------------------------
-- The frame buffer
-- ---------------------------------------------------------------------------

namespace FrameMemory

/-- A frame buffer is one object; its memory goes with it. -/
def estate (m : FrameMemory) : Estate := object .buffer m.buffer

/-- The buffer is the same, and nothing shows on the device. -/
structure Stores (s t : FrameMemory × Host) : Prop where
  buffer : t.1.buffer = s.1.buffer
  asked : Gpu.OnlyAsked s.2.gpu t.2.gpu

instance : Storing Stores where
  refl _ := ⟨rfl, rfl, rfl⟩
  trans h h' := ⟨h'.buffer.trans h.buffer, Gpu.Passage.trans h.asked h'.asked⟩
  push _ _ := ⟨rfl, rfl, rfl⟩
  take _ _ := ⟨rfl, rfl, rfl⟩
  write _ _ _ := ⟨rfl, rfl, rfl⟩

/-- A frame buffer that was created is answered for; one that has no memory, or cannot be bound to
it, is destroyed again. -/
theorem ensures_create_of_lends (context : GpuContext) (size alignment : UInt64)
    (hLends : h.gpu.Lends rest) :
    (create context size alignment).Ensures h (fun m t => t.gpu.Lends (m.estate + rest))
      (fun _ t => t.gpu.Lends rest) := by
  simp only [create, ensures_bind, ensures_undoing, ensures_log, ensures_pure]
  refine (Host.ensures_setUp_of_does _ _ _ (hLends.does_create (c := .buffer size)
    (List.forall_mem_nil _))).mono (fun buffer h₁ hMade => ?_) fun _ _ h => h
  -- the buffer is there, and its memory is asked for
  have hProvided := Host.within_provide (R := Gpu.OnlyAsked) component s!"allocate {size} bytes"
    (Gpu.silent_provideFrameMemory size) h₁
  rw [provide, ensures_bind]
  refine hProvided.mono (fun _ h₂ hAsked => ?_) fun _ _ hAsked => (hMade.2.of_asked hAsked).destroy
  have hLends₂ := hMade.2.of_asked hAsked
  -- then the two are bound
  have hMentions : ∀ m ∈ (GpuCall.bindBuffer buffer).mentions, Permits h₂.gpu.history m :=
    List.forall_mem_singleton.mpr (hLends₂.permits_object ((has_object .buffer buffer).left rest))
  exact (Host.ensures_setUp_of_does _ _ _ (hLends₂.does_perform hMentions)).mono (fun _ _ h => h)
    fun _ _ h => h.destroy

/-- A frame buffer that is destroyed is answered for no more. -/
theorem lends_destroy {m : FrameMemory} (hLends : h.gpu.Lends (m.estate + rest)) :
    (m.destroy h).gpu.Lends rest :=
  hLends.destroyIfAny

end FrameMemory

-- ---------------------------------------------------------------------------
-- Shader modules
-- ---------------------------------------------------------------------------

namespace ShaderModules

variable {m : ShaderModules}

/-- Shader modules are one object for each stage. -/
def estate (m : ShaderModules) : Estate := objects .shaderModule (m.modules.map Prod.snd)

/-- The module of a stage is there. -/
theorem has_module {stage : ShaderStage × Handle} (hStage : stage ∈ m.modules) :
    m.estate.Has .shaderModule stage.2 :=
  has_of_mem (List.mem_map_of_mem hStage)

/-- Dropping the modules gives all of them back. -/
theorem lends_drop (hLends : h.gpu.Lends (m.estate + rest)) :
    (drop (m, h)).2.gpu.Lends ((drop (m, h)).1.estate + rest) := by
  rw [drop, estate, List.map_nil, objects_nil, zero_add]
  exact hLends.destroyAll

/-- Modules that are destroyed are given back. -/
theorem lends_destroy (hLends : h.gpu.Lends (m.estate + rest)) : (destroy (m, h)).gpu.Lends rest :=
  hLends.destroyAll

/-- Modules are built one after another, and those that were built stay if one cannot be. -/
theorem ensures_build_of_lends {stages : List (ShaderStage × ShaderCode)}
    (hLends : h.gpu.Lends (m.estate + rest)) :
    (build stages).Ensures (m, h) (fun _ t => t.2.gpu.Lends (t.1.estate + rest))
      (fun _ t => t.2.gpu.Lends (t.1.estate + rest)) := by
  induction stages generalizing m h with
  | nil =>
    rw [build, ensures_pure]
    exact hLends
  | cons stage stages ih =>
    simp only [build, ensures_bind, ensures_change, Op.onHost, ensures_onSecond]
    refine (Host.ensures_expect_of_does _ _ _ (hLends.does_create (c := .shaderModule stage.2)
      (List.forall_mem_nil _))).mono (fun x h₁ hMade => ?_) fun _ _ h => h
    -- the new module stands behind the others, and `Estate` does not count the order
    have hNew : object .shaderModule x + (m.estate + rest) =
        estate { m with modules := m.modules ++ [(stage.1, x)] } + rest := by
      rw [estate, estate, List.map_append, objects_append, List.map_singleton, objects_cons,
        objects_nil, add_zero]
      ac_rfl
    exact ih (by rw [← hNew]; exact hMade.2)

/-- Modules that are created are answered for. -/
theorem ensures_create_of_lends (p : Program) (hLends : h.gpu.Lends (m.estate + rest)) :
    (create p).Ensures (m, h) (fun _ t => t.2.gpu.Lends (t.1.estate + rest))
      (fun _ t => t.2.gpu.Lends (t.1.estate + rest)) := by
  rw [create, ensures_bind, ensures_change]
  exact ensures_build_of_lends (m := { m with generation := p.generation }) hLends

/-- The device lends the modules that are built again for another generation. -/
theorem ensures_sync_of_lends (p : Program) (hLends : h.gpu.Lends (m.estate + rest)) :
    (sync p).Ensures (m, h) (fun _ t => t.2.gpu.Lends (t.1.estate + rest))
      (fun _ t => t.2.gpu.Lends (t.1.estate + rest)) := by
  rw [sync, ensures_bind, ensures_get]
  refine ensures_ite (fun _ => ?_) fun _ => ?_
  · -- the generation is another one: the old modules are dropped before the new ones are built
    rw [ensures_bind, ensures_change, ensures_bind]
    refine (ensures_build_of_lends (lends_drop hLends)).mono (fun _ t hBuilt => ?_) fun _ _ h => h
    rw [ensures_bind, ensures_change, ensures_log]
    exact hBuilt
  · rw [ensures_pure]
    exact hLends

end ShaderModules

-- ---------------------------------------------------------------------------
-- Descriptors
-- ---------------------------------------------------------------------------

/-- Every planned write is of the one region. -/
theorem DescriptorWrite.region_of_mem_planFrom {layouts : List SetLayout} {region : BufferRegion}
    {first : Nat} {w : DescriptorWrite} (hw : w ∈ planFrom region first layouts) :
    w.region = region := by
  induction layouts generalizing first with
  | nil => cases hw
  | cons layout rest ih =>
    rcases List.mem_append.mp hw with hFirst | hRest
    · obtain ⟨b, -, rfl⟩ := List.mem_map.mp hFirst
      rfl
    · exact ih hRest

namespace Descriptors

variable {d d' d'' : Descriptors}

/-- Sets go with their pool. -/
def estate (d : Descriptors) : Estate :=
  objects .setLayout d.registry.objects +
    (object .descriptorPool d.pool + object .pipelineLayout d.pipelineLayout)

/-- What sets there are was allocated from the pool. -/
def Backed (d : Descriptors) (h : GpuHistory) : Prop :=
  d.sets = [] ∨ d.pool ≠ 0 ∧ Allocated h d.pool d.sets

/-- What was allocated stays so as the history goes on. -/
theorem Backed.of_suffix {h h' : GpuHistory} (hBacked : d.Backed h) (hSuffix : h <:+ h') :
    d.Backed h' :=
  hBacked.imp_right fun hSets => ⟨hSets.1, hSets.2.of_suffix hSuffix⟩

/-- The pipeline layout is there, if there is one. -/
theorem has_pipelineLayout (d : Descriptors) : d.estate.Has .pipelineLayout d.pipelineLayout :=
  ((has_object _ _).right _).right _

/-- The pool is there, if there is one. -/
theorem mem_pool (hPool : d.pool ≠ 0) : .object .descriptorPool d.pool ∈ d.estate :=
  (((has_object _ _).left _).right _) hPool

/-- The command that binds the sets mentions what is there. -/
theorem permits_bindCommand (hLends : h.gpu.Lends (d.estate + rest))
    (hBacked : d.Backed h.gpu.history) {offsets : List UInt32} {c : GpuCommand}
    (hCommand : d.bindCommand? offsets = some c) : ∀ m ∈ c.mentions, Permits h.gpu.history m := by
  rw [bindCommand?] at hCommand
  split at hCommand
  · cases hCommand
  · rename_i hSome
    cases hCommand
    refine List.forall_mem_cons.mpr ⟨hLends.permits_object (d.has_pipelineLayout.left rest), ?_⟩
    rw [List.forall_mem_map]
    -- a command that binds sets has some, so they are from the pool
    rcases hBacked with hNone | ⟨hPool, hAllocated⟩
    · rw [hNone] at hSome
      exact absurd rfl hSome
    · exact fun x hx =>
        hLends.permits_set (Multiset.mem_add.mpr (.inl (mem_pool hPool))) hAllocated hx

-- ---------------------------------------------------------------------------
-- Layouts
-- ---------------------------------------------------------------------------

/-- The registry has more objects, and nothing else is different. -/
structure Widened (d d' : Descriptors) : Prop where
  same : d' = { d with registry := d'.registry }
  objects : ∀ x ∈ d.registry.objects, x ∈ d'.registry.objects

/-- A registry that is left alone has no fewer objects. -/
theorem Widened.refl (d : Descriptors) : d.Widened d where
  same := rfl
  objects _ hx := hx

/-- One widening after another is a widening. -/
theorem Widened.trans (h : d.Widened d') (h' : d'.Widened d'') : d.Widened d'' where
  same := by rw [h'.same, h.same]
  objects x hx := h'.objects x (h.objects x hx)

/-- A new object is in the registry then. -/
theorem widened_record {layout : SetLayout} (hNone : d.registry.get? layout.key = none) (x : Handle) :
    d.Widened { d with registry := d.registry.record layout x } ∧
      x ∈ (d.registry.record layout x).objects ∧
      estate { d with registry := d.registry.record layout x } = object .setLayout x + d.estate := by
  have hPerm : (d.registry.record layout x).objects.Perm (x :: d.registry.objects) :=
    SortedMap.perm_values_insert hNone x
  refine ⟨⟨rfl, fun y hy => hPerm.mem_iff.mpr (List.mem_cons_of_mem _ hy)⟩,
    hPerm.mem_iff.mpr List.mem_cons_self, ?_⟩
  rw [estate, estate, objects_of_perm hPerm, objects_cons, add_assoc]

/-- The object of a layout is in the registry, whether it was there or was made just now. -/
theorem ensures_layoutObject_of_lends (layout : SetLayout) (hLends : h.gpu.Lends (d.estate + rest)) :
    (layoutObject layout).Ensures (d, h)
      (fun x t => t.2.gpu.Lends (t.1.estate + rest) ∧ d.Widened t.1 ∧ x ∈ t.1.registry.objects)
      (fun _ t => t.2.gpu.Lends (t.1.estate + rest) ∧ d.Widened t.1) := by
  rw [layoutObject, ensures_on, LayoutRegistry.getOrCreate, ensures_bind, ensures_get]
  split
  · rename_i x hFound
    rw [ensures_pure]
    exact ⟨hLends, .refl d, SortedMap.mem_values_of_get? hFound⟩
  · rename_i hNone
    rw [ensures_bind, createLayout, ensures_onSecond]
    refine (Host.ensures_expect_of_does _ _ _ (hLends.does_create (c := .setLayout layout)
      (List.forall_mem_nil _))).mono (fun x h₁ hMade => ?_) fun _ _ h => ⟨h, .refl d⟩
    rw [ensures_bind, ensures_log, ensures_bind, ensures_change, ensures_pure]
    -- the registry grows by the one object that the device has made
    obtain ⟨hWidened, hMem, hEstate⟩ := widened_record hNone x
    refine ⟨?_, hWidened, hMem⟩
    show h₁.gpu.Lends (estate { d with registry := d.registry.record layout x } + rest)
    rw [hEstate, add_assoc]
    exact hMade.2

/-- The objects of several layouts are in the registry, and stay if one cannot be made. -/
theorem ensures_layoutObjects_of_lends (layouts : List SetLayout)
    (hLends : h.gpu.Lends (d.estate + rest)) :
    (layoutObjects layouts).Ensures (d, h)
      (fun xs t => t.2.gpu.Lends (t.1.estate + rest) ∧ d.Widened t.1 ∧
        ∀ x ∈ xs, x ∈ t.1.registry.objects)
      (fun _ t => t.2.gpu.Lends (t.1.estate + rest) ∧ d.Widened t.1) := by
  induction layouts generalizing d h with
  | nil =>
    rw [layoutObjects, ensures_pure]
    exact ⟨hLends, .refl d, List.forall_mem_nil _⟩
  | cons layout rest ih =>
    rw [layoutObjects, ensures_bind]
    refine (ensures_layoutObject_of_lends layout hLends).mono ?_ fun _ _ h => h
    rintro x ⟨d₁, h₁⟩ ⟨hLends₁, hWidened₁, hx⟩
    rw [ensures_bind]
    refine (ih hLends₁).mono ?_ fun _ _ h => ⟨h.1, hWidened₁.trans h.2⟩
    rintro xs s₂ ⟨hLends₂, hWidened₂, hxs⟩
    rw [ensures_pure]
    exact ⟨hLends₂, hWidened₁.trans hWidened₂,
      List.forall_mem_cons.mpr ⟨hWidened₂.objects x hx, hxs⟩⟩

-- ---------------------------------------------------------------------------
-- Pool and sets
-- ---------------------------------------------------------------------------

/-- A pool is created if there is none, after the budget was compared with the limits. -/
theorem ensures_createPool_of_lends (p : Program) (hLends : h.gpu.Lends (d.estate + rest))
    (hNone : d.pool = 0) :
    (createPool p).Ensures (d, h)
      (fun _ t => t.2.gpu.Lends (t.1.estate + rest) ∧ t.1 = { d with pool := t.1.pool } ∧
        t.1.pool ≠ 0)
      (fun _ t => t.2.gpu.Lends (t.1.estate + rest) ∧ t.1 = d) := by
  simp only [createPool, ensures_bind, ensures_ofOption, Op.onHost, ensures_onSecond, ensures_change]
  intro sizes _
  refine (within_checkBudget (R := Gpu.OnlyAsked) sizes p.layouts h).mono (fun _ h₁ hAsked => ?_)
    fun _ _ hAsked => ⟨hLends.of_asked hAsked, trivial⟩
  refine (Host.ensures_invoke_of_does _ _ ((hLends.of_asked hAsked).does_create
    (c := .descriptorPool sizes.maxSets (poolCounts sizes)) (List.forall_mem_nil _))).mono
    (fun x h₂ hMade => ⟨?_, trivial, hMade.1⟩) fun _ _ h => ⟨h, trivial⟩
  have hNew : object .descriptorPool x + (d.estate + rest) = estate { d with pool := x } + rest := by
    rw [estate, estate, hNone, object_zero]
    simp only [zero_add]
    ac_rfl
  rw [← hNew]
  exact hMade.2

/-- What is written names the sets and the region. -/
theorem mem_writes {layouts : List SetLayout} {sets : List Handle} {region : BufferRegion}
    {w : SetWrite} (hw : w ∈ writes layouts sets region) : w.set ∈ sets ∧ w.region = region := by
  obtain ⟨p, hp, hSome⟩ := List.mem_filterMap.mp hw
  obtain ⟨set, hSet, rfl⟩ := Option.map_eq_some_iff.mp hSome
  exact ⟨List.mem_of_getElem? hSet, DescriptorWrite.region_of_mem_planFrom hp⟩

/-- Sets are allocated from the pool, and what is written to them is there. -/
theorem ensures_allocateSets_of_lends (layouts : List SetLayout) {region : BufferRegion}
    (hLends : h.gpu.Lends (d.estate + rest)) (hPool : d.pool ≠ 0)
    (hLayouts : ∀ x ∈ d.layouts, x ∈ d.registry.objects)
    (hRegion : rest.Has .buffer region.buffer) :
    (allocateSets layouts region).Ensures (d, h)
      (fun _ t => t.2.gpu.Lends (t.1.estate + rest) ∧ t.1.Backed t.2.gpu.history)
      (fun _ t => t.2.gpu.Lends (t.1.estate + rest) ∧ t.1 = d) := by
  simp only [allocateSets, ensures_bind, ensures_get, Op.onHost, ensures_onSecond, ensures_change]
  have hHasPool := Multiset.mem_add.mpr (.inl (mem_pool hPool) : _ ∨ _ ∈ rest)
  refine (Host.ensures_invoke_of_does _ _ (hLends.does_allocateSets hHasPool fun x hx =>
    ((has_of_mem (hLayouts x hx)).left _).left rest)).mono
    (fun sets h₁ hMade => ?_) fun _ _ h => ⟨h, trivial⟩
  obtain ⟨hAllocated, hLends₁⟩ := hMade
  refine ⟨hLends₁.happen ⟨rfl, rfl, rfl⟩ fun m hm => ?_,
    .inr ⟨hPool, hAllocated.of_suffix (List.suffix_cons _ _)⟩⟩
  -- a write mentions a set that was allocated just now, and the buffer of the region
  obtain ⟨w, hw, hMention⟩ := List.mem_flatMap.mp hm
  obtain ⟨hSet, hSame⟩ := mem_writes hw
  rcases List.mem_cons.mp hMention with rfl | hBuffer
  · exact hLends₁.permits_set hHasPool hAllocated hSet
  · rw [List.mem_singleton.mp hBuffer, hSame]
    exact hLends₁.permits_object (hRegion.right _)

/-- Sets are backed by their pool, or there are none. -/
theorem ensures_buildSets_of_lends (p : Program) {region : BufferRegion}
    (hLends : h.gpu.Lends (d.estate + rest)) (hNoPool : d.pool = 0) (hNoSets : d.sets = [])
    (hLayouts : ∀ x ∈ d.layouts, x ∈ d.registry.objects)
    (hRegion : rest.Has .buffer region.buffer) :
    (buildSets p region).Ensures (d, h)
      (fun _ t => t.2.gpu.Lends (t.1.estate + rest) ∧ t.1.Backed t.2.gpu.history)
      (fun _ t => t.2.gpu.Lends (t.1.estate + rest) ∧ t.1.Backed t.2.gpu.history) := by
  rw [buildSets]
  refine ensures_ite (fun _ => ?_) fun _ => ?_
  · rw [ensures_log]
    exact ⟨hLends, .inl hNoSets⟩
  · rw [ensures_bind]
    refine (ensures_createPool_of_lends p hLends hNoPool).mono ?_ fun _ t h => ?_
    · -- the pool is there, and nothing but the pool is different
      rintro - ⟨d₁, h₁⟩ ⟨hLends₁, hSame, hPool⟩
      dsimp only at hSame hPool
      have hRegistry : d₁.registry = d.registry := (congrArg registry hSame :)
      have hLayouts₁ : ∀ x ∈ d₁.layouts, x ∈ d₁.registry.objects := by
        rw [congrArg Descriptors.layouts hSame, hRegistry]
        exact hLayouts
      rw [ensures_bind]
      refine (ensures_allocateSets_of_lends p.layouts hLends₁ hPool hLayouts₁ hRegion).mono
        (fun _ t hAllocated => ?_) fun _ t hFailed => ⟨hFailed.1, .inl ?_⟩
      · rw [ensures_bind, ensures_get, ensures_log]
        exact hAllocated
      · rw [hFailed.2, congrArg sets hSame]
        exact hNoSets
    · refine ⟨h.1, .inl ?_⟩
      rw [h.2]
      exact hNoSets

-- ---------------------------------------------------------------------------
-- The whole
-- ---------------------------------------------------------------------------

/-- Descriptors with nothing but set layouts. -/
structure Bare (d : Descriptors) : Prop where
  pool : d.pool = 0
  pipelineLayout : d.pipelineLayout = 0
  sets : d.sets = []

/-- Set layouts, the pipeline layout, the pool and the sets are made in this order, and what was
made stays if one of them cannot be. -/
theorem ensures_build_of_lends (p : Program) {region : BufferRegion}
    (hLends : h.gpu.Lends (d.estate + rest)) (hBare : d.Bare)
    (hRegion : rest.Has .buffer region.buffer) :
    (build p region).Ensures (d, h)
      (fun _ t => t.2.gpu.Lends (t.1.estate + rest) ∧ t.1.Backed t.2.gpu.history)
      (fun _ t => t.2.gpu.Lends (t.1.estate + rest) ∧ t.1.Backed t.2.gpu.history) := by
  rw [build, ensures_bind]
  refine (ensures_layoutObjects_of_lends p.layouts hLends).mono ?_ ?_
  · rintro layouts ⟨d₁, h₁⟩ ⟨hLends₁, hWidened, hLayouts⟩
    dsimp only at hWidened
    have hBare₁ : d₁.Bare := by
      rw [hWidened.same]
      exact ⟨hBare.pool, hBare.pipelineLayout, hBare.sets⟩
    have hMentions : ∀ m ∈ (Creation.pipelineLayout layouts).mentions, Permits h₁.gpu.history m :=
      hLends₁.permits_objects fun x hx => ((has_of_mem (hLayouts x hx)).left _).left rest
    simp only [createPipelineLayout, ensures_bind, ensures_change, Op.onHost, ensures_onSecond]
    refine (Host.ensures_expect_of_does _ _ _ (hLends₁.does_create hMentions)).mono
      (fun x h₂ hMade => ?_) fun _ t hFailed => ⟨hFailed, .inl hBare₁.sets⟩
    -- the estate had no pipeline layout, so it grows by the one that was made
    have hNew : object .pipelineLayout x + (d₁.estate + rest) =
        estate { d₁ with layouts, pipelineLayout := x, dynamicSlots := slots p.layouts } + rest := by
      rw [estate, estate, hBare₁.pipelineLayout, object_zero, add_zero]
      ac_rfl
    refine ensures_buildSets_of_lends p ?_ hBare₁.pool hBare₁.sets hLayouts hRegion
    rw [← hNew]
    exact hMade.2
  · rintro e ⟨d₁, h₁⟩ ⟨hLends₁, hWidened⟩
    dsimp only at hWidened
    refine ⟨hLends₁, .inl ?_⟩
    rw [hWidened.same]
    exact hBare.sets

/-- Pool and pipeline layout are given back, and the set layouts stay. -/
theorem lends_drop (hLends : h.gpu.Lends (d.estate + rest)) :
    (drop (d, h)).2.gpu.Lends (objects .setLayout d.registry.objects + rest) := by
  have hSplit : d.estate + rest = object .descriptorPool d.pool +
      (object .pipelineLayout d.pipelineLayout + (objects .setLayout d.registry.objects + rest)) := by
    rw [estate]
    ac_rfl
  rw [hSplit] at hLends
  exact hLends.destroyIfAny.destroyIfAny

/-- Building again begins with the set layouts there are. -/
theorem ensures_rebuild_of_lends (p : Program) {region : BufferRegion}
    (hLends : h.gpu.Lends (d.estate + rest)) (hRegion : rest.Has .buffer region.buffer) :
    (rebuild p region).Ensures (d, h)
      (fun _ t => t.2.gpu.Lends (t.1.estate + rest) ∧ t.1.Backed t.2.gpu.history)
      (fun _ t => t.2.gpu.Lends (t.1.estate + rest) ∧ t.1.Backed t.2.gpu.history) := by
  rw [rebuild, ensures_bind, ensures_change]
  have hEstate : estate { registry := d.registry } = objects .setLayout d.registry.objects :=
    add_zero _
  have hDropped := lends_drop hLends
  rw [← hEstate] at hDropped
  exact ensures_build_of_lends p hDropped ⟨rfl, rfl, rfl⟩ hRegion

/-- All set layouts are given back as well, in the order of their handles. -/
theorem lends_destroy (hLends : h.gpu.Lends (d.estate + rest)) : (destroy (d, h)).gpu.Lends rest := by
  have hDropped := lends_drop hLends
  -- they are destroyed in order, and the registry has them by key
  rw [← objects_of_perm (sortBy_perm (· ≤ ·) d.registry.objects)] at hDropped
  exact hDropped.destroyAll

end Descriptors

-- ---------------------------------------------------------------------------
-- Pipelines
-- ---------------------------------------------------------------------------

/-- What pipelines are built from is there. -/
structure PipelineBasis.Backed (b : PipelineBasis) (estate : Estate) : Prop where
  cache : estate.Has .pipelineCache b.cache
  modules : ∀ m ∈ b.modules, estate.Has .shaderModule m.2
  pass : estate.Has .renderPass b.pass
  layout : estate.Has .pipelineLayout b.layout

/-- What is backed may be built from. -/
theorem PipelineBasis.Backed.permits {b : PipelineBasis} {estate : Estate} (hBacked : b.Backed estate)
    {g : Gpu} (hLends : g.Lends estate) (state : PipelineState) :
    ∀ m ∈ (Creation.pipeline (b.request state)).mentions, Permits g.history m := by
  show ∀ m ∈ [Mention.object .pipelineCache b.cache, .object .pipelineLayout b.layout,
    .object .renderPass b.pass] ++ b.modules.map fun m => .object .shaderModule m.2, _
  rw [List.forall_mem_append]
  simp only [List.forall_mem_cons, List.forall_mem_map]
  exact ⟨⟨hLends.permits_object hBacked.cache, hLends.permits_object hBacked.layout,
    hLends.permits_object hBacked.pass, List.forall_mem_nil _⟩,
    fun m hm => hLends.permits_object (hBacked.modules m hm)⟩

/-- What others answer for as well is still there. -/
theorem PipelineBasis.Backed.right {b : PipelineBasis} (hBacked : b.Backed rest) (estate : Estate) :
    b.Backed (estate + rest) :=
  ⟨hBacked.cache.right _, fun m hm => (hBacked.modules m hm).right _, hBacked.pass.right _,
    hBacked.layout.right _⟩

/-- No element is there twice once duplicates were erased. -/
theorem nodup_eraseDups {α : Type} [BEq α] [LawfulBEq α] (xs : List α) : xs.eraseDups.Nodup := by
  induction hLength : xs.length using Nat.strongRecOn generalizing xs with
  | ind n ih =>
    cases xs with
    | nil => exact List.nodup_nil
    | cons x rest =>
      rw [List.eraseDups_cons, List.nodup_cons]
      have hShort := List.length_filter_le (fun y => !y == x) rest
      refine ⟨fun hx => ?_, ih _ (by rw [List.length_cons] at hLength; omega) _ rfl⟩
      simp at hx

namespace Pipelines

variable {p p' : Pipelines}

/-- What is referred to is there. -/
def estate (p : Pipelines) : Estate := objects .pipeline p.alive

/-- What is alive is referred to by the registry or by the pair in use. -/
theorem mem_alive {x : Handle} : x ∈ p.alive ↔ x ∈ p.registry.pipelines ∨ x ∈ p.inUse := by
  rw [alive, List.mem_eraseDups, (sortBy_perm _ _).mem_iff, List.mem_append]

/-- No pipeline that is alive is counted twice. -/
theorem nodup_alive (p : Pipelines) : p.alive.Nodup := nodup_eraseDups _

/-- The pipelines of the pair in use are there. -/
theorem has_select {pair : DefaultPipelines Handle} (hPair : p.pair = some pair)
    (mode : PolyRenderMode) : p.estate.Has .pipeline (pair.select mode) := by
  have hInUse : pair.select mode ∈ p.inUse := by
    rw [inUse, hPair, Option.toList_some, List.flatMap_singleton]
    cases mode <;> simp [DefaultPipelines.select]
  exact has_of_mem (mem_alive.mpr (.inr hInUse))

/-- What is not referred to any more goes back to the device. -/
theorem lends_update {f : Pipelines → Pipelines} (hLess : ∀ x ∈ (f p).alive, x ∈ p.alive)
    (hLends : h.gpu.Lends (p.estate + rest)) :
    (update f (p, h)).2.gpu.Lends ((update f (p, h)).1.estate + rest) := by
  have hKept : (p.alive.filter fun x => (f p).alive.contains x).Perm (f p).alive := by
    refine (List.perm_ext_iff_of_nodup (p.nodup_alive.filter _) (nodup_alive _)).mpr fun x => ?_
    rw [List.mem_filter, List.contains_iff_mem]
    exact ⟨And.right, fun hx => ⟨hLess x hx, hx⟩⟩
  have hAll := List.filter_append_perm (fun x => (f p).alive.contains x) p.alive
  have hSplit : p.estate =
      objects .pipeline (p.alive.filter fun x => !(f p).alive.contains x) + (f p).estate := by
    rw [estate, estate, ← objects_of_perm hAll, objects_append, objects_of_perm hKept, add_comm]
  rw [hSplit, add_assoc] at hLends
  exact hLends.destroyAll

/-- Emptying the registry destroys what is not in use. -/
theorem lends_drain (hLends : h.gpu.Lends (p.estate + rest)) :
    (drain (p, h)).2.gpu.Lends ((drain (p, h)).1.estate + rest) := by
  refine lends_update (fun x hx => ?_) hLends
  rcases mem_alive.mp hx with hNone | hInUse
  · cases hNone
  · exact mem_alive.mpr (.inr hInUse)

/-- All pipelines go back to the device in the end. -/
theorem lends_destroy (hLends : h.gpu.Lends (p.estate + rest)) : (destroy (p, h)).gpu.Lends rest := by
  have hNone : (alive {}) = [] := rfl
  have hUpdated := lends_update (f := fun _ => {}) (by rw [hNone]; exact List.forall_mem_nil _) hLends
  have hEstate : (update (fun _ => {}) (p, h)).1.estate = 0 := congrArg (objects .pipeline) hNone
  rwa [hEstate, zero_add] at hUpdated

/-- A pipeline that was just built is none of those there are. -/
theorem estate_insert {key : PipelineKey} (hNone : p.registry.get? key = none) {x : Handle}
    (hNew : x ∉ p.alive) :
    estate { p with registry := p.registry.insert key x } = object .pipeline x + p.estate := by
  have hPerm : (p.registry.insert key x).pipelines.Perm (x :: p.registry.pipelines) :=
    SortedMap.perm_values_insert hNone x
  have hAlive : (alive { p with registry := p.registry.insert key x }).Perm (x :: p.alive) := by
    refine (List.perm_ext_iff_of_nodup (nodup_alive _)
      (List.nodup_cons.mpr ⟨hNew, p.nodup_alive⟩)).mpr fun y => ?_
    rw [mem_alive, List.mem_cons, mem_alive, hPerm.mem_iff, List.mem_cons, or_assoc]
    exact Iff.rfl
  rw [estate, objects_of_perm hAlive, objects_cons]
  rfl

/-- What was just created is none of what was there: nobody answers for it twice. -/
theorem not_mem_alive {g : Gpu} {x : Handle} (hx : x ≠ 0)
    (hLends : g.Lends (object .pipeline x + (p.estate + rest))) : x ∉ p.alive := by
  intro hMem
  have hNodup := hLends.nodup_estate
  rw [object_of_ne hx, Multiset.singleton_add, Multiset.nodup_cons] at hNodup
  exact hNodup.1 (Multiset.mem_add.mpr (.inl (has_of_mem hMem hx)))

/-- The registry has a pipeline for one more key, or as many as before. -/
theorem ensures_getOrBuild_of_lends {b : PipelineBasis} (key : PipelineKey) (state : PipelineState)
    (hLends : h.gpu.Lends (p.estate + rest)) (hBacked : b.Backed rest) :
    (PipelineRegistry.getOrBuild key (b.build state)).Ensures (p.registry, h)
      (fun x t => t.2.gpu.Lends (estate { p with registry := t.1 } + rest) ∧ x ∈ t.1.pipelines ∧
        ∀ y ∈ p.registry.pipelines, y ∈ t.1.pipelines)
      (fun _ t => t.2.gpu.Lends (estate { p with registry := t.1 } + rest)) := by
  rw [PipelineRegistry.getOrBuild, ensures_bind, ensures_get]
  split
  · rename_i x hFound
    rw [ensures_pure]
    exact ⟨hLends, SortedMap.mem_values_of_get? hFound, fun _ hy => hy⟩
  · rename_i hNone
    rw [ensures_bind, PipelineBasis.build, ensures_onSecond]
    refine (Host.ensures_expect_of_does _ _ _ (hLends.does_create
      ((hBacked.right _).permits hLends state))).mono (fun x h₁ hMade => ?_) fun _ _ h => h
    rw [ensures_bind, ensures_change, ensures_pure]
    -- the key was not there, so the new pipeline joins those of the registry
    have hPerm : (p.registry.insert key x).pipelines.Perm (x :: p.registry.pipelines) :=
      SortedMap.perm_values_insert hNone x
    refine ⟨?_, hPerm.mem_iff.mpr List.mem_cons_self,
      fun y hy => hPerm.mem_iff.mpr (List.mem_cons_of_mem _ hy)⟩
    show h₁.gpu.Lends (estate { p with registry := p.registry.insert key x } + rest)
    rw [estate_insert hNone (not_mem_alive hMade.1 hMade.2), add_assoc]
    exact hMade.2

/-- The pair in use is replaced, and what was there for its sake alone is destroyed. -/
theorem ensures_buildPair_of_lends {b : PipelineBasis} (state : PipelineState)
    (hLends : h.gpu.Lends (p.estate + rest)) (hBacked : b.Backed rest) :
    (buildPair b state).Ensures (p, h) (fun _ t => t.2.gpu.Lends (t.1.estate + rest))
      (fun _ t => t.2.gpu.Lends (t.1.estate + rest)) := by
  rw [buildPair, ensures_bind, ensures_on, DefaultPipelines.build, ensures_bind]
  refine (ensures_getOrBuild_of_lends _ _ hLends hBacked).mono ?_ fun _ _ h => h
  rintro solid ⟨registry₁, h₁⟩ ⟨hLends₁, hSolid, -⟩
  rw [ensures_bind]
  refine (ensures_getOrBuild_of_lends (p := { p with registry := registry₁ }) _ _ hLends₁
    hBacked).mono ?_ fun _ _ h => h
  rintro wireframe ⟨registry₂, h₂⟩ ⟨hLends₂, hWireframe, hKept⟩
  rw [ensures_pure, ensures_change]
  -- all that is alive after the update was alive before it: the new pair is in the registry
  refine lends_update (p := { p with registry := registry₂ }) (fun x hx => ?_) hLends₂
  rcases mem_alive.mp hx with hRegistry | hInUse
  · exact mem_alive.mpr (.inl hRegistry)
  · refine mem_alive.mpr (.inl ?_)
    simp only [inUse, Option.toList_some, List.flatMap_singleton, List.mem_cons, List.not_mem_nil,
      or_false] at hInUse
    rcases hInUse with rfl | rfl
    · -- the second pipeline may have been built after the first, which is there still
      exact hKept _ hSolid
    · exact hWireframe

/-- Before a pair is built again, the registry is emptied. -/
theorem ensures_rebuildPair_of_lends {b : PipelineBasis} (state : PipelineState)
    (hLends : h.gpu.Lends (p.estate + rest)) (hBacked : b.Backed rest) :
    (rebuildPair b state).Ensures (p, h) (fun _ t => t.2.gpu.Lends (t.1.estate + rest))
      (fun _ t => t.2.gpu.Lends (t.1.estate + rest)) := by
  rw [rebuildPair, ensures_bind, ensures_change]
  exact ensures_buildPair_of_lends state (lends_drain hLends) hBacked

end Pipelines

end RenderLoop
