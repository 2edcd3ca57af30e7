import Mathlib.Data.List.Forall2
import RenderLoop.Proofs.Gpu.Buffers
import RenderLoop.Proofs.Gpu.Growth
import RenderLoop.Proofs.Shader.Generation

/-!
# RenderLoop — what was made for a program

Which object was made from what is in the history of a device (`GpuHistory.Made`).
By that, the modules, descriptors and pipelines that a renderer holds can be
compared with its program (`ShaderModules.MadeFor`, `Descriptors.MadeFor`,
`Pipelines.MadeFor`), and each of the operations that make them ends with those of
the program it was called for, if it returns.

Two registries are in between. A set layout that is found there was made for some
layout with the same key (`Descriptors.Known`), and a pipeline that is found was
made from the same modules, input and layout if all in the registry were
(`PipelineBasis.Stock`).
-/

namespace RenderLoop

open GpuHistory Op

/-- An object was made by a creation. -/
def GpuHistory.Made (h : GpuHistory) (c : Creation) (x : Handle) : Prop :=
  ⟨.create c, .handle x⟩ ∈ h

/-- What was made stays made as the history goes on. -/
theorem GpuHistory.Made.of_suffix {h h' : GpuHistory} {c : Creation} {x : Handle} (hMade : Made h c x)
    (hSuffix : h <:+ h') : Made h' c x :=
  hSuffix.mem hMade

/-- The entry that belongs to one in another list. -/
theorem getElem?_of_forall₂ {α β : Type} {R : α → β → Prop} {xs : List α} {ys : List β}
    (h : List.Forall₂ R xs ys) {i : Nat} {x : α} (hx : xs[i]? = some x) :
    ∃ y, ys[i]? = some y ∧ R x y := by
  obtain ⟨hi, rfl⟩ := List.getElem?_eq_some_iff.mp hx
  have hi' : i < ys.length := by
    rw [← h.length_eq]
    exact hi
  exact ⟨ys[i], List.getElem?_eq_getElem hi', h.get hi hi'⟩

-- ---------------------------------------------------------------------------
-- Calls
-- ---------------------------------------------------------------------------

namespace Gpu

variable {g g' : Gpu}

/-- A call that creates an object makes it. -/
theorem made_of_create {c : Creation} {x : Handle} (h : create c g = (.ok x, g')) :
    Made g'.history c x := by
  obtain ⟨rfl, rfl⟩ := attempt_ok h
  exact List.mem_cons_self

/-- An allocation gives one set for each layout, and the history has both. -/
theorem allocateSets_ok {pool : Handle} {layouts sets : List Handle}
    (h : allocateSets pool layouts g = (.ok sets, g')) :
    sets.length = layouts.length ∧ ⟨.allocateSets pool layouts, .handles sets⟩ ∈ g'.history := by
  obtain ⟨rfl, rfl⟩ := attempt_ok h
  exact ⟨List.length_range', List.mem_cons_self⟩

end Gpu

namespace Host

variable {α : Type} {s : Host}

/-- An object that was asked for was made, and the history has grown by that. -/
theorem ensures_expectObject (source noticed told : String) (c : Creation) :
    (Host.expect source noticed told (Gpu.create c)).Ensures s
      (fun x t => Made t.gpu.history c x ∧ Growing s t) (fun _ t => Growing s t) := by
  have hMade : (Host.expect source noticed told (Gpu.create c)).Ensures s
      (fun x t => Made t.gpu.history c x) (fun _ _ => True) := by
    rw [Host.expect, ensures_bind, Host.call, ensures_act]
    cases hStep : Gpu.create c s.gpu with
    | mk r g =>
      cases r with
      | ok x =>
        rw [ensures_pure]
        exact Gpu.made_of_create hStep
      | error code =>
        rw [ensures_failWith]
        exact trivial
  exact (hMade.and (within_expect _ _ _ (Gpu.grows_create c) s)).mono (fun _ _ h => h)
    fun _ _ h => h.2

end Host

-- ---------------------------------------------------------------------------
-- Modules
-- ---------------------------------------------------------------------------

namespace ShaderModules

/-- There is one module for each stage, made from its code. -/
def Cover (stages : List (ShaderStage × ShaderCode)) (h : GpuHistory)
    (modules : List (ShaderStage × Handle)) : Prop :=
  List.Forall₂ (fun s m => m.1 = s.1 ∧ Made h (.shaderModule s.2) m.2) stages modules

/-- The modules are those of the program as it is. -/
structure MadeFor (p : Program) (h : GpuHistory) (m : ShaderModules) : Prop where
  generation : m.generation = p.generation
  cover : Cover p.code.entries h m.modules

variable {stages done : List (ShaderStage × ShaderCode)} {h h' : GpuHistory} {p p' : Program}

/-- Modules cover their stages for good. -/
theorem Cover.of_suffix {modules : List (ShaderStage × Handle)} (hCover : Cover stages h modules)
    (hSuffix : h <:+ h') : Cover stages h' modules :=
  hCover.imp fun _ _ hMade => ⟨hMade.1, hMade.2.of_suffix hSuffix⟩

/-- Modules were made for a program for good, as long as it is the same. -/
theorem MadeFor.of_suffix {m : ShaderModules} (hMade : m.MadeFor p h) (hSuffix : h <:+ h') :
    m.MadeFor p h' :=
  ⟨hMade.generation, hMade.cover.of_suffix hSuffix⟩

/-- For modules, programs that differ only in the hashes of their files are the same. -/
theorem MadeFor.congr {m : ShaderModules} (hMade : m.MadeFor p h) (hSame : p.SameButHashes p') :
    m.MadeFor p' h := by
  rw [hSame]
  exact ⟨hMade.generation, hMade.cover⟩

/-- New modules come after those that were made before. -/
theorem ensures_build {s : ShaderModules × Host}
    (hDone : Cover done s.2.gpu.history s.1.modules) :
    (build stages).Ensures s
      (fun _ t => t.1.generation = s.1.generation ∧
        Cover (done ++ stages) t.2.gpu.history t.1.modules)
      (fun _ t => t.1.generation = s.1.generation) := by
  induction stages generalizing done s with
  | nil =>
    rw [build, ensures_pure, List.append_nil]
    exact ⟨rfl, hDone⟩
  | cons stage rest ih =>
    obtain ⟨stage, code⟩ := stage
    rw [build, ensures_bind, Op.onHost, ensures_onSecond]
    refine (Host.ensures_expectObject _ _ _ _).mono ?_ fun _ _ _ => rfl
    rintro x h₁ ⟨hMade, hGrowing⟩
    rw [ensures_bind, ensures_change]
    -- the new module covers the next stage
    have hNext : Cover (done ++ [(stage, code)]) h₁.gpu.history (s.1.modules ++ [(stage, x)]) :=
      List.rel_append (hDone.of_suffix hGrowing.history) (.cons ⟨rfl, hMade⟩ .nil)
    have hRest := ih (s := ({ s.1 with modules := s.1.modules ++ [(stage, x)] }, h₁)) hNext
    rwa [List.append_assoc] at hRest

/-- A program that has no modules yet gets its own. -/
theorem ensures_create (p : Program) {s : ShaderModules × Host} (hNone : s.1.modules = []) :
    (create p).Ensures s (fun _ t => t.1.MadeFor p t.2.gpu.history) (fun _ _ => True) := by
  rw [create, ensures_bind, ensures_change]
  have hNew : Cover [] s.2.gpu.history s.1.modules := by
    rw [hNone]
    exact .nil
  refine (ensures_build (s := ({ s.1 with generation := p.generation }, s.2)) hNew).mono ?_
    fun _ _ _ => trivial
  rintro - t ⟨hGeneration, hCover⟩
  exact ⟨hGeneration, hCover⟩

/-- A program that has moved on gets its modules. Until all are there, they count as the old ones. -/
theorem ensures_sync {s : ShaderModules × Host} (hBehind : s.1.generation ≠ p.generation) :
    (sync p).Ensures s (fun _ t => t.1.MadeFor p t.2.gpu.history)
      (fun _ t => t.1.generation = s.1.generation) := by
  rw [sync, ensures_bind, ensures_get]
  dsimp only
  rw [if_pos hBehind, ensures_bind, ensures_change, ensures_bind]
  have hNone : Cover [] (drop s).2.gpu.history (drop s).1.modules := .nil
  refine (ensures_build hNone).mono ?_ fun _ _ h => h
  rintro - t ⟨-, hCover⟩
  rw [ensures_bind, ensures_change, ensures_log]
  exact ⟨rfl, hCover⟩

end ShaderModules

-- ---------------------------------------------------------------------------
-- Descriptors
-- ---------------------------------------------------------------------------

namespace Descriptors

/-- An object for a set layout: it was made for a layout with the same key. -/
def LayoutObject (h : GpuHistory) (layout : SetLayout) (x : Handle) : Prop :=
  ∃ made : SetLayout, made.key = layout.key ∧ Made h (.setLayout made) x

/-- The descriptor sets are those of layouts, and refer to a region. -/
structure SetsFor (layouts : List SetLayout) (region : BufferRegion) (h : GpuHistory)
    (d : Descriptors) : Prop where
  length_eq : d.sets.length = layouts.length
  pool : ∃ maxSets sizes, Made h (.descriptorPool maxSets sizes) d.pool
  allocated : ⟨.allocateSets d.pool d.layouts, .handles d.sets⟩ ∈ h
  written : ⟨.updateSets (writes layouts d.sets region), .done⟩ ∈ h

/-- The descriptors are those of the program as it is. -/
structure MadeFor (p : Program) (region : BufferRegion) (h : GpuHistory) (d : Descriptors) :
    Prop where
  layouts : List.Forall₂ (LayoutObject h) p.layouts d.layouts
  pipelineLayout : Made h (.pipelineLayout d.layouts) d.pipelineLayout
  dynamicSlots : d.dynamicSlots = slots p.layouts
  /-- A program without uniform blocks has no sets. -/
  sets : if p.layouts.isEmpty then d.sets = [] else d.SetsFor p.layouts region h

/-- Every object in the registry was made for a layout with its key. -/
def Known (s : Descriptors × Host) : Prop :=
  ∀ key x, s.1.registry.get? key = some x →
    ∃ made : SetLayout, made.key = key ∧ Made s.2.gpu.history (.setLayout made) x

variable {h h' : GpuHistory} {p p' : Program} {region : BufferRegion} {s : Descriptors × Host}

/-- An object stands for its layout for good. -/
theorem LayoutObject.of_suffix {layout : SetLayout} {x : Handle} (hObject : LayoutObject h layout x)
    (hSuffix : h <:+ h') : LayoutObject h' layout x := by
  obtain ⟨made, hKey, hMade⟩ := hObject
  exact ⟨made, hKey, hMade.of_suffix hSuffix⟩

/-- Sets stand for their layouts for good. -/
theorem SetsFor.of_suffix {layouts : List SetLayout} {d : Descriptors}
    (hSets : d.SetsFor layouts region h) (hSuffix : h <:+ h') : d.SetsFor layouts region h' := by
  obtain ⟨maxSets, sizes, hPool⟩ := hSets.pool
  exact ⟨hSets.length_eq, ⟨maxSets, sizes, hPool.of_suffix hSuffix⟩, hSuffix.mem hSets.allocated,
    hSuffix.mem hSets.written⟩

/-- Descriptors were made for a program for good, as long as it is the same. -/
theorem MadeFor.of_suffix {d : Descriptors} (hMade : d.MadeFor p region h) (hSuffix : h <:+ h') :
    d.MadeFor p region h' := by
  refine ⟨hMade.layouts.imp fun _ _ hObject => hObject.of_suffix hSuffix,
    hMade.pipelineLayout.of_suffix hSuffix, hMade.dynamicSlots, ?_⟩
  -- sets that were made for the layouts, or none
  have hSets := hMade.sets
  split
  · rwa [if_pos ‹_›] at hSets
  · rw [if_neg ‹_›] at hSets
    exact hSets.of_suffix hSuffix

/-- For descriptors, programs that differ only in the hashes of their files are the same. -/
theorem MadeFor.congr {d : Descriptors} (hMade : d.MadeFor p region h)
    (hSame : p.SameButHashes p') : d.MadeFor p' region h := by
  rw [hSame]
  exact ⟨hMade.layouts, hMade.pipelineLayout, hMade.dynamicSlots, hMade.sets⟩

/-- What is known of the registry stays known as long as there is nothing new in it. -/
theorem Known.of_suffix {t : Descriptors × Host} (hKnown : Known s)
    (hRegistry : t.1.registry = s.1.registry) (hSuffix : s.2.gpu.history <:+ t.2.gpu.history) :
    Known t := by
  intro key x hx
  rw [hRegistry] at hx
  obtain ⟨made, hKey, hMade⟩ := hKnown key x hx
  exact ⟨made, hKey, hMade.of_suffix hSuffix⟩

/-- Finding or making the object of a layout changes nothing but the registry. -/
theorem ensures_layoutObject (layout : SetLayout) (hKnown : Known s) :
    (layoutObject layout).Ensures s
      (fun x t => Known t ∧ t.1.sets = s.1.sets ∧ LayoutObject t.2.gpu.history layout x)
      (fun _ t => Known t) := by
  rw [layoutObject, ensures_on, LayoutRegistry.getOrCreate, ensures_bind, ensures_get]
  split
  · rename_i x hx
    rw [ensures_pure]
    exact ⟨hKnown, rfl, hKnown layout.key x hx⟩
  · rw [ensures_bind, createLayout, ensures_onSecond]
    refine (Host.ensures_expectObject _ _ _ _).mono ?_ fun _ _ h => hKnown.of_suffix rfl h.history
    rintro x h₁ ⟨hMade, hGrowing⟩
    rw [ensures_bind, ensures_log, ensures_bind, ensures_change, ensures_pure]
    refine ⟨?_, rfl, layout, rfl, hMade⟩
    -- a key in the registry is that of the new object, or was there before
    intro key y hy
    dsimp only at hy
    rw [LayoutRegistry.get?_record] at hy
    split at hy
    · rename_i hKey
      obtain rfl : key = layout.key := Std.LawfulEqOrd.eq_of_compare hKey
      cases hy
      exact ⟨layout, rfl, hMade⟩
    · obtain ⟨made, hKey, hOld⟩ := hKnown key y hy
      exact ⟨made, hKey, hOld.of_suffix hGrowing.history⟩

/-- The layouts get their objects in order. -/
theorem ensures_layoutObjects (layouts : List SetLayout) (hKnown : Known s) :
    (layoutObjects layouts).Ensures s
      (fun xs t => Known t ∧ t.1.sets = s.1.sets ∧
        List.Forall₂ (LayoutObject t.2.gpu.history) layouts xs)
      (fun _ t => Known t) := by
  induction layouts generalizing s with
  | nil =>
    rw [layoutObjects, ensures_pure]
    exact ⟨hKnown, rfl, .nil⟩
  | cons layout rest ih =>
    rw [layoutObjects, ensures_bind]
    refine (ensures_layoutObject layout hKnown).mono ?_ fun _ _ h => h
    rintro x s₁ ⟨hKnown₁, hSets₁, hObject⟩
    rw [ensures_bind]
    refine ((ih hKnown₁).and (within_layoutObjects (R := Gpu.Grows) rest s₁)).mono ?_ fun _ _ h => h.1
    rintro xs s₂ ⟨⟨hKnown₂, hSets₂, hObjects⟩, hGrowing⟩
    rw [ensures_pure]
    exact ⟨hKnown₂, hSets₂.trans hSets₁, .cons (hObject.of_suffix hGrowing.history) hObjects⟩

/-- What sets are made from stays. -/
structure SameLayouts (d d' : Descriptors) : Prop where
  registry : d'.registry = d.registry
  layouts : d'.layouts = d.layouts
  pipelineLayout : d'.pipelineLayout = d.pipelineLayout
  dynamicSlots : d'.dynamicSlots = d.dynamicSlots

/-- Layouts stay over several steps. -/
theorem SameLayouts.trans {d d' d'' : Descriptors} (h : SameLayouts d d') (h' : SameLayouts d' d'') :
    SameLayouts d d'' where
  registry := h'.registry.trans h.registry
  layouts := h'.layouts.trans h.layouts
  pipelineLayout := h'.pipelineLayout.trans h.pipelineLayout
  dynamicSlots := h'.dynamicSlots.trans h.dynamicSlots

/-- A new pool was made, and the layouts stay. -/
theorem ensures_createPool (p : Program) :
    (createPool p).Ensures s
      (fun _ t => SameLayouts s.1 t.1 ∧
        ∃ maxSets sizes, Made t.2.gpu.history (.descriptorPool maxSets sizes) t.1.pool)
      (fun _ t => t.1 = s.1) := by
  rw [createPool, ensures_bind, ensures_ofOption]
  intro sizes _
  rw [ensures_bind, Op.onHost, ensures_onSecond]
  refine (ensures_true _ s.2).mono (fun _ h₁ _ => ?_) fun _ _ _ => rfl
  rw [ensures_bind, Op.onHost, ensures_onSecond]
  refine Host.ensures_invoke _ _ ?_ fun _ _ _ _ _ _ => rfl
  intro pool g hCreate
  rw [ensures_change]
  exact ⟨⟨rfl, rfl, rfl, rfl⟩, _, _, Gpu.made_of_create hCreate⟩

/-- The sets were allocated for the layouts there are, and written to. -/
theorem ensures_allocateSets (layouts : List SetLayout) (region : BufferRegion) :
    (allocateSets layouts region).Ensures s
      (fun _ t => SameLayouts s.1 t.1 ∧ t.1.pool = s.1.pool ∧
        t.1.sets.length = s.1.layouts.length ∧
        ⟨.allocateSets s.1.pool s.1.layouts, .handles t.1.sets⟩ ∈ t.2.gpu.history ∧
        ⟨.updateSets (writes layouts t.1.sets region), .done⟩ ∈ t.2.gpu.history)
      (fun _ t => t.1 = s.1) := by
  rw [allocateSets, ensures_bind, ensures_get, ensures_bind, Op.onHost, ensures_onSecond]
  refine Host.ensures_invoke _ _ ?_ fun _ _ _ _ _ _ => rfl
  intro sets g hAllocate
  obtain ⟨hLength, hAllocated⟩ := Gpu.allocateSets_ok hAllocate
  rw [ensures_change]
  exact ⟨⟨rfl, rfl, rfl, rfl⟩, rfl, hLength, List.mem_cons_of_mem _ hAllocated, List.mem_cons_self⟩

/-- A program with uniform blocks gets its sets; any other gets none. -/
theorem ensures_buildSets (p : Program) (region : BufferRegion)
    (hLayouts : s.1.layouts.length = p.layouts.length) (hNone : s.1.sets = []) :
    (buildSets p region).Ensures s
      (fun _ t => SameLayouts s.1 t.1 ∧
        if p.layouts.isEmpty then t.1.sets = [] else t.1.SetsFor p.layouts region t.2.gpu.history)
      (fun _ t => t.1.registry = s.1.registry) := by
  rw [buildSets]
  split
  · rw [ensures_log]
    exact ⟨⟨rfl, rfl, rfl, rfl⟩, hNone⟩
  · rw [ensures_bind]
    refine (ensures_createPool p).mono ?_ fun _ _ h => congrArg registry h
    rintro - s₁ ⟨hSame₁, maxSets, sizes, hPool⟩
    rw [ensures_bind]
    refine ((ensures_allocateSets p.layouts region).and
      (within_allocateSets (R := Gpu.Grows) p.layouts region s₁)).mono ?_
      fun _ _ h => (congrArg registry h.1).trans hSame₁.registry
    -- the sets are allocated from this pool and written while nothing else is touched
    rintro - s₂ ⟨⟨hSame₂, hSamePool, hLength, hAllocated, hWritten⟩, hGrowing⟩
    rw [ensures_bind, ensures_get, ensures_log]
    refine ⟨hSame₁.trans hSame₂, ?_, ⟨maxSets, sizes, ?_⟩, ?_, hWritten⟩
    · exact hLength.trans ((congrArg List.length hSame₁.layouts).trans hLayouts)
    · show Made s₂.2.gpu.history _ s₂.1.pool
      rw [hSamePool]
      exact hPool.of_suffix hGrowing.history
    · show ⟨.allocateSets s₂.1.pool s₂.1.layouts, _⟩ ∈ s₂.2.gpu.history
      rw [hSamePool, hSame₂.layouts]
      exact hAllocated

/-- A program that has no sets yet gets its descriptors. -/
theorem ensures_build (p : Program) (region : BufferRegion) (hKnown : Known s)
    (hNone : s.1.sets = []) :
    (build p region).Ensures s
      (fun _ t => Known t ∧ t.1.MadeFor p region t.2.gpu.history) (fun _ t => Known t) := by
  rw [build, ensures_bind]
  refine (ensures_layoutObjects p.layouts hKnown).mono ?_ fun _ _ h => h
  rintro xs ⟨d₁, h₁⟩ ⟨hKnown₁, hSets₁, hObjects⟩
  rw [ensures_bind, ensures_change, ensures_bind, createPipelineLayout, Op.onHost, ensures_onSecond]
  refine (Host.ensures_expectObject _ _ _ _).mono ?_ fun _ _ h => hKnown₁.of_suffix rfl h.history
  rintro x h₂ ⟨hMade, hGrowing₂⟩
  rw [ensures_bind, ensures_change]
  let s₂ : Descriptors × Host :=
    ({ d₁ with layouts := xs, pipelineLayout := x, dynamicSlots := slots p.layouts }, h₂)
  -- the registry is left alone from here on
  have hKnown₂ : Known s₂ := hKnown₁.of_suffix rfl hGrowing₂.history
  have hSets := ensures_buildSets (s := s₂) p region hObjects.length_eq.symm (hSets₁.trans hNone)
  refine (hSets.and (within_buildSets (R := Gpu.Grows) p region s₂)).mono ?_
    fun _ _ h => hKnown₂.of_suffix h.1 h.2.history
  rintro - s₃ ⟨⟨hSame, hSets⟩, hGrowing₃⟩
  have hGrown := hGrowing₂.trans hGrowing₃
  refine ⟨hKnown₂.of_suffix hSame.registry hGrowing₃.history, ?_, ?_, hSame.dynamicSlots, hSets⟩
  · rw [hSame.layouts]
    exact hObjects.imp fun _ _ hObject => hObject.of_suffix hGrown.history
  · rw [hSame.layouts, hSame.pipelineLayout]
    exact hMade.of_suffix hGrowing₃.history

/-- A program gets its descriptors in exchange for those there were. -/
theorem ensures_rebuild (p : Program) (region : BufferRegion) (hKnown : Known s) :
    (rebuild p region).Ensures s
      (fun _ t => Known t ∧ t.1.MadeFor p region t.2.gpu.history) (fun _ t => Known t) := by
  rw [rebuild, ensures_bind, ensures_change]
  refine ensures_build p region (hKnown.of_suffix rfl ?_) rfl
  have hDropped : s.2.gpu.Grows (drop s).2.gpu :=
    .trans (Gpu.unsized_destroyIfAny _ _ s.2.gpu) (Gpu.unsized_destroyIfAny _ _ _)
  exact hDropped.history

end Descriptors

-- ---------------------------------------------------------------------------
-- Pipelines
-- ---------------------------------------------------------------------------

namespace PipelineBasis

/-- A pipeline was made from the modules, the input and the layout of a basis. -/
def Made (b : PipelineBasis) (h : GpuHistory) (x : Handle) : Prop :=
  ∃ r : PipelineRequest, GpuHistory.Made h (.pipeline r) x ∧
    r.modules = b.modules ∧ r.input = b.input ∧ r.layout = b.layout

/-- Every pipeline in a registry was made from a basis. -/
def Stock (b : PipelineBasis) (h : GpuHistory) (registry : PipelineRegistry Handle) : Prop :=
  ∀ key x, registry.get? key = some x → b.Made h x

variable {b b' : PipelineBasis} {h h' : GpuHistory} {registry : PipelineRegistry Handle} {x : Handle}

/-- The cache, the pass and the generations do not count. -/
theorem Made.congr (hMade : b.Made h x) (hModules : b'.modules = b.modules)
    (hInput : b'.input = b.input) (hLayout : b'.layout = b.layout) : b'.Made h x := by
  rw [Made, hModules, hInput, hLayout]
  exact hMade

/-- A pipeline was made from a basis for good. -/
theorem Made.of_suffix (hMade : b.Made h x) (hSuffix : h <:+ h') : b.Made h' x := by
  obtain ⟨r, hCreated, hRequest⟩ := hMade
  exact ⟨r, hCreated.of_suffix hSuffix, hRequest⟩

/-- Every pipeline in a registry was made from a basis for good. -/
theorem Stock.of_suffix (hStock : b.Stock h registry) (hSuffix : h <:+ h') : b.Stock h' registry := by
  intro key x hx
  exact (hStock key x hx).of_suffix hSuffix

/-- A pipeline that is asked for was made from the basis, whether it was there or not. -/
theorem ensures_getOrBuild (key : PipelineKey) (state : PipelineState)
    {s : PipelineRegistry Handle × Host} (hStock : b.Stock s.2.gpu.history s.1) :
    (PipelineRegistry.getOrBuild key (b.build state)).Ensures s
      (fun x t => b.Stock t.2.gpu.history t.1 ∧ b.Made t.2.gpu.history x ∧ Growing s t)
      (fun _ t => b.Stock t.2.gpu.history t.1) := by
  rw [PipelineRegistry.getOrBuild, ensures_bind, ensures_get]
  split
  · rename_i x hx
    rw [ensures_pure]
    exact ⟨hStock, hStock key x hx, Steady.refl s⟩
  · rw [ensures_bind, ensures_onSecond, build]
    refine (Host.ensures_expectObject _ _ _ _).mono ?_ fun _ _ h => hStock.of_suffix h.history
    rintro x h₁ ⟨hCreated, hGrowing⟩
    have hMade : b.Made h₁.gpu.history x := ⟨_, hCreated, rfl, rfl, rfl⟩
    rw [ensures_bind, ensures_change, ensures_pure]
    -- under a key there is the new pipeline, or what was there before
    refine ⟨fun key' y hy => ?_, hMade, hGrowing⟩
    dsimp only at hy
    rw [PipelineRegistry.get?_insert] at hy
    split at hy
    · cases hy
      exact hMade
    · exact (hStock key' y hy).of_suffix hGrowing.history

end PipelineBasis

namespace Pipelines

/-- All pipelines there are were made from a basis, and so was the pair in use. -/
structure MadeFor (b : PipelineBasis) (h : GpuHistory) (p : Pipelines) : Prop where
  stock : b.Stock h p.registry
  pair : ∃ d, p.pair = some d ∧ b.Made h d.solid ∧ b.Made h d.wireframe

variable {b b' : PipelineBasis} {h h' : GpuHistory} {s : Pipelines × Host}

/-- Pipelines were made from a basis for good. -/
theorem MadeFor.of_suffix {p : Pipelines} (hMade : p.MadeFor b h) (hSuffix : h <:+ h') :
    p.MadeFor b h' := by
  obtain ⟨d, hPair, hSolid, hWireframe⟩ := hMade.pair
  exact ⟨hMade.stock.of_suffix hSuffix, d, hPair, hSolid.of_suffix hSuffix,
    hWireframe.of_suffix hSuffix⟩

/-- Only modules, input and layout of the basis matter. -/
theorem MadeFor.congr {p : Pipelines} (hMade : p.MadeFor b h) (hModules : b'.modules = b.modules)
    (hInput : b'.input = b.input) (hLayout : b'.layout = b.layout) : p.MadeFor b' h := by
  obtain ⟨d, hPair, hSolid, hWireframe⟩ := hMade.pair
  exact ⟨fun key x hx => (hMade.stock key x hx).congr hModules hInput hLayout, d, hPair,
    hSolid.congr hModules hInput hLayout, hWireframe.congr hModules hInput hLayout⟩

/-- The pair in use stays as it was made. -/
theorem MadeFor.kept {t : Pipelines × Host} (hMade : s.1.MadeFor b s.2.gpu.history)
    (hStock : b.Stock t.2.gpu.history t.1.registry) (hPair : t.1.pair = s.1.pair)
    (hGrowing : Growing s t) : t.1.MadeFor b t.2.gpu.history := by
  obtain ⟨d, hOld, hSolid, hWireframe⟩ := hMade.pair
  exact ⟨hStock, d, hPair.trans hOld, hSolid.of_suffix hGrowing.history,
    hWireframe.of_suffix hGrowing.history⟩

/-- A pair is taken into use when both of it are there. -/
theorem ensures_buildPair (b : PipelineBasis) (state : PipelineState)
    (hStock : b.Stock s.2.gpu.history s.1.registry) :
    (buildPair b state).Ensures s (fun _ t => t.1.MadeFor b t.2.gpu.history)
      (fun _ t => b.Stock t.2.gpu.history t.1.registry ∧ t.1.pair = s.1.pair) := by
  rw [buildPair, ensures_bind, ensures_on, DefaultPipelines.build, ensures_bind]
  refine (PipelineBasis.ensures_getOrBuild _ _ hStock).mono ?_ fun _ _ h => ⟨h, rfl⟩
  rintro solid s₁ ⟨hStock₁, hSolid, -⟩
  rw [ensures_bind]
  refine (PipelineBasis.ensures_getOrBuild _ _ hStock₁).mono ?_ fun _ _ h => ⟨h, rfl⟩
  rintro wireframe s₂ ⟨hStock₂, hWireframe, hGrowing⟩
  rw [ensures_pure, ensures_change]
  -- taking the pair into use destroys pipelines, and makes none
  have hDestroyed : s₂.2.gpu.history <:+
      (adopt ⟨solid, wireframe⟩ ({ s.1 with registry := s₂.1 }, s₂.2)).2.gpu.history :=
    (Gpu.unsized_destroyAll (R := Gpu.Grows) _ _ s₂.2.gpu).history
  exact ⟨hStock₂.of_suffix hDestroyed, _, rfl,
    (hSolid.of_suffix hGrowing.history).of_suffix hDestroyed, hWireframe.of_suffix hDestroyed⟩

/-- Whatever was in the registry, a pair that is built anew was made from its basis. -/
theorem ensures_rebuildPair (b : PipelineBasis) (state : PipelineState) :
    (rebuildPair b state).Ensures s (fun _ t => t.1.MadeFor b t.2.gpu.history)
      (fun _ t => b.Stock t.2.gpu.history t.1.registry ∧ t.1.pair = s.1.pair) := by
  rw [rebuildPair, ensures_bind, ensures_change]
  exact ensures_buildPair b state nofun

end Pipelines

end RenderLoop
