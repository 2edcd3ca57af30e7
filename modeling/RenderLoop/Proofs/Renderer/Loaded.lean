import RenderLoop.Proofs.Descriptor.DynamicSlots
import RenderLoop.Proofs.Renderer.FailedSetup
import RenderLoop.Proofs.Renderer.Room

/-!
# RenderLoop — programs that are loaded

The program of a renderer is **loaded** by the creation of the renderer, and by every
reload that returns and has made everything again; it stays so until a reload fails
(`Renderer.Loaded`). What may have failed before does not matter to that.

The renderer is **equipped** for such a program (`Renderer.equipped_of_loaded`): its
descriptors are those of the program, and they see as much of the frame buffer as the
largest block takes.
-/

namespace RenderLoop.Renderer

open GpuHistory Op

variable {s t : Renderer × Host} {c : Request}

-- ---------------------------------------------------------------------------
-- Descriptors of a program
-- ---------------------------------------------------------------------------

/-- The renderer has the descriptors of its program, and they see enough of the frame buffer. -/
structure Equipped (s : Renderer × Host) : Prop where
  derived : s.1.program.Derived
  range : s.1.memory.range = max (uniformRange s.1.program) (UInt64.ofNat Matrices.size)
  descriptors : s.1.descriptors.MadeFor s.1.program s.1.memory.region s.2.gpu.history

/-- The program and its descriptors stay, and so does what these see. -/
structure KeepsSets (s t : Renderer × Host) : Prop where
  program : s.1.program.SameButHashes t.1.program
  descriptors : t.1.descriptors = s.1.descriptors
  region : t.1.memory.region = s.1.memory.region
  history : s.2.gpu.history <:+ t.2.gpu.history

instance : Steady KeepsSets where
  refl _ := ⟨.refl _, rfl, rfl, List.suffix_refl _⟩
  trans h h' := ⟨h.program.trans h'.program, h'.descriptors.trans h.descriptors,
    h'.region.trans h.region, h.history.trans h'.history⟩
  push _ _ := ⟨.refl _, rfl, rfl, List.suffix_refl _⟩

theorem KeepsStep.keepsSets (h : KeepsStep s t) : KeepsSets s t where
  program := h.program
  descriptors := h.descriptors
  region := h.region
  history := h.history

theorem KeepsSets.known (h : KeepsSets s t) (hKnown : Descriptors.Known (s.1.descriptors, s.2)) :
    Descriptors.Known (t.1.descriptors, t.2) :=
  hKnown.of_suffix (congrArg Descriptors.registry h.descriptors) h.history

theorem Equipped.kept (h : Equipped s) (hKeeps : KeepsSets s t) : Equipped t := by
  have hRange : t.1.memory.range = s.1.memory.range := congrArg BufferRegion.range hKeeps.region
  refine ⟨h.derived.congr hKeeps.program, ?_, ?_⟩
  · rw [hRange, h.range, hKeeps.program]
    rfl
  · rw [hKeeps.descriptors, hKeeps.region]
    exact (h.descriptors.of_suffix hKeeps.history).congr hKeeps.program

-- ---------------------------------------------------------------------------
-- Making what the device needs
-- ---------------------------------------------------------------------------

/-- Makes what the device needs to run the program, in one way or another. -/
def equip (modules : Program → Op (ShaderModules × Host) Unit)
    (descriptors : Program → BufferRegion → Op (Descriptors × Host) Unit) (pair : Action Unit) :
    Action Unit := do
  let program := (← get).1.program
  onModules (modules program)
  onDescriptors (descriptors program (← get).1.memory.region)
  pair

/-- With the descriptors of its program, the renderer is equipped. -/
theorem ensures_equip {modules : Program → Op (ShaderModules × Host) Unit}
    {descriptors : Program → BufferRegion → Op (Descriptors × Host) Unit} {pair : Action Unit}
    (hDerived : s.1.program.Derived)
    (hRange : s.1.memory.range = max (uniformRange s.1.program) (UInt64.ofNat Matrices.size))
    (hKnown : Descriptors.Known (s.1.descriptors, s.2))
    (hModules : ∀ p, (modules p).Within Growing)
    (hDescriptors : ∀ p region h, Descriptors.Known (s.1.descriptors, h) →
      (descriptors p region).Ensures (s.1.descriptors, h)
        (fun _ t => Descriptors.Known t ∧ t.1.MadeFor p region t.2.gpu.history)
        (fun _ t => Descriptors.Known t))
    (hPair : pair.Within KeepsStep) :
    (equip modules descriptors pair).Ensures s
      (fun _ t => Descriptors.Known (t.1.descriptors, t.2) ∧ Equipped t)
      (fun _ t => Descriptors.Known (t.1.descriptors, t.2)) := by
  rw [equip, ensures_bind, ensures_get, ensures_bind, onModules, ensures_on]
  refine (hModules _ _).mono ?_ fun _ t hGrowing => hKnown.of_suffix rfl hGrowing.history
  rintro - ⟨m, h₁⟩ hGrowing
  rw [ensures_bind, ensures_get, ensures_bind, onDescriptors, ensures_on]
  refine (hDescriptors _ _ h₁ (hKnown.of_suffix rfl hGrowing.history)).mono ?_ fun _ _ h => h
  rintro - ⟨d, h₂⟩ ⟨hKnown', hMade⟩
  have hEquipped : Equipped ({ s.1 with modules := m, descriptors := d }, h₂) :=
    ⟨hDerived, hRange, hMade⟩
  exact (hPair _).mono (fun _ _ h => ⟨h.keepsSets.known hKnown', hEquipped.kept h.keepsSets⟩)
    fun _ _ h => h.keepsSets.known hKnown'

/-- At the creation the program's objects are made. -/
theorem makeProgram_eq_equip :
    makeProgram = equip ShaderModules.create Descriptors.build buildPipelines := rfl

/-- After a reload they are made again, on an idle device and with the range of the new program. -/
theorem remakeProgram_eq_equip : remakeProgram = (do
    GpuContext.waitIdle.onHost
    set fun r => { r with memory := r.memory.withRange (uniformRange r.program) }
    equip ShaderModules.sync Descriptors.rebuild rebuildPipelines) := rfl

/-- Whatever there was before, making everything again equips the renderer. -/
theorem ensures_remakeProgram_equipped (hDerived : s.1.program.Derived)
    (hKnown : Descriptors.Known (s.1.descriptors, s.2)) :
    remakeProgram.Ensures s (fun _ t => Descriptors.Known (t.1.descriptors, t.2) ∧ Equipped t)
      (fun _ t => Descriptors.Known (t.1.descriptors, t.2)) := by
  rw [remakeProgram_eq_equip, ensures_bind, Op.onHost, ensures_onSecond]
  refine (GpuContext.within_waitIdle (R := Gpu.Grows) s.2).mono ?_
    fun _ _ h => hKnown.of_suffix rfl h.history
  intro _ h₁ hGrowing
  rw [ensures_bind, set, ensures_change]
  exact ensures_equip hDerived rfl (hKnown.of_suffix rfl hGrowing.history)
    (fun p => ShaderModules.within_sync p)
    (fun p region _ hKnown' => Descriptors.ensures_rebuild p region hKnown')
    keepsStep_rebuildPipelines

-- ---------------------------------------------------------------------------
-- New renderers
-- ---------------------------------------------------------------------------

theorem ensures_onCompile_derived (s : Renderer × Host) :
    (onProgram (Program.compile tools)).Ensures s
      (fun report t => ∃ p h, t = ({ s.1 with program := p }, h) ∧ h.gpu = s.2.gpu ∧
        if report.rebuilt then p.Derived else s.1.program.SameButHashes p)
      (fun _ t => t.1 = s.1 ∧ t.2.gpu = s.2.gpu) :=
  ensures_onCompile (Program.ensures_compile_derived s.1.program s.2)

/-- Loading the program of a new renderer sets what its descriptors are going to see. -/
theorem ensures_loadProgram (hDerived : s.1.program.Derived) :
    loadProgram.Ensures s
      (fun _ t => t.1.program.Derived ∧ t.1.descriptors = s.1.descriptors ∧
        t.1.memory.range = max (uniformRange t.1.program) (UInt64.ofNat Matrices.size))
      (fun _ _ => True) := by
  rw [loadProgram, ensures_bind]
  refine (ensures_onCompile_derived s).mono ?_
    fun _ _ _ => trivial
  rintro report _ ⟨p, h₁, rfl, -, hProgram⟩
  have hDerived' : p.Derived := by
    split at hProgram
    · exact hProgram
    · exact hDerived.congr hProgram
  rw [ensures_bind, ensures_get]
  refine ensures_ite (fun _ => ?_) fun _ => ?_
  · rw [ensures_bind, ensures_throw]
    exact trivial
  · rw [set, ensures_change]
    exact ⟨hDerived', rfl, rfl⟩

/-- With a derived program and no sets so far, the sets made are known and the renderer is
equipped. -/
theorem ensures_makeProgram_equipped (hDerived : s.1.program.Derived)
    (hNone : s.1.descriptors = {})
    (hRange : s.1.memory.range = max (uniformRange s.1.program) (UInt64.ofNat Matrices.size)) :
    makeProgram.Ensures s (fun _ t => Descriptors.Known (t.1.descriptors, t.2) ∧ Equipped t)
      (fun _ t => Descriptors.Known (t.1.descriptors, t.2)) := by
  have hKnown : Descriptors.Known (s.1.descriptors, s.2) := by
    rw [hNone]
    exact nofun
  have hNoSets : s.1.descriptors.sets = [] := by rw [hNone]
  rw [makeProgram_eq_equip]
  exact ensures_equip hDerived hRange hKnown (fun p => ShaderModules.within_create p)
    (fun p region h hKnown' => Descriptors.ensures_build (s := (s.1.descriptors, h)) p region hKnown'
      hNoSets)
    keepsStep_buildPipelines

/-- What is made before the program is loaded has nothing to do with programs. -/
theorem ensures_makeParts_equipped (config : RendererConfig) (probe : SurfaceProbe)
    (hDerived : s.1.program.Derived) (hNone : s.1.descriptors = {}) :
    (makeParts config probe).Ensures s
      (fun _ t => Descriptors.Known (t.1.descriptors, t.2) ∧ Equipped t) (fun _ _ => True) := by
  rw [makeParts, ensures_bind, ensures_get]
  split
  · rw [ensures_throw]
    exact trivial
  rename_i setup _
  rw [ensures_bind]
  refine (screenWork_makeScreen probe setup s).mono (fun _ s₁ hWork₁ => ?_) fun _ _ _ => trivial
  rw [ensures_bind]
  refine (screenWork_loadCache config.cachePath s₁).mono (fun _ s₂ hWork₂ => ?_)
    fun _ _ _ => trivial
  rw [ensures_bind]
  refine (screenWork_finishScreen s₂).mono (fun _ s₃ hWork₃ => ?_) fun _ _ _ => trivial
  -- the screen's part leaves the program and the sets alone
  have hWork : ScreenWork s s₃ := Steady.trans (Steady.trans hWork₁ hWork₂) hWork₃
  rw [ensures_bind, makeMemory, ensures_bind, ensures_get, ensures_bind, Op.onHost, ensures_onSecond]
  refine (ensures_true _ s₃.2).mono (fun memory h₄ _ => ?_) fun _ _ _ => trivial
  rw [set, ensures_change, ensures_bind]
  refine (ensures_loadProgram (s := ({ s₃.1 with memory }, h₄)) (hWork.program ▸ hDerived)).mono ?_
    fun _ _ _ => trivial
  rintro - s₅ ⟨hDerived₅, hDescriptors₅, hRange₅⟩
  have hNone₅ : s₅.1.descriptors = {} := hDescriptors₅.trans (hWork.descriptors.trans hNone)
  rw [ensures_bind]
  refine (ensures_makeProgram_equipped hDerived₅ hNone₅ hRange₅).mono ?_ fun _ _ _ => trivial
  rintro - s₆ ⟨hKnown, hEquipped⟩
  rw [ensures_bind, ensures_get, ensures_log]
  -- the last step only logs
  have hKeeps : KeepsSets s₆ (Logging.push s₆.1.readyEntry s₆) := Steady.push _ s₆
  exact ⟨hKeeps.known hKnown, hEquipped.kept hKeeps⟩

/-- A created renderer is equipped. -/
theorem ensures_create_equipped (window : Window) (config : RendererConfig) (h : Host) :
    (create window config).Ensures h
      (fun r h' => Descriptors.Known (r.descriptors, h') ∧ Equipped (r, h')) (fun _ _ => True) := by
  refine ensures_create_of_parts
    (P := fun t => Descriptors.Known (t.1.descriptors, t.2) ∧ Equipped t) (fun probe _ _ _ => ?_) h
  have hDerived := Program.derived_of_new config.shaders config.sparseSets
  exact ensures_makeParts_equipped config probe hDerived rfl

-- ---------------------------------------------------------------------------
-- Reloads
-- ---------------------------------------------------------------------------

/-- A reload that returns has equipped the renderer, or has found nothing changed. -/
theorem ensures_reloadShaders_equipped (hKnown : Descriptors.Known (s.1.descriptors, s.2)) :
    reloadShaders.Ensures s
      (fun report t => Descriptors.Known (t.1.descriptors, t.2) ∧
        if report.rebuilt then Equipped t else KeepsSets s t)
      (fun _ t => Descriptors.Known (t.1.descriptors, t.2)) := by
  refine ensures_reloadShaders_of (ensures_onCompile_derived s) ?_ ?_ ?_
  · exact fun e h hGpu => hKnown.of_suffix rfl (suffix_of_gpu hGpu)
  · intro report p h hRebuilt hGpu hDerived
    refine (ensures_remakeProgram_equipped (s := ({ s.1 with program := p }, h)) hDerived
      (hKnown.of_suffix rfl (suffix_of_gpu hGpu))).mono ?_ fun _ _ h => h
    rintro - t ⟨hKnown', hEquipped⟩
    rw [if_pos hRebuilt]
    have hKeeps : KeepsSets t (Logging.push (reloadedEntry t.1.program report) t) :=
      Steady.push _ t
    exact ⟨hKeeps.known hKnown', hEquipped.kept hKeeps⟩
  · intro report p h hUnchanged hGpu hProgram
    rw [hUnchanged, if_neg Bool.false_ne_true]
    exact ⟨hKnown.of_suffix rfl (suffix_of_gpu hGpu), hProgram, rfl, rfl, suffix_of_gpu hGpu⟩

/-- Every object in the registry was made for a layout with its key, whatever has failed. -/
theorem known_of_reachable {allowed : Renderer × Host → Request → Renderer × Host → Prop}
    (hReachable : Reachable allowed s) : Descriptors.Known (s.1.descriptors, s.2) := by
  induction hReachable with
  | @created window config h h' r _ hRun => exact ((ensures_create_equipped window config h).of_ok hRun).1
  | @step s t c _ hStep _ ih =>
    by_cases hReload : c = .reloadShaders
    · subst hReload
      obtain ⟨r, hRun⟩ := hStep
      have hServe : (serve .reloadShaders).Ensures s
          (fun _ t => Descriptors.Known (t.1.descriptors, t.2))
          (fun _ t => Descriptors.Known (t.1.descriptors, t.2)) := by
        rw [serve, ensures_bind]
        refine (ensures_reloadShaders_equipped ih).mono (fun _ t h => ?_) fun _ _ h => h
        rw [ensures_pure]
        exact h.1
      have hKnown := hServe r t hRun
      cases r <;> exact hKnown
    · -- every other request keeps the sets
      exact (hStep.keepsStep hReload).keepsSets.known ih

-- ---------------------------------------------------------------------------
-- Loaded programs
-- ---------------------------------------------------------------------------

/-- The program of a renderer is loaded: by its creation, or by a reload that has made everything
again, however the renderer got there. It stays so as long as every reload returns. -/
inductive Loaded : Renderer × Host → Prop
  | created {window : Window} {config : RendererConfig} {h h' : Host} {r : Renderer}
    (hNew : h.gpu.IsNew) (hRun : start (create window config) h = some (.ok r, h')) :
    Loaded (r, h')
  | reloaded {s t : Renderer × Host} {report : CompileReport}
    (hReachable : Reachable (fun _ _ _ => True) s)
    (hRun : start reloadShaders s = some (.ok report, t)) (hRebuilt : report.rebuilt = true) :
    Loaded t
  | step {s t : Renderer × Host} (c : Request) (hLoaded : Loaded s) (hStep : Step s c t)
    (hReload : c = .reloadShaders → start (serve c) s = some (.ok (), t)) : Loaded t

/-- A loaded renderer is reachable. -/
theorem Loaded.reachable (h : Loaded s) : Reachable (fun _ _ _ => True) s := by
  induction h with
  | created hNew hRun => exact .created hNew hRun
  | reloaded hReachable hRun _ =>
    exact .step .reloadShaders hReachable ⟨.ok (), start_bind_of_ok hRun _⟩ trivial
  | step c _ hStep _ ih => exact .step c ih hStep trivial

/-- **Renderers are equipped for loaded programs.** -/
theorem equipped_of_loaded (h : Loaded s) : Equipped s := by
  induction h with
  | @created window config h h' r _ hRun => exact ((ensures_create_equipped window config h).of_ok hRun).2
  | reloaded hReachable hRun hRebuilt =>
    have hReload := ((ensures_reloadShaders_equipped (known_of_reachable hReachable)).of_ok hRun).2
    rwa [if_pos hRebuilt] at hReload
  | @step s t c hLoaded hStep hReturns ih =>
    by_cases hReload : c = .reloadShaders
    · subst hReload
      obtain ⟨report, u, hRun, hPure⟩ := start_bind_eq_ok_iff.mp (hReturns rfl)
      cases hPure
      have hEquipped :=
        ((ensures_reloadShaders_equipped (known_of_reachable hLoaded.reachable)).of_ok hRun).2
      -- a reload without a rebuild keeps the sets it found
      split at hEquipped
      · exact hEquipped
      · exact ih.kept hEquipped
    · exact ih.kept (hStep.keepsStep hReload).keepsSets

end RenderLoop.Renderer
