import RenderLoop.Proofs.Renderer.InStep

/-!
# RenderLoop — reloads and what is in step after them

New renderers are in step with their program, and so are renderers after a reload
that made everything again. A reload that fails behind its compilation leaves the
program moved on and the renderer out of step; and as the next compilation finds the
same files, the next reload has nothing to do and returns (`inStep_iff_of_reload`).

So renderers are always in step if no reload fails once it has moved the program on
(`inStep_of_reachable`).
-/

namespace RenderLoop.Renderer

open Op

variable {s t : Renderer × Host} {c : Request} {α : Type}

/-- What holds of renderers in step or not: set layouts are those of their keys, and the modules are
not ahead of the program. -/
structure Grounded (s : Renderer × Host) : Prop where
  known : Descriptors.Known (s.1.descriptors, s.2)
  generation : s.1.modules.generation ≤ s.1.program.generation

/-- What keeps the step keeps a renderer grounded. -/
theorem Grounded.kept (h : Grounded s) (hKeeps : KeepsStep s t) : Grounded t := by
  constructor
  · exact h.known.of_suffix (congrArg Descriptors.registry hKeeps.descriptors) hKeeps.history
  · rw [hKeeps.modules, hKeeps.program.generation]
    exact h.generation

-- ---------------------------------------------------------------------------
-- Making what the device needs
-- ---------------------------------------------------------------------------

/-- Makes descriptors and pipelines, in one way or another. -/
def describe (make : Op (Descriptors × Host) Unit)
    (pair : PipelineBasis → PipelineState → Op (Pipelines × Host) Unit) : Action Unit := do
  onDescriptors make
  let r := (← get).1
  onPipelines (pair r.basis r.pipelineState)

/-- Once the modules of the program are there, descriptors and pipelines get in step, too. -/
theorem ensures_describe {make : Op (Descriptors × Host) Unit}
    {pair : PipelineBasis → PipelineState → Op (Pipelines × Host) Unit}
    (hModules : s.1.modules.MadeFor s.1.program s.2.gpu.history)
    (hMake : make.Ensures (s.1.descriptors, s.2)
      (fun _ t => Descriptors.Known t ∧ t.1.MadeFor s.1.program s.1.memory.region t.2.gpu.history)
      (fun _ t => Descriptors.Known t))
    (hMakes : make.Within Growing)
    (hPair : ∀ b state h, (pair b state).Ensures (s.1.pipelines, h)
      (fun _ t => t.1.MadeFor b t.2.gpu.history) (fun _ _ => True))
    (hPairs : ∀ b state, (pair b state).Within Growing) :
    (describe make pair).Ensures s (fun _ t => t.1.program = s.1.program ∧ Grounded t ∧ InStep t)
      (fun _ t => t.1.program = s.1.program ∧ Grounded t) := by
  have hGeneration := UInt64.le_of_eq hModules.generation
  rw [describe, ensures_bind, onDescriptors, ensures_on]
  refine (hMake.and (hMakes _)).mono ?_ fun _ _ h => ⟨rfl, h.1, hGeneration⟩
  rintro - ⟨d, h₁⟩ ⟨⟨hKnown, hDescriptors⟩, hGrowing₁⟩
  rw [ensures_bind, ensures_get, onPipelines, ensures_on]
  refine ((hPair _ _ h₁).and (hPairs _ _ _)).mono ?_ ?_
  · -- modules and descriptors are those that were made, with a longer history
    rintro - ⟨p, h₂⟩ ⟨hPipelines, hGrowing₂⟩
    refine ⟨rfl, ⟨hKnown.of_suffix rfl hGrowing₂.history, hGeneration⟩, ?_, ?_, hPipelines⟩
    · exact (hModules.of_suffix hGrowing₁.history).of_suffix hGrowing₂.history
    · exact hDescriptors.of_suffix hGrowing₂.history
  · rintro e ⟨p, h₂⟩ ⟨-, hGrowing₂⟩
    exact ⟨rfl, hKnown.of_suffix rfl hGrowing₂.history, hGeneration⟩

/-- Making everything again for a program that has moved on gets a renderer in step. -/
theorem ensures_remakeProgram (hKnown : Descriptors.Known (s.1.descriptors, s.2))
    (hBehind : s.1.modules.generation < s.1.program.generation) :
    remakeProgram.Ensures s (fun _ t => t.1.program = s.1.program ∧ Grounded t ∧ InStep t)
      (fun _ t => t.1.program = s.1.program ∧ Grounded t) := by
  have hBehind' := UInt64.le_of_lt hBehind
  rw [remakeProgram, ensures_bind, Op.onHost, ensures_onSecond]
  refine (GpuContext.within_waitIdle (R := Gpu.Grows) s.2).mono ?_
    fun _ _ h => ⟨rfl, hKnown.of_suffix rfl h.history, hBehind'⟩
  intro _ h₁ hGrowing₁
  have hKnown₁ : Descriptors.Known (s.1.descriptors, h₁) := hKnown.of_suffix rfl hGrowing₁.history
  rw [ensures_bind, set, ensures_change, ensures_bind, ensures_get, ensures_bind, onModules,
    ensures_on]
  refine ((ShaderModules.ensures_sync (UInt64.ne_of_lt hBehind)).and
    (ShaderModules.within_sync (R := Gpu.Grows) _ _)).mono ?_ ?_
  · rintro - ⟨m, h₂⟩ ⟨hModules, hGrowing₂⟩
    have hKnown₂ : Descriptors.Known (s.1.descriptors, h₂) :=
      hKnown₁.of_suffix rfl hGrowing₂.history
    rw [ensures_bind, ensures_get]
    exact ensures_describe hModules (Descriptors.ensures_rebuild _ _ hKnown₂)
      (Descriptors.within_rebuild _ _)
      (fun b state h => (Pipelines.ensures_rebuildPair b state).mono (fun _ _ h => h)
        fun _ _ _ => trivial)
      fun b state => Pipelines.within_rebuildPair b state
  · -- no modules: they still count as those of the old generation
    rintro e ⟨m, h₂⟩ ⟨hGeneration, hGrowing₂⟩
    refine ⟨rfl, hKnown₁.of_suffix rfl hGrowing₂.history, ?_⟩
    show m.generation ≤ s.1.program.generation
    rw [hGeneration]
    exact hBehind'

-- ---------------------------------------------------------------------------
-- New renderers
-- ---------------------------------------------------------------------------

/-- There is nothing of a program on the device yet. -/
structure Unequipped (s : Renderer × Host) : Prop where
  modules : s.1.modules = {}
  descriptors : s.1.descriptors = {}
  pipelines : s.1.pipelines = {}

/-- What the device has of the program stays as it is, whatever becomes of the rest. -/
structure KeepsEquipment (s t : Renderer × Host) : Prop where
  modules : t.1.modules = s.1.modules
  descriptors : t.1.descriptors = s.1.descriptors
  pipelines : t.1.pipelines = s.1.pipelines

instance : Steady KeepsEquipment where
  refl _ := ⟨rfl, rfl, rfl⟩
  trans h h' := ⟨h'.modules.trans h.modules, h'.descriptors.trans h.descriptors,
    h'.pipelines.trans h.pipelines⟩
  push _ _ := ⟨rfl, rfl, rfl⟩

/-- Nothing of a program gets to the device while its equipment is kept. -/
theorem Unequipped.kept (h : Unequipped s) (hKeeps : KeepsEquipment s t) : Unequipped t where
  modules := hKeeps.modules.trans h.modules
  descriptors := hKeeps.descriptors.trans h.descriptors
  pipelines := hKeeps.pipelines.trans h.pipelines

/-- Work on other parts keeps what is there of a program. -/
theorem keepsEquipment_on {τ : Type} {op : Op τ α} {part : Renderer × Host → τ}
    {withPart : τ → Renderer × Host → Renderer × Host}
    (h : ∀ t s, KeepsEquipment s (withPart t s)) : (op.on part withPart).Within KeepsEquipment := by
  intro s
  rw [ensures_on]
  exact (ensures_true op (part s)).mono (fun _ t _ => h t s) fun _ t _ => h t s

/-- Work on the host keeps what is there of a program. -/
theorem keepsEquipment_onHost {op : Op Host α} : (op.onHost : Action α).Within KeepsEquipment := by
  intro s
  rw [Op.onHost, ensures_onSecond]
  exact (ensures_true op s.2).mono (fun _ _ _ => ⟨rfl, rfl, rfl⟩) fun _ _ _ => ⟨rfl, rfl, rfl⟩

/-- Setting other fields keeps what is there of a program. -/
theorem keepsEquipment_set {f : Renderer → Renderer}
    (h : ∀ r h, KeepsEquipment (r, h) (f r, h)) : (set f).Within KeepsEquipment :=
  within_change fun s => h s.1 s.2

/-- Making the screen keeps what is there of a program. -/
theorem keepsEquipment_makeScreen (probe : SurfaceProbe) (setup : CommandBuffer) :
    (makeScreen probe setup).Within KeepsEquipment := by
  refine within_get.bind fun _ => ?_
  refine within_get.bind fun _ => ?_
  refine Within.bind (keepsEquipment_on fun _ _ => ⟨rfl, rfl, rfl⟩) fun _ => ?_
  refine within_get.bind fun _ => ?_
  refine keepsEquipment_onHost.bind fun _ => ?_
  refine keepsEquipment_onHost.bind fun _ => ?_
  exact keepsEquipment_set fun _ _ => ⟨rfl, rfl, rfl⟩

/-- Loading the pipeline cache keeps what is there of a program. -/
theorem keepsEquipment_loadCache (path : String) : (loadCache path).Within KeepsEquipment := by
  refine within_get.bind fun _ => ?_
  refine keepsEquipment_onHost.bind fun _ => ?_
  exact keepsEquipment_set fun _ _ => ⟨rfl, rfl, rfl⟩

/-- Making the framebuffers keeps what is there of a program. -/
theorem keepsEquipment_finishScreen : finishScreen.Within KeepsEquipment := by
  refine within_get.bind fun _ => ?_
  refine Within.bind (keepsEquipment_on fun _ _ => ⟨rfl, rfl, rfl⟩) fun _ => ?_
  refine Within.bind (keepsEquipment_set fun _ _ => ⟨rfl, rfl, rfl⟩) fun _ => ?_
  exact keepsEquipment_on fun _ _ => ⟨rfl, rfl, rfl⟩

/-- Making the frame buffer keeps what is there of a program. -/
theorem keepsEquipment_makeMemory (config : RendererConfig) :
    (makeMemory config).Within KeepsEquipment := by
  refine within_get.bind fun _ => ?_
  refine keepsEquipment_onHost.bind fun _ => ?_
  exact keepsEquipment_set fun _ _ => ⟨rfl, rfl, rfl⟩

/-- A program that was only loaded is not on the device yet. -/
theorem keepsEquipment_loadProgram : loadProgram.Within KeepsEquipment := by
  have hRange : (set fun r => { r with memory := r.memory.withRange (uniformRange r.program) }).Within
      KeepsEquipment := keepsEquipment_set fun _ _ => ⟨rfl, rfl, rfl⟩
  refine Within.bind (keepsEquipment_on fun _ _ => ⟨rfl, rfl, rfl⟩) fun _ => ?_
  refine within_get.bind fun _ => ?_
  exact within_ite ((within_throw _).bind fun _ => hRange) hRange

/-- A renderer that is equipped for the first time is in step. -/
theorem ensures_makeProgram (hUnequipped : Unequipped s) :
    makeProgram.Ensures s (fun _ t => Grounded t ∧ InStep t) (fun _ _ => True) := by
  -- what was not equipped has nothing that could be of an earlier program
  have hNoModules : s.1.modules.modules = [] := by rw [hUnequipped.modules]
  have hKnown : ∀ h : Host, Descriptors.Known (s.1.descriptors, h) := by
    rw [hUnequipped.descriptors]
    exact fun _ => nofun
  have hNoSets : s.1.descriptors.sets = [] := by rw [hUnequipped.descriptors]
  have hStock : ∀ b h, PipelineBasis.Stock b h s.1.pipelines.registry := by
    rw [hUnequipped.pipelines]
    exact nofun
  rw [makeProgram, ensures_bind, ensures_get, ensures_bind, onModules, ensures_on]
  refine (ShaderModules.ensures_create s.1.program hNoModules).mono ?_ fun _ _ _ => trivial
  rintro - ⟨m, h₁⟩ hModules
  rw [ensures_bind, ensures_get]
  refine (ensures_describe hModules
    (Descriptors.ensures_build (s := (s.1.descriptors, h₁)) _ _ (hKnown h₁) hNoSets)
    (Descriptors.within_build _ _) ?_
    fun b state => Pipelines.within_buildPair b state).mono (fun _ _ h => h.2) fun _ _ _ => trivial
  exact fun b state h => (Pipelines.ensures_buildPair b state (hStock b _)).mono (fun _ _ h => h)
    fun _ _ _ => trivial

/-- Whatever else is set up, what making the program ensures is there in the end. -/
theorem ensures_makeParts_of_program {P : Renderer × Host → Prop}
    (hPush : ∀ e t, P t → P (Logging.push e t))
    (hProgram : ∀ t, Unequipped t → makeProgram.Ensures t (fun _ u => P u) (fun _ _ => True))
    (config : RendererConfig) (probe : SurfaceProbe) (hUnequipped : Unequipped s) :
    (makeParts config probe).Ensures s (fun _ t => P t) (fun _ _ => True) := by
  rw [makeParts, ensures_bind, ensures_get]
  split
  · rw [ensures_throw]
    exact trivial
  · rename_i setup _
    -- all that comes before the program is equipped for
    have hFirst : (do
        makeScreen probe setup
        loadCache config.cachePath
        finishScreen
        makeMemory config
        loadProgram : Action Unit).Within KeepsEquipment := by
      refine (keepsEquipment_makeScreen probe setup).bind fun _ => ?_
      refine (keepsEquipment_loadCache _).bind fun _ => ?_
      refine keepsEquipment_finishScreen.bind fun _ => ?_
      refine (keepsEquipment_makeMemory config).bind fun _ => ?_
      exact keepsEquipment_loadProgram
    have hRest : ∀ t, Unequipped t → (do
        makeProgram
        Op.log (← get).1.readyEntry : Action Unit).Ensures t (fun _ u => P u) (fun _ _ => True) := by
      intro t hNone
      rw [ensures_bind]
      refine (hProgram t hNone).mono ?_ fun _ _ h => h
      intro _ u hMade
      rw [ensures_bind, ensures_get, ensures_log]
      exact hPush _ u hMade
    have hAll := (hFirst s).mono (fun _ t h => hRest t (hUnequipped.kept h)) fun _ _ _ => trivial
    rw [← ensures_bind] at hAll
    simpa only [bind_assoc] using hAll

/-- What making the program ensures is there after a whole creation. -/
theorem ensures_create_of_program {P : Renderer × Host → Prop}
    (hPush : ∀ e t, P t → P (Logging.push e t))
    (hProgram : ∀ t, Unequipped t → makeProgram.Ensures t (fun _ u => P u) (fun _ _ => True))
    (window : Window) (config : RendererConfig) (h : Host) :
    (create window config).Ensures h (fun r h' => P (r, h')) (fun _ _ => True) := by
  refine ensures_create_of_parts ?_ h
  intro probe _ _ _
  exact ensures_makeParts_of_program hPush hProgram config probe ⟨rfl, rfl, rfl⟩

/-- New renderers are in step. -/
theorem ensures_create_inStep (window : Window) (config : RendererConfig) (h : Host) :
    (create window config).Ensures h (fun r h' => Grounded (r, h') ∧ InStep (r, h'))
      (fun _ _ => True) := by
  have hPush : ∀ e (t : Renderer × Host), Grounded t ∧ InStep t →
      Grounded (Logging.push e t) ∧ InStep (Logging.push e t) := by
    rintro e t ⟨hGrounded, hInStep⟩
    exact ⟨hGrounded.kept (Steady.push _ t), hInStep.kept (Steady.push _ t)⟩
  exact ensures_create_of_program hPush (fun _ => ensures_makeProgram) window config h

-- ---------------------------------------------------------------------------
-- Reloads
-- ---------------------------------------------------------------------------

/-- Compiling changes the program only, if at all. -/
theorem ensures_onCompile {Q : CompileReport → Program → Prop}
    (hCompile : (Program.compile tools).Ensures (s.1.program, s.2) (fun report t => Q report t.1)
      (fun _ t => t.1 = s.1.program)) :
    (onProgram (Program.compile tools)).Ensures s
      (fun report t => ∃ p h, t = ({ s.1 with program := p }, h) ∧ h.gpu = s.2.gpu ∧ Q report p)
      (fun _ t => t.1 = s.1 ∧ t.2.gpu = s.2.gpu) := by
  rw [onProgram, ensures_on]
  have hGpu := Program.within_compile (R := (· = ·)) Program.toolsPass_spirv (s.1.program, s.2)
  refine (hCompile.and hGpu).mono ?_ ?_
  · rintro report ⟨p, h⟩ ⟨hProgram, hSame⟩
    exact ⟨p, h, rfl, hSame.symm, hProgram⟩
  · rintro e ⟨p, h⟩ ⟨rfl, hSame⟩
    exact ⟨rfl, hSame.symm⟩

/-- A device that is as before has not been called. -/
theorem suffix_of_gpu {h h' : Host} (hGpu : h'.gpu = h.gpu) :
    h.gpu.history <:+ h'.gpu.history := by
  rewrite [hGpu]
  exact List.suffix_refl _

/-- Reloading shaders step by step. If compiling changes something, it leaves a program with `Q` that
all is remade for; else it leaves one with `R`. Before that, nothing is changed. -/
theorem ensures_reloadShaders_of {Q R : Program → Prop}
    {ok : CompileReport → Renderer × Host → Prop} {fail : RenderError → Renderer × Host → Prop}
    (hCompile : (onProgram (Program.compile tools)).Ensures s
      (fun report t => ∃ p h, t = ({ s.1 with program := p }, h) ∧ h.gpu = s.2.gpu ∧
        if report.rebuilt then Q p else R p)
      (fun _ t => t.1 = s.1 ∧ t.2.gpu = s.2.gpu))
    (hNot : ∀ e (h : Host), h.gpu = s.2.gpu → fail e (s.1, h))
    (hRemake : ∀ report p (h : Host), report.rebuilt = true → h.gpu = s.2.gpu → Q p →
      remakeProgram.Ensures ({ s.1 with program := p }, h)
        (fun _ t => ok report (Logging.push (reloadedEntry t.1.program report) t)) fail)
    (hSame : ∀ report p (h : Host), report.rebuilt = false → h.gpu = s.2.gpu → R p →
      ok report ({ s.1 with program := p }, h)) :
    reloadShaders.Ensures s ok fail := by
  rw [reloadShaders, requireNoFrame, ensures_bind, ensures_bind, ensures_get]
  refine ensures_ite (fun _ => ?_) fun _ => ?_
  · -- within a frame the call is refused
    rw [ensures_throw]
    exact hNot _ _ rfl
  rw [ensures_pure, ensures_bind]
  refine hCompile.mono ?_ ?_
  · rintro report t ⟨p, h, rfl, hGpu, hProgram⟩
    refine ensures_ite (fun hRebuilt => ?_) fun hUnchanged => ?_
    · rw [if_pos hRebuilt] at hProgram
      rw [ensures_bind]
      refine (hRemake report p h hRebuilt hGpu hProgram).mono ?_ fun _ _ h => h
      intro _ t hOk
      rw [ensures_bind, ensures_get, ensures_bind, ensures_log, ensures_pure]
      exact hOk
    · rw [if_neg hUnchanged] at hProgram
      rw [ensures_bind, ensures_log, ensures_pure]
      exact hSame report p _ (eq_false_of_ne_true hUnchanged) hGpu hProgram
  · rintro e ⟨r, h⟩ ⟨rfl, hGpu⟩
    exact hNot e h hGpu

/-- Compiling begins the next generation of the program or finds nothing changed. -/
theorem ensures_compile_program (s : Renderer × Host) :
    (onProgram (Program.compile tools)).Ensures s
      (fun report t => ∃ p h, t = ({ s.1 with program := p }, h) ∧ h.gpu = s.2.gpu ∧
        if report.rebuilt then p.generation = s.1.program.generation + 1
        else s.1.program.SameButHashes p)
      (fun _ t => t.1 = s.1 ∧ t.2.gpu = s.2.gpu) :=
  ensures_onCompile (Program.ensures_compile_generation s.1.program s.2)

/-- The next generation is greater, as long as generations can be counted. -/
theorem generation_lt {n : UInt64} (hNext : n.toNat + 1 < UInt64.size) : n < n + 1 := by
  rw [UInt64.lt_iff_toNat_lt, UInt64.toNat_add]
  show n.toNat < (n.toNat + 1) % UInt64.size
  rw [Nat.mod_eq_of_lt hNext]
  exact Nat.lt_succ_self _

/-- What reloads do: when they return, they have made everything again or found nothing changed; and
when they fail, the program has moved on or nothing has changed. -/
theorem ensures_reloadShaders (hGrounded : Grounded s)
    (hNext : s.1.program.generation.toNat + 1 < UInt64.size) :
    reloadShaders.Ensures s
      (fun report t => if report.rebuilt then Grounded t ∧ InStep t
        else KeepsStep s t ∧ KeepsStep t s)
      (fun _ t => KeepsStep s t ∨
        t.1.program.generation ≠ s.1.program.generation ∧ Grounded t) := by
  have hGreater := generation_lt hNext
  refine ensures_reloadShaders_of (ensures_compile_program s) ?_ ?_ ?_
  · exact fun e h hGpu => .inl (keepsStep_of_same rfl (suffix_of_gpu hGpu))
  · intro report p h hRebuilt hGpu hProgram
    have hKnown : Descriptors.Known (s.1.descriptors, h) :=
      hGrounded.known.of_suffix rfl (suffix_of_gpu hGpu)
    -- the program has moved on, and the modules are not ahead of it
    have hBehind : s.1.modules.generation < p.generation := by
      rw [hProgram]
      exact UInt64.lt_of_le_of_lt hGrounded.generation hGreater
    refine (ensures_remakeProgram (s := ({ s.1 with program := p }, h)) hKnown hBehind).mono ?_ ?_
    · rintro - t ⟨-, hGrounded', hInStep⟩
      rw [if_pos hRebuilt]
      exact ⟨hGrounded'.kept (Steady.push _ t), hInStep.kept (Steady.push _ t)⟩
    · rintro e t ⟨hSame, hGrounded'⟩
      refine .inr ⟨?_, hGrounded'⟩
      rw [hSame]
      show p.generation ≠ s.1.program.generation
      rw [hProgram]
      exact (UInt64.ne_of_lt hGreater).symm
  · intro report p h hUnchanged hGpu hProgram
    rw [hUnchanged, if_neg Bool.false_ne_true]
    exact ⟨keepsStep_of_same rfl (suffix_of_gpu hGpu) hProgram,
      keepsStep_of_same rfl (suffix_of_gpu hGpu.symm) hProgram.symm⟩

-- ---------------------------------------------------------------------------
-- Reachable renderers
-- ---------------------------------------------------------------------------

/-- A call that does not begin a generation beyond those that can be counted. -/
def Counted (s : Renderer × Host) (_ : Request) (_ : Renderer × Host) : Prop :=
  s.1.program.generation.toNat + 1 < UInt64.size

/-- A call that fails leaves the generation of the program as it is. -/
def CatchesUp (s : Renderer × Host) (c : Request) (t : Renderer × Host) : Prop :=
  Counted s c t ∧
    (t.1.program.generation = s.1.program.generation ∨ start (serve c) s = some (.ok (), t))

/-- What steps do: they keep a renderer in step or get it in step, or else the program has moved on
in a reload that failed. -/
theorem Step.cases (hGrounded : Grounded s) (hCounted : Counted s c t) (hStep : Step s c t) :
    KeepsStep s t ∨ Grounded t ∧ (InStep t ∨
      t.1.program.generation ≠ s.1.program.generation ∧ start (serve c) s ≠ some (.ok (), t)) := by
  by_cases hReload : c = .reloadShaders
  · subst hReload
    obtain ⟨r, hRun⟩ := hStep
    have hServe : (serve .reloadShaders).Ensures s
        (fun _ t => KeepsStep s t ∨ Grounded t ∧ InStep t)
        (fun _ t => KeepsStep s t ∨
          t.1.program.generation ≠ s.1.program.generation ∧ Grounded t) := by
      rw [serve, ensures_bind]
      refine (ensures_reloadShaders hGrounded hCounted).mono ?_ fun _ _ h => h
      intro report t h
      rw [ensures_pure]
      split at h
      · exact .inr h
      · exact .inl h.1
    cases r with
    | ok _ =>
      refine (hServe.of_ok hRun).imp_right ?_
      rintro ⟨hGrounded', hInStep⟩
      exact ⟨hGrounded', .inl hInStep⟩
    | error e =>
      refine (hServe.of_error hRun).imp_right ?_
      -- a failed reload has counted a generation on and does not return
      rintro ⟨hMoved, hGrounded'⟩
      refine ⟨hGrounded', .inr ⟨hMoved, ?_⟩⟩
      rw [hRun]
      nofun
  · exact .inl (hStep.keepsStep hReload)

/-- Renderers are grounded, whatever fails. -/
theorem grounded_of_reachable (hReachable : Reachable Counted s) : Grounded s := by
  induction hReachable with
  | @created window config h h' r _ hRun => exact ((ensures_create_inStep window config h).of_ok hRun).1
  | step c _ hStep hCounted ih =>
    rcases hStep.cases ih hCounted with hKeeps | ⟨hGrounded, -⟩
    · exact ih.kept hKeeps
    · exact hGrounded

/-- **Renderers are in step with their program**, as long as every call that moves the program on
returns. -/
theorem inStep_of_reachable (hReachable : Reachable CatchesUp s) : InStep s := by
  have hBoth : Grounded s ∧ InStep s := by
    induction hReachable with
    | @created window config h h' r _ hRun => exact (ensures_create_inStep window config h).of_ok hRun
    | step c _ hStep hCatchesUp ih =>
      rcases hStep.cases ih.1 hCatchesUp.1 with hKeeps | ⟨hGrounded, hInStep | ⟨hMoved, hNot⟩⟩
      · exact ⟨ih.1.kept hKeeps, ih.2.kept hKeeps⟩
      · exact ⟨hGrounded, hInStep⟩
      · exact (hCatchesUp.2.elim hMoved hNot).elim
  exact hBoth.2

/-- **What a reload that returns is worth.** It leaves the renderer in step with its program exactly
if it has made everything again or the renderer was in step before it, whatever failed until then.
In particular it mends nothing that an earlier reload has left undone. -/
theorem inStep_iff_of_reload {report : CompileReport} (hReachable : Reachable Counted s)
    (hNext : s.1.program.generation.toNat + 1 < UInt64.size)
    (hReload : start reloadShaders s = some (.ok report, t)) :
    InStep t ↔ report.rebuilt = true ∨ InStep s := by
  have hGrounded := grounded_of_reachable hReachable
  have hReturn := (ensures_reloadShaders hGrounded hNext).of_ok hReload
  by_cases hRebuilt : report.rebuilt = true
  · rw [if_pos hRebuilt] at hReturn
    exact ⟨fun _ => .inl hRebuilt, fun _ => hReturn.2⟩
  · rw [if_neg hRebuilt] at hReturn
    constructor
    · exact fun hInStep => .inr (hInStep.kept hReturn.2)
    · rintro (hRebuilt' | hInStep)
      · exact absurd hRebuilt' hRebuilt
      · exact hInStep.kept hReturn.1

-- ---------------------------------------------------------------------------
-- A reload without modules
-- ---------------------------------------------------------------------------

/-- A new renderer whose shader was edited, by another generator of code. -/
def sampleEdited : Renderer × Host :=
  (sample.1, { sample.2 with files := ⟨[(["", "a.spv"], .file (sampleCode.set 8 1))]⟩ })

/-- The same on a device that will not make the next module. -/
def sampleModuleless : Renderer × Host :=
  (sampleEdited.1, sampleEdited.2.onGpu
    (Gpu.follow { faults := some [⟨"vkCreateShaderModule", some 1, ⟨-2⟩⟩] }))

/-- What its reload leaves behind. -/
def sampleFailedReload : Renderer × Host := reloadShaders.after sampleModuleless

/-- The same on a device that makes modules again. -/
def sampleBehind : Renderer × Host :=
  (sampleFailedReload.1, sampleFailedReload.2.onGpu (Gpu.follow { faults := some [] }))

/-- The next reload returns and leaves the renderer without modules. -/
theorem inStep_iff_of_reload_after_failure :
    Reachable Counted sampleBehind ∧ sampleBehind.1.program.generation.toNat + 1 < UInt64.size ∧
      ∃ report, start reloadShaders sampleBehind =
          some (.ok report, reloadShaders.after sampleBehind) ∧
        report.rebuilt = false ∧ ¬ InStep (reloadShaders.after sampleBehind) := by
  have hFails : reloadShaders.fails sampleModuleless = true := by decide +kernel
  have hReturns : reloadShaders.succeeds sampleBehind = true := by decide +kernel
  have hNew : sample.1.program.generation.toNat + 1 < UInt64.size := by decide +kernel
  have hEdited : sampleEdited.1.program.generation.toNat + 1 < UInt64.size := by
    simpa only [sampleEdited] using hNew
  have hModuleless : sampleModuleless.1.program.generation.toNat + 1 < UInt64.size := by
    simpa only [sampleModuleless] using hEdited
  have hNext : sampleFailedReload.1.program.generation.toNat + 1 < UInt64.size := by decide +kernel
  have hBehind : sampleBehind.1.program.generation.toNat + 1 < UInt64.size := by
    simpa only [sampleBehind] using hNext
  obtain ⟨e, hFailed⟩ := start_of_fails hFails
  obtain ⟨report, hReload⟩ := start_of_succeeds hReturns
  have hStep : Step sampleModuleless .reloadShaders sampleFailedReload :=
    ⟨.error e, start_bind_of_error hFailed _⟩
  have hReachable : Reachable Counted sampleBehind := by
    refine Reachable.step (.follow _) ?_ ⟨.ok (), rfl⟩ hNext
    refine Reachable.step .reloadShaders ?_ hStep hModuleless
    refine Reachable.step (.follow _) ?_ ⟨.ok (), rfl⟩ hEdited
    exact Reachable.step (.edit _) reachable_sample ⟨.ok (), rfl⟩ hNew
  -- the files are the same as at the reload that failed, so nothing is rebuilt
  have hUnchanged : report.rebuilt = false := by
    have hAll : (start reloadShaders sampleBehind).all
        (fun r => r.1.toOption.all (fun report => !report.rebuilt)) = true := by decide +kernel
    rw [hReload] at hAll
    simpa [Except.toOption] using hAll
  have hOut : ¬ InStep sampleBehind := by
    intro hInStep
    have hGeneration : sampleBehind.1.modules.generation ≠ sampleBehind.1.program.generation := by
      decide +kernel
    exact hGeneration hInStep.modules.generation
  refine ⟨hReachable, hBehind, report, hReload, hUnchanged, fun hInStep => ?_⟩
  rcases (inStep_iff_of_reload hReachable hBehind hReload).mp hInStep with hRebuilt | hBefore
  · rw [hUnchanged] at hRebuilt
    cases hRebuilt
  · exact hOut hBefore

end RenderLoop.Renderer
