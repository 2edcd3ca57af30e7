import RenderLoop.Proofs.Gpu.PairState
import RenderLoop.Proofs.Renderer.Reload

/-!
# RenderLoop — the state of the pair in use

Which pair of pipelines is in use, and which state the renderer remembers, are two
things. The pair **shows** a state if it was built for that (`Renderer.Shows`).
Everything but a change of state keeps the remembered state and leaves the pair alone
or builds it anew for that state (`KeepsPair`), however it ends.

A change of state remembers the new state before its pair is built. So there are four
ways out of it (`ensures_setPipelineState`): the state was the remembered one and
nothing is done; the pair shows the new state; what the registry had under the keys of
the new state was not built for it; or the build fails, and the old pair stays in use
while the new state is remembered.

The third cannot happen as long as everything in the registry is of the generations of
now (`Current`). That is so for new renderers and after every call that returns.
-/

namespace RenderLoop.Renderer

open GpuHistory Op

variable {s t u : Renderer × Host} {c : Request} {v : PipelineState} {α β : Type}

/-- The pair that meshes are drawn with was built for a state. -/
def Shows (v : PipelineState) (s : Renderer × Host) : Prop :=
  s.1.pipelines.Shows v s.2.gpu.history

instance (v : PipelineState) (s : Renderer × Host) : Decidable (Shows v s) :=
  inferInstanceAs (Decidable (s.1.pipelines.Shows v s.2.gpu.history))

/-- All pipelines in the registry were built in the generations of now, each for the state that it is
found by. -/
def Current (s : Renderer × Host) : Prop := s.1.basis.Filed s.2.gpu.history s.1.pipelines.registry

-- ---------------------------------------------------------------------------
-- What leaves pipelines alone
-- ---------------------------------------------------------------------------

/-- Pipelines and the state to draw with stay as they are. -/
structure LeavesPair (s t : Renderer × Host) : Prop where
  pipelines : t.1.pipelines = s.1.pipelines
  state : t.1.pipelineState = s.1.pipelineState
  history : s.2.gpu.history <:+ t.2.gpu.history

/-- The generations of modules and pass stay, too. -/
structure Leaves (s t : Renderer × Host) : Prop extends LeavesPair s t where
  modules : t.1.modules = s.1.modules
  targets : t.1.targets = s.1.targets

instance : Steady LeavesPair where
  refl _ := ⟨rfl, rfl, List.suffix_refl _⟩
  trans h h' := ⟨h'.pipelines.trans h.pipelines, h'.state.trans h.state, h.history.trans h'.history⟩
  push _ _ := ⟨rfl, rfl, List.suffix_refl _⟩

instance : Steady Leaves where
  refl s := ⟨Steady.refl s, rfl, rfl⟩
  trans h h' := ⟨Steady.trans h.toLeavesPair h'.toLeavesPair, h'.modules.trans h.modules,
    h'.targets.trans h.targets⟩
  push e s := ⟨Steady.push e s, rfl, rfl⟩

/-- A pair that is left alone goes on to show its state. -/
theorem LeavesPair.shows (h : LeavesPair s t) (hShows : Shows v s) : Shows v t :=
  hShows.kept (congrArg Pipelines.pair h.pipelines) h.history

/-- Nothing gets into the registry, and the generations are those of before. -/
theorem Leaves.current (h : Leaves s t) (hCurrent : Current s) : Current t := by
  rw [Current, h.pipelines]
  have hKept := PipelineBasis.Filed.of_suffix hCurrent h.history
  refine hKept.congr ?_ ?_
  · exact congrArg ShaderModules.generation h.modules
  · exact congrArg RenderTargets.generation h.targets

/-- Setting other fields leaves the pipelines alone. -/
theorem leaves_set {f : Renderer → Renderer}
    (h : ∀ r h, Leaves (r, h) (f r, h) := by
      exact fun _ _ => ⟨⟨rfl, rfl, List.suffix_refl _⟩, rfl, rfl⟩) : (set f).Within Leaves :=
  within_change fun s => h s.1 s.2

/-- What is done with the host leaves the pair and what it is made from. -/
theorem leaves_onHost {op : Op Host α} (hOp : op.Within Growing) :
    (op.onHost : Action α).Within Leaves := by
  intro s
  rw [Op.onHost, ensures_onSecond]
  have hLeaves : ∀ h : Host, Growing s.2 h → Leaves s (s.1, h) :=
    fun _ hGrowing => ⟨⟨rfl, rfl, hGrowing.history⟩, rfl, rfl⟩
  exact (hOp s.2).mono (fun _ h => hLeaves h) fun _ h => hLeaves h

/-- What is done with the machine leaves the pair and what it is made from. -/
theorem leaves_onMachine {op : Op Machinery α} (hOp : op.Within (Beyond Growing)) :
    (onMachine op).Within Leaves :=
  hOp.on fun _ _ h => ⟨⟨rfl, rfl, h.history⟩, rfl, rfl⟩

/-- What is done with the descriptors leaves the pair and what it is made from. -/
theorem leaves_onDescriptors {op : Op (Descriptors × Host) α} (hOp : op.Within Growing) :
    (onDescriptors op).Within Leaves :=
  hOp.on fun _ _ h => ⟨⟨rfl, rfl, h.history⟩, rfl, rfl⟩

/-- What is done with the frame buffer leaves the pair and what it is made from. -/
theorem leaves_onMemory {op : Op (FrameMemory × Host) α} (hOp : op.Within FrameMemory.KeepsRegion) :
    (onMemory op).Within Leaves :=
  hOp.on fun _ _ h => ⟨⟨rfl, rfl, h.history⟩, rfl, rfl⟩

/-- Asking for the area only asks. -/
theorem leaves_hasNoArea : hasNoArea.Within Leaves := by
  refine within_get.bind fun _ => ?_
  exact within_ite (within_pure true) (leaves_onHost (Swapchain.within_isMinimized _))

/-- Compiling changes the program, not yet what was made for it. -/
theorem leaves_compile : (onProgram (Program.compile tools)).Within Leaves := by
  intro s
  refine (ensures_compile_program s).mono ?_ ?_
  · rintro report t ⟨p, h, rfl, hGpu, -⟩
    exact ⟨⟨rfl, rfl, hGpu ▸ List.suffix_refl _⟩, rfl, rfl⟩
  · rintro e t ⟨hSame, hGpu⟩
    exact ⟨⟨by rw [hSame], by rw [hSame], hGpu ▸ List.suffix_refl _⟩, by rw [hSame], by rw [hSame]⟩

/-- Drawing uses the pair. -/
theorem leaves_draw (mesh : Mesh) (mode : PolyRenderMode) : (draw mesh mode).Within Leaves := by
  have hSteps : ∀ b, DrawSteps b Leaves := fun b => drawSteps_of_record
    (fun bytes => leaves_onMemory (FrameMemory.within_store bytes))
    (fun bytes => leaves_onMemory (FrameMemory.within_storeUniform bytes))
    fun c _ => within_change fun s => ⟨⟨rfl, rfl, List.suffix_cons _ _⟩, rfl, rfl⟩
  exact within_draw hSteps mesh mode

/-- What leaves the generations alone leaves the pair alone. -/
theorem Leaves.within {op : Action α} (hOp : op.Within Leaves) : op.Within LeavesPair :=
  hOp.mono fun _ _ h => h.toLeavesPair

/-- A new screen has a pass of another generation, but the pair is not touched. -/
theorem leavesPair_remakeScreen (setup : CommandBuffer) :
    (remakeScreen setup).Within LeavesPair := by
  have hSwapchain : ∀ {op : Op (Swapchain × Host) Unit}, op.Within Growing →
      (onSwapchain op).Within LeavesPair := fun hOp => hOp.on fun _ _ h => ⟨rfl, rfl, h.history⟩
  have hTargets : ∀ {op : Op (RenderTargets × Host) Unit}, op.Within Growing →
      (onTargets op).Within LeavesPair := fun hOp => hOp.on fun _ _ h => ⟨rfl, rfl, h.history⟩
  refine within_get.bind fun _ => ?_
  refine (hSwapchain (Swapchain.growing_recreate _ _ _)).bind fun _ => ?_
  refine within_get.bind fun _ => ?_
  refine (hTargets (RenderTargets.growing_recreate _ _ _)).bind fun _ => ?_
  refine (hTargets (RenderTargets.growing_createFramebuffers _ _)).bind fun _ => ?_
  exact within_change fun _ => ⟨rfl, rfl, List.suffix_refl _⟩

/-- All that a rebuild does before the pipelines leaves the pair. -/
theorem leavesPair_remakeAll : remakeAll.Within LeavesPair := by
  refine (Leaves.within (leaves_onHost GpuContext.within_waitIdle)).bind fun _ => ?_
  refine (Leaves.within (leaves_onMachine (Synchronizer.beyond_onRecorder
    Recorder.beyond_beginSetup))).bind fun _ => ?_
  refine (leavesPair_remakeScreen _).bind fun _ => ?_
  exact Leaves.within (leaves_onMachine (Synchronizer.beyond_onRecorder Recorder.beyond_flushSetup))

/-- What has to be made again for a program before its pipelines. -/
def prepareProgram : Action Unit := do
  GpuContext.waitIdle.onHost
  set fun r => { r with memory := r.memory.withRange (uniformRange r.program) }
  let program := (← get).1.program
  onModules (ShaderModules.sync program)
  onDescriptors (Descriptors.rebuild program (← get).1.memory.region)

/-- Pipelines are the last that is made again for a program. -/
theorem remakeProgram_eq : remakeProgram = (do prepareProgram; rebuildPipelines) := by
  simp only [remakeProgram, prepareProgram, bind_assoc]

/-- Preparing a program is not about pipelines. -/
theorem leavesPair_prepareProgram : prepareProgram.Within LeavesPair := by
  have hModules : ∀ {op : Op (ShaderModules × Host) Unit}, op.Within Growing →
      (onModules op).Within LeavesPair := fun hOp => hOp.on fun _ _ h => ⟨rfl, rfl, h.history⟩
  refine (Leaves.within (leaves_onHost GpuContext.within_waitIdle)).bind fun _ => ?_
  refine (Leaves.within leaves_set).bind fun _ => ?_
  refine within_get.bind fun _ => ?_
  refine (hModules (ShaderModules.within_sync _)).bind fun _ => ?_
  refine within_get.bind fun _ => ?_
  exact Leaves.within (leaves_onDescriptors (Descriptors.within_rebuild _ _))

-- ---------------------------------------------------------------------------
-- Calls that do not set a state
-- ---------------------------------------------------------------------------

/-- The state to draw with stays, and the pair in use stays or was built for that. -/
structure KeepsPair (s t : Renderer × Host) : Prop where
  state : t.1.pipelineState = s.1.pipelineState
  history : s.2.gpu.history <:+ t.2.gpu.history
  pair : t.1.pipelines.pair = s.1.pipelines.pair ∨ Shows s.1.pipelineState t

/-- A pair that showed the remembered state shows it still. -/
theorem KeepsPair.shows (h : KeepsPair s t) (hShows : Shows s.1.pipelineState s) :
    Shows s.1.pipelineState t :=
  h.pair.elim (fun hPair => hShows.kept hPair h.history) id

/-- The pair is kept over several steps. -/
theorem KeepsPair.trans (h : KeepsPair s t) (h' : KeepsPair t u) : KeepsPair s u where
  state := h'.state.trans h.state
  history := h.history.trans h'.history
  pair := by
    rcases h'.pair with hPair' | hShows'
    · rcases h.pair with hPair | hShows
      · exact .inl (hPair'.trans hPair)
      · -- built anew first, and left alone then
        exact .inr (hShows.kept hPair' h'.history)
    · exact .inr (h.state ▸ hShows')

/-- What is left alone is kept. -/
theorem LeavesPair.keeps (h : LeavesPair s t) : KeepsPair s t where
  state := h.state
  history := h.history
  pair := .inl (congrArg Pipelines.pair h.pipelines)

/-- The pair is kept, and a return leaves no pipelines of other generations in the registry if there
were none. -/
def Tending (op : Action α) : Prop :=
  ∀ s, op.Ensures s (fun _ t => KeepsPair s t ∧ (Current s → Current t)) (fun _ t => KeepsPair s t)

/-- An operation that leaves pipelines alone tends to them. -/
theorem tending_of_leaves {op : Action α} (hOp : op.Within Leaves) : Tending op := by
  intro s
  refine (hOp s).mono ?_ ?_
  · intro _ t hLeaves
    exact ⟨hLeaves.keeps, hLeaves.current⟩
  · intro _ t hLeaves
    exact hLeaves.keeps

/-- Two that tend to the pipelines, one after the other, do so together. -/
theorem Tending.bind {op : Action α} {f : α → Action β} (hOp : Tending op)
    (hf : ∀ a, Tending (f a)) : Tending (op >>= f) := by
  intro s
  rw [ensures_bind]
  refine (hOp s).mono ?_ fun _ _ h => h
  rintro a t ⟨hKeeps, hCurrent⟩
  refine (hf a t).mono ?_ ?_
  · rintro _ u ⟨hKeeps', hCurrent'⟩
    exact ⟨hKeeps.trans hKeeps', fun h => hCurrent' (hCurrent h)⟩
  · intro _ u hKeeps'
    exact hKeeps.trans hKeeps'

/-- A choice of two that tend to the pipelines does so. -/
theorem tending_ite {p : Prop} [Decidable p] {op op' : Action α} (hThen : Tending op)
    (hElse : Tending op') : Tending (if p then op else op') := by
  split
  · exact hThen
  · exact hElse

/-- Whatever was made again before, pipelines that are built anew are those of the state to draw with,
in the generations of now. -/
theorem tending_remake {prepare : Action Unit} (hPrepare : prepare.Within LeavesPair) :
    Tending (do prepare; rebuildPipelines) := by
  intro s
  rw [ensures_bind]
  refine (hPrepare s).mono ?_ fun _ _ h => h.keeps
  intro _ t hLeaves
  rw [rebuildPipelines, ensures_bind, ensures_get, onPipelines, ensures_on]
  refine (Pipelines.ensures_rebuildPair_shows t.1.basis t.1.pipelineState (t.1.pipelines, t.2)).mono
    ?_ ?_
  · rintro - ⟨p, h⟩ ⟨hHistory, hShows, hFiled⟩
    have hKeeps : KeepsPair t ({ t.1 with pipelines := p }, h) := ⟨rfl, hHistory, .inr hShows⟩
    exact ⟨hLeaves.keeps.trans hKeeps, fun _ => hFiled⟩
  · rintro e ⟨p, h⟩ ⟨hHistory, hPair⟩
    have hKeeps : KeepsPair t ({ t.1 with pipelines := p }, h) := ⟨rfl, hHistory, .inl hPair⟩
    exact hLeaves.keeps.trans hKeeps

/-- A rebuild tends to pipelines: it is deferred, or ends with a new pair. -/
theorem tending_rebuild : Tending rebuild := by
  have hRemake : Tending (do
      remakeAll
      rebuildPipelines
      Op.log (resizedEntry (← get).1.extent) : Action Unit) := by
    have hLog : Tending (do Op.log (resizedEntry (← get).1.extent) : Action Unit) :=
      tending_of_leaves (within_get.bind fun _ => within_log _)
    simpa only [bind_assoc] using (tending_remake leavesPair_remakeAll).bind fun _ => hLog
  rw [rebuild_eq]
  exact (tending_of_leaves leaves_hasNoArea).bind fun _ =>
    tending_ite (tending_of_leaves (within_log _)) hRemake

/-- Beginning a frame tends to the pipelines, also if it has to rebuild. -/
theorem tending_beginFrame : Tending beginFrame := by
  refine (tending_of_leaves leaves_set).bind fun _ => ?_
  refine (tending_of_leaves within_get).bind fun _ => ?_
  refine (tending_of_leaves (leaves_onMachine (Synchronizer.beyond_beginFrame _)).attempt).bind
    fun r => ?_
  split
  · exact tending_of_leaves leaves_set
  · exact tending_rebuild.bind fun _ => tending_of_leaves (within_throw _)
  · exact tending_of_leaves (within_throw _)

/-- Ending a frame tends to the pipelines, also if it has to rebuild. -/
theorem tending_endFrame : Tending endFrame := by
  refine (tending_of_leaves (within_currentFrame _)).bind fun _ => ?_
  refine (tending_of_leaves leaves_set).bind fun _ => ?_
  refine (tending_of_leaves (leaves_onMachine (Synchronizer.beyond_endFrame _)).attempt).bind
    fun r => ?_
  split
  · exact tending_of_leaves (within_pure ())
  · exact (tending_of_leaves (within_log _)).bind fun _ => tending_rebuild
  · exact tending_of_leaves (within_throw _)

/-- A resize is a rebuild for another window. -/
theorem tending_resize (window : Extent) : Tending (resize window) := by
  refine (tending_of_leaves (within_requireNoFrame _)).bind fun _ => ?_
  refine (tending_of_leaves leaves_set).bind fun _ => ?_
  exact tending_rebuild

/-- A reload builds the pair anew for the program it compiled. -/
theorem tending_reloadShaders : Tending reloadShaders := by
  refine (tending_of_leaves (within_requireNoFrame _)).bind fun _ => ?_
  refine (tending_of_leaves leaves_compile).bind fun report => ?_
  have hRemake : Tending remakeProgram := by
    rw [remakeProgram_eq]
    exact tending_remake leavesPair_prepareProgram
  refine tending_ite ?_ ?_
  · refine hRemake.bind fun _ => tending_of_leaves ?_
    refine within_get.bind fun _ => ?_
    refine (within_log _).bind fun _ => ?_
    exact within_pure _
  · exact tending_of_leaves ((within_log _).bind fun _ => within_pure _)

/-- Every call but a change of state tends to pipelines. -/
theorem tending_serve (hState : ∀ v, c ≠ .setPipelineState v) : Tending (serve c) := by
  cases c with
  | beginFrame => exact tending_beginFrame
  -- a draw and all settings leave the pair and what it is made from
  | draw mesh mode => exact tending_of_leaves (leaves_draw mesh mode)
  | endFrame => exact tending_endFrame
  | resize window => exact tending_resize window
  | setPipelineState v => exact absurd rfl (hState v)
  | reloadShaders => exact tending_reloadShaders.bind fun _ => tending_of_leaves (within_pure ())
  | setMatrices matrices => exact tending_of_leaves leaves_set
  | setClearColor color => exact tending_of_leaves leaves_set
  | waitIdle => exact tending_of_leaves (leaves_onHost GpuContext.within_waitIdle)
  | follow script =>
    refine tending_of_leaves (within_change fun s => ⟨⟨rfl, rfl, ?_⟩, rfl, rfl⟩)
    exact (grows_follow script s.2.gpu).history
  | edit files =>
    exact tending_of_leaves (within_change fun s => ⟨⟨rfl, rfl, List.suffix_refl _⟩, rfl, rfl⟩)

/-- However such a call ends, the pair is kept. -/
theorem Step.keepsPair (hStep : Step s c t) (hState : ∀ v, c ≠ .setPipelineState v) :
    KeepsPair s t := by
  obtain ⟨r, hRun⟩ := hStep
  cases r with
  | ok _ => exact ((tending_serve hState s).of_ok hRun).1
  | error e => exact (tending_serve hState s).of_error hRun

/-- Between calls that set a state, the pair goes on to be that of the state to draw with. -/
theorem keepsPair_of_leads (hLeads : Leads (fun _ c _ => ∀ v, c ≠ .setPipelineState v) s t) :
    KeepsPair s t := by
  induction hLeads with
  | here => exact (Steady.refl s : LeavesPair s s).keeps
  | step c _ hStep hState ih => exact ih.trans (hStep.keepsPair hState)

-- ---------------------------------------------------------------------------
-- Setting a state
-- ---------------------------------------------------------------------------

/-- What the registry has for a state and its wireframe was built for those. -/
def FindsPair (v : PipelineState) (s : Renderer × Host) (h : GpuHistory) : Prop :=
  s.1.basis.Finds h s.1.pipelines.registry v ∧ s.1.basis.Finds h s.1.pipelines.registry v.wireframe

/-- If all in the registry is of now, what is found for a state was built for it. -/
theorem Current.findsPair (hCurrent : Current s) {h : GpuHistory} (hSuffix : s.2.gpu.history <:+ h)
    (v : PipelineState) : FindsPair v s h := by
  have hFiled := PipelineBasis.Filed.of_suffix hCurrent hSuffix
  exact ⟨hFiled.finds v, hFiled.finds v.wireframe⟩

/-- What a state that was accepted is worth. -/
structure Accepted (v : PipelineState) (s t : Renderer × Host) : Prop where
  state : t.1.pipelineState = v
  history : s.2.gpu.history <:+ t.2.gpu.history
  same : v = s.1.pipelineState → t = s
  shows_iff : v ≠ s.1.pipelineState → (Shows v t ↔ FindsPair v s t.2.gpu.history)
  current : Current s → Current t

/-- What a state that was refused leaves behind. -/
structure Refused (s t : Renderer × Host) : Prop where
  pair : t.1.pipelines.pair = s.1.pipelines.pair
  history : s.2.gpu.history <:+ t.2.gpu.history
  current : Current s → Current t

/-- The ways out of a change of state. -/
theorem ensures_setPipelineState (v : PipelineState) (s : Renderer × Host) :
    (setPipelineState v).Ensures s (fun _ t => Accepted v s t) (fun _ t => Refused s t) := by
  rw [setPipelineState, requireNoFrame, ensures_bind, ensures_bind, ensures_get]
  refine ensures_ite (fun _ => ?_) fun _ => ?_
  · rw [ensures_throw]
    exact ⟨rfl, List.suffix_refl _, id⟩
  rw [ensures_pure, ensures_bind, ensures_get]
  -- another state is remembered before its pair is built
  refine ensures_ite (fun hNew => ?_) fun hSame => ?_
  · rw [ensures_bind, set, ensures_change, buildPipelines, ensures_bind, ensures_get, onPipelines,
      ensures_on]
    refine (Pipelines.ensures_buildPair_shows s.1.basis v (s.1.pipelines, s.2)).mono ?_ ?_
    · rintro - ⟨p, h⟩ ⟨hGoes, hShows⟩
      exact ⟨rfl, hGoes.history, fun hSame => absurd hSame hNew, fun _ => hShows, hGoes.filed⟩
    · rintro e ⟨p, h⟩ ⟨hGoes, hPair⟩
      exact ⟨hPair, hGoes.history, hGoes.filed⟩
  · rw [ensures_pure]
    have hState : s.1.pipelineState = v := (Decidable.not_not.mp hSame).symm
    exact ⟨hState, List.suffix_refl _, fun _ => rfl, fun hNew => absurd hState.symm hNew, id⟩

-- ---------------------------------------------------------------------------
-- New renderers
-- ---------------------------------------------------------------------------

/-- The first pair there is shows the state of the renderer. -/
theorem ensures_makeProgram_shows (hUnequipped : Unequipped s) :
    makeProgram.Ensures s (fun _ t => Shows t.1.pipelineState t ∧ Current t) (fun _ _ => True) := by
  have hModules : ∀ p, (onModules (ShaderModules.create p)).Within LeavesPair := fun p =>
    (ShaderModules.within_create (R := Gpu.Grows) p).on fun _ _ h => ⟨rfl, rfl, h.history⟩
  rw [makeProgram, ensures_bind, ensures_get, ensures_bind]
  refine (hModules _ s).mono (fun _ s₁ h₁ => ?_) fun _ _ _ => trivial
  rw [ensures_bind, ensures_get, ensures_bind]
  refine (leaves_onDescriptors (Descriptors.within_build _ _) s₁).mono (fun _ s₂ h₂ => ?_)
    fun _ _ _ => trivial
  -- there was no pair before, so the registry is empty
  have hNone : s₂.1.pipelines.registry = {} := by
    rw [h₂.pipelines, h₁.pipelines, hUnequipped.pipelines]
  rw [buildPipelines, ensures_bind, ensures_get, onPipelines, ensures_on]
  refine (Pipelines.ensures_buildPair_shows s₂.1.basis _ (s₂.1.pipelines, s₂.2)).mono ?_
    fun _ _ _ => trivial
  rintro - ⟨p, h⟩ ⟨hGoes, hShows⟩
  constructor
  · refine hShows.mpr ?_
    dsimp only
    rw [hNone]
    exact ⟨s₂.1.basis.finds_empty _ _, s₂.1.basis.finds_empty _ _⟩
  · refine hGoes.filed ?_
    dsimp only
    rw [hNone]
    exact s₂.1.basis.filed_empty _

/-- A new renderer shows the state it remembers. -/
theorem ensures_create_shows (window : Window) (config : RendererConfig) (h : Host) :
    (create window config).Ensures h
      (fun r h' => Shows r.pipelineState (r, h') ∧ Current (r, h')) (fun _ _ => True) := by
  have hPush : ∀ e (t : Renderer × Host), Shows t.1.pipelineState t ∧ Current t →
      Shows t.1.pipelineState (Logging.push e t) ∧ Current (Logging.push e t) := by
    rintro e t ⟨hShows, hCurrent⟩
    have hLeaves : Leaves t (Logging.push e t) := Steady.push e t
    exact ⟨hLeaves.shows hShows, hLeaves.current hCurrent⟩
  exact ensures_create_of_program hPush (fun _ => ensures_makeProgram_shows) window config h

-- ---------------------------------------------------------------------------
-- Reachable renderers
-- ---------------------------------------------------------------------------

/-- A call that fails leaves nothing of earlier generations in the registry. -/
def Tidies (s : Renderer × Host) (c : Request) (t : Renderer × Host) : Prop :=
  ∀ e, start (serve c) s = some (.error e, t) → Current t

/-- A call that fails leaves the state to draw with as it is, too. -/
def Restores (s : Renderer × Host) (c : Request) (t : Renderer × Host) : Prop :=
  Tidies s c t ∧
    ∀ e, start (serve c) s = some (.error e, t) → t.1.pipelineState = s.1.pipelineState

/-- A call that returns leaves nothing of earlier generations in the registry if there was nothing
before. -/
theorem current_of_ok {a : Unit} (hCurrent : Current s)
    (hRun : start (serve c) s = some (.ok a, t)) : Current t := by
  by_cases hState : ∃ v, c = .setPipelineState v
  · obtain ⟨v, rfl⟩ := hState
    exact ((ensures_setPipelineState v s).of_ok hRun).current hCurrent
  · have hOther : ∀ v, c ≠ .setPipelineState v := fun v h => hState ⟨v, h⟩
    exact ((tending_serve hOther s).of_ok hRun).2 hCurrent

/-- In renderers that tidy up after failed calls all pipelines are of now. -/
theorem current_of_reachable (hReachable : Reachable Tidies s) : Current s := by
  induction hReachable with
  | @created window config h h' r _ hRun => exact ((ensures_create_shows window config h).of_ok hRun).2
  | step c _ hStep hTidies ih =>
    obtain ⟨r, hRun⟩ := hStep
    cases r with
    | ok _ => exact current_of_ok ih hRun
    | error e => exact hTidies e hRun

/-- To restore is to tidy up, among other things. -/
theorem Reachable.tidies (hReachable : Reachable Restores s) : Reachable Tidies s := by
  induction hReachable with
  | created hNew hRun => exact .created hNew hRun
  | step c _ hStep hRestores ih => exact ih.step c hStep hRestores.1

/-- The pair in use shows the state that is remembered, as long as no change of state fails. -/
theorem shows_of_reachable (hReachable : Reachable Restores s) : Shows s.1.pipelineState s := by
  induction hReachable with
  | @created window config h h' r _ hRun => exact ((ensures_create_shows window config h).of_ok hRun).1
  | @step s t c hBefore hStep hRestores ih =>
    by_cases hState : ∃ v, c = .setPipelineState v
    · obtain ⟨v, rfl⟩ := hState
      obtain ⟨r, hRun⟩ := hStep
      cases r with
      | ok _ =>
        have hAccepted := (ensures_setPipelineState v s).of_ok hRun
        rw [hAccepted.state]
        by_cases hSame : v = s.1.pipelineState
        · -- the state was the remembered one, and nothing was done
          rw [hAccepted.same hSame, hSame]
          exact ih
        · have hCurrent := current_of_reachable hBefore.tidies
          exact (hAccepted.shows_iff hSame).mpr (hCurrent.findsPair hAccepted.history v)
      | error e =>
        have hRefused := (ensures_setPipelineState v s).of_error hRun
        rw [hRestores.2 e hRun]
        exact ih.kept hRefused.pair hRefused.history
    · have hKeeps := hStep.keepsPair fun v h => hState ⟨v, h⟩
      rw [hKeeps.state]
      exact hKeeps.shows ih

end RenderLoop.Renderer
