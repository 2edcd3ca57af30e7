import RenderLoop.Proofs.Renderer.PairInUse

/-!
# RenderLoop — accepted states

A draw binds one pipeline, that of its mode in the pair in use (`Renderer.Employs`).
So while the pair shows a state, draws are made with pipelines that were built for that
state, or in wireframe mode for the same state with polygons drawn as lines
(`Renderer.DrawsWith`).

A state is accepted when the call that sets it returns. Then the pair shows the new
state or, if the state was the remembered one already, whatever it showed before
(`shows_iff_of_setPipelineState`). The two are the same unless an earlier change of
state has failed: it leaves its state remembered and not in use, and the next call with
that state finds nothing to do.
-/

namespace RenderLoop

open GpuHistory Op

/-- The pipelines that are bound in a buffer, the last one first. -/
def GpuHistory.boundIn (b : Handle) (h : GpuHistory) : List Handle :=
  (commands b h).filterMap GpuCommand.pipeline?

/-- What a state is drawn with in a mode. -/
def PipelineState.inMode (v : PipelineState) : PolyRenderMode → PipelineState
  | .wireframe => v.wireframe
  | .fill | .points => v

namespace Renderer

variable {s t u : Renderer × Host} {v : PipelineState} {b : CommandBuffer} {xs ys : List Handle}
  {α : Type}

-- ---------------------------------------------------------------------------
-- What draws bind
-- ---------------------------------------------------------------------------

/-- Pipelines were bound in a buffer, and nothing else has become of them. -/
structure Employs (b : CommandBuffer) (xs : List Handle) (s t : Renderer × Host) : Prop where
  pipelines : t.1.pipelines = s.1.pipelines
  history : s.2.gpu.history <:+ t.2.gpu.history
  bound : boundIn b.handle t.2.gpu.history = xs ++ boundIn b.handle s.2.gpu.history

theorem Employs.trans (h : Employs b xs s t) (h' : Employs b ys t u) : Employs b (ys ++ xs) s u := by
  refine ⟨h'.pipelines.trans h.pipelines, h.history.trans h'.history, ?_⟩
  rw [h'.bound, h.bound, List.append_assoc]

instance (b : CommandBuffer) : Steady (Employs b []) where
  refl _ := ⟨rfl, List.suffix_refl _, rfl⟩
  trans h h' := h.trans h'
  push _ _ := ⟨rfl, List.suffix_refl _, rfl⟩

/-- Recording one command binds the pipeline that the command names, if it names one. -/
theorem employs_record (c : GpuCommand) (s : Renderer × Host) :
    Employs b c.pipeline?.toList s (s.1, s.2.record b.handle c) := by
  refine ⟨rfl, List.suffix_cons _ _, ?_⟩
  have hCommands : commands b.handle (s.2.record b.handle c).gpu.history =
      c :: commands b.handle s.2.gpu.history := Gpu.commands_record_self _ _ s.2.gpu
  rw [boundIn, hCommands, List.filterMap_cons]
  cases c.pipeline? <;> rfl

/-- The memory binds no pipelines. -/
theorem employs_onMemory {op : Op (FrameMemory × Host) α} (hOp : op.Within Passes) :
    (onMemory op).Within (Employs b []) := by
  refine hOp.on fun _ _ h => ⟨rfl, h.history.suffix, ?_⟩
  exact congrArg (List.filterMap GpuCommand.pipeline?) (h.history.commands _)

/-- Storing a draw's data binds no pipelines. -/
theorem dataSteps_employs (b : CommandBuffer) : DataSteps b (Employs b []) where
  store bytes := employs_onMemory (FrameMemory.within_store bytes)
  storeUniform bytes := employs_onMemory (FrameMemory.within_storeUniform bytes)
  record c _ hOther := by
    refine within_change fun s => ?_
    have hRecord := employs_record (b := b) c s
    rw [hOther] at hRecord
    exact hRecord

/-- The pipeline of a mode, if there is a pair. -/
def inMode (s : Renderer × Host) (mode : PolyRenderMode) : List Handle :=
  (s.1.pipelines.pair.map (·.select mode)).toList

/-- Binding by mode binds the pipeline of that mode, if there is a pair. -/
theorem ensures_bindPipeline_employs (b : CommandBuffer) (mode : PolyRenderMode)
    (s : Renderer × Host) :
    (bindPipeline b mode).Ensures s (fun _ t => Employs b (inMode s mode) s t) (fun _ _ => False) := by
  rw [bindPipeline, ensures_bind, ensures_get, inMode]
  cases s.1.pipelines.pair with
  | some d =>
    dsimp only
    rw [record, ensures_change]
    exact employs_record (.bindPipeline _) s
  | none =>
    dsimp only
    rw [ensures_pure]
    exact (Steady.refl s : Employs b [] s s)

/-- A draw binds the pipeline of its mode, or fails before that or after it. -/
theorem ensures_drawMesh_employs (b : CommandBuffer) (mesh : Mesh) (mode : PolyRenderMode)
    (s : Renderer × Host) :
    (drawMesh b mesh mode).Ensures s (fun _ t => Employs b (inMode s mode) s t)
      (fun _ t => Employs b [] s t ∨ Employs b (inMode s mode) s t) := by
  have hSteps := dataSteps_employs b
  rw [drawMesh, ensures_bind]
  refine (hSteps.bindSets s).mono (fun _ s₁ h₁ => ?_) fun _ _ h => .inl h
  have hMode : inMode s₁ mode = inMode s mode := by
    rw [inMode, inMode, h₁.pipelines]
  rw [ensures_bind]
  refine (ensures_bindPipeline_employs b mode s₁).mono (fun _ s₂ h₂ => ?_) fun _ _ h => h.elim
  rw [hMode] at h₂
  have hBound : Employs b (inMode s mode) s s₂ := by
    simpa only [List.append_nil] using h₁.trans h₂
  exact (hSteps.drawStreams mesh s₂).mono (fun _ _ h => hBound.trans h)
    fun _ _ h => .inr (hBound.trans h)

/-- A draw into a frame does the same. Of a mesh without vertices it binds nothing. -/
theorem ensures_draw_employs {f : Frame} (mesh : Mesh) (mode : PolyRenderMode)
    (hFrame : s.1.frame = some f) :
    (draw mesh mode).Ensures s
      (fun _ t => Employs f.buffer (inMode s mode) s t ∨
        mesh.vertexCount = 0 ∧ Employs f.buffer [] s t)
      (fun _ t => Employs f.buffer (inMode s mode) s t ∨ Employs f.buffer [] s t) := by
  rw [draw, ensures_bind]
  refine ensures_currentFrame _ (fun f' hFrame' => ?_) fun _ hNone => ?_
  · obtain rfl : f = f' := Option.some.inj (hFrame.symm.trans hFrame')
    refine ensures_ite (fun hEmpty => ?_) fun _ => ?_
    · rw [ensures_log]
      exact .inr ⟨hEmpty, Steady.push _ s⟩
    · refine (ensures_drawMesh_employs f.buffer mesh mode s).mono ?_ ?_
      · intro _ t hEmploys
        exact .inl hEmploys
      · intro _ t hEmploys
        exact hEmploys.symm
  · rw [hFrame] at hNone
    cases hNone

/-- Draws bind only pipelines that were built for a state, and draws that return have bound one. -/
def DrawsWith (v : PipelineState) (s : Renderer × Host) : Prop :=
  ∀ mesh mode f r t, s.1.frame = some f → start (draw mesh mode) s = some (r, t) →
    ∃ xs, boundIn f.buffer.handle t.2.gpu.history =
        xs ++ boundIn f.buffer.handle s.2.gpu.history ∧
      (∀ x ∈ xs, BuiltFor t.2.gpu.history (v.inMode mode) x) ∧
      (r = .ok () → mesh.vertexCount ≠ 0 → xs ≠ [])

/-- A renderer that shows a state has, for each mode, a pipeline that was built for it. -/
theorem Shows.inMode_eq (hShows : Shows v s) (mode : PolyRenderMode) :
    ∃ x, inMode s mode = [x] ∧ BuiltFor s.2.gpu.history (v.inMode mode) x := by
  obtain ⟨d, hPair, hSolid, hWireframe⟩ := hShows
  refine ⟨d.select mode, ?_, ?_⟩
  · rw [inMode, hPair]
    rfl
  · cases mode with
    | wireframe => exact hWireframe
    | fill => exact hSolid
    | points => exact hSolid

/-- Draws are made with what the pair shows. -/
theorem Shows.drawsWith (hShows : Shows v s) : DrawsWith v s := by
  intro mesh mode f r t hFrame hRun
  obtain ⟨x, hMode, hBuilt⟩ := hShows.inMode_eq mode
  have hDraw := ensures_draw_employs mesh mode hFrame
  rw [hMode] at hDraw
  -- what was built before the draw is still on record after it
  have hNew : s.2.gpu.history <:+ t.2.gpu.history →
      ∀ y ∈ [x], BuiltFor t.2.gpu.history (v.inMode mode) y := by
    intro hSuffix y hy
    rw [List.mem_singleton.mp hy]
    exact hBuilt.of_suffix hSuffix
  cases r with
  | ok _ =>
    rcases hDraw.of_ok hRun with hBinds | ⟨hEmpty, hNone⟩
    · exact ⟨[x], hBinds.bound, hNew hBinds.history, fun _ _ => List.cons_ne_nil _ _⟩
    · exact ⟨[], hNone.bound, List.forall_mem_nil _, fun _ hVertices => absurd hEmpty hVertices⟩
  | error e =>
    rcases hDraw.of_error hRun with hBinds | hNone
    · exact ⟨[x], hBinds.bound, hNew hBinds.history, fun hOk => by cases hOk⟩
    · exact ⟨[], hNone.bound, List.forall_mem_nil _, fun hOk => by cases hOk⟩

-- ---------------------------------------------------------------------------
-- What an accepted state is worth
-- ---------------------------------------------------------------------------

/-- Until another state is set, draws are made with the state that the pair shows. -/
theorem Shows.drawsWith_of_leads (hShows : Shows v s) (hState : s.1.pipelineState = v)
    (hLeads : Leads (fun _ c _ => ∀ w, c ≠ .setPipelineState w) s t) : DrawsWith v t := by
  have hKept : Shows s.1.pipelineState t := by
    refine (keepsPair_of_leads hLeads).shows ?_
    rw [hState]
    exact hShows
  rw [hState] at hKept
  exact hKept.drawsWith

/-- **What an accepted state is worth.** The pair shows it exactly if it showed it before and the state
was remembered, or the state is new and what the registry already had for it was built for it. So a
state other than the remembered one is in use once it is accepted, as long as calls that fail leave
nothing of earlier generations in the registry; and any accepted state is, as long as calls that fail
do not change the remembered state, either. Being in use means that draws are made with it until
another state is set. -/
theorem shows_iff_of_setPipelineState
    (hRun : start (setPipelineState v) s = some (.ok (), t)) :
    (Shows v t ↔ if v = s.1.pipelineState then Shows v s else FindsPair v s t.2.gpu.history) ∧
      (Reachable Tidies s → v ≠ s.1.pipelineState → Shows v t) ∧
      (Reachable Restores s → Shows v t) ∧
      (Shows v t → ∀ u, Leads (fun _ c _ => ∀ w, c ≠ .setPipelineState w) t u → DrawsWith v u) := by
  have hAccepted := (ensures_setPipelineState v s).of_ok hRun
  have hNew : Reachable Tidies s → v ≠ s.1.pipelineState → Shows v t := by
    -- under failures that restore, the old state was shown as well
    intro hReachable hNe
    have hCurrent := current_of_reachable hReachable
    exact (hAccepted.shows_iff hNe).mpr (hCurrent.findsPair hAccepted.history v)
  refine ⟨?_, hNew, ?_, ?_⟩
  · by_cases hSame : v = s.1.pipelineState
    · -- the state it already had: the call does nothing
      rw [if_pos hSame, hAccepted.same hSame]
    · rw [if_neg hSame]
      exact hAccepted.shows_iff hSame
  · intro hReachable
    by_cases hSame : v = s.1.pipelineState
    · rw [hAccepted.same hSame, hSame]
      exact shows_of_reachable hReachable
    · exact hNew hReachable.tidies hSame
  · intro hShows u hLeads
    exact hShows.drawsWith_of_leads hAccepted.state hLeads

-- ---------------------------------------------------------------------------
-- A state that is accepted after it was refused
-- ---------------------------------------------------------------------------

/-- A state other than that of new renderers. -/
def sampleState : PipelineState := { cullMode := .back }

/-- A script in which the next pipeline is not built. -/
def unwilling : GpuScript := { faults := some [⟨"vkCreateGraphicsPipelines", some 1, ⟨-2⟩⟩] }

/-- A script in which nothing fails. -/
def willing : GpuScript := { faults := some [] }

/-- A new renderer that will not get its next pipeline. -/
def sampleUnwilling : Renderer × Host := (sample.1, sample.2.onGpu (Gpu.follow unwilling))

/-- What a refused change of state leaves behind. -/
def sampleRefused : Renderer × Host := (setPipelineState sampleState).after sampleUnwilling

/-- The same when pipelines are built again. -/
def sampleWilling : Renderer × Host :=
  (sampleRefused.1, sampleRefused.2.onGpu (Gpu.follow willing))

/-- The same once the state is accepted. -/
def sampleAccepted : Renderer × Host := (setPipelineState sampleState).after sampleWilling

/-- The state is accepted on the second try, and the pair does not show it. -/
theorem shows_iff_of_setPipelineState_after_failure :
    Reachable Tidies sampleWilling ∧
      start (setPipelineState sampleState) sampleWilling = some (.ok (), sampleAccepted) ∧
      sampleAccepted.1.pipelineState = sampleState ∧ ¬ Shows sampleState sampleAccepted := by
  have hFails : (setPipelineState sampleState).fails sampleUnwilling = true := by decide +kernel
  have hReturns : (setPipelineState sampleState).succeeds sampleWilling = true := by decide +kernel
  have hBefore : ¬ Shows sampleState sampleWilling := by decide +kernel
  have hState : sampleWilling.1.pipelineState = sampleState := by decide +kernel
  obtain ⟨e, hRefused⟩ := start_of_fails hFails
  obtain ⟨⟨⟩, hRun⟩ := start_of_succeeds hReturns
  have hFollow : ∀ (s : Renderer × Host) script t, Tidies s (.follow script) t := by
    intro s script t e hRun
    cases hRun
  have hAccepted : start (setPipelineState sampleState) sampleWilling =
      some (.ok (), sampleAccepted) := hRun
  have hFirst : Step sample (.follow unwilling) sampleUnwilling := ⟨.ok (), rfl⟩
  have hLast : Step sampleRefused (.follow willing) sampleWilling := ⟨.ok (), rfl⟩
  have hUnwilling : Reachable Tidies sampleUnwilling := reachable_sample.step _ hFirst (hFollow _ _ _)
  -- the refused build leaves the pipelines current, so the run is tidy
  have hTidies : Tidies sampleUnwilling (.setPipelineState sampleState) sampleRefused := by
    intro e hRun
    exact ((ensures_setPipelineState sampleState _).of_error hRun).current
      (current_of_reachable hUnwilling)
  have hStep : Step sampleUnwilling (.setPipelineState sampleState) sampleRefused :=
    ⟨.error e, hRefused⟩
  have hReachable : Reachable Tidies sampleWilling :=
    (hUnwilling.step _ hStep hTidies).step _ hLast (hFollow _ _ _)
  -- the second call finds the state already set and builds nothing
  have hWorth := (shows_iff_of_setPipelineState hAccepted).1
  rw [if_pos hState.symm] at hWorth
  have hRemembered := ((ensures_setPipelineState sampleState sampleWilling).of_ok hAccepted).state
  exact ⟨hReachable, hAccepted, hRemembered, fun hShows => hBefore (hWorth.mp hShows)⟩

end Renderer

end RenderLoop
