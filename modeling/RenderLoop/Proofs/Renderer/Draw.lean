import RenderLoop.Proofs.Renderer.Fit

/-!
# RenderLoop — draws

A draw writes to the buffer of its frame, and only commands that neither begin nor
end a render pass and name nothing that frames are made of (`GpuCommand.isDrawing`).
So what was finishable stays so (`Draws.finishable`), and a renderer stays fit
however a draw ends (`ensures_draw`).
-/

namespace RenderLoop

/-- Whether a command is one of drawing: it names no part of the screen. -/
def GpuCommand.isDrawing : GpuCommand → Bool
  | .beginRenderPass _ _ _ _ | .endRenderPass | .barrier _ _ => false
  | _ => true

/-- The pipeline that a command binds. -/
def GpuCommand.pipeline? : GpuCommand → Option Handle
  | .bindPipeline x => some x
  | _ => none

namespace GpuHistory

variable {h h' h'' : GpuHistory} {b : Handle}

/-- A command of drawing names no part of the screen that could be gone. -/
theorem not_dangles_of_isDrawing {c : GpuCommand} (hDrawing : c.isDrawing = true) :
    ¬ Dangles h c := by
  cases c <;> first | exact id | cases hDrawing

/-- Drawing neither opens nor closes a render pass. -/
theorem inPass_append {cs : List GpuCommand} (hDrawing : ∀ c ∈ cs, c.isDrawing = true)
    (before : List GpuCommand) : inPass (cs ++ before) = inPass before := by
  induction cs with
  | nil => rfl
  | cons c rest ih =>
    have hRest := ih fun c' hc' => hDrawing c' (List.mem_cons_of_mem c hc')
    have hFirst := hDrawing c List.mem_cons_self
    cases c <;> first | exact hRest | cases hFirst

/-- Drawing leaves render passes as paired as they were. -/
theorem paired_append {cs : List GpuCommand} (hDrawing : ∀ c ∈ cs, c.isDrawing = true)
    (before : List GpuCommand) : Paired (cs ++ before) ↔ Paired before := by
  induction cs with
  | nil => exact Iff.rfl
  | cons c rest ih =>
    have hRest := ih fun c' hc' => hDrawing c' (List.mem_cons_of_mem c hc')
    have hFirst := hDrawing c List.mem_cons_self
    cases c <;> first | exact hRest | cases hFirst

/-- A history goes on with nothing but drawing, into one buffer. -/
structure Draws (b : Handle) (h h' : GpuHistory) : Prop extends Spares h h' where
  drawn : ∃ cs, commands b h' = cs ++ commands b h ∧ ∀ c ∈ cs, c.isDrawing = true
  others : ∀ b', b' ≠ b → commands b' h' = commands b' h
  clean : Clean h → Clean h'

/-- What passes by draws nothing. -/
theorem Passes.draws (hPasses : Passes h h') : Draws b h h' where
  toSpares := hPasses.toSpares
  drawn := ⟨[], hPasses.commands b, nofun⟩
  others b' _ := hPasses.commands b'
  clean := hPasses.clean

/-- Drawing goes on in steps. -/
theorem Draws.trans (hFirst : Draws b h h') (hNext : Draws b h' h'') : Draws b h h'' := by
  obtain ⟨cs, hCs, hDrawing⟩ := hFirst.drawn
  obtain ⟨cs', hCs', hDrawing'⟩ := hNext.drawn
  refine ⟨hFirst.toSpares.trans hNext.toSpares, ⟨cs' ++ cs, ?_, ?_⟩, ?_, ?_⟩
  · rw [hCs', hCs, List.append_assoc]
  · intro c hc
    rcases List.mem_append.mp hc with hc | hc
    · exact hDrawing' c hc
    · exact hDrawing c hc
  · exact fun b' hb' => (hNext.others b' hb').trans (hFirst.others b' hb')
  · exact fun hClean => hNext.clean (hFirst.clean hClean)

/-- What could be finished can be finished after drawing. -/
theorem Draws.finishable (hDraws : Draws b h h') (hFinishable : Finishable h b) :
    Finishable h' b := by
  obtain ⟨cs, hCs, hDrawing⟩ := hDraws.drawn
  constructor
  · rw [hCs]
    intro c hc
    rcases List.mem_append.mp hc with hc | hc
    · exact not_dangles_of_isDrawing (hDrawing c hc)
    · exact (hDraws.toSpares.named_iff _).mpr hFinishable.named c hc
  · rw [hCs, Paired, inPass_append hDrawing, paired_append hDrawing]
    exact hFinishable.paired

end GpuHistory

open GpuHistory Op

namespace Renderer

variable {s t : Renderer × Host}

/-- What frames are made of stays, but for what is drawn into a buffer. -/
abbrev Drawn (b : Handle) : Renderer × Host → Renderer × Host → Prop := Beside (Draws b)

instance (b : Handle) : Gpu.Passage (Gpu.Goes (Draws b)) where
  refl g := (Gpu.Passes.refl g).mono GpuHistory.Passes.draws
  trans h h' := h.trans h' GpuHistory.Draws.trans

/-- What happens aside may happen during a draw. -/
theorem drawn_of_aside {α : Type} {op : Action α} (hOp : op.Within Aside) (b : Handle) :
    op.Within (Drawn b) :=
  hOp.mono fun _ _ h => h.mono fun hGoes => hGoes.mono GpuHistory.Passes.draws

-- ---------------------------------------------------------------------------
-- The parts of a draw
-- ---------------------------------------------------------------------------

/-- Relations that a draw into a buffer keeps to with all steps that are not about pipelines: storing
data, and recording a command of drawing. -/
structure DataSteps (b : CommandBuffer) (R : Renderer × Host → Renderer × Host → Prop) : Prop where
  store : ∀ bytes, (onMemory (FrameMemory.store bytes)).Within R
  storeUniform : ∀ bytes, (onMemory (FrameMemory.storeUniform bytes)).Within R
  record : ∀ c : GpuCommand, c.isDrawing = true → c.pipeline? = none → (record b c).Within R

/-- Relations that all steps of a draw into a buffer keep to. -/
structure DrawSteps (b : CommandBuffer) (R : Renderer × Host → Renderer × Host → Prop) : Prop extends
    DataSteps b R where
  pipeline : ∀ x, (Renderer.record b (.bindPipeline x)).Within R

/-- Relations that recording any command of drawing keeps to. -/
theorem drawSteps_of_record {b : CommandBuffer} {R : Renderer × Host → Renderer × Host → Prop}
    (hStore : ∀ bytes, (onMemory (FrameMemory.store bytes)).Within R)
    (hStoreUniform : ∀ bytes, (onMemory (FrameMemory.storeUniform bytes)).Within R)
    (hRecord : ∀ c : GpuCommand, c.isDrawing = true → (Renderer.record b c).Within R) :
    DrawSteps b R where
  toDataSteps := ⟨hStore, hStoreUniform, fun c hDrawing _ => hRecord c hDrawing⟩
  pipeline _ := hRecord _ rfl

section Steps

variable {b : CommandBuffer} {R : Renderer × Host → Renderer × Host → Prop} [Steady R]

/-- Finding the places of uniform data is a matter of storing it. -/
theorem within_uniformOffset
    (hStore : ∀ bytes, (onMemory (FrameMemory.storeUniform bytes)).Within R)
    (stored : StoredUniforms) (slot : Slot) : (uniformOffset stored slot).Within R := by
  have hStoredOr : ∀ (stored : Option UInt64) bytes,
      (storedOr stored (onMemory (FrameMemory.storeUniform bytes))).Within R := by
    intro stored bytes
    cases stored with
    | some offset => exact within_pure offset
    | none => exact hStore bytes
  refine within_ite ?_ ?_
  · refine within_get.bind fun _ => ?_
    refine (hStoredOr _ _).bind fun _ => ?_
    exact within_pure _
  · exact (hStoredOr _ _).bind fun _ => within_pure _

/-- Finding the places for all slots is a matter of storing their data. -/
theorem within_uniformOffsets
    (hStore : ∀ bytes, (onMemory (FrameMemory.storeUniform bytes)).Within R)
    (stored : StoredUniforms) (slots : List Slot) : (uniformOffsets stored slots).Within R := by
  induction slots generalizing stored with
  | nil => exact within_pure []
  | cons slot rest ih =>
    refine (within_uniformOffset hStore stored slot).bind fun found => ?_
    refine (within_ofExcept _).bind fun _ => ?_
    refine (ih found.2).bind fun _ => ?_
    exact within_pure _

/-- Sets are bound in data steps. -/
theorem DataSteps.bindSets (h : DataSteps b R) : (bindSets b).Within R := by
  refine within_get.bind fun s => ?_
  refine (within_uniformOffsets h.storeUniform _ _).bind fun offsets => ?_
  refine within_get.bind fun s => ?_
  rw [Descriptors.bindCommand?]
  split
  · rename_i c hCommand
    split at hCommand
    · cases hCommand
    · cases hCommand
      exact h.record _ rfl rfl
  · exact within_pure ()

/-- Streams are bound in data steps. -/
theorem DataSteps.bindStreams (h : DataSteps b R) (streams : List VertexStream) :
    (bindStreams b streams).Within R := by
  induction streams with
  | nil => exact within_pure ()
  | cons stream rest ih =>
    refine Within.bind ?_ fun _ => ih
    refine (h.store stream.bytes).bind fun _ => ?_
    refine within_get.bind fun _ => ?_
    exact h.record _ rfl rfl

/-- Indices are bound in data steps, if there are any. -/
theorem DataSteps.bindIndices (h : DataSteps b R) (mesh : Mesh) : (bindIndices b mesh).Within R := by
  refine within_ite ?_ (within_pure ())
  refine (h.store mesh.indexBytes).bind fun _ => ?_
  exact within_get.bind fun _ => h.record _ rfl rfl

/-- What is drawn once sets and pipeline are bound. -/
theorem DataSteps.drawStreams (h : DataSteps b R) (mesh : Mesh) :
    (do Renderer.bindStreams b (mesh.streams.filter (reads (← get).1.program.vertexInput))
        Renderer.bindIndices b mesh
        Renderer.record b (.draw mesh.drawCall) : Action Unit).Within R := by
  refine within_get.bind fun _ => ?_
  refine (h.bindStreams _).bind fun _ => ?_
  refine (h.bindIndices mesh).bind fun _ => ?_
  exact h.record _ rfl rfl

/-- The pipeline is bound without any data. -/
theorem DrawSteps.bindPipeline (h : DrawSteps b R) (mode : PolyRenderMode) :
    (bindPipeline b mode).Within R := by
  refine within_get.bind fun s => ?_
  split
  · exact h.pipeline _
  · exact within_pure ()

/-- What the steps of a draw keep to, a draw keeps to. -/
theorem DrawSteps.drawMesh (h : DrawSteps b R) (mesh : Mesh) (mode : PolyRenderMode) :
    (drawMesh b mesh mode).Within R := by
  refine h.bindSets.bind fun _ => ?_
  refine (h.bindPipeline mode).bind fun _ => ?_
  exact h.drawStreams mesh

/-- What all steps of a draw keep to, whatever the buffer, a call keeps to. -/
theorem within_draw (hSteps : ∀ b, DrawSteps b R) (mesh : Mesh) (mode : PolyRenderMode) :
    (draw mesh mode).Within R := by
  refine (within_currentFrame _).bind fun f => ?_
  exact within_ite (within_log _) ((hSteps f.buffer).drawMesh mesh mode)

end Steps

/-- Every step of a draw draws into its buffer. -/
theorem drawSteps_drawn (b : CommandBuffer) : DrawSteps b (Drawn b.handle) := by
  refine drawSteps_of_record ?_ ?_ fun c hDrawing => within_change fun s =>
    beside_of_goes (Gpu.goes_happen ?_)
  · exact fun bytes => drawn_of_aside (aside_onMemory (FrameMemory.within_store bytes)) b.handle
  · exact fun bytes =>
      drawn_of_aside (aside_onMemory (FrameMemory.within_storeUniform bytes)) b.handle
  · -- a recorded command is added to this buffer and to no other
    refine ⟨spares_cons rfl _, ⟨[c], ?_, ?_⟩, fun b' hb' => ?_, fun hClean => hClean.cons nofun⟩
    · exact Gpu.commands_record_self _ _ s.2.gpu
    · exact fun c' hc' => List.mem_singleton.mp hc' ▸ hDrawing
    · exact Gpu.commands_record_of_ne (Ne.symm hb') c s.2.gpu

-- ---------------------------------------------------------------------------
-- Whole draws
-- ---------------------------------------------------------------------------

/-- A draw into the buffer of a frame leaves the setup buffer alone. -/
theorem Drawn.serves {b : CommandBuffer} (h : Drawn b.handle s t) (hTidy : Tidy s)
    (hDraw : b ∈ s.1.machine.recorder.draw) : Serves True s t := by
  refine Beside.serves h hTidy (h.goes.mono GpuHistory.Draws.toSpares) ?_ h.goes.history.clean
  intro x hSetup
  refine h.goes.history.others x ?_
  rintro rfl
  exact hTidy.apart.apart b (Recorder.mem_frames_of_draw hDraw) hSetup

/-- Drawing into the buffer of the frame keeps a renderer fit. -/
theorem Fit.of_drawn {f : Frame} (h : Fit s) (hFrame : s.1.frame = some f)
    (hDrawn : Drawn f.buffer.handle s t) : Fit t := by
  obtain ⟨f', hPending⟩ := h.frames.resolve_left fun hResting => by
    rw [hResting.frame] at hFrame
    cases hFrame
  obtain rfl : f' = f := Option.some.inj (hPending.frame.symm.trans hFrame)
  have hServes := hDrawn.serves h.tidy hPending.draw
  refine ⟨h.tidy.of_serves hServes, hDrawn.goes.history.clean h.clean, h.sound.of_serves hServes,
    .inr ⟨f', ?_⟩⟩
  exact hPending.of_spares hDrawn.frame hDrawn.recorder hDrawn.state hDrawn.swapchain hDrawn.device
    hDrawn.goes.history.toSpares (hDrawn.goes.history.finishable hPending.well.finishable)

/-- The frame there is, or a failure. -/
theorem ensures_currentFrame (operation : String) {ok : Frame → Renderer × Host → Prop}
    {fail : RenderError → Renderer × Host → Prop} (hOk : ∀ f, s.1.frame = some f → ok f s)
    (hFail : ∀ e, s.1.frame = none → fail e s) :
    (currentFrame operation).Ensures s ok fail := by
  rw [currentFrame, ensures_bind, ensures_get]
  dsimp only
  cases hFrame : s.1.frame with
  | some f =>
    rw [ensures_pure]
    exact hOk f hFrame
  | none =>
    rw [ensures_throw]
    exact hFail _ hFrame

/-- A draw draws into the buffer of the frame, if there is one, and is refused otherwise. -/
theorem ensures_draw_of_drawn (mesh : Mesh) (mode : PolyRenderMode) {P : Renderer × Host → Prop}
    (hDrawn : ∀ f t, s.1.frame = some f → Drawn f.buffer.handle s t → P t) (hRefused : P s) :
    (draw mesh mode).Ensures s (fun _ t => P t) (fun _ t => P t) := by
  rw [draw, ensures_bind]
  refine ensures_currentFrame _ (fun f hFrame => ?_) fun _ _ => hRefused
  have hDraws : Within (Drawn f.buffer.handle) (if mesh.vertexCount = 0 then
      Op.log (.trace component "Skipping draw of an empty mesh")
    else drawMesh f.buffer mesh mode) :=
    within_ite (within_log _) ((drawSteps_drawn f.buffer).drawMesh mesh mode)
  exact (hDraws s).mono (fun _ t => hDrawn f t hFrame) fun _ t => hDrawn f t hFrame

/-- However a draw ends, the renderer stays fit. -/
theorem ensures_draw (mesh : Mesh) (mode : PolyRenderMode) (h : Fit s) :
    (draw mesh mode).Ensures s (fun _ t => Fit t) (fun _ t => Fit t) :=
  ensures_draw_of_drawn mesh mode (fun _ _ hFrame hDrawn => h.of_drawn hFrame hDrawn) h

end Renderer

end RenderLoop
