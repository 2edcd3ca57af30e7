import RenderLoop.Proofs.Renderer.DrawCommands
import RenderLoop.Proofs.Renderer.FrameData
import RenderLoop.Proofs.Renderer.FrameHeld
import RenderLoop.Proofs.Renderer.PairInUse

/-!
# RenderLoop — the draws of a frame

The buffer of a frame has one draw command for each draw that was **accepted**: that
returned and had vertices to draw (`Renderer.FrameCalls`). Draws that fail leave
commands behind that bind something; those draw nothing, and what a later draw needs
it binds itself. So the pipeline and the indices that are bound when a draw command
is recorded are those of its own draw (`Renderer.DrawnAs`), in whatever state the
draws before it left the buffer (`Renderer.draws_of_beginFrame`).

That a pipeline is bound at all is due to renderers having a pair of pipelines from
their creation on, which other pairs replace but nothing takes away
(`Renderer.paired_of_reachable`).
-/

namespace RenderLoop

open Op

-- ---------------------------------------------------------------------------
-- Draw commands
-- ---------------------------------------------------------------------------

namespace GpuCommand

/-- The place of the indices that a command binds. -/
def indices? : GpuCommand → Option (Handle × UInt64)
  | .bindIndices buffer offset => some (buffer, offset)
  | _ => none

end GpuCommand

namespace GpuHistory

/-- The draw commands among commands, each with the commands before it; newest first. -/
def drawMoments : List GpuCommand → List (DrawCall × List GpuCommand)
  | [] => []
  | c :: before => (c.drawCall?.map (·, before)).toList ++ drawMoments before

/-- The pipeline that is bound after commands, newest first. -/
def boundPipeline? (cs : List GpuCommand) : Option Handle := cs.findSome? GpuCommand.pipeline?

/-- The place of the indices that are bound after commands, newest first. -/
def boundIndices? (cs : List GpuCommand) : Option (Handle × UInt64) :=
  cs.findSome? GpuCommand.indices?

/-- Commands that do not draw add no draw commands. -/
theorem drawMoments_append {cs : List GpuCommand} (hNone : ∀ c ∈ cs, c.drawCall? = none)
    (before : List GpuCommand) : drawMoments (cs ++ before) = drawMoments before := by
  induction cs with
  | nil => rfl
  | cons c rest ih =>
    obtain ⟨hFirst, hRest⟩ := List.forall_mem_cons.mp hNone
    rw [List.cons_append, drawMoments, hFirst, ih hRest]
    rfl

end GpuHistory

open GpuHistory

-- ---------------------------------------------------------------------------
-- Meshes
-- ---------------------------------------------------------------------------

namespace Mesh

/-- The arrays of a mesh are shorter than what 32 bits count. -/
structure Countable (mesh : Mesh) : Prop where
  positions : mesh.positions.length < UInt32.size
  normals : mesh.normals.length < UInt32.size
  colors : mesh.colors.length < UInt32.size
  texCoords : mesh.texCoords.length < UInt32.size
  indices : mesh.indices.length < UInt32.size

/-- A draw call draws a whole mesh once: all its indices if there are any, else all its vertices. -/
def DrawnBy (mesh : Mesh) : DrawCall → Prop
  | .nonIndexed vertices instances firstVertex firstInstance =>
    mesh.indices = [] ∧ vertices.toNat = mesh.positions.length ∧
      instances = 1 ∧ firstVertex = 0 ∧ firstInstance = 0
  | .indexed indices instances firstIndex vertexOffset firstInstance =>
    mesh.indices ≠ [] ∧ indices.toNat = mesh.indices.length ∧
      instances = 1 ∧ firstIndex = 0 ∧ vertexOffset = 0 ∧ firstInstance = 0

variable {mesh : Mesh}

/-- A mesh has indices if their list is not empty. -/
theorem hasIndices_iff : mesh.hasIndices = true ↔ mesh.indices ≠ [] := by
  rw [hasIndices, Bool.not_eq_true', List.isEmpty_eq_false_iff]

/-- The counts of the draw call are those of the arrays. -/
theorem Countable.drawnBy (h : mesh.Countable) : mesh.DrawnBy mesh.drawCall := by
  rw [drawCall]
  split
  · rename_i hIndices
    exact ⟨hasIndices_iff.mp hIndices, UInt32.toNat_ofNat_of_lt' h.indices, rfl, rfl, rfl, rfl⟩
  · rename_i hNone
    have hEmpty : mesh.indices = [] := by
      by_contra hIndices
      exact hNone (hasIndices_iff.mpr hIndices)
    exact ⟨hEmpty, UInt32.toNat_ofNat_of_lt' h.positions, rfl, rfl, rfl⟩

/-- A mesh without vertices is one without positions. -/
theorem Countable.vertexCount_eq_zero_iff (h : mesh.Countable) :
    mesh.vertexCount = 0 ↔ mesh.positions = [] := by
  rw [← UInt32.toNat_inj, vertexCount, UInt32.toNat_ofNat_of_lt' h.positions]
  exact List.length_eq_zero_iff

/-- What each entry of an array takes. -/
theorem length_flatMap_const {α : Type} {f : α → List UInt8} {n : Nat}
    (hf : ∀ a, (f a).length = n) (xs : List α) : (xs.flatMap f).length = n * xs.length := by
  induction xs with
  | nil => rfl
  | cons x rest ih =>
    rw [List.flatMap_cons, List.length_append, hf, ih, List.length_cons, Nat.mul_succ, Nat.add_comm]

/-- What 32 bits count has bytes that 64 bits count. -/
theorem Countable.addressable (h : mesh.Countable) : Renderer.Addressable mesh := by
  obtain ⟨hPositions, hNormals, hColors, hTexCoords, hIndices⟩ := h
  simp only [UInt32.size] at hPositions hNormals hColors hTexCoords hIndices
  constructor
  · intro stream hStream
    have hStreams := (List.mem_filter.mp hStream).1
    simp only [List.mem_cons, List.not_mem_nil, or_false] at hStreams
    -- each array takes a fixed number of bytes for an element
    have hPositionBytes : (mesh.positions.flatMap bytes3).length = 12 * mesh.positions.length :=
      length_flatMap_const (fun v => length_bytesOfWords [v.x, v.y, v.z]) _
    have hNormalBytes : (mesh.normals.flatMap bytes3).length = 12 * mesh.normals.length :=
      length_flatMap_const (fun v => length_bytesOfWords [v.x, v.y, v.z]) _
    have hColorBytes : (mesh.colors.flatMap bytes4).length = 16 * mesh.colors.length :=
      length_flatMap_const (fun v => length_bytesOfWords [v.x, v.y, v.z, v.w]) _
    have hTexCoordBytes : (mesh.texCoords.flatMap bytes2).length = 8 * mesh.texCoords.length :=
      length_flatMap_const (fun v => length_bytesOfWords [v.x, v.y]) _
    rcases hStreams with rfl | rfl | rfl | rfl <;> simp only [UInt64.size] <;> omega
  · rw [indexBytes, length_bytesOfWords]
    simp only [UInt64.size]
    omega

end Mesh

namespace Renderer

variable {s t u : Renderer × Host} {f : Frame}

-- ---------------------------------------------------------------------------
-- Renderers have a pair of pipelines
-- ---------------------------------------------------------------------------

/-- A pair of pipelines that there was is replaced at most. -/
def KeepsPaired (s t : Renderer × Host) : Prop :=
  s.1.pipelines.pair.isSome = true → t.1.pipelines.pair.isSome = true

instance : Steady KeepsPaired where
  refl _ := id
  trans h h' := h' ∘ h
  push _ _ := id

/-- The pair may stay as it is. -/
theorem keepsPaired_of_same (h : t.1.pipelines.pair = s.1.pipelines.pair) : KeepsPaired s t := by
  intro hPaired
  rw [h]
  exact hPaired

/-- Building pipelines ends with a new pair, or with the old one. -/
theorem keepsPaired_buildPipelines : buildPipelines.Within KeepsPaired := by
  intro s
  rw [buildPipelines, ensures_bind, ensures_get, onPipelines, ensures_on, Pipelines.buildPair,
    ensures_bind, ensures_on]
  refine (ensures_true _ _).mono (fun pair t _ => ?_) fun _ _ _ => keepsPaired_of_same rfl
  rw [ensures_change]
  exact fun _ => rfl

/-- Changing the state ends with a new pair, or with the old one. -/
theorem keepsPaired_setPipelineState (state : PipelineState) :
    (setPipelineState state).Within KeepsPaired := by
  have hLeaves : ∀ {α : Type} {op : Action α}, op.Within Leaves → op.Within KeepsPaired :=
    fun hOp => hOp.mono fun _ _ h => keepsPaired_of_same (congrArg Pipelines.pair h.pipelines)
  refine (hLeaves (within_requireNoFrame _)).bind fun _ => ?_
  refine within_get.bind fun _ => ?_
  refine within_ite ?_ (within_pure ())
  exact Within.bind (within_change fun _ => keepsPaired_of_same rfl) fun _ =>
    keepsPaired_buildPipelines

/-- No call takes the pair away. -/
theorem Step.keepsPaired {c : Request} (hStep : Step s c t) : KeepsPaired s t := by
  by_cases hState : ∃ v, c = .setPipelineState v
  · obtain ⟨v, rfl⟩ := hState
    obtain ⟨r, hRun⟩ := hStep
    have hKeeps := keepsPaired_setPipelineState v s r t hRun
    cases r <;> exact hKeeps
  · rcases (hStep.keepsPair fun v h => hState ⟨v, h⟩).pair with hSame | hShows
    · exact keepsPaired_of_same hSame
    · obtain ⟨d, hPair, -⟩ := hShows
      intro _
      rw [hPair]
      rfl

/-- Renderers have a pair of pipelines from their creation on. -/
theorem paired_of_reachable {allowed : Renderer × Host → Request → Renderer × Host → Prop}
    (hReachable : Reachable allowed s) : ∃ pair, s.1.pipelines.pair = some pair := by
  rw [← Option.isSome_iff_exists]
  induction hReachable with
  | @created window config h h' r _ hRun =>
    obtain ⟨pair, hPair, -⟩ := ((ensures_create_inStep window config h).of_ok hRun).2.pipelines.pair
    rw [hPair]
    rfl
  | step _ _ hStep _ ih => exact hStep.keepsPaired ih

/-- A renderer and its frame machine agree. -/
theorem inOrder_of_reachable {allowed : Renderer × Host → Request → Renderer × Host → Prop}
    (hReachable : Reachable allowed s) : InOrder s := by
  induction hReachable with
  | @created window config h h' r hNew hRun =>
    exact ((ensures_create_order window config h hNew).of_ok hRun).1
  | step c _ hStep _ ih =>
    obtain ⟨r, hRun⟩ := hStep
    have hOutcome := ensures_serve_order c ih r _ hRun
    cases r <;> exact hOutcome.1

/-- What can be reached by some calls can be reached by any. -/
theorem Reachable.weaken {allowed : Renderer × Host → Request → Renderer × Host → Prop}
    (hReachable : Reachable allowed s) : Reachable (fun _ _ _ => True) s := by
  induction hReachable with
  | created hNew hRun => exact .created hNew hRun
  | step c _ hStep _ ih => exact ih.step c hStep trivial

-- ---------------------------------------------------------------------------
-- Accepted draws
-- ---------------------------------------------------------------------------

/-- A draw that was accepted: what was drawn, and the renderer before and after it. -/
structure AcceptedDraw where
  mesh : Mesh
  mode : PolyRenderMode
  before : Renderer × Host
  after : Renderer × Host

/-- The calls in a frame and its accepted draws, the last one first. A draw is accepted if it returns
and its mesh has vertices. Anything else may be called or happen as well, except for the end of the
frame. -/
inductive FrameCalls (s : Renderer × Host) : List AcceptedDraw → Renderer × Host → Prop
  | begun : FrameCalls s [] s
  | accepted {t u : Renderer × Host} {ds : List AcceptedDraw} {mesh : Mesh} {mode : PolyRenderMode}
    (hBefore : FrameCalls s ds t) (hMesh : mesh.Countable) (hVertices : mesh.positions ≠ [])
    (hRun : start (draw mesh mode) t = some (.ok (), u)) :
    FrameCalls s (⟨mesh, mode, t, u⟩ :: ds) u
  | empty {t u : Renderer × Host} {ds : List AcceptedDraw} {mesh : Mesh} {mode : PolyRenderMode}
    (hBefore : FrameCalls s ds t) (hVertices : mesh.positions = [])
    (hRun : start (draw mesh mode) t = some (.ok (), u)) : FrameCalls s ds u
  | failed {t u : Renderer × Host} {ds : List AcceptedDraw} {mesh : Mesh} {mode : PolyRenderMode}
    {e : RenderError} (hBefore : FrameCalls s ds t) (hMesh : mesh.Countable)
    (hRun : start (draw mesh mode) t = some (.error e, u)) : FrameCalls s ds u
  | other {t u : Renderer × Host} {ds : List AcceptedDraw} {c : Request}
    (hBefore : FrameCalls s ds t) (hDraw : ∀ mesh mode, c ≠ .draw mesh mode) (hEnd : c ≠ .endFrame)
    (hStep : Step t c u) : FrameCalls s ds u

/-- A draw command, with the commands before it in its buffer, is that of an accepted draw. It draws
the whole mesh, with the pipeline of the mode, and with the indices of the mesh if there are any. -/
structure DrawnAs (b : Handle) (moment : DrawCall × List GpuCommand) (d : AcceptedDraw) : Prop where
  call : d.mesh.DrawnBy moment.1
  recorded : commands b d.after.2.gpu.history = .draw moment.1 :: moment.2
  pipeline : ∃ pair, d.before.1.pipelines.pair = some pair ∧
    boundPipeline? moment.2 = some (match d.mode with
      | .wireframe => pair.wireframe
      | .fill | .points => pair.solid)
  indices : d.mesh.indices ≠ [] → ∃ place,
    boundIndices? moment.2 = some (d.after.1.memory.buffer, place) ∧
      d.after.2.gpu.Holds ⟨place.toNat, bytesOfWords d.mesh.indices⟩

/-- Once the input of a draw is bound, the pipeline is that of its mode. -/
theorem boundPipeline?_of_inputCommands {r : Renderer} {pair : DefaultPipelines Handle}
    (hPair : r.pipelines.pair = some pair) (mode : PolyRenderMode) (p : DrawPlaces)
    (before : List GpuCommand) :
    boundPipeline? ((r.inputCommands mode p).reverse ++ before) = some (pair.select mode) := by
  -- neither streams nor indices bind a pipeline, so the one bound first is the one bound last
  have hStreams : (streamCommands r.memory.buffer p.streams).reverse.findSome?
      GpuCommand.pipeline? = none := by
    rw [List.findSome?_eq_none_iff]
    intro c hc
    obtain ⟨x, -, rfl⟩ := List.mem_map.mp (List.mem_reverse.mp hc)
    rfl
  have hIndices : (p.indices.map (GpuCommand.bindIndices r.memory.buffer)).toList.reverse.findSome?
      GpuCommand.pipeline? = none := by
    cases p.indices <;> rfl
  rw [boundPipeline?, inputCommands, hPair]
  simp only [List.reverse_append, List.findSome?_append, hStreams, hIndices]
  rfl

/-- If there are indices, those that are bound are at their place. -/
theorem boundIndices?_of_inputCommands {r : Renderer} {p : DrawPlaces} {place : UInt64}
    (hIndices : p.indices = some place) (mode : PolyRenderMode) (before : List GpuCommand) :
    boundIndices? ((r.inputCommands mode p).reverse ++ before) = some (r.memory.buffer, place) := by
  rw [boundIndices?, inputCommands, hIndices]
  simp only [List.reverse_append, List.findSome?_append]
  rfl

/-- A draw that returns is drawn as it was asked for. -/
theorem drawnAs_of_commands {mesh : Mesh} {mode : PolyRenderMode} {p : DrawPlaces}
    {pair : DefaultPipelines Handle} (hMesh : mesh.Countable)
    (hPair : s.1.pipelines.pair = some pair)
    (hAdds : Adds f.buffer.handle (s.1.drawCommands mesh mode p) s t) (hPlaced : Placed s t mesh p) :
    ∃ before, drawMoments (commands f.buffer.handle t.2.gpu.history) =
        (mesh.drawCall, before) :: drawMoments (commands f.buffer.handle s.2.gpu.history) ∧
      DrawnAs f.buffer.handle (mesh.drawCall, before) ⟨mesh, mode, s, t⟩ := by
  -- newest first: the draw command, what it needs, and the sets that were bound before that
  let sets := (s.1.descriptors.bindCommand? p.uniforms).toList
  let before := (s.1.inputCommands mode p).reverse ++
    (sets.reverse ++ commands f.buffer.handle s.2.gpu.history)
  have hCommands : commands f.buffer.handle t.2.gpu.history = .draw mesh.drawCall :: before := by
    rw [hAdds.commands, drawCommands]
    simp only [List.reverse_append, List.reverse_singleton, List.append_assoc, List.nil_append,
      List.cons_append, before, sets]
  have hBefore : drawMoments before = drawMoments (commands f.buffer.handle s.2.gpu.history) := by
    rw [drawMoments_append, drawMoments_append]
    · exact fun c hc => drawCall?_of_bindCommand c (List.mem_reverse.mp hc)
    · exact fun c hc => GpuCommand.drawCall?_of_bindsInput
        (bindsInput_of_inputCommands c (List.mem_reverse.mp hc))
  refine ⟨before, ?_, hMesh.drawnBy, hCommands, ⟨pair, hPair, ?_⟩, fun hIndices => ?_⟩
  · rw [hCommands, drawMoments, hBefore]
    rfl
  · rw [boundPipeline?_of_inputCommands hPair]
    cases mode <;> rfl
  · obtain ⟨place, hPlace⟩ : ∃ place, p.indices = some place := by
      rw [← Option.isSome_iff_exists, hPlaced.hasIndices]
      exact Mesh.hasIndices_iff.mpr hIndices
    refine ⟨place, ?_, (hPlaced.indices place hPlace).holds⟩
    rw [boundIndices?_of_inputCommands hPlace, hAdds.buffer]

-- ---------------------------------------------------------------------------
-- The calls of a frame
-- ---------------------------------------------------------------------------

/-- What holds in a frame: it is the one that the renderer holds, and its buffer has the draw commands
of the accepted draws. -/
structure HoldsDraws (f : Frame) (ds : List AcceptedDraw) (s : Renderer × Host) : Prop where
  reachable : Reachable (fun _ _ _ => True) s
  frame : s.1.frame = some f
  draws : List.Forall₂ (DrawnAs f.buffer.handle)
    (drawMoments (commands f.buffer.handle s.2.gpu.history)) ds

/-- No draw command was added. -/
theorem HoldsDraws.step {ds : List AcceptedDraw} {c : Request} (h : HoldsDraws f ds s)
    (hStep : Step s c t) (hFrame : t.1.frame = s.1.frame)
    (hMoments : drawMoments (commands f.buffer.handle t.2.gpu.history) =
      drawMoments (commands f.buffer.handle s.2.gpu.history)) : HoldsDraws f ds t := by
  refine ⟨h.reachable.step c hStep trivial, hFrame.trans h.frame, ?_⟩
  rw [hMoments]
  exact h.draws

/-- A draw of a mesh with vertices into the frame that is held. -/
theorem start_draw (hFrame : s.1.frame = some f) {mesh : Mesh} (hVertices : mesh.vertexCount ≠ 0)
    (mode : PolyRenderMode) : start (draw mesh mode) s = start (drawMesh f.buffer mesh mode) s := by
  rw [draw, start_bind_of_ok (start_currentFrame hFrame _), if_neg hVertices]

/-- A draw of a mesh without vertices is skipped. -/
theorem start_draw_empty (hFrame : s.1.frame = some f) {mesh : Mesh} (hVertices : mesh.vertexCount = 0)
    (mode : PolyRenderMode) : start (draw mesh mode) s =
      some (.ok (), Logging.push (.trace component "Skipping draw of an empty mesh") s) := by
  rw [draw, start_bind_of_ok (start_currentFrame hFrame _), if_pos hVertices, start_log]

/-- An accepted draw adds its draw command. -/
theorem HoldsDraws.accepted {ds : List AcceptedDraw} {mesh : Mesh} {mode : PolyRenderMode}
    (h : HoldsDraws f ds s) (hMesh : mesh.Countable) (hVertices : mesh.positions ≠ [])
    (hRun : start (draw mesh mode) s = some (.ok (), t)) :
    HoldsDraws f (⟨mesh, mode, s, t⟩ :: ds) t := by
  have hReachable := h.reachable.step (.draw mesh mode) ⟨_, hRun⟩ trivial
  rw [start_draw h.frame (mt hMesh.vertexCount_eq_zero_iff.mp hVertices)] at hRun
  have hRoom := hasRoom_of_reachable h.reachable
  obtain ⟨p, hAdds, hPlaced⟩ :=
    (ensures_drawMesh_commands mode hRoom hMesh.addressable).of_ok hRun
  obtain ⟨pair, hPair⟩ := paired_of_reachable h.reachable
  obtain ⟨before, hMoments, hDrawn⟩ := drawnAs_of_commands hMesh hPair hAdds hPlaced
  refine ⟨hReachable, ?_, ?_⟩
  · rw [hAdds.rest]
    exact h.frame
  · rw [hMoments]
    exact .cons hDrawn h.draws

/-- A draw that fails adds none. -/
theorem HoldsDraws.failed {ds : List AcceptedDraw} {mesh : Mesh} {mode : PolyRenderMode}
    {e : RenderError} (h : HoldsDraws f ds s) (hMesh : mesh.Countable)
    (hRun : start (draw mesh mode) s = some (.error e, t)) : HoldsDraws f ds t := by
  have hStep : Step s (.draw mesh mode) t := ⟨_, hRun⟩
  -- an empty mesh is skipped, which does not fail
  have hVertices : mesh.vertexCount ≠ 0 := by
    intro hNone
    rw [start_draw_empty h.frame hNone] at hRun
    cases hRun
  rw [start_draw h.frame hVertices] at hRun
  have hRoom := hasRoom_of_reachable h.reachable
  obtain ⟨cs, hAdds, hNone⟩ :=
    (ensures_drawMesh_commands mode hRoom hMesh.addressable).of_error hRun
  refine h.step hStep ?_ ?_
  · rw [hAdds.rest]
  · rw [hAdds.commands]
    exact drawMoments_append (fun c hc => hNone c (List.mem_reverse.mp hc)) _

/-- Any other call but the end of the frame leaves the buffer alone. -/
theorem HoldsDraws.other {ds : List AcceptedDraw} {c : Request} (h : HoldsDraws f ds s)
    (hDraw : ∀ mesh mode, c ≠ .draw mesh mode) (hEnd : c ≠ .endFrame) (hStep : Step s c t) :
    HoldsDraws f ds t := by
  by_cases hBegin : c = .beginFrame
  · subst hBegin
    obtain ⟨r, hRun⟩ := hStep
    have hHolds := (inOrder_of_reachable h.reachable).holds h.frame
    -- a frame is held, so no other can begin
    have hRefused : start (serve .beginFrame) s = _ :=
      start_beginFrame_of_recording hHolds.state
    have hSame := hRun
    rw [hRefused] at hSame
    cases hSame
    exact h.step ⟨_, hRun⟩ rfl rfl
  · have hBeside : c.isBeside = true := by
      cases c with
      | beginFrame => exact absurd rfl hBegin
      | draw mesh mode => exact absurd rfl (hDraw mesh mode)
      | endFrame => exact absurd rfl hEnd
      | _ => rfl
    have hQuiet := hStep.quiet hBeside h.frame
    exact h.step hStep hQuiet.frame (congrArg drawMoments (hQuiet.commands _))

/-- What holds when a frame begins, holds after all calls in it. -/
theorem holdsDraws_of_frameCalls {ds : List AcceptedDraw} (h : HoldsDraws f [] s)
    (hCalls : FrameCalls s ds t) : HoldsDraws f ds t := by
  induction hCalls with
  | begun => exact h
  | accepted _ hMesh hVertices hRun ih => exact ih.accepted hMesh hVertices hRun
  | @empty t u ds mesh mode _ hVertices hRun ih =>
    have hNone : mesh.vertexCount = 0 := by
      rw [Mesh.vertexCount, hVertices]
      rfl
    have hStep : Step t (.draw mesh mode) u := ⟨_, hRun⟩
    rw [start_draw_empty ih.frame hNone] at hRun
    cases hRun
    exact ih.step hStep rfl rfl
  | failed _ hMesh hRun ih => exact ih.failed hMesh hRun
  | other _ hDraw hEnd hStep ih => exact ih.other hDraw hEnd hStep

/-- The buffer of a frame that begins has no draw command yet. -/
theorem ensures_beginFrame_undrawn (h : InOrder s) :
    beginFrame.Ensures s
      (fun _ t => ∃ f, t.1.frame = some f ∧
        drawMoments (commands f.buffer.handle t.2.gpu.history) = [])
      (fun _ _ => True) := by
  refine ensures_beginFrame_of ?_
  rw [onMachine, ensures_on]
  have hScene := Synchronizer.ensures_beginFrame_scene s.1.extent s.1.machine (scene s) h.tidy.apart
  refine hScene.mono ?_ fun e t _ => ⟨fun _ => trivial, fun _ _ => ensures_true _ _⟩
  rintro f m ⟨-, hBegun⟩
  refine ⟨f, rfl, ?_⟩
  have hOpened := hBegun.opened
  show drawMoments (commands f.buffer.handle m.2.2.2.gpu.history) = []
  change OpenedFor _ _ (commands f.buffer.handle m.2.2.2.gpu.history) at hOpened
  generalize commands f.buffer.handle m.2.2.2.gpu.history = cs at hOpened
  cases hOpened <;> rfl

/-- **Recorded draws are exactly the accepted ones.** Whatever is called in a frame, and whichever
draws fail: the draw commands in its buffer are those of the accepted draws, one for each and in their
order. Each draws its whole mesh with the pipeline that the renderer has for the mode; the indices that
are bound at that moment are those of the mesh, if there are any. -/
theorem draws_of_beginFrame {allowed : Renderer × Host → Request → Renderer × Host → Prop}
    (hReachable : Reachable allowed s) (hBegin : start beginFrame s = some (.ok (), t)) :
    ∃ f, t.1.frame = some f ∧ ∀ ds u, FrameCalls t ds u →
      List.Forall₂ (DrawnAs f.buffer.handle)
        (drawMoments (commands f.buffer.handle u.2.gpu.history)) ds := by
  obtain ⟨f, hFrame, hNone⟩ :=
    (ensures_beginFrame_undrawn (inOrder_of_reachable hReachable)).of_ok hBegin
  have hBegun : Reachable (fun _ _ _ => True) t :=
    hReachable.weaken.step .beginFrame ⟨_, hBegin⟩ trivial
  refine ⟨f, hFrame, fun ds u hCalls => ?_⟩
  have hStart : HoldsDraws f [] t := ⟨hBegun, hFrame, by rw [hNone]; exact .nil⟩
  exact (holdsDraws_of_frameCalls hStart hCalls).draws

-- ---------------------------------------------------------------------------
-- A frame with a draw that fails
-- ---------------------------------------------------------------------------

/-- A configuration with room for the indices of two draws. -/
def tightConfig : RendererConfig := { sampleConfig with allocatorSize := 512 }

/-- A renderer can be created with it. -/
theorem isSome_tight : (created? {} tightConfig sampleHost).isSome = true := by decide +kernel

/-- A new renderer with little room. -/
def tight : Renderer × Host := (created? {} tightConfig sampleHost).get isSome_tight

/-- That renderer in a frame. -/
def tightBegun : Renderer × Host := beginFrame.after tight

/-- The frame of that renderer. -/
def tightFrame : Frame := tightBegun.1.frame.getD default

/-- After a draw by indices. -/
def tightFilled : Renderer × Host := (draw (sampleMesh [0, 1, 2]) .fill).after tightBegun

/-- After another one. -/
def tightFull : Renderer × Host := (draw (sampleMesh [2, 1, 0]) .points).after tightFilled

/-- After a third one, for which there is no room. -/
def tightFailed : Renderer × Host := (draw (sampleMesh [0, 2, 1]) .fill).after tightFull

/-- After a draw without indices, which needs none. -/
def tightDrawn : Renderer × Host := (draw (sampleMesh []) .wireframe).after tightFailed

/-- The draws that were accepted, the last one first. -/
def tightDraws : List AcceptedDraw :=
  [⟨sampleMesh [], .wireframe, tightFailed, tightDrawn⟩,
    ⟨sampleMesh [2, 1, 0], .points, tightFilled, tightFull⟩,
    ⟨sampleMesh [0, 1, 2], .fill, tightBegun, tightFilled⟩]

/-- The arrays of the sample are short. -/
theorem countable_sampleMesh {indices : List UInt32} (h : indices.length < UInt32.size) :
    (sampleMesh indices).Countable := by
  have hNone : 0 < UInt32.size := by decide
  have hPositions : 3 < UInt32.size := by decide
  exact ⟨hPositions, hNone, hNone, hNone, h⟩

/-- The sample has vertices. -/
theorem positions_sampleMesh (indices : List UInt32) : (sampleMesh indices).positions ≠ [] :=
  List.cons_ne_nil _ _

/-- Three of four draws are accepted, and the third command is that of the fourth draw. -/
theorem draws_of_tight_frame : FrameCalls tightBegun tightDraws tightDrawn ∧
    List.Forall₂ (DrawnAs tightFrame.buffer.handle)
      (drawMoments (commands tightFrame.buffer.handle tightDrawn.2.gpu.history)) tightDraws ∧
    (drawMoments (commands tightFrame.buffer.handle tightDrawn.2.gpu.history)).map Prod.fst =
      [.nonIndexed 3 1 0 0, .indexed 3 1 0 0 0, .indexed 3 1 0 0 0] := by
  have hBegun : beginFrame.succeeds tight = true := by decide +kernel
  have hFilled : (draw (sampleMesh [0, 1, 2]) .fill).succeeds tightBegun = true := by decide +kernel
  have hFull : (draw (sampleMesh [2, 1, 0]) .points).succeeds tightFilled = true := by decide +kernel
  have hFailed : (draw (sampleMesh [0, 2, 1]) .fill).fails tightFull = true := by decide +kernel
  have hDrawn : (draw (sampleMesh []) .wireframe).succeeds tightFailed = true := by decide +kernel
  obtain ⟨_, hBegin⟩ := start_of_succeeds hBegun
  obtain ⟨_, hFirst⟩ := start_of_succeeds hFilled
  obtain ⟨_, hSecond⟩ := start_of_succeeds hFull
  obtain ⟨_, hThird⟩ := start_of_fails hFailed
  obtain ⟨_, hFourth⟩ := start_of_succeeds hDrawn
  rw [← tightBegun] at hBegin
  rw [← tightFilled] at hFirst
  rw [← tightFull] at hSecond
  rw [← tightFailed] at hThird
  rw [← tightDrawn] at hFourth
  have hThree : 3 < UInt32.size := by decide
  -- the third draw does not fit into what the first two left, the fourth has no indices and does
  have hCalls : FrameCalls tightBegun tightDraws tightDrawn := by
    rw [tightDraws]
    refine .accepted (.failed (.accepted (.accepted .begun ?_ ?_ hFirst) ?_ ?_ hSecond) ?_ hThird)
      ?_ ?_ hFourth
    · exact countable_sampleMesh hThree
    · exact positions_sampleMesh _
    · exact countable_sampleMesh hThree
    · exact positions_sampleMesh _
    · exact countable_sampleMesh hThree
    · exact countable_sampleMesh (Nat.zero_lt_of_lt hThree)
    · exact positions_sampleMesh _
  have hReachable : Reachable (fun _ _ _ => True) tight :=
    reachable_of_created ⟨rfl, rfl, Nat.one_pos⟩ (Option.some_get isSome_tight).symm
  obtain ⟨f, hFrame, hRecorded⟩ := draws_of_beginFrame hReachable hBegin
  have hTight : tightFrame = f := by rw [tightFrame, hFrame, Option.getD_some]
  rw [← hTight] at hRecorded
  exact ⟨hCalls, hRecorded tightDraws tightDrawn hCalls, by decide +kernel⟩

end Renderer

end RenderLoop
