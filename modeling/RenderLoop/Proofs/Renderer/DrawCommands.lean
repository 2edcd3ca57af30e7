import RenderLoop.Proofs.Renderer.Draw
import RenderLoop.Proofs.Renderer.Binding

/-!
# RenderLoop — the commands of a draw

Which commands a draw records follows from the renderer, the mesh and the mode alone,
but for the places of the data (`Renderer.drawCommands`): the sets are bound with
their offsets, then the pipeline of the mode, each vertex stream that the program
reads, and the indices if there are any; the draw command comes last. The places are
those at which the draw has stored the data (`Renderer.Placed`).

A draw that fails records only a beginning of that. What it records after the sets
binds one thing or the other and draws nothing (`Renderer.AddsBinding`), so a failed
draw never leaves a draw command behind (`Renderer.ensures_drawMesh_commands`).
-/

namespace RenderLoop

-- ---------------------------------------------------------------------------
-- Kinds of commands
-- ---------------------------------------------------------------------------

namespace GpuCommand

/-- The draw call of a draw command. -/
def drawCall? : GpuCommand → Option DrawCall
  | .draw call => some call
  | _ => none

/-- The offsets that sets are bound with. -/
def offsets? : GpuCommand → Option (List UInt32)
  | .bindSets _ _ offsets => some offsets
  | _ => none

/-- Whether a command binds a pipeline, vertices or indices. -/
def bindsInput : GpuCommand → Bool
  | .bindPipeline _ | .bindVertices _ _ _ | .bindIndices _ _ => true
  | _ => false

/-- A command that binds input draws nothing. -/
theorem drawCall?_of_bindsInput {c : GpuCommand} (h : c.bindsInput = true) : c.drawCall? = none := by
  cases c <;> first | rfl | cases h

/-- A command that binds input binds no sets. -/
theorem offsets?_of_bindsInput {c : GpuCommand} (h : c.bindsInput = true) : c.offsets? = none := by
  cases c <;> first | rfl | cases h

end GpuCommand

namespace Renderer

open GpuHistory Op

variable {s t u : Renderer × Host} {b : CommandBuffer}

-- ---------------------------------------------------------------------------
-- What a draw records
-- ---------------------------------------------------------------------------

/-- The places of the data of a draw: of its uniform blocks, of its vertex streams, and of its
indices if it has any. -/
structure DrawPlaces where
  uniforms : List UInt32
  streams : List (VertexStream × UInt64)
  indices : Option UInt64

/-- The vertex streams of a mesh that the program reads. -/
def readStreams (r : Renderer) (mesh : Mesh) : List VertexStream :=
  mesh.streams.filter (reads r.program.vertexInput)

/-- The commands that bind vertex streams at their places. -/
def streamCommands (buffer : Handle) (streams : List (VertexStream × UInt64)) : List GpuCommand :=
  streams.map fun x => .bindVertices x.1.location buffer x.2

/-- The commands that bind the pipeline of a mode, vertices and indices. -/
def inputCommands (r : Renderer) (mode : PolyRenderMode) (p : DrawPlaces) : List GpuCommand :=
  (r.pipelines.pair.map fun pair => GpuCommand.bindPipeline (pair.select mode)).toList ++
    (streamCommands r.memory.buffer p.streams ++
      (p.indices.map (GpuCommand.bindIndices r.memory.buffer)).toList)

/-- The commands of a draw, in order. -/
def drawCommands (r : Renderer) (mesh : Mesh) (mode : PolyRenderMode) (p : DrawPlaces) :
    List GpuCommand :=
  (r.descriptors.bindCommand? p.uniforms).toList ++
    (r.inputCommands mode p ++ [.draw mesh.drawCall])

/-- Regions were handed out one after the other since a place, and hold their bytes. -/
structure LaidInTurn (start : Nat) (s : Renderer × Host) (rs : List Region) : Prop where
  laid : ∀ r ∈ rs, FrameMemory.Laid start (store s) r
  inTurn : rs.Pairwise fun r r' => r.stop ≤ r'.place

/-- The region of a vertex stream at a place. -/
def streamRegion (x : VertexStream × UInt64) : Region := ⟨x.2.toNat, x.1.bytes⟩

/-- Uniform blocks have their data at offsets. -/
def UniformsAt (start : Nat) (s t : Renderer × Host) (offsets : List UInt32) : Prop :=
  List.Forall₂ (fun place bytes => FrameMemory.Laid start (store t) ⟨place, bytes⟩)
    (offsets.map (·.toNat)) (s.1.descriptors.dynamicSlots.map s.1.blockData)

/-- The arrays of a mesh are at their places. -/
structure ArraysAt (start : Nat) (s t : Renderer × Host) (mesh : Mesh) (p : DrawPlaces) : Prop where
  streams : p.streams.map Prod.fst = s.1.readStreams mesh
  vertices : LaidInTurn start t (p.streams.map streamRegion)
  hasIndices : p.indices.isSome = mesh.hasIndices
  indices : ∀ place ∈ p.indices, FrameMemory.Laid start (store t) ⟨place.toNat, mesh.indexBytes⟩

/-- What a draw stored is at its places, above the old head. -/
structure Placed (s t : Renderer × Host) (mesh : Mesh) (p : DrawPlaces) : Prop extends
    ArraysAt s.1.memory.head s t mesh p where
  uniforms : UniformsAt s.1.memory.head s t p.uniforms

/-- The frame buffer stays the same one. -/
theorem Adds.buffer {b : Handle} {cs : List GpuCommand} (h : Adds b cs s t) :
    t.1.memory.buffer = s.1.memory.buffer := by
  have hBuffer := congrArg FrameMemory.buffer h.fills.rest
  exact hBuffer

/-- Commands were added that bind a pipeline, vertices or indices. -/
def AddsBinding (b : Handle) (s t : Renderer × Host) : Prop :=
  ∃ cs, Adds b cs s t ∧ ∀ c ∈ cs, c.bindsInput = true

/-- No command is one that draws. -/
theorem AddsBinding.of_none (h : Adds b.handle [] s t) : AddsBinding b.handle s t :=
  ⟨[], h, List.forall_mem_nil _⟩

/-- Commands that bind input may come before others. -/
theorem Adds.addsBinding {b : Handle} {cs : List GpuCommand} (h : Adds b cs s t)
    (hBinding : ∀ c ∈ cs, c.bindsInput = true) (hRest : AddsBinding b t u) : AddsBinding b s u := by
  obtain ⟨cs', hAdds, hBinding'⟩ := hRest
  refine ⟨cs ++ cs', h.trans hAdds, fun c hc => ?_⟩
  rcases List.mem_append.mp hc with hc | hc
  · exact hBinding c hc
  · exact hBinding' c hc

/-- Regions stay in turn while storing goes on. -/
theorem LaidInTurn.fills {start : Nat} {rs : List Region} (h : LaidInTurn start s rs)
    (hFills : FrameMemory.Fills (store s) (store t)) : LaidInTurn start t rs where
  laid r hr := (h.laid r hr).fills hFills
  inTurn := h.inTurn

/-- Arrays stay at their places while storing goes on. -/
theorem ArraysAt.fills {start : Nat} {mesh : Mesh} {p : DrawPlaces} (h : ArraysAt start s t mesh p)
    (hFills : FrameMemory.Fills (store t) (store u)) : ArraysAt start s u mesh p where
  streams := h.streams
  vertices := h.vertices.fills hFills
  hasIndices := h.hasIndices
  indices place hp := (h.indices place hp).fills hFills

/-- Uniform data stays at its places while storing goes on. -/
theorem UniformsAt.fills {start : Nat} {offsets : List UInt32} (h : UniformsAt start s t offsets)
    (hFills : FrameMemory.Fills (store t) (store u)) : UniformsAt start s u offsets :=
  h.imp fun _ _ hLaid => hLaid.fills hFills

-- ---------------------------------------------------------------------------
-- The parts of a draw
-- ---------------------------------------------------------------------------

/-- Binding the sets either records one command, with the offsets of the stored data, or fails and
records none. -/
theorem ensures_bindSets_commands (hRoom : FrameMemory.HasRoom (store s)) :
    (bindSets b).Ensures s
      (fun _ t => ∃ offsets, Adds b.handle (s.1.descriptors.bindCommand? offsets).toList s t ∧
        UniformsAt s.1.memory.head s t offsets)
      (fun _ t => Adds b.handle [] s t) := by
  rw [bindSets, ensures_bind, ensures_get, ensures_bind]
  have hNone : StoredAt s.1.memory.head s {} := by
    constructor <;> (intro offset h; cases h)
  refine (ensures_uniformOffsets (b := b) _ hRoom (Nat.le_refl _) hNone).mono ?_ fun _ _ h => h
  rintro offsets t ⟨hAdds, hLaid⟩
  have hDescriptors : t.1.descriptors = s.1.descriptors := by
    rw [hAdds.rest]
  rw [ensures_bind, ensures_get, hDescriptors]
  -- a program without sets stores its blocks and binds nothing
  cases hCommand : s.1.descriptors.bindCommand? offsets with
  | none =>
    dsimp only
    rw [ensures_pure]
    refine ⟨offsets, ?_, hLaid⟩
    rw [hCommand]
    exact hAdds
  | some c =>
    dsimp only
    rw [record, ensures_change]
    refine ⟨offsets, ?_, ?_⟩
    · rw [hCommand]
      exact hAdds.trans (adds_record c t)
    · exact hLaid.imp fun _ _ h => h.fills (adds_record (b := b) c t).fills

/-- Binding the pipeline records one command if there is a pair, and does not fail. -/
theorem ensures_bindPipeline_commands (mode : PolyRenderMode) :
    (bindPipeline b mode).Ensures s
      (fun _ t => Adds b.handle
        (s.1.pipelines.pair.map fun pair => GpuCommand.bindPipeline (pair.select mode)).toList s t)
      (fun _ _ => False) := by
  rw [bindPipeline, ensures_bind, ensures_get]
  cases s.1.pipelines.pair with
  | none =>
    dsimp only
    rw [ensures_pure]
    exact .refl s
  | some pair =>
    dsimp only
    rw [record, ensures_change]
    exact adds_record _ s

/-- Bytes that are stored and then bound by one command. -/
theorem ensures_storeAndRecord {bytes : List UInt8} (command : Handle → UInt64 → GpuCommand)
    (hRoom : FrameMemory.HasRoom (store s)) (hSize : bytes.length < UInt64.size) :
    (do let offset ← onMemory (FrameMemory.store bytes)
        record b (command (← get).1.memory.buffer offset)).Ensures s
      (fun _ t => ∃ place, Adds b.handle [command s.1.memory.buffer place] s t ∧
        FrameMemory.Laid s.1.memory.head (store t) ⟨place.toNat, bytes⟩)
      (fun _ t => Adds b.handle [] s t) := by
  rw [ensures_bind]
  refine (ensures_onMemory_adds (b := b) (FrameMemory.ensures_store hRoom hSize)).mono ?_
    fun _ _ h => h
  rintro place t ⟨hAdds, hLaid⟩
  rw [ensures_bind, ensures_get, record, ensures_change, hAdds.buffer]
  have hRecord := adds_record (b := b) (command s.1.memory.buffer place) t
  exact ⟨place, hAdds.trans hRecord, hLaid.fills hRecord.fills⟩

/-- Streams are stored and bound one after the other. -/
theorem ensures_bindStreams_commands {streams : List VertexStream}
    (hRoom : FrameMemory.HasRoom (store s))
    (hSize : ∀ stream ∈ streams, stream.bytes.length < UInt64.size) :
    (bindStreams b streams).Ensures s
      (fun _ t => ∃ placed : List (VertexStream × UInt64), placed.map Prod.fst = streams ∧
        Adds b.handle (streamCommands s.1.memory.buffer placed) s t ∧
        LaidInTurn s.1.memory.head t (placed.map streamRegion))
      (fun _ t => AddsBinding b.handle s t) := by
  induction streams generalizing s with
  | nil =>
    rw [bindStreams, ensures_pure]
    exact ⟨[], rfl, .refl s, List.forall_mem_nil _, .nil⟩
  | cons stream rest ih =>
    rw [bindStreams, ensures_bind, bindStream]
    refine (ensures_storeAndRecord (.bindVertices stream.location) hRoom
      (hSize stream List.mem_cons_self)).mono ?_ fun _ _ h => .of_none h
    rintro _ t ⟨place, hAdds, hLaid⟩
    have hRest := ih (hAdds.fills.room hRoom) fun stream' h => hSize stream' (List.mem_cons_of_mem _ h)
    refine hRest.mono ?_ fun _ _ h => hAdds.addsBinding (List.forall_mem_singleton.mpr rfl) h
    rintro _ u ⟨placed, hStreams, hAdds', hLaid'⟩
    rw [hAdds.buffer] at hAdds'
    refine ⟨(stream, place) :: placed, ?_, hAdds.trans hAdds', ?_, ?_⟩
    · rw [List.map_cons, hStreams]
    · rw [List.map_cons, List.forall_mem_cons]
      exact ⟨hLaid.fills hAdds'.fills, fun r hr => (hLaid'.laid r hr).mono hAdds.fills.head⟩
    · -- what is stored later lies above the head that the first stream left
      rw [List.map_cons, List.pairwise_cons]
      exact ⟨fun r hr => Nat.le_trans hLaid.stop_le (hLaid'.laid r hr).start_le, hLaid'.inTurn⟩

/-- Indices are stored and bound if there are any. -/
theorem ensures_bindIndices_commands {mesh : Mesh} (hRoom : FrameMemory.HasRoom (store s))
    (hSize : mesh.indexBytes.length < UInt64.size) :
    (bindIndices b mesh).Ensures s
      (fun _ t => ∃ placed : Option UInt64, placed.isSome = mesh.hasIndices ∧
        Adds b.handle (placed.map (GpuCommand.bindIndices s.1.memory.buffer)).toList s t ∧
        ∀ place ∈ placed,
          FrameMemory.Laid s.1.memory.head (store t) ⟨place.toNat, mesh.indexBytes⟩)
      (fun _ t => Adds b.handle [] s t) := by
  rw [bindIndices]
  refine ensures_ite (fun hIndices => ?_) fun hNone => ?_
  · refine (ensures_storeAndRecord .bindIndices hRoom hSize).mono ?_ fun _ _ h => h
    rintro _ t ⟨place, hAdds, hLaid⟩
    refine ⟨some place, hIndices.symm, hAdds, ?_⟩
    rintro _ ⟨⟩
    exact hLaid
  · rw [ensures_pure]
    refine ⟨none, (Bool.not_eq_true _ ▸ hNone : mesh.hasIndices = false).symm, .refl s, ?_⟩
    intro place hPlace
    cases hPlace

-- ---------------------------------------------------------------------------
-- Whole draws
-- ---------------------------------------------------------------------------

/-- What a draw does once the sets are bound. -/
def drawInput (b : CommandBuffer) (mesh : Mesh) (mode : PolyRenderMode) : Action Unit := do
  bindPipeline b mode
  bindStreams b (mesh.streams.filter (reads (← get).1.program.vertexInput))
  bindIndices b mesh
  record b (.draw mesh.drawCall)

/-- A draw binds the sets first. -/
theorem drawMesh_eq (b : CommandBuffer) (mesh : Mesh) (mode : PolyRenderMode) :
    drawMesh b mesh mode = (do bindSets b; drawInput b mesh mode) := rfl

/-- All sets are bound, if there are any. -/
theorem bindCommand?_eq_some_iff {d : Descriptors} {offsets : List UInt32} {c : GpuCommand} :
    d.bindCommand? offsets = some c ↔
      d.sets ≠ [] ∧ c = .bindSets d.pipelineLayout d.sets offsets := by
  rw [Descriptors.bindCommand?, Option.ite_none_left_eq_some, List.isEmpty_iff, Option.some.injEq,
    eq_comm (a := c)]

/-- Binding sets draws nothing. -/
theorem drawCall?_of_bindCommand {d : Descriptors} {offsets : List UInt32} :
    ∀ c ∈ (d.bindCommand? offsets).toList, c.drawCall? = none := by
  intro c hc
  obtain ⟨-, rfl⟩ := bindCommand?_eq_some_iff.mp (Option.mem_toList.mp hc)
  rfl

/-- The command for the pipeline binds input. -/
theorem bindsInput_of_pipeline {pair : Option (DefaultPipelines Handle)} {mode : PolyRenderMode} :
    ∀ c ∈ (pair.map fun pair => GpuCommand.bindPipeline (pair.select mode)).toList,
      c.bindsInput = true := by
  cases pair with
  | none => exact List.forall_mem_nil _
  | some pair => exact List.forall_mem_singleton.mpr rfl

/-- The commands for the vertices bind input. -/
theorem bindsInput_of_streams {buffer : Handle} {streams : List (VertexStream × UInt64)} :
    ∀ c ∈ streamCommands buffer streams, c.bindsInput = true := by
  intro c hc
  obtain ⟨x, -, rfl⟩ := List.mem_map.mp hc
  rfl

/-- All commands before the draw command bind input. -/
theorem bindsInput_of_inputCommands {r : Renderer} {mode : PolyRenderMode} {p : DrawPlaces} :
    ∀ c ∈ r.inputCommands mode p, c.bindsInput = true := by
  rw [inputCommands, List.forall_mem_append, List.forall_mem_append]
  refine ⟨bindsInput_of_pipeline, bindsInput_of_streams, ?_⟩
  cases p.indices with
  | none => exact List.forall_mem_nil _
  | some place => exact List.forall_mem_singleton.mpr rfl

/-- The rest of a draw binds pipeline, vertices and indices, and then draws. If it fails, it has drawn
nothing. -/
theorem ensures_drawInput {mesh : Mesh} (mode : PolyRenderMode)
    (hRoom : FrameMemory.HasRoom (store s)) (hMesh : Addressable mesh) :
    (drawInput b mesh mode).Ensures s
      (fun _ t => ∃ p : DrawPlaces,
        Adds b.handle (s.1.inputCommands mode p ++ [.draw mesh.drawCall]) s t ∧
        ArraysAt s.1.memory.head s t mesh p)
      (fun _ t => AddsBinding b.handle s t) := by
  rw [drawInput, ensures_bind]
  refine (ensures_bindPipeline_commands mode).mono (fun _ s₁ hPipeline => ?_) fun _ _ h => h.elim
  have hProgram : s₁.1.program = s.1.program := by
    rw [hPipeline.rest]
  have hStreams : mesh.streams.filter (reads s₁.1.program.vertexInput) = s.1.readStreams mesh := by
    rw [hProgram]
    rfl
  have hSize : ∀ stream ∈ s.1.readStreams mesh, stream.bytes.length < UInt64.size :=
    fun stream h => hMesh.streams stream (List.mem_filter.mp h).1
  rw [ensures_bind, ensures_get, hStreams, ensures_bind]
  refine (ensures_bindStreams_commands (b := b) (hPipeline.fills.room hRoom) hSize).mono ?_
    fun _ _ h => hPipeline.addsBinding bindsInput_of_pipeline h
  rintro _ s₂ ⟨streams, hRead, hVertices, hLaid⟩
  have hBefore := hPipeline.trans hVertices
  rw [ensures_bind]
  refine (ensures_bindIndices_commands (b := b) (hBefore.fills.room hRoom) hMesh.indices).mono ?_
    fun _ _ h => hPipeline.addsBinding bindsInput_of_pipeline
      (hVertices.addsBinding bindsInput_of_streams (.of_none h))
  rintro _ s₃ ⟨indices, hHas, hIndices, hIndexLaid⟩
  rw [record, ensures_change]
  have hDraw := adds_record (b := b) (.draw mesh.drawCall) s₃
  refine ⟨⟨[], streams, indices⟩, ?_, hRead, ?_, hHas, ?_⟩
  · -- all places are in the one buffer
    have hAll := (hBefore.trans hIndices).trans hDraw
    rw [hBefore.buffer, hPipeline.buffer] at hAll
    simpa only [inputCommands, List.append_assoc] using hAll
  · have hTurn := (hLaid.fills hIndices.fills).fills hDraw.fills
    exact ⟨fun r hr => (hTurn.laid r hr).mono hPipeline.fills.head, hTurn.inTurn⟩
  · exact fun place hp => ((hIndexLaid place hp).fills hDraw.fills).mono hBefore.fills.head

/-- **The commands of a draw.** A draw that returns has recorded its commands, with the places of its
data. One that fails has recorded nothing, or the sets and then no draw command. -/
theorem ensures_drawMesh_commands {mesh : Mesh} (mode : PolyRenderMode)
    (hRoom : FrameMemory.HasRoom (store s)) (hMesh : Addressable mesh) :
    (drawMesh b mesh mode).Ensures s
      (fun _ t => ∃ p, Adds b.handle (s.1.drawCommands mesh mode p) s t ∧ Placed s t mesh p)
      (fun _ t => ∃ cs, Adds b.handle cs s t ∧ ∀ c ∈ cs, c.drawCall? = none) := by
  rw [drawMesh_eq, ensures_bind]
  refine (ensures_bindSets_commands hRoom).mono ?_ fun _ _ h => ⟨[], h, List.forall_mem_nil _⟩
  rintro _ s₁ ⟨offsets, hSets, hUniforms⟩
  refine (ensures_drawInput mode (hSets.fills.room hRoom) hMesh).mono ?_ ?_
  · rintro _ t ⟨p, hInput, hArrays⟩
    refine ⟨{ p with uniforms := offsets }, ?_, ?_, hUniforms.fills hInput.fills⟩
    · -- binding the sets moves the allocator only, so the input is what it would have been
      have hCommands : s₁.1.inputCommands mode p =
          s.1.inputCommands mode { p with uniforms := offsets } := by
        rw [inputCommands, inputCommands, hSets.buffer, hSets.rest]
      rw [hCommands] at hInput
      exact hSets.trans hInput
    · have hRead : s₁.1.readStreams mesh = s.1.readStreams mesh := by
        rw [readStreams, readStreams, hSets.rest]
      refine ⟨hArrays.streams.trans hRead, ⟨fun r hr => ?_, hArrays.vertices.inTurn⟩,
        hArrays.hasIndices, fun place hp => ?_⟩
      · exact (hArrays.vertices.laid r hr).mono hSets.fills.head
      · exact (hArrays.indices place hp).mono hSets.fills.head
  · rintro _ t ⟨cs, hAdds, hBinding⟩
    refine ⟨_, hSets.trans hAdds, fun c hc => ?_⟩
    -- a draw that breaks off has recorded binds and no draw call
    rcases List.mem_append.mp hc with hc | hc
    · exact drawCall?_of_bindCommand c hc
    · exact GpuCommand.drawCall?_of_bindsInput (hBinding c hc)

end Renderer

end RenderLoop
