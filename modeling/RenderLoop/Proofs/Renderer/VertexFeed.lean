import RenderLoop.Proofs.Renderer.FrameDraws

/-!
# RenderLoop — what a draw reads

A program reads vertices from buffer bindings, and a draw binds the streams of its
mesh at their locations. A binding is **fed** if the draw has bound it to a stream of
its mesh that has an element for every vertex (`Renderer.Feeds`).

Nothing compares a mesh with what the program reads. A draw therefore feeds just
those bindings for which the mesh has a stream that is long enough
(`Mesh.Supplies`). A binding for which it has no stream at all is left as earlier
draws of the frame have left it, at their data or unbound, and is drawn from all the
same (`Renderer.feeds_iff_of_draw`).
-/

namespace RenderLoop

open Op

namespace GpuCommand

/-- The place of the vertices that a command binds at a buffer binding. -/
def vertices? (binding : UInt32) : GpuCommand → Option (Handle × UInt64)
  | .bindVertices b buffer offset => if b = binding then some (buffer, offset) else none
  | _ => none

end GpuCommand

namespace GpuHistory

/-- The place of the vertices that are bound at a buffer binding after commands, newest first. -/
def boundVertices? (binding : UInt32) (cs : List GpuCommand) : Option (Handle × UInt64) :=
  cs.findSome? (GpuCommand.vertices? binding)

/-- The later commands decide, and the earlier ones only where the later bind nothing. -/
theorem boundVertices?_append (binding : UInt32) (cs before : List GpuCommand) :
    boundVertices? binding (cs ++ before) =
      (boundVertices? binding cs).or (boundVertices? binding before) :=
  List.findSome?_append

end GpuHistory

open GpuHistory

namespace Mesh

/-- A mesh has a stream at the number of a buffer binding, with an element for every vertex. -/
def Supplies (mesh : Mesh) (v : VertexBinding) : Prop :=
  ∃ stream ∈ mesh.streams,
    stream.location = v.binding ∧ v.stride.toNat * mesh.positions.length ≤ stream.bytes.length

/-- Streams have locations of their own. -/
theorem nodup_locations (mesh : Mesh) : (mesh.streams.map VertexStream.location).Nodup := by
  have hAll : [positionLocation, colorLocation, normalLocation, texCoordLocation].Nodup := by decide
  exact hAll.sublist (List.filter_sublist.map VertexStream.location)

/-- The streams of a mesh are not empty. -/
theorem bytes_ne_nil {mesh : Mesh} {stream : VertexStream} (h : stream ∈ mesh.streams) :
    stream.bytes ≠ [] := by
  have hBytes := (List.mem_filter.mp h).2
  rwa [Bool.not_eq_true', List.isEmpty_eq_false_iff] at hBytes

end Mesh

namespace Renderer

variable {s t : Renderer × Host}

-- ---------------------------------------------------------------------------
-- Bindings after a draw
-- ---------------------------------------------------------------------------

/-- Of what a draw records, only the commands for its streams bind vertices. -/
theorem boundVertices?_of_drawCommands (r : Renderer) (mesh : Mesh) (mode : PolyRenderMode)
    (p : DrawPlaces) (binding : UInt32) (before : List GpuCommand) :
    boundVertices? binding ((r.drawCommands mesh mode p).reverse ++ before) =
      boundVertices? binding ((streamCommands r.memory.buffer p.streams).reverse ++ before) := by
  have hSets : (r.descriptors.bindCommand? p.uniforms).toList.reverse.findSome?
      (GpuCommand.vertices? binding) = none := by
    rw [Descriptors.bindCommand?]
    split <;> rfl
  have hPipeline : (r.pipelines.pair.map fun pair =>
      GpuCommand.bindPipeline (pair.select mode)).toList.reverse.findSome?
        (GpuCommand.vertices? binding) = none := by
    cases r.pipelines.pair <;> rfl
  have hIndices : (p.indices.map (GpuCommand.bindIndices r.memory.buffer)).toList.reverse.findSome?
      (GpuCommand.vertices? binding) = none := by
    cases p.indices <;> rfl
  -- sets, pipeline and indices bind no vertices, so only the streams' commands count
  rw [drawCommands, inputCommands, boundVertices?, boundVertices?]
  simp only [List.reverse_append, List.findSome?_append, hSets, hPipeline, hIndices]
  simp only [List.reverse_singleton, List.findSome?_singleton, GpuCommand.vertices?,
    Option.none_or, Option.or_none]

/-- Streams are bound at their locations. -/
theorem boundVertices?_of_mem {buffer : Handle} {streams : List (VertexStream × UInt64)}
    (hDistinct : (streams.map fun x => x.1.location).Nodup) {x : VertexStream × UInt64}
    (hx : x ∈ streams) :
    boundVertices? x.1.location (streamCommands buffer streams).reverse = some (buffer, x.2) := by
  have hBinds : (boundVertices? x.1.location (streamCommands buffer streams).reverse).isSome = true := by
    rw [boundVertices?, List.findSome?_isSome_iff]
    refine ⟨.bindVertices x.1.location buffer x.2, ?_, ?_⟩
    · exact List.mem_reverse.mpr (List.mem_map_of_mem hx)
    · rw [GpuCommand.vertices?, if_pos rfl]
      rfl
  -- what is found is some stream's command, and the locations are distinct
  obtain ⟨place, hPlace⟩ := Option.isSome_iff_exists.mp hBinds
  obtain ⟨c, hc, hCommand⟩ := List.exists_of_findSome?_eq_some hPlace
  obtain ⟨x', hx', rfl⟩ := List.mem_map.mp (List.mem_reverse.mp hc)
  rw [GpuCommand.vertices?] at hCommand
  split at hCommand
  · rename_i hLocation
    have hSame : x' = x := List.inj_on_of_nodup_map hDistinct hx' hx hLocation
    rw [hPlace, ← hCommand, hSame]
  · cases hCommand

/-- Where there is no stream, nothing is bound. -/
theorem boundVertices?_of_not_mem {buffer : Handle} {streams : List (VertexStream × UInt64)}
    {binding : UInt32} (hNone : ∀ x ∈ streams, x.1.location ≠ binding) :
    boundVertices? binding (streamCommands buffer streams).reverse = none := by
  rw [boundVertices?, List.findSome?_eq_none_iff]
  intro c hc
  obtain ⟨x, hx, rfl⟩ := List.mem_map.mp (List.mem_reverse.mp hc)
  exact if_neg (hNone x hx)

-- ---------------------------------------------------------------------------
-- Fed bindings
-- ---------------------------------------------------------------------------

/-- A draw with places for its data has bound a buffer binding, and to a stream that it stored at one
of them and that has an element for every vertex. -/
def Feeds (b : Handle) (mesh : Mesh) (p : DrawPlaces) (s t : Renderer × Host) (v : VertexBinding) :
    Prop :=
  ∃ x ∈ p.streams, boundVertices? v.binding (added b s t).reverse = some (t.1.memory.buffer, x.2) ∧
    v.stride.toNat * mesh.positions.length ≤ x.1.bytes.length

/-- A stream that is stored is one of the mesh. -/
theorem Placed.mem_streams {mesh : Mesh} {p : DrawPlaces} (h : Placed s t mesh p)
    {x : VertexStream × UInt64} (hx : x ∈ p.streams) : x.1 ∈ mesh.streams := by
  have hRead : x.1 ∈ s.1.readStreams mesh := h.streams ▸ List.mem_map_of_mem hx
  exact (List.mem_filter.mp hRead).1

/-- Streams that were stored have places of their own. -/
theorem Placed.nodup_places {mesh : Mesh} {p : DrawPlaces} (h : Placed s t mesh p) :
    (p.streams.map Prod.snd).Nodup := by
  have hApart : p.streams.Pairwise fun x x' => (streamRegion x).stop ≤ (streamRegion x').place :=
    List.pairwise_map.mp h.vertices.inTurn
  refine List.pairwise_map.mpr (hApart.imp_of_mem fun {x x'} hx _ hStop hSame => ?_)
  -- a stream has bytes, and the next one lies above them
  have hBytes := List.length_pos_iff.mpr (Mesh.bytes_ne_nil (h.mem_streams hx))
  rw [streamRegion, streamRegion, Region.stop, hSame] at hStop
  dsimp only at hStop
  omega

/-- A mesh's placed streams have different locations. -/
theorem Placed.nodup_locations {mesh : Mesh} {p : DrawPlaces} (h : Placed s t mesh p) :
    (p.streams.map fun x => x.1.location).Nodup := by
  have hStreams : p.streams.map (fun x => x.1.location) =
      (s.1.readStreams mesh).map VertexStream.location := by
    rw [← h.streams, List.map_map]
    rfl
  rw [hStreams]
  exact mesh.nodup_locations.sublist (List.filter_sublist.map VertexStream.location)

/-- The stream of a mesh at a binding that the program reads is stored. -/
theorem Placed.exists_of_read {mesh : Mesh} {p : DrawPlaces} {v : VertexBinding}
    {stream : VertexStream} (h : Placed s t mesh p) (hv : v ∈ s.1.program.vertexInput.bindings)
    (hStream : stream ∈ mesh.streams) (hLocation : stream.location = v.binding) :
    ∃ x ∈ p.streams, x.1 = stream := by
  have hRead : stream ∈ s.1.readStreams mesh :=
    List.mem_filter.mpr ⟨hStream, List.any_eq_true.mpr ⟨v, hv, beq_iff_eq.mpr hLocation.symm⟩⟩
  rw [← h.streams] at hRead
  exact List.mem_map.mp hRead

/-- A draw feeds the bindings that its mesh supplies. -/
theorem feeds_iff {b : Handle} {mesh : Mesh} {mode : PolyRenderMode} {p : DrawPlaces}
    {v : VertexBinding} (hAdds : Adds b (s.1.drawCommands mesh mode p) s t)
    (hPlaced : Placed s t mesh p) (hv : v ∈ s.1.program.vertexInput.bindings) :
    Feeds b mesh p s t v ↔ mesh.Supplies v := by
  have hBound : boundVertices? v.binding (added b s t).reverse =
      boundVertices? v.binding (streamCommands t.1.memory.buffer p.streams).reverse := by
    have hDraw := boundVertices?_of_drawCommands s.1 mesh mode p v.binding []
    rwa [List.append_nil, List.append_nil, ← hAdds.added, ← hAdds.buffer] at hDraw
  rw [Feeds, hBound]
  constructor
  · rintro ⟨x, hx, hPlace, hLength⟩
    -- a binding that is bound after the draw was bound by one of the draw's streams
    obtain ⟨x', hx', hLocation⟩ : ∃ x' ∈ p.streams, x'.1.location = v.binding := by
      by_contra hNone
      push Not at hNone
      rw [boundVertices?_of_not_mem hNone] at hPlace
      cases hPlace
    rw [← hLocation, boundVertices?_of_mem hPlaced.nodup_locations hx', Option.some.injEq,
      Prod.mk.injEq] at hPlace
    -- the places are distinct, so it is the stream that was stored there
    have hSame := List.inj_on_of_nodup_map hPlaced.nodup_places hx' hx hPlace.2
    rw [hSame] at hLocation
    exact ⟨x.1, hPlaced.mem_streams hx, hLocation, hLength⟩
  · rintro ⟨stream, hStream, hLocation, hLength⟩
    obtain ⟨x, hx, rfl⟩ := hPlaced.exists_of_read hv hStream hLocation
    refine ⟨x, hx, ?_, hLength⟩
    rw [← hLocation, boundVertices?_of_mem hPlaced.nodup_locations hx]

/-- There is a frame if a draw returns. -/
theorem frame_of_draw {mesh : Mesh} {mode : PolyRenderMode}
    (hRun : start (draw mesh mode) s = some (.ok (), t)) : ∃ f, s.1.frame = some f := by
  cases hFrame : s.1.frame with
  | some f => exact ⟨f, rfl⟩
  | none =>
    rw [draw, start_bind_of_error (start_currentFrame_none hFrame "draw")] at hRun
    cases hRun

/-- **A draw feeds what its mesh supplies, and nothing else.** A draw that returns has bound a buffer
binding of the program to a region that it stored, with an element for every vertex, if and only if its
mesh has such a stream. What is bound where the mesh has no stream at all is what was bound there before
the draw. -/
theorem feeds_iff_of_draw {allowed : Renderer × Host → Request → Renderer × Host → Prop}
    {mesh : Mesh} {mode : PolyRenderMode} (hReachable : Reachable allowed s) (hMesh : mesh.Countable)
    (hVertices : mesh.positions ≠ []) (hRun : start (draw mesh mode) s = some (.ok (), t)) :
    ∃ f p, s.1.frame = some f ∧
      Adds f.buffer.handle (s.1.drawCommands mesh mode p) s t ∧ Placed s t mesh p ∧
      ∀ v ∈ s.1.program.vertexInput.bindings,
        (Feeds f.buffer.handle mesh p s t v ↔ mesh.Supplies v) ∧
        ((∀ stream ∈ mesh.streams, stream.location ≠ v.binding) →
          boundVertices? v.binding (commands f.buffer.handle t.2.gpu.history) =
            boundVertices? v.binding (commands f.buffer.handle s.2.gpu.history)) := by
  obtain ⟨f, hFrame⟩ := frame_of_draw hRun
  rw [start_draw hFrame (mt hMesh.vertexCount_eq_zero_iff.mp hVertices)] at hRun
  have hRoom := hasRoom_of_reachable hReachable
  obtain ⟨p, hAdds, hPlaced⟩ :=
    (ensures_drawMesh_commands mode hRoom hMesh.addressable).of_ok hRun
  refine ⟨f, p, hFrame, hAdds, hPlaced, fun v hv => ⟨feeds_iff hAdds hPlaced hv, fun hNone => ?_⟩⟩
  have hStreams : ∀ x ∈ p.streams, x.1.location ≠ v.binding :=
    fun x hx => hNone x.1 (hPlaced.mem_streams hx)
  rw [hAdds.commands, boundVertices?_of_drawCommands, boundVertices?_append,
    boundVertices?_of_not_mem hStreams, Option.none_or]

-- ---------------------------------------------------------------------------
-- A mesh without colors
-- ---------------------------------------------------------------------------

/-- The code of a vertex shader that reads three numbers at location 0 and three at location 1. -/
def coloredCode : List UInt8 :=
  bytesOfWords
    [0x07230203, 0x10000, 0, 7, 0, 0x5000F, 0, 1, 0x6E69616D, 0,
      0x40047, 5, 30, 0, 0x40047, 6, 30, 1, 0x30016, 2, 32, 0x40017, 3, 2, 3, 0x40020, 4, 1, 3,
      0x4003B, 4, 5, 1, 0x4003B, 4, 6, 1]

/-- A world with that shader. -/
def coloredHost : Host := { files := ⟨[(["", "a.spv"], .file coloredCode)]⟩ }

/-- The sample renderer with coloured vertices can be created. -/
theorem isSome_colored : (created? {} sampleConfig coloredHost).isSome = true := by decide +kernel

/-- A renderer with a program that reads positions and colors. -/
def colored : Renderer × Host := (created? {} sampleConfig coloredHost).get isSome_colored

/-- That renderer in a frame. -/
def coloredBegun : Renderer × Host := beginFrame.after colored

/-- A triangle with colors. -/
def coloredMesh : Mesh :=
  { sampleMesh [] with colors := [⟨.one, 0, 0, .one⟩, ⟨0, .one, 0, .one⟩, ⟨0, 0, .one, .one⟩] }

/-- After a draw of that triangle. -/
def coloredDrawn : Renderer × Host := (draw coloredMesh .fill).after coloredBegun

/-- After a draw of a triangle that has no colors. -/
def uncoloredDrawn : Renderer × Host := (draw (sampleMesh []) .fill).after coloredDrawn

/-- The frame of both draws. -/
def coloredFrame : Frame := coloredDrawn.1.frame.getD default

theorem feeds_iff_of_uncolored_draw : ∃ p,
    start (draw (sampleMesh []) .fill) coloredDrawn = some (.ok (), uncoloredDrawn) ∧
    Placed coloredDrawn uncoloredDrawn (sampleMesh []) p ∧
    Feeds coloredFrame.buffer.handle (sampleMesh []) p coloredDrawn uncoloredDrawn
      ⟨0, 12, .perVertex⟩ ∧
    ¬ Feeds coloredFrame.buffer.handle (sampleMesh []) p coloredDrawn uncoloredDrawn
      ⟨1, 12, .perVertex⟩ ∧
    boundVertices? 1 (commands coloredFrame.buffer.handle uncoloredDrawn.2.gpu.history) =
      boundVertices? 1 (commands coloredFrame.buffer.handle coloredDrawn.2.gpu.history) ∧
    boundVertices? 1 (commands coloredFrame.buffer.handle coloredDrawn.2.gpu.history) =
      some (uncoloredDrawn.1.memory.buffer, 256) := by
  have hBegun : beginFrame.succeeds colored = true := by decide +kernel
  have hDrawn : (draw coloredMesh .fill).succeeds coloredBegun = true := by decide +kernel
  have hAgain : (draw (sampleMesh []) .fill).succeeds coloredDrawn = true := by decide +kernel
  obtain ⟨_, hBegin⟩ := start_of_succeeds hBegun
  obtain ⟨_, hFirst⟩ := start_of_succeeds hDrawn
  obtain ⟨⟨⟩, hSecond⟩ := start_of_succeeds hAgain
  rw [← coloredBegun] at hBegin
  rw [← coloredDrawn] at hFirst
  rw [← uncoloredDrawn] at hSecond
  -- both draws are steps of a run from a new device
  have hNew : Reachable (fun _ _ _ => True) colored :=
    reachable_of_created ⟨rfl, rfl, Nat.one_pos⟩ (Option.some_get isSome_colored).symm
  have hReachable := (hNew.step .beginFrame ⟨_, hBegin⟩ trivial).step (.draw coloredMesh .fill)
    ⟨_, hFirst⟩ trivial
  have hInput : coloredDrawn.1.program.vertexInput.bindings =
      [⟨0, 12, .perVertex⟩, ⟨1, 12, .perVertex⟩] := by decide +kernel
  have hStreams : (sampleMesh []).streams.map (·.location) = [0] := by decide +kernel
  -- the second mesh has no colours, so nothing is at location 1
  have hNone : ∀ stream ∈ (sampleMesh []).streams, stream.location ≠ 1 := by
    intro stream hStream hOne
    have hLocation := List.mem_map_of_mem (f := VertexStream.location) hStream
    rw [hStreams, List.mem_singleton, hOne] at hLocation
    cases hLocation
  obtain ⟨f, p, hFrame, -, hPlaced, hFeeds⟩ := feeds_iff_of_draw hReachable
    (countable_sampleMesh (by decide)) (positions_sampleMesh []) hSecond
  have hColored : coloredFrame = f := by rw [coloredFrame, hFrame, Option.getD_some]
  rw [hInput, ← hColored] at hFeeds
  obtain ⟨hPositions, -⟩ := hFeeds ⟨0, 12, .perVertex⟩ (by decide)
  obtain ⟨hColors, hSame⟩ := hFeeds ⟨1, 12, .perVertex⟩ (by decide)
  have hSupplied : (sampleMesh []).Supplies ⟨0, 12, .perVertex⟩ := by
    refine ⟨⟨0, (sampleMesh []).positions.flatMap Mesh.bytes3⟩, ?_, rfl, ?_⟩ <;> decide +kernel
  have hMissing : ¬ (sampleMesh []).Supplies ⟨1, 12, .perVertex⟩ :=
    fun ⟨stream, hStream, hLocation, _⟩ => hNone stream hStream hLocation
  exact ⟨p, hSecond, hPlaced, hPositions.mpr hSupplied, mt hColors.mp hMissing, hSame hNone,
    by decide +kernel⟩

end Renderer

end RenderLoop
