import RenderLoop.Renderer.Resize

/-!
# RenderLoop — frames and draws

Between the beginning and the end of a frame, meshes are drawn. The vertices,
indices and uniform data of a draw are copied to the frame buffer; nothing of an
earlier frame is kept there. An image chain that is out of date is made again, at
the beginning of a frame as well as at its end.

A draw that fails may leave commands behind, but never a draw command.
-/

namespace RenderLoop.Renderer

/-- The frame that is being recorded. -/
def currentFrame (operation : String) : Action Frame := do
  let r := (← get).1
  match r.frame with
  | some f => pure f
  | none => throw (.invalidFrameState operation r.machine.state.name)

-- ---------------------------------------------------------------------------
-- Beginning and end
-- ---------------------------------------------------------------------------

/-- Begins a frame. If the swapchain is out of date, it is made again and there is no frame. -/
def beginFrame : Action Unit := do
  set fun r => { r with memory := r.memory.reset }
  match ← (onMachine (Synchronizer.beginFrame (← get).1.extent)).attempt with
  | .ok frame => set fun r => { r with frame := some frame }
  | .error .swapchainOutOfDate => do
    rebuild
    throw .swapchainOutOfDate
  | .error e => throw e

/-- What is logged when the swapchain is out of date at the end of a frame. -/
def outOfDateEntry : LogEntry :=
  .debug component "Surface out of date at present, recreating"

/-- Ends a frame. If the swapchain is out of date, it is made again. -/
def endFrame : Action Unit := do
  let frame ← currentFrame "end frame"
  set fun r => { r with frame := none }
  match ← (onMachine (Synchronizer.endFrame frame)).attempt with
  | .ok () => pure ()
  | .error .swapchainOutOfDate => do
    Op.log outOfDateEntry
    rebuild
  | .error e => throw e

-- ---------------------------------------------------------------------------
-- Uniform data
-- ---------------------------------------------------------------------------

/-- The place of the matrices in a program. -/
def matricesSlot : Slot := ⟨0, 0⟩

/-- The uniform data a draw has stored so far. -/
structure StoredUniforms where
  matrices : Option UInt64 := none
  zeros : Option UInt64 := none
  deriving DecidableEq, Repr, Inhabited

/-- An offset as the device takes it, if it fits. -/
def dynamicOffset (offset : UInt64) : Except RenderError UInt32 :=
  if offset.toNat < UInt32.size then .ok offset.toUInt32
  else .error (.invalidResource s!"Uniform offset {offset} does not fit a dynamic offset")

/-- What is there, or else what an operation stores. -/
def storedOr (stored : Option UInt64) (store : Action UInt64) : Action UInt64 :=
  match stored with
  | some offset => pure offset
  | none => store

/-- The offset of the data of one uniform block: the matrices, or zeros for every other block. -/
def uniformOffset (stored : StoredUniforms) (slot : Slot) : Action (UInt64 × StoredUniforms) := do
  if slot = matricesSlot then
    let bytes := (← get).1.matrices.bytes
    let offset ← storedOr stored.matrices (onMemory (FrameMemory.storeUniform bytes))
    pure (offset, { stored with matrices := some offset })
  else
    let offset ← storedOr stored.zeros (onMemory (FrameMemory.storeUniform []))
    pure (offset, { stored with zeros := some offset })

/-- The offsets of the data of uniform blocks in order. -/
def uniformOffsets (stored : StoredUniforms) : List Slot → Action (List UInt32)
  | [] => pure []
  | slot :: rest => do
    let (offset, stored) ← uniformOffset stored slot
    let offset ← Op.ofExcept (dynamicOffset offset)
    return offset :: (← uniformOffsets stored rest)

-- ---------------------------------------------------------------------------
-- Draws
-- ---------------------------------------------------------------------------

/-- Records a command into the draw buffer. -/
def record (b : CommandBuffer) (command : GpuCommand) : Action Unit :=
  Op.change fun s => (s.1, s.2.record b.handle command)

/-- Binds the descriptor sets of the program. -/
def bindSets (b : CommandBuffer) : Action Unit := do
  let offsets ← uniformOffsets {} (← get).1.descriptors.dynamicSlots
  match (← get).1.descriptors.bindCommand? offsets with
  | some command => record b command
  | none => pure ()

/-- Binds the pipeline of a render mode. -/
def bindPipeline (b : CommandBuffer) (mode : PolyRenderMode) : Action Unit := do
  match (← get).1.pipelines.pair with
  | some pair => record b (.bindPipeline (pair.select mode))
  | none => pure ()

/-- Stores a vertex stream and binds it. -/
def bindStream (b : CommandBuffer) (stream : VertexStream) : Action Unit := do
  let offset ← onMemory (FrameMemory.store stream.bytes)
  record b (.bindVertices stream.location (← get).1.memory.buffer offset)

/-- Binds vertex streams in order. -/
def bindStreams (b : CommandBuffer) : List VertexStream → Action Unit
  | [] => pure ()
  | stream :: rest => do
    bindStream b stream
    bindStreams b rest

/-- Whether a program reads a vertex stream. -/
def reads (input : VertexLayout) (stream : VertexStream) : Bool :=
  input.bindings.any fun b => b.binding == stream.location

/-- Stores the indices of a mesh, if it has any, and binds them. -/
def bindIndices (b : CommandBuffer) (mesh : Mesh) : Action Unit := do
  if mesh.hasIndices then
    let offset ← onMemory (FrameMemory.store mesh.indexBytes)
    record b (.bindIndices (← get).1.memory.buffer offset)

/-- Draws a mesh that has vertices. Streams that the program does not read are left out. -/
def drawMesh (b : CommandBuffer) (mesh : Mesh) (mode : PolyRenderMode) : Action Unit := do
  bindSets b
  bindPipeline b mode
  bindStreams b (mesh.streams.filter (reads (← get).1.program.vertexInput))
  bindIndices b mesh
  record b (.draw mesh.drawCall)

/-- Draws a mesh in the current frame. -/
def draw (mesh : Mesh) (mode : PolyRenderMode) : Action Unit := do
  let frame ← currentFrame "draw"
  if mesh.vertexCount = 0 then Op.log (.trace component "Skipping draw of an empty mesh")
  else drawMesh frame.buffer mesh mode

end RenderLoop.Renderer
