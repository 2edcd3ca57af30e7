import Mathlib.Data.List.Forall2
import RenderLoop.Proofs.Gpu.History
import RenderLoop.Proofs.Gpu.Storage
import RenderLoop.Proofs.Op.Within
import RenderLoop.Renderer.Frames

/-!
# RenderLoop — the data of a draw

A draw stores its data and binds it: the commands it adds to its buffer name the
places of what it stored (`GpuCommand.places`). Which data that is, and in which
order, follows from the mesh and the renderer alone (`Renderer.drawData`).

Every place that a draw binds has its data (`Renderer.ensures_drawMesh`). Two blocks
of zeros of one draw may share a place; everything else has a region of its own,
above the head that the allocator had before the draw.
-/

namespace RenderLoop

/-- The places in the frame buffer that a command names, in order. -/
def GpuCommand.places : GpuCommand → List Nat
  | .bindSets _ _ offsets => offsets.map (·.toNat)
  | .bindVertices _ _ offset => [offset.toNat]
  | .bindIndices _ offset => [offset.toNat]
  | _ => []

namespace Renderer

open GpuHistory Op

variable {s t u : Renderer × Host} {α β : Type}

/-- The frame buffer of a renderer with its world. -/
def store (s : Renderer × Host) : FrameMemory × Host := (s.1.memory, s.2)

-- ---------------------------------------------------------------------------
-- What a draw stores
-- ---------------------------------------------------------------------------

/-- The data of one uniform block: the matrices for their slot and nothing for any other, followed by
zeros up to the range that descriptors see. -/
def blockData (r : Renderer) (slot : Slot) : List UInt8 :=
  let bytes := if slot = matricesSlot then r.matrices.bytes else []
  bytes ++ List.replicate (r.memory.range.toNat - bytes.length) 0

/-- That is how it is stored. -/
theorem blockData_eq_padded (r : Renderer) (slot : Slot) : r.blockData slot =
    FrameMemory.padded (if slot = matricesSlot then r.matrices.bytes else []) r.memory.range := rfl

/-- The data of the uniform blocks, if there are sets to bind. -/
def setsData (r : Renderer) : List (List UInt8) :=
  if r.descriptors.sets.isEmpty then [] else r.descriptors.dynamicSlots.map r.blockData

/-- The data of the vertex streams that the program reads. -/
def streamsData (r : Renderer) (mesh : Mesh) : List (List UInt8) :=
  (mesh.streams.filter (reads r.program.vertexInput)).map (·.bytes)

/-- The data of the indices, if there are any. -/
def indicesData (mesh : Mesh) : List (List UInt8) := if mesh.hasIndices then [mesh.indexBytes] else []

/-- What a draw of a mesh stores, in the order in which its commands name it. -/
def drawData (r : Renderer) (mesh : Mesh) : List (List UInt8) :=
  r.setsData ++ (r.streamsData mesh ++ indicesData mesh)

-- ---------------------------------------------------------------------------
-- Adding commands and data
-- ---------------------------------------------------------------------------

/-- Commands were added to a buffer, and more was stored; nothing else has changed. -/
structure Adds (b : Handle) (cs : List GpuCommand) (s t : Renderer × Host) : Prop where
  rest : t.1 = { s.1 with memory := t.1.memory }
  fills : FrameMemory.Fills (store s) (store t)
  commands : commands b t.2.gpu.history = cs.reverse ++ commands b s.2.gpu.history

/-- Data that was asked for is bound by commands, in regions since a place. -/
def Bound (start : Nat) (cs : List GpuCommand) (data : List (List UInt8)) (s : Renderer × Host) :
    Prop :=
  List.Forall₂ (fun place bytes => FrameMemory.Laid start (store s) ⟨place, bytes⟩)
    (cs.flatMap GpuCommand.places) data

/-- Commands were added that bind data. -/
def Binds (b : Handle) (start : Nat) (data : List (List UInt8)) (s t : Renderer × Host) : Prop :=
  ∃ cs, Adds b cs s t ∧ Bound start cs data t

/-- Whatever was added. -/
def AddsSome (b : Handle) (s t : Renderer × Host) : Prop := ∃ cs, Adds b cs s t

section Adds

variable {b : Handle} {cs cs' : List GpuCommand} {start : Nat} {data data' : List (List UInt8)}

/-- Only the history has grown, by some commands for the buffer. -/
theorem adds_of_grows {r : Renderer} {h h' : Host}
    (hMemory : h'.gpu.frameMemory = h.gpu.frameMemory)
    (hCommands : commands b h'.gpu.history = cs.reverse ++ commands b h.gpu.history) :
    Adds b cs (r, h) (r, h') where
  rest := rfl
  fills := FrameMemory.fills_of_same rfl hMemory
  commands := hCommands

/-- Nothing was added. -/
theorem Adds.refl (s : Renderer × Host) : Adds b [] s s := adds_of_grows rfl rfl

/-- Commands are added in steps. -/
theorem Adds.trans (h : Adds b cs s t) (h' : Adds b cs' t u) : Adds b (cs ++ cs') s u where
  rest := by
    rw [h'.rest, h.rest]
  fills := h.fills.trans h'.fills
  commands := by
    rw [h'.commands, h.commands, List.reverse_append, List.append_assoc]

/-- The commands there were are still there. -/
theorem Adds.suffix (h : Adds b cs s t) :
    GpuHistory.commands b s.2.gpu.history <:+ GpuHistory.commands b t.2.gpu.history :=
  ⟨cs.reverse, h.commands.symm⟩

/-- Data that is bound stays while storing goes on. -/
theorem Bound.fills (h : Bound start cs data s) (hFills : FrameMemory.Fills (store s) (store t)) :
    Bound start cs data t :=
  h.imp fun _ _ hLaid => hLaid.fills hFills

/-- Data that is bound by two lists of commands is bound by both together. -/
theorem Bound.append (h : Bound start cs data s) (h' : Bound start cs' data' s) :
    Bound start (cs ++ cs') (data ++ data') s := by
  rw [Bound, List.flatMap_append]
  exact List.rel_append h h'

/-- Data is bound in steps. -/
theorem Binds.trans (h : Binds b start data s t) (h' : Binds b start data' t u) :
    Binds b start (data ++ data') s u := by
  obtain ⟨cs, hAdds, hBound⟩ := h
  obtain ⟨cs', hAdds', hBound'⟩ := h'
  exact ⟨cs ++ cs', hAdds.trans hAdds', (hBound.fills hAdds'.fills).append hBound'⟩

/-- Binding adds commands. -/
theorem Binds.addsSome (h : Binds b start data s t) : AddsSome b s t := by
  obtain ⟨cs, hAdds, -⟩ := h
  exact ⟨cs, hAdds⟩

/-- Commands are added in steps, whichever they are. -/
theorem AddsSome.trans (h : AddsSome b s t) (h' : AddsSome b t u) : AddsSome b s u := by
  obtain ⟨cs, hAdds⟩ := h
  obtain ⟨cs', hAdds'⟩ := h'
  exact ⟨cs ++ cs', hAdds.trans hAdds'⟩

/-- What follows has to bind the rest of the data. -/
theorem ensures_bind_binds {op : Action α} {f : α → Action β}
    (hOp : op.Ensures s (fun _ t => Binds b start data s t) (fun _ t => AddsSome b s t))
    (hf : ∀ a t, Binds b start data s t →
      (f a).Ensures t (fun _ u => Binds b start data' t u) (fun _ u => AddsSome b t u)) :
    (op >>= f).Ensures s (fun _ u => Binds b start (data ++ data') s u)
      (fun _ u => AddsSome b s u) := by
  rw [ensures_bind]
  refine hOp.mono (fun a t hBinds => ?_) fun _ _ h => h
  exact (hf a t hBinds).mono (fun _ _ h => hBinds.trans h) fun _ _ h => hBinds.addsSome.trans h

end Adds

-- ---------------------------------------------------------------------------
-- Storing and recording
-- ---------------------------------------------------------------------------

section Parts

variable {b : CommandBuffer} {start : Nat}

/-- Recording adds one command. -/
theorem adds_record (c : GpuCommand) (s : Renderer × Host) :
    Adds b.handle [c] s (s.1, s.2.record b.handle c) := by
  refine adds_of_grows rfl ?_
  show (if b.handle = b.handle then c :: _ else _) = _
  rw [if_pos rfl]
  rfl

/-- Bytes that were stored, before a command names them. -/
theorem ensures_onMemory_adds {op : Op (FrameMemory × Host) UInt64} {bytes : List UInt8}
    (hOp : op.Ensures (store s)
      (fun offset m => FrameMemory.Fills (store s) m ∧ m.2.gpu.history = s.2.gpu.history ∧
        FrameMemory.Laid s.1.memory.head m ⟨offset.toNat, bytes⟩)
      (fun _ m => FrameMemory.Fills (store s) m ∧ m.2.gpu.history = s.2.gpu.history)) :
    (onMemory op).Ensures s
      (fun offset t => Adds b.handle [] s t ∧
        FrameMemory.Laid s.1.memory.head (store t) ⟨offset.toNat, bytes⟩)
      (fun _ t => Adds b.handle [] s t) := by
  rw [onMemory, ensures_on]
  have hAdds : ∀ {m : FrameMemory × Host}, FrameMemory.Fills (store s) m →
      m.2.gpu.history = s.2.gpu.history →
      Adds b.handle [] s ({ s.1 with memory := m.1 }, m.2) := by
    intro m hFills hHistory
    exact ⟨rfl, hFills, congrArg (GpuHistory.commands b.handle) hHistory⟩
  exact hOp.mono (fun _ _ h => ⟨hAdds h.1 h.2.1, h.2.2⟩) fun _ _ h => hAdds h.1 h.2

/-- Bytes that are stored and then named by a command. -/
theorem ensures_storeAndBind {bytes : List UInt8} (command : Handle → UInt64 → GpuCommand)
    (hPlaces : ∀ buffer offset, (command buffer offset).places = [offset.toNat])
    (hRoom : FrameMemory.HasRoom (store s)) (hStart : start ≤ s.1.memory.head)
    (hSize : bytes.length < UInt64.size) :
    (do let offset ← onMemory (FrameMemory.store bytes)
        record b (command (← get).1.memory.buffer offset)).Ensures s
      (fun _ t => Binds b.handle start [bytes] s t) (fun _ t => AddsSome b.handle s t) := by
  rw [ensures_bind]
  refine (ensures_onMemory_adds (b := b) (FrameMemory.ensures_store hRoom hSize)).mono ?_
    fun _ _ h => ⟨[], h⟩
  rintro offset t ⟨hAdds, hLaid⟩
  rw [ensures_bind, ensures_get, record, ensures_change]
  refine ⟨[] ++ [command t.1.memory.buffer offset], hAdds.trans (adds_record _ t), ?_⟩
  rw [Bound, List.nil_append, List.flatMap_singleton, hPlaces]
  exact .cons ((hLaid.mono hStart).fills (adds_record (b := b) _ t).fills) .nil

-- ---------------------------------------------------------------------------
-- Uniform data
-- ---------------------------------------------------------------------------

/-- What descriptors see stays while commands are added. -/
theorem Adds.range {cs : List GpuCommand} (h : Adds b.handle cs s t) :
    t.1.memory.range = s.1.memory.range := by
  have hRange := congrArg FrameMemory.range h.fills.rest
  exact hRange

/-- The data of a block stays while commands are added. -/
theorem Adds.blockData {cs : List GpuCommand} (h : Adds b.handle cs s t) (slot : Slot) :
    t.1.blockData slot = s.1.blockData slot := by
  rw [Renderer.blockData, h.range, h.rest]
  rfl

/-- What was stored of the uniform data is there. -/
structure StoredAt (start : Nat) (s : Renderer × Host) (stored : StoredUniforms) : Prop where
  matrices : ∀ offset ∈ stored.matrices,
    FrameMemory.Laid start (store s) ⟨offset.toNat, s.1.blockData matricesSlot⟩
  zeros : ∀ offset ∈ stored.zeros,
    FrameMemory.Laid start (store s) ⟨offset.toNat, FrameMemory.padded [] s.1.memory.range⟩

/-- What was stored before is there while commands and data are added. -/
theorem StoredAt.adds {cs : List GpuCommand} {stored : StoredUniforms}
    (h : StoredAt start s stored) (hAdds : Adds b.handle cs s t) : StoredAt start t stored := by
  refine ⟨fun offset ho => ?_, fun offset ho => ?_⟩
  · rw [hAdds.blockData]
    exact (h.matrices offset ho).fills hAdds.fills
  · rw [hAdds.range]
    exact (h.zeros offset ho).fills hAdds.fills

/-- What is there is used, and what is not is stored. -/
theorem ensures_storedOr {stored : Option UInt64} {bytes data : List UInt8}
    (hRoom : FrameMemory.HasRoom (store s)) (hStart : start ≤ s.1.memory.head)
    (hData : FrameMemory.padded bytes s.1.memory.range = data)
    (hStored : ∀ offset ∈ stored, FrameMemory.Laid start (store s) ⟨offset.toNat, data⟩) :
    (storedOr stored (onMemory (FrameMemory.storeUniform bytes))).Ensures s
      (fun offset t => Adds b.handle [] s t ∧
        FrameMemory.Laid start (store t) ⟨offset.toNat, data⟩)
      (fun _ t => Adds b.handle [] s t) := by
  cases stored with
  | some offset =>
    rw [storedOr, ensures_pure]
    exact ⟨.refl s, hStored offset rfl⟩
  | none =>
    rw [storedOr]
    refine (ensures_onMemory_adds (FrameMemory.ensures_storeUniform hRoom)).mono ?_ fun _ _ h => h
    rintro offset t ⟨hAdds, hLaid⟩
    subst hData
    exact ⟨hAdds, hLaid.mono hStart⟩

/-- A slot gets the place of its data, and what was stored now can be used again. -/
theorem ensures_uniformOffset {stored : StoredUniforms} (slot : Slot)
    (hRoom : FrameMemory.HasRoom (store s)) (hStart : start ≤ s.1.memory.head)
    (hStored : StoredAt start s stored) :
    (uniformOffset stored slot).Ensures s
      (fun r t => Adds b.handle [] s t ∧ StoredAt start t r.2 ∧
        FrameMemory.Laid start (store t) ⟨r.1.toNat, s.1.blockData slot⟩)
      (fun _ t => Adds b.handle [] s t) := by
  rw [uniformOffset]
  -- the matrices, or zeros
  refine ensures_ite (fun hSlot => ?_) fun hSlot => ?_
  · have hData : FrameMemory.padded s.1.matrices.bytes s.1.memory.range = s.1.blockData slot := by
      rw [blockData_eq_padded, if_pos hSlot]
    rw [ensures_bind, ensures_get, ensures_bind]
    refine (ensures_storedOr (b := b) hRoom hStart hData ?_).mono ?_ fun _ _ h => h
    · rw [hSlot]
      exact hStored.matrices
    · rintro offset t ⟨hAdds, hLaid⟩
      rw [ensures_pure]
      refine ⟨hAdds, ⟨?_, (hStored.adds hAdds).zeros⟩, hLaid⟩
      rintro offset' ⟨⟩
      rw [hAdds.blockData, ← hSlot]
      exact hLaid
  · have hData : FrameMemory.padded [] s.1.memory.range = s.1.blockData slot := by
      rw [blockData_eq_padded, if_neg hSlot]
    rw [ensures_bind]
    refine (ensures_storedOr (b := b) hRoom hStart hData ?_).mono ?_ fun _ _ h => h
    · rw [← hData]
      exact hStored.zeros
    · rintro offset t ⟨hAdds, hLaid⟩
      rw [ensures_pure]
      refine ⟨hAdds, ⟨(hStored.adds hAdds).matrices, ?_⟩, hLaid⟩
      rintro offset' ⟨⟩
      rw [hAdds.range, hData]
      exact hLaid

/-- An offset that the device takes is the place of the data. -/
theorem toNat_of_dynamicOffset {offset : UInt64} {o : UInt32} (h : dynamicOffset offset = .ok o) :
    o.toNat = offset.toNat := by
  rw [dynamicOffset] at h
  split at h
  · rename_i hFits
    cases h
    rw [UInt64.toNat_toUInt32]
    exact Nat.mod_eq_of_lt hFits
  · cases h

/-- All slots get their places in order. -/
theorem ensures_uniformOffsets {stored : StoredUniforms} (slots : List Slot)
    (hRoom : FrameMemory.HasRoom (store s)) (hStart : start ≤ s.1.memory.head)
    (hStored : StoredAt start s stored) :
    (uniformOffsets stored slots).Ensures s
      (fun offsets t => Adds b.handle [] s t ∧
        List.Forall₂ (fun place bytes => FrameMemory.Laid start (store t) ⟨place, bytes⟩)
          (offsets.map (·.toNat)) (slots.map s.1.blockData))
      (fun _ t => Adds b.handle [] s t) := by
  induction slots generalizing stored s with
  | nil =>
    rw [uniformOffsets, ensures_pure]
    exact ⟨.refl s, .nil⟩
  | cons slot rest ih =>
    rw [uniformOffsets, ensures_bind]
    refine (ensures_uniformOffset (b := b) slot hRoom hStart hStored).mono ?_ fun _ _ h => h
    rintro ⟨offset, stored'⟩ t ⟨hAdds, hStored', hLaid⟩
    dsimp only
    rw [ensures_bind, ensures_ofExcept]
    cases hOffset : dynamicOffset offset with
    -- the place is beyond what an offset can say
    | error e => exact hAdds
    | ok o =>
      rw [outcome_ok, ensures_bind]
      have hRest := ih (hAdds.fills.room hRoom) (Nat.le_trans hStart hAdds.fills.head) hStored'
      refine hRest.mono ?_ fun _ _ h => hAdds.trans h
      rintro offsets u ⟨hAdds', hLaidAll⟩
      rw [ensures_pure]
      refine ⟨hAdds.trans hAdds', .cons ?_ ?_⟩
      · dsimp only
        rw [toNat_of_dynamicOffset hOffset]
        exact hLaid.fills hAdds'.fills
      · have hBlocks : rest.map t.1.blockData = rest.map s.1.blockData :=
          List.map_congr_left fun slot' _ => hAdds.blockData slot'
        rw [← hBlocks]
        exact hLaidAll

-- ---------------------------------------------------------------------------
-- The parts of a draw
-- ---------------------------------------------------------------------------

/-- A command that names no places binds no data. -/
theorem binds_record {c : GpuCommand} (hPlaces : c.places = []) (s : Renderer × Host) :
    Binds b.handle start [] s (s.1, s.2.record b.handle c) := by
  refine ⟨[c], adds_record c s, ?_⟩
  rw [Bound, List.flatMap_singleton, hPlaces]
  exact .nil

/-- Binding sets binds the data of the blocks. -/
theorem ensures_bindSets (hRoom : FrameMemory.HasRoom (store s))
    (hStart : start ≤ s.1.memory.head) :
    (bindSets b).Ensures s (fun _ t => Binds b.handle start s.1.setsData s t)
      (fun _ t => AddsSome b.handle s t) := by
  rw [bindSets, ensures_bind, ensures_get, ensures_bind]
  -- nothing of this draw was stored so far
  have hNone : StoredAt start s {} := by
    constructor <;> (intro offset h; cases h)
  refine (ensures_uniformOffsets (b := b) _ hRoom hStart hNone).mono ?_ fun _ _ h => ⟨[], h⟩
  rintro offsets t ⟨hAdds, hLaid⟩
  have hDescriptors : t.1.descriptors = s.1.descriptors := by
    rw [hAdds.rest]
  rw [ensures_bind, ensures_get, hDescriptors, Descriptors.bindCommand?, setsData]
  split
  · rename_i c hCommand
    split at hCommand
    · cases hCommand
    · cases hCommand
      rw [record, ensures_change, if_neg ‹_›]
      refine ⟨[] ++ [_], hAdds.trans (adds_record _ t), ?_⟩
      rw [Bound, List.nil_append, List.flatMap_singleton]
      exact hLaid.imp fun _ _ h => h.fills (adds_record (b := b) _ t).fills
  · rename_i hCommand
    split at hCommand
    · rw [ensures_pure, if_pos ‹_›]
      exact ⟨[], hAdds, .nil⟩
    · cases hCommand

/-- Binding the pipeline binds no data. -/
theorem ensures_bindPipeline (mode : PolyRenderMode) :
    (bindPipeline b mode).Ensures s (fun _ t => Binds b.handle start [] s t)
      (fun _ t => AddsSome b.handle s t) := by
  rw [bindPipeline, ensures_bind, ensures_get]
  split
  · rw [record, ensures_change]
    exact binds_record rfl s
  · rw [ensures_pure]
    exact ⟨[], .refl s, .nil⟩

/-- Binding streams binds the data of each. -/
theorem ensures_bindStreams {streams : List VertexStream} (hRoom : FrameMemory.HasRoom (store s))
    (hStart : start ≤ s.1.memory.head)
    (hSize : ∀ stream ∈ streams, stream.bytes.length < UInt64.size) :
    (bindStreams b streams).Ensures s
      (fun _ t => Binds b.handle start (streams.map (·.bytes)) s t)
      (fun _ t => AddsSome b.handle s t) := by
  induction streams generalizing s with
  | nil =>
    rw [bindStreams, ensures_pure]
    exact ⟨[], .refl s, .nil⟩
  | cons stream rest ih =>
    rw [bindStreams, List.map_cons, ← List.singleton_append]
    refine ensures_bind_binds ?_ fun _ t hBinds => ?_
    · rw [bindStream]
      exact ensures_storeAndBind (.bindVertices stream.location) (fun _ _ => rfl) hRoom hStart
        (hSize stream List.mem_cons_self)
    · obtain ⟨cs, hAdds, -⟩ := hBinds
      exact ih (hAdds.fills.room hRoom) (Nat.le_trans hStart hAdds.fills.head)
        fun stream' h => hSize stream' (List.mem_cons_of_mem stream h)

/-- Binding indices binds their data, if there are any. -/
theorem ensures_bindIndices {mesh : Mesh} (hRoom : FrameMemory.HasRoom (store s))
    (hStart : start ≤ s.1.memory.head) (hSize : mesh.indexBytes.length < UInt64.size) :
    (bindIndices b mesh).Ensures s (fun _ t => Binds b.handle start (indicesData mesh) s t)
      (fun _ t => AddsSome b.handle s t) := by
  rw [bindIndices, indicesData]
  split
  · exact ensures_storeAndBind .bindIndices (fun _ _ => rfl) hRoom hStart hSize
  · rw [ensures_pure]
    exact ⟨[], .refl s, .nil⟩

end Parts

-- ---------------------------------------------------------------------------
-- Whole draws
-- ---------------------------------------------------------------------------

/-- The arrays of a mesh are no larger than what can be addressed. -/
structure Addressable (mesh : Mesh) : Prop where
  streams : ∀ stream ∈ mesh.streams, stream.bytes.length < UInt64.size
  indices : mesh.indexBytes.length < UInt64.size

/-- **A draw binds its data**, all of it and in regions above the old head. A draw that fails adds
commands and data as well, but leaves alone what was stored before. -/
theorem ensures_drawMesh {b : CommandBuffer} {mesh : Mesh} (mode : PolyRenderMode)
    (hRoom : FrameMemory.HasRoom (store s)) (hMesh : Addressable mesh) :
    (drawMesh b mesh mode).Ensures s
      (fun _ t => Binds b.handle s.1.memory.head (s.1.drawData mesh) s t)
      (fun _ t => AddsSome b.handle s t) := by
  -- what each step needs of the steps before it
  have hLater : ∀ {t : Renderer × Host}, AddsSome b.handle s t →
      FrameMemory.HasRoom (store t) ∧ s.1.memory.head ≤ t.1.memory.head ∧
        t.1.program = s.1.program := by
    rintro t ⟨cs, hAdds⟩
    refine ⟨hAdds.fills.room hRoom, hAdds.fills.head, ?_⟩
    rw [hAdds.rest]
  rw [drawMesh, drawData]
  refine ensures_bind_binds (ensures_bindSets hRoom (Nat.le_refl _)) fun _ s₁ h₁ => ?_
  rw [← List.nil_append (s.1.streamsData mesh ++ _)]
  refine ensures_bind_binds (ensures_bindPipeline mode) fun _ s₂ h₂ => ?_
  obtain ⟨hRoom₂, hStart₂, hProgram⟩ := hLater (h₁.addsSome.trans h₂.addsSome)
  rw [ensures_bind, ensures_get, streamsData, hProgram]
  refine ensures_bind_binds (ensures_bindStreams hRoom₂ hStart₂ ?_) fun _ s₃ h₃ => ?_
  · exact fun stream h => hMesh.streams stream (List.mem_filter.mp h).1
  obtain ⟨hRoom₃, hStart₃, -⟩ := hLater ((h₁.addsSome.trans h₂.addsSome).trans h₃.addsSome)
  rw [← List.append_nil (indicesData mesh)]
  refine ensures_bind_binds (ensures_bindIndices hRoom₃ hStart₃ hMesh.indices) fun _ s₄ _ => ?_
  rw [record, ensures_change]
  exact binds_record rfl s₄

end Renderer

end RenderLoop
