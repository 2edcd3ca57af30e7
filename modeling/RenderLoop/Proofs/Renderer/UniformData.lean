import RenderLoop.Proofs.Descriptor.BoundSets
import RenderLoop.Proofs.Renderer.FrameDraws
import RenderLoop.Proofs.Renderer.Loaded

/-!
# RenderLoop — uniform data and its descriptors

The descriptors of a program see a range of the frame buffer from an offset on, and
every draw passes the offsets. Sets and range are made when the program is loaded,
offsets are found when something is drawn. For a loaded program they agree
(`Renderer.uniforms_of_draw`): there is one offset for each dynamic descriptor of the
sets, in the order that the device takes them in; what a descriptor sees from there on
lies in the frame buffer, holds the data of its block, and is no smaller than that.

The sets are those of layout objects, and an object is found by the 64-bit key of its
layout. So all this is as good as the keys are at telling layouts apart
(`Descriptors.KeysApart`). Nothing else checks that an object was made for the layout
that it is found for.
-/

namespace RenderLoop

open GpuHistory Op

-- ---------------------------------------------------------------------------
-- Uniform data fits
-- ---------------------------------------------------------------------------

/-- Matrices take the same number of bytes whatever is in them. -/
theorem Matrices.length_bytes (m : Matrices) : m.bytes.length = Matrices.size := by
  have hMatrix : ∀ x : Matrix4, x.bytes.length = 64 := by
    intro x
    rw [Matrix4.bytes, length_bytesOfWords, Vector.length_toList]
  rw [bytes, List.length_append, List.length_append, hMatrix, hMatrix, hMatrix]
  rfl

namespace FrameMemory

/-- A cause is not that uniform data is too large. -/
def Fitting (e : RenderError) : Prop := ∀ bytes range, e ≠ oversized bytes range

/-- Having no room is another cause. -/
theorem fitting_outOfMemory : Fitting .outOfMemory := nofun

/-- Other data is never too large; it has room, or not. -/
theorem ensures_store_fitting (bytes : List UInt8) (s : FrameMemory × Host) :
    (FrameMemory.store bytes).Ensures s (fun _ t => t.1.range = s.1.range)
      (fun e _ => Fitting e) :=
  ensures_store_of (fun _ _ _ => rfl) fun _ => fitting_outOfMemory

/-- What descriptors can see is stored, if there is room. -/
theorem ensures_storeUniform_fitting {bytes : List UInt8} {s : FrameMemory × Host}
    (hBytes : bytes.length ≤ s.1.range.toNat) :
    (storeUniform bytes).Ensures s (fun _ t => t.1.range = s.1.range) (fun e _ => Fitting e) := by
  refine ensures_storeUniform_of ?_ (fun _ _ _ _ => rfl) fun _ => fitting_outOfMemory
  intro hLong
  exact absurd hBytes (Nat.not_le.mpr hLong)

end FrameMemory

namespace Renderer

variable {s t u : Renderer × Host} {f : Frame} {b : CommandBuffer} {α β : Type}

/-- While descriptors see as much as the matrices take, an operation leaves that so, and it does not
fail because uniform data is too large. -/
def Fits (op : Action α) : Prop :=
  ∀ s : Renderer × Host, Matrices.size ≤ s.1.memory.range.toNat →
    op.Ensures s (fun _ t => Matrices.size ≤ t.1.memory.range.toNat)
      (fun e _ => FrameMemory.Fitting e)

section Fits

/-- Two operations that fit do so one after the other. -/
theorem Fits.bind {op : Action α} {g : α → Action β} (hOp : Fits op) (hg : ∀ a, Fits (g a)) :
    Fits (op >>= g) := by
  intro s hRange
  rw [ensures_bind]
  exact (hOp s hRange).mono (fun a t hRange' => hg a t hRange') fun _ _ h => h

/-- Returning fits. -/
theorem fits_pure (a : α) : Fits (pure a) := by
  intro s hRange
  rw [ensures_pure]
  exact hRange

/-- Looking at the renderer fits. -/
theorem fits_get : Fits get := by
  intro s hRange
  rw [ensures_get]
  exact hRange

/-- Logging fits. -/
theorem fits_log (e : LogEntry) : Fits (Op.log e) := by
  intro s hRange
  rw [ensures_log]
  exact hRange

/-- Recording a command fits. -/
theorem fits_record (c : GpuCommand) : Fits (record b c) := by
  intro s hRange
  rw [record, ensures_change]
  exact hRange

/-- Storing what is no uniform data fits. -/
theorem fits_store (bytes : List UInt8) : Fits (onMemory (FrameMemory.store bytes)) := by
  intro s hRange
  rw [onMemory, ensures_on]
  refine (FrameMemory.ensures_store_fitting bytes _).mono (fun _ t hSame => ?_) fun _ _ h => h
  show Matrices.size ≤ t.1.range.toNat
  rw [hSame]
  exact hRange

/-- Storing uniform data that is no larger than the matrices fits. -/
theorem fits_storeUniform {bytes : List UInt8} (hBytes : bytes.length ≤ Matrices.size) :
    Fits (onMemory (FrameMemory.storeUniform bytes)) := by
  intro s hRange
  rw [onMemory, ensures_on]
  refine (FrameMemory.ensures_storeUniform_fitting (s := (s.1.memory, s.2))
    (Nat.le_trans hBytes hRange)).mono (fun _ t hSame => ?_) fun _ _ h => h
  show Matrices.size ≤ t.1.range.toNat
  rw [hSame]
  exact hRange

/-- A text about an offset is not one about data. -/
theorem fits_dynamicOffset (offset : UInt64) : Fits (Op.ofExcept (dynamicOffset offset)) := by
  intro s hRange
  rw [ensures_ofExcept, dynamicOffset]
  split
  · exact hRange
  · intro bytes range hSame
    have hText := congrArg String.toList (RenderError.invalidResource.inj hSame)
    simp only [String.toList_append, List.append_assoc] at hText
    have hNinth := congrArg (·[8]?) hText
    rw [List.getElem?_append_left (by decide), List.getElem?_append_left (by decide)] at hNinth
    exact absurd hNinth (by decide)

/-- The data of a slot is the matrices, or nothing. -/
theorem fits_uniformOffset (stored : StoredUniforms) (slot : Slot) :
    Fits (uniformOffset stored slot) := by
  have hStoredOr : ∀ (stored : Option UInt64) {bytes : List UInt8},
      bytes.length ≤ Matrices.size →
        Fits (storedOr stored (onMemory (FrameMemory.storeUniform bytes))) := by
    intro stored bytes hBytes
    cases stored with
    | some offset => exact fits_pure offset
    | none => exact fits_storeUniform hBytes
  rw [uniformOffset]
  split
  · refine fits_get.bind fun r => ?_
    refine (hStoredOr _ (Nat.le_of_eq r.1.matrices.length_bytes)).bind fun _ => ?_
    exact fits_pure _
  · exact (hStoredOr _ (Nat.zero_le _)).bind fun _ => fits_pure _

/-- The data of all slots fits. -/
theorem fits_uniformOffsets (stored : StoredUniforms) (slots : List Slot) :
    Fits (uniformOffsets stored slots) := by
  induction slots generalizing stored with
  | nil => exact fits_pure []
  | cons slot rest ih =>
    refine (fits_uniformOffset stored slot).bind fun found => ?_
    refine (fits_dynamicOffset _).bind fun _ => ?_
    refine (ih found.2).bind fun _ => ?_
    exact fits_pure _

/-- Binding sets fits, since its uniform data is no larger than the matrices. -/
theorem fits_bindSets : Fits (bindSets b) := by
  refine fits_get.bind fun s => ?_
  refine (fits_uniformOffsets _ _).bind fun offsets => ?_
  refine fits_get.bind fun s => ?_
  split
  · exact fits_record _
  · exact fits_pure ()

/-- Binding the input and drawing fits, since no uniform data is stored for it. -/
theorem fits_drawInput (mesh : Mesh) (mode : PolyRenderMode) : Fits (drawInput b mesh mode) := by
  have hPipeline : Fits (bindPipeline b mode) := by
    refine fits_get.bind fun s => ?_
    split
    · exact fits_record _
    · exact fits_pure ()
  -- stream by stream: each is stored, then bound
  have hStreams : ∀ streams, Fits (bindStreams b streams) := by
    intro streams
    induction streams with
    | nil => exact fits_pure ()
    | cons stream rest ih =>
      refine Fits.bind ?_ fun _ => ih
      refine (fits_store stream.bytes).bind fun _ => ?_
      refine fits_get.bind fun _ => ?_
      exact fits_record _
  have hIndices : Fits (bindIndices b mesh) := by
    rw [bindIndices]
    split
    · refine (fits_store mesh.indexBytes).bind fun _ => ?_
      refine fits_get.bind fun _ => ?_
      exact fits_record _
    · exact fits_pure ()
  refine hPipeline.bind fun _ => ?_
  refine fits_get.bind fun _ => ?_
  refine (hStreams _).bind fun _ => ?_
  refine hIndices.bind fun _ => ?_
  exact fits_record _

/-- A draw fits, also if it is refused or skipped. -/
theorem fits_draw (mesh : Mesh) (mode : PolyRenderMode) : Fits (draw mesh mode) := by
  have hFrame : Fits (currentFrame "draw") := by
    refine fits_get.bind fun s => ?_
    dsimp only
    split
    · exact fits_pure _
    · intro s hRange
      rw [ensures_throw]
      intro _ _ hSame
      cases hSame
  refine hFrame.bind fun f => ?_
  split
  · exact fits_log _
  · rw [drawMesh_eq]
    exact fits_bindSets.bind fun _ => fits_drawInput mesh mode

end Fits

-- ---------------------------------------------------------------------------
-- What descriptors see
-- ---------------------------------------------------------------------------

/-- What the descriptor of a slot sees from an offset on lies in the frame buffer and is the data of its
block, the whole range that was written for it. -/
structure UniformAt (u : Renderer × Host) (slot : Slot) (offset : UInt32) : Prop where
  inside : offset.toNat + u.1.memory.range.toNat ≤ u.1.memory.linear.capacity.toNat
  length_eq : (u.1.blockData slot).length = u.1.memory.range.toNat
  holds : u.2.gpu.Holds ⟨offset.toNat, u.1.blockData slot⟩

/-- Sets were bound with the right offsets. -/
structure UniformsBound (u : Renderer × Host) (layouts : List SetLayout) (sets : List Handle)
    (offsets : List UInt32) : Prop where
  sets : Descriptors.SetsOf u.2.gpu.history u.1.memory.region layouts sets
  /-- The region that was written into the sets begins where the frame buffer does. -/
  buffer : Made u.2.gpu.history (.buffer u.1.memory.linear.capacity) u.1.memory.region.buffer ∧
    u.1.memory.region.offset = 0
  covers : ∀ b ∈ u.1.program.uniforms.bindings, b.size.toNat ≤ u.1.memory.region.range.toNat
  ascending : Slot.Ascending (layouts.flatMap SetLayout.dynamicSlots)
  data : List.Forall₂ (UniformAt u) (layouts.flatMap SetLayout.dynamicSlots) offsets

/-- Descriptors see as much as the matrices take. -/
theorem Equipped.size_le_range (h : Equipped s) : Matrices.size ≤ s.1.memory.range.toNat := by
  rw [h.range, UInt64.toNat_max]
  exact Nat.le_max_right _ _

/-- A maximum is no smaller than what it is taken over. -/
theorem toNat_le_foldl_max {xs : List UInt64} {a x : UInt64} (hx : x ∈ a :: xs) :
    x.toNat ≤ (xs.foldl max a).toNat := by
  induction xs generalizing a x with
  | nil => exact List.mem_singleton.mp hx ▸ Nat.le_refl _
  | cons y rest ih =>
    rw [List.foldl_cons]
    have hMax := ih (List.mem_cons_self (a := max a y) (l := rest))
    rw [UInt64.toNat_max] at hMax
    rcases List.mem_cons.mp hx with rfl | hx
    · exact Nat.le_trans (Nat.le_max_left _ _) hMax
    rcases List.mem_cons.mp hx with rfl | hRest
    · exact Nat.le_trans (Nat.le_max_right _ _) hMax
    · exact ih (List.mem_cons_of_mem _ hRest)

/-- The largest block is no smaller than any other. -/
theorem le_uniformRange {p : Program} {b : UniformBinding} (hb : b ∈ p.uniforms.bindings) :
    b.size.toNat ≤ (uniformRange p).toNat := by
  have hSize : b.size.toUInt64 ∈ p.uniforms.bindings.map fun b => b.size.toUInt64 :=
    List.mem_map_of_mem hb
  have hMax := toNat_le_foldl_max (List.mem_cons_of_mem 0 hSize)
  rwa [UInt32.toNat_toUInt64] at hMax

/-- Descriptors see as much as any block of the program takes. -/
theorem Equipped.covers (h : Equipped s) :
    ∀ b ∈ s.1.program.uniforms.bindings, b.size.toNat ≤ s.1.memory.range.toNat := by
  intro b hb
  rw [h.range, UInt64.toNat_max]
  exact Nat.le_trans (le_uniformRange hb) (Nat.le_max_left _ _)

/-- The data of a block fills the range. -/
theorem length_blockData (hRange : Matrices.size ≤ s.1.memory.range.toNat) (slot : Slot) :
    (s.1.blockData slot).length = s.1.memory.range.toNat := by
  have hBytes : (if slot = matricesSlot then s.1.matrices.bytes else []).length ≤ Matrices.size := by
    split
    · exact Nat.le_of_eq s.1.matrices.length_bytes
    · exact Nat.zero_le _
  rw [blockData_eq_padded]
  exact FrameMemory.length_padded (Nat.le_trans hBytes hRange)

-- ---------------------------------------------------------------------------
-- Draws
-- ---------------------------------------------------------------------------

/-- Nothing that a draw records after its sets has offsets. -/
theorem adds_of_drawInput {mesh : Mesh} {mode : PolyRenderMode} {r : Except RenderError Unit}
    (hRoom : FrameMemory.HasRoom (store s)) (hMesh : Addressable mesh)
    (hRun : start (drawInput b mesh mode) s = some (r, t)) :
    ∃ cs, Adds b.handle cs s t ∧ ∀ c ∈ cs, c.offsets? = none := by
  have hInput := ensures_drawInput (b := b) mode hRoom hMesh r t hRun
  cases r with
  | ok _ =>
    obtain ⟨p, hAdds, -⟩ := hInput
    refine ⟨_, hAdds, List.forall_mem_append.mpr ⟨fun c hc => ?_, List.forall_mem_singleton.mpr rfl⟩⟩
    exact GpuCommand.offsets?_of_bindsInput (bindsInput_of_inputCommands c hc)
  | error e =>
    obtain ⟨cs, hAdds, hBinding⟩ := hInput
    exact ⟨cs, hAdds, fun c hc => GpuCommand.offsets?_of_bindsInput (hBinding c hc)⟩

/-- The sets that a draw binds are bound by its first step, and by no other. -/
theorem bindSets_of_drawMesh {mesh : Mesh} {mode : PolyRenderMode} {r : Except RenderError Unit}
    {layout : Handle} {sets : List Handle} {offsets : List UInt32}
    (hRoom : FrameMemory.HasRoom (store s)) (hMesh : Addressable mesh)
    (hRun : start (drawMesh b mesh mode) s = some (r, t))
    (hBind : .bindSets layout sets offsets ∈ added b.handle s t) :
    ∃ u, start (bindSets b) s = some (.ok (), u) ∧
      s.1.descriptors.bindCommand? offsets = some (.bindSets layout sets offsets) ∧
      Adds b.handle [.bindSets layout sets offsets] s u ∧
      UniformsAt s.1.memory.head s u offsets := by
  have hSets := ensures_bindSets_commands (b := b) hRoom
  rw [drawMesh_eq] at hRun
  rcases hFirst : start (bindSets b) s with _ | ⟨e | _, u⟩
  · rw [start_bind_of_none hFirst] at hRun
    cases hRun
  · rw [start_bind_of_error hFirst] at hRun
    cases hRun
    rw [(hSets.of_error hFirst).added] at hBind
    cases hBind
  · rw [start_bind_of_ok hFirst] at hRun
    obtain ⟨offsets', hAdds, hUniforms⟩ := hSets.of_ok hFirst
    obtain ⟨cs, hAdds', hNone⟩ := adds_of_drawInput (hAdds.fills.room hRoom) hMesh hRun
    rw [(hAdds.trans hAdds').added, List.mem_append] at hBind
    -- the command is that of the first step; what comes after it binds no sets
    rcases hBind with hSet | hLater
    · have hCommand := Option.mem_toList.mp hSet
      obtain ⟨-, hBound⟩ := bindCommand?_eq_some_iff.mp hCommand
      obtain ⟨-, -, rfl⟩ := GpuCommand.bindSets.inj hBound
      rw [hCommand] at hAdds
      exact ⟨u, rfl, hCommand, hAdds, hUniforms⟩
    · cases hNone _ hLater

/-- A draw that recorded something did not skip its mesh. -/
theorem start_drawMesh_of_added {mesh : Mesh} {mode : PolyRenderMode} {r : Except RenderError Unit}
    {c : GpuCommand} (hFrame : s.1.frame = some f) (hRun : start (draw mesh mode) s = some (r, t))
    (hAdded : c ∈ added f.buffer.handle s t) :
    start (drawMesh f.buffer mesh mode) s = some (r, t) := by
  have hVertices : mesh.vertexCount ≠ 0 := by
    intro hEmpty
    rw [start_draw_empty hFrame hEmpty] at hRun
    cases hRun
    have hNone : Adds f.buffer.handle [] s (Logging.push (.trace component
        "Skipping draw of an empty mesh") s) := adds_of_grows rfl rfl
    rw [hNone.added] at hAdded
    cases hAdded
  rw [start_draw hFrame hVertices] at hRun
  exact hRun

/-- Where the data of a draw was stored, descriptors see it. -/
theorem uniformsAt_of_laid {start : Nat} {slots : List Slot} {offsets : List UInt32}
    (hRange : Matrices.size ≤ s.1.memory.range.toNat)
    (hContained : FrameMemory.Contained (store u)) {cs : List GpuCommand}
    (hAdds : Adds b.handle cs s u) (hSlots : s.1.descriptors.dynamicSlots = slots)
    (hUniforms : UniformsAt start s u offsets) : List.Forall₂ (UniformAt u) slots offsets := by
  rw [UniformsAt, hSlots, List.forall₂_map_left_iff, List.forall₂_map_right_iff] at hUniforms
  refine hUniforms.flip.imp fun slot offset hLaid => ?_
  have hLength := length_blockData hRange slot
  have hStop := Nat.le_trans hLaid.stop_le hContained.head_le
  rw [Region.stop, hLength] at hStop
  refine ⟨?_, ?_, ?_⟩
  · rw [hAdds.range]
    exact hStop
  · rw [hAdds.blockData, hAdds.range]
    exact hLength
  · rw [hAdds.blockData]
    exact hLaid.holds

/-- **Uniform data reaches its descriptors.** In a draw of a loaded program, uniform data is never too
large; and when sets are bound, their descriptors get their offsets, as far as keys tell the layouts of
the program apart from all others. -/
theorem uniforms_of_draw {mesh : Mesh} {mode : PolyRenderMode} {r : Except RenderError Unit}
    (hLoaded : Loaded s)
    (hApart : Descriptors.KeysApart s.2.gpu.history s.1.program.layouts)
    (hMesh : Addressable mesh) (hRun : start (draw mesh mode) s = some (r, t)) :
    (∀ bytes range, r ≠ .error (FrameMemory.oversized bytes range)) ∧
      ∀ f, s.1.frame = some f → ∀ layout sets offsets,
        .bindSets layout sets offsets ∈ added f.buffer.handle s t →
          ∃ u layouts, start (bindSets f.buffer) s = some (.ok (), u) ∧
            commands f.buffer.handle u.2.gpu.history =
              .bindSets layout sets offsets :: commands f.buffer.handle s.2.gpu.history ∧
            UniformsBound u layouts sets offsets := by
  have hEquipped := equipped_of_loaded hLoaded
  have hRange := hEquipped.size_le_range
  refine ⟨fun bytes range hOversized => ?_, fun f hFrame layout sets offsets hBind => ?_⟩
  · subst hOversized
    exact (fits_draw mesh mode s hRange).of_error hRun bytes range rfl
  have hRoom := hasRoom_of_reachable hLoaded.reachable
  have hContained := contained_of_reachable hLoaded.reachable
  obtain ⟨u, hStart, hCommand, hAdds, hUniforms⟩ :=
    bindSets_of_drawMesh hRoom hMesh (start_drawMesh_of_added hFrame hRun hBind) hBind
  have hSetsBound := (drawSteps_of_kept f.buffer fun h => h.contained).toDataSteps.bindSets
  -- the buffer and the sets are the same while sets are bound
  have hContained' : FrameMemory.Contained (store u) :=
    (hSetsBound.preserves hContained).of_ok hStart
  have hKeeps : KeepsSets s u :=
    ((drawSteps_keepsStep f.buffer).toDataSteps.bindSets s |>.of_ok hStart).keepsSets
  have hEquipped' := hEquipped.kept hKeeps
  obtain ⟨hSome, hBound⟩ := bindCommand?_eq_some_iff.mp hCommand
  obtain ⟨-, rfl, -⟩ := GpuCommand.bindSets.inj hBound
  obtain ⟨layouts, hSetsOf, hSlots⟩ :=
    hEquipped.descriptors.exists_setsOf hEquipped.derived hApart hSome
  refine ⟨u, layouts, hStart, hAdds.commands, ?_, ⟨hContained'.made, rfl⟩, hEquipped'.covers, ?_, ?_⟩
  · rw [hKeeps.region]
    exact hSetsOf.of_suffix hKeeps.history
  · rw [hSlots, hEquipped.descriptors.dynamicSlots]
    exact hEquipped.derived.ascending_slots
  · exact uniformsAt_of_laid hRange hContained' hAdds hSlots.symm hUniforms

-- ---------------------------------------------------------------------------
-- Programs with uniform blocks
-- ---------------------------------------------------------------------------

/-- A uniform block of a vertex shader. Its type has the number `id` and the next two are its own, too;
it has one member, a number at its end. -/
structure SampleBlock where
  id : UInt32
  /-- A letter. -/
  name : UInt32
  slot : Slot
  size : UInt32

/-- The code of a vertex shader with some blocks, numbered from 3 on by threes. -/
def uniformCode (blocks : List SampleBlock) : List UInt8 :=
  let names := blocks.flatMap fun b => [0x30005, b.id, b.name]
  let decorations := blocks.flatMap fun b =>
    [0x50048, b.id, 0, 35, b.size - 4, 0x30047, b.id, 2,
      0x40047, b.id + 2, 34, b.slot.set, 0x40047, b.id + 2, 33, b.slot.binding]
  let types := blocks.flatMap fun b =>
    [0x3001E, b.id, 2, 0x40020, b.id + 1, 2, b.id, 0x4003B, b.id + 1, b.id + 2, 2]
  let bound := UInt32.ofNat (3 * blocks.length + 3)
  bytesOfWords ([0x07230203, 0x10000, 0, bound, 0, 0x5000F, 0, 1, 0x6E69616D, 0] ++
    (names ++ (decorations ++ ([0x30016, 2, 32] ++ types))))

/-- A world with that shader. -/
def uniformHost (blocks : List SampleBlock) : Host :=
  { files := ⟨[(["", "a.spv"], .file (uniformCode blocks))]⟩ }

/-- A renderer with that program. -/
def uniformSample (blocks : List SampleBlock) : Renderer × Host :=
  (created? {} sampleConfig (uniformHost blocks)).getD sample

/-- That renderer in a frame. -/
def uniformBegun (blocks : List SampleBlock) : Renderer × Host := beginFrame.after (uniformSample blocks)

/-- The frame. -/
def uniformFrame (blocks : List SampleBlock) : Frame := (uniformBegun blocks).1.frame.getD default

/-- After a draw of a triangle. -/
def uniformDrawn (blocks : List SampleBlock) : Renderer × Host :=
  (draw (sampleMesh []) .fill).after (uniformBegun blocks)

/-- A new renderer is loaded. -/
theorem loaded_of_created {window : Window} {config : RendererConfig} {h : Host} (hNew : h.gpu.IsNew)
    (hCreated : created? window config h = some s) : Loaded s :=
  .created hNew (start_of_created hCreated)

/-- The renderer with that program is loaded in a frame, too. -/
theorem loaded_uniformBegun {blocks : List SampleBlock}
    (hCreated : (created? {} sampleConfig (uniformHost blocks)).isSome = true)
    (hBegun : beginFrame.succeeds (uniformSample blocks) = true) : Loaded (uniformBegun blocks) := by
  obtain ⟨s, hSome⟩ := Option.isSome_iff_exists.mp hCreated
  have hSample : Loaded (uniformSample blocks) := by
    rw [uniformSample, hSome]
    exact loaded_of_created ⟨rfl, rfl, Nat.one_pos⟩ hSome
  obtain ⟨_, hBegin⟩ := start_of_succeeds hBegun
  exact hSample.step .beginFrame ⟨_, hBegin⟩ nofun

/-- A command that binds sets with some offsets is among others. -/
theorem exists_bindSets {cs : List GpuCommand} {offsets : List UInt32}
    (hAny : (cs.any fun c => c.offsets? == some offsets) = true) :
    ∃ layout sets, .bindSets layout sets offsets ∈ cs := by
  obtain ⟨c, hc, hOffsets⟩ := List.any_eq_true.mp hAny
  rw [beq_iff_eq] at hOffsets
  cases c with
  | bindSets layout sets offsets' =>
    cases hOffsets
    exact ⟨layout, sets, hc⟩
  | _ => cases hOffsets

/-- Three blocks in two sets: the matrices and two others, one larger than that. -/
def sampleBlocks : List SampleBlock :=
  [⟨3, 0x41, ⟨0, 0⟩, 192⟩, ⟨6, 0x42, ⟨0, 1⟩, 256⟩, ⟨9, 0x43, ⟨1, 0⟩, 32⟩]

/-- The matrices come first, and the other two blocks share what comes next. -/
theorem uniforms_of_draw_three_blocks :
    Loaded (uniformBegun sampleBlocks) ∧
      Descriptors.KeysApart (uniformBegun sampleBlocks).2.gpu.history
        (uniformBegun sampleBlocks).1.program.layouts ∧
      Addressable (sampleMesh []) ∧
      start (draw (sampleMesh []) .fill) (uniformBegun sampleBlocks) =
        some (.ok (), uniformDrawn sampleBlocks) ∧
      ∃ u layouts sets, u.1.memory.region.range = 256 ∧ UniformsBound u layouts sets [0, 256, 256] := by
  have hCreated : (created? {} sampleConfig (uniformHost sampleBlocks)).isSome = true := by
    decide +kernel
  have hBegun : beginFrame.succeeds (uniformSample sampleBlocks) = true := by decide +kernel
  have hDrawn : (draw (sampleMesh []) .fill).succeeds (uniformBegun sampleBlocks) = true := by
    decide +kernel
  have hLoaded := loaded_uniformBegun hCreated hBegun
  -- there are no two layouts with one key in this program
  have hApart : Descriptors.KeysApart (uniformBegun sampleBlocks).2.gpu.history
      (uniformBegun sampleBlocks).1.program.layouts := by decide +kernel
  have hMesh : Addressable (sampleMesh []) := (countable_sampleMesh (by decide)).addressable
  obtain ⟨_, hRun⟩ := start_of_succeeds hDrawn
  have hSome : (uniformBegun sampleBlocks).1.frame.isSome = true := by decide +kernel
  have hFrame : (uniformBegun sampleBlocks).1.frame = some (uniformFrame sampleBlocks) := by
    obtain ⟨f, hf⟩ := Option.isSome_iff_exists.mp hSome
    rw [uniformFrame, hf, Option.getD_some]
  have hAny : ((added (uniformFrame sampleBlocks).buffer.handle (uniformBegun sampleBlocks)
      (uniformDrawn sampleBlocks)).any fun c => c.offsets? == some [0, 256, 256]) = true := by
    decide +kernel
  obtain ⟨layout, sets, hBind⟩ := exists_bindSets hAny
  obtain ⟨-, hBound⟩ := uniforms_of_draw hLoaded hApart hMesh hRun
  obtain ⟨u, layouts, hStart, -, hUniforms⟩ := hBound _ hFrame layout sets _ hBind
  refine ⟨hLoaded, hApart, hMesh, hRun, u, layouts, sets, ?_, hUniforms⟩
  have hKeeps := ((drawSteps_keepsStep _).toDataSteps.bindSets _).of_ok hStart
  rw [hKeeps.region]
  decide +kernel

/-- A block in one set and two blocks in another, with layouts of the same key. -/
def collidingBlocks : List SampleBlock :=
  [⟨3, 0x41, ⟨0, 139202134⟩, 16⟩, ⟨6, 0x42, ⟨1, 0⟩, 24⟩, ⟨9, 0x43, ⟨1, 425770095⟩, 32⟩]

/-- Both sets are allocated from the object of the first layout: they have two descriptors, and are bound
with three offsets. -/
theorem uniforms_of_colliding_draw :
    Loaded (uniformBegun collidingBlocks) ∧
      start (draw (sampleMesh []) .fill) (uniformBegun collidingBlocks) =
        some (.ok (), uniformDrawn collidingBlocks) ∧
      ∃ layout sets offsets,
        .bindSets layout sets offsets ∈ added (uniformFrame collidingBlocks).buffer.handle
          (uniformBegun collidingBlocks) (uniformDrawn collidingBlocks) ∧
        offsets.length = 3 ∧
        ∀ layouts, Descriptors.AllocatedFrom (uniformDrawn collidingBlocks).2.gpu.history layouts sets →
          (layouts.flatMap SetLayout.dynamicSlots).length = 2 := by
  have hCreated : (created? {} sampleConfig (uniformHost collidingBlocks)).isSome = true := by
    decide +kernel
  have hBegun : beginFrame.succeeds (uniformSample collidingBlocks) = true := by decide +kernel
  have hDrawn : (draw (sampleMesh []) .fill).succeeds (uniformBegun collidingBlocks) = true := by
    decide +kernel
  obtain ⟨_, hRun⟩ := start_of_succeeds hDrawn
  have hAny : ((added (uniformFrame collidingBlocks).buffer.handle (uniformBegun collidingBlocks)
      (uniformDrawn collidingBlocks)).any fun c => c.offsets? == some [0, 0, 0]) = true := by
    decide +kernel
  obtain ⟨layout, sets, hBind⟩ := exists_bindSets hAny
  refine ⟨loaded_uniformBegun hCreated hBegun, hRun, layout, sets, _, hBind, rfl, ?_⟩
  intro layouts hAllocated
  obtain ⟨objects, hObjects, hLength, hMade⟩ := hAllocated.exists_objects
  -- two sets, and each object was made for a layout with one dynamic descriptor
  have hTwo : ∀ a ∈ allocations (uniformDrawn collidingBlocks).2.gpu.history, a.1.length = 2 := by
    decide +kernel
  have hOne : ∀ e ∈ layoutsMade (uniformDrawn collidingBlocks).2.gpu.history,
      e.1.dynamicSlots.length = 1 := by decide +kernel
  have hSlots : ∀ l ∈ layouts, l.dynamicSlots.length = 1 := by
    intro l hl
    obtain ⟨x, hx⟩ := hMade l hl
    exact hOne (l, x) hx
  rw [List.length_flatMap, List.map_congr_left hSlots, List.map_const', List.sum_replicate, hLength,
    hTwo _ hObjects]
  rfl

end Renderer

end RenderLoop
