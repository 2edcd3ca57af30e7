import RenderLoop.Proofs.Renderer.Room

/-!
# RenderLoop — the data of a frame

Every draw of a frame stores its data above what was stored before it, and between
the draws of a frame nothing takes the frame buffer back (`Renderer.InFrame`): the
calls that would change it are refused while a frame is open, and the others leave it
alone (`Renderer.Quiet`). So the regions of different draws lie apart, and all of
them hold their data when the frame is submitted
(`Renderer.frameData_of_beginFrame`).

Beginning a frame takes the whole buffer back, and does so before it is known whether
there may be another frame (`Renderer.start_beginFrame_of_recording`). Therefore the calls
between the beginning and the end of a frame must not be another beginning.
-/

namespace RenderLoop

open GpuHistory Op

-- ---------------------------------------------------------------------------
-- Draws and their regions
-- ---------------------------------------------------------------------------

/-- A draw of a frame: the commands that it added to the buffer, and the data that they bind. -/
structure DrawRecord where
  commands : List GpuCommand
  data : List (List UInt8)
  deriving DecidableEq, Repr, Inhabited

namespace DrawRecord

/-- The regions that the commands bind, with the data that was stored there. -/
def regions (d : DrawRecord) : List Region :=
  List.zipWith Region.mk (d.commands.flatMap GpuCommand.places) d.data

/-- There is a place for all data, and data for every place. -/
def IsComplete (d : DrawRecord) : Prop :=
  (d.commands.flatMap GpuCommand.places).length = d.data.length

/-- The regions of two draws have nothing in common. -/
def Apart (d d' : DrawRecord) : Prop := ∀ r ∈ d.regions, ∀ r' ∈ d'.regions, r.Apart r'

end DrawRecord

namespace Renderer

variable {s t u : Renderer × Host} {f : Frame} {ds : List DrawRecord} {c : Request}

/-- A region of a draw is one that was handed out. -/
theorem Bound.laid {start : Nat} {d : DrawRecord} (h : Bound start d.commands d.data s) {r : Region}
    (hr : r ∈ d.regions) : FrameMemory.Laid start (store s) r := by
  rw [DrawRecord.regions] at hr
  rw [Bound] at h
  generalize d.commands.flatMap GpuCommand.places = places at h hr
  generalize d.data = data at h hr
  induction h with
  | nil => cases hr
  | cons hFirst _ ih =>
    rcases List.mem_cons.mp hr with rfl | hr
    · exact hFirst
    · exact ih hr

-- ---------------------------------------------------------------------------
-- The calls of a frame
-- ---------------------------------------------------------------------------

/-- The commands that were added to a buffer, oldest first. -/
def added (b : Handle) (s t : Renderer × Host) : List GpuCommand :=
  let after := commands b t.2.gpu.history
  (after.take (after.length - (commands b s.2.gpu.history).length)).reverse

/-- What a draw of a mesh leaves behind. A mesh without vertices is not drawn. -/
def drawRecord (b : Handle) (mesh : Mesh) (s t : Renderer × Host) : DrawRecord :=
  ⟨added b s t, if mesh.vertexCount = 0 then [] else s.1.drawData mesh⟩

/-- Whether a request neither begins nor ends a frame and is not a draw. -/
def Request.isBeside : Request → Bool
  | .beginFrame | .draw _ _ | .endFrame => false
  | _ => true

/-- The calls in a frame and its draws, the last one first: draws that return, draws that fail, and
whatever else may be called or happen, except for the beginning of another frame. -/
inductive InFrame (b : Handle) (s : Renderer × Host) : List DrawRecord → Renderer × Host → Prop
  | begun : InFrame b s [] s
  | drawn {t u : Renderer × Host} {ds : List DrawRecord} {mesh : Mesh} {mode : PolyRenderMode}
    (hBefore : InFrame b s ds t) (hMesh : Addressable mesh)
    (hRun : start (draw mesh mode) t = some (.ok (), u)) :
    InFrame b s (drawRecord b mesh t u :: ds) u
  | failed {t u : Renderer × Host} {ds : List DrawRecord} {mesh : Mesh} {mode : PolyRenderMode}
    {e : RenderError} (hBefore : InFrame b s ds t) (hMesh : Addressable mesh)
    (hRun : start (draw mesh mode) t = some (.error e, u)) : InFrame b s ds u
  | beside {t u : Renderer × Host} {ds : List DrawRecord} {c : Request}
    (hBefore : InFrame b s ds t) (hBeside : c.isBeside = true) (hStep : Step t c u) :
    InFrame b s ds u

/-- The commands that were added are those by which the buffer has grown. -/
theorem Adds.added {b : Handle} {cs : List GpuCommand} (h : Adds b cs s t) : added b s t = cs := by
  simp only [Renderer.added, h.commands, List.length_append, Nat.add_sub_cancel]
  rw [List.take_left, List.reverse_reverse]

/-- A draw in a frame adds to the buffer of the frame. -/
theorem ensures_draw_adds {mesh : Mesh} (mode : PolyRenderMode) (hFrame : s.1.frame = some f)
    (hRoom : FrameMemory.HasRoom (store s)) (hMesh : Addressable mesh) :
    (draw mesh mode).Ensures s
      (fun _ t => ∃ d, d = drawRecord f.buffer.handle mesh s t ∧
        Adds f.buffer.handle d.commands s t ∧ Bound s.1.memory.head d.commands d.data t)
      (fun _ t => AddsSome f.buffer.handle s t) := by
  rw [draw, ensures_bind, ensures_of_start (start_currentFrame hFrame _), outcome_ok]
  refine ensures_ite (fun hEmpty => ?_) fun hVertices => ?_
  · rw [ensures_log]
    have hNone : Adds f.buffer.handle [] s (Logging.push (.trace component
        "Skipping draw of an empty mesh") s) := adds_of_grows rfl rfl
    refine ⟨_, rfl, ?_⟩
    rw [drawRecord, hNone.added, if_pos hEmpty]
    exact ⟨hNone, .nil⟩
  · refine (ensures_drawMesh mode hRoom hMesh).mono ?_ fun _ _ h => h
    rintro _ t ⟨cs, hAdds, hBound⟩
    refine ⟨_, rfl, ?_⟩
    rw [drawRecord, hAdds.added, if_neg hVertices]
    exact ⟨hAdds, hBound⟩

-- ---------------------------------------------------------------------------
-- Calls beside the draws
-- ---------------------------------------------------------------------------

/-- Frame, frame buffer and command buffers stay as they are. -/
structure Quiet (s t : Renderer × Host) : Prop where
  memory : t.1.memory = s.1.memory
  frame : t.1.frame = s.1.frame
  frameMemory : t.2.gpu.frameMemory = s.2.gpu.frameMemory
  commands : ∀ b, commands b t.2.gpu.history = commands b s.2.gpu.history

/-- A quiet call takes no command away. -/
theorem Quiet.suffix (h : Quiet s t) {b : Handle} :
    GpuHistory.commands b s.2.gpu.history <:+ GpuHistory.commands b t.2.gpu.history := by
  rewrite [h.commands b]
  exact List.suffix_refl _

/-- While a frame is open, what would change the renderer is refused. -/
theorem eq_of_refused {α : Type} {operation : String} {op : Action α} (hFrame : s.1.frame = some f)
    {r : Except RenderError α}
    (hRun : start (do requireNoFrame operation; op) s = some (r, t)) : t = s := by
  have hRefused : start (requireNoFrame operation) s =
      some (.error (.invalidFrameState operation s.1.machine.state.name), s) := by
    rw [requireNoFrame, start_bind_of_ok (start_get s)]
    simp only [hFrame, Option.isSome_some, if_true, start_throw]
  rw [start_bind_of_error hRefused] at hRun
  cases hRun
  rfl

/-- Waiting for the device is quiet. -/
theorem quiet_waitIdle : (GpuContext.waitIdle.onHost : Action Unit).Within Quiet := by
  have hBoth : ∀ {s t : Renderer × Host}, Aside s t → ScreenWork s t → Quiet s t :=
    fun hAside hScreen => ⟨hScreen.memory, hAside.frame, hScreen.grows.frameMemory,
      hAside.passes.history.commands⟩
  intro s
  exact ((aside_waitIdle (R := Gpu.Passes) s).and
    (screenWork_onHost GpuContext.within_waitIdle s)).mono (fun _ _ h => hBoth h.1 h.2)
      fun _ _ h => hBoth h.1 h.2

/-- Following a new script is quiet. -/
theorem quiet_follow (script : GpuScript) (s : Renderer × Host) :
    Quiet s (s.1, s.2.onGpu (Gpu.follow script)) := by
  have hHistory : (s.2.gpu.follow script).history = s.2.gpu.history := by
    rw [Gpu.follow]
    split <;> rfl
  exact ⟨rfl, rfl, (grows_follow script s.2.gpu).frameMemory,
    fun b => congrArg (GpuHistory.commands b) hHistory⟩

/-- In a frame, calls beside the draws are quiet. -/
theorem Step.quiet (hStep : Step s c t) (hBeside : c.isBeside = true)
    (hFrame : s.1.frame = some f) : Quiet s t := by
  obtain ⟨r, hRun⟩ := hStep
  have hSame : t = s → Quiet s t := by
    rintro rfl
    exact ⟨rfl, rfl, rfl, fun _ => rfl⟩
  cases c with
  | beginFrame => cases hBeside
  | draw mesh mode => cases hBeside
  | endFrame => cases hBeside
  | resize window => exact hSame (eq_of_refused hFrame hRun)
  | setPipelineState state => exact hSame (eq_of_refused hFrame hRun)
  | reloadShaders =>
    -- the reload is refused before it compiles anything
    have hRefused : t = s := by
      rw [serve, reloadShaders, bind_assoc] at hRun
      exact eq_of_refused hFrame hRun
    exact hSame hRefused
  | setMatrices matrices =>
    cases hRun
    exact ⟨rfl, rfl, rfl, fun _ => rfl⟩
  | setClearColor color =>
    cases hRun
    exact ⟨rfl, rfl, rfl, fun _ => rfl⟩
  | waitIdle =>
    have hQuiet := quiet_waitIdle s r t hRun
    cases r <;> exact hQuiet
  | follow script =>
    cases hRun
    exact quiet_follow script s
  | edit files =>
    cases hRun
    exact ⟨rfl, rfl, rfl, fun _ => rfl⟩

-- ---------------------------------------------------------------------------
-- Frames
-- ---------------------------------------------------------------------------

/-- What holds in a frame: the regions of its draws were handed out since it began, they have nothing
in common and hold their data, and the buffer of the frame has the commands that bind them. -/
structure HoldsData (f : Frame) (start : Nat) (ds : List DrawRecord) (s : Renderer × Host) : Prop where
  frame : s.1.frame = some f
  room : FrameMemory.HasRoom (store s)
  head : start ≤ s.1.memory.head
  bound : ∀ d ∈ ds, Bound start d.commands d.data s
  apart : ds.Pairwise DrawRecord.Apart
  recorded : ∀ d ∈ ds, d.commands.reverse <:+: commands f.buffer.handle s.2.gpu.history

/-- More is stored, and more commands are added. -/
theorem HoldsData.fills {start : Nat} (h : HoldsData f start ds s)
    (hFrame : t.1.frame = s.1.frame) (hFills : FrameMemory.Fills (store s) (store t))
    (hCommands : commands f.buffer.handle s.2.gpu.history <:+
      commands f.buffer.handle t.2.gpu.history) : HoldsData f start ds t where
  frame := hFrame.trans h.frame
  room := hFills.room h.room
  head := Nat.le_trans h.head hFills.head
  bound d hd := (h.bound d hd).fills hFills
  apart := h.apart
  recorded d hd := (h.recorded d hd).trans hCommands.isInfix

/-- A draw is added to the others. -/
theorem HoldsData.drawn {start : Nat} {d : DrawRecord} (h : HoldsData f start ds s)
    (hAdds : Adds f.buffer.handle d.commands s t)
    (hBound : Bound s.1.memory.head d.commands d.data t) : HoldsData f start (d :: ds) t := by
  have hFrame : t.1.frame = s.1.frame := by
    rw [hAdds.rest]
  have hRest := h.fills hFrame hAdds.fills hAdds.suffix
  refine ⟨hRest.frame, hRest.room, hRest.head, ?_, List.pairwise_cons.mpr ⟨?_, h.apart⟩, ?_⟩
  · intro d' hd'
    rcases List.mem_cons.mp hd' with rfl | hd'
    · exact hBound.imp fun _ _ hLaid => hLaid.mono h.head
    · exact hRest.bound d' hd'
  · -- the regions of earlier draws end before the old head, and those of this one begin after it
    intro d' hd' r hr r' hr'
    have hAfter := (hBound.laid hr).start_le
    have hBefore := ((h.bound d' hd').laid hr').stop_le
    exact .inr (Nat.le_trans hBefore hAfter)
  · intro d' hd'
    rcases List.mem_cons.mp hd' with rfl | hd'
    · rw [hAdds.commands]
      exact (List.prefix_append _ _).isInfix
    · exact hRest.recorded d' hd'

/-- The data of a frame is there as long as the frame is open. -/
theorem holdsData_of_inFrame (hFrame : s.1.frame = some f) (hRoom : FrameMemory.HasRoom (store s))
    (hCalls : InFrame f.buffer.handle s ds t) : HoldsData f s.1.memory.head ds t := by
  induction hCalls with
  | begun => exact ⟨hFrame, hRoom, Nat.le_refl _, nofun, .nil, nofun⟩
  | @drawn t u ds mesh mode _ hMesh hRun ih =>
    obtain ⟨d, rfl, hAdds, hBound⟩ := (ensures_draw_adds mode ih.frame ih.room hMesh).of_ok hRun
    exact ih.drawn hAdds hBound
  | @failed t u ds mesh mode e _ hMesh hRun ih =>
    obtain ⟨cs, hAdds⟩ := (ensures_draw_adds mode ih.frame ih.room hMesh).of_error hRun
    refine ih.fills ?_ hAdds.fills hAdds.suffix
    rw [hAdds.rest]
  | @beside t u ds c _ hBeside hStep ih =>
    have hQuiet := hStep.quiet hBeside ih.frame
    exact ih.fills hQuiet.frame (FrameMemory.fills_of_same hQuiet.memory hQuiet.frameMemory)
      hQuiet.suffix

/-- The beginning of another frame is refused, but the frame buffer is taken back all the same. -/
theorem start_beginFrame_of_recording (hState : s.1.machine.state = .recording) :
    start beginFrame s = some (.error (.invalidFrameState "begin frame" "Recording"),
      ({ s.1 with memory := s.1.memory.reset }, s.2)) := by
  have hRefusal : s.1.machine.refusal? .idle "begin frame" =
      some (.invalidFrameState "begin frame" "Recording") := by
    rw [Synchronizer.refusal?, hState]
    rfl
  -- the machine refuses before it does anything, but the memory was reset already
  have hRefused : start (onMachine (Synchronizer.beginFrame s.1.extent))
      ({ s.1 with memory := s.1.memory.reset }, s.2) =
        some (.error (.invalidFrameState "begin frame" "Recording"),
          ({ s.1 with memory := s.1.memory.reset }, s.2)) := by
    have hExpect : start (Synchronizer.expect .idle "begin frame") (machinery s) =
        some (.error (.invalidFrameState "begin frame" "Recording"), machinery s) := by
      rw [Synchronizer.expect, start_bind_of_ok (start_get _)]
      simp only [machinery, hRefusal, start_throw]
    rw [onMachine, start_on, Synchronizer.beginFrame]
    exact congrArg (Option.map _) (start_bind_of_error hExpect _)
  rw [beginFrame, start_bind_of_ok (start_set _ _), start_bind_of_ok (start_get _)]
  exact start_bind_of_ok (start_attempt_of_error hRefused) _

/-- Beginning a frame that returns holds one. -/
theorem ensures_beginFrame_frame (s : Renderer × Host) :
    beginFrame.Ensures s (fun _ t => ∃ f, t.1.frame = some f) (fun _ _ => True) := by
  rw [beginFrame, ensures_bind]
  refine (ensures_true _ s).mono (fun _ s₁ _ => ?_) fun _ _ h => h
  rw [ensures_bind, ensures_get, ensures_bind]
  refine (ensures_true _ _).mono (fun r s₂ _ => ?_) fun _ _ h => h
  split
  · rw [set, ensures_change]
    exact ⟨_, rfl⟩
  · rw [ensures_bind]
    refine (ensures_true _ _).mono (fun _ s₃ _ => ?_) fun _ _ h => h
    rw [ensures_throw]
    exact trivial
  · rw [ensures_throw]
    exact trivial

/-- **The data of a frame is there when the frame is submitted.** Whatever is called after a frame
began, except for the beginning of another one: every draw that returned has a region for all of its
data, and commands in the buffer of the frame that name them; the regions of different draws lie
apart; and each of them holds its data, before the frame is ended and after that. -/
theorem frameData_of_beginFrame {allowed : Renderer × Host → Request → Renderer × Host → Prop}
    (hReachable : Reachable allowed s) (hBegin : start beginFrame s = some (.ok (), t)) :
    ∃ f, t.1.frame = some f ∧ ∀ ds u, InFrame f.buffer.handle t ds u →
      (∀ d ∈ ds, d.IsComplete ∧ d.commands.reverse <:+: commands f.buffer.handle u.2.gpu.history) ∧
      ds.Pairwise DrawRecord.Apart ∧
      ∀ v, v = u ∨ Step u .endFrame v → ∀ d ∈ ds, ∀ r ∈ d.regions, v.2.gpu.Holds r := by
  obtain ⟨f, hFrame⟩ := (ensures_beginFrame_frame s).of_ok hBegin
  have hStep : Step s .beginFrame t := ⟨_, hBegin⟩
  have hRoom : FrameMemory.HasRoom (store t) :=
    (hStep.keepsMemory nofun).room (hasRoom_of_reachable hReachable)
  refine ⟨f, hFrame, fun ds u hCalls => ?_⟩
  have hData := holdsData_of_inFrame hFrame hRoom hCalls
  refine ⟨fun d hd => ⟨(hData.bound d hd).length_eq, hData.recorded d hd⟩, hData.apart, ?_⟩
  intro v hv d hd r hr
  have hHolds := ((hData.bound d hd).laid hr).holds
  rcases hv with rfl | hEnd
  · exact hHolds
  · exact hHolds.of_memory (hEnd.keepsMemory nofun).grows.frameMemory

-- ---------------------------------------------------------------------------
-- A frame with two draws
-- ---------------------------------------------------------------------------

/-- A triangle, by its indices. -/
def sampleMesh (indices : List UInt32) : Mesh :=
  { positions := [⟨0, 0, 0⟩, ⟨.one, 0, 0⟩, ⟨0, .one, 0⟩], indices }

/-- A renderer with a new frame. -/
def sampleBegun : Renderer × Host := beginFrame.after sample

/-- The frame of that renderer. -/
def sampleFrame : Frame := sampleBegun.1.frame.getD default

/-- The renderer after the first draw in that frame. -/
def sampleDrawn : Renderer × Host := (draw (sampleMesh [0, 1, 2]) .fill).after sampleBegun

/-- The renderer after the second one. -/
def sampleDrawnTwice : Renderer × Host := (draw (sampleMesh [2, 1, 0]) .fill).after sampleDrawn

/-- What the two draws leave behind. -/
def sampleDraws : List DrawRecord :=
  [drawRecord sampleFrame.buffer.handle (sampleMesh [2, 1, 0]) sampleDrawn sampleDrawnTwice,
    drawRecord sampleFrame.buffer.handle (sampleMesh [0, 1, 2]) sampleBegun sampleDrawn]

theorem frameData_of_two_draws :
    InFrame sampleFrame.buffer.handle sampleBegun sampleDraws sampleDrawnTwice ∧
      Step sampleDrawnTwice .endFrame (endFrame.after sampleDrawnTwice) ∧
      sampleDraws.map (·.regions.map (·.place)) = [[256], [0]] ∧
      sampleDraws.Pairwise DrawRecord.Apart ∧
      ∀ d ∈ sampleDraws, ∀ r ∈ d.regions, (endFrame.after sampleDrawnTwice).2.gpu.Holds r := by
  have hBegun : beginFrame.succeeds sample = true := by decide +kernel
  have hDrawn : (draw (sampleMesh [0, 1, 2]) .fill).succeeds sampleBegun = true := by decide +kernel
  have hTwice : (draw (sampleMesh [2, 1, 0]) .fill).succeeds sampleDrawn = true := by decide +kernel
  have hEnded : endFrame.succeeds sampleDrawnTwice = true := by decide +kernel
  obtain ⟨_, hBegin⟩ := start_of_succeeds hBegun
  obtain ⟨_, hFirst⟩ := start_of_succeeds hDrawn
  obtain ⟨_, hSecond⟩ := start_of_succeeds hTwice
  obtain ⟨_, hEnd⟩ := start_of_succeeds hEnded
  rw [← sampleBegun] at hBegin
  rw [← sampleDrawn] at hFirst
  rw [← sampleDrawnTwice] at hSecond
  have hMesh : Addressable (sampleMesh [0, 1, 2]) := ⟨by decide +kernel, by decide +kernel⟩
  have hMesh' : Addressable (sampleMesh [2, 1, 0]) := ⟨by decide +kernel, by decide +kernel⟩
  -- two draws, the last one first
  have hCalls : InFrame sampleFrame.buffer.handle sampleBegun sampleDraws sampleDrawnTwice := by
    rw [sampleDraws]
    exact .drawn (.drawn .begun hMesh hFirst) hMesh' hSecond
  have hStep : Step sampleDrawnTwice .endFrame (endFrame.after sampleDrawnTwice) := ⟨_, hEnd⟩
  have hReachable : Reachable (fun _ _ _ => True) sample := reachable_sample
  obtain ⟨f, hFrame, hData⟩ := frameData_of_beginFrame hReachable hBegin
  have hSample : sampleFrame = f := by rw [sampleFrame, hFrame, Option.getD_some]
  rw [← hSample] at hData
  obtain ⟨-, hApart, hHolds⟩ := hData sampleDraws sampleDrawnTwice hCalls
  exact ⟨hCalls, hStep, by decide +kernel, hApart, hHolds _ (.inr hStep)⟩

end Renderer

end RenderLoop
