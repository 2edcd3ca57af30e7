import RenderLoop.Proofs.Gpu.Frames
import RenderLoop.Renderer.Frames
import RenderLoop.Renderer.Reload
import RenderLoop.Renderer.Setup

/-!
# RenderLoop — renderers at work

The host of a renderer makes one call after the other (`Request`). Between calls
everything outside may change: which calls to the device fail, what the surface
reports, the outcomes of acquisitions and presentations (`GpuScript`), and the
files.

`Reachable allowed` are the renderers that calls lead to from a new one on a new
device, with steps that `allowed` puts up with; `Leads allowed` are the steps from
one renderer on. A call fails in its rebuild (`FailedRebuild`) when it gets as far
as to make swapchain and targets again, and that fails.

A failed rebuild leaves a renderer **sound** (`Sound`) when nothing is left in the
setup buffer, and every image can be rendered to with the targets there are
(`Renderable`), unless there will be no more frames.
-/

namespace RenderLoop

open GpuHistory Op

/-- What is decided outside of the renderer. -/
structure GpuScript where
  devices : List PhysicalDevice := [{}]
  capabilities : SurfaceCapabilities := {}
  formats : List (Int × Int) := [(44, 0)]
  presentModes : List Int := []
  chainImages : Option UInt32 := none
  acquireScript : List (UInt32 × ResultCode) := []
  presentScript : List ResultCode := []
  cacheData : List UInt8 := []
  /-- New faults, which are counted anew; the old ones stay if there are none. -/
  faults : Option (List GpuFault) := none

/-- A device goes on by another script. -/
def Gpu.follow (script : GpuScript) (g : Gpu) : Gpu :=
  let followed := { g with
    devices := script.devices
    capabilities := script.capabilities
    formats := script.formats
    presentModes := script.presentModes
    chainImages := script.chainImages
    acquireScript := script.acquireScript
    presentScript := script.presentScript
    cacheData := script.cacheData }
  match script.faults with
  | some faults => followed.setFaults faults
  | none => followed

/-- A device that nothing has happened to. Its handles are not null. -/
structure Gpu.IsNew (g : Gpu) : Prop where
  history : g.history = []
  chains : g.chains = []
  nextHandle : 0 < g.nextHandle

namespace Renderer

/-- What may happen to a renderer. -/
inductive Request where
  | beginFrame
  | draw (mesh : Mesh) (mode : PolyRenderMode)
  | endFrame
  | resize (window : Extent)
  | setPipelineState (state : PipelineState)
  | reloadShaders
  | setMatrices (matrices : Matrices)
  | setClearColor (color : Color)
  | waitIdle
  /-- Not a call on the renderer: the script changes. -/
  | follow (script : GpuScript)
  /-- Not a call on the renderer: the files change. -/
  | edit (files : Files)

/-- What a request does. -/
def serve : Request → Action Unit
  | .beginFrame => beginFrame
  | .draw mesh mode => draw mesh mode
  | .endFrame => endFrame
  | .resize window => resize window
  | .setPipelineState state => setPipelineState state
  | .reloadShaders => do let _ ← reloadShaders
  | .setMatrices matrices => set (setMatrices matrices)
  | .setClearColor color => set (setClearColor color)
  | .waitIdle => GpuContext.waitIdle.onHost
  | .follow script => Op.change fun s => (s.1, s.2.onGpu (Gpu.follow script))
  | .edit files => Op.change fun s => (s.1, { s.2 with files })

/-- A request was served, with an answer or with a failure. -/
def Step (s : Renderer × Host) (c : Request) (t : Renderer × Host) : Prop :=
  ∃ r, start (serve c) s = some (r, t)

/-- Requests get as far as to a rebuild: at a new size of the window, and where an image chain that
is out of date was noticed. -/
inductive Rebuilds (s : Renderer × Host) : Request → Renderer × Host → Prop
  | resize {window : Extent} (hFrame : s.1.frame = none) :
    Rebuilds s (.resize window) ({ s.1 with window }, s.2)
  | beginFrame {u : Renderer × Host}
    (hBegin : start (onMachine (Synchronizer.beginFrame s.1.extent))
      ({ s.1 with memory := s.1.memory.reset }, s.2) = some (.error .swapchainOutOfDate, u)) :
    Rebuilds s .beginFrame u
  | endFrame {f : Frame} {u : Renderer × Host} (hFrame : s.1.frame = some f)
    (hEnd : start (onMachine (Synchronizer.endFrame f)) ({ s.1 with frame := none }, s.2) =
      some (.error .swapchainOutOfDate, u)) :
    Rebuilds s .endFrame (Logging.push outOfDateEntry u)

/-- A request fails in its rebuild, which leaves things like this. -/
def FailedRebuild (s : Renderer × Host) (c : Request) (t : Renderer × Host) : Prop :=
  ∃ u e, Rebuilds s c u ∧ start rebuild u = some (.error e, t)

/-- The renderers that steps from a new one lead to. -/
inductive Reachable (allowed : Renderer × Host → Request → Renderer × Host → Prop) :
    Renderer × Host → Prop
  | created {window : Window} {config : RendererConfig} {h h' : Host} {r : Renderer}
    (hNew : h.gpu.IsNew) (hRun : start (create window config) h = some (.ok r, h')) :
    Reachable allowed (r, h')
  | step {s t : Renderer × Host} (c : Request) (hReachable : Reachable allowed s)
    (hStep : Step s c t) (hAllowed : allowed s c t) : Reachable allowed t

/-- The renderers that steps lead to from a renderer. -/
inductive Leads (allowed : Renderer × Host → Request → Renderer × Host → Prop)
    (s : Renderer × Host) : Renderer × Host → Prop
  | here : Leads allowed s s
  | step {t u : Renderer × Host} (c : Request) (hLeads : Leads allowed s t)
    (hStep : Step t c u) (hAllowed : allowed t c u) : Leads allowed s u

/-- An image can be rendered to and presented. -/
structure Renderable (t : FrameTargets) (h : GpuHistory) (i : UInt32) : Prop where
  framebuffer : ∃ f, t.framebuffers[i.toNat]? = some f ∧ ¬ Destroyed h .framebuffer f
  pass : ¬ Destroyed h .renderPass t.pass
  image : ∀ x, t.images[i.toNat]? = some x → ¬ ImageGone h x

/-- What is left of a rebuild does not come up in later frames or rebuilds. -/
structure Sound (s : Renderer × Host) : Prop where
  setup : ∀ b ∈ s.1.machine.recorder.setup, commands b.handle s.2.gpu.history = []
  screen : s.1.machine.state ≠ .lost → ∀ i < UInt32.ofNat s.1.swapchain.images.length,
    Renderable s.1.device.targets s.2.gpu.history i

/-- Where a rebuild fails, it leaves things sound. -/
def Trusted (s : Renderer × Host) (c : Request) (t : Renderer × Host) : Prop :=
  FailedRebuild s c t → Sound t

-- ---------------------------------------------------------------------------
-- A new renderer
-- ---------------------------------------------------------------------------

/-- The renderer that a creation returns, with its world. -/
def created? (window : Window) (config : RendererConfig) (h : Host) : Option (Renderer × Host) :=
  match start (create window config) h with
  | some (.ok r, h') => some (r, h')
  | _ => none

/-- A renderer that was created is what the call returned. -/
theorem start_of_created {window : Window} {config : RendererConfig} {h : Host}
    {s : Renderer × Host} (hCreated : created? window config h = some s) :
    start (create window config) h = some (.ok s.1, s.2) := by
  rw [created?] at hCreated
  split at hCreated
  · rename_i hRun
    cases hCreated
    exact hRun
  · cases hCreated

/-- Created on a new device, it is reachable. -/
theorem reachable_of_created {window : Window} {config : RendererConfig} {h : Host}
    {s : Renderer × Host} {allowed : Renderer × Host → Request → Renderer × Host → Prop}
    (hNew : h.gpu.IsNew) (hCreated : created? window config h = some s) : Reachable allowed s :=
  .created hNew (start_of_created hCreated)

/-- What is there once all parts are made is there in a new renderer. -/
theorem ensures_create_of_parts {P : Renderer × Host → Prop} {window : Window}
    {config : RendererConfig} (hParts : ∀ probe device machine h,
      (makeParts config probe).Ensures (bare device machine config probe window.extent, h)
        (fun _ t => P t) (fun _ _ => True)) (h : Host) :
    (create window config).Ensures h (fun r h' => P (r, h')) (fun _ _ => True) := by
  rw [create, ensures_bind]
  refine (ensures_true _ h).mono (fun context h₁ _ => ?_) fun _ _ h => h
  rw [ensures_undoing, createInContext, ensures_bind]
  refine (ensures_true _ h₁).mono (fun probe h₂ _ => ?_) fun _ _ h => h
  rw [ensures_bind]
  refine (ensures_true _ h₂).mono (fun device h₃ _ => ?_) fun _ _ h => h
  rw [ensures_undoing, createOnDevice, ensures_bind]
  refine (ensures_true _ h₃).mono (fun machine h₄ _ => ?_) fun _ _ h => h
  rw [ensures_extending]
  exact hParts probe device machine h₄

/-- Code with an entry point and nothing else. -/
def sampleCode : List UInt8 :=
  [3, 2, 35, 7, 0, 0, 1, 0, 0, 0, 0, 0, 2, 0, 0, 0, 0, 0, 0, 0,
    15, 0, 5, 0, 0, 0, 0, 0, 1, 0, 0, 0, 109, 97, 105, 110, 0, 0, 0, 0]

/-- A configuration with one shader. -/
def sampleConfig : RendererConfig :=
  { appName := "", shaders := [⟨.vertex, "a.spv"⟩], enableValidation := false,
    allocatorSize := 65536, cachePath := "" }

/-- A world with the code of that shader, on a new device. -/
def sampleHost : Host := { files := ⟨[(["", "a.spv"], .file sampleCode)]⟩ }

/-- The sample renderer can be created. -/
theorem isSome_sample : (created? {} sampleConfig sampleHost).isSome = true := by decide +kernel

/-- A new renderer. -/
def sample : Renderer × Host := (created? {} sampleConfig sampleHost).get isSome_sample

/-- The sample renderer is reachable. -/
theorem reachable_sample {allowed : Renderer × Host → Request → Renderer × Host → Prop} :
    Reachable allowed sample :=
  reachable_of_created ⟨rfl, rfl, Nat.one_pos⟩ (Option.some_get isSome_sample).symm

-- ---------------------------------------------------------------------------
-- Failed rebuilds
-- ---------------------------------------------------------------------------

variable {s t : Renderer × Host} {c : Request}

theorem start_set (f : Renderer → Renderer) (s : Renderer × Host) :
    start (set f) s = some (.ok (), f s.1, s.2) := rfl

theorem start_attempt_of_ok {α : Type} {op : Action α} {a : α}
    (h : start op s = some (.ok a, t)) : start op.attempt s = some (.ok (.ok a), t) := by
  rw [start_attempt, h]
  rfl

theorem start_attempt_of_error {α : Type} {op : Action α} {e : RenderError}
    (h : start op s = some (.error e, t)) : start op.attempt s = some (.ok (.error e), t) := by
  rw [start_attempt, h]
  rfl

theorem start_currentFrame {f : Frame} (hFrame : s.1.frame = some f) (operation : String) :
    start (currentFrame operation) s = some (.ok f, s) := by
  rw [currentFrame, start_bind_of_ok (start_get s)]
  simp only [hFrame, start_pure]

/-- Following the window is a rebuild at its new size, if there is no frame. -/
theorem start_resize (hFrame : s.1.frame = none) (window : Extent) :
    start (resize window) s = start rebuild ({ s.1 with window }, s.2) := by
  have hNoFrame : start (requireNoFrame "resize") s = some (.ok (), s) := by
    rw [requireNoFrame, start_bind_of_ok (start_get s)]
    simp only [hFrame, Option.isSome_none, Bool.false_eq_true, if_false, start_pure]
  rw [resize, start_bind_of_ok hNoFrame, start_bind_of_ok (start_set _ _)]

/-- A request that gets as far as to a rebuild ends with that. -/
theorem step_of_rebuilds {u : Renderer × Host} {r : Except RenderError Unit}
    (hRebuilds : Rebuilds s c u) (hRun : start rebuild u = some (r, t)) : Step s c t := by
  cases hRebuilds with
  | @resize window hFrame => exact ⟨r, (start_resize hFrame window).trans hRun⟩
  | beginFrame hBegin =>
    -- up to the rebuild the call runs as it did; what follows is the rebuild and the error
    have hServe : start beginFrame s = start (rebuild >>= fun _ => throw .swapchainOutOfDate) u := by
      rw [beginFrame, start_bind_of_ok (start_set _ _), start_bind_of_ok (start_get _)]
      exact start_bind_of_ok (start_attempt_of_error hBegin) _
    cases r with
    | ok a => exact ⟨_, hServe.trans (start_bind_of_ok hRun _)⟩
    | error e => exact ⟨_, hServe.trans (start_bind_of_error hRun _)⟩
  | @endFrame f v hFrame hEnd =>
    refine ⟨r, ?_⟩
    -- the call ends with the rebuild, so its outcome is the rebuild's
    show start endFrame s = _
    rw [endFrame, start_bind_of_ok (start_currentFrame hFrame _), start_bind_of_ok (start_set _ _)]
    refine (start_bind_of_ok (start_attempt_of_error hEnd) _).trans ?_
    exact (start_bind_of_ok (start_log _ _) _).trans hRun

/-- A failed rebuild is what its request ends with. -/
theorem step_of_failedRebuild (hFailed : FailedRebuild s c t) : Step s c t := by
  obtain ⟨u, e, hRebuilds, hRun⟩ := hFailed
  exact step_of_rebuilds hRebuilds hRun

/-- What a reachable renderer leads to is reachable. -/
theorem Reachable.leads {allowed : Renderer × Host → Request → Renderer × Host → Prop}
    (hReachable : Reachable allowed s) (hLeads : Leads allowed s t) : Reachable allowed t := by
  induction hLeads with
  | here => exact hReachable
  | step c _ hStep hAllowed ih => exact ih.step c hStep hAllowed

-- ---------------------------------------------------------------------------
-- Whether there is a frame
-- ---------------------------------------------------------------------------

section Steady

variable {R : Renderer × Host → Renderer × Host → Prop} [Steady R]

theorem within_currentFrame (operation : String) : (currentFrame operation).Within R := by
  refine within_get.bind fun s => ?_
  dsimp only
  split
  · exact within_pure _
  · exact within_throw _

theorem within_requireNoFrame (operation : String) : (requireNoFrame operation).Within R := by
  refine within_get.bind fun _ => ?_
  exact within_ite (within_throw _) (within_pure ())

end Steady

end Renderer

end RenderLoop
