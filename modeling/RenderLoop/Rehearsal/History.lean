import RenderLoop.Frame.Device

/-!
# RenderLoop — what a rehearsed device went through

A rehearsal keeps a **history**: every call on the device and on the chain, newest
first, with what it answered. Everything that is asked about a rehearsal later —
which buffers and semaphores are alive, how often a call was made, what has been
submitted — is read off the history.
-/

namespace RenderLoop

/-- The calls of a device that can be made to fail. -/
inductive DeviceCall where
  | createSemaphore
  | allocateBuffers
  | resetBuffer
  | beginBuffer
  | endBuffer
  | submit
  | waitIdle
  deriving DecidableEq, Repr, Inhabited

def DeviceCall.name : DeviceCall → String
  | createSemaphore => "create_semaphore"
  | allocateBuffers => "allocate_command_buffers"
  | resetBuffer => "reset_command_buffer"
  | beginBuffer => "begin_command_buffer"
  | endBuffer => "end_command_buffer"
  | submit => "queue_submit"
  | waitIdle => "queue_wait_idle"

instance : Named DeviceCall :=
  ⟨[.createSemaphore, .allocateBuffers, .resetBuffer, .beginBuffer, .endBuffer, .submit,
    .waitIdle], DeviceCall.name⟩

/-- One step of a history. -/
inductive DeviceEvent where
  /-- A call that failed before it reached the device. -/
  | refused (call : DeviceCall)
  /-- There was no room for another semaphore. -/
  | noSemaphore
  | createdSemaphore (s : Semaphore)
  | destroyedSemaphore (s : Semaphore)
  | allocated (buffers : List CommandBuffer)
  | freed (buffers : List CommandBuffer)
  | wasReset (b : CommandBuffer)
  | begun (b : CommandBuffer)
  | ended (b : CommandBuffer)
  | recorded (b : CommandBuffer) (c : Command)
  | submitted (b : CommandBuffer) (waits : List (Semaphore × PipelineStages))
    (signals : List Semaphore)
  /-- A submission that the device did not accept. -/
  | submitFailed (b : CommandBuffer)
  | waited (finished : Bool)
  /-- An acquisition with the semaphore to signal. -/
  | acquired (signal : Semaphore) (outcome : Except RenderError UInt32)
  /-- A presentation of an image after some semaphores. -/
  | presented (imageIndex : UInt32) (waits : List Semaphore) (outcome : Except RenderError Unit)
  deriving Repr, Inhabited

namespace DeviceEvent

/-- The call that an event is an instance of, if that call can be made to fail. -/
def call? : DeviceEvent → Option DeviceCall
  | refused c => some c
  | noSemaphore | createdSemaphore _ => some .createSemaphore
  | allocated _ => some .allocateBuffers
  | wasReset _ => some .resetBuffer
  | begun _ => some .beginBuffer
  | ended _ => some .endBuffer
  | submitted _ _ _ | submitFailed _ => some .submit
  | waited _ => some .waitIdle
  | _ => none

end DeviceEvent

namespace Command

/-- The text of a command in a buffer. -/
def text (b : CommandBuffer) : Command → String
  | setViewport _ => s!"set_viewport({b.handle})"
  | setScissor _ => s!"set_scissor({b.handle})"
  | beginRenderPass index _ _ => s!"begin_render_pass({b.handle}, framebuffer={index})"
  | endRenderPass => s!"end_render_pass({b.handle})"
  | barrier image t =>
    s!"image_barrier({b.handle}, {image.text}, {t.old.name}->{t.new.name})"

end Command

namespace DeviceEvent

/-- The text of an event. Events of the chain have none, and neither has a missing semaphore. -/
def text? : DeviceEvent → Option String
  | refused c => some s!"!{c.name}"
  | createdSemaphore s => some s!"create_semaphore({s.handle})"
  | destroyedSemaphore s => some s!"destroy_semaphore({s.handle})"
  | allocated bs => some s!"allocate_command_buffers({bs.length})"
  | freed bs =>
    let handles := String.intercalate "," (bs.map fun b => toString b.handle)
    some s!"free_command_buffers({handles})"
  | wasReset b => some s!"reset_command_buffer({b.handle})"
  | begun b => some s!"begin_command_buffer({b.handle})"
  | ended b => some s!"end_command_buffer({b.handle})"
  | recorded b c => some (c.text b)
  | submitted b _ _ | submitFailed b => some s!"queue_submit({b.handle})"
  | waited _ => some "queue_wait_idle"
  | noSemaphore | acquired _ _ | presented _ _ _ => none

end DeviceEvent

/-- The events of a rehearsal, newest first. -/
abbrev DeviceHistory := List DeviceEvent

namespace DeviceHistory

/-- How often a call has been made. -/
def callCount (h : DeviceHistory) (c : DeviceCall) : Nat :=
  h.countP fun e => e.call? == some c

/-- The buffers that are allocated and not freed. -/
def liveBuffers : DeviceHistory → List CommandBuffer
  | [] => []
  | .allocated bs :: before => bs ++ liveBuffers before
  | .freed bs :: before => (liveBuffers before).filter fun b => !bs.contains b
  | _ :: before => liveBuffers before

/-- The semaphores that are created and not destroyed. -/
def liveSemaphores : DeviceHistory → List Semaphore
  | [] => []
  | .createdSemaphore s :: before => s :: liveSemaphores before
  | .destroyedSemaphore s :: before => (liveSemaphores before).filter (· ≠ s)
  | _ :: before => liveSemaphores before

end DeviceHistory

end RenderLoop
