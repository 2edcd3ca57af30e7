import RenderLoop.Data.Values
import RenderLoop.Rehearsal.Device
import RenderLoop.Frame.Synchronizer

/-!
# RenderLoop — reports of rehearsals

A stretch of a rehearsal is reported by what was recorded in it, oldest first, and
by what is alive at its end.
-/

namespace RenderLoop.Data

instance : Reportable CommandBuffer := ⟨fun b => report b.handle⟩

instance : Reportable Semaphore := ⟨fun s => report s.handle⟩

instance : Reportable Recorder :=
  ⟨fun r => record [("setup", report r.setup), ("draw_buffers", report r.draw.length),
    ("pre_present", report r.prePresent), ("post_present", report r.postPresent)]⟩

instance : Reportable Frame :=
  ⟨fun f => list [report f.imageIndex, report f.buffer, report f.extent.width,
    report f.extent.height]⟩

/-- The submission that an event is. -/
def submission? : DeviceEvent → Option Data
  | .submitted b waits signals =>
    some (record [("buffer", report b),
      ("waits", report (waits.map fun (s, stages) => (s, stages.bits))), ("signals", report signals)])
  | _ => none

/-- The barrier that an event is. -/
def barrier? : DeviceEvent → Option Data
  | .recorded b (.barrier image t) => some (list [report b, text image.text, report t])
  | _ => none

/-- The viewport that an event sets. -/
def viewport? : DeviceEvent → Option Viewport
  | .recorded _ (.setViewport v) => some v
  | _ => none

/-- The scissor that an event sets. -/
def scissor? : DeviceEvent → Option Rect
  | .recorded _ (.setScissor r) => some r
  | _ => none

/-- The render pass that an event begins. -/
def renderPass? : DeviceEvent → Option Data
  | .recorded b (.beginRenderPass index area clears) =>
    some (list [report b, report index, report area, report clears])
  | _ => none

/-- The semaphore of a successful acquisition. -/
def acquired? : DeviceEvent → Option Semaphore
  | .acquired s (.ok _) => some s
  | _ => none

/-- The image and the semaphores of a successful presentation. -/
def presented? : DeviceEvent → Option (UInt32 × List Semaphore)
  | .presented index waits (.ok ()) => some (index, waits)
  | _ => none

/-- The device after a history, with the events since some moment, oldest first. -/
def ofDevice (h : DeviceHistory) (events : List DeviceEvent) : Data :=
  record [("commands", report (events.filterMap (·.text?))),
    ("submits", list (events.filterMap submission?)),
    ("barriers", list (events.filterMap barrier?)),
    ("viewports", report (events.filterMap viewport?)),
    ("scissors", report (events.filterMap scissor?)),
    ("render_passes", list (events.filterMap renderPass?)),
    ("live_command_buffers", report h.liveBuffers.length),
    ("live_semaphores", report h.liveSemaphores.length)]

/-- The chain, with the events since some moment, oldest first. -/
def ofChain (c : RehearsedChain) (events : List DeviceEvent) : Data :=
  record [("current", report c.current), ("images", report c.images),
    ("format", report RehearsedChain.format.format),
    ("acquired", report (events.filterMap acquired?)),
    ("presented", report (events.filterMap presented?))]

end RenderLoop.Data
