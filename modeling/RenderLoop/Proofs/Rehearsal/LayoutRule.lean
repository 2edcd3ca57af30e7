import Mathlib.Logic.Function.Basic
import RenderLoop.Proofs.Rehearsal.BufferRule

/-!
# RenderLoop — the layouts of the images of a chain

What a buffer does to images happens when it is submitted: its commands run then, in
the order in which they were recorded. A render pass leaves the image it is begun on
as an attachment, whatever layout the image had; a barrier moves an image from one
layout to another. So the layout of each image can be read off a history
(`DeviceHistory.layouts`), once a command has moved the image: before that it is
unknown, and nothing is assumed of it.

The rule (`LayoutRule`): whenever a buffer is submitted, each of its barriers finds
its image in the layout that it moves it from; and an image that is presented is in
the layout of presentation, and is the one image that was rendered since an image was
acquired (`DeviceHistory.rendered`).

Few events have to do with images. The others leave all of this as it is
(`Still.cons`, `still_after`), and so does the submission of a buffer without commands
(`Still.submitted`).
-/

namespace RenderLoop

/-- The layouts of the images of a chain, of those that commands have moved. -/
abbrev Layouts := UInt32 → Option ImageLayout

namespace Command

/-- What becomes of the layouts when a command runs. -/
def move (l : Layouts) : Command → Layouts
  | beginRenderPass index _ _ => Function.update l index (some .colorAttachment)
  | barrier (.swapchain index) t => Function.update l index (some t.new)
  | _ => l

/-- A barrier finds its image in the layout that it moves it from. -/
def Fits (l : Layouts) : Command → Prop
  | barrier (.swapchain index) t => l index = some t.old
  | _ => True

/-- The image that a command begins a render pass on. -/
def target? : Command → Option UInt32
  | beginRenderPass index _ _ => some index
  | _ => none

/-- Each barrier among some commands finds its image as it needs it, when they run in order. -/
def AllFit (l : Layouts) : List Command → Prop
  | [] => True
  | c :: rest => c.Fits l ∧ AllFit (c.move l) rest

end Command

namespace DeviceHistory

/-- The commands in a buffer: those that were recorded into it since it was begun last. -/
def contents (b : CommandBuffer) : DeviceHistory → List Command
  | [] => []
  | e :: before =>
    match e with
    | .begun b' => if b' = b then [] else contents b before
    | .recorded b' c => if b' = b then contents b before ++ [c] else contents b before
    | _ => contents b before

/-- The layouts of the images, by the buffers that were submitted. -/
def layouts : DeviceHistory → Layouts
  | [] => fun _ => none
  | e :: before =>
    match e with
    | .submitted b _ _ => (contents b before).foldl Command.move (layouts before)
    | _ => layouts before

/-- The images that were rendered since an image was acquired last. -/
def rendered : DeviceHistory → List UInt32
  | [] => []
  | e :: before =>
    match e with
    | .acquired _ (.ok _) => []
    | .submitted b _ _ => rendered before ++ (contents b before).filterMap Command.target?
    | _ => rendered before

end DeviceHistory

open DeviceHistory

/-- What may happen to images after a history. -/
def LayoutRule (before : DeviceHistory) : DeviceEvent → Prop
  | .submitted b _ _ | .submitFailed b => Command.AllFit before.layouts (contents b before)
  | .presented index _ _ => before.layouts index = some .presentSource ∧ before.rendered = [index]
  | _ => True

-- ---------------------------------------------------------------------------
-- What is in a buffer
-- ---------------------------------------------------------------------------

section Contents

variable {b : CommandBuffer} {h : DeviceHistory}

@[simp] theorem contents_begun_self : contents b (.begun b :: h) = [] := if_pos rfl

@[simp] theorem contents_recorded_self (c : Command) :
    contents b (.recorded b c :: h) = contents b h ++ [c] := if_pos rfl

/-- An event that does not name a buffer leaves what is in it. -/
theorem contents_cons_of_not_mem {e : DeviceEvent} (hOther : b ∉ e.buffers) :
    contents b (e :: h) = contents b h := by
  cases e with
  | begun b' | recorded b' c =>
    exact if_neg fun hEq => hOther (List.mem_singleton.mpr hEq.symm)
  | _ => rfl

/-- A plan that avoids a buffer leaves what is in it. -/
theorem contents_after {p : Plan} (hAvoids : ∀ i ∈ p, i.Avoids b) :
    contents b (p.after h) = contents b h := by
  refine Plan.keeps_after (P := fun h' => contents b h' = contents b h) (fun i hi h' hSame => ?_) rfl
  rw [contents_cons_of_not_mem (hAvoids i hi).1]
  exact hSame

/-- A plan that avoids a buffer leaves what is in it when it breaks off. -/
theorem contents_brokenOff {p : Plan} {h' : DeviceHistory} (hAvoids : ∀ i ∈ p, i.Avoids b)
    (hBroken : p.BrokenOff h h') : contents b h' = contents b h := by
  refine Plan.keeps_brokenOff (P := fun h' => contents b h' = contents b h) hBroken
    (fun i hi h'' hSame => ?_) (fun i hi e he h'' hSame => ?_) rfl
  · rw [contents_cons_of_not_mem (hAvoids i hi).1]
    exact hSame
  · rw [contents_cons_of_not_mem ((hAvoids i hi).2 e he)]
    exact hSame

end Contents

-- ---------------------------------------------------------------------------
-- Events that have nothing to do with images
-- ---------------------------------------------------------------------------

/-- An event neither runs commands, nor acquires or presents an image, and puts nothing into the
buffers that are to be spared. -/
def DeviceEvent.Plain (spared : CommandBuffer → Prop) : DeviceEvent → Prop
  | .begun b | .recorded b _ => ¬ spared b
  | .submitted _ _ _ | .submitFailed _ | .acquired _ _ | .presented _ _ _ => False
  | _ => True

/-- Nothing happened to images: the rule was kept, none was moved, and nothing was put into the
buffers that were to be spared. -/
structure Still (spared : CommandBuffer → Prop) (h h' : DeviceHistory) : Prop where
  obeys : h.Obeys LayoutRule → h'.Obeys LayoutRule
  layouts : h'.layouts = h.layouts
  rendered : h'.rendered = h.rendered
  contents : ∀ b, spared b → contents b h' = contents b h

namespace Still

variable {spared spared' : CommandBuffer → Prop} {h h' h'' : DeviceHistory}

theorem refl (spared : CommandBuffer → Prop) (h : DeviceHistory) : Still spared h h where
  obeys := id
  layouts := rfl
  rendered := rfl
  contents _ _ := rfl

theorem trans (hFirst : Still spared h h') (hSecond : Still spared h' h'') : Still spared h h'' where
  obeys hObeys := hSecond.obeys (hFirst.obeys hObeys)
  layouts := hSecond.layouts.trans hFirst.layouts
  rendered := hSecond.rendered.trans hFirst.rendered
  contents b hb := (hSecond.contents b hb).trans (hFirst.contents b hb)

/-- Fewer buffers may be spared. -/
theorem mono (hStill : Still spared h h') (hFewer : ∀ b, spared' b → spared b) :
    Still spared' h h' where
  obeys := hStill.obeys
  layouts := hStill.layouts
  rendered := hStill.rendered
  contents b hb := hStill.contents b (hFewer b hb)

/-- A plain event leaves the images alone. -/
theorem cons (hStill : Still spared h h') {e : DeviceEvent} (he : e.Plain spared) :
    Still spared h (e :: h') := by
  refine hStill.trans ?_
  cases e with
  | submitted b waits signals | submitFailed b | acquired s outcome
  | presented index waits outcome => exact he.elim
  | begun b | recorded b c =>
    refine ⟨fun hObeys => ⟨trivial, hObeys⟩, rfl, rfl, fun b' hb' => ?_⟩
    -- the event is about a buffer that is not spared
    refine contents_cons_of_not_mem fun hMem => he ?_
    rw [← List.mem_singleton.mp hMem]
    exact hb'
  | _ => exact ⟨fun hObeys => ⟨trivial, hObeys⟩, rfl, rfl, fun _ _ => rfl⟩

/-- A buffer without commands does nothing when it is submitted, whether it is accepted or not. -/
theorem submitted (hStill : Still spared h h') {b : CommandBuffer}
    (hEmpty : DeviceHistory.contents b h' = []) (waits : List (Semaphore × PipelineStages))
    (signals : List Semaphore) : Still spared h (.submitted b waits signals :: h') := by
  refine hStill.trans ⟨fun hObeys => ⟨?_, hObeys⟩, ?_, ?_, fun _ _ => rfl⟩
  · rw [LayoutRule, hEmpty]
    trivial
  · rw [DeviceHistory.layouts, hEmpty]
    rfl
  · rw [DeviceHistory.rendered, hEmpty]
    exact List.append_nil _

/-- Not even a submission without commands that fails does anything. -/
theorem submitFailed (hStill : Still spared h h') {b : CommandBuffer}
    (hEmpty : DeviceHistory.contents b h' = []) : Still spared h (.submitFailed b :: h') := by
  refine hStill.trans ⟨fun hObeys => ⟨?_, hObeys⟩, rfl, rfl, fun _ _ => rfl⟩
  rw [LayoutRule, hEmpty]
  trivial

end Still

/-- A plan of plain events leaves the images alone. -/
theorem still_after {spared : CommandBuffer → Prop} {p : Plan}
    (hPlain : ∀ i ∈ p, i.event.Plain spared) (h : DeviceHistory) : Still spared h (p.after h) := by
  refine Plan.keeps_after (P := Still spared h) (fun i hi h' hStill => ?_) (.refl spared h)
  exact hStill.cons (hPlain i hi)

-- ---------------------------------------------------------------------------
-- Failures
-- ---------------------------------------------------------------------------

section Failures

theorem excusable_begin_layouts (b : CommandBuffer) : (Intent.begin b).Excusable LayoutRule := by
  rintro - rfl h -
  trivial

theorem excusable_record_layouts (b : CommandBuffer) (c : Command) :
    (Intent.record b c).Excusable LayoutRule := by
  intro e hFails
  exact hFails.elim

theorem excusable_finish_layouts (b : CommandBuffer) : (Intent.finish b).Excusable LayoutRule := by
  rintro - rfl h -
  trivial

/-- A submission that is not accepted was as good as one that is. -/
theorem excusable_submit_layouts (b : CommandBuffer) (waits : List (Semaphore × PipelineStages))
    (signals : List Semaphore) : (Intent.submit b waits signals).Excusable LayoutRule := by
  rintro - (rfl | rfl) h hRule
  · trivial
  · exact hRule

theorem excusable_wait_layouts : Intent.wait.Excusable LayoutRule := by
  rintro - (rfl | rfl) h - <;> trivial

end Failures

end RenderLoop
