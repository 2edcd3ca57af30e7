import RenderLoop.Proofs.Op.Ensures
import RenderLoop.Rehearsal.Device

/-!
# RenderLoop — plans of a rehearsal

An operation on a device makes one call after the other until one fails. Its
**plan** says which events these calls are when they go well and which events a
call may be instead when it fails. Carried out, a plan ends in one of two ways:

* all of its events happened, in order (`Plan.after`);
* it **broke off**: the first few happened, then a failure of the next
  (`Plan.BrokenOff`).

A **rule** says which events are allowed after a history; a history **obeys** a
rule when each of its events was allowed. If all of a plan would obey a rule that
puts up with the failures, so does the plan when it breaks off
(`obeys_of_brokenOff`), so a rule has to be checked on whole plans only.
-/

namespace RenderLoop

-- ---------------------------------------------------------------------------
-- Rules
-- ---------------------------------------------------------------------------

/-- Each event was allowed by the history before it. -/
def DeviceHistory.Obeys (rule : DeviceHistory → DeviceEvent → Prop) : DeviceHistory → Prop
  | [] => True
  | e :: before => rule before e ∧ Obeys rule before

-- ---------------------------------------------------------------------------
-- Plans
-- ---------------------------------------------------------------------------

/-- A call to be made: the event it is when it goes well, and the events it may be when it fails. -/
structure Intent where
  event : DeviceEvent
  fails : DeviceEvent → Prop

/-- Calls to be made one after the other, each if those before it went well. -/
abbrev Plan := List Intent

/-- A rule allows the failures of a call wherever it allows the call. -/
def Intent.Excusable (rule : DeviceHistory → DeviceEvent → Prop) (i : Intent) : Prop :=
  ∀ e, i.fails e → ∀ h, rule h i.event → rule h e

namespace Plan

/-- The history after all of a plan. -/
def after : Plan → DeviceHistory → DeviceHistory
  | [], h => h
  | i :: rest, h => after rest (i.event :: h)

/-- The histories after a plan that broke off. -/
inductive BrokenOff : Plan → DeviceHistory → DeviceHistory → Prop
  | here {i : Intent} {rest : Plan} {h : DeviceHistory} {e : DeviceEvent} (he : i.fails e) :
    BrokenOff (i :: rest) h (e :: h)
  | later {i : Intent} {rest : Plan} {h h' : DeviceHistory}
    (hRest : BrokenOff rest (i.event :: h) h') : BrokenOff (i :: rest) h h'

/-- Plans one after the other are one plan. -/
theorem after_append (p q : Plan) (h : DeviceHistory) : after (p ++ q) h = after q (after p h) := by
  induction p generalizing h with
  | nil => rfl
  | cons i rest ih => exact ih (i.event :: h)

/-- A plan that breaks off breaks off also when more was to follow. -/
theorem BrokenOff.append {p : Plan} {h h' : DeviceHistory} (hp : BrokenOff p h h') (q : Plan) :
    BrokenOff (p ++ q) h h' := by
  induction hp with
  | here he => exact .here he
  | later _ ih => exact .later ih

/-- A plan breaks off when what was to follow its first part does. -/
theorem BrokenOff.prepend (p : Plan) {q : Plan} {h h' : DeviceHistory}
    (hq : BrokenOff q (after p h) h') : BrokenOff (p ++ q) h h' := by
  induction p generalizing h with
  | nil => exact hq
  | cons i rest ih => exact .later (ih hq)

/-- A plan of a single call breaks off at that call. -/
theorem BrokenOff.of_single {i : Intent} {h h' : DeviceHistory} (hp : BrokenOff [i] h h') :
    ∃ e, i.fails e ∧ h' = e :: h := by
  cases hp with
  | here he => exact ⟨_, he, rfl⟩
  | later hRest => cases hRest

/-- A single call may have more ways to fail. -/
theorem BrokenOff.weaken {e : DeviceEvent} {fails fails' : DeviceEvent → Prop}
    {h h' : DeviceHistory} (hp : BrokenOff [⟨e, fails⟩] h h') (hFails : ∀ {e'}, fails e' → fails' e') :
    BrokenOff [⟨e, fails'⟩] h h' := by
  obtain ⟨e', he, rfl⟩ := hp.of_single
  exact .here (hFails he)

/-- What each event of a plan keeps, the plan keeps. -/
theorem keeps_after {P : DeviceHistory → Prop} {p : Plan}
    (hEvent : ∀ i ∈ p, ∀ h, P h → P (i.event :: h)) {h : DeviceHistory} (hStart : P h) :
    P (after p h) := by
  induction p generalizing h with
  | nil => exact hStart
  | cons i rest ih =>
    have hNext : P (i.event :: h) := hEvent i List.mem_cons_self h hStart
    exact ih (fun j hj => hEvent j (List.mem_cons_of_mem _ hj)) hNext

/-- What each event and each failure of a plan keeps, the plan keeps when it breaks off. -/
theorem keeps_brokenOff {P : DeviceHistory → Prop} {p : Plan} {h h' : DeviceHistory}
    (hBroken : BrokenOff p h h') (hEvent : ∀ i ∈ p, ∀ h, P h → P (i.event :: h))
    (hFail : ∀ i ∈ p, ∀ e, i.fails e → ∀ h, P h → P (e :: h)) (hStart : P h) : P h' := by
  -- the induction is on where the plan breaks off: at its first call, or later
  induction hBroken with
  | here he => exact hFail _ List.mem_cons_self _ he _ hStart
  | later _ ih =>
    refine ih (fun j hj => ?_) (fun j hj => ?_) ?_
    · exact hEvent j (List.mem_cons_of_mem _ hj)
    · exact hFail j (List.mem_cons_of_mem _ hj)
    · exact hEvent _ List.mem_cons_self _ hStart

/-- A history that obeys a rule after a plan obeyed it before. -/
theorem obeys_of_obeys_after {rule : DeviceHistory → DeviceEvent → Prop} {p : Plan}
    {h : DeviceHistory} (hAfter : (after p h).Obeys rule) : h.Obeys rule := by
  induction p generalizing h with
  | nil => exact hAfter
  | cons i rest ih => exact (ih hAfter).2

/-- A plan that breaks off obeys a rule that the whole of it obeys, if the rule allows the failure
of a call wherever it allows the call. -/
theorem obeys_of_brokenOff {rule : DeviceHistory → DeviceEvent → Prop} {p : Plan}
    {h h' : DeviceHistory} (hBroken : BrokenOff p h h')
    (hExcusable : ∀ i ∈ p, i.Excusable rule) (hAfter : (after p h).Obeys rule) :
    h'.Obeys rule := by
  induction hBroken with
  | @here i rest h e he =>
    -- the whole plan obeys the rule, so its first call was allowed, and its failure then is, too
    have hObeys : DeviceHistory.Obeys rule (i.event :: h) := obeys_of_obeys_after hAfter
    exact ⟨hExcusable i List.mem_cons_self e he h hObeys.1, hObeys.2⟩
  | later _ ih => exact ih (fun j hj => hExcusable j (List.mem_cons_of_mem _ hj)) hAfter

end Plan

-- ---------------------------------------------------------------------------
-- The calls of the device
-- ---------------------------------------------------------------------------

namespace Intent

def reset (b : CommandBuffer) : Intent := ⟨.wasReset b, (· = .refused .resetBuffer)⟩

def begin (b : CommandBuffer) : Intent := ⟨.begun b, (· = .refused .beginBuffer)⟩

def finish (b : CommandBuffer) : Intent := ⟨.ended b, (· = .refused .endBuffer)⟩

/-- Recording a command cannot fail. -/
def record (b : CommandBuffer) (c : Command) : Intent := ⟨.recorded b c, fun _ => False⟩

def submit (b : CommandBuffer) (waits : List (Semaphore × PipelineStages))
    (signals : List Semaphore) : Intent :=
  ⟨.submitted b waits signals, fun e => e = .refused .submit ∨ e = .submitFailed b⟩

def wait : Intent := ⟨.waited true, fun e => e = .refused .waitIdle ∨ e = .waited false⟩

end Intent

namespace Rehearsal

/-- What an operation on command buffers and semaphores leaves alone. -/
structure Kept (w w' : Rehearsal) : Prop where
  nextHandle : w'.nextHandle = w.nextHandle
  images : w'.chain.images = w.chain.images
  current : w'.chain.current = w.chain.current

theorem Kept.refl (w : Rehearsal) : Kept w w where
  nextHandle := rfl
  images := rfl
  current := rfl

theorem Kept.trans {w₁ w₂ w₃ : Rehearsal} (h : Kept w₁ w₂) (h' : Kept w₂ w₃) : Kept w₁ w₃ where
  nextHandle := h'.nextHandle.trans h.nextHandle
  images := h'.images.trans h.images
  current := h'.current.trans h.current

@[simp] theorem history_push (e : LogEntry) (w : Rehearsal) :
    (Logging.push e w).history = w.history := rfl

@[simp] theorem history_happen (e : DeviceEvent) (w : Rehearsal) :
    (happen e w).history = e :: w.history := rfl

theorem kept_push (e : LogEntry) (w : Rehearsal) : Kept w (Logging.push e w) where
  nextHandle := rfl
  images := rfl
  current := rfl

theorem kept_happen (e : DeviceEvent) (w : Rehearsal) : Kept w (happen e w) where
  nextHandle := rfl
  images := rfl
  current := rfl

/-- An operation carries out a plan: it returns after all of it, and fails when it breaks off. -/
def CarriesOut {α : Type} (op : Op Rehearsal α) (p : Plan) : Prop :=
  ∀ w, op.Ensures w
    (fun _ w' => w'.history = p.after w.history ∧ Kept w w')
    (fun _ w' => p.BrokenOff w.history w'.history ∧ Kept w w')

variable {α β : Type}

/-- Plans are carried out one after the other. -/
theorem CarriesOut.bind {op : Op Rehearsal α} {f : α → Op Rehearsal β} {p q : Plan}
    (hOp : CarriesOut op p) (hf : ∀ a, CarriesOut (f a) q) : CarriesOut (op >>= f) (p ++ q) := by
  intro w
  rw [Op.ensures_bind]
  refine (hOp w).mono ?_ ?_
  · rintro a t ⟨hHistory, hKept⟩
    refine (hf a t).mono ?_ ?_
    · -- both plans were carried out
      rintro b u ⟨hHistory', hKept'⟩
      exact ⟨by rw [hHistory', hHistory, Plan.after_append], hKept.trans hKept'⟩
    · -- the second plan broke off after all of the first
      rintro e u ⟨hBroken, hKept'⟩
      rw [hHistory] at hBroken
      exact ⟨Plan.BrokenOff.prepend p hBroken, hKept.trans hKept'⟩
  · -- the first plan broke off, and nothing of the second was done
    rintro e t ⟨hBroken, hKept⟩
    exact ⟨hBroken.append q, hKept⟩

/-- A call that a fault may keep from the device has one more way to fail. -/
theorem CarriesOut.unlessRefused {op : Op Rehearsal α} {e : DeviceEvent}
    {fails : DeviceEvent → Prop} (c : DeviceCall) (hOp : CarriesOut op [⟨e, fails⟩]) :
    CarriesOut (unlessRefused c op) [⟨e, fun e' => e' = .refused c ∨ fails e'⟩] := by
  have hOther : ∀ w, op.Ensures w
      (fun _ w' => w'.history = e :: w.history ∧ Kept w w')
      (fun _ w' => Plan.BrokenOff [⟨e, fun e' => e' = .refused c ∨ fails e'⟩] w.history w'.history ∧
        Kept w w') := by
    intro w
    refine (hOp w).mono (fun _ _ h => h) ?_
    rintro e' w' ⟨hBroken, hKept⟩
    exact ⟨hBroken.weaken .inr, hKept⟩
  intro w
  rw [Rehearsal.unlessRefused, Op.ensures_bind, Op.ensures_get]
  split
  · rw [Op.ensures_bind, note, Op.ensures_change, Op.ensures_throw]
    exact ⟨.here (.inl rfl), kept_happen _ w⟩
  · exact hOther w

/-- Noting an event cannot fail. -/
theorem carriesOut_note (e : DeviceEvent) : CarriesOut (note e) [⟨e, fun _ => False⟩] := by
  intro w
  rw [note, Op.ensures_change]
  exact ⟨rfl, kept_happen e w⟩

/-- A call that notes one event and fails only by a fault. -/
theorem carriesOut_unlessRefused_note (c : DeviceCall) (e : DeviceEvent) :
    CarriesOut (unlessRefused c (note e)) [⟨e, (· = .refused c)⟩] := by
  have h := CarriesOut.unlessRefused c (carriesOut_note e)
  simpa only [or_false] using h

theorem carriesOut_reset (b : CommandBuffer) :
    CarriesOut (FrameDevice.reset b : Op Rehearsal Unit) [.reset b] :=
  carriesOut_unlessRefused_note _ _

theorem carriesOut_beginBuffer (b : CommandBuffer) :
    CarriesOut (FrameDevice.beginBuffer b : Op Rehearsal Unit) [.begin b] :=
  carriesOut_unlessRefused_note _ _

theorem carriesOut_endBuffer (b : CommandBuffer) :
    CarriesOut (FrameDevice.endBuffer b : Op Rehearsal Unit) [.finish b] :=
  carriesOut_unlessRefused_note _ _

theorem carriesOut_record (b : CommandBuffer) (c : Command) :
    CarriesOut (Op.change (FrameDevice.record b c : Rehearsal → Rehearsal)) [.record b c] :=
  carriesOut_note _

/-- A submission fails by a fault, or because the device does not accept it. -/
theorem carriesOut_submit (b : CommandBuffer) (waits : List (Semaphore × PipelineStages))
    (signals : List Semaphore) :
    CarriesOut (FrameDevice.submit b waits signals : Op Rehearsal Unit)
      [.submit b waits signals] := by
  refine CarriesOut.unlessRefused .submit ?_
  intro w
  rw [submit, Op.ensures_bind, Op.ensures_get]
  split
  · simp only [note, Op.ensures_bind, Op.ensures_change, Op.ensures_throw]
    exact ⟨.here rfl, rfl, rfl, rfl⟩
  · rw [note, Op.ensures_change]
    exact ⟨rfl, kept_happen _ w⟩

/-- Waiting fails by a fault, or because the device does not come to an end. -/
theorem carriesOut_waitQueue :
    CarriesOut (FrameDevice.waitQueue : Op Rehearsal Unit) [.wait] := by
  refine CarriesOut.unlessRefused .waitIdle ?_
  intro w
  rw [waitIdle, Op.ensures_bind, Op.ensures_get]
  split
  · simp only [note, Op.ensures_bind, Op.ensures_change, Op.ensures_throw]
    exact ⟨.here rfl, rfl, rfl, rfl⟩
  · rw [note, Op.ensures_change]
    exact ⟨rfl, kept_happen _ w⟩

end Rehearsal

end RenderLoop
