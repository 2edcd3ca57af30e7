import RenderLoop.Proofs.Frame.Synchronizer

/-!
# RenderLoop — sessions of the frame machine

A **session** is a frame machine in a rehearsal, and the frame that began last. It
starts with the creation of the machine and goes on with calls in any order: the
two halves of a frame, the two of the setup buffer, and destruction. Between calls
everything outside of the machine may change (`Script`): which calls will fail,
the outcomes of acquisitions and presentations, and the chain, with its number of
images.

`Reachable allowed` are the sessions that calls lead to, each of which `allowed`
puts up with. A **faithful** session ends only the frame that began last.
-/

namespace RenderLoop

open Rehearsal

/-- What is decided outside of the machine. -/
structure Script where
  faults : List DeviceFault := []
  submitFailure : Option RenderError := none
  waitFailure : Option RenderError := none
  semaphoresLeft : Option UInt32 := none
  chain : RehearsedChain

/-- A rehearsal goes on by another script. -/
def Rehearsal.follow (script : Script) (w : Rehearsal) : Rehearsal :=
  { w with
    faults := script.faults
    submitFailure := script.submitFailure
    waitFailure := script.waitFailure
    semaphoresLeft := script.semaphoresLeft
    chain := script.chain }

/-- What may happen to a session. -/
inductive Call where
  | beginFrame (extent : Extent)
  | endFrame (f : Frame)
  | beginSetup
  | flushSetup
  | destroy
  /-- Not a call on the machine: the script changes. -/
  | follow (script : Script)

/-- A frame machine at work. -/
structure Session where
  machine : Synchronizer
  world : Rehearsal
  /-- The frame that began last. -/
  frame : Option Frame := none

namespace Session

/-- The session after an operation with an outcome. -/
def next {α : Type} (frame : Except RenderError α → Option Frame)
    (s : Except RenderError α × Synchronizer × Rehearsal) : Session :=
  ⟨s.2.1, s.2.2, frame s.1⟩

/-- The session after a call; none, if the call is abandoned. -/
def call (s : Session) : Call → Option Session
  | .beginFrame extent =>
    (Op.start (Synchronizer.beginFrame extent) (s.machine, s.world)).map
      (next fun r => r.toOption <|> s.frame)
  | .endFrame f =>
    (Op.start (Synchronizer.endFrame f) (s.machine, s.world)).map (next fun _ => s.frame)
  | .beginSetup =>
    (Op.start (Synchronizer.onRecorder Recorder.beginSetup) (s.machine, s.world)).map
      (next fun _ => s.frame)
  | .flushSetup =>
    (Op.start (Synchronizer.onRecorder Recorder.flushSetup) (s.machine, s.world)).map
      (next fun _ => s.frame)
  | .destroy =>
    let (machine, world) := Synchronizer.destroy (s.machine, s.world)
    some { s with machine, world }
  | .follow script => some { s with world := s.world.follow script }

/-- Only the frame that began last is handed back. -/
def Faithful (s : Session) : Call → Prop
  | .endFrame f => s.frame = some f
  | _ => True

/-- The sessions that allowed calls lead to from a session. -/
inductive Leads (allowed : Session → Call → Prop) (s : Session) : Session → Prop
  | here : Leads allowed s s
  | call {t u : Session} (c : Call) (hLeads : Leads allowed s t) (hAllowed : allowed t c)
    (hCall : t.call c = some u) : Leads allowed s u

/-- The sessions that begin with the creation of a machine and go on with allowed calls. -/
inductive Reachable (allowed : Session → Call → Prop) : Session → Prop
  | created {clearColor : Color} {w w' : Rehearsal} {m : Synchronizer} (hNew : w.history = [])
    (hRun : Op.start (Synchronizer.create clearColor) w = some (.ok m, w')) :
    Reachable allowed ⟨m, w', none⟩
  | call {s t : Session} (c : Call) (hReachable : Reachable allowed s) (hAllowed : allowed s c)
    (hCall : s.call c = some t) : Reachable allowed t

/-- A session that a reachable one leads to is reachable. -/
theorem Reachable.leads {allowed : Session → Call → Prop} {s t : Session}
    (hReachable : Reachable allowed s) (hLeads : Leads allowed s t) : Reachable allowed t := by
  induction hLeads with
  | here => exact hReachable
  | call c _ hAllowed hCall ih => exact ih.call c hAllowed hCall

-- ---------------------------------------------------------------------------
-- What a call can do
-- ---------------------------------------------------------------------------

/-- The machine and the world of a session. -/
def both (s : Session) : Synchronizer × Rehearsal := (s.machine, s.world)

/-- The ways in which a call ends. -/
inductive CallOutcome (s : Session) : Call → Session → Prop
  | began {extent : Extent} {f : Frame} {t : Synchronizer × Rehearsal}
    (hOutcome : Synchronizer.BeginOutcome extent s.machine s.world (.ok f) t) :
    CallOutcome s (.beginFrame extent) ⟨t.1, t.2, some f⟩
  | notBegan {extent : Extent} {e : RenderError} {t : Synchronizer × Rehearsal}
    (hOutcome : Synchronizer.BeginOutcome extent s.machine s.world (.error e) t) :
    CallOutcome s (.beginFrame extent) ⟨t.1, t.2, s.frame⟩
  | ended {f : Frame} {r : Except RenderError Unit} {t : Synchronizer × Rehearsal}
    (hOutcome : Synchronizer.EndOutcome f s.machine s.world r t) :
    CallOutcome s (.endFrame f) ⟨t.1, t.2, s.frame⟩
  | setup {r : Except RenderError CommandBuffer} {t : Recorder × Rehearsal}
    (hOutcome : Recorder.SetupOutcome s.machine.recorder s.world r t) :
    CallOutcome s .beginSetup ⟨{ s.machine with recorder := t.1 }, t.2, s.frame⟩
  | flushed {r : Except RenderError Unit} {t : Recorder × Rehearsal}
    (hOutcome : Recorder.FlushOutcome s.machine.recorder s.world r t) :
    CallOutcome s .flushSetup ⟨{ s.machine with recorder := t.1 }, t.2, s.frame⟩
  | destroyed : CallOutcome s .destroy
      ⟨(Synchronizer.destroy s.both).1, (Synchronizer.destroy s.both).2, s.frame⟩
  | followed {script : Script} : CallOutcome s (.follow script) { s with world := s.world.follow script }

/-- A call ends in one of these ways, if it is not abandoned. -/
theorem callOutcome_of_call {s t : Session} {c : Call} (hCall : s.call c = some t) :
    CallOutcome s c t := by
  cases c with
  | beginFrame extent =>
    obtain ⟨⟨r, m, w⟩, hRun, rfl⟩ := Option.map_eq_some_iff.mp hCall
    have hOutcome := Synchronizer.ensures_beginFrame extent s.machine s.world r (m, w) hRun
    cases r with
    | ok f => exact .began hOutcome
    | error e => exact .notBegan hOutcome
  | endFrame f =>
    obtain ⟨⟨r, m, w⟩, hRun, rfl⟩ := Option.map_eq_some_iff.mp hCall
    have hOutcome := Synchronizer.ensures_endFrame f s.machine s.world r (m, w) hRun
    cases r <;> exact .ended hOutcome
  | beginSetup =>
    obtain ⟨⟨r, m, w⟩, hRun, rfl⟩ := Option.map_eq_some_iff.mp hCall
    -- the call runs on the recorder alone; the rest of the machine is put back around it
    rw [Synchronizer.onRecorder, Op.start_on] at hRun
    obtain ⟨⟨r', recorder, w'⟩, hRun', hEq⟩ := Option.map_eq_some_iff.mp hRun
    cases hEq
    have hOutcome := Recorder.ensures_beginSetup s.machine.recorder s.world r (recorder, _) hRun'
    cases r <;> exact .setup hOutcome
  | flushSetup =>
    obtain ⟨⟨r, m, w⟩, hRun, rfl⟩ := Option.map_eq_some_iff.mp hCall
    rw [Synchronizer.onRecorder, Op.start_on] at hRun
    obtain ⟨⟨r', recorder, w'⟩, hRun', hEq⟩ := Option.map_eq_some_iff.mp hRun
    cases hEq
    have hOutcome := Recorder.ensures_flushSetup s.machine.recorder s.world r (recorder, _) hRun'
    cases r <;> exact .flushed hOutcome
  | destroy =>
    cases hCall
    exact .destroyed
  | follow script =>
    cases hCall
    exact .followed

end Session

end RenderLoop
