import RenderLoop.Proofs.Rehearsal.Plan

/-!
# RenderLoop — the discipline of binary semaphores

A binary semaphore is signalled or not. An acquisition signals the semaphore it is
given, if it succeeds; a submission consumes the signals it waits for and then gives
its own; a presentation consumes the signals it waits for, also when it finds the
chain out of date (`DeviceHistory.Signalled`).

The rule for a pair of semaphores, one for an image that is **ready** and one for
drawing that is **done** (`SemaphoreRule`): no semaphore is signalled that is
signalled already, none is waited for that is not signalled, only submissions of
draw buffers wait for the first and only presentations wait for the second.

Most events have nothing to do with semaphores (`DeviceEvent.Calm`); a plan of such
events is calm as a whole (`calm_after`, `calm_brokenOff`).
-/

namespace RenderLoop

/-- The outcomes of a presentation that reached its queue. -/
def Presentable (outcome : Except RenderError Unit) : Prop :=
  outcome = .ok () ∨ outcome = .error .swapchainOutOfDate

namespace DeviceHistory

/-- A semaphore has a signal that nobody consumed. -/
def Signalled (s : Semaphore) : DeviceHistory → Prop
  | [] => False
  | e :: before =>
    match e with
    | .createdSemaphore s' => s' ≠ s ∧ Signalled s before
    | .acquired s' (.ok _) => s' = s ∨ Signalled s before
    | .submitted _ waits signals =>
      s ∈ signals ∨ (s ∉ waits.map Prod.fst ∧ Signalled s before)
    | .presented _ waits outcome => (Presentable outcome → s ∉ waits) ∧ Signalled s before
    | _ => Signalled s before

/-- A buffer was just ended, after the end of a render pass. -/
def Drew (b : CommandBuffer) (h : DeviceHistory) : Prop :=
  ∃ before, h = .ended b :: .recorded b .endRenderPass :: before

end DeviceHistory

open DeviceHistory

/-- What may happen to semaphores after a history. -/
def SemaphoreRule (ready done : Semaphore) (before : DeviceHistory) : DeviceEvent → Prop
  | .acquired s _ => ¬ Signalled s before
  | .submitted b waits signals =>
    (∀ s ∈ waits.map Prod.fst, Signalled s before) ∧
      (∀ s ∈ signals, Signalled s before → s ∈ waits.map Prod.fst) ∧
      (ready ∈ waits.map Prod.fst → Drew b before) ∧ done ∉ waits.map Prod.fst
  | .presented _ waits _ => (∀ s ∈ waits, Signalled s before) ∧ ready ∉ waits
  | _ => True

-- ---------------------------------------------------------------------------
-- Calm events
-- ---------------------------------------------------------------------------

/-- An event neither waits for a semaphore nor signals one. -/
def DeviceEvent.Calm : DeviceEvent → Prop
  | .createdSemaphore _ | .acquired _ _ | .presented _ _ _ => False
  | .submitted _ waits signals => waits = [] ∧ signals = []
  | _ => True

/-- Nothing happened to semaphores: no signal came or went, and the rule was kept. -/
structure Calm (ready done : Semaphore) (h h' : DeviceHistory) : Prop where
  obeys : h.Obeys (SemaphoreRule ready done) → h'.Obeys (SemaphoreRule ready done)
  signalled : ∀ s, Signalled s h' ↔ Signalled s h

namespace Calm

variable {ready done : Semaphore} {h h' h'' : DeviceHistory}

theorem refl (ready done : Semaphore) (h : DeviceHistory) : Calm ready done h h where
  obeys := id
  signalled _ := Iff.rfl

/-- Calm stretches make up a calm one. -/
theorem trans (hFirst : Calm ready done h h') (hSecond : Calm ready done h' h'') :
    Calm ready done h h'' where
  obeys hObeys := hSecond.obeys (hFirst.obeys hObeys)
  signalled s := (hSecond.signalled s).trans (hFirst.signalled s)

/-- A calm event leaves all signals as they are. -/
theorem cons (hCalm : Calm ready done h h') {e : DeviceEvent} (he : e.Calm) :
    Calm ready done h (e :: h') := by
  refine hCalm.trans ?_
  cases e with
  | createdSemaphore s | acquired s outcome | presented index waits outcome => exact he.elim
  | submitted b waits signals =>
    -- a submission is calm only if it waits for nothing and signals nothing
    obtain ⟨rfl, rfl⟩ := he
    refine ⟨fun hObeys => ⟨⟨?_, ?_, ?_, ?_⟩, hObeys⟩, fun s => ?_⟩
    · exact fun s hs => absurd hs List.not_mem_nil
    · exact fun s hs => absurd hs List.not_mem_nil
    · exact fun hReady => absurd hReady List.not_mem_nil
    · exact List.not_mem_nil
    · constructor
      · rintro (hs | ⟨-, hs⟩)
        · exact absurd hs List.not_mem_nil
        · exact hs
      · exact fun hs => .inr ⟨List.not_mem_nil, hs⟩
  | _ => exact ⟨fun hObeys => ⟨trivial, hObeys⟩, fun _ => Iff.rfl⟩

end Calm

/-- Both an intended event and a failure in its place are calm. -/
def Intent.Calm (i : Intent) : Prop := i.event.Calm ∧ ∀ e, i.fails e → e.Calm

section Plans

variable {ready done : Semaphore} {p : Plan} {h h' : DeviceHistory}

/-- A plan of calm calls is calm as a whole. -/
theorem calm_after (hCalm : ∀ i ∈ p, i.Calm) (h : DeviceHistory) :
    Calm ready done h (p.after h) := by
  refine Plan.keeps_after (P := Calm ready done h) (fun i hi h' hSame => ?_) (.refl ready done h)
  exact hSame.cons (hCalm i hi).1

/-- A plan of calm calls is calm also when it breaks off. -/
theorem calm_brokenOff (hCalm : ∀ i ∈ p, i.Calm) (hBroken : p.BrokenOff h h') :
    Calm ready done h h' := by
  refine Plan.keeps_brokenOff (P := Calm ready done h) hBroken (fun i hi h'' hSame => ?_)
    (fun i hi e he h'' hSame => ?_) (.refl ready done h)
  · exact hSame.cons (hCalm i hi).1
  · exact hSame.cons ((hCalm i hi).2 e he)

theorem calm_begin (b : CommandBuffer) : (Intent.begin b).Calm := by
  refine ⟨trivial, ?_⟩
  rintro - rfl
  trivial

theorem calm_finish (b : CommandBuffer) : (Intent.finish b).Calm := by
  refine ⟨trivial, ?_⟩
  rintro - rfl
  trivial

theorem calm_record (b : CommandBuffer) (c : Command) : (Intent.record b c).Calm := by
  refine ⟨trivial, ?_⟩
  intro e hFails
  exact hFails.elim

theorem calm_submit (b : CommandBuffer) : (Intent.submit b [] []).Calm := by
  refine ⟨⟨rfl, rfl⟩, ?_⟩
  rintro - (rfl | rfl)
  · trivial
  · trivial

theorem calm_wait : Intent.wait.Calm := by
  refine ⟨trivial, ?_⟩
  rintro - (rfl | rfl)
  · trivial
  · trivial

end Plans

end RenderLoop
