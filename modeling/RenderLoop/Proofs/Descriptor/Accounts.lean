import Mathlib.Data.UInt
import RenderLoop.Proofs.Descriptor.Budget
import RenderLoop.Proofs.Op.Ensures

/-!
# RenderLoop — the accounts of a descriptor budget

A budget **affords** some layouts if it has a set for each of them and, of every kind, as
many descriptors as they all take together (`DescriptorBudget.Affords`). That is the exact
condition for a request, and what is left afterwards is a matter of the numbers alone
(`reserve_eq_ok_iff`). So two requests in a row are one request for all layouts
(`reserve_append_iff`), and their order does not matter (`reserve_perm`).

A request that does not fit takes nothing, so the books are balanced at any time: what
there was at first is what is left and what was granted (`accounts_of_requests`).
-/

namespace RenderLoop

-- ---------------------------------------------------------------------------
-- Counting in any order
-- ---------------------------------------------------------------------------

theorem Checked.add32_right_comm (a b c : UInt32) :
    (add32 a b).bind (add32 · c) = (add32 a c).bind (add32 · b) := by
  -- both have an answer if the sum of all three fits
  have hSum : ∀ b c w : UInt32, (add32 a b).bind (add32 · c) = some w ↔
      w.toNat = a.toNat + b.toNat + c.toNat := by
    intro b c w
    simp only [Option.bind_eq_some_iff, add32_eq_some_iff]
    constructor
    · rintro ⟨s, hs, hw⟩
      omega
    · intro hw
      have hFits : a.toNat + b.toNat < UInt32.size := by
        have hLess := w.toNat_lt_size
        omega
      refine ⟨UInt32.ofNat (a.toNat + b.toNat), ?_, ?_⟩ <;>
        rw [UInt32.toNat_ofNat_of_lt' hFits]
      exact hw
  refine Option.ext fun w => ?_
  rw [hSum, hSum, Nat.add_right_comm]

section Counting

variable {counts : SortedMap DescriptorKind UInt32} {bs bs' : List UniformBinding}

/-- Counting descriptors of one kind twice is counting their sum. -/
theorem addCount_addCount (counts : SortedMap DescriptorKind UInt32) (kind : DescriptorKind)
    (n n' : UInt32) :
    (addCount counts kind n).bind (addCount · kind n') =
      ((Checked.add32 ((counts.get? kind).getD 0) n).bind (Checked.add32 · n')).map
        (counts.insert kind) := by
  simp only [addCount]
  rw [Option.bind_map, Option.map_bind]
  refine congrArg _ (funext fun s => ?_)
  rw [Function.comp_apply, SortedMap.get?_insert, if_pos Std.compare_self, Option.getD_some]
  exact congrArg (Option.map · _) (funext fun s' => SortedMap.insert_insert counts kind s s')

/-- Which of two bindings is counted first does not matter. -/
theorem addCount_comm (counts : SortedMap DescriptorKind UInt32) (kind kind' : DescriptorKind)
    (n n' : UInt32) :
    (addCount counts kind n).bind (addCount · kind' n') =
      (addCount counts kind' n').bind (addCount · kind n) := by
  by_cases hKind : kind = kind'
  · subst hKind
    rw [addCount_addCount, addCount_addCount, Checked.add32_right_comm]
  · -- the count of the one kind is not touched by the other
    have hApart : ∀ {k k' : DescriptorKind} (s : UInt32), k ≠ k' →
        (counts.insert k s).get? k' = counts.get? k' := by
      intro k k' s hNe
      rw [SortedMap.get?_insert, if_neg fun hEq => hNe (Std.LawfulEqOrd.eq_of_compare hEq).symm]
    simp only [addCount, Option.bind_map, Function.comp_def, hApart _ hKind,
      hApart _ (Ne.symm hKind)]
    cases Checked.add32 ((counts.get? kind).getD 0) n with
    | none => cases Checked.add32 ((counts.get? kind').getD 0) n' <;> rfl
    | some s =>
      cases Checked.add32 ((counts.get? kind').getD 0) n' with
      | none => rfl
      | some s' => exact congrArg some (SortedMap.insert_comm counts hKind s s')

/-- Bindings are counted alike in any order. -/
theorem countBindings_perm (hPerm : bs.Perm bs') (counts : SortedMap DescriptorKind UInt32) :
    countBindings counts bs = countBindings counts bs' := by
  induction hPerm generalizing counts with
  | nil => rfl
  | cons b _ ih =>
    rw [countBindings, countBindings, List.foldlM_cons, List.foldlM_cons]
    exact congrArg _ (funext ih)
  | swap b b' bs =>
    simp only [countBindings, List.foldlM_cons, Option.bind_eq_bind, ← Option.bind_assoc]
    rw [addCount_comm]
  | trans _ _ ih ih' => exact (ih counts).trans (ih' counts)

end Counting

-- ---------------------------------------------------------------------------
-- One request
-- ---------------------------------------------------------------------------

namespace DescriptorBudget

variable {b b' : DescriptorBudget} {layouts layouts' first second : List SetLayout}
  {kind : DescriptorKind}

@[simp] theorem demand_append :
    demand kind (first ++ second) = demand kind first + demand kind second := by
  rw [demand, List.flatMap_append, descriptorsOf_append]
  rfl

/-- Other layouts are refused. -/
theorem exists_shortage (hWords : InWords layouts) (h : ¬ b.Affords layouts) :
    ∃ shortage, b.reserve layouts = some (.error shortage) := by
  obtain ⟨counts, hNeeded, hCounts⟩ := hWords.exists_counts
  rw [reserve]
  split
  · exact ⟨_, rfl⟩
  · rename_i hSets
    rw [gt_iff_lt, UInt32.lt_iff_toNat_lt, UInt32.toNat_ofNat_of_lt' hWords.sets] at hSets
    simp only [hNeeded, Option.bind_eq_bind, Option.bind_some]
    cases hShort : b.firstShortage? counts with
    | some shortage => exact ⟨shortage, rfl⟩
    | none =>
      refine absurd ⟨Nat.not_lt.mp hSets, fun kind => ?_⟩ h
      rw [demand, ← hCounts.kind kind]
      exact UInt32.le_iff_toNat_le.mp (firstShortage?_eq_none_iff.mp hShort kind)

/-- A request is granted if it can be afforded, and takes what the layouts take. -/
theorem reserve_eq_ok_iff (hWords : InWords layouts) :
    b.reserve layouts = some (.ok b') ↔ b.Affords layouts ∧ b' = b.after layouts := by
  by_cases h : b.Affords layouts
  · rw [h.reserve_eq, Option.some.injEq, Except.ok.injEq, and_iff_right h]
    exact eq_comm
  · obtain ⟨shortage, hRefused⟩ := exists_shortage hWords h
    rw [hRefused]
    exact iff_of_false (by rintro ⟨⟩) fun hBoth => h hBoth.1

-- ---------------------------------------------------------------------------
-- Two requests
-- ---------------------------------------------------------------------------

/-- All layouts together are afforded if the second ones still are after the first ones. -/
theorem affords_append :
    b.Affords (first ++ second) ↔ b.Affords first ∧ (b.after first).Affords second := by
  constructor
  · intro h
    -- the first part asks for no more than both
    have hFirst : b.Affords first := by
      refine ⟨?_, fun kind => ?_⟩
      · exact Nat.le_trans (by simp) h.sets
      · exact Nat.le_trans (by simp) (h.kind kind)
    refine ⟨hFirst, ?_, fun kind => ?_⟩
    · have hAll := h.sets
      have hLeft := hFirst.remainingSets_after
      rw [List.length_append] at hAll
      omega
    · have hAll := h.kind kind
      -- what the first takes and what it leaves make up the whole
      have hLeft := hFirst.remaining_after kind
      rw [demand_append] at hAll
      omega
  · rintro ⟨hFirst, hSecond⟩
    refine ⟨?_, fun kind => ?_⟩
    · have hLeft := hFirst.remainingSets_after
      have hRest := hSecond.sets
      rw [List.length_append]
      omega
    · have hLeft := hFirst.remaining_after kind
      have hRest := hSecond.kind kind
      rw [demand_append]
      omega

open UInt32.CommRing in
/-- What is left does not depend on where a request is divided. -/
theorem after_append : b.after (first ++ second) = (b.after first).after second := by
  simp only [after, List.length_append, demand_append, UInt32.ofNat_add, List.map_map, sub_sub,
    Function.comp_def]

theorem InWords.of_append (h : InWords (first ++ second)) : InWords first ∧ InWords second := by
  have hSets := h.sets
  rw [List.length_append] at hSets
  refine ⟨⟨by omega, fun kind => ?_⟩, by omega, fun kind => ?_⟩ <;>
  · have hKind := h.kind kind
    rw [demand_append] at hKind
    omega

/-- **One request is as good as two**, and both ways leave the same budget. -/
theorem reserve_append_iff (hWords : InWords (first ++ second)) :
    b.reserve (first ++ second) = some (.ok b') ↔
      ∃ between, b.reserve first = some (.ok between) ∧ between.reserve second = some (.ok b') := by
  obtain ⟨hFirst, hSecond⟩ := hWords.of_append
  simp only [reserve_eq_ok_iff hWords, reserve_eq_ok_iff hFirst, reserve_eq_ok_iff hSecond,
    affords_append, after_append]
  constructor
  · rintro ⟨⟨hNow, hThen⟩, hLeft⟩
    exact ⟨_, ⟨hNow, rfl⟩, hThen, hLeft⟩
  · rintro ⟨_, ⟨hNow, rfl⟩, hThen, hLeft⟩
    exact ⟨⟨hNow, hThen⟩, hLeft⟩

/-- The layouts of a request may come in any order. -/
theorem reserve_perm (hPerm : layouts.Perm layouts') : b.reserve layouts = b.reserve layouts' := by
  have hNeeded : needed layouts = needed layouts' := by
    rw [needed, needed, foldlM_countBindings, foldlM_countBindings]
    exact countBindings_perm (hPerm.flatMap_right _) {}
  rw [reserve, reserve, hPerm.length_eq, hNeeded]

-- ---------------------------------------------------------------------------
-- Any number of requests
-- ---------------------------------------------------------------------------

section Requests

variable {τ : Type} [Logging τ]

/-- What a request makes of the budget of a world. -/
theorem start_request (layouts : List SetLayout) (b : DescriptorBudget) (w : τ) :
    Op.start (request layouts) (b, w) = (b.reserve layouts).map fun outcome =>
      match outcome with
      | .ok b' => (.ok (), b', w)
      | .error shortage => (.error shortage.failure, b, Logging.push shortage.entry w) := by
  rw [request, Op.start_bind_of_ok (Op.start_get _)]
  rcases b.reserve layouts with _ | _ | _ <;> rfl

/-- Makes requests in order, also after one that failed, and returns those that were granted. -/
def requestEach : List (List SetLayout) → Op (DescriptorBudget × τ) (List (List SetLayout))
  | [] => pure []
  | layouts :: rest => do
    match ← (request layouts).attempt with
    | .ok () => return layouts :: (← requestEach rest)
    | .error _ => requestEach rest

/-- Some requests were granted, and took what is not left. -/
structure Accounts (b : DescriptorBudget) (granted : List (List SetLayout)) (b' : DescriptorBudget) :
    Prop where
  sets : b.remainingSets.toNat = b'.remainingSets.toNat + (granted.map List.length).sum
  kind : ∀ kind, (b.remaining kind).toNat =
    (b'.remaining kind).toNat + (granted.map (demand kind)).sum

/-- A request that is granted first is accounted for with the others. -/
theorem Accounts.cons {granted : List (List SetLayout)} (hAffords : b.Affords layouts)
    (h : Accounts (b.after layouts) granted b') : Accounts b (layouts :: granted) b' := by
  refine ⟨?_, fun kind => ?_⟩
  · have hLeft := hAffords.remainingSets_after
    have hRest := h.sets
    rw [List.map_cons, List.sum_cons]
    omega
  · have hLeft := hAffords.remaining_after kind
    have hRest := h.kind kind
    rw [List.map_cons, List.sum_cons]
    omega

/-- A run of requests balances its books, whichever of them fail. -/
theorem exists_accounts {requests : List (List SetLayout)}
    (hWords : ∀ layouts ∈ requests, InWords layouts) (b : DescriptorBudget) (w : τ) :
    ∃ granted b' w', Op.start (requestEach requests) (b, w) = some (.ok granted, b', w') ∧
      granted.Sublist requests ∧ Accounts b granted b' := by
  induction requests generalizing b w with
  | nil => exact ⟨[], b, w, rfl, .slnil, rfl, fun _ => rfl⟩
  | cons layouts rest ih =>
    obtain ⟨hFirst, hRest⟩ := List.forall_mem_cons.mp hWords
    simp only [requestEach, Op.start_bind, Op.start_attempt, start_request]
    by_cases hAffords : b.Affords layouts
    · -- granted: the budget goes on with what is left
      obtain ⟨granted, b', w', hRun, hSublist, hAccounts⟩ := ih hRest (b.after layouts) w
      refine ⟨layouts :: granted, b', w', ?_, hSublist.cons_cons layouts, hAccounts.cons hAffords⟩
      rw [hAffords.reserve_eq]
      simp only [Option.map_some, Option.bind_some, Op.start_bind, hRun, Op.start_pure]
    · -- refused: only the log has grown
      obtain ⟨shortage, hRefused⟩ := exists_shortage hFirst hAffords
      obtain ⟨granted, b', w', hRun, hSublist, hAccounts⟩ :=
        ih hRest b (Logging.push shortage.entry w)
      refine ⟨granted, b', w', ?_, hSublist.cons layouts, hAccounts⟩
      rw [hRefused]
      exact hRun

/-- **The books of a budget are balanced.** A request that can be counted in 32 bits has an outcome,
and it is granted if the budget affords all its layouts. A request for two lists of layouts is
granted if requests for the one and then for the other are, and both ways leave the same budget. The
order of the layouts matters neither for the outcome nor for the budget. A request that fails leaves
the budget as it was. So after any requests, of which some may have failed, there were as many sets at
first as are left and were granted, and as many descriptors of each kind. -/
theorem accounts_of_requests (b : DescriptorBudget) :
    (∀ layouts, InWords layouts → ∃ outcome, b.reserve layouts = some outcome ∧
      ((∃ b', outcome = .ok b') ↔ b.Affords layouts)) ∧
    (∀ first second, InWords (first ++ second) → ∀ b',
      b.reserve (first ++ second) = some (.ok b') ↔
        ∃ between, b.reserve first = some (.ok between) ∧
          between.reserve second = some (.ok b')) ∧
    (∀ layouts layouts', layouts.Perm layouts' → b.reserve layouts = b.reserve layouts') ∧
    ∀ (τ : Type) [Logging τ] (w : τ),
      (∀ layouts e s, Op.start (request layouts) (b, w) = some (.error e, s) → s.1 = b) ∧
      ∀ requests, (∀ layouts ∈ requests, InWords layouts) →
        ∃ granted b' w', Op.start (requestEach requests) (b, w) = some (.ok granted, b', w') ∧
          granted.Sublist requests ∧
          b.remainingSets.toNat = b'.remainingSets.toNat + (granted.map List.length).sum ∧
          ∀ kind, (b.remaining kind).toNat =
            (b'.remaining kind).toNat + (granted.map (demand kind)).sum := by
  refine ⟨fun layouts hWords => ?_, fun first second hWords b' => reserve_append_iff hWords,
    fun layouts layouts' hPerm => reserve_perm hPerm, fun τ _ w => ⟨fun layouts e s hRun => ?_,
    fun requests hWords => ?_⟩⟩
  · by_cases h : b.Affords layouts
    · exact ⟨_, h.reserve_eq, iff_of_true ⟨_, rfl⟩ h⟩
    · obtain ⟨shortage, hRefused⟩ := exists_shortage hWords h
      exact ⟨_, hRefused, iff_of_false (by rintro ⟨_, ⟨⟩⟩) h⟩
  · rw [start_request] at hRun
    obtain ⟨outcome, -, hOutcome⟩ := Option.map_eq_some_iff.mp hRun
    cases outcome <;> cases hOutcome
    rfl
  · obtain ⟨granted, b', w', hRun, hSublist, hAccounts⟩ := exists_accounts hWords b w
    exact ⟨granted, b', w', hRun, hSublist, hAccounts.sets, hAccounts.kind⟩

/-- A layout that takes descriptors of some kinds. -/
def sampleLayout (counts : List (DescriptorKind × UInt32)) : SetLayout :=
  { (default : SetLayout) with
    bindings := counts.map fun (kind, count) => { (default : UniformBinding) with kind, count } }

/-- A budget for three sets with a sampler and four uniform blocks. Two layouts take all descriptors,
in one request or in two, in either order; between them, a request for a kind that the pool does not
have and one for the sampler again are refused. -/
theorem accounts_of_mixed_requests :
    let b : DescriptorBudget := ⟨3, [(.sampler, 1), (.uniformBufferDynamic, 4)]⟩
    let x := sampleLayout [(.uniformBufferDynamic, 2), (.sampler, 1)]
    let y := sampleLayout [(.uniformBufferDynamic, 2)]
    let z := sampleLayout [(.storageBuffer, 1)]
    let left : DescriptorBudget := ⟨1, [(.sampler, 0), (.uniformBufferDynamic, 0)]⟩
    InWords ([x] ++ [y]) ∧ b.reserve ([x] ++ [y]) = some (.ok left) ∧
      (∃ between, b.reserve [x] = some (.ok between) ∧ between.reserve [y] = some (.ok left)) ∧
      b.reserve [y, x] = some (.ok left) ∧
      (∀ layouts ∈ [[x], [z], [x], [y]], InWords layouts) ∧
      ∃ w', Op.start (requestEach [[x], [z], [x], [y]]) (b, ([] : List LogEntry)) =
          some (.ok [[x], [y]], left, w') ∧
        b.remainingSets.toNat = left.remainingSets.toNat + ([[x], [y]].map List.length).sum ∧
        ∀ kind, (b.remaining kind).toNat =
          (left.remaining kind).toNat + ([[x], [y]].map (demand kind)).sum := by
  intro b x y z left
  have hBoth : InWords ([x] ++ [y]) := ⟨by decide, fun kind => by cases kind <;> decide⟩
  have hAll : ∀ layouts ∈ [[x], [z], [x], [y]], InWords layouts := by
    have hWords : ∀ l ∈ [x, y, z], InWords [l] := by
      intro l hl
      simp only [List.mem_cons, List.not_mem_nil, or_false] at hl
      rcases hl with rfl | rfl | rfl <;> exact ⟨by decide, fun kind => by cases kind <;> decide⟩
    simp [hWords]
  obtain ⟨-, hTwo, hOrder, hRuns⟩ := accounts_of_requests b
  have hReserve : b.reserve ([x] ++ [y]) = some (.ok left) := by decide +kernel
  have hRun : (Op.start (requestEach [[x], [z], [x], [y]]) (b, ([] : List LogEntry))).map
      (fun s => (s.1.toOption, s.2.1)) = some (some [[x], [y]], left) := by decide +kernel
  -- the storage buffer and the second sampler are refused, the other two requests granted
  obtain ⟨granted, b', w', hStart, -, hSets, hKinds⟩ := (hRuns (List LogEntry) []).2 _ hAll
  rw [hStart] at hRun
  simp only [Option.map_some, Except.toOption, Option.some.injEq, Prod.mk.injEq] at hRun
  obtain ⟨rfl, rfl⟩ := hRun
  exact ⟨hBoth, hReserve, (hTwo [x] [y] hBoth left).mp hReserve,
    (hOrder _ _ (.swap x y [])).trans hReserve, hAll, w', hStart, hSets, hKinds⟩

end Requests

end DescriptorBudget

end RenderLoop
