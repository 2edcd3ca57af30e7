import Mathlib.Algebra.Order.BigOperators.Group.List
import Mathlib.Algebra.Order.Ring.Nat
import RenderLoop.Descriptor.Budget
import RenderLoop.Proofs.Descriptor.SetLayout
import RenderLoop.Proofs.SortedMap

/-!
# RenderLoop — what a descriptor budget holds

Counting descriptors in 32-bit words, kind by kind, gives the numbers of descriptors of
the bindings that were counted, as long as these fit (`Counts`).

A budget **holds** some bindings if what is left of each kind is exactly what they take
(`DescriptorBudget.Holds`). It does so for the programs that it was computed for
(`holds_of_programs`). Reserving takes the bindings of the layouts out and leaves a budget
that holds the others (`Holds.reserve`), so that one request after the other can be made
until nothing is left (`Holds.reserveEach`). In which order does not matter: what a budget
holds is a matter of permutations (`Holds.perm`).
-/

namespace RenderLoop

-- ---------------------------------------------------------------------------
-- Numbers of descriptors
-- ---------------------------------------------------------------------------

/-- The number of descriptors that bindings take. -/
def descriptors (bs : List UniformBinding) : Nat := (bs.map (·.count.toNat)).sum

/-- The number of descriptors of a kind that bindings take. -/
def descriptorsOf (kind : DescriptorKind) (bs : List UniformBinding) : Nat :=
  descriptors (bs.filter fun b => b.kind == kind)

section Numbers

variable {bs bs' : List UniformBinding} {kind : DescriptorKind}

@[simp] theorem descriptors_append : descriptors (bs ++ bs') = descriptors bs + descriptors bs' := by
  simp [descriptors]

@[simp] theorem descriptorsOf_append :
    descriptorsOf kind (bs ++ bs') = descriptorsOf kind bs + descriptorsOf kind bs' := by
  simp [descriptorsOf]

theorem descriptorsOf_single (b : UniformBinding) :
    descriptorsOf kind [b] = if b.kind = kind then b.count.toNat else 0 := by
  by_cases hKind : b.kind = kind <;> simp [descriptorsOf, descriptors, hKind]

/-- The order of the bindings does not matter. -/
theorem descriptorsOf_perm (hPerm : bs.Perm bs') : descriptorsOf kind bs = descriptorsOf kind bs' :=
  ((hPerm.filter _).map _).sum_eq

theorem descriptors_flatMap {α : Type} (f : α → List UniformBinding) (xs : List α) :
    descriptors (xs.flatMap f) = (xs.map fun x => descriptors (f x)).sum := by
  induction xs with
  | nil => rfl
  | cons x rest ih =>
    rw [List.flatMap_cons, descriptors_append, ih, List.map_cons, List.sum_cons]

theorem descriptorsOf_le : descriptorsOf kind bs ≤ descriptors bs := by
  rw [descriptorsOf, descriptors, descriptors]
  exact (List.filter_sublist.map _).sum_le_sum fun _ _ => Nat.zero_le _

end Numbers

-- ---------------------------------------------------------------------------
-- Counting
-- ---------------------------------------------------------------------------

/-- A map has the number of descriptors of each kind. -/
structure Counts (counts : SortedMap DescriptorKind UInt32) (bs : List UniformBinding) : Prop where
  kind : ∀ kind, ((counts.get? kind).getD 0).toNat = descriptorsOf kind bs
  total : (counts.values.map (·.toNat)).sum = descriptors bs

namespace Counts

variable {counts : SortedMap DescriptorKind UInt32} {bs bs' : List UniformBinding}

/-- No bindings have no counts. -/
theorem empty : Counts {} [] where
  kind _ := rfl
  total := rfl

/-- One more binding is counted, if the number of its kind fits. -/
theorem add (h : Counts counts bs) (b : UniformBinding)
    (hFits : descriptorsOf b.kind bs + b.count.toNat < UInt32.size) :
    ∃ counts', addCount counts b.kind b.count = some counts' ∧ Counts counts' (bs ++ [b]) := by
  have hBefore := h.kind b.kind
  obtain ⟨n, hn⟩ : ∃ n, Checked.add32 ((counts.get? b.kind).getD 0) b.count = some n :=
    ⟨_, if_pos (by rw [hBefore]; exact hFits)⟩
  have hNumber := Checked.add32_eq_some_iff.mp hn
  rw [hBefore] at hNumber
  refine ⟨counts.insert b.kind n, by rw [addCount, hn]; rfl, fun kind => ?_, ?_⟩
  · rw [SortedMap.get?_insert, descriptorsOf_append, descriptorsOf_single]
    -- the binding's own kind grows by its count, the others stay
    by_cases hKind : b.kind = kind
    · subst hKind
      rw [if_pos Std.compare_self, if_pos rfl, Option.getD_some, hNumber]
    · have hNe : compare kind b.kind ≠ .eq := fun hEq =>
        hKind (Std.LawfulEqOrd.eq_of_compare hEq).symm
      rw [if_neg hNe, if_neg hKind, h.kind kind, Nat.add_zero]
  · -- the counts' total grows by what the entry of that kind grows by
    have hSum := counts.sum_values_insert (·.toNat) b.kind n
    have hOld : ((counts.get? b.kind).map (·.toNat)).getD 0 = descriptorsOf b.kind bs := by
      rw [← hBefore]
      cases counts.get? b.kind <;> rfl
    have hOne : descriptors [b] = b.count.toNat := by simp [descriptors]
    rw [hOld, h.total, hNumber] at hSum
    rw [descriptors_append, hOne]
    omega

/-- More bindings are counted, if the number of each kind fits. -/
theorem more (h : Counts counts bs) (bs' : List UniformBinding)
    (hFits : ∀ kind, descriptorsOf kind (bs ++ bs') < UInt32.size) :
    ∃ counts', countBindings counts bs' = some counts' ∧ Counts counts' (bs ++ bs') := by
  induction bs' generalizing counts bs with
  | nil => exact ⟨counts, rfl, by rwa [List.append_nil]⟩
  | cons b rest ih =>
    rw [List.append_cons] at hFits ⊢
    have hFirst : descriptorsOf b.kind bs + b.count.toNat < UInt32.size := by
      refine Nat.lt_of_le_of_lt ?_ (hFits b.kind)
      rw [descriptorsOf_append, descriptorsOf_append, descriptorsOf_single, if_pos rfl]
      exact Nat.le_add_right _ _
    obtain ⟨counts₁, hAdd, hCounts₁⟩ := h.add b hFirst
    obtain ⟨counts₂, hMore, hCounts₂⟩ := ih hCounts₁ hFits
    refine ⟨counts₂, ?_, hCounts₂⟩
    rw [countBindings, List.foldlM_cons, hAdd]
    exact hMore

end Counts

/-- Counting list by list is counting all of them. -/
theorem foldlM_countBindings {α : Type} (f : α → List UniformBinding) (xs : List α)
    (counts : SortedMap DescriptorKind UInt32) :
    xs.foldlM (fun c x => countBindings c (f x)) counts = countBindings counts (xs.flatMap f) := by
  induction xs generalizing counts with
  | nil => rfl
  | cons x rest ih =>
    rw [List.foldlM_cons, List.flatMap_cons, countBindings, countBindings, List.foldlM_append]
    exact congrArg _ (funext ih)

/-- Words are summed up, if the sum fits. -/
theorem foldlM_add32 (ns : List UInt32) (n : UInt32)
    (hFits : n.toNat + (ns.map (·.toNat)).sum < UInt32.size) :
    ∃ m, ns.foldlM Checked.add32 n = some m ∧ m.toNat = n.toNat + (ns.map (·.toNat)).sum := by
  induction ns generalizing n with
  | nil => exact ⟨n, rfl, rfl⟩
  | cons k rest ih =>
    rw [List.map_cons, List.sum_cons] at hFits ⊢
    obtain ⟨m, hm⟩ : ∃ m, Checked.add32 n k = some m := ⟨_, if_pos (by omega)⟩
    have hSum := Checked.add32_eq_some_iff.mp hm
    obtain ⟨m', hm', hSum'⟩ := ih m (by omega)
    refine ⟨m', ?_, by omega⟩
    rw [List.foldlM_cons, hm]
    exact hm'

-- ---------------------------------------------------------------------------
-- Budgets
-- ---------------------------------------------------------------------------

namespace DescriptorBudget

/-- A budget has the descriptors of some bindings and no more, and sets to spare. -/
structure Holds (b : DescriptorBudget) (sets : Nat) (bs : List UniformBinding) : Prop where
  sets : sets ≤ b.remainingSets.toNat
  kind : ∀ kind, (b.remaining kind).toNat = descriptorsOf kind bs

theorem Holds.perm {b : DescriptorBudget} {sets : Nat} {bs bs' : List UniformBinding}
    (h : b.Holds sets bs) (hPerm : bs.Perm bs') : b.Holds sets bs' :=
  ⟨h.sets, fun kind => (h.kind kind).trans (descriptorsOf_perm hPerm)⟩

/-- Nothing is left of a budget that holds no bindings. -/
theorem Holds.remaining_eq_zero {b : DescriptorBudget} {sets : Nat} (h : b.Holds sets [])
    (kind : DescriptorKind) : b.remaining kind = 0 :=
  UInt32.toNat_inj.mp (h.kind kind)

/-- The budget of a new pool holds the programs that its sizes were computed for. -/
theorem holds_of_programs (programs : List (UniformTable × Nat))
    (hDescriptors : descriptors (programs.flatMap fun p => p.1.bindings) < UInt32.size)
    (hSets : (programs.map (·.2)).sum < UInt32.size) :
    ∃ sizes, PoolSizes.ofPrograms programs = some sizes ∧
      (ofSizes sizes).Holds (programs.map (·.2)).sum
        (programs.flatMap fun p => p.1.bindings) := by
  obtain ⟨counts, hCount, hCounts⟩ :=
    Counts.empty.more (programs.flatMap fun p => p.1.bindings)
      fun kind => Nat.lt_of_le_of_lt descriptorsOf_le (by rwa [List.nil_append])
  rw [List.nil_append] at hCounts
  -- each layout count is small enough to be read back from its word
  have hWords : (programs.map fun p => UInt32.ofNat p.2).map (·.toNat) = programs.map (·.2) := by
    rw [List.map_map]
    refine List.map_congr_left fun p hp => UInt32.toNat_ofNat_of_lt' ?_
    exact Nat.lt_of_le_of_lt (List.le_sum_of_mem (List.mem_map_of_mem hp)) hSets
  obtain ⟨layouts, hLayouts, hLayoutSum⟩ :=
    foldlM_add32 (programs.map fun p => UInt32.ofNat p.2) 0
      (by rw [hWords]; simpa using hSets)
  obtain ⟨total, hTotal, -⟩ := foldlM_add32 counts.values 0
    (by rw [hCounts.total]; simpa using hDescriptors)
  refine ⟨⟨counts, max total layouts⟩, ?_, ?_, fun kind => ?_⟩
  · rw [List.foldlM_map] at hLayouts
    rw [PoolSizes.ofPrograms, foldlM_countBindings, hCount, Option.bind_eq_bind, Option.bind_some]
    simp only [hLayouts, hTotal, Option.bind_eq_bind, Option.bind_some]
    rfl
  · rw [hWords] at hLayoutSum
    -- the pool has at least a set for every layout
    have hLe : layouts ≤ max total layouts := by
      rw [show max total layouts = if total ≤ layouts then layouts else total from rfl]
      split
      · exact UInt32.le_refl _
      · exact (UInt32.le_total _ _).resolve_left ‹_›
    refine Nat.le_trans (Nat.le_of_eq ?_) (UInt32.le_iff_toNat_le.mp hLe)
    rw [hLayoutSum]
    exact (Nat.zero_add _).symm
  · rw [remaining, ofSizes, SortedMap.lookup_entries]
    exact hCounts.kind kind

-- ---------------------------------------------------------------------------
-- Requests
-- ---------------------------------------------------------------------------

theorem lookup_map {α β γ : Type} [BEq α] [LawfulBEq α] (f : α → β → γ) (entries : List (α × β))
    (a : α) : (entries.map fun e => (e.1, f e.1 e.2)).lookup a = (entries.lookup a).map (f a) := by
  induction entries with
  | nil => rfl
  | cons e rest ih =>
    rw [List.map_cons, List.lookup_cons, List.lookup_cons, ih]
    by_cases hKey : a = e.1
    · simp [hKey]
    · rw [beq_false_of_ne hKey]

/-- The number of descriptors of a kind that layouts take. -/
def demand (kind : DescriptorKind) (layouts : List SetLayout) : Nat :=
  descriptorsOf kind (layouts.flatMap (·.bindings))

/-- The number of layouts, and that of the descriptors of each kind, fits in 32 bits. -/
structure InWords (layouts : List SetLayout) : Prop where
  sets : layouts.length < UInt32.size
  kind : ∀ kind, demand kind layouts < UInt32.size

/-- There is a set for each layout, and there are all descriptors that they take. -/
structure Affords (b : DescriptorBudget) (layouts : List SetLayout) : Prop where
  sets : layouts.length ≤ b.remainingSets.toNat
  kind : ∀ kind, demand kind layouts ≤ (b.remaining kind).toNat

/-- What is left when layouts have taken their sets and descriptors. -/
def after (b : DescriptorBudget) (layouts : List SetLayout) : DescriptorBudget where
  remainingSets := b.remainingSets - UInt32.ofNat layouts.length
  remainingCounts := b.remainingCounts.map fun (kind, n) =>
    (kind, n - UInt32.ofNat (demand kind layouts))

variable {b b' : DescriptorBudget} {layouts : List SetLayout}
  {counts : SortedMap DescriptorKind UInt32}

/-- Whatever can be afforded can be counted. -/
theorem Affords.inWords (h : b.Affords layouts) : InWords layouts where
  sets := Nat.lt_of_le_of_lt h.sets b.remainingSets.toNat_lt_size
  kind kind := Nat.lt_of_le_of_lt (h.kind kind) (b.remaining kind).toNat_lt_size

theorem InWords.exists_counts (h : InWords layouts) : ∃ counts, needed layouts = some counts ∧
    Counts counts (layouts.flatMap (·.bindings)) := by
  obtain ⟨counts, hCount, hCounts⟩ :=
    Counts.empty.more (layouts.flatMap (·.bindings)) fun kind => by
      rw [List.nil_append]
      exact h.kind kind
  rw [List.nil_append] at hCounts
  exact ⟨counts, (foldlM_countBindings _ layouts {}).trans hCount, hCounts⟩

/-- What is left and what was taken is what there was. -/
theorem Affords.remaining_after (h : b.Affords layouts) (kind : DescriptorKind) :
    ((b.after layouts).remaining kind).toNat + demand kind layouts = (b.remaining kind).toNat := by
  have hLe := h.kind kind
  rw [remaining, after, lookup_map fun kind n => n - UInt32.ofNat (demand kind layouts)]
  rw [remaining] at hLe ⊢
  cases hLeft : b.remainingCounts.lookup kind with
  | some n =>
    rw [hLeft, Option.getD_some] at hLe
    have hWord : (UInt32.ofNat (demand kind layouts)).toNat = demand kind layouts :=
      UInt32.toNat_ofNat_of_lt' (h.inWords.kind kind)
    have hWordLe : UInt32.ofNat (demand kind layouts) ≤ n := by
      rw [UInt32.le_iff_toNat_le, hWord]
      exact hLe
    rw [Option.map_some, Option.getD_some, Option.getD_some, UInt32.toNat_sub_of_le _ _ hWordLe, hWord]
    exact Nat.sub_add_cancel hLe
  | none =>
    -- of a kind that the pool does not have, none is taken
    rw [hLeft] at hLe
    exact (Nat.zero_add _).trans (Nat.le_zero.mp hLe)

theorem Affords.remainingSets_after (h : b.Affords layouts) :
    (b.after layouts).remainingSets.toNat + layouts.length = b.remainingSets.toNat := by
  have hWord : (UInt32.ofNat layouts.length).toNat = layouts.length :=
    UInt32.toNat_ofNat_of_lt' h.inWords.sets
  have hLe : UInt32.ofNat layouts.length ≤ b.remainingSets := by
    rw [UInt32.le_iff_toNat_le, hWord]
    exact h.sets
  rw [after, UInt32.toNat_sub_of_le _ _ hLe, hWord]
  exact Nat.sub_add_cancel h.sets

theorem spend_eq_after (h : Counts counts (layouts.flatMap (·.bindings))) :
    b.spend (UInt32.ofNat layouts.length) counts = b.after layouts := by
  have hWord : ∀ kind, (counts.get? kind).getD 0 = UInt32.ofNat (demand kind layouts) := by
    intro kind
    rw [demand, ← h.kind kind, UInt32.ofNat_toNat]
  simp only [spend, after, hWord]

/-- A request is short of nothing if no more of any kind is needed than is left. -/
theorem firstShortage?_eq_none_iff :
    b.firstShortage? counts = none ↔ ∀ kind, (counts.get? kind).getD 0 ≤ b.remaining kind := by
  rw [firstShortage?, List.findSome?_eq_none_iff]
  constructor
  · intro hNone kind
    cases hGet : counts.get? kind with
    | none => exact UInt32.zero_le
    | some n =>
      -- a kind that is asked for has an entry, which is no shortage
      have hEntry := hNone (kind, n) ((counts.mem_entries_iff kind n).mpr hGet)
      dsimp only at hEntry
      split at hEntry
      · cases hEntry
      · rename_i hLe
        exact UInt32.not_lt.mp hLe
  · rintro hEnough ⟨kind, n⟩ hEntry
    have hLe := hEnough kind
    rw [(counts.mem_entries_iff kind n).mp hEntry, Option.getD_some] at hLe
    exact if_neg (UInt32.not_lt.mpr hLe)

/-- Layouts that a budget affords are reserved. -/
theorem Affords.reserve_eq (h : b.Affords layouts) :
    b.reserve layouts = some (.ok (b.after layouts)) := by
  obtain ⟨counts, hNeeded, hCounts⟩ := h.inWords.exists_counts
  have hSets : ¬ UInt32.ofNat layouts.length > b.remainingSets := by
    rw [gt_iff_lt, UInt32.lt_iff_toNat_lt, UInt32.toNat_ofNat_of_lt' h.inWords.sets]
    exact Nat.not_lt.mpr h.sets
  have hEnough : b.firstShortage? counts = none := by
    refine firstShortage?_eq_none_iff.mpr fun kind => ?_
    rw [UInt32.le_iff_toNat_le, hCounts.kind kind]
    exact h.kind kind
  rw [reserve]
  simp only [hSets, if_false, hNeeded, hEnough, Option.bind_eq_bind, Option.bind_some,
    spend_eq_after hCounts]
  rfl

/-- Layouts whose bindings are held are reserved, and the other bindings are still held. -/
theorem Holds.reserve {sets : Nat} {rest : List UniformBinding}
    (h : b.Holds (layouts.length + sets) (layouts.flatMap (·.bindings) ++ rest)) :
    ∃ b', b.reserve layouts = some (.ok b') ∧ b'.Holds sets rest := by
  have hLeft : ∀ kind, (b.remaining kind).toNat = demand kind layouts + descriptorsOf kind rest :=
    fun kind => (h.kind kind).trans descriptorsOf_append
  have hAffords : b.Affords layouts :=
    ⟨Nat.le_trans (Nat.le_add_right _ _) h.sets, fun kind => hLeft kind ▸ Nat.le_add_right _ _⟩
  refine ⟨_, hAffords.reserve_eq, ?_, fun kind => ?_⟩
  · have hSets := h.sets
    have hTaken := hAffords.remainingSets_after
    omega
  · have hTaken := hAffords.remaining_after kind
    rw [hLeft kind] at hTaken
    omega

/-- One request after the other: the budget after all of them, or why one does not fit. -/
def reserveEach (b : DescriptorBudget) :
    List (List SetLayout) → Option (Except PoolShortage DescriptorBudget)
  | [] => some (.ok b)
  | layouts :: rest =>
    match b.reserve layouts with
    | some (.ok b') => b'.reserveEach rest
    | refused => refused

/-- A pool that holds all the requests serves them one after another, and holds the rest. -/
theorem Holds.reserveEach {sets : Nat} {requests : List (List SetLayout)}
    {rest : List UniformBinding} (h : b.Holds ((requests.map List.length).sum + sets)
      ((requests.flatMap fun layouts => layouts.flatMap (·.bindings)) ++ rest)) :
    ∃ b', b.reserveEach requests = some (.ok b') ∧ b'.Holds sets rest := by
  induction requests generalizing b with
  | nil => exact ⟨b, rfl, by simpa using h⟩
  | cons layouts others ih =>
    rw [List.map_cons, List.sum_cons, List.flatMap_cons, Nat.add_assoc, List.append_assoc] at h
    obtain ⟨b₁, hFirst, hHolds⟩ := h.reserve
    obtain ⟨b₂, hOthers, hRest⟩ := ih hHolds
    refine ⟨b₂, ?_, hRest⟩
    rw [DescriptorBudget.reserveEach, hFirst]
    exact hOthers

end DescriptorBudget

-- ---------------------------------------------------------------------------
-- The layouts of a program
-- ---------------------------------------------------------------------------

namespace UniformTable

variable {t : UniformTable}

/-- Going through the sets up to some number finds each binding in one of them once. -/
theorem perm_flatMap_inSet (t : UniformTable) (n : Nat) :
    ((List.range n).flatMap t.inSet).Perm (t.bindings.filter fun b => b.slot.set.toNat < n) := by
  induction n with
  | zero => simp
  | succ n ih =>
    -- the bindings below the next set are those below this one and those in it
    let below := t.bindings.filter fun b => b.slot.set.toNat < n + 1
    have hBefore : below.filter (fun b => b.slot.set.toNat < n) =
        t.bindings.filter fun b => b.slot.set.toNat < n := by
      rw [List.filter_filter]
      refine List.filter_congr fun b _ => ?_
      rw [← Bool.decide_and]
      exact decide_eq_decide.mpr ⟨And.left, fun h => ⟨h, by omega⟩⟩
    have hLast : below.filter (fun b => !decide (b.slot.set.toNat < n)) = t.inSet n := by
      rw [List.filter_filter, inSet]
      refine List.filter_congr fun b _ => ?_
      rw [← decide_not, ← Bool.decide_and, beq_eq_decide]
      exact decide_eq_decide.mpr ⟨fun h => by omega, fun h => ⟨by omega, by omega⟩⟩
    rw [List.range_succ, List.flatMap_append, List.flatMap_singleton]
    refine (ih.append_right _).trans ?_
    rw [← hBefore, ← hLast]
    exact List.filter_append_perm _ _

/-- The layouts of a table have its bindings, each in one of them. -/
theorem perm_flatMap_layouts {policy : SparseSetPolicy} {layouts : List SetLayout}
    (h : setLayouts t policy = .ok layouts) : (layouts.flatMap (·.bindings)).Perm t.bindings := by
  have hAll : t.bindings.filter (fun b => b.slot.set.toNat < t.setCount) = t.bindings :=
    List.filter_eq_self.mpr fun b hb => decide_eq_true (lt_setCount_of_uses ⟨b, hb, rfl⟩)
  rw [setLayouts_of_ok h, List.flatMap_map]
  refine List.Perm.trans ?_ (hAll ▸ t.perm_flatMap_inSet t.setCount)
  exact List.Perm.flatMap_left _ fun set _ => t.perm_layoutOf set

end UniformTable

end RenderLoop
