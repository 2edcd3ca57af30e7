import Mathlib.Data.List.Induction
import RenderLoop.Descriptor.SetLayout
import RenderLoop.Proofs.SortedMap

/-!
# RenderLoop — the set layouts of a program

A table **uses** the sets that its bindings are in. If these are the sets up to some
number, there is a layout for each of them. Otherwise there is a **first gap**: of the
sets below the largest one in use, the smallest that nothing is in. Under the strict
policy it is a failure (`setLayouts_ok_iff`, `firstGap_of_setLayouts`); under the
permissive one it gets an empty layout like all other gaps.

The layouts are made in a run over the groups of bindings. At any point of it there is a
number of sets that are done (`LayoutRun.Reaches`), and the groups that remain are those of
the sets after them (`UniformTable.Remain`). A run either reaches all sets up to the largest one
in use (`LayoutRun.takeGroups_allow`), or it ends at the first gap
(`LayoutRun.takeGroups_error`). So its outcome can be written down without a run
(`setLayouts_cases`, `setLayoutEntries_cases`).

The layout of a set **lists** its bindings by ascending number, and those of one number in
the order of their names. The position of a layout is its set, so that a program is
**laid out** without loss (`laidOut_of_setLayouts`).

`setLayouts_laidOut` is all of this in one statement.
-/

namespace RenderLoop

-- ---------------------------------------------------------------------------
-- The sets in use
-- ---------------------------------------------------------------------------

namespace UniformTable

/-- The bindings of one set, in the order of their names. -/
def inSet (t : UniformTable) (set : Nat) : List UniformBinding :=
  t.bindings.filter fun b => b.slot.set.toNat == set

/-- The number of sets up to the largest one in use. -/
def setCount (t : UniformTable) : Nat :=
  t.bindings.foldl (fun n b => max n (b.slot.set.toNat + 1)) 0

/-- The layout of one set. -/
def layoutOf (t : UniformTable) (set : Nat) : SetLayout :=
  .ofBindings (UInt32.ofNat set) (t.inSet set)

/-- The sets below a number that have no binding. -/
def gapsBelow (t : UniformTable) (n : Nat) : List Nat :=
  (List.range n).filter fun set => (t.inSet set).isEmpty

/-- The sets without a binding that lie below the largest one in use. -/
def gaps (t : UniformTable) : List Nat := t.gapsBelow t.setCount

/-- The smallest one of them. -/
def firstGap? (t : UniformTable) : Option Nat := t.gaps.head?

variable {t : UniformTable} {set : Nat}

/-- A binding of the table is in the set. -/
def Uses (t : UniformTable) (set : Nat) : Prop := ∃ b ∈ t.bindings, b.slot.set.toNat = set

/-- The sets in use are those below some number. -/
def Contiguous (t : UniformTable) : Prop := ∃ n, ∀ set, t.Uses set ↔ set < n

/-- The set with the largest index of those in use. -/
structure Largest (t : UniformTable) (set : Nat) : Prop where
  uses : t.Uses set
  largest : ∀ other, t.Uses other → other ≤ set

/-- The smallest set that nothing is in, of those below the largest one in use. -/
structure FirstGap (t : UniformTable) (gap : Nat) : Prop where
  unused : ¬ t.Uses gap
  below : ∃ largest, t.Largest largest ∧ gap < largest
  first : ∀ set largest, ¬ t.Uses set → t.Largest largest → set < largest → gap ≤ set

theorem inSet_isEmpty_iff : (t.inSet set).isEmpty = true ↔ ¬ t.Uses set := by
  rw [List.isEmpty_iff, inSet, List.filter_eq_nil_iff]
  simp only [beq_iff_eq, Uses, not_exists, not_and]

theorem setCount_le_iff {n : Nat} : t.setCount ≤ n ↔ ∀ set, t.Uses set → set < n := by
  -- a fold with `max` is bounded exactly if the start and every set are
  have hFold : ∀ (bs : List UniformBinding) (m : Nat),
      bs.foldl (fun n b => max n (b.slot.set.toNat + 1)) m ≤ n ↔
        m ≤ n ∧ ∀ b ∈ bs, b.slot.set.toNat < n := by
    intro bs
    induction bs with
    | nil => simp
    | cons b rest ih =>
      intro m
      rw [List.foldl_cons, ih, List.forall_mem_cons, Nat.max_le, Nat.succ_le_iff, and_assoc]
  rw [setCount, hFold]
  simp only [Nat.zero_le, true_and, Uses]
  constructor
  · rintro hAll set ⟨b, hb, rfl⟩
    exact hAll b hb
  · exact fun hAll b hb => hAll _ ⟨b, hb, rfl⟩

theorem lt_setCount_of_uses (h : t.Uses set) : set < t.setCount :=
  setCount_le_iff.mp (Nat.le_refl _) set h

/-- Unless the table is empty, one of its sets is the largest. -/
theorem largest_of_setCount (h : t.setCount ≠ 0) : t.Largest (t.setCount - 1) := by
  have hUses : t.Uses (t.setCount - 1) := by
    by_contra hUnused
    -- otherwise one set less would do for all bindings
    have hLess : t.setCount ≤ t.setCount - 1 := by
      rw [setCount_le_iff]
      intro set hSet
      have hBelow := lt_setCount_of_uses hSet
      have hNe : set ≠ t.setCount - 1 := fun hEq => hUnused (hEq ▸ hSet)
      omega
    omega
  refine ⟨hUses, fun other hOther => ?_⟩
  have hBelow := lt_setCount_of_uses hOther
  omega

theorem Largest.setCount_eq (h : t.Largest set) : t.setCount = set + 1 := by
  have hLower := lt_setCount_of_uses h.uses
  have hUpper : t.setCount ≤ set + 1 :=
    setCount_le_iff.mpr fun other hOther => Nat.lt_succ_of_le (h.largest other hOther)
  omega

theorem setCount_le_size : t.setCount ≤ UInt32.size := by
  rw [setCount_le_iff]
  rintro set ⟨b, -, rfl⟩
  exact b.slot.set.toNat_lt_size

/-- A set below the number of sets keeps its index as a word. -/
theorem toNat_ofNat_of_lt (h : set < t.setCount) : (UInt32.ofNat set).toNat = set :=
  UInt32.toNat_ofNat_of_lt' (Nat.lt_of_lt_of_le h setCount_le_size)

-- ---------------------------------------------------------------------------
-- The first gap
-- ---------------------------------------------------------------------------

theorem mem_gapsBelow {n : Nat} : set ∈ t.gapsBelow n ↔ set < n ∧ ¬ t.Uses set := by
  rw [gapsBelow, List.mem_filter, List.mem_range, inSet_isEmpty_iff]

/-- A set in use adds no gap. -/
theorem gapsBelow_succ_of_uses {n : Nat} (h : t.Uses n) : t.gapsBelow (n + 1) = t.gapsBelow n := by
  have hSome : (t.inSet n).isEmpty = false :=
    Bool.eq_false_iff.mpr fun hEmpty => inSet_isEmpty_iff.mp hEmpty h
  simp [gapsBelow, List.range_succ, hSome]

/-- A set that nothing is in is one gap more. -/
theorem gapsBelow_succ_of_unused {n : Nat} (h : ¬ t.Uses n) :
    t.gapsBelow (n + 1) = t.gapsBelow n ++ [n] := by
  have hEmpty : (t.inSet n).isEmpty = true := inSet_isEmpty_iff.mpr h
  simp [gapsBelow, List.range_succ, hEmpty]

/-- The smallest gap is below all others. -/
theorem firstGap?_eq_some_iff {gap : Nat} :
    t.firstGap? = some gap ↔ gap < t.setCount ∧ ¬ t.Uses gap ∧ ∀ set < gap, t.Uses set := by
  have hUsed : ∀ set, (!(t.inSet set).isEmpty) = true ↔ t.Uses set := by
    intro set
    rw [Bool.not_eq_true', Bool.eq_false_iff, Ne, inSet_isEmpty_iff, not_not]
  rw [firstGap?, gaps, gapsBelow, List.head?_filter, List.find?_range_eq_some, List.mem_range,
    inSet_isEmpty_iff]
  simp only [hUsed]
  exact and_left_comm

/-- There is no first gap exactly if the sets in use are contiguous. -/
theorem firstGap?_eq_none_iff : t.firstGap? = none ↔ t.Contiguous := by
  rw [firstGap?, List.head?_eq_none_iff, gaps, List.eq_nil_iff_forall_not_mem]
  simp only [mem_gapsBelow, not_and, not_not]
  constructor
  · intro hAll
    exact ⟨t.setCount, fun set => ⟨lt_setCount_of_uses, hAll set⟩⟩
  · rintro ⟨n, hContiguous⟩ set hBelow
    have hCount : t.setCount ≤ n := setCount_le_iff.mpr fun other => (hContiguous other).mp
    exact (hContiguous set).mpr (Nat.lt_of_lt_of_le hBelow hCount)

theorem firstGap_of_eq_some {gap : Nat} (h : t.firstGap? = some gap) :
    t.FirstGap gap ∧ gap < t.setCount := by
  obtain ⟨hBelow, hUnused, hBefore⟩ := firstGap?_eq_some_iff.mp h
  refine ⟨⟨hUnused, ?_, fun set largest hSet _ _ => ?_⟩, hBelow⟩
  · have hLargest := t.largest_of_setCount (Nat.ne_of_gt (Nat.zero_lt_of_lt hBelow))
    have hNe : gap ≠ t.setCount - 1 := fun hEq => hUnused (hEq ▸ hLargest.uses)
    exact ⟨_, hLargest, by omega⟩
  · by_contra hLess
    exact hSet (hBefore set (Nat.lt_of_not_le hLess))

-- ---------------------------------------------------------------------------
-- Groups
-- ---------------------------------------------------------------------------

/-- A binding more is at the end of the group of its set. -/
theorem getD_foldl_intoGroup (bs : List UniformBinding) (set : UInt32) :
    ((bs.foldl intoGroup SortedMap.empty).get? set).getD [] =
      bs.filter fun b => b.slot.set.toNat == set.toNat := by
  induction bs using List.reverseRecOn with
  | nil => rfl
  | append_singleton bs b ih =>
    rw [List.foldl_append, List.foldl_cons, List.foldl_nil, intoGroup, SortedMap.get?_insert,
      List.filter_append]
    by_cases hSet : set = b.slot.set
    · subst hSet
      simp [ih]
    · have hNe : compare set b.slot.set ≠ .eq :=
        fun hEq => hSet (Std.LawfulEqOrd.eq_of_compare hEq)
      have hOther : b.slot.set.toNat ≠ set.toNat := fun hEq => hSet (UInt32.toNat_inj.mp hEq).symm
      simp [hNe, hOther, ih]

/-- No group is empty. -/
theorem ne_nil_of_foldl_intoGroup {bs group : List UniformBinding} {set : UInt32}
    (h : (bs.foldl intoGroup SortedMap.empty).get? set = some group) : group ≠ [] := by
  induction bs using List.reverseRecOn with
  | nil => cases h
  | append_singleton bs b ih =>
    rw [List.foldl_append, List.foldl_cons, List.foldl_nil, intoGroup, SortedMap.get?_insert] at h
    split at h
    · cases h
      exact List.append_ne_nil_of_right_ne_nil _ (List.cons_ne_nil b [])
    · exact ih h

/-- There is a group for each set in use, and it is all that the set holds. -/
theorem get?_groups_iff {set : UInt32} {group : List UniformBinding} :
    t.groups.get? set = some group ↔ t.Uses set.toNat ∧ group = t.inSet set.toNat := by
  have hGroup : (t.groups.get? set).getD [] = t.inSet set.toNat := getD_foldl_intoGroup _ set
  have hUses : t.Uses set.toNat ↔ t.inSet set.toNat ≠ [] := by
    rw [← not_iff_not, ← inSet_isEmpty_iff, List.isEmpty_iff, not_not]
  rw [hUses]
  constructor
  · intro hGet
    rw [hGet, Option.getD_some] at hGroup
    exact ⟨hGroup ▸ ne_nil_of_foldl_intoGroup hGet, hGroup⟩
  · rintro ⟨hSome, rfl⟩
    cases hGet : t.groups.get? set with
    | none =>
      rw [hGet, Option.getD_none] at hGroup
      exact absurd hGroup.symm hSome
    | some group => rw [← hGroup, hGet, Option.getD_some]

/-- The groups of the sets from a number on, in the order of these. -/
structure Remain (t : UniformTable) (n : Nat) (groups : List (UInt32 × List UniformBinding)) :
    Prop where
  ascending : Ascending groups
  mem_iff : ∀ set group, (set, group) ∈ groups ↔
    n ≤ set.toNat ∧ t.Uses set.toNat ∧ group = t.inSet set.toNat

/-- At first all groups remain. -/
theorem remain_groups (t : UniformTable) : t.Remain 0 t.groups.entries where
  ascending := t.groups.ascending
  mem_iff set group := by
    have hEntry := SortedMap.mem_entries_iff t.groups set group
    rw [hEntry, get?_groups_iff]
    exact (and_iff_right (Nat.zero_le _)).symm

/-- Without a group that remains, all sets in use are done. -/
theorem Remain.setCount_le {n : Nat} (h : t.Remain n []) : t.setCount ≤ n := by
  rw [setCount_le_iff]
  intro set hUses
  by_contra hLate
  have hWord : (UInt32.ofNat set).toNat = set := toNat_ofNat_of_lt (lt_setCount_of_uses hUses)
  have hMem := (h.mem_iff (UInt32.ofNat set) (t.inSet set)).mpr
    (by rw [hWord]; exact ⟨Nat.not_lt.mp hLate, hUses, rfl⟩)
  cases hMem

section Remain

variable {n : Nat} {next : UInt32} {group : List UniformBinding}
  {rest : List (UInt32 × List UniformBinding)}

/-- The next group is that of a set in use. -/
theorem Remain.head (h : t.Remain n ((next, group) :: rest)) :
    n ≤ next.toNat ∧ t.Uses next.toNat ∧ group = t.inSet next.toNat :=
  (h.mem_iff next group).mp List.mem_cons_self

/-- All further groups are those of later sets. -/
theorem Remain.lt_of_mem (h : t.Remain n ((next, group) :: rest)) {set : UInt32}
    {other : List UniformBinding} (hMem : (set, other) ∈ rest) : next.toNat < set.toNat := by
  have hBefore := (List.pairwise_cons.mp h.ascending).1 _ hMem
  exact UInt32.lt_iff_toNat_lt.mp (Std.compare_eq_lt.mp hBefore)

/-- No set is in use before that of the next group. -/
theorem Remain.unused (h : t.Remain n ((next, group) :: rest)) :
    ∀ set, n ≤ set → set < next.toNat → ¬ t.Uses set := by
  intro set hDone hBefore hUses
  have hWord : (UInt32.ofNat set).toNat = set := toNat_ofNat_of_lt (lt_setCount_of_uses hUses)
  have hMem := (h.mem_iff (UInt32.ofNat set) (t.inSet set)).mpr
    (by rw [hWord]; exact ⟨hDone, hUses, rfl⟩)
  rcases List.mem_cons.mp hMem with hNext | hRest
  · cases hNext
    omega
  · have hLate := h.lt_of_mem hRest
    omega

/-- Once the next group is done, the others remain. -/
theorem Remain.tail (h : t.Remain n ((next, group) :: rest)) : t.Remain (next.toNat + 1) rest where
  ascending := (List.pairwise_cons.mp h.ascending).2
  mem_iff set other := by
    obtain ⟨hDone, -, -⟩ := h.head
    constructor
    · intro hMem
      obtain ⟨-, hOther⟩ := (h.mem_iff set other).mp (List.mem_cons_of_mem _ hMem)
      exact ⟨h.lt_of_mem hMem, hOther⟩
    · rintro ⟨hLate, hOther⟩
      rcases List.mem_cons.mp ((h.mem_iff set other).mpr ⟨by omega, hOther⟩) with hNext | hRest
      · cases hNext
        omega
      · exact hRest

end Remain

end UniformTable

-- ---------------------------------------------------------------------------
-- The layout of a set
-- ---------------------------------------------------------------------------

/-- An entry comes before another in a layout: by its number, or else by its name. -/
def UniformTable.Before (e e' : String × UniformBinding) : Prop :=
  e.2.slot.binding < e'.2.slot.binding ∨
    (e.2.slot.binding = e'.2.slot.binding ∧ compare e.1 e'.1 = .lt)

/-- A layout lists what a table has in a set: all of its entries there, each once, in order. -/
structure SetLayout.Lists (l : SetLayout) (t : UniformTable) (index : Nat) : Prop where
  set : l.set.toNat = index
  bindings : ∃ entries : List (String × UniformBinding),
    entries.Perm (t.byName.entries.filter fun e => e.2.slot.set.toNat == index) ∧
      entries.Pairwise UniformTable.Before ∧ l.bindings = entries.map (·.2)
  key : l.key = layoutKey l.bindings

namespace UniformBinding

theorem numberLE_trans (a b c : UniformBinding) (h : a.numberLE b) (h' : b.numberLE c) :
    a.numberLE c := by
  simp only [numberLE, decide_eq_true_eq] at h h' ⊢
  exact UInt32.le_trans h h'

theorem numberLE_total (a b : UniformBinding) : a.numberLE b || b.numberLE a := by
  simp only [numberLE, Bool.or_eq_true, decide_eq_true_eq]
  exact UInt32.le_total _ _

end UniformBinding

namespace UniformTable

variable {t : UniformTable} {set : Nat}

/-- The bindings of a layout are those of its set. -/
theorem perm_layoutOf (t : UniformTable) (set : Nat) :
    (t.layoutOf set).bindings.Perm (t.inSet set) :=
  sortBy_perm _ _

theorem layoutOf_eq_nil (h : ¬ t.Uses set) : (t.layoutOf set).bindings = [] := by
  have hPerm := t.perm_layoutOf set
  rw [List.isEmpty_iff.mp (inSet_isEmpty_iff.mpr h)] at hPerm
  exact hPerm.eq_nil

theorem layoutOf_lists (h : set < t.setCount) : (t.layoutOf set).Lists t set where
  set := toNat_ofNat_of_lt h
  bindings := by
    let entries := t.byName.entries.filter fun e => e.2.slot.set.toNat == set
    let numberLE (e e' : String × UniformBinding) : Bool := e.2.numberLE e'.2
    have hNames : entries.Pairwise fun e e' => compare e.1 e'.1 = .lt :=
      t.byName.ascending.filter _
    have hTrans : ∀ a b c, numberLE a b → numberLE b c → numberLE a c :=
      fun a b c => UniformBinding.numberLE_trans a.2 b.2 c.2
    have hTotal : ∀ a b, numberLE a b || numberLE b a :=
      fun a b => UniformBinding.numberLE_total a.2 b.2
    have hSorted := pairwise_sortBy hTrans hTotal hNames
    refine ⟨sortBy numberLE entries, sortBy_perm _ _, ?_, ?_⟩
    · refine hSorted.imp ?_
      rintro e e' ⟨hLE, hLevel⟩
      simp only [numberLE, UniformBinding.numberLE, decide_eq_true_eq] at hLE hLevel
      by_cases hNumber : e'.2.slot.binding ≤ e.2.slot.binding
      · exact .inr ⟨UInt32.le_antisymm hLE hNumber, hLevel hNumber⟩
      · exact .inl (UInt32.not_le.mp hNumber)
    · -- the layout sorts the bindings of the set, and these are what the entries are mapped to
      rw [map_sortBy UniformBinding.numberLE Prod.snd]
      show sortBy _ (t.inSet set) = _
      rw [inSet, bindings, SortedMap.values, List.filter_map]
      rfl
  key := rfl

end UniformTable

-- ---------------------------------------------------------------------------
-- A run over the groups
-- ---------------------------------------------------------------------------

namespace LayoutRun

open UniformTable

variable {t : UniformTable} {r : LayoutRun} {n : Nat} {next : UInt32}
  {groups : List (UInt32 × List UniformBinding)}

/-- The sets below a number are done: each has its layout, those without a binding were noted, and the
set with that number is expected next. -/
structure Reaches (r : LayoutRun) (t : UniformTable) (n : Nat) : Prop where
  layouts : r.layouts.toList = (List.range n).map t.layoutOf
  entries : r.entries.toList = (t.gapsBelow n).map fun gap => emptyEntry (UInt32.ofNat gap)
  expected : r.expected = UInt32.ofNat n

theorem reaches_zero (t : UniformTable) : ({} : LayoutRun).Reaches t 0 := ⟨rfl, rfl, rfl⟩

/-- The layout of a set in use is that of its group. -/
theorem Reaches.take (h : r.Reaches t next.toNat) (hUses : t.Uses next.toNat) :
    (r.take next (t.inSet next.toNat)).Reaches t (next.toNat + 1) where
  layouts := by
    show (r.layouts.push _).toList = _
    rw [Array.toList_push, h.layouts, List.range_succ, List.map_append, List.map_singleton,
      layoutOf, UInt32.ofNat_toNat]
  entries := by
    rw [gapsBelow_succ_of_uses hUses]
    exact h.entries
  expected := by
    show next + 1 = _
    rw [UInt32.ofNat_add, UInt32.ofNat_toNat]
    rfl

/-- A set that is left out has an empty layout, and is noted. -/
theorem Reaches.fill (h : r.Reaches t n) (hUnused : ¬ t.Uses n) :
    ((r.log (emptyEntry r.expected)).take r.expected []).Reaches t (n + 1) where
  layouts := by
    have hEmpty : t.inSet n = [] := List.isEmpty_iff.mp (inSet_isEmpty_iff.mpr hUnused)
    show (r.layouts.push _).toList = _
    rw [Array.toList_push, h.layouts, h.expected, List.range_succ, List.map_append,
      List.map_singleton, layoutOf, hEmpty]
  entries := by
    show (r.entries.push _).toList = _
    rw [Array.toList_push, h.entries, h.expected, gapsBelow_succ_of_unused hUnused,
      List.map_append, List.map_singleton]
  expected := by
    show r.expected + 1 = _
    rw [h.expected, UInt32.ofNat_add]
    rfl

/-- What is expected is before the next set in use exactly if sets are left out in between. -/
theorem Reaches.expected_lt_iff (h : r.Reaches t n) (hDone : n ≤ next.toNat) :
    r.expected < next ↔ n < next.toNat := by
  have hWord : r.expected.toNat = n := by
    rw [h.expected]
    exact UInt32.toNat_ofNat_of_lt' (Nat.lt_of_le_of_lt hDone next.toNat_lt)
  rw [UInt32.lt_iff_toNat_lt, hWord]

/-- Where nothing is left out there is nothing to fill. -/
theorem fillUpTo_of_not_lt (policy : SparseSetPolicy) (h : ¬ r.expected < next) :
    fillUpTo policy next r = (.ok (), r) := by
  rw [fillUpTo.eq_def, if_neg h]

/-- Under the strict policy the first set that is left out is a failure. -/
theorem fillUpTo_error (h : r.expected < next) :
    fillUpTo .error next r =
      (.error (.sparseDescriptorSet r.expected), r.log (sparseEntry r.expected)) := by
  rw [fillUpTo.eq_def, if_pos h]

/-- Under the permissive policy all sets that are left out are filled. -/
theorem fillUpTo_allow (h : r.Reaches t n) (hDone : n ≤ next.toNat)
    (hUnused : ∀ set, n ≤ set → set < next.toNat → ¬ t.Uses set) :
    ∃ r', fillUpTo .allow next r = (.ok (), r') ∧ r'.Reaches t next.toNat := by
  -- by induction on the number of sets that are left out
  obtain ⟨missing, hMissing⟩ := Nat.exists_eq_add_of_le hDone
  induction missing generalizing r n with
  | zero =>
    obtain rfl : next.toNat = n := hMissing
    have hNot : ¬ r.expected < next := fun hLess =>
      Nat.lt_irrefl _ ((h.expected_lt_iff hDone).mp hLess)
    exact ⟨r, fillUpTo_of_not_lt .allow hNot, h⟩
  | succ missing ih =>
    have hLess : n < next.toNat := by omega
    rw [fillUpTo.eq_def, if_pos ((h.expected_lt_iff hDone).mpr hLess)]
    refine ih (h.fill (hUnused n (Nat.le_refl n) hLess)) hLess (fun set hSet => ?_) (by omega)
    exact hUnused set (Nat.le_of_succ_le hSet)

/-- Under the permissive policy all sets up to the largest one in use are reached. -/
theorem takeGroups_allow (h : r.Reaches t n) (hRemain : t.Remain n groups)
    (hCount : n ≤ t.setCount) :
    ∃ r', takeGroups .allow groups r = (.ok (), r') ∧ r'.Reaches t t.setCount := by
  induction groups generalizing r n with
  | nil =>
    obtain rfl : n = t.setCount := Nat.le_antisymm hCount hRemain.setCount_le
    exact ⟨r, rfl, h⟩
  | cons g rest ih =>
    obtain ⟨next, group⟩ := g
    obtain ⟨hDone, hUses, rfl⟩ := hRemain.head
    obtain ⟨r', hFill, hReaches⟩ := fillUpTo_allow h hDone hRemain.unused
    rw [takeGroups, hFill]
    exact ih (hReaches.take hUses) hRemain.tail (lt_setCount_of_uses hUses)

/-- Under the strict policy, too, unless there is a gap. The first one ends the run. -/
theorem takeGroups_error (h : r.Reaches t n) (hRemain : t.Remain n groups)
    (hCount : n ≤ t.setCount) (hUsed : ∀ set < n, t.Uses set) :
    (t.firstGap? = none ∧
        ∃ r', takeGroups .error groups r = (.ok (), r') ∧ r'.Reaches t t.setCount) ∨
      ∃ gap r', t.firstGap? = some gap ∧
        takeGroups .error groups r = (.error (.sparseDescriptorSet (UInt32.ofNat gap)), r') ∧
        r'.entries.toList = [sparseEntry (UInt32.ofNat gap)] := by
  induction groups generalizing r n with
  | nil =>
    obtain rfl : n = t.setCount := Nat.le_antisymm hCount hRemain.setCount_le
    have hContiguous : t.Contiguous := ⟨t.setCount, fun set => ⟨lt_setCount_of_uses, hUsed set⟩⟩
    exact .inl ⟨firstGap?_eq_none_iff.mpr hContiguous, r, rfl, h⟩
  | cons g rest ih =>
    obtain ⟨next, group⟩ := g
    obtain ⟨hDone, hUses, rfl⟩ := hRemain.head
    rcases Nat.eq_or_lt_of_le hDone with rfl | hLess
    · -- the group is that of the set which is expected
      have hNot : ¬ r.expected < next := fun hLess =>
        Nat.lt_irrefl _ ((h.expected_lt_iff hDone).mp hLess)
      rw [takeGroups, fillUpTo_of_not_lt .error hNot]
      refine ih (h.take hUses) hRemain.tail (lt_setCount_of_uses hUses) fun set hSet => ?_
      rcases Nat.lt_succ_iff_lt_or_eq.mp hSet with hBefore | rfl
      · exact hUsed set hBefore
      · exact hUses
    · -- the set which is expected is the first gap
      have hUnused : ¬ t.Uses n := hRemain.unused n (Nat.le_refl n) hLess
      have hBelow : n < t.setCount := Nat.lt_trans hLess (lt_setCount_of_uses hUses)
      have hNone : t.gapsBelow n = [] := List.eq_nil_iff_forall_not_mem.mpr fun set hSet => by
        obtain ⟨hSet, hNot⟩ := mem_gapsBelow.mp hSet
        exact hNot (hUsed set hSet)
      refine .inr ⟨n, r.log (sparseEntry r.expected), ?_, ?_, ?_⟩
      · exact firstGap?_eq_some_iff.mpr ⟨hBelow, hUnused, hUsed⟩
      · have hBefore : r.expected < next := (h.expected_lt_iff hDone).mpr hLess
        rw [takeGroups, fillUpTo_error hBefore, h.expected]
      · show (r.entries.push _).toList = _
        rw [Array.toList_push, h.entries, hNone, h.expected]
        rfl

end LayoutRun

-- ---------------------------------------------------------------------------
-- The layouts of a program
-- ---------------------------------------------------------------------------

namespace UniformTable

variable {t : UniformTable} {policy : SparseSetPolicy}

/-- Layouts are those of a table: one for each set up to the largest one in use, and none for an
empty table. -/
structure LaidOut (t : UniformTable) (layouts : List SetLayout) : Prop where
  empty : t.bindings = [] → layouts = []
  length : ∀ largest, t.Largest largest → layouts.length = largest + 1
  layout : ∀ set (l : SetLayout), layouts[set]? = some l → l.Lists t set
  unused : ∀ set (l : SetLayout), layouts[set]? = some l → ¬ t.Uses set → l.bindings = []

/-- A run over all groups ends at the first gap under the strict policy, and reaches all sets
otherwise. -/
theorem layoutRun_cases (t : UniformTable) (policy : SparseSetPolicy) :
    (∃ gap r, policy = .error ∧ t.firstGap? = some gap ∧
        layoutRun t policy = (.error (.sparseDescriptorSet (UInt32.ofNat gap)), r) ∧
        r.entries.toList = [LayoutRun.sparseEntry (UInt32.ofNat gap)]) ∨
      ((policy = .allow ∨ t.firstGap? = none) ∧
        ∃ r, layoutRun t policy = (.ok (), r) ∧ r.Reaches t t.setCount) := by
  have hStart := LayoutRun.reaches_zero t
  cases policy with
  | allow =>
    exact .inr ⟨.inl rfl, LayoutRun.takeGroups_allow hStart t.remain_groups (Nat.zero_le _)⟩
  | error =>
    obtain ⟨hNone, hRun⟩ | ⟨gap, r, hGap, hRun, hEntries⟩ :=
      LayoutRun.takeGroups_error hStart t.remain_groups (Nat.zero_le _) (fun _ => nofun)
    · exact .inr ⟨.inr hNone, hRun⟩
    · exact .inl ⟨gap, r, rfl, hGap, hRun, hEntries⟩

/-- Layouts are refused for the first gap under the strict policy, and are made otherwise. -/
theorem setLayouts_cases (t : UniformTable) (policy : SparseSetPolicy) :
    (∃ gap, policy = .error ∧ t.firstGap? = some gap ∧
        setLayouts t policy = .error (.sparseDescriptorSet (UInt32.ofNat gap))) ∨
      ((policy = .allow ∨ t.firstGap? = none) ∧
        setLayouts t policy = .ok ((List.range t.setCount).map t.layoutOf)) := by
  obtain ⟨gap, r, hPolicy, hGap, hRun, -⟩ | ⟨hPolicy, r, hRun, hReaches⟩ :=
    t.layoutRun_cases policy
  · exact .inl ⟨gap, hPolicy, hGap, by rw [setLayouts, hRun]; rfl⟩
  · refine .inr ⟨hPolicy, ?_⟩
    rw [setLayouts, hRun, ← hReaches.layouts]
    rfl

/-- A failure is logged, and so is each set that gets an empty layout. Nothing else is. -/
theorem setLayoutEntries_cases (t : UniformTable) (policy : SparseSetPolicy) :
    (∃ gap, policy = .error ∧ t.firstGap? = some gap ∧
        setLayoutEntries t policy = [LayoutRun.sparseEntry (UInt32.ofNat gap)]) ∨
      ((policy = .allow ∨ t.firstGap? = none) ∧ setLayoutEntries t policy =
        t.gaps.map fun gap => LayoutRun.emptyEntry (UInt32.ofNat gap)) := by
  obtain ⟨gap, r, hPolicy, hGap, hRun, hEntries⟩ | ⟨hPolicy, r, hRun, hReaches⟩ :=
    t.layoutRun_cases policy
  · exact .inl ⟨gap, hPolicy, hGap, by rw [setLayoutEntries, hRun, hEntries]⟩
  · exact .inr ⟨hPolicy, by rw [setLayoutEntries, hRun, hReaches.entries, gaps]⟩

theorem setLayouts_ok_iff :
    (∃ layouts, setLayouts t policy = .ok layouts) ↔ policy = .allow ∨ t.Contiguous := by
  rw [← firstGap?_eq_none_iff]
  obtain ⟨gap, rfl, hGap, hError⟩ | ⟨hPolicy, hOk⟩ := setLayouts_cases t policy
  · simp [hError, hGap]
  · exact iff_of_true ⟨_, hOk⟩ hPolicy

theorem firstGap_of_setLayouts {e : RenderError} (h : setLayouts t policy = .error e) :
    ∃ gap, e = .sparseDescriptorSet gap ∧ t.FirstGap gap.toNat := by
  obtain ⟨gap, -, hGap, hError⟩ | ⟨-, hOk⟩ := setLayouts_cases t policy
  · obtain ⟨hFirst, hBelow⟩ := firstGap_of_eq_some hGap
    rw [hError] at h
    refine ⟨_, (Except.error.inj h).symm, ?_⟩
    rw [toNat_ofNat_of_lt hBelow]
    exact hFirst
  · rw [hOk] at h
    cases h

theorem setLayouts_of_ok {layouts : List SetLayout} (h : setLayouts t policy = .ok layouts) :
    layouts = (List.range t.setCount).map t.layoutOf := by
  obtain ⟨gap, -, -, hError⟩ | ⟨-, hOk⟩ := setLayouts_cases t policy
  · rw [hError] at h
    cases h
  · rw [hOk] at h
    exact (Except.ok.inj h).symm

theorem getElem?_map_range {set : Nat} {l : SetLayout}
    (h : ((List.range t.setCount).map t.layoutOf)[set]? = some l) :
    set < t.setCount ∧ l = t.layoutOf set := by
  rw [List.getElem?_map, Option.map_eq_some_iff] at h
  obtain ⟨i, hi, rfl⟩ := h
  obtain ⟨hLess, hEq⟩ := List.getElem?_eq_some_iff.mp hi
  rw [List.getElem_range] at hEq
  rw [List.length_range] at hLess
  subst hEq
  exact ⟨hLess, rfl⟩

theorem laidOut_of_setLayouts {layouts : List SetLayout}
    (h : setLayouts t policy = .ok layouts) : t.LaidOut layouts := by
  obtain rfl := setLayouts_of_ok h
  refine ⟨fun hEmpty => ?_, fun largest hLargest => ?_, fun set l hl => ?_,
    fun set l hl hUnused => ?_⟩
  · have hCount : t.setCount = 0 := by rw [setCount, hEmpty]; rfl
    rw [hCount]
    rfl
  · rw [List.length_map, List.length_range, hLargest.setCount_eq]
  · obtain ⟨hBelow, rfl⟩ := getElem?_map_range hl
    exact layoutOf_lists hBelow
  · obtain ⟨-, rfl⟩ := getElem?_map_range hl
    exact layoutOf_eq_nil hUnused

/-- **The layouts of a program are those of its table.** They exist under the permissive policy
and where the sets in use are contiguous; whatever layouts there are list all bindings, each
in the layout of its set; and a failure names the first gap. -/
theorem setLayouts_laidOut (t : UniformTable) (policy : SparseSetPolicy) :
    ((∃ layouts, setLayouts t policy = .ok layouts) ↔ policy = .allow ∨ t.Contiguous) ∧
      (∀ layouts, setLayouts t policy = .ok layouts → t.LaidOut layouts) ∧
      ∀ e, setLayouts t policy = .error e →
        ∃ gap, e = .sparseDescriptorSet gap ∧ t.FirstGap gap.toNat := by
  refine ⟨setLayouts_ok_iff, ?_, ?_⟩
  · intro layouts hLayouts
    exact laidOut_of_setLayouts hLayouts
  · intro e hError
    exact firstGap_of_setLayouts hError

end UniformTable

end RenderLoop
