import Mathlib.Data.List.Forall2
import Mathlib.Data.List.Nodup
import RenderLoop.Vertex.Input

/-!
# RenderLoop — the vertex input of any inputs

Every input of a vertex stage has an index. An input with a format becomes an
attribute and a binding, and one without is rejected (`classify_of_fits`). After that
the attributes are sorted by location and the bindings by number, each list for
itself. Both numbers of an input are the same, and what is on a level keeps its order,
so the lists stay **in step** (`ofAccepted_eq`): at every position they have the
attribute and the binding of one input (`attributes_of_inputs`).

Nothing keeps the numbers of different inputs apart. An input without a location takes
its index, also where that is the location of another input, and then the two
**clash** on one binding. This is the only way to it for inputs whose own locations are
distinct (`nodup_bindings_iff`).
-/

namespace RenderLoop

-- ---------------------------------------------------------------------------
-- Sorting entry by entry
-- ---------------------------------------------------------------------------

section Sorting

variable {α β : Type} {R : α → β → Prop} {le : α → α → Bool} {le' : β → β → Bool}

/-- Inserting related elements in related orders keeps the lists related. -/
theorem forall₂_insertBy (hOrder : ∀ a b x y, R a x → R b y → le a b = le' x y) {a : α} {x : β}
    (hFirst : R a x) {as : List α} {xs : List β} (h : List.Forall₂ R as xs) :
    List.Forall₂ R (insertBy le a as) (insertBy le' x xs) := by
  induction h with
  | nil => exact .cons hFirst .nil
  | @cons b y as xs hHead hRest ih =>
    rw [insertBy, insertBy, hOrder a b x y hFirst hHead]
    split
    · exact .cons hFirst (.cons hHead hRest)
    · exact .cons hHead ih

/-- Lists that belong together entry by entry do so after sorting, if their orders agree. -/
theorem forall₂_sortBy (hOrder : ∀ a b x y, R a x → R b y → le a b = le' x y) {as : List α}
    {xs : List β} (h : List.Forall₂ R as xs) : List.Forall₂ R (sortBy le as) (sortBy le' xs) := by
  induction h with
  | nil => exact .nil
  | cons hHead _ ih => exact forall₂_insertBy hOrder hHead ih

end Sorting

-- ---------------------------------------------------------------------------
-- One input
-- ---------------------------------------------------------------------------

/-- A format is as large as the vector that it was found for. -/
theorem VertexFormat.toNat_sizeBytes {kind : ScalarKind} {bits components : UInt32}
    {f : VertexFormat} (h : ofComponents? kind bits components = some f) :
    f.sizeBytes.toNat = bits.toNat / 8 * components.toNat := by
  -- each format by itself
  unfold ofComponents? at h
  split at h <;> cases h <;> simp only [*] <;> rfl

namespace StageInput

variable {i : StageInput} {f : VertexFormat}

/-- If an input has a format, one element of it is smaller than 4 gigabytes. -/
def Fits (i : StageInput) : Prop :=
  i.format?.isSome → i.bits.toNat / 8 * i.components.toNat * i.columns.toNat < UInt32.size

instance : DecidablePred Fits := fun i => inferInstanceAs
  (Decidable (i.format?.isSome →
    i.bits.toNat / 8 * i.components.toNat * i.columns.toNat < UInt32.size))

/-- The stride is the size of the format for each column. -/
theorem stride?_of_fits (hFits : i.Fits) (hFormat : i.format? = some f) :
    ∃ stride, i.stride? = some stride ∧ stride.toNat = f.sizeBytes.toNat * i.columns.toNat := by
  have hSize : f.sizeBytes.toNat = i.bits.toNat / 8 * i.components.toNat :=
    VertexFormat.toNat_sizeBytes hFormat
  have hColumn : Checked.mul32 (i.bits / 8) i.components = some f.sizeBytes := by
    rw [Checked.mul32_eq_some_iff, UInt32.toNat_div]
    exact hSize
  have hLess : f.sizeBytes.toNat * i.columns.toNat < UInt32.size := by
    rw [hSize]
    exact hFits (Option.isSome_of_eq_some hFormat)
  have hStride : (UInt32.ofNat (f.sizeBytes.toNat * i.columns.toNat)).toNat =
      f.sizeBytes.toNat * i.columns.toNat := UInt32.toNat_ofNat_of_lt' hLess
  refine ⟨_, ?_, hStride⟩
  rw [stride?, hColumn]
  exact Checked.mul32_eq_some_iff.mpr hStride

end StageInput

namespace VertexLayout

/-- An attribute and a binding are those of an input with its index: the attribute has the format of
the input, its location is that of the input or else the index, it is read from the binding of that
number, and the binding has room for all columns. -/
structure ReadAs (x : StageInput × Nat) (a : VertexAttribute) (b : VertexBinding) : Prop where
  format : x.1.format? = some a.format
  location : a.location = x.1.location.getD (UInt32.ofNat x.2)
  attribute_binding : a.binding = a.location
  binding : b.binding = a.location
  stride : b.stride.toNat = a.format.sizeBytes.toNat * x.1.columns.toNat
  rate : b.rate = .perVertex
  offset : a.offset = 0

/-- The inputs with a format, each with its index; the first input has index `index`. -/
def readable (index : Nat) (inputs : List StageInput) : List (StageInput × Nat) :=
  (inputs.zipIdx index).filter fun x => x.1.format?.isSome

/-- The inputs without a format, each with its index. -/
def unreadable (index : Nat) (inputs : List StageInput) : List (StageInput × Nat) :=
  (inputs.zipIdx index).filter fun x => !x.1.format?.isSome

/-- An input as it is rejected. -/
def reject (x : StageInput × Nat) : RejectedInput := ⟨x.1, x.1.locationAt x.2⟩

/-- Inputs have a format or have none. -/
theorem length_readable_add (index : Nat) (inputs : List StageInput) :
    (readable index inputs).length + (unreadable index inputs).length = inputs.length := by
  rw [readable, unreadable, ← List.length_eq_length_filter_add, List.length_zipIdx]

-- ---------------------------------------------------------------------------
-- All inputs
-- ---------------------------------------------------------------------------

variable {inputs : List StageInput} {accepted : List Accepted}

/-- Inputs with a format are accepted in order, and the others are rejected in order. -/
theorem classify_of_fits (index : Nat) (hFits : ∀ i ∈ inputs, i.Fits) :
    ∃ accepted, classify index inputs = some (accepted, (unreadable index inputs).map reject) ∧
      List.Forall₂ (fun x a => ReadAs x a.vertexAttribute a.binding) (readable index inputs)
        accepted := by
  induction inputs generalizing index with
  | nil => exact ⟨[], rfl, .nil⟩
  | cons i rest ih =>
    obtain ⟨hHere, hRest⟩ := List.forall_mem_cons.mp hFits
    obtain ⟨accepted, hClassify, hRead⟩ := ih (index + 1) hRest
    rw [classify, hClassify]
    cases hFormat : i.format? with
    | none =>
      -- the head goes to one of the two lists, by whether it has a format
      have hReadable : readable index (i :: rest) = readable (index + 1) rest := by
        rw [readable, List.zipIdx_cons, List.filter_cons_of_neg (by simp [hFormat]), ← readable]
      have hUnreadable : unreadable index (i :: rest) = (i, index) :: unreadable (index + 1) rest := by
        rw [unreadable, List.zipIdx_cons, List.filter_cons_of_pos (by simp [hFormat]), ← unreadable]
      rw [hReadable, hUnreadable]
      exact ⟨accepted, rfl, hRead⟩
    | some f =>
      have hReadable : readable index (i :: rest) = (i, index) :: readable (index + 1) rest := by
        rw [readable, List.zipIdx_cons, List.filter_cons_of_pos (by simp [hFormat]), ← readable]
      have hUnreadable : unreadable index (i :: rest) = unreadable (index + 1) rest := by
        rw [unreadable, List.zipIdx_cons, List.filter_cons_of_neg (by simp [hFormat]), ← unreadable]
      obtain ⟨stride, hStride, hSize⟩ := StageInput.stride?_of_fits hHere hFormat
      rw [hReadable, hUnreadable]
      refine ⟨⟨⟨i.locationAt index, stride, .perVertex⟩,
        ⟨i.locationAt index, i.locationAt index, f, 0⟩⟩ :: accepted, ?_, .cons ?_ hRead⟩
      · dsimp only
        rw [accept?, hStride]
        rfl
      · exact ⟨hFormat, rfl, rfl, rfl, hSize, rfl, rfl⟩

/-- Accepted inputs by location, ties in their order. -/
def inOrder (accepted : List Accepted) : List Accepted :=
  sortBy (fun a b => a.vertexAttribute.location ≤ b.vertexAttribute.location) accepted

/-- Bindings and attributes are in step although they are sorted apart from each other. -/
theorem ofAccepted_eq (hSame : ∀ a ∈ accepted, a.binding.binding = a.vertexAttribute.location) :
    ofAccepted accepted =
      ⟨(inOrder accepted).map (·.binding), (inOrder accepted).map (·.vertexAttribute)⟩ := by
  -- bindings are sorted like the inputs that they came from, so they stay with them
  have hBindings : List.Forall₂ (fun a b => a.vertexAttribute.location = b.binding ∧ a.binding = b)
      accepted (accepted.map (·.binding)) := by
    rw [List.forall₂_map_right_iff, List.forall₂_same]
    exact fun a ha => ⟨(hSame a ha).symm, rfl⟩
  have hSorted : List.Forall₂ (fun a b => a.vertexAttribute.location = b.binding ∧ a.binding = b)
      (inOrder accepted) (ofAccepted accepted).bindings :=
    forall₂_sortBy (fun a b v w ha hb => by rw [ha.1, hb.1]) hBindings
  have hEach := hSorted.imp fun _ _ h => h.2
  rw [← List.forall₂_map_left_iff, List.forall₂_eq_eq_eq] at hEach
  have hAttributes : (inOrder accepted).map (·.vertexAttribute) = (ofAccepted accepted).attributes :=
    map_sortBy (fun a b : VertexAttribute => decide (a.location ≤ b.location)) _ accepted
  rw [hEach, hAttributes]

/-- An input stands before another one: at a smaller location, or at the same one and declared
earlier. -/
def Before (x y : StageInput × Nat) : Prop :=
  x.1.locationAt x.2 < y.1.locationAt y.2 ∨ x.1.locationAt x.2 = y.1.locationAt y.2 ∧ x.2 < y.2

/-- Indices grow along a list. -/
theorem pairwise_readable (index : Nat) (inputs : List StageInput) :
    (readable index inputs).Pairwise fun x y => x.2 < y.2 := by
  refine List.Pairwise.filter _ (List.pairwise_map.mp ?_)
  rw [List.zipIdx_map_snd]
  exact List.pairwise_lt_range'

/-- The inputs with a format by location, ties in the order of the inputs. -/
def readOrder (inputs : List StageInput) : List (StageInput × Nat) :=
  sortBy (fun x y => x.1.locationAt x.2 ≤ y.1.locationAt y.2) (readable 0 inputs)

/-- Every readable input is read once. -/
theorem readOrder_perm (inputs : List StageInput) : (readOrder inputs).Perm (readable 0 inputs) :=
  sortBy_perm _ _

/-- The inputs are read by location, and at one location in the order of declaration. -/
theorem pairwise_readOrder (inputs : List StageInput) : (readOrder inputs).Pairwise Before := by
  have hSorted : (readOrder inputs).Pairwise fun x y =>
      decide (x.1.locationAt x.2 ≤ y.1.locationAt y.2) = true ∧
        (decide (y.1.locationAt y.2 ≤ x.1.locationAt x.2) = true → x.2 < y.2) := by
    refine pairwise_sortBy (fun x y z hxy hyz => ?_) (fun x y => ?_) (pairwise_readable 0 inputs)
    · rw [decide_eq_true_eq] at hxy hyz ⊢
      exact UInt32.le_trans hxy hyz
    · rw [Bool.or_eq_true, decide_eq_true_eq, decide_eq_true_eq]
      exact UInt32.le_total _ _
  refine hSorted.imp fun {x y} h => ?_
  obtain ⟨hLe, hTie⟩ := h
  rw [decide_eq_true_eq] at hLe hTie
  rcases UInt32.lt_or_eq_of_le hLe with hLess | hSame
  · exact .inl hLess
  · exact .inr ⟨hSame, hTie (UInt32.le_of_eq hSame.symm)⟩

/-- There is a layout, with the attribute and the binding of one input at each position. -/
theorem ofInputs_of_fits (hFits : ∀ i ∈ inputs, i.Fits) :
    ∃ sorted : List Accepted,
      ofInputs inputs = some (⟨sorted.map (·.binding), sorted.map (·.vertexAttribute)⟩,
        (unreadable 0 inputs).map reject) ∧
      List.Forall₂ (fun x a => ReadAs x a.vertexAttribute a.binding) (readOrder inputs) sorted := by
  obtain ⟨accepted, hClassify, hRead⟩ := classify_of_fits 0 hFits
  have hSame : ∀ a ∈ accepted, a.binding.binding = a.vertexAttribute.location := by
    intro a ha
    obtain ⟨n, hn, rfl⟩ := List.mem_iff_getElem.mp ha
    have hx : n < (readable 0 inputs).length := by
      rw [hRead.length_eq]
      exact hn
    exact (hRead.get hx hn).binding
  refine ⟨inOrder accepted, ?_, forall₂_sortBy (fun x y a b ha hb => ?_) hRead⟩
  · rw [ofInputs, hClassify, ← ofAccepted_eq hSame]
    rfl
  · rw [ha.location, hb.location]
    rfl

/-- **The vertex input of any inputs.** If the strides fit, there is a layout with as many bindings as
attributes, and each input is either one of them or one of the failures. The failures are those of the
inputs without a format, in the order of the inputs. The inputs with a format stand by location, ties
in the order of the inputs, and at every position the attribute and the binding are those of the input
there. -/
theorem attributes_of_inputs (inputs : List StageInput) (hFits : ∀ i ∈ inputs, i.Fits) :
    ∃ layout rejected order, ofInputs inputs = some (layout, rejected) ∧
      layout.bindings.length = layout.attributes.length ∧
      layout.attributes.length + (rejected.map RejectedInput.failure).length = inputs.length ∧
      rejected.map RejectedInput.failure =
        (unreadable 0 inputs).map (fun x => .invalidResource (reject x).message) ∧
      order.Perm (readable 0 inputs) ∧ order.Pairwise Before ∧
      List.Forall₂ (fun x p => ReadAs x p.1 p.2) order (layout.attributes.zip layout.bindings) := by
  obtain ⟨sorted, hRun, hRead⟩ := ofInputs_of_fits hFits
  refine ⟨_, _, readOrder inputs, hRun, ?_, ?_, ?_, readOrder_perm inputs,
    pairwise_readOrder inputs, ?_⟩
  · rw [List.length_map, List.length_map]
  · rw [List.length_map, List.length_map, List.length_map, ← hRead.length_eq,
      (readOrder_perm inputs).length_eq]
    exact length_readable_add 0 inputs
  · rw [List.map_map]
    rfl
  · rw [List.zip_map', List.forall₂_map_right_iff]
    exact hRead

/-- Three numbers at location 2, three that are too wide, a matrix, and four bytes at location 0. -/
def mixedInputs : List StageInput :=
  [⟨"inNormal", some 2, .float, 32, 3, 1⟩, ⟨"inPrecise", none, .float, 64, 3, 1⟩,
    ⟨"inTransform", none, .float, 32, 4, 4⟩, ⟨"inColor", some 0, .unsignedInt, 8, 4, 1⟩]

/-- Their layout. The matrix has index 2, and stands behind the input with that location. -/
def mixedLayout : VertexLayout where
  bindings := [⟨0, 4, .perVertex⟩, ⟨2, 12, .perVertex⟩, ⟨2, 64, .perVertex⟩]
  attributes := [⟨0, 0, .r8g8b8a8Uint, 0⟩, ⟨2, 2, .r32g32b32Sfloat, 0⟩, ⟨2, 2, .r32g32b32a32Sfloat, 0⟩]

theorem attributes_of_mixed_inputs : (∀ i ∈ mixedInputs, i.Fits) ∧ ∃ rejected order,
    ofInputs mixedInputs = some (mixedLayout, rejected) ∧
    rejected.map (fun r => (r.input.name, r.location)) = [("inPrecise", 1)] ∧
    order.Perm (readable 0 mixedInputs) ∧ order.Pairwise Before ∧
    List.Forall₂ (fun x p => ReadAs x p.1 p.2) order
      (mixedLayout.attributes.zip mixedLayout.bindings) := by
  have hFits : ∀ i ∈ mixedInputs, i.Fits := by decide
  have hLayout : (ofInputs mixedInputs).map Prod.fst = some mixedLayout := by decide
  have hRejected : (ofInputs mixedInputs).map (fun x =>
      x.2.map fun r => (r.input.name, r.location)) = some [("inPrecise", 1)] := by decide
  obtain ⟨layout, rejected, order, hRun, -, -, -, hPerm, hOrder, hRead⟩ :=
    attributes_of_inputs mixedInputs hFits
  rw [hRun, Option.map_some, Option.some.injEq] at hLayout hRejected
  subst hLayout
  exact ⟨hFits, rejected, order, hRun, hRejected, hPerm, hOrder, hRead⟩

-- ---------------------------------------------------------------------------
-- Bindings of their own
-- ---------------------------------------------------------------------------

/-- An input without a location takes the number of another one. -/
def Clash (x y : StageInput × Nat) : Prop :=
  x.2 ≠ y.2 ∧ x.1.location = none ∧ y.1.locationAt y.2 = UInt32.ofNat x.2

/-- Locations that inputs have of their own are those of different inputs. -/
theorem location_ne_of_own (index : Nat) (hOwn : (inputs.filterMap StageInput.location).Nodup) :
    (readable index inputs).Pairwise fun x y =>
      ∀ l, x.1.location = some l → y.1.location ≠ some l := by
  have hAll : ((inputs.zipIdx index).map Prod.fst).Pairwise fun i j =>
      ∀ l, i.location = some l → j.location ≠ some l := by
    rw [List.zipIdx_map_fst]
    exact (List.pairwise_filterMap.mp hOwn).imp fun h l hl hl' => h l hl l hl' rfl
  exact (List.pairwise_map.mp hAll).filter _

/-- Inputs whose own locations are distinct have distinct numbers unless two of them clash. -/
theorem nodup_readable_iff (index : Nat) (hOwn : (inputs.filterMap StageInput.location).Nodup) :
    ((readable index inputs).map fun x => x.1.locationAt x.2).Nodup ↔
      ∀ x ∈ readable index inputs, ∀ y ∈ readable index inputs, ¬ Clash x y := by
  constructor
  · rintro hDistinct x hx y hy ⟨hOther, hNone, hTaken⟩
    have hNumber : x.1.locationAt x.2 = UInt32.ofNat x.2 := by
      rw [StageInput.locationAt, hNone, Option.getD_none]
    have hSame := List.inj_on_of_nodup_map hDistinct hx hy (hNumber.trans hTaken.symm)
    exact hOther (congrArg Prod.snd hSame)
  · intro hApart
    refine List.pairwise_map.mpr ?_
    refine ((pairwise_readable index inputs).and (location_ne_of_own index hOwn)).imp_of_mem ?_
    rintro x y hx hy ⟨hLess, hNe⟩ hSame
    -- one of the two has no location of its own
    cases hFirst : x.1.location with
    | none =>
      rw [StageInput.locationAt, hFirst, Option.getD_none] at hSame
      exact hApart x hx y hy ⟨Nat.ne_of_lt hLess, hFirst, hSame.symm⟩
    | some l =>
      cases hSecond : y.1.location with
      | none =>
        rw [StageInput.locationAt, StageInput.locationAt, hSecond, Option.getD_none] at hSame
        exact hApart y hy x hx ⟨Nat.ne_of_gt hLess, hSecond, hSame⟩
      | some l' =>
        rw [StageInput.locationAt, StageInput.locationAt, hFirst, hSecond, Option.getD_some,
          Option.getD_some] at hSame
        exact hNe l hFirst (hSame ▸ hSecond)

/-- **Attributes have bindings of their own exactly if no inputs clash.** Among inputs whose own
locations are distinct, attributes have distinct locations, and so the bindings distinct numbers, if
and only if no input with a format and without a location takes the number of another one. -/
theorem nodup_bindings_iff (inputs : List StageInput) (hFits : ∀ i ∈ inputs, i.Fits)
    (hOwn : (inputs.filterMap StageInput.location).Nodup) :
    ∃ layout rejected, ofInputs inputs = some (layout, rejected) ∧
      layout.attributes.map VertexAttribute.location = layout.bindings.map VertexBinding.binding ∧
      ((layout.bindings.map VertexBinding.binding).Nodup ↔
        ∀ x ∈ readable 0 inputs, ∀ y ∈ readable 0 inputs, ¬ Clash x y) := by
  obtain ⟨sorted, hRun, hRead⟩ := ofInputs_of_fits hFits
  -- attributes and bindings both bear the locations of what is read
  have hLocations : (readOrder inputs).map (fun x => x.1.locationAt x.2) =
      sorted.map (·.vertexAttribute.location) := by
    rw [← List.forall₂_eq_eq_eq, List.forall₂_map_left_iff, List.forall₂_map_right_iff]
    exact hRead.imp fun _ _ h => h.location.symm
  have hNumbers : (readOrder inputs).map (fun x => x.1.locationAt x.2) =
      sorted.map (·.binding.binding) := by
    rw [← List.forall₂_eq_eq_eq, List.forall₂_map_left_iff, List.forall₂_map_right_iff]
    exact hRead.imp fun _ _ h => (h.binding.trans h.location).symm
  refine ⟨_, _, hRun, ?_, ?_⟩
  · rw [List.map_map, List.map_map]
    exact hLocations.symm.trans hNumbers
  · rw [← nodup_readable_iff 0 hOwn, ← ((readOrder_perm inputs).map _).nodup_iff, hNumbers,
      List.map_map]
    rfl

/-- Three numbers at location 1, and four without a location, at index 1. -/
def clashingInputs : List StageInput :=
  [⟨"inPos", some 1, .float, 32, 3, 1⟩, ⟨"inColor", none, .float, 32, 4, 1⟩]

theorem nodup_bindings_iff_of_clash : (∀ i ∈ clashingInputs, i.Fits) ∧
    (clashingInputs.filterMap StageInput.location).Nodup ∧ ∃ layout rejected,
      ofInputs clashingInputs = some (layout, rejected) ∧
      layout.bindings = [⟨1, 12, .perVertex⟩, ⟨1, 16, .perVertex⟩] ∧
      ¬ (layout.attributes.map VertexAttribute.location).Nodup ∧
      ¬ (layout.bindings.map VertexBinding.binding).Nodup := by
  have hFits : ∀ i ∈ clashingInputs, i.Fits := by decide
  have hOwn : (clashingInputs.filterMap StageInput.location).Nodup := by decide
  have hBindings : (ofInputs clashingInputs).map (·.1.bindings) =
      some [⟨1, 12, .perVertex⟩, ⟨1, 16, .perVertex⟩] := by decide
  obtain ⟨layout, rejected, hRun, hSame, hDistinct⟩ := nodup_bindings_iff clashingInputs hFits hOwn
  rw [hRun, Option.map_some, Option.some.injEq] at hBindings
  have hClash : ¬ (layout.bindings.map VertexBinding.binding).Nodup := by
    intro h
    exact hDistinct.mp h (⟨"inColor", none, .float, 32, 4, 1⟩, 1) (by decide)
      (⟨"inPos", some 1, .float, 32, 3, 1⟩, 0) (by decide) ⟨by decide, rfl, rfl⟩
  exact ⟨hFits, hOwn, layout, rejected, hRun, hBindings, hSame ▸ hClash, hClash⟩

end VertexLayout

end RenderLoop
