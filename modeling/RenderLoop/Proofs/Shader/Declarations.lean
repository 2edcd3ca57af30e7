import RenderLoop.Proofs.SortedMap
import RenderLoop.Shader.Uniforms

/-!
# RenderLoop — a uniform table sums up its declarations

Merging stages into a uniform table comes to going through their **declarations**
in order, one for each block of each stage. What the table has for a name depends on
the declarations of that name only (`Sums`): everything but the stages is that of
the last one, and the stages are those of the declarations at the end that agree on
the slot. Stages are a mask with one bit each, and the bits that are set are those of
these stages, no others (`ShaderStage.testBit_mask`, `StageMask.testBit_union`).

A declaration is **complained** about exactly if the last one before it under the
same name is at another slot, or has another size.

`mergeStages_sums` says both of any number of merges into an empty table.
-/

namespace RenderLoop

-- ---------------------------------------------------------------------------
-- Declarations
-- ---------------------------------------------------------------------------

/-- A block as a stage declares it. -/
structure Declaration where
  stage : ShaderStage
  block : UniformBlock

namespace Declaration

def name (d : Declaration) : String := d.block.name

/-- The slot that is declared, a missing decoration read as 0. -/
def slot (d : Declaration) : Slot := ⟨d.block.set.getD 0, d.block.binding.getD 0⟩

/-- The last range that is declared for a member. -/
def range? (d : Declaration) (member : String) : Option MemberRange :=
  ((d.block.members.filter fun m => m.name == member).getLast?).map fun m => ⟨m.offset, m.size⟩

/-- The declarations of one name. -/
def of (name : String) (ds : List Declaration) : List Declaration :=
  ds.filter fun d => d.name == name

/-- What a declaration disagrees about with the last one before it under its name. -/
def complaint? (earlier : List Declaration) (d : Declaration) : Option RenderError :=
  (of d.name earlier).getLast?.bind fun previous =>
    if previous.slot ≠ d.slot then some (.bindingMismatch d.name previous.slot d.slot)
    else if previous.block.size ≠ d.block.size then
      some (.invalidResource
        (MergeNotice.sizeChangedText d.name d.stage previous.block.size d.block.size))
    else none

/-- The complaints about declarations in order, each after those before it. -/
def complaints (earlier : List Declaration) : List Declaration → List RenderError
  | [] => []
  | d :: rest => (complaint? earlier d).toList ++ complaints (earlier ++ [d]) rest

/-- The declarations at the end that are at one slot. -/
def lastRun (slot : Slot) (ds : List Declaration) : List Declaration :=
  ds.reverse.takeWhile fun d => d.slot = slot

end Declaration

/-- The declarations of a stage with its interface. -/
def StageInterface.declarations (stage : ShaderStage) (interface : StageInterface) :
    List Declaration :=
  interface.blocks.map (⟨stage, ·⟩)

/-- The declarations of stages in order. -/
def declarations (stages : List (ShaderStage × StageInterface)) : List Declaration :=
  stages.flatMap fun s => s.2.declarations s.1

open Declaration

-- ---------------------------------------------------------------------------
-- Masks bit by bit
-- ---------------------------------------------------------------------------

/-- The mask of a stage has one bit, at the place of the stage in the pipeline. -/
theorem ShaderStage.testBit_mask (stage : ShaderStage) (bit : Nat) :
    stage.mask.bits.toNat.testBit bit = true ↔ stage.position = bit := by
  have hPower : stage.mask.bits.toNat = 2 ^ stage.position := by
    cases stage <;> rfl
  rw [hPower, Nat.testBit_two_pow, decide_eq_true_eq]

/-- Two masks together have the bits of both. -/
theorem StageMask.testBit_union (a b : StageMask) (bit : Nat) :
    (a.union b).bits.toNat.testBit bit = true ↔
      a.bits.toNat.testBit bit = true ∨ b.bits.toNat.testBit bit = true := by
  rw [StageMask.union, UInt32.toNat_or, Nat.testBit_or, Bool.or_eq_true]

-- ---------------------------------------------------------------------------
-- What a table has to say about declarations
-- ---------------------------------------------------------------------------

/-- A binding sums up the declarations of its name. -/
structure UniformBinding.Sums (b : UniformBinding) (name : String) (ds : List Declaration) : Prop where
  name : b.name = name
  last : ∃ d, ds.getLast? = some d ∧ b.slot = d.slot ∧ b.size = d.block.size ∧
    ∀ member, b.members.get? member = d.range? member
  stages : ∀ bit, b.stages.bits.toNat.testBit bit = true ↔
    ∃ d ∈ lastRun b.slot ds, d.stage.position = bit
  kind : b.kind = .uniformBufferDynamic
  count : b.count = 1

/-- A table has one binding for each name that is declared. -/
structure UniformTable.Sums (t : UniformTable) (ds : List Declaration) : Prop where
  nodup : t.byName.keys.Nodup
  declared : ∀ name, name ∈ t.byName.keys ↔ ∃ d ∈ ds, d.name = name
  binding : ∀ name b, (name, b) ∈ t.byName.entries → b.Sums name (of name ds)

namespace Declaration

/-- A later declaration of the name comes last. -/
theorem of_append_self (d : Declaration) (ds : List Declaration) :
    of d.name (ds ++ [d]) = of d.name ds ++ [d] := by
  simp [of]

/-- One of another name is not among them. -/
theorem of_append_of_ne {d : Declaration} {name : String} (hName : d.name ≠ name)
    (ds : List Declaration) : of name (ds ++ [d]) = of name ds := by
  simp [of, hName]

/-- A declaration at the same slot extends the last run. -/
theorem lastRun_append_self (d : Declaration) (ds : List Declaration) :
    lastRun d.slot (ds ++ [d]) = d :: lastRun d.slot ds := by
  simp [lastRun]

/-- A run does not go back beyond a declaration at another slot. -/
theorem lastRun_of_ne {slot : Slot} {d : Declaration} {ds : List Declaration}
    (hLast : ds.getLast? = some d) (hSlot : d.slot ≠ slot) : lastRun slot ds = [] := by
  obtain ⟨before, rfl⟩ := List.getLast?_eq_some_iff.mp hLast
  simp [lastRun, hSlot]

/-- The members of a block that is entered are those that were declared last. -/
theorem get?_memberRanges (d : Declaration) (member : String) :
    d.block.memberRanges.get? member = d.range? member := by
  rw [UniformBlock.memberRanges, SortedMap.get?_ofList, range?, List.filter_map,
    List.getLast?_map, Option.map_map]
  rfl

end Declaration

-- ---------------------------------------------------------------------------
-- Merging one declaration
-- ---------------------------------------------------------------------------

namespace UniformTable

variable {t : UniformTable} {ds : List Declaration}

/-- An entry sums up the declarations of its name. -/
theorem Sums.get? (h : t.Sums ds) {name : String} {b : UniformBinding} (hGet : t.get? name = some b) :
    b.Sums name (of name ds) :=
  h.binding name b ((SortedMap.mem_entries_iff t.byName name b).mpr hGet)

/-- What a table has no binding for was not declared. -/
theorem Sums.of_eq_nil (h : t.Sums ds) {name : String} (hGet : t.get? name = none) :
    of name ds = [] := by
  rw [of, List.filter_eq_nil_iff]
  intro d hd hName
  have hKey : name ∈ t.byName.keys := (h.declared name).mpr ⟨d, hd, beq_iff_eq.mp hName⟩
  obtain ⟨b, hSome⟩ := (SortedMap.mem_keys_iff t.byName name).mp hKey
  rw [UniformTable.get?, hSome] at hGet
  cases hGet

/-- The first declaration after those of other slots, or of none, starts a run. -/
theorem sums_newBinding (d : Declaration) (hRun : lastRun d.slot ds = []) :
    (d.block.newBinding d.stage).Sums d.name (ds ++ [d]) where
  name := rfl
  last := ⟨d, by simp, rfl, rfl, get?_memberRanges d⟩
  stages bit := by
    show d.stage.mask.bits.toNat.testBit bit = true ↔ ∃ e ∈ lastRun d.slot (ds ++ [d]), _
    rw [lastRun_append_self, hRun, d.stage.testBit_mask]
    simp only [List.mem_singleton, exists_eq_left]
  kind := rfl
  count := rfl

/-- A merged binding sums up the declarations with the new one among them. -/
theorem sums_mergedBinding (h : t.Sums ds) (d : Declaration) :
    (mergedBinding (t.get? d.name) d.stage d.block).Sums d.name (of d.name ds ++ [d]) := by
  cases hGet : t.get? d.name with
  | none =>
    refine sums_newBinding d ?_
    rw [h.of_eq_nil hGet]
    rfl
  | some b =>
    have hSums := h.get? hGet
    obtain ⟨last, hLast, hSlot, -, -⟩ := hSums.last
    rw [mergedBinding]
    split
    · rename_i hSame
      refine ⟨hSums.name, ⟨d, by simp, hSame, rfl, get?_memberRanges d⟩, fun bit => ?_,
        hSums.kind, hSums.count⟩
      show (b.stages.union d.stage.mask).bits.toNat.testBit bit = true ↔
        ∃ e ∈ lastRun b.slot (of d.name ds ++ [d]), e.stage.position = bit
      -- the run has become longer by the new declaration, and the mask by the bit of its stage
      have hSlot' : b.slot = d.slot := hSame
      rw [StageMask.testBit_union, hSums.stages, d.stage.testBit_mask, hSlot',
        lastRun_append_self, or_comm]
      simp only [List.mem_cons, or_and_right, exists_or, exists_eq_left]
    · rename_i hOther
      refine sums_newBinding d (lastRun_of_ne hLast ?_)
      rw [← hSlot]
      exact hOther

/-- One declaration more. -/
theorem Sums.mergeBlock (h : t.Sums ds) (d : Declaration) :
    (t.mergeBlock d.stage d.block).Sums (ds ++ [d]) where
  nodup := SortedMap.nodup_keys _
  declared name := by
    have hBefore := h.declared name
    rw [SortedMap.mem_keys_iff] at hBefore ⊢
    simp only [UniformTable.mergeBlock, SortedMap.get?_insert, Std.compare_eq_iff_eq]
    -- only the block's own name is entered
    by_cases hName : d.name = name
    · subst hName
      simp [Declaration.name]
    · have hName' : name ≠ d.block.name := fun hEq => hName hEq.symm
      simp only [if_neg hName', hBefore, List.mem_append, List.mem_singleton, or_and_right,
        exists_or, exists_eq_left, hName, or_false]
  binding name b hEntry := by
    rw [SortedMap.mem_entries_iff] at hEntry
    simp only [UniformTable.mergeBlock, SortedMap.get?_insert, Std.compare_eq_iff_eq] at hEntry
    split at hEntry
    · rename_i hName
      -- the entry of the block's name is the merged one, all others stay
      obtain rfl : name = d.name := hName
      cases hEntry
      rw [of_append_self]
      exact sums_mergedBinding h d
    · rename_i hName
      rw [of_append_of_ne (fun hEq => hName hEq.symm)]
      exact h.get? hEntry

/-- The failures among the notices about a declaration are its complaints. -/
theorem Sums.failures (h : t.Sums ds) (d : Declaration) :
    (t.blockNotices d.stage d.block).filterMap (·.failure?) = (complaint? ds d).toList := by
  -- a missing decoration is a notice and no failure
  have hMissing : (d.block.missingNotices d.stage).filterMap (·.failure?) = [] := by
    rw [UniformBlock.missingNotices]
    split <;> split <;> rfl
  rw [blockNotices, List.filterMap_append, hMissing, List.nil_append, complaint?]
  cases hGet : t.get? d.block.name with
  | none =>
    have hGet' : t.get? d.name = none := hGet
    rw [h.of_eq_nil hGet']
    rfl
  | some b =>
    have hGet' : t.get? d.name = some b := hGet
    -- the entry has the slot and the size of the last declaration, with which the new one is
    -- compared
    obtain ⟨last, hLast, hSlot, hSize, -⟩ := (h.get? hGet').last
    have hLast' : (of d.name ds).getLast? = some last := hLast
    rw [hLast', Option.bind_some, ← hSlot, ← hSize]
    simp only [UniformBlock.conflictNotices]
    have hOwn : d.block.slot = d.slot := rfl
    rw [hOwn]
    split
    · rfl
    · split <;> rfl

-- ---------------------------------------------------------------------------
-- Merging stages
-- ---------------------------------------------------------------------------

/-- Merges the interfaces of stages in order. The failures come with the table. -/
def mergeStages (t : UniformTable) :
    List (ShaderStage × StageInterface) → UniformTable × List RenderError
  | [] => (t, [])
  | (stage, interface) :: rest =>
    let (t', notices) := t.mergeStage stage interface
    let (t'', failures) := t'.mergeStages rest
    (t'', notices.filterMap (·.failure?) ++ failures)

theorem complaints_append (earlier ds ds' : List Declaration) :
    complaints earlier (ds ++ ds') = complaints earlier ds ++ complaints (earlier ++ ds) ds' := by
  induction ds generalizing earlier with
  | nil => simp [complaints]
  | cons d rest ih => simp [complaints, ih]

theorem Sums.mergeBlocks (h : t.Sums ds) (stage : ShaderStage) (blocks : List UniformBlock) :
    (t.mergeBlocks stage blocks).1.Sums (ds ++ blocks.map (⟨stage, ·⟩)) ∧
      (t.mergeBlocks stage blocks).2.filterMap (·.failure?) =
        complaints ds (blocks.map (⟨stage, ·⟩)) := by
  induction blocks generalizing t ds with
  | nil => exact ⟨by simpa [UniformTable.mergeBlocks] using h, rfl⟩
  | cons b rest ih =>
    obtain ⟨hSums, hFailures⟩ := ih (h.mergeBlock ⟨stage, b⟩)
    simp only [UniformTable.mergeBlocks, List.map_cons, complaints, List.filterMap_append]
    refine ⟨by simpa using hSums, ?_⟩
    rw [hFailures]
    exact congrArg (· ++ _) (h.failures ⟨stage, b⟩)

/-- The table of all stages sums up their declarations, and its failures are the complaints about
them. -/
theorem Sums.mergeStages (h : t.Sums ds) (stages : List (ShaderStage × StageInterface)) :
    (t.mergeStages stages).1.Sums (ds ++ declarations stages) ∧
      (t.mergeStages stages).2 = complaints ds (declarations stages) := by
  induction stages generalizing t ds with
  | nil => exact ⟨by simpa [UniformTable.mergeStages, declarations] using h, rfl⟩
  | cons s rest ih =>
    obtain ⟨hTable, hFailures⟩ := h.mergeBlocks s.1 s.2.blocks
    obtain ⟨hSums, hLater⟩ := ih hTable
    have hAll : declarations (s :: rest) = s.2.declarations s.1 ++ declarations rest := rfl
    rw [hAll, ← List.append_assoc, complaints_append]
    exact ⟨hSums, congrArg₂ (· ++ ·) hFailures hLater⟩

/-- The empty table sums up no declarations. -/
theorem sums_empty : ({} : UniformTable).Sums [] := by
  refine ⟨List.nodup_nil, ?_, ?_⟩
  · intro name
    simp [SortedMap.keys, EmptyCollection.emptyCollection, SortedMap.empty]
  · intro name b hEntry
    cases hEntry

/-- **A uniform table sums up the declarations that were merged into it**, and the failures of the
merges are the complaints about them. -/
theorem mergeStages_sums (stages : List (ShaderStage × StageInterface)) :
    (mergeStages {} stages).1.Sums (declarations stages) ∧
      (mergeStages {} stages).2 = complaints [] (declarations stages) := by
  have hSums := sums_empty.mergeStages stages
  rwa [List.nil_append] at hSums

end UniformTable

end RenderLoop
