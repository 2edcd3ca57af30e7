import RenderLoop.Descriptor.SetLayout
import RenderLoop.Checked
import RenderLoop.Op

/-!
# RenderLoop — pool sizes and the descriptor budget

A descriptor pool is created for a number of sets and a number of descriptors of
each kind. **Pool sizes** are computed from the programs that will use the pool;
the **budget** keeps what is left of a pool, so that a request that does not fit
is refused before the device is asked.

A request reserves one set per layout and the descriptors of all its bindings, or
nothing at all (`DescriptorBudget.reserve`). Sums that do not fit in 32 bits have
no answer.
-/

namespace RenderLoop

/-- Descriptor counts by kind and the number of sets of a pool. -/
structure PoolSizes where
  counts : SortedMap DescriptorKind UInt32 := {}
  maxSets : UInt32 := 0
  deriving DecidableEq, Repr, Inhabited

/-- Adds to the count of a kind. -/
def addCount (counts : SortedMap DescriptorKind UInt32) (kind : DescriptorKind) (n : UInt32) :
    Option (SortedMap DescriptorKind UInt32) :=
  (Checked.add32 ((counts.get? kind).getD 0) n).map (counts.insert kind)

/-- Adds the descriptors of a list of bindings. -/
def countBindings (counts : SortedMap DescriptorKind UInt32) (bindings : List UniformBinding) :
    Option (SortedMap DescriptorKind UInt32) :=
  bindings.foldlM (fun c b => addCount c b.kind b.count) counts

namespace PoolSizes

/-- The sizes of a pool for programs given by their uniform tables and numbers of set layouts.
Empty layouts that fill gaps need a set each, so there are at least as many sets as layouts. -/
def ofPrograms (programs : List (UniformTable × Nat)) : Option PoolSizes := do
  let counts ← programs.foldlM (fun c p => countBindings c p.1.bindings) {}
  let layouts ← programs.foldlM (fun n p => Checked.add32 n (UInt32.ofNat p.2)) 0
  let descriptors ← counts.values.foldlM Checked.add32 0
  return ⟨counts, max descriptors layouts⟩

end PoolSizes

/-- What is left of a pool. -/
structure DescriptorBudget where
  remainingSets : UInt32
  remainingCounts : List (DescriptorKind × UInt32)
  deriving DecidableEq, Repr, Inhabited

/-- Why a request does not fit. -/
inductive PoolShortage where
  | sets (requested remaining : UInt32)
  | descriptors (kind : DescriptorKind) (requested remaining : UInt32)
  deriving DecidableEq, Repr, Inhabited

namespace PoolShortage

/-- The text about a shortage. -/
def message : PoolShortage → String
  | sets requested remaining => s!"{requested} set(s) requested, {remaining} remaining"
  | descriptors kind requested remaining =>
    s!"{requested} {kind.name} descriptor(s) requested, {remaining} remaining"

def failure (s : PoolShortage) : RenderError := .descriptorPoolExhausted s.message

def entry (s : PoolShortage) : LogEntry :=
  .error "ofvk::DescriptorPoolAllocator" ("Descriptor pool exhausted: " ++ s.message)

end PoolShortage

namespace DescriptorBudget

/-- The budget of a new pool. -/
def ofSizes (sizes : PoolSizes) : DescriptorBudget := ⟨sizes.maxSets, sizes.counts.entries⟩

/-- What is left of one kind. -/
def remaining (b : DescriptorBudget) (kind : DescriptorKind) : UInt32 :=
  (b.remainingCounts.lookup kind).getD 0

/-- The descriptors a request needs. -/
def needed (layouts : List SetLayout) : Option (SortedMap DescriptorKind UInt32) :=
  layouts.foldlM (fun c l => countBindings c l.bindings) {}

/-- The first kind of which more is needed than is left. -/
def firstShortage? (b : DescriptorBudget) (needed : SortedMap DescriptorKind UInt32) :
    Option PoolShortage :=
  needed.entries.findSome? fun (kind, n) =>
    if n > b.remaining kind then some (.descriptors kind n (b.remaining kind)) else none

/-- The budget after a request that fits. -/
def spend (b : DescriptorBudget) (sets : UInt32) (needed : SortedMap DescriptorKind UInt32) :
    DescriptorBudget where
  remainingSets := b.remainingSets - sets
  remainingCounts :=
    b.remainingCounts.map fun (kind, n) => (kind, n - (needed.get? kind).getD 0)

/-- Reserves one set per layout with all its descriptors: the new budget, or why it does not fit. -/
def reserve (b : DescriptorBudget) (layouts : List SetLayout) :
    Option (Except PoolShortage DescriptorBudget) :=
  let sets := UInt32.ofNat layouts.length
  if sets > b.remainingSets then some (.error (.sets sets b.remainingSets))
  else do
    let needed ← needed layouts
    match b.firstShortage? needed with
    | some shortage => return .error shortage
    | none => return .ok (b.spend sets needed)

/-- Reserves from the budget of a world, or logs and fails with the shortage. -/
def request {τ : Type} [Logging τ] (layouts : List SetLayout) :
    Op (DescriptorBudget × τ) Unit := do
  match ← Op.ofOption ((← get).1.reserve layouts) with
  | .ok b => Op.change fun s => (b, s.2)
  | .error s => Op.failWith s.entry s.failure

end DescriptorBudget

end RenderLoop
