import RenderLoop.Shader.Uniforms
import RenderLoop.Hash
import RenderLoop.Sorting

/-!
# RenderLoop — descriptor set layouts

The bindings of a program grouped by set. A **set layout** lists the bindings of
one set by ascending number and has a **key**: the hash of what its bindings are,
but not of what they are called. Two layouts with the same content have the same
key, whichever program they come from and in whichever order their bindings were
found.

The sets of a program are numbered from 0 without gaps. The bindings are grouped by
set (`UniformTable.groups`), and the groups are gone through in the order of their
sets (`LayoutRun.takeGroups`). A set that is left out between two of them is a failure
under the strict policy; under the permissive one it gets an empty layout.
-/

namespace RenderLoop

-- ---------------------------------------------------------------------------
-- Keys
-- ---------------------------------------------------------------------------

namespace UniformBinding

/-- The content of a binding as words: slot, kind, count, visibility and size. -/
def content (b : UniformBinding) : List UInt32 :=
  [b.slot.set, b.slot.binding, b.kind.number, b.count, b.stages.bits, b.size]

/-- Whether a binding may stand before another in the order of numbers. -/
def numberLE (a b : UniformBinding) : Bool := a.slot.binding ≤ b.slot.binding

/-- Whether a binding may stand before another in the order of numbers, then sets. -/
def contentLE (a b : UniformBinding) : Bool :=
  a.slot.binding < b.slot.binding ||
    (a.slot.binding == b.slot.binding && a.slot.set ≤ b.slot.set)

end UniformBinding

/-- The bytes a layout key is computed from. -/
def layoutKeyBytes (bindings : List UniformBinding) : List UInt8 :=
  (sortBy UniformBinding.contentLE bindings).flatMap fun b => bytesOfWords b.content

/-- The key of a list of bindings. -/
def layoutKey (bindings : List UniformBinding) : UInt64 := Hash.ofBytes (layoutKeyBytes bindings)

-- ---------------------------------------------------------------------------
-- Layouts
-- ---------------------------------------------------------------------------

/-- The bindings of one descriptor set. -/
structure SetLayout where
  set : UInt32
  bindings : List UniformBinding
  key : UInt64
  deriving DecidableEq, Repr, Inhabited

namespace SetLayout

/-- The layout of bindings given in any order. -/
def ofBindings (set : UInt32) (bindings : List UniformBinding) : SetLayout :=
  let ordered := sortBy UniformBinding.numberLE bindings
  ⟨set, ordered, layoutKey ordered⟩

def isEmpty (l : SetLayout) : Bool := l.bindings.isEmpty

end SetLayout

/-- What happens when a set index is left out. -/
inductive SparseSetPolicy where
  /-- A gap is a failure. -/
  | error
  /-- A gap is filled with an empty layout. -/
  | allow
  deriving DecidableEq, Repr, Inhabited

instance : Named SparseSetPolicy where
  all := [.error, .allow]
  name
    | .error => "Error"
    | .allow => "Allow"

-- ---------------------------------------------------------------------------
-- The bindings of a program by set
-- ---------------------------------------------------------------------------

namespace UniformTable

/-- Puts a binding at the end of the group of its set. -/
def intoGroup (groups : SortedMap UInt32 (List UniformBinding)) (b : UniformBinding) :
    SortedMap UInt32 (List UniformBinding) :=
  groups.insert b.slot.set ((groups.get? b.slot.set).getD [] ++ [b])

/-- The bindings of each set in use, those of one set in the order of their names. -/
def groups (t : UniformTable) : SortedMap UInt32 (List UniformBinding) :=
  t.bindings.foldl intoGroup {}

end UniformTable

-- ---------------------------------------------------------------------------
-- The layouts of a program
-- ---------------------------------------------------------------------------

/-- How far the layouts of a program have been made. -/
structure LayoutRun where
  layouts : Array SetLayout := #[]
  entries : Array LogEntry := #[]
  /-- The set that the next layout is for, if no set is left out. -/
  expected : UInt32 := 0
  deriving Repr, Inhabited

namespace LayoutRun

/-- The component that layouts are logged as. -/
def component : String := "ofvk::DescriptorLayoutRegistry"

/-- What is logged about a set that must not be left out. -/
def sparseEntry (set : UInt32) : LogEntry :=
  .error component s!"Descriptor set ids cannot be sparse, missing definition for set {set}"

/-- What is logged about a set that is left out. -/
def emptyEntry (set : UInt32) : LogEntry :=
  .warn component s!"No bindings declared for set {set}, using an empty layout"

/-- Adds the layout of a set. The set after it is expected next; after the largest of all indices
there is no set, and the number is not read any more. -/
def take (r : LayoutRun) (set : UInt32) (bindings : List UniformBinding) : LayoutRun :=
  { r with layouts := r.layouts.push (.ofBindings set bindings), expected := set + 1 }

/-- Notes something in the log. -/
def log (r : LayoutRun) (e : LogEntry) : LayoutRun := { r with entries := r.entries.push e }

/-- A set before another one has a set after it. -/
theorem toNat_next {set other : UInt32} (h : set < other) : (set + 1).toNat = set.toNat + 1 := by
  have hLess := UInt32.lt_iff_toNat_lt.mp h
  have hOther := other.toNat_lt
  rw [UInt32.toNat_add, UInt32.toNat_one]
  exact Nat.mod_eq_of_lt (by omega)

/-- Goes through the sets that are left out before a set. What was logged stays also after a
failure. -/
def fillUpTo (policy : SparseSetPolicy) (set : UInt32) (r : LayoutRun) :
    Except RenderError Unit × LayoutRun :=
  if r.expected < set then
    match policy with
    | .error => (.error (.sparseDescriptorSet r.expected), r.log (sparseEntry r.expected))
    | .allow => fillUpTo policy set ((r.log (emptyEntry r.expected)).take r.expected [])
  else (.ok (), r)
termination_by set.toNat - r.expected.toNat
decreasing_by
  have hBefore : r.expected < set := ‹_›
  have hLess := UInt32.lt_iff_toNat_lt.mp hBefore
  have hNext := toNat_next hBefore
  show set.toNat - (r.expected + 1).toNat < set.toNat - r.expected.toNat
  omega

/-- Makes the layouts of groups, and those of the sets that are left out between them. -/
def takeGroups (policy : SparseSetPolicy) :
    List (UInt32 × List UniformBinding) → LayoutRun → Except RenderError Unit × LayoutRun
  | [], r => (.ok (), r)
  | (set, bindings) :: rest, r =>
    match fillUpTo policy set r with
    | (.ok (), r) => takeGroups policy rest (r.take set bindings)
    | (.error e, r) => (.error e, r)

end LayoutRun

/-- Makes the layouts of a program, set by set. -/
def layoutRun (t : UniformTable) (policy : SparseSetPolicy) : Except RenderError Unit × LayoutRun :=
  LayoutRun.takeGroups policy t.groups.entries {}

/-- The set layouts of a program: element `i` is the layout of set `i`. -/
def setLayouts (t : UniformTable) (policy : SparseSetPolicy) : Except RenderError (List SetLayout) :=
  (layoutRun t policy).1.map fun () => (layoutRun t policy).2.layouts.toList

/-- What is logged while the set layouts of a program are made. -/
def setLayoutEntries (t : UniformTable) (policy : SparseSetPolicy) : List LogEntry :=
  (layoutRun t policy).2.entries.toList

end RenderLoop
