import RenderLoop.Shader.Stage
import RenderLoop.Shader.Interface
import RenderLoop.Descriptor.Kind
import RenderLoop.SortedMap
import RenderLoop.Log.Entry

/-!
# RenderLoop — the uniform blocks of a program

The stages of a program share their uniform blocks by name. A **uniform table**
has one binding per block name, and the interfaces of the stages are merged into
it one after the other:

* a block seen for the first time is entered;
* a block declared again at the same slot becomes visible to the new stage as
  well, and takes the size and members of the later declaration; if the sizes
  differ, that is reported;
* a block declared again at another slot is reported, and the later declaration
  replaces the earlier one.

A missing set or binding is read as 0, with a warning. What is noticed while
merging is collected as **notices** (`MergeNotice`); the log entries and the
failures of a merge are read off them.
-/

namespace RenderLoop

-- ---------------------------------------------------------------------------
-- Bindings and tables
-- ---------------------------------------------------------------------------

/-- The bytes of a block that a member occupies. -/
structure MemberRange where
  offset : UInt32
  range : UInt32
  deriving DecidableEq, Repr, Inhabited

/-- One descriptor binding of a program. -/
structure UniformBinding where
  name : String
  slot : Slot
  kind : DescriptorKind
  /-- The number of descriptors; always 1 for a reflected block. -/
  count : UInt32
  size : UInt32
  /-- The stages that see the binding. -/
  stages : StageMask
  members : SortedMap String MemberRange
  deriving DecidableEq, Repr, Inhabited

/-- The uniform bindings of a program by block name. -/
structure UniformTable where
  byName : SortedMap String UniformBinding := {}
  deriving DecidableEq, Repr, Inhabited

namespace UniformTable

/-- The binding of a block. -/
def get? (t : UniformTable) (name : String) : Option UniformBinding := t.byName.get? name

/-- All bindings, in the order of their names. -/
def bindings (t : UniformTable) : List UniformBinding := t.byName.values

def size (t : UniformTable) : Nat := t.byName.size

def isEmpty (t : UniformTable) : Bool := t.byName.isEmpty

end UniformTable

-- ---------------------------------------------------------------------------
-- Notices
-- ---------------------------------------------------------------------------

/-- Something noticed while merging a stage. -/
inductive MergeNotice where
  | missingSet (block : String) (stage : ShaderStage)
  | missingBinding (block : String) (stage : ShaderStage)
  | sizeChanged (block : String) (stage : ShaderStage) (earlier later : UInt32)
  | slotChanged (block : String) (stage : ShaderStage) (earlier later : Slot)
  deriving DecidableEq, Repr, Inhabited

namespace MergeNotice

def source : String := "ofvk::ShaderReflector"

/-- The text about a block whose size differs between stages. -/
def sizeChangedText (block : String) (stage : ShaderStage) (earlier later : UInt32) : String :=
  s!"Uniform block '{block}' is {earlier} bytes in an earlier stage " ++
    s!"but {later} bytes in {stage.name} stage"

/-- The log entry of a notice. -/
def entry : MergeNotice → LogEntry
  | missingSet block stage =>
    .warn source (s!"Uniform block '{block}' in {stage.name} stage has no set decoration, " ++
      "assuming set 0")
  | missingBinding block stage =>
    .warn source (s!"Uniform block '{block}' in {stage.name} stage has no binding decoration, " ++
      "assuming binding 0")
  | sizeChanged block stage earlier later =>
    .warn source (sizeChangedText block stage earlier later)
  | slotChanged block stage earlier later =>
    .error source ("Incompatible bindings between shader stages: " ++
      s!"block '{block}' is (set {earlier.set}, binding {earlier.binding}) " ++
      s!"but {stage.name} stage declares (set {later.set}, binding {later.binding})")

/-- The failure a notice amounts to, if any. -/
def failure? : MergeNotice → Option RenderError
  | missingSet _ _ | missingBinding _ _ => none
  | sizeChanged block stage earlier later =>
    some (.invalidResource (sizeChangedText block stage earlier later))
  | slotChanged block _ earlier later => some (.bindingMismatch block earlier later)

end MergeNotice

-- ---------------------------------------------------------------------------
-- Merging
-- ---------------------------------------------------------------------------

namespace UniformBlock

/-- The slot of a block, a missing decoration read as 0. -/
def slot (b : UniformBlock) : Slot := ⟨b.set.getD 0, b.binding.getD 0⟩

/-- The members of a block by name; of members with one name the last counts. -/
def memberRanges (b : UniformBlock) : SortedMap String MemberRange :=
  .ofList (b.members.map fun m => (m.name, ⟨m.offset, m.size⟩))

/-- The binding of a block that only `stage` declares. -/
def newBinding (b : UniformBlock) (stage : ShaderStage) : UniformBinding where
  name := b.name
  slot := b.slot
  kind := .uniformBufferDynamic
  count := 1
  size := b.size
  stages := stage.mask
  members := b.memberRanges

/-- The notices about decorations a block leaves out. -/
def missingNotices (b : UniformBlock) (stage : ShaderStage) : List MergeNotice :=
  (if b.set.isNone then [.missingSet b.name stage] else []) ++
    (if b.binding.isNone then [.missingBinding b.name stage] else [])

/-- The notices about a block that disagrees with an earlier declaration. -/
def conflictNotices (b : UniformBlock) (stage : ShaderStage) (earlier : UniformBinding) :
    List MergeNotice :=
  if earlier.slot ≠ b.slot then [.slotChanged b.name stage earlier.slot b.slot]
  else if earlier.size ≠ b.size then [.sizeChanged b.name stage earlier.size b.size]
  else []

end UniformBlock

namespace UniformTable

/-- The binding of a block after `stage` has declared it. -/
def mergedBinding (earlier : Option UniformBinding) (stage : ShaderStage) (b : UniformBlock) :
    UniformBinding :=
  match earlier with
  | some binding =>
    if binding.slot = b.slot then
      { binding with
        stages := binding.stages.union stage.mask, size := b.size, members := b.memberRanges }
    else b.newBinding stage
  | none => b.newBinding stage

/-- Merges one declaration. -/
def mergeBlock (t : UniformTable) (stage : ShaderStage) (b : UniformBlock) : UniformTable :=
  ⟨t.byName.insert b.name (mergedBinding (t.get? b.name) stage b)⟩

/-- What is noticed about one declaration. -/
def blockNotices (t : UniformTable) (stage : ShaderStage) (b : UniformBlock) : List MergeNotice :=
  b.missingNotices stage ++
    (match t.get? b.name with
      | some earlier => b.conflictNotices stage earlier
      | none => [])

/-- Merges declarations in order; the notices come with the table. -/
def mergeBlocks (t : UniformTable) (stage : ShaderStage) :
    List UniformBlock → UniformTable × List MergeNotice
  | [] => (t, [])
  | b :: rest =>
    let (t', notices) := (t.mergeBlock stage b).mergeBlocks stage rest
    (t', t.blockNotices stage b ++ notices)

/-- Merges the uniform blocks of a stage. -/
def mergeStage (t : UniformTable) (stage : ShaderStage) (interface : StageInterface) :
    UniformTable × List MergeNotice :=
  t.mergeBlocks stage interface.blocks

end UniformTable

end RenderLoop
