import RenderLoop.Descriptor.SetLayout
import RenderLoop.Op

/-!
# RenderLoop — one layout object per key

Layouts with equal keys share one object of the device. The **registry** keeps
the object of every key; an object is created on the first request for its key
and never again. How an object is made is the caller's business (`getOrCreate`
takes the operation that makes one).
-/

namespace RenderLoop

/-- Layout objects of type `α` by the key of their layout. -/
structure LayoutRegistry (α : Type) where
  byKey : SortedMap UInt64 α := {}
  deriving DecidableEq, Repr

namespace LayoutRegistry

variable {α : Type}

instance : Inhabited (LayoutRegistry α) := ⟨{}⟩

/-- The object of a key. -/
def get? (r : LayoutRegistry α) (key : UInt64) : Option α := r.byKey.get? key

def contains (r : LayoutRegistry α) (key : UInt64) : Bool := r.byKey.contains key

/-- The keys with an object, ascending. -/
def keys (r : LayoutRegistry α) : List UInt64 := r.byKey.keys

/-- The objects of all keys. -/
def objects (r : LayoutRegistry α) : List α := r.byKey.values

def size (r : LayoutRegistry α) : Nat := r.byKey.size

def isEmpty (r : LayoutRegistry α) : Bool := r.byKey.isEmpty

/-- Takes out all objects. -/
def drain (r : LayoutRegistry α) : List α × LayoutRegistry α := (r.objects, {})

/-- Stores the object of a layout. -/
def record (r : LayoutRegistry α) (layout : SetLayout) (object : α) : LayoutRegistry α :=
  ⟨r.byKey.insert layout.key object⟩

/-- The object that was stored is found by the key of its layout, all others as before. -/
theorem get?_record (r : LayoutRegistry α) (layout : SetLayout) (object : α) (key : UInt64) :
    (r.record layout object).get? key =
      if compare key layout.key = .eq then some object else r.get? key := by
  rw [get?, record, SortedMap.get?_insert]
  rfl

/-- What is logged about a new object. -/
def createdEntry (layout : SetLayout) : LogEntry :=
  .debug "ofvk::DescriptorLayoutRegistry"
    s!"Created layout for set {layout.set} (key 0x{keyText layout.key})"

/-- The object of a layout: the one there is, or else one that `create` makes. A failing creation
leaves the registry as it was. -/
def getOrCreate {τ : Type} [Logging τ] (layout : SetLayout) (create : Op τ α) :
    Op (LayoutRegistry α × τ) α := do
  match (← get).1.get? layout.key with
  | some object => pure object
  | none => do
    let object ← create.onSecond
    Op.log (createdEntry layout)
    Op.change fun s => (s.1.record layout object, s.2)
    pure object

end LayoutRegistry

end RenderLoop
