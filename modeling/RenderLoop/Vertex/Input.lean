import RenderLoop.Shader.Interface
import RenderLoop.Checked
import RenderLoop.Log.Entry
import RenderLoop.Sorting

/-!
# RenderLoop — vertex input

The vertex attributes of a program and the buffer bindings they are read from,
derived from the inputs of the vertex stage. Attributes are not interleaved: each
has a buffer binding of its own, numbered like its location. An input without a
location takes its index in the list of inputs. An input without a vertex format
is left out and reported.

The stride of an attribute is the size of one column times the number of
columns; there is no layout when it does not fit in 32 bits.
-/

namespace RenderLoop

/-- When a buffer binding moves on to its next element. -/
inductive InputRate where
  | perVertex
  | perInstance
  deriving DecidableEq, Repr, Inhabited

def InputRate.name : InputRate → String
  | perVertex => "Vertex"
  | perInstance => "Instance"

instance : Named InputRate := ⟨[.perVertex, .perInstance], InputRate.name⟩

/-- A buffer that attributes are read from. -/
structure VertexBinding where
  binding : UInt32
  /-- The distance between elements in bytes. -/
  stride : UInt32
  rate : InputRate
  deriving DecidableEq, Repr, Inhabited

/-- A vertex attribute. -/
structure VertexAttribute where
  location : UInt32
  /-- The buffer binding the attribute is read from. -/
  binding : UInt32
  format : VertexFormat
  /-- The place of the attribute in an element, in bytes. -/
  offset : UInt32
  deriving DecidableEq, Repr, Inhabited

/-- The vertex input of a program. -/
structure VertexLayout where
  bindings : List VertexBinding := []
  attributes : List VertexAttribute := []
  deriving DecidableEq, Repr, Inhabited

namespace StageInput

/-- The vertex format of an input, if it has one. -/
def format? (i : StageInput) : Option VertexFormat :=
  VertexFormat.ofComponents? i.kind i.bits i.components

/-- The location of an input, or else its index. -/
def locationAt (i : StageInput) (index : Nat) : UInt32 := i.location.getD (UInt32.ofNat index)

/-- The bytes of one element of an input. -/
def stride? (i : StageInput) : Option UInt32 := do
  Checked.mul32 (← Checked.mul32 (i.bits / 8) i.components) i.columns

end StageInput

/-- An input without a vertex format, with the location it would have had. -/
structure RejectedInput where
  input : StageInput
  location : UInt32
  deriving DecidableEq, Repr, Inhabited

namespace RejectedInput

/-- The text about a rejected input. -/
def message (r : RejectedInput) : String :=
  s!"Vertex input '{r.input.name}' at location {r.location} has no vertex format " ++
    s!"({r.input.kind.name}, {r.input.bits} bits, {r.input.components} components)"

def entry (r : RejectedInput) : LogEntry := .warn "ofvk::ShaderReflector" r.message

def failure (r : RejectedInput) : RenderError := .invalidResource r.message

end RejectedInput

namespace VertexLayout

/-- Whether a program reads no attributes. -/
def isEmpty (l : VertexLayout) : Bool := l.attributes.isEmpty

/-- An input with a format: its attribute and its binding. -/
structure Accepted where
  binding : VertexBinding
  vertexAttribute : VertexAttribute
  deriving DecidableEq, Repr, Inhabited

/-- The attribute and the binding of an input with a format. -/
def accept? (location : UInt32) (i : StageInput) (format : VertexFormat) : Option Accepted :=
  i.stride?.map fun stride =>
    ⟨⟨location, stride, .perVertex⟩, ⟨location, location, format, 0⟩⟩

/-- Sorts inputs, the first of which has index `index`, into accepted and rejected ones. -/
def classify (index : Nat) : List StageInput → Option (List Accepted × List RejectedInput)
  | [] => some ([], [])
  | i :: rest =>
    match i.format? with
    | some format => do
      let accepted ← accept? (i.locationAt index) i format
      let (others, rejected) ← classify (index + 1) rest
      return (accepted :: others, rejected)
    | none => do
      let (others, rejected) ← classify (index + 1) rest
      return (others, ⟨i, i.locationAt index⟩ :: rejected)

/-- The layout of accepted inputs: bindings by number and attributes by location, ties in the order
of the inputs. -/
def ofAccepted (accepted : List Accepted) : VertexLayout where
  bindings := sortBy (fun a b => a.binding ≤ b.binding) (accepted.map (·.binding))
  attributes := sortBy (fun a b => a.location ≤ b.location) (accepted.map (·.vertexAttribute))

/-- The vertex input of the inputs of a vertex stage, and the inputs that are left out. -/
def ofInputs (inputs : List StageInput) : Option (VertexLayout × List RejectedInput) :=
  (classify 0 inputs).map fun (accepted, rejected) => (ofAccepted accepted, rejected)

end VertexLayout

end RenderLoop
