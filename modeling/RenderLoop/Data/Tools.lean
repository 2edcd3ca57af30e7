import RenderLoop.Data.Read
import RenderLoop.Rehearsal.Tools
import RenderLoop.Rehearsal.Device

/-!
# RenderLoop — reading rehearsals

How a rehearsal is read from plain data: the interfaces and layouts that it is about, the
changes of its files, the fixed answers of its tools and the faults of its device.
-/

namespace RenderLoop.Data

-- ---------------------------------------------------------------------------
-- Stage interfaces, bindings and layouts
-- ---------------------------------------------------------------------------

instance : Readable BlockMember :=
  ⟨fun d => do return ⟨← d.get "name", ← d.get "offset", ← d.get "size"⟩⟩

instance : Readable UniformBlock := ⟨fun d => do
  return ⟨← d.get "name", ← d.get "set", ← d.get "binding", ← d.get "size",
    ← d.getD "members" []⟩⟩

instance : Readable StageInput := ⟨fun d => do
  return ⟨← d.get "name", ← d.get "location", ← d.get "kind", ← d.get "bits",
    ← d.get "vec_size", ← d.get "columns"⟩⟩

instance : Readable StageInterface :=
  ⟨fun d => do return ⟨← d.getD "blocks" [], ← d.getD "inputs" []⟩⟩

instance : Readable MemberRange := ⟨fun d => do
  let (offset, range) ← ofData d
  return ⟨offset, range⟩⟩

instance : Readable UniformBinding := ⟨fun d => do
  let members : List (String × MemberRange) ← table ofData (d.field "members")
  return ⟨← d.get "name", ⟨← d.get "set", ← d.get "binding"⟩, ← d.get "type", ← d.get "count",
    ← d.get "size", ⟨← d.get "stages"⟩, .ofList members⟩⟩

instance : Readable SetLayout :=
  ⟨fun d => do return .ofBindings (← d.get "set") (← d.get "bindings")⟩

-- ---------------------------------------------------------------------------
-- Files
-- ---------------------------------------------------------------------------

/-- The change of a directory tree that a record describes, if it describes one. -/
def fileChange? (d : Data) (t : Files) : Reading (Option Files) := do
  let path : Reading String := d.get "path"
  match (← d.getD "do" "" : String) with
  | "write" => return some (t.install (← path) (← (d.field "hex").bytes))
  | "write_text" => return some (t.install (← path) (← d.get "text" : String).toUTF8.toList)
  | "write_words" => return some (t.install (← path) (bytesOfWords (← d.get "words")))
  | "remove" => return some (t.remove (← path))
  | "mkdir" => return some (t.installDirectory (← path))
  | _ => return none

-- ---------------------------------------------------------------------------
-- Tools and devices
-- ---------------------------------------------------------------------------

/-- A compiler with one answer for everything. -/
def fixedCompiler (d : Data) : Reading RehearsedCompiler := .fixed <$> d.get "words"

/-- A compiler that looks its answers up by the name of the file. -/
def compilerTable (d : Data) : Reading RehearsedCompiler :=
  .table <$> table (outcome "error" fun d => d.get "words") (d.field "results")

/-- A reflector with an interface for some stages. -/
def fixedReflector (d : Data) : Reading RehearsedReflector :=
  .fixed <$> table ofData (d.field "modules")

/-- A reflector that looks its answers up by the stage. -/
def reflectorTable (d : Data) : Reading RehearsedReflector :=
  .table <$> table (outcome "error" ofData) (d.field "results")

instance : Readable DeviceFault := ⟨fun d => do
  let effect : FaultEffect ←
    if d.has "error" then .fail <$> d.get "error" else .miscount <$> d.getD "count" 0
  return ⟨← d.get "call", ← d.get "at", effect⟩⟩

end RenderLoop.Data
