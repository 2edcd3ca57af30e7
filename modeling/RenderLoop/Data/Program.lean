import RenderLoop.Data.Values
import RenderLoop.Descriptor.Budget
import RenderLoop.Descriptor.Write
import RenderLoop.Shader.Program

/-!
# RenderLoop — reports of shader programs

The interfaces of stages are reported as they were reflected, and what is derived from them
with all its fields. A program is reported with the hashes of its stages, its uniform
bindings, its vertex input and its set layouts.
-/

namespace RenderLoop.Data

-- ---------------------------------------------------------------------------
-- Stage interfaces
-- ---------------------------------------------------------------------------

instance : Reportable BlockMember :=
  ⟨fun m => record [("name", report m.name), ("offset", report m.offset), ("size", report m.size)]⟩

instance : Reportable UniformBlock :=
  ⟨fun b => record [("name", report b.name), ("set", report b.set), ("binding", report b.binding),
    ("size", report b.size), ("members", report b.members)]⟩

instance : Reportable StageInput :=
  ⟨fun i => record [("name", report i.name), ("location", report i.location),
    ("kind", report i.kind), ("bits", report i.bits), ("vec_size", report i.components),
    ("columns", report i.columns)]⟩

instance : Reportable StageInterface :=
  ⟨fun m => record [("blocks", report m.blocks), ("inputs", report m.inputs)]⟩

-- ---------------------------------------------------------------------------
-- Bindings, layouts and vertex input
-- ---------------------------------------------------------------------------

/-- A key is reported as a text of hexadecimal digits. -/
def ofKey (key : UInt64) : Data := text (keyText key)

instance : Reportable MemberRange := ⟨fun r => report [r.offset, r.range]⟩

instance : Reportable UniformBinding :=
  ⟨fun b => record [("name", report b.name), ("set", report b.slot.set),
    ("binding", report b.slot.binding), ("type", report b.kind), ("count", report b.count),
    ("size", report b.size), ("stages", report b.stages.bits),
    ("members", record (b.members.entries.map fun (n, r) => (n, report r)))]⟩

instance : Reportable SetLayout :=
  ⟨fun l => record [("set", report l.set), ("empty", report l.isEmpty), ("key", ofKey l.key),
    ("bindings", report l.bindings)]⟩

instance : Reportable VertexLayout :=
  ⟨fun l => record [
    ("bindings", list (l.bindings.map fun b =>
      list [report b.binding, report b.stride, report b.rate])),
    ("attributes", list (l.attributes.map fun a =>
      list [report a.location, report a.binding, report a.format, report a.offset])),
    ("empty", report l.isEmpty)]⟩

instance : Reportable BufferRegion :=
  ⟨fun r => list [report r.buffer, report r.offset, report r.range]⟩

instance : Reportable DescriptorWrite :=
  ⟨fun w => list [report w.setIndex, report w.binding, report w.kind, report w.count,
    report w.region.buffer, report w.region.offset, report w.region.range]⟩

instance : Reportable PoolSizes :=
  ⟨fun s => record [("counts", report s.counts.entries), ("max_sets", report s.maxSets)]⟩

-- ---------------------------------------------------------------------------
-- Programs
-- ---------------------------------------------------------------------------

instance : Reportable ShaderSource := ⟨fun s => list [report s.stage, report s.path]⟩

instance : Reportable CompileReport :=
  ⟨fun r => record [("rebuilt", report r.rebuilt), ("errors", report r.errors)]⟩

instance : Reportable Program :=
  ⟨fun p => record [("generation", report p.generation),
    ("stages", list (p.code.entries.map fun (stage, code) =>
      list [report stage, ofKey code.hash])),
    ("uniforms", report p.uniforms.bindings), ("vertex_input", report p.vertexInput),
    ("layouts", list (p.layouts.map fun l =>
      list [report l.set, report l.bindings.length, ofKey l.key])),
    ("keys", list (p.layouts.map fun l => ofKey l.key))]⟩

end RenderLoop.Data
