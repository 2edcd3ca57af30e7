import RenderLoop.Binary32
import RenderLoop.Bytes
import RenderLoop.Checked
import RenderLoop.Config
import RenderLoop.Data
import RenderLoop.Data.Gpu
import RenderLoop.Data.Program
import RenderLoop.Data.Read
import RenderLoop.Data.Rehearsal
import RenderLoop.Data.Renderer
import RenderLoop.Data.Tools
import RenderLoop.Data.Values
import RenderLoop.Descriptor.Budget
import RenderLoop.Descriptor.Kind
import RenderLoop.Descriptor.LayoutRegistry
import RenderLoop.Descriptor.SetLayout
import RenderLoop.Descriptor.Write
import RenderLoop.Error
import RenderLoop.Files
import RenderLoop.Frame.Device
import RenderLoop.Frame.Recorder
import RenderLoop.Frame.Synchronizer
import RenderLoop.Gpu.Allocation
import RenderLoop.Gpu.Blend
import RenderLoop.Gpu.Call
import RenderLoop.Gpu.Capabilities
import RenderLoop.Gpu.Context
import RenderLoop.Gpu.Creation
import RenderLoop.Gpu.Descriptors
import RenderLoop.Gpu.Device
import RenderLoop.Gpu.FormatName
import RenderLoop.Gpu.FrameMemory
import RenderLoop.Gpu.Host
import RenderLoop.Gpu.Message
import RenderLoop.Gpu.Number
import RenderLoop.Gpu.PipelineCache
import RenderLoop.Gpu.Pipelines
import RenderLoop.Gpu.Probe
import RenderLoop.Gpu.RenderTargets
import RenderLoop.Gpu.Result
import RenderLoop.Gpu.ShaderModules
import RenderLoop.Gpu.Simulation
import RenderLoop.Gpu.Swapchain
import RenderLoop.Hash
import RenderLoop.Log.Calendar
import RenderLoop.Log.Console
import RenderLoop.Log.Entry
import RenderLoop.Memory.Linear
import RenderLoop.Memory.Written
import RenderLoop.Mesh.Draw
import RenderLoop.Op
import RenderLoop.Op.Lemmas
import RenderLoop.Pipeline.Registry
import RenderLoop.Pipeline.State
import RenderLoop.Proofs.Descriptor.Accounts
import RenderLoop.Proofs.Descriptor.BoundSets
import RenderLoop.Proofs.Descriptor.Budget
import RenderLoop.Proofs.Descriptor.DynamicSlots
import RenderLoop.Proofs.Descriptor.LayoutKey
import RenderLoop.Proofs.Descriptor.LayoutObjects
import RenderLoop.Proofs.Descriptor.PoolRoom
import RenderLoop.Proofs.Descriptor.SetLayout
import RenderLoop.Proofs.Descriptor.Slots
import RenderLoop.Proofs.Descriptor.Tables
import RenderLoop.Proofs.Files
import RenderLoop.Proofs.Frame.BufferLife
import RenderLoop.Proofs.Frame.CurrentFrame
import RenderLoop.Proofs.Frame.DrawCount
import RenderLoop.Proofs.Frame.ImageLayouts
import RenderLoop.Proofs.Frame.Machine
import RenderLoop.Proofs.Frame.OwnedBuffers
import RenderLoop.Proofs.Frame.Ownership
import RenderLoop.Proofs.Frame.Progress
import RenderLoop.Proofs.Frame.Recorder
import RenderLoop.Proofs.Frame.SemaphoreUse
import RenderLoop.Proofs.Frame.Session
import RenderLoop.Proofs.Frame.Steadfast
import RenderLoop.Proofs.Frame.Synchronizer
import RenderLoop.Proofs.Frame.Totality
import RenderLoop.Proofs.Frame.Transitions
import RenderLoop.Proofs.Gpu.Buffers
import RenderLoop.Proofs.Gpu.Bystanders
import RenderLoop.Proofs.Gpu.CacheFile
import RenderLoop.Proofs.Gpu.Course
import RenderLoop.Proofs.Gpu.DeviceBooks
import RenderLoop.Proofs.Gpu.FrameBooks
import RenderLoop.Proofs.Gpu.Frames
import RenderLoop.Proofs.Gpu.Growth
import RenderLoop.Proofs.Gpu.History
import RenderLoop.Proofs.Gpu.Holdings
import RenderLoop.Proofs.Gpu.Lifetimes
import RenderLoop.Proofs.Gpu.Made
import RenderLoop.Proofs.Gpu.Origins
import RenderLoop.Proofs.Gpu.PairState
import RenderLoop.Proofs.Gpu.Passes
import RenderLoop.Proofs.Gpu.ProgramEstate
import RenderLoop.Proofs.Gpu.Recorder
import RenderLoop.Proofs.Gpu.Screen
import RenderLoop.Proofs.Gpu.ScreenEstate
import RenderLoop.Proofs.Gpu.Sizes
import RenderLoop.Proofs.Gpu.Storage
import RenderLoop.Proofs.Gpu.StoredBytes
import RenderLoop.Proofs.Gpu.UniformAlignment
import RenderLoop.Proofs.Gpu.Watermark
import RenderLoop.Proofs.Memory.Linear
import RenderLoop.Proofs.Op.Agree
import RenderLoop.Proofs.Op.Ensures
import RenderLoop.Proofs.Op.Noted
import RenderLoop.Proofs.Op.Total
import RenderLoop.Proofs.Op.Within
import RenderLoop.Proofs.Pipeline.Builds
import RenderLoop.Proofs.Pipeline.Key
import RenderLoop.Proofs.Rehearsal.BufferRule
import RenderLoop.Proofs.Rehearsal.Cause
import RenderLoop.Proofs.Rehearsal.LayoutRule
import RenderLoop.Proofs.Rehearsal.Live
import RenderLoop.Proofs.Rehearsal.Plan
import RenderLoop.Proofs.Rehearsal.SemaphoreRule
import RenderLoop.Proofs.Renderer.AcceptedState
import RenderLoop.Proofs.Renderer.Area
import RenderLoop.Proofs.Renderer.Aside
import RenderLoop.Proofs.Renderer.Attested
import RenderLoop.Proofs.Renderer.Binding
import RenderLoop.Proofs.Renderer.Calls
import RenderLoop.Proofs.Renderer.Creation
import RenderLoop.Proofs.Renderer.Dangling
import RenderLoop.Proofs.Renderer.Draw
import RenderLoop.Proofs.Renderer.DrawCommands
import RenderLoop.Proofs.Renderer.Estate
import RenderLoop.Proofs.Renderer.FailedSetup
import RenderLoop.Proofs.Renderer.Fit
import RenderLoop.Proofs.Renderer.FrameData
import RenderLoop.Proofs.Renderer.FrameDraws
import RenderLoop.Proofs.Renderer.FrameHeld
import RenderLoop.Proofs.Renderer.InStep
import RenderLoop.Proofs.Renderer.Keeping
import RenderLoop.Proofs.Renderer.Lifetimes
import RenderLoop.Proofs.Renderer.Loaded
import RenderLoop.Proofs.Renderer.OneImage
import RenderLoop.Proofs.Renderer.PairInUse
import RenderLoop.Proofs.Renderer.Rebuild
import RenderLoop.Proofs.Renderer.Reload
import RenderLoop.Proofs.Renderer.Remake
import RenderLoop.Proofs.Renderer.Room
import RenderLoop.Proofs.Renderer.ScreenWork
import RenderLoop.Proofs.Renderer.Totality
import RenderLoop.Proofs.Renderer.UniformData
import RenderLoop.Proofs.Renderer.Upkeep
import RenderLoop.Proofs.Renderer.VertexFeed
import RenderLoop.Proofs.Shader.Binary
import RenderLoop.Proofs.Shader.Coherence
import RenderLoop.Proofs.Shader.Compile
import RenderLoop.Proofs.Shader.Declarations
import RenderLoop.Proofs.Shader.Generation
import RenderLoop.Proofs.Shader.Loading
import RenderLoop.Proofs.Shader.Unchanged
import RenderLoop.Proofs.SortedMap
import RenderLoop.Proofs.Vertex.Layout
import RenderLoop.Rehearsal.Device
import RenderLoop.Rehearsal.History
import RenderLoop.Rehearsal.Tools
import RenderLoop.Renderer.Basic
import RenderLoop.Renderer.Frames
import RenderLoop.Renderer.Reload
import RenderLoop.Renderer.Resize
import RenderLoop.Renderer.Setup
import RenderLoop.Shader.Binary
import RenderLoop.Shader.Interface
import RenderLoop.Shader.Program
import RenderLoop.Shader.Source
import RenderLoop.Shader.Stage
import RenderLoop.Shader.Uniforms
import RenderLoop.SortedMap
import RenderLoop.Sorting
import RenderLoop.Spirv.Constant
import RenderLoop.Spirv.Declarations
import RenderLoop.Spirv.Instruction
import RenderLoop.Spirv.Interface
import RenderLoop.Spirv.Operation
import RenderLoop.Spirv.Reader
import RenderLoop.Spirv.Standard
import RenderLoop.Surface.Choice
import RenderLoop.Surface.Extent
import RenderLoop.Surface.Format
import RenderLoop.Surface.Transition
import RenderLoop.Utf8
import RenderLoop.Vertex.Format
import RenderLoop.Vertex.Input
