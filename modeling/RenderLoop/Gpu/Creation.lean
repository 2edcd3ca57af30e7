import RenderLoop.Config
import RenderLoop.Gpu.Blend
import RenderLoop.Gpu.Number
import RenderLoop.Shader.Binary

/-!
# RenderLoop — what the device is asked to create

Objects of the graphics API are referred to by **handles**. A `Creation` says what
object is to be created, with everything about it that the renderer decides. What
the renderer always asks for in the same way is left to the text of the request
(`Creation.text`), which spells out all of it, enumerations as numbers.

A render pass has two **attachments**: the colour image of the frame, then the depth
image, which all frames share. Both are cleared at the start and kept at the end.
The colour image may come in any layout, since nothing of it is kept; the depth
image stays in its layout.
-/

namespace RenderLoop

/-- The handle of an object; 0 is no object. -/
abbrev Handle := Nat

/-- The kinds of objects that are created and destroyed by themselves. -/
inductive ObjectKind where
  | apiInstance
  | messenger
  | surface
  | device
  | commandPool
  | semaphore
  | swapchain
  | image
  | imageView
  | buffer
  | renderPass
  | framebuffer
  | pipelineCache
  | shaderModule
  | setLayout
  | pipelineLayout
  | descriptorPool
  | pipeline
  deriving DecidableEq, Repr, Inhabited

/-- The name of a kind in the calls that create and destroy it. -/
def ObjectKind.name : ObjectKind → String
  | apiInstance => "Instance"
  | messenger => "DebugUtilsMessengerEXT"
  | surface => "SurfaceKHR"
  | device => "Device"
  | commandPool => "CommandPool"
  | semaphore => "Semaphore"
  | swapchain => "SwapchainKHR"
  | image => "Image"
  | imageView => "ImageView"
  | buffer => "Buffer"
  | renderPass => "RenderPass"
  | framebuffer => "Framebuffer"
  | pipelineCache => "PipelineCache"
  | shaderModule => "ShaderModule"
  | setLayout => "DescriptorSetLayout"
  | pipelineLayout => "PipelineLayout"
  | descriptorPool => "DescriptorPool"
  | pipeline => "Pipeline"

-- ---------------------------------------------------------------------------
-- Attachments
-- ---------------------------------------------------------------------------

/-- An attachment that is cleared at the start of the pass and stored at its end. -/
structure Attachment where
  format : TextureFormat
  /-- The layout it has at the start of the pass. -/
  initial : ImageLayout
  /-- The layout it has at the end. -/
  final : ImageLayout
  deriving DecidableEq, Repr, Inhabited

namespace Attachment

def color (format : TextureFormat) : Attachment := ⟨format, .undefined, .colorAttachment⟩

def depth (format : TextureFormat) : Attachment :=
  ⟨format, .depthStencilAttachment, .depthStencilAttachment⟩

/-- The numbers that describe an attachment: format, samples per pixel, what happens to it at the
start (1, cleared) and at the end (0, stored), the same for its stencil (2 and 1, not looked
after), and its layouts at the start and at the end. -/
def numbers (a : Attachment) : List Nat :=
  [a.format.number, 1, 1, 0, 2, 1, a.initial.number, a.final.number]

end Attachment

-- ---------------------------------------------------------------------------
-- Requests
-- ---------------------------------------------------------------------------

/-- The swapchain asked for. -/
structure SwapchainRequest where
  surface : Handle
  minImages : UInt32
  format : SurfaceFormat
  extent : Extent
  transform : UInt32
  presentMode : PresentMode
  /-- The chain that this one replaces. -/
  old : Handle
  deriving DecidableEq, Repr, Inhabited

/-- Whether a view says which channel of the image each component is read from. -/
inductive ChannelMapping where
  | unchanged
  | named
  deriving DecidableEq, Repr, Inhabited

/-- The numbers of a mapping, for red, green, blue and opacity. -/
def ChannelMapping.numbers : ChannelMapping → List Nat
  | unchanged => [0, 0, 0, 0]
  | named => [3, 4, 5, 6]

/-- The graphics pipeline asked for. -/
structure PipelineRequest where
  cache : Handle
  modules : List (ShaderStage × Handle)
  input : VertexLayout
  state : PipelineState
  layout : Handle
  pass : Handle
  deriving DecidableEq, Repr, Inhabited

/-- What is to be created. -/
inductive Creation where
  | apiInstance (config : RendererConfig)
  | messenger
  | surface
  /-- A device with one queue. -/
  | device (physical family : Nat) (fillModes : Bool)
  | commandPool (family : Nat)
  | semaphore
  | swapchain (request : SwapchainRequest)
  /-- The depth image. -/
  | image (format : TextureFormat) (extent : Extent)
  | imageView (image : Handle) (format : TextureFormat) (channels : ChannelMapping)
    (aspects : Aspects)
  /-- The frame buffer. -/
  | buffer (size : UInt64)
  | renderPass (color depth : TextureFormat)
  | framebuffer (pass : Handle) (views : List Handle) (extent : Extent)
  | pipelineCache (data : List UInt8)
  | shaderModule (code : ShaderCode)
  | setLayout (layout : SetLayout)
  | pipelineLayout (sets : List Handle)
  | descriptorPool (maxSets : UInt32) (sizes : List (DescriptorKind × UInt32))
  | pipeline (request : PipelineRequest)
  deriving DecidableEq, Repr, Inhabited

namespace Creation

/-- The kind of the object. -/
def kind : Creation → ObjectKind
  | apiInstance _ => .apiInstance
  | messenger => .messenger
  | surface => .surface
  | device _ _ _ => .device
  | commandPool _ => .commandPool
  | semaphore => .semaphore
  | swapchain _ => .swapchain
  | image _ _ => .image
  | imageView _ _ _ _ => .imageView
  | buffer _ => .buffer
  | renderPass _ _ => .renderPass
  | framebuffer _ _ _ => .framebuffer
  | pipelineCache _ => .pipelineCache
  | shaderModule _ => .shaderModule
  | setLayout _ => .setLayout
  | pipelineLayout _ => .pipelineLayout
  | descriptorPool _ _ => .descriptorPool
  | pipeline _ => .pipeline

/-- The name of the call. -/
def callName : Creation → String
  | surface => "vkCreateXlibSurfaceKHR"
  | pipeline _ => "vkCreateGraphicsPipelines"
  | c => "vkCreate" ++ c.kind.name

end Creation

-- ---------------------------------------------------------------------------
-- Texts
-- ---------------------------------------------------------------------------

namespace CallText

/-- A list in brackets. -/
def list (items : List String) : String := "[" ++ ",".intercalate items ++ "]"

/-- A list of numbers or handles. -/
def numbers (ns : List Nat) : String := list (ns.map toString)

/-- A width and a height. -/
def extent (e : Extent) : String := s!"{e.width}x{e.height}"

/-- The one mip level and the one layer of an image, in some aspects. -/
def range (aspects : Aspects) : String := numbers [aspects.bits.toNat, 0, 1, 0, 1]

end CallText

/-- The number of a version: three bits and seven for the variant and the major version, ten for
the minor one, twelve for the patch. The variant is 0. -/
def ApiVersion.number (v : ApiVersion) : UInt32 := (v.major <<< 22) ||| (v.minor <<< 12) ||| v.patch

/-- The version that the application and the library itself report. -/
def ApiVersion.reported : ApiVersion := ⟨0, 1, 0⟩

namespace Creation

open CallText

/-- The layers that are asked for. -/
def layers (config : RendererConfig) : List String :=
  if config.enableValidation then ["VK_LAYER_KHRONOS_validation"] else []

/-- The extensions that are asked for: those of the window, and that of the messenger. -/
def extensions (config : RendererConfig) : List String :=
  ["VK_KHR_surface", "VK_KHR_xlib_surface"] ++
    if config.enableValidation then ["VK_EXT_debug_utils"] else []

/-- The parameters of a swapchain. -/
def swapchainText (r : SwapchainRequest) : String :=
  s!"surface={r.surface} min_images={r.minImages} format={r.format.format.number} " ++
    s!"color_space={r.format.colorSpace.number} extent={extent r.extent} layers=1 usage=16 " ++
    s!"sharing=0 transform={r.transform} alpha=1 present_mode={r.presentMode.number} clipped=1 " ++
    s!"old={r.old}"

/-- The parameters of a render pass: its attachments and its one subpass, which draws to both. -/
def renderPassText (color depth : TextureFormat) : String :=
  let attachments := [Attachment.color color, Attachment.depth depth]
  let inPass := s!"point=0 color=[0@{ImageLayout.colorAttachment.number}] " ++
    s!"depth=[1@{ImageLayout.depthStencilAttachment.number}]"
  s!"attachments={list (attachments.map fun a => numbers a.numbers)} subpasses=[{inPass}] " ++
    "dependencies=0"

/-- The bindings of a set layout. -/
def setLayoutText (layout : SetLayout) : String :=
  list (layout.bindings.map fun b =>
    s!"{b.slot.binding}:{b.kind.number}x{b.count}@{b.stages.bits}")

/-- The stages of a pipeline, all of which begin at the function of this name. -/
def stagesText (modules : List (ShaderStage × Handle)) : String :=
  list (modules.map fun (stage, module) => s!"{stage.mask.bits}:{module}:main")

/-- The vertex input of a pipeline. -/
def vertexText (input : VertexLayout) : String :=
  let bindings := input.bindings.map fun b => s!"{b.binding}/{b.stride}/{b.rate.number}"
  let attributes := input.attributes.map fun a =>
    s!"{a.location}/{a.binding}/{a.format.number}/{a.offset}"
  s!"bindings={list bindings} attributes={list attributes}"

/-- The fixed-function state of a pipeline. -/
def stateText (s : PipelineState) : String :=
  s!"topology={s.topology.number} restart=0 viewports=1 scissors=1 clamp=0 discard=0 " ++
    s!"polygon={s.polygonMode.number} cull={s.cullMode.number} face={s.frontFace.number} bias=0 " ++
    s!"line={Binary32.one} samples=1 sample_shading=0 depth_test={s.depthTest.toNat} " ++
    s!"depth_write={s.depthWrite.toNat} compare={s.depthCompare.number} bounds=0 stencil=0 " ++
    s!"logic=0 blend=[{numbers (ColorBlend.ofState s).numbers}] dynamic=[0,1]"

/-- The parameters of a pipeline. -/
def pipelineText (r : PipelineRequest) : String :=
  s!"cache={r.cache} count=1 stages={stagesText r.modules} {vertexText r.input} " ++
    s!"{stateText r.state} layout={r.layout} pass={r.pass} subpass=0"

/-- The parameters of a creation. -/
def parameters : Creation → String
  | apiInstance config =>
    s!"app={config.appName} app_version={ApiVersion.reported.number} engine=ofvk " ++
      s!"engine_version={ApiVersion.reported.number} api={config.apiVersion.number} " ++
      s!"layers={list (layers config)} extensions={list (extensions config)}"
  | messenger => "severity=4369 type=7"
  | surface => "window=7"
  | device physical family fillModes =>
    s!"gpu={physical} queues=[{family}x1@{Binary32.one}] extensions=[VK_KHR_swapchain] " ++
      s!"fill_mode_non_solid={fillModes.toNat}"
  | commandPool family => s!"family={family} flags=2"
  | semaphore => "flags=0"
  | swapchain request => swapchainText request
  | image format size =>
    s!"type=1 format={format.number} extent={extent size}x1 mips=1 layers=1 samples=1 tiling=0 " ++
      "usage=33 sharing=0 layout=0"
  | imageView source format channels aspects =>
    s!"image={source} type=1 format={format.number} swizzle={numbers channels.numbers} " ++
      s!"range={range aspects}"
  | buffer size => s!"size={size} usage=208 sharing=0"
  | renderPass color depth => renderPassText color depth
  | framebuffer pass views size =>
    s!"pass={pass} attachments={numbers views} extent={extent size} layers=1"
  | pipelineCache data => s!"data={hexBytes data}"
  | shaderModule code => s!"bytes={4 * code.length} hash={keyText code.hash}"
  | setLayout layout => setLayoutText layout
  | pipelineLayout sets => s!"sets={numbers sets} push=0"
  | descriptorPool maxSets sizes =>
    let counts := sizes.map fun (kind, count) => s!"{kind.number}x{count}"
    s!"max_sets={maxSets} sizes={list counts} flags=0"
  | pipeline request => pipelineText request

end Creation

end RenderLoop
