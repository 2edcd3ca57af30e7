import RenderLoop.Error

/-!
# RenderLoop — image layouts and the transitions between them

An image is in one **layout** at a time, and the device uses it only in the
layout that fits the use. A **transition** is a barrier that moves one image from
a layout to another; it names the accesses to finish before and to allow after,
the pipeline stages they belong to, and the aspects of the image concerned.

Sets of stages, accesses and aspects are bit masks with the values of the
graphics API.
-/

namespace RenderLoop

/-- The layouts that frames move images through. -/
inductive ImageLayout where
  | undefined
  | colorAttachment
  | depthStencilAttachment
  | presentSource
  deriving DecidableEq, Repr, Inhabited

def ImageLayout.name : ImageLayout → String
  | undefined => "Undefined"
  | colorAttachment => "ColorAttachmentOptimal"
  | depthStencilAttachment => "DepthStencilAttachmentOptimal"
  | presentSource => "PresentSrc"

instance : Named ImageLayout :=
  ⟨[.undefined, .colorAttachment, .depthStencilAttachment, .presentSource], ImageLayout.name⟩

/-- A set of pipeline stages. -/
structure PipelineStages where
  bits : UInt32
  deriving DecidableEq, Repr, Inhabited

namespace PipelineStages

def topOfPipe : PipelineStages := ⟨0x1⟩
def bottomOfPipe : PipelineStages := ⟨0x2000⟩
def allCommands : PipelineStages := ⟨0x10000⟩

/-- The stages that have a name: top of pipe, vertex and fragment shading, early and late fragment
tests, colour output, transfer, bottom of pipe, all commands. -/
def known : PipelineStages := ⟨0x13789⟩

/-- The stages of a bit mask, bits without a name left out. -/
def ofBits (bits : UInt32) : PipelineStages := ⟨bits &&& known.bits⟩

end PipelineStages

/-- A set of memory accesses. -/
structure Accesses where
  bits : UInt32
  deriving DecidableEq, Repr, Inhabited

namespace Accesses

def none : Accesses := ⟨0⟩
def colorAttachmentWrite : Accesses := ⟨0x100⟩
def depthStencilAttachmentWrite : Accesses := ⟨0x400⟩
def memoryRead : Accesses := ⟨0x8000⟩

/-- The accesses that have a name: reads and writes of colour and depth attachments, transfer
writes, memory reads. -/
def known : Accesses := ⟨0x9780⟩

/-- The accesses of a bit mask, bits without a name left out. -/
def ofBits (bits : UInt32) : Accesses := ⟨bits &&& known.bits⟩

end Accesses

/-- A set of image aspects. -/
structure Aspects where
  bits : UInt32
  deriving DecidableEq, Repr, Inhabited

namespace Aspects

def color : Aspects := ⟨0x1⟩
def depth : Aspects := ⟨0x2⟩
def depthStencil : Aspects := ⟨0x6⟩

/-- Colour, depth and stencil. -/
def known : Aspects := ⟨0x7⟩

/-- The aspects of a bit mask, bits without a name left out. -/
def ofBits (bits : UInt32) : Aspects := ⟨bits &&& known.bits⟩

end Aspects

/-- The image a barrier applies to. -/
inductive BarrierImage where
  /-- The swapchain image with this index. -/
  | swapchain (index : UInt32)
  /-- The depth attachment, which all frames share. -/
  | depthStencil
  deriving DecidableEq, Repr, Inhabited

def BarrierImage.text : BarrierImage → String
  | swapchain index => s!"Swapchain({index})"
  | depthStencil => "DepthStencil"

/-- A layout transition of one image. -/
structure ImageTransition where
  old : ImageLayout
  new : ImageLayout
  sourceAccess : Accesses
  targetAccess : Accesses
  sourceStage : PipelineStages
  targetStage : PipelineStages
  aspects : Aspects
  deriving DecidableEq, Repr, Inhabited

namespace ImageTransition

/-- A new swapchain image is made ready for presentation. -/
def presentSource : ImageTransition :=
  ⟨.undefined, .presentSource, .none, .memoryRead, .topOfPipe, .topOfPipe, .color⟩

/-- A new depth image is made ready as an attachment. -/
def depthStencilInit (aspects : Aspects) : ImageTransition :=
  ⟨.undefined, .depthStencilAttachment, .none, .depthStencilAttachmentWrite, .topOfPipe,
    .topOfPipe, aspects⟩

/-- A rendered image is handed over for presentation. -/
def prePresent : ImageTransition :=
  ⟨.colorAttachment, .presentSource, .colorAttachmentWrite, .memoryRead, .topOfPipe, .topOfPipe,
    .color⟩

/-- A presented image is taken back as an attachment. -/
def postPresent : ImageTransition :=
  ⟨.presentSource, .colorAttachment, .none, .colorAttachmentWrite, .allCommands, .topOfPipe,
    .color⟩

end ImageTransition

end RenderLoop
