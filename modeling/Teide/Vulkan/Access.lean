import Mathlib.Data.Finset.Insert
import Mathlib.Tactic.Common
import Teide.Lib.Hazards
import Teide.Vulkan.Basic

/-!
# Accesses to images

What recorded commands do to images as far as memory is concerned: which stages access an image, how,
and which accesses a barrier or a render pass waits for. `TransitionImageLayout` finds the access
masks of a barrier by the two layouts. A render pass waits for what is before it by a subpass
dependency, which is the same for all render passes.
-/

namespace Teide

inductive Access where
  | transferRead | transferWrite | shaderRead | colorAttachmentRead | colorAttachmentWrite
  | depthStencilAttachmentRead | depthStencilAttachmentWrite
  deriving DecidableEq

abbrev AccessFlags := Finset Access

abbrev AccessScope := Hazards.Scope PipelineStage Access

abbrev MemoryOp := Hazards.Op PipelineStage Access

/-- `none` where the source breaks: "Unsupported image transition". -/
def getTransitionAccessMask : ImageLayout → Option AccessFlags
  | .undefined => some ∅
  | .transferDstOptimal => some {.transferWrite}
  | .colorAttachmentOptimal => some {.colorAttachmentRead, .colorAttachmentWrite}
  | .depthStencilAttachmentOptimal =>
    some {.depthStencilAttachmentRead, .depthStencilAttachmentWrite}
  | .shaderReadOnlyOptimal => some {.shaderRead}
  | .transferSrcOptimal => some {.transferRead}
  | .depthStencilReadOnlyOptimal => some {.shaderRead}
  | .presentSrcKHR => some ∅
  | .general => none

structure TransitionAccessMasks where
  source : AccessFlags
  destination : AccessFlags

def getTransitionAccessMasks (oldLayout newLayout : ImageLayout) : Option TransitionAccessMasks := do
  let source ← getTransitionAccessMask oldLayout
  let destination ← getTransitionAccessMask newLayout
  return { source, destination }

/-! ### The order of the pipeline -/

/-- The stages that draws go through, in their order. -/
def PipelineStage.graphicsOrder : PipelineStage → Option Nat
  | .earlyFragmentTests => some 0
  | .fragmentShader => some 1
  | .lateFragmentTests => some 2
  | .colorAttachmentOutput => some 3
  | .topOfPipe | .transfer | .computeShader => none

/-- A stage is logically no later than another. -/
instance : LE PipelineStage where
  le stage stage' := stage = .topOfPipe ∨ stage = stage' ∨
    ∃ i ∈ stage.graphicsOrder, ∃ j ∈ stage'.graphicsOrder, i ≤ j

instance : DecidableLE PipelineStage := fun stage stage' =>
  inferInstanceAs (Decidable (stage = .topOfPipe ∨ stage = stage' ∨
    ∃ i ∈ stage.graphicsOrder, ∃ j ∈ stage'.graphicsOrder, i ≤ j))

/-! ### Commands -/

def transferReadScope : AccessScope := ⟨{.transfer}, {.transferRead}⟩

def transferWriteScope : AccessScope := ⟨{.transfer}, {.transferWrite}⟩

/-- Images are sampled by fragment shaders. -/
def sampleScope : AccessScope := ⟨{.fragmentShader}, {.shaderRead}⟩

/-- How a render pass writes an attachment, which its final layout tells. -/
def attachmentScope : ImageLayout → AccessScope
  | .depthStencilAttachmentOptimal | .depthStencilReadOnlyOptimal =>
    ⟨{.earlyFragmentTests, .lateFragmentTests}, {.depthStencilAttachmentWrite}⟩
  | _ => ⟨{.colorAttachmentOutput}, {.colorAttachmentWrite}⟩

/-- The subpass dependency of `CreateRenderPass`. -/
def subpassDependency : MemoryOp :=
  .depend ⟨{.colorAttachmentOutput, .earlyFragmentTests}, ∅⟩
    ⟨{.colorAttachmentOutput, .earlyFragmentTests},
      {.colorAttachmentWrite, .depthStencilAttachmentWrite}⟩

/-- What a barrier between two states of a texture waits for and makes ready. -/
def TextureStateTransition.dependency (transition : TextureStateTransition) : MemoryOp :=
  .depend
    ⟨transition.old.lastPipelineStageUsage, (getTransitionAccessMask transition.old.layout).getD ∅⟩
    ⟨transition.new.lastPipelineStageUsage, (getTransitionAccessMask transition.new.layout).getD ∅⟩

def ImageMemoryBarrier.dependency (barrier : ImageMemoryBarrier) : MemoryOp :=
  TextureStateTransition.dependency
    ⟨⟨barrier.oldLayout, barrier.srcStageMask⟩, ⟨barrier.newLayout, barrier.dstStageMask⟩⟩

namespace VkCommand

/-- What a command does to the memory of images. -/
def memoryOps : VkCommand → List (Image × MemoryOp)
  | pipelineBarrier barrier => [(barrier.image, barrier.dependency)]
  | copyBufferToImage image _ _ _ => [(image, .write transferWriteScope)]
  | copyImageToBuffer image _ _ _ _ => [(image, .read transferReadScope)]
  | renderPass attachments sampled =>
    (sampled.flatMap fun image => [(image, .read sampleScope)]) ++
      attachments.flatMap fun a =>
        [(a.2, subpassDependency), (a.2, .write (attachmentScope a.1.finalLayout))]

/-- The access masks of a barrier exist. -/
def Supported : VkCommand → Prop
  | pipelineBarrier barrier =>
    (getTransitionAccessMasks barrier.oldLayout barrier.newLayout).isSome
  | _ => True

instance : ∀ command : VkCommand, Decidable command.Supported
  | pipelineBarrier _ => inferInstanceAs (Decidable (_ = true))
  | copyBufferToImage .. | copyImageToBuffer .. | renderPass .. => .isTrue trivial

end VkCommand

/-- Operations on one resource that do not race with what came before them. -/
abbrev Ordered : Hazards.Sync PipelineStage Access → List MemoryOp → Prop :=
  Runs.Each (Hazards.step Hazards.Sync.apply) Hazards.Sync.Ordered

/-- The commands never race, when they are executed one after another on fresh images. -/
def RaceFree (commands : List VkCommand) : Prop :=
  Runs.Each (Hazards.stepAt Hazards.Sync.apply) (fun s op => (s op.1).Ordered op.2) (fun _ => {})
    (commands.flatMap VkCommand.memoryOps)

instance (commands : List VkCommand) : Decidable (RaceFree commands) :=
  inferInstanceAs (Decidable (Runs.Each _ _ _ _))

/-- What is done to one image does not race with what is done to another. -/
theorem raceFree_iff_forall (commands : List VkCommand) : RaceFree commands ↔ ∀ image,
    Ordered {} (Hazards.opsAt image (commands.flatMap VkCommand.memoryOps)) :=
  Hazards.each_iff (Q := Hazards.Sync.Ordered)

end Teide
