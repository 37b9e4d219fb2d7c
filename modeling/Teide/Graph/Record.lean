import Mathlib.Tactic.Common
import Teide.Graph.Basic

/-!
# Building and recording a graph

`buildGraph` collects the textures each render node depends on and registers, for each command node
and each texture it accesses, a state change: the state the node expects the texture in and the state
it leaves it in. A texture keeps its state changes in the order of the command indices.

`recordCommands` creates the images of the textures and has each command node record its command
buffer, whose number is the command index. A node brings a texture into the state it expects with a
barrier from the state that the preceding access leaves it in, if the two differ.
-/

namespace Teide

/-! ### The device -/

structure VulkanTexture where
  image : Image := 0
  usage : ImageUsageFlags := ∅
  properties : TextureProperties := {}

structure ImageCreateInfo where
  format : Format
  extent : Size2i
  mipLevels : UInt32
  samples : UInt32
  usage : ImageUsageFlags
  initialLayout : ImageLayout

structure Device where
  textures : Texture → VulkanTexture := fun _ => {}
  /-- the textures of a parameter block -/
  materials : ParameterBlock → List Texture := fun _ => []
  /-- the images that have been created -/
  images : List ImageCreateInfo := []

namespace Device

def createTextureImpl (device : Device) (texture : Texture) : Device :=
  let impl := device.textures texture
  let usage := impl.usage ∪ {.transferSrc}
  { device with
    images := device.images ++
      [{ format := impl.properties.format
         extent := impl.properties.size
         mipLevels := impl.properties.mipLevelCount
         samples := impl.properties.sampleCount
         usage := usage
         initialLayout := .undefined }]
    textures := Function.update device.textures texture
      { impl with image := device.images.length, usage := usage } }

/-- The cache of render passes is left out: a pass is given by its description. -/
def createRenderPass (framebufferLayout : FramebufferLayout) (clearState : ClearState)
    (usage : FramebufferUsage) : List AttachmentDescription :=
  Teide.createRenderPass framebufferLayout usage
    { colorLoadOp := if clearState.colorValue.isSome then .clear else .dontCare
      colorStoreOp := if framebufferLayout.captureColor then .store else .dontCare
      depthLoadOp := if clearState.depthValue.isSome then .clear else .dontCare
      depthStoreOp := if framebufferLayout.captureDepthStencil then .store else .dontCare
      stencilLoadOp := if clearState.stencilValue.isSome then .clear else .dontCare
      stencilStoreOp := if framebufferLayout.captureDepthStencil then .store else .dontCare }

end Device

def VulkanTexture.transition (texture : VulkanTexture) (transition : TextureStateTransition) :
    List VkCommand :=
  if transition.new ≠ transition.old then
    [.pipelineBarrier (transitionImageLayout texture.image texture.properties.format
      texture.properties.mipLevelCount transition.old.layout transition.new.layout
      transition.old.lastPipelineStageUsage transition.new.lastPipelineStageUsage)]
  else []

/-! ### State changes -/

namespace TextureNode

def addStateChange (node : TextureNode) (nodeIndex : Nat)
    (expectedState ensuredState : TextureState) : TextureNode :=
  { node with
    stateChanges := Timeline.insert StateChange.nodeIndex ⟨nodeIndex, expectedState, ensuredState⟩
      node.stateChanges }

/-- The state that the accesses before a command index leave the texture in. -/
def stateBefore (node : TextureNode) (nodeIndex : Nat) : TextureState :=
  match (Timeline.before StateChange.nodeIndex node.stateChanges nodeIndex).getLast? with
  | some change => change.ensuredState
  | none => {}

def getStateTransition (node : TextureNode) (nodeIndex : Nat) : Option TextureStateTransition :=
  match (Timeline.fromOn StateChange.nodeIndex node.stateChanges nodeIndex).head? with
  | some change => some ⟨node.stateBefore nodeIndex, change.expectedState⟩
  | none => none

end TextureNode

def transferDstState : TextureState := ⟨.transferDstOptimal, {.transfer}⟩

def transferSrcState : TextureState := ⟨.transferSrcOptimal, {.transfer}⟩

def sampledState : TextureState := ⟨.shaderReadOnlyOptimal, {.fragmentShader}⟩

def colorTargetState : TextureState := ⟨.colorAttachmentOptimal, {.colorAttachmentOutput}⟩

def depthStencilTargetState : TextureState :=
  ⟨.depthStencilAttachmentOptimal, {.earlyFragmentTests, .lateFragmentTests}⟩

def kernelInputState : TextureState := ⟨.shaderReadOnlyOptimal, {.computeShader}⟩

def kernelOutputState : TextureState := ⟨.general, {.computeShader}⟩

def presentState : TextureState := ⟨.presentSrcKHR, {.topOfPipe}⟩

namespace VulkanGraph

def addStateChange (g : VulkanGraph) (ref : ResourceNodeRef) (nodeIndex : Nat)
    (expectedState ensuredState : TextureState) : VulkanGraph :=
  g.modifyTexture ref (·.addStateChange nodeIndex expectedState ensuredState)

def findTexture (g : VulkanGraph) (texture : Texture) : Option ResourceNodeRef :=
  (g.textureNodes.findIdx? (·.texture = texture)).map textureRef

end VulkanGraph

/-! ### BuildGraph -/

namespace RenderNode

def addTextureDependencies (node : RenderNode) (textures : List Texture) (g : VulkanGraph) :
    RenderNode :=
  { node with dependencies := node.dependencies ++ textures.filterMap g.findTexture }

/-- The first half of a round of the loop over the render nodes. -/
def addDependencies (node : RenderNode) (g : VulkanGraph) (device : Device) : RenderNode :=
  node.renderList.objects.foldl
    (fun node obj => (node.addTextureDependencies obj.objectParameters.textures g).addTextureDependencies
      (device.materials obj.materialParameters) g)
    (node.addTextureDependencies node.renderList.viewParameters.textures g)

/-- The second half of a round. -/
def addStateChanges (node : RenderNode) (g : VulkanGraph) : VulkanGraph :=
  let g := node.dependencies.foldl
    (fun g dep => g.addStateChange dep node.index sampledState sampledState) g
  let g := match node.colorTarget with
    | some target => g.addStateChange target node.index {} colorTargetState
    | none => g
  match node.depthStencilTarget with
  | some target => g.addStateChange target node.index {} depthStencilTargetState
  | none => g

end RenderNode

def DispatchNode.addStateChanges (node : DispatchNode) (g : VulkanGraph) : VulkanGraph :=
  let g := node.dependencies.foldl
    (fun g dep => g.addStateChange dep node.index kernelInputState kernelInputState) g
  node.outputs.foldl
    (fun g dep => g.addStateChange dep node.index kernelOutputState kernelOutputState) g

namespace VulkanGraph

/-- The render nodes are given their dependencies all at once, before any of them registers state
changes: finding a texture does not look at state changes. -/
def addDependencies (g : VulkanGraph) (device : Device) : VulkanGraph :=
  { g with renderNodes := g.renderNodes.map (·.addDependencies g device) }

def buildGraph (g : VulkanGraph) (device : Device) : VulkanGraph :=
  let g := g.addDependencies device
  let g := g.writeNodes.foldl
    (fun g node => g.addStateChange node.target node.index transferDstState transferDstState) g
  let g := g.readNodes.foldl
    (fun g node => g.addStateChange node.source node.index transferSrcState transferSrcState) g
  let g := g.renderNodes.foldl (fun g node => node.addStateChanges g) g
  let g := g.dispatchNodes.foldl (fun g node => node.addStateChanges g) g
  g.presentNodes.foldl
    (fun g node => g.addStateChange node.source node.index presentState presentState) g

end VulkanGraph

/-! ### Process -/

/-- The barrier, if one is needed, that brings a texture into the state a command node expects. -/
def TextureNode.prepare (node : TextureNode) (nodeIndex : Nat) (device : Device) : List VkCommand :=
  (node.getStateTransition nodeIndex).toList.flatMap (device.textures node.texture).transition

def WriteNode.process (node : WriteNode) (g : VulkanGraph) (device : Device) : List VkCommand :=
  match g.textureDataNodes[node.source.index]?, g.textureNodes[node.target.index]? with
  | some sourceNode, some targetNode =>
    targetNode.prepare node.index device ++
      [.copyBufferToImage (device.textures targetNode.texture).image .transferDstOptimal
        sourceNode.data.format sourceNode.data.size]
  | _, _ => []

def ReadNode.process (node : ReadNode) (g : VulkanGraph) (device : Device) : List VkCommand :=
  if node.expired then []
  else match g.textureNodes[node.source.index]? with
    | some sourceNode =>
      let texture := device.textures sourceNode.texture
      sourceNode.prepare node.index device ++
        [.copyImageToBuffer texture.image .transferSrcOptimal texture.properties.format
          texture.properties.size texture.properties.mipLevelCount]
    | none => []

namespace VulkanGraph

def getTexture? (g : VulkanGraph) (ref : ResourceNodeRef) : Option TextureNode :=
  match ref.type with
  | .texture => g.textureNodes[ref.index]?
  | .textureData => none

/-- The image of the texture that a reference refers to. -/
def imageOf (g : VulkanGraph) (device : Device) (ref : ResourceNodeRef) : Option Image :=
  g.textureNodes[ref.index]?.map fun node => (device.textures node.texture).image

end VulkanGraph

def RenderNode.process (node : RenderNode) (g : VulkanGraph) (device : Device) : List VkCommand :=
  let barriers := node.dependencies.flatMap fun dep =>
    (g.getTexture? dep).toList.flatMap (·.prepare node.index device)
  let attachments := (node.colorTarget.toList ++ node.depthStencilTarget.toList).filterMap
    (g.imageOf device)
  let renderPass := Device.createRenderPass node.renderTargetInfo.framebufferLayout
    node.renderList.clearState .attachment
  barriers ++ [.renderPass (renderPass.zip attachments) (node.dependencies.filterMap (g.imageOf device))]

/-- Dispatches and presents are not implemented yet in the source. -/
def DispatchNode.process (_ : DispatchNode) (_ : VulkanGraph) (_ : Device) : List VkCommand := []

def PresentNode.process (_ : PresentNode) (_ : VulkanGraph) (_ : Device) : List VkCommand := []

inductive CommandNode where
  | write (node : WriteNode)
  | read (node : ReadNode)
  | render (node : RenderNode)
  | dispatch (node : DispatchNode)
  | present (node : PresentNode)

namespace CommandNode

def index : CommandNode → Nat
  | write node => node.index
  | read node => node.index
  | render node => node.index
  | dispatch node => node.index
  | present node => node.index

def process (g : VulkanGraph) (device : Device) : CommandNode → List VkCommand
  | write node => node.process g device
  | read node => node.process g device
  | render node => node.process g device
  | dispatch node => node.process g device
  | present node => node.process g device

end CommandNode

namespace VulkanGraph

/-- The command nodes in the order of `ForEachCommandNode`. -/
def commandNodes (g : VulkanGraph) : List CommandNode :=
  g.writeNodes.map .write ++ g.readNodes.map .read ++ g.renderNodes.map .render ++
    g.dispatchNodes.map .dispatch ++ g.presentNodes.map .present

/-! ### RecordCommands -/

def setWriteProperties (g : VulkanGraph) (device : Device) (writeNode : WriteNode) : Device :=
  match g.textureNodes[writeNode.target.index]?, g.textureDataNodes[writeNode.source.index]? with
  | some targetNode, some sourceNode =>
    { device with
      textures := Function.update device.textures targetNode.texture
        { device.textures targetNode.texture with
          properties :=
            { size := sourceNode.data.size
              format := sourceNode.data.format
              mipLevelCount := sourceNode.data.mipLevelCount
              sampleCount := sourceNode.data.sampleCount } } }
  | _, _ => device

def createTexture (device : Device) (node : TextureNode) : Device :=
  Device.createTextureImpl
    { device with
      textures := Function.update device.textures node.texture
        { device.textures node.texture with usage := node.usage } }
    node.texture

/-- The device after the images of the graph have been created. -/
def createTextures (g : VulkanGraph) (device : Device) : Device :=
  g.textureNodes.foldl createTexture (g.writeNodes.foldl g.setWriteProperties device)

def recordCommands (g : VulkanGraph) (device : Device) : Device × List (List VkCommand) :=
  let device := g.createTextures device
  let cmdBuffers := g.commandNodes.foldl
    (fun cmdBuffers node => cmdBuffers.set node.index (node.process g device))
    (List.replicate g.commandNodeCount [])
  (device, cmdBuffers)

/-- `ExecuteGraph` submits the command buffers in the order of their numbers. -/
def executeGraph (g : VulkanGraph) (device : Device) : Device × List (List VkCommand) :=
  (g.buildGraph device).recordCommands device

end VulkanGraph

end Teide
