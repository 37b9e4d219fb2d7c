import Mathlib.Data.Finset.Lattice.Basic
import Mathlib.Tactic.Common
import Teide.Lib.Runs
import Teide.Lib.Timeline
import Teide.Vulkan.Basic

/-!
# The render graph

A `VulkanGraph` is made of resource nodes (textures and texture data) and command nodes (writes,
reads, render passes, dispatches and presents), which refer to resource nodes by type and index.
Each command node gets the next command index when it is added. The `Add*Node` functions also
collect the usages of the textures.

`step` adds one node. References are those of earlier calls: they are in range, and have the type
that the node's `Process` function looks them up with. The command counter is a `Nat`: a graph has
fewer than `2 ^ 32` command nodes. `destroySender` is what a user does who drops the sender that
`AddReadNode` returned.
-/

namespace Teide

inductive ResourceType where
  | texture | textureData
  deriving DecidableEq

inductive CommandType where
  | write | read | render | dispatch | present
  deriving DecidableEq

structure ResourceNodeRef where
  type : ResourceType
  index : Nat
  deriving DecidableEq

structure CommandNodeRef where
  type : CommandType := .write
  index : Nat := 0
  deriving DecidableEq

def textureRef (i : Nat) : ResourceNodeRef := ⟨.texture, i⟩

def textureDataRef (i : Nat) : ResourceNodeRef := ⟨.textureData, i⟩

/-! ### Resources of the device -/

/-- A handle; two textures are equal if their handles are. -/
abbrev Texture := Nat

abbrev ParameterBlock := Nat

structure TextureProperties where
  size : Size2i := {}
  format : Format := .unknown
  mipLevelCount : UInt32 := 1
  sampleCount : UInt32 := 1

structure TextureData where
  size : Size2i := {}
  format : Format := .unknown
  mipLevelCount : UInt32 := 1
  sampleCount : UInt32 := 1

structure ShaderParameters where
  textures : List Texture := []

structure RenderObject where
  materialParameters : ParameterBlock
  objectParameters : ShaderParameters := {}

structure ClearState where
  colorValue : Option (Float × Float × Float × Float) := none
  depthValue : Option Float := none
  stencilValue : Option UInt32 := none

structure RenderList where
  clearState : ClearState := {}
  viewParameters : ShaderParameters := {}
  objects : List RenderObject := []

structure RenderTargetInfo where
  size : Size2i := {}
  framebufferLayout : FramebufferLayout := {}

/-! ### Nodes -/

structure WriteNode where
  index : Nat
  source : ResourceNodeRef
  target : ResourceNodeRef

structure ReadNode where
  index : Nat
  source : ResourceNodeRef
  /-- `receiver.expired()`: the sender has been destroyed -/
  expired : Bool := false

structure RenderNode where
  index : Nat
  renderList : RenderList
  renderTargetInfo : RenderTargetInfo
  colorTarget : Option ResourceNodeRef
  depthStencilTarget : Option ResourceNodeRef
  dependencies : List ResourceNodeRef := []

structure DispatchNode where
  index : Nat
  dependencies : List ResourceNodeRef
  outputs : List ResourceNodeRef

structure PresentNode where
  index : Nat
  source : ResourceNodeRef

structure StateChange where
  nodeIndex : Nat
  expectedState : TextureState
  ensuredState : TextureState
  deriving DecidableEq

structure TextureNode where
  texture : Texture
  source : CommandNodeRef := {}
  usage : ImageUsageFlags := ∅
  stateChanges : List StateChange := []

structure TextureDataNode where
  data : TextureData
  source : Option CommandNodeRef := none

structure VulkanGraph where
  writeNodes : List WriteNode := []
  readNodes : List ReadNode := []
  renderNodes : List RenderNode := []
  dispatchNodes : List DispatchNode := []
  presentNodes : List PresentNode := []
  commandNodeCount : Nat := 0
  textureNodes : List TextureNode := []
  textureDataNodes : List TextureDataNode := []

namespace VulkanGraph

/-! ### Adding nodes -/

/-- `GetIf<TextureNode>` with a change of the node. -/
def modifyTexture (g : VulkanGraph) (ref : ResourceNodeRef) (f : TextureNode → TextureNode) :
    VulkanGraph :=
  match ref.type with
  | .texture => { g with textureNodes := g.textureNodes.modify ref.index f }
  | .textureData => g

def addUsage (g : VulkanGraph) (ref : ResourceNodeRef) (usage : ImageUsageFlags) : VulkanGraph :=
  g.modifyTexture ref fun node => { node with usage := node.usage ∪ usage }

def setSource (g : VulkanGraph) (ref : ResourceNodeRef) (source : CommandNodeRef) : VulkanGraph :=
  match ref.type with
  | .texture =>
    { g with textureNodes := g.textureNodes.modify ref.index fun node =>
        { node with source := source } }
  | .textureData =>
    { g with textureDataNodes := g.textureDataNodes.modify ref.index fun node =>
        { node with source := some source } }

def newCommandNode (g : VulkanGraph) : Nat × VulkanGraph :=
  (g.commandNodeCount, { g with commandNodeCount := g.commandNodeCount + 1 })

def addTextureNode (g : VulkanGraph) (texture : Texture) : ResourceNodeRef × VulkanGraph :=
  (textureRef g.textureNodes.length,
    { g with textureNodes := g.textureNodes ++ [{ texture := texture }] })

def addTextureDataNode (g : VulkanGraph) (data : TextureData) : ResourceNodeRef × VulkanGraph :=
  (textureDataRef g.textureDataNodes.length,
    { g with textureDataNodes := g.textureDataNodes ++ [{ data := data }] })

def addWriteNode (g : VulkanGraph) (source target : ResourceNodeRef) :
    CommandNodeRef × VulkanGraph :=
  let g := g.addUsage target {.transferDst}
  let (index, g) := g.newCommandNode
  let node : WriteNode := ⟨index, source, target⟩
  let g := { g with writeNodes := g.writeNodes ++ [node] }
  let r : CommandNodeRef := ⟨.write, g.writeNodes.length - 1⟩
  (r, g.setSource target r)

def addReadNode (g : VulkanGraph) (source : ResourceNodeRef) : VulkanGraph :=
  let g := g.addUsage source {.transferSrc}
  let (index, g) := g.newCommandNode
  let node : ReadNode := { index, source }
  { g with readNodes := g.readNodes ++ [node] }

def addDispatchNode (g : VulkanGraph) (inputs outputs : List ResourceNodeRef) :
    CommandNodeRef × VulkanGraph :=
  let (index, g) := g.newCommandNode
  let node : DispatchNode := ⟨index, inputs, outputs⟩
  let g := { g with dispatchNodes := g.dispatchNodes ++ [node] }
  let r : CommandNodeRef := ⟨.dispatch, g.dispatchNodes.length - 1⟩
  let g := inputs.foldl (fun g input => g.addUsage input {.sampled}) g
  let g := outputs.foldl (fun g output => (g.addUsage output {.storage}).setSource output r) g
  (r, g)

def addPresentNode (g : VulkanGraph) (source : ResourceNodeRef) : CommandNodeRef × VulkanGraph :=
  let (index, g) := g.newCommandNode
  let node : PresentNode := ⟨index, source⟩
  let g := { g with presentNodes := g.presentNodes ++ [node] }
  let r : CommandNodeRef := ⟨.present, g.presentNodes.length - 1⟩
  (r, g)

/-- The sender that `AddReadNode` returned for a read node is destroyed. -/
def destroySender (g : VulkanGraph) (read : Nat) : VulkanGraph :=
  { g with readNodes := g.readNodes.modify read fun node => { node with expired := true } }

/-- The properties that the handle of a texture node gives. -/
def propertiesOf (g : VulkanGraph) (properties : Texture → TextureProperties)
    (ref : ResourceNodeRef) : TextureProperties :=
  (g.textureNodes[ref.index]?.map fun node => properties node.texture).getD {}

/-- One render target, with the usage and the field of the framebuffer layout that go with it. -/
def addTarget (properties : Texture → TextureProperties) (r : CommandNodeRef)
    (usage : ImageUsageFlags) (setFormat : Format → FramebufferLayout → FramebufferLayout)
    (target : Option ResourceNodeRef) (gi : VulkanGraph × RenderTargetInfo) :
    VulkanGraph × RenderTargetInfo :=
  match target with
  | none => gi
  | some ref =>
    let g := (gi.1.addUsage ref usage).setSource ref r
    let tex := g.propertiesOf properties ref
    (g, { size := tex.size, framebufferLayout := setFormat tex.format gi.2.framebufferLayout })

def addColorTarget (properties : Texture → TextureProperties) (r : CommandNodeRef) :
    Option ResourceNodeRef → VulkanGraph × RenderTargetInfo → VulkanGraph × RenderTargetInfo :=
  addTarget properties r {.colorAttachment} fun format layout =>
    { layout with colorFormat := some format }

def addDepthStencilTarget (properties : Texture → TextureProperties) (r : CommandNodeRef) :
    Option ResourceNodeRef → VulkanGraph × RenderTargetInfo → VulkanGraph × RenderTargetInfo :=
  addTarget properties r {.depthStencilAttachment} fun format layout =>
    { layout with depthStencilFormat := some format }

def addRenderNode (g : VulkanGraph) (properties : Texture → TextureProperties)
    (renderList : RenderList) (colorTarget depthStencilTarget : Option ResourceNodeRef) :
    CommandNodeRef × VulkanGraph :=
  let r : CommandNodeRef := ⟨.render, g.renderNodes.length⟩
  let (g, renderTargetInfo) := addDepthStencilTarget properties r depthStencilTarget
    (addColorTarget properties r colorTarget (g, {}))
  let (index, g) := g.newCommandNode
  let node : RenderNode :=
    { index, renderList, renderTargetInfo, colorTarget, depthStencilTarget }
  (r, { g with renderNodes := g.renderNodes ++ [node] })

/-! ### Building a graph -/

inductive Call where
  | addTextureNode (texture : Texture)
  | addTextureDataNode (data : TextureData)
  | addWriteNode (source target : ResourceNodeRef)
  | addReadNode (source : ResourceNodeRef)
  | addRenderNode (properties : Texture → TextureProperties) (renderList : RenderList)
      (colorTarget depthStencilTarget : Option ResourceNodeRef)
  | addDispatchNode (inputs outputs : List ResourceNodeRef)
  | addPresentNode (source : ResourceNodeRef)
  | destroySender (read : Nat)

/-- The reference is one of a texture node of the graph. -/
def IsTexture (g : VulkanGraph) (ref : ResourceNodeRef) : Prop :=
  ref.type = .texture ∧ ref.index < g.textureNodes.length

def IsTextureData (g : VulkanGraph) (ref : ResourceNodeRef) : Prop :=
  ref.type = .textureData ∧ ref.index < g.textureDataNodes.length

instance (g : VulkanGraph) (ref : ResourceNodeRef) : Decidable (g.IsTexture ref) :=
  inferInstanceAs (Decidable (_ ∧ _))

instance (g : VulkanGraph) (ref : ResourceNodeRef) : Decidable (g.IsTextureData ref) :=
  inferInstanceAs (Decidable (_ ∧ _))

def step (g : VulkanGraph) : Call → Option VulkanGraph
  | .addTextureNode texture => some (g.addTextureNode texture).2
  | .addTextureDataNode data => some (g.addTextureDataNode data).2
  | .addWriteNode source target =>
    if g.IsTextureData source ∧ g.IsTexture target then some (g.addWriteNode source target).2
    else none
  | .addReadNode source => if g.IsTexture source then some (g.addReadNode source) else none
  | .addRenderNode properties renderList colorTarget depthStencilTarget =>
    if (∀ ref ∈ colorTarget, g.IsTexture ref) ∧ ∀ ref ∈ depthStencilTarget, g.IsTexture ref then
      some (g.addRenderNode properties renderList colorTarget depthStencilTarget).2
    else none
  | .addDispatchNode inputs outputs =>
    if (∀ ref ∈ inputs, g.IsTexture ref ∨ g.IsTextureData ref) ∧
        ∀ ref ∈ outputs, g.IsTexture ref ∨ g.IsTextureData ref then
      some (g.addDispatchNode inputs outputs).2
    else none
  | .addPresentNode source =>
    if g.IsTexture source ∨ g.IsTextureData source then some (g.addPresentNode source).2 else none
  | .destroySender i =>
    if i < g.readNodes.length then some (g.destroySender i) else none

/-- A texture is written and sampled by a render node, whose target is read. -/
def writeRenderRead : List Call :=
  [.addTextureNode 0, .addTextureNode 1, .addTextureDataNode {},
    .addWriteNode (textureDataRef 0) (textureRef 0),
    .addRenderNode (fun _ => {}) { viewParameters := { textures := [0] } } (some (textureRef 1)) none,
    .addReadNode (textureRef 1)]

example : ((Runs.exec step {} writeRenderRead).map fun g => g.commandNodeCount) = some 3 := rfl

end VulkanGraph

end Teide
