import Mathlib.Tactic.Common
import Mathlib.Data.List.Basic
import Teide.Graph.Record

/-!
# The state changes of a built graph

`BuildGraph` goes through the node lists one after another. What it registers is the list
`registrations`: for each command node its `changes`, in the order of `commandNodes`
(`buildGraph_eq`). The state changes of a texture are the timeline of those registrations that are
for it (`buildGraph_textureNodes_getElem?`).
-/

namespace Teide

/-! ### Registrations -/

/-- The state changes a command node registers, for nodes whose dependencies are known. -/
def CommandNode.changes : CommandNode → List (ResourceNodeRef × StateChange)
  | write node => [(node.target, ⟨node.index, transferDstState, transferDstState⟩)]
  | read node => [(node.source, ⟨node.index, transferSrcState, transferSrcState⟩)]
  | render node =>
    node.dependencies.map (·, ⟨node.index, sampledState, sampledState⟩) ++
      node.colorTarget.toList.map (·, ⟨node.index, {}, colorTargetState⟩) ++
      node.depthStencilTarget.toList.map (·, ⟨node.index, {}, depthStencilTargetState⟩)
  | dispatch node =>
    node.dependencies.map (·, ⟨node.index, kernelInputState, kernelInputState⟩) ++
      node.outputs.map (·, ⟨node.index, kernelOutputState, kernelOutputState⟩)
  | present node => [(node.source, ⟨node.index, presentState, presentState⟩)]

/-- The resources a command node accesses, as far as the graph tracks them. -/
def CommandNode.refs (c : CommandNode) : List ResourceNodeRef := c.changes.map Prod.fst

theorem CommandNode.nodeIndex_of_mem_changes {c : CommandNode} {change : ResourceNodeRef × StateChange}
    (h : change ∈ c.changes) : change.2.nodeIndex = c.index := by
  cases c <;> simp only [changes, List.mem_append, List.mem_map, List.mem_singleton] at h
  case write | read | present =>
    rw [h]
    rfl
  case dispatch =>
    rcases h with ⟨ref, -, rfl⟩ | ⟨ref, -, rfl⟩ <;> rfl
  case render =>
    rcases h with (⟨ref, -, rfl⟩ | ⟨ref, -, rfl⟩) | ⟨ref, -, rfl⟩ <;> rfl

namespace VulkanGraph

variable {g : VulkanGraph} {device : Device}

def register (g : VulkanGraph) (change : ResourceNodeRef × StateChange) : VulkanGraph :=
  g.addStateChange change.1 change.2.nodeIndex change.2.expectedState change.2.ensuredState

/-- `register`, as far as it concerns the texture nodes. -/
def registerTextures (nodes : List TextureNode) (change : ResourceNodeRef × StateChange) :
    List TextureNode :=
  match change.1.type with
  | .texture => nodes.modify change.1.index
      (·.addStateChange change.2.nodeIndex change.2.expectedState change.2.ensuredState)
  | .textureData => nodes

def registrations (g : VulkanGraph) : List (ResourceNodeRef × StateChange) :=
  g.commandNodes.flatMap CommandNode.changes

theorem register_eq (change : ResourceNodeRef × StateChange) :
    g.register change = { g with textureNodes := registerTextures g.textureNodes change } := by
  rw [register, addStateChange, modifyTexture, registerTextures]
  cases change.1.type <;> rfl

theorem foldl_register_eq (changes : List (ResourceNodeRef × StateChange)) :
    changes.foldl register g =
      { g with textureNodes := changes.foldl registerTextures g.textureNodes } := by
  induction changes generalizing g with
  | nil => rfl
  | cons change changes ih => rw [List.foldl_cons, ih, register_eq, List.foldl_cons]

/-- A loop over nodes that registers the changes of each is one loop over the changes of all. -/
theorem foldl_nodes_eq {ν : Type*} {f : VulkanGraph → ν → VulkanGraph} {toNode : ν → CommandNode}
    (hf : ∀ g node, f g node = (toNode node).changes.foldl register g) (nodes : List ν) :
    nodes.foldl f g = ((nodes.map toNode).flatMap CommandNode.changes).foldl register g := by
  induction nodes generalizing g with
  | nil => rfl
  | cons node nodes ih =>
    rw [List.foldl_cons, ih, hf, List.map_cons, List.flatMap_cons, List.foldl_append]

theorem foldl_addStateChange_map (refs : List ResourceNodeRef) (nodeIndex : Nat)
    (expectedState ensuredState : TextureState) :
    refs.foldl (fun g ref => g.addStateChange ref nodeIndex expectedState ensuredState) g =
      (refs.map (·, (⟨nodeIndex, expectedState, ensuredState⟩ : StateChange))).foldl register g := by
  rw [List.foldl_map]
  rfl

theorem render_addStateChanges_eq (g : VulkanGraph) (node : RenderNode) :
    node.addStateChanges g = (CommandNode.render node).changes.foldl register g := by
  rw [RenderNode.addStateChanges, CommandNode.changes, List.foldl_append, List.foldl_append,
    foldl_addStateChange_map]
  cases node.colorTarget <;> cases node.depthStencilTarget <;> rfl

theorem dispatch_addStateChanges_eq (g : VulkanGraph) (node : DispatchNode) :
    node.addStateChanges g = (CommandNode.dispatch node).changes.foldl register g := by
  rw [DispatchNode.addStateChanges, CommandNode.changes, List.foldl_append,
    foldl_addStateChange_map, foldl_addStateChange_map]

/-- `BuildGraph` registers the changes of all command nodes. -/
theorem buildGraph_eq :
    g.buildGraph device = (g.addDependencies device).registrations.foldl register
      (g.addDependencies device) := by
  rw [buildGraph, registrations, commandNodes]
  have hwrite : ∀ g : VulkanGraph, ∀ nodes : List WriteNode, nodes.foldl (fun g node =>
      g.addStateChange node.target node.index transferDstState transferDstState) g =
        ((nodes.map .write).flatMap CommandNode.changes).foldl register g :=
    fun _ => foldl_nodes_eq fun _ _ => rfl
  have hread : ∀ g : VulkanGraph, ∀ nodes : List ReadNode, nodes.foldl (fun g node =>
      g.addStateChange node.source node.index transferSrcState transferSrcState) g =
        ((nodes.map .read).flatMap CommandNode.changes).foldl register g :=
    fun _ => foldl_nodes_eq fun _ _ => rfl
  have hpresent : ∀ g : VulkanGraph, ∀ nodes : List PresentNode, nodes.foldl (fun g node =>
      g.addStateChange node.source node.index presentState presentState) g =
        ((nodes.map .present).flatMap CommandNode.changes).foldl register g :=
    fun _ => foldl_nodes_eq fun _ _ => rfl
  simp only [hwrite, hread, hpresent, foldl_nodes_eq render_addStateChanges_eq,
    foldl_nodes_eq dispatch_addStateChanges_eq, List.flatMap_append, List.foldl_append,
    foldl_register_eq]

/-! ### The changes of one texture -/

/-- Those of the changes that are for the texture node with a given number. -/
def changesOf (t : Nat) (changes : List (ResourceNodeRef × StateChange)) : List StateChange :=
  changes.filterMap fun change => if change.1 = textureRef t then some change.2 else none

theorem mem_changesOf {t : Nat} {changes : List (ResourceNodeRef × StateChange)}
    {change : StateChange} : change ∈ changesOf t changes ↔ (textureRef t, change) ∈ changes := by
  simp only [changesOf, List.mem_filterMap]
  constructor
  · rintro ⟨⟨ref, change'⟩, hmem, hsome⟩
    split_ifs at hsome with href
    obtain rfl := Option.some.inj hsome
    obtain rfl : ref = textureRef t := href
    exact hmem
  · intro hmem
    exact ⟨_, hmem, if_pos rfl⟩

theorem changesOf_append {t : Nat} {changes changes' : List (ResourceNodeRef × StateChange)} :
    changesOf t (changes ++ changes') = changesOf t changes ++ changesOf t changes' :=
  List.filterMap_append

/-- The changes, added to a timeline from left to right. -/
def insertChanges (changes timeline : List StateChange) : List StateChange :=
  changes.foldl (fun timeline change => Timeline.insert StateChange.nodeIndex change timeline)
    timeline

theorem insertChanges_append (changes changes' timeline : List StateChange) :
    insertChanges (changes ++ changes') timeline =
      insertChanges changes' (insertChanges changes timeline) :=
  List.foldl_append

theorem registerTextures_getElem? (nodes : List TextureNode)
    (change : ResourceNodeRef × StateChange) (t : Nat) :
    (registerTextures nodes change)[t]? = nodes[t]?.map fun node =>
      { node with stateChanges := insertChanges (changesOf t [change]) node.stateChanges } := by
  obtain ⟨⟨type, i⟩, change⟩ := change
  cases type with
  | textureData => simp [registerTextures, changesOf, textureRef, insertChanges]
  | texture =>
    by_cases hi : i = t
    · subst hi
      simp [registerTextures, changesOf, textureRef, insertChanges, TextureNode.addStateChange]
    · simp [registerTextures, changesOf, textureRef, insertChanges, hi]

theorem foldl_registerTextures_getElem? (changes : List (ResourceNodeRef × StateChange))
    (nodes : List TextureNode) (t : Nat) :
    (changes.foldl registerTextures nodes)[t]? = nodes[t]?.map fun node =>
      { node with stateChanges := insertChanges (changesOf t changes) node.stateChanges } := by
  induction changes generalizing nodes with
  | nil => simp [changesOf, insertChanges]
  | cons change changes ih =>
    have hsplit : changesOf t (change :: changes) = changesOf t [change] ++ changesOf t changes := by
      rw [← changesOf_append, List.singleton_append]
    rw [List.foldl_cons, ih, registerTextures_getElem?, Option.map_map]
    congr 1
    funext node
    rw [Function.comp_apply, hsplit, insertChanges_append]

/-- The timeline of the changes that are registered for a texture. -/
def timelineOf (g : VulkanGraph) (t : Nat) : List StateChange :=
  Timeline.ofList StateChange.nodeIndex (changesOf t g.registrations)

/-- **The state changes of a built graph** are the registrations for each texture, in the order of
the command indices. -/
theorem buildGraph_textureNodes_getElem? (hfresh : ∀ node ∈ g.textureNodes, node.stateChanges = [])
    (device : Device) (t : Nat) :
    (g.buildGraph device).textureNodes[t]? = g.textureNodes[t]?.map fun node =>
      { node with stateChanges := (g.addDependencies device).timelineOf t } := by
  rw [buildGraph_eq, foldl_register_eq]
  refine (foldl_registerTextures_getElem? _ g.textureNodes t).trans ?_
  cases hnode : g.textureNodes[t]? with
  | none => rfl
  | some node =>
    rw [Option.map_some, Option.map_some, hfresh node (List.mem_of_getElem? hnode)]
    rfl

theorem buildGraph_commandNodes :
    (g.buildGraph device).commandNodes = (g.addDependencies device).commandNodes := by
  rw [buildGraph_eq, foldl_register_eq]
  rfl

theorem mem_timelineOf {t : Nat} {change : StateChange} :
    change ∈ g.timelineOf t ↔ ∃ c ∈ g.commandNodes, (textureRef t, change) ∈ c.changes := by
  rw [timelineOf, Timeline.mem_ofList, mem_changesOf, registrations, List.mem_flatMap]

theorem timelineOf_sorted (t : Nat) : Timeline.Sorted StateChange.nodeIndex (g.timelineOf t) :=
  Timeline.ofList_sorted _

end VulkanGraph

end Teide
