import Mathlib.Data.List.Nodup
import Mathlib.Tactic.Common
import Teide.Graph.Process
import Teide.Texture.Layouts

/-!
# The layouts of sampled textures

A texture that a render list binds is in a descriptor, into which `WriteDescriptorSet` has written a
layout that depends on the format, as `TransitionToShaderInput` does. `BuildGraph` expects the texture in
the layout for colors whatever the format, and a render node looks up what has been registered last for
it: for a texture that is also a target of the node, that the previous contents do not matter.

So the two layouts agree exactly for textures without depth and stencil that are not also rendered to
(`sampledAsBound_iff`).
-/

namespace Teide

open Runs

/-- The layout that `Process` has a texture put in before the render pass. -/
def RenderNode.layoutOf (node : RenderNode) (g : VulkanGraph) (ref : ResourceNodeRef) :
    Option ImageLayout :=
  ((g.getTexture? ref).bind fun textureNode => textureNode.getStateTransition node.index).map
    fun transition => transition.new.layout

namespace VulkanGraph

variable {g : VulkanGraph} {device : Device} {c : CommandNode} {ref : ResourceNodeRef} {t : Nat}

/-- A texture that the node binds is put in the layout that `WriteDescriptorSet` writes for it. -/
def SampledAsBound (g : VulkanGraph) (device : Device) (node : RenderNode) (texture : Texture) :
    Prop :=
  ∀ ref, g.findTexture texture = some ref → ∀ impl : Descriptors.VulkanTexture,
    impl.format = ((g.executeGraph device).1.textures texture).properties.format →
      ∀ info ∈ Descriptors.imageInfo impl,
        node.layoutOf (g.buildGraph device) ref = some info.imageLayout

/-! ### The last registration of a node -/

/-- Only the node itself registers changes with its index. -/
theorem filter_changesOf {nodes : List CommandNode}
    (hnodup : (nodes.map CommandNode.index).Nodup) (hc : c ∈ nodes) :
    (changesOf t (nodes.flatMap CommandNode.changes)).filter
        (fun change => change.nodeIndex = c.index) = changesOf t c.changes := by
  induction nodes with
  | nil => exact absurd hc List.not_mem_nil
  | cons c' nodes ih =>
    have hindex : ∀ d : CommandNode, ∀ change ∈ changesOf t d.changes, change.nodeIndex = d.index :=
      fun d change hmem => CommandNode.nodeIndex_of_mem_changes (mem_changesOf.mp hmem)
    obtain ⟨hnotMem, hnodup⟩ := List.nodup_cons.mp hnodup
    rw [List.flatMap_cons, changesOf_append, List.filter_append]
    rcases List.mem_cons.mp hc with rfl | hc
    · have hself : (changesOf t c.changes).filter (fun change => change.nodeIndex = c.index) =
          changesOf t c.changes := by
        apply List.filter_eq_self.mpr
        exact fun change hmem => decide_eq_true (hindex c change hmem)
      have hothers : (changesOf t (nodes.flatMap CommandNode.changes)).filter
          (fun change => change.nodeIndex = c.index) = [] := by
        refine List.filter_eq_nil_iff.mpr fun change hmem heq => hnotMem ?_
        obtain ⟨d, hd, hchange⟩ := List.mem_flatMap.mp (mem_changesOf.mp hmem)
        rw [← of_decide_eq_true heq, CommandNode.nodeIndex_of_mem_changes hchange]
        exact List.mem_map_of_mem hd
      rw [hself, hothers, List.append_nil]
    · have hnone : (changesOf t c'.changes).filter (fun change => change.nodeIndex = c.index) =
          [] := by
        refine List.filter_eq_nil_iff.mpr fun change hmem heq => hnotMem ?_
        rw [← hindex c' change hmem, of_decide_eq_true heq]
        exact List.mem_map_of_mem hc
      rw [hnone, List.nil_append, ih hnodup hc]

/-- A node looks up the last of the changes that it has registered for a texture. -/
theorem head?_fromOn_timelineOf (hg : g.WellFormed) (hc : c ∈ g.commandNodes)
    (href : textureRef t ∈ c.refs) :
    (Timeline.fromOn StateChange.nodeIndex (g.timelineOf t) c.index).head? =
      (changesOf t c.changes).getLast? := by
  obtain ⟨⟨ref, change⟩, hchange, rfl⟩ := List.mem_map.mp href
  have hmem : change ∈ changesOf t g.registrations :=
    mem_changesOf.mpr (List.mem_flatMap.mpr ⟨c, hc, hchange⟩)
  rw [timelineOf, Timeline.head?_fromOn_ofList hmem (CommandNode.nodeIndex_of_mem_changes hchange)]
  exact congrArg List.getLast? (filter_changesOf hg.indices_nodup hc)

theorem getStateTransition_map_layout (textureNode : TextureNode) (nodeIndex : Nat) :
    (textureNode.getStateTransition nodeIndex).map (fun transition => transition.new.layout) =
      (Timeline.fromOn StateChange.nodeIndex textureNode.stateChanges nodeIndex).head?.map
        fun change => change.expectedState.layout := by
  unfold TextureNode.getStateTransition
  cases (Timeline.fromOn StateChange.nodeIndex textureNode.stateChanges nodeIndex).head? <;> rfl

/-- So the layout is that of the last of these changes. -/
theorem layoutOf_eq (hg : g.Fresh) {node : RenderNode} (hnode : node ∈ g.renderNodes)
    (href : textureRef t ∈ node.accessed g device) (ht : t < g.textureNodes.length) :
    node.layoutOf (g.buildGraph device) (textureRef t) =
      (changesOf t (CommandNode.render (node.addDependencies g device)).changes).getLast?.map
        fun change => change.expectedState.layout := by
  have hc := render_mem_commandNodes.mpr hnode
  have hrefs : textureRef t ∈ (CommandNode.render (node.addDependencies g device)).refs := by
    rw [show (CommandNode.render (node.addDependencies g device)).refs = node.accessed g device from
      refs_addDependencies hg hc device]
    exact href
  have hhead := head?_fromOn_timelineOf (hg.wellFormed.addDependencies device)
    (addDependencies_mem hc) hrefs
  rw [index_addDependencies] at hhead
  have hbuilt := buildGraph_textureNodes_getElem? hg.stateChanges device t
  rw [List.getElem?_eq_getElem ht, Option.map_some] at hbuilt
  unfold RenderNode.layoutOf
  show Option.map _ (((g.buildGraph device).textureNodes[t]?).bind _) = _
  rw [hbuilt, Option.bind_some, getStateTransition_map_layout]
  exact congrArg (Option.map _) hhead

/-! ### Dependencies and targets -/

theorem mem_changesOf_map {refs : List ResourceNodeRef} {change change' : StateChange} :
    change' ∈ changesOf t (refs.map (·, change)) ↔ textureRef t ∈ refs ∧ change' = change := by
  rw [mem_changesOf, List.mem_map]
  constructor
  · rintro ⟨ref, href, heq⟩
    obtain ⟨rfl, rfl⟩ := Prod.mk.inj heq
    exact ⟨href, rfl⟩
  · rintro ⟨href, rfl⟩
    exact ⟨_, href, rfl⟩

theorem getLast?_map_of_forall {α β : Type*} {l : List α} {f : α → β} {b : β} (hne : l ≠ [])
    (h : ∀ a ∈ l, f a = b) : l.getLast?.map f = some b := by
  rw [List.getLast?_eq_some_getLast hne, Option.map_some, h _ (List.getLast_mem hne)]

/-- The changes that a render node registers for its targets. -/
def targetChanges (node : RenderNode) : List (ResourceNodeRef × StateChange) :=
  node.colorTarget.toList.map (·, ⟨node.index, {}, colorTargetState⟩) ++
    node.depthStencilTarget.toList.map (·, ⟨node.index, {}, depthStencilTargetState⟩)

theorem mem_targetChanges {node : RenderNode} {change : StateChange} :
    change ∈ changesOf t (targetChanges node) ↔
      (textureRef t ∈ node.colorTarget ∧ change = ⟨node.index, {}, colorTargetState⟩) ∨
        (textureRef t ∈ node.depthStencilTarget ∧
          change = ⟨node.index, {}, depthStencilTargetState⟩) := by
  rw [targetChanges, changesOf_append, List.mem_append, mem_changesOf_map, mem_changesOf_map,
    Option.mem_toList, Option.mem_toList]
  rfl

theorem changes_addDependencies (hg : g.Fresh) {node : RenderNode} (hnode : node ∈ g.renderNodes) :
    (CommandNode.render (node.addDependencies g device)).changes =
      ((node.boundTextures device).filterMap g.findTexture).map
        (·, ⟨node.index, sampledState, sampledState⟩) ++ targetChanges node := by
  rw [addDependencies_eq, hg.dependencies node hnode, List.nil_append, targetChanges,
    ← List.append_assoc]
  rfl

/-- A bound texture that is not a target is put in the layout for sampling colors. -/
theorem layoutOf_of_not_target (hg : g.Fresh) {node : RenderNode} (hnode : node ∈ g.renderNodes)
    {texture : Texture} (hbound : texture ∈ node.boundTextures device)
    (hfound : g.findTexture texture = some (textureRef t))
    (htarget : textureRef t ∉ node.colorTarget ∧ textureRef t ∉ node.depthStencilTarget) :
    node.layoutOf (g.buildGraph device) (textureRef t) = some .shaderReadOnlyOptimal := by
  have hmem : textureRef t ∈ (node.boundTextures device).filterMap g.findTexture :=
    List.mem_filterMap.mpr ⟨texture, hbound, hfound⟩
  have hnone : changesOf t (targetChanges node) = [] := by
    apply List.eq_nil_iff_forall_not_mem.mpr
    intro change hchange
    rcases mem_targetChanges.mp hchange with ⟨hcolor, -⟩ | ⟨hdepth, -⟩
    · exact htarget.1 hcolor
    · exact htarget.2 hdepth
  rw [layoutOf_eq hg hnode (List.mem_append_left _ (List.mem_append_left _ hmem))
    (isTexture_of_findTexture hfound).2, changes_addDependencies hg hnode, changesOf_append, hnone,
    List.append_nil]
  apply getLast?_map_of_forall
  · exact List.ne_nil_of_mem (mem_changesOf_map.mpr ⟨hmem, rfl⟩)
  · intro change hchange
    rw [(mem_changesOf_map.mp hchange).2]
    rfl

/-- One that is a target is left as it is: the state expected of a target is no state. -/
theorem layoutOf_of_target (hg : g.Fresh) {node : RenderNode} (hnode : node ∈ g.renderNodes)
    (ht : t < g.textureNodes.length)
    (htarget : textureRef t ∈ node.colorTarget ∨ textureRef t ∈ node.depthStencilTarget) :
    node.layoutOf (g.buildGraph device) (textureRef t) = some .undefined := by
  have href : textureRef t ∈ node.accessed g device := by
    rcases htarget with hcolor | hdepth
    · exact List.mem_append_left _ (List.mem_append_right _ (Option.mem_toList.mpr hcolor))
    · exact List.mem_append_right _ (Option.mem_toList.mpr hdepth)
  have hne : changesOf t (targetChanges node) ≠ [] := by
    rcases htarget with hcolor | hdepth
    · exact List.ne_nil_of_mem (mem_targetChanges.mpr (Or.inl ⟨hcolor, rfl⟩))
    · exact List.ne_nil_of_mem (mem_targetChanges.mpr (Or.inr ⟨hdepth, rfl⟩))
  rw [layoutOf_eq hg hnode href ht, changes_addDependencies hg hnode, changesOf_append,
    List.getLast?_append_of_ne_nil _ hne]
  apply getLast?_map_of_forall hne
  intro change hchange
  rcases mem_targetChanges.mp hchange with ⟨-, rfl⟩ | ⟨-, rfl⟩
  · rfl
  · rfl

/-- A texture with a view, and any format. -/
theorem exists_imageInfo_of_format (format : Format) : ∃ impl : Descriptors.VulkanTexture,
    impl.format = format ∧ ∃ info, info ∈ Descriptors.imageInfo impl ∧
      info.imageLayout = shaderInputLayout format := by
  let impl : Descriptors.VulkanTexture := { imageView := some 0, format := format }
  have hinfo : ∃ info, info ∈ Descriptors.imageInfo impl := ⟨_, rfl⟩
  obtain ⟨info, hinfo⟩ := hinfo
  exact ⟨impl, rfl, info, hinfo, imageLayout_of_mem_imageInfo hinfo⟩

/-- The descriptor of a texture is written for its format. -/
theorem sampledAsBound_iff_layoutOf {node : RenderNode} {texture : Texture}
    (hfound : g.findTexture texture = some ref) :
    g.SampledAsBound device node texture ↔ node.layoutOf (g.buildGraph device) ref =
      some (shaderInputLayout ((g.executeGraph device).1.textures texture).properties.format) := by
  constructor
  · intro h
    obtain ⟨impl, hformat, info, hinfo, hlayout⟩ :=
      exists_imageInfo_of_format ((g.executeGraph device).1.textures texture).properties.format
    rw [h ref hfound impl hformat info hinfo, hlayout]
  · intro h ref' hfound' impl hformat info hinfo
    obtain rfl : ref = ref' := Option.some.inj (hfound.symm.trans hfound')
    rw [h, imageLayout_of_mem_imageInfo hinfo, hformat]

/-- **A bound texture is put in the layout of its descriptor exactly if it has no depth or stencil
component and the node does not also render to it.** -/
theorem sampledAsBound_iff (h : Reachable VulkanGraph.step {} g) (device : Device)
    {node : RenderNode} (hnode : node ∈ g.renderNodes) {texture : Texture}
    (hbound : texture ∈ node.boundTextures device) (hfound : g.findTexture texture = some ref) :
    g.SampledAsBound device node texture ↔
      hasDepthOrStencilComponent
          ((g.executeGraph device).1.textures texture).properties.format = false ∧
        ref ∉ node.colorTarget ∧ ref ∉ node.depthStencilTarget := by
  have hg := Fresh.of_reachable h
  obtain ⟨htype, ht⟩ := isTexture_of_findTexture hfound
  obtain ⟨type, t⟩ := ref
  obtain rfl : type = .texture := htype
  rw [sampledAsBound_iff_layoutOf hfound]
  by_cases htarget : textureRef t ∉ node.colorTarget ∧ textureRef t ∉ node.depthStencilTarget
  · have hlayout := layoutOf_of_not_target hg hnode hbound hfound htarget
    rw [textureRef] at htarget hlayout
    rw [hlayout, and_iff_left htarget]
    unfold shaderInputLayout
    cases hasDepthOrStencilComponent
      ((g.executeGraph device).1.textures texture).properties.format <;> decide
  · have hlayout : node.layoutOf (g.buildGraph device) ⟨.texture, t⟩ = some .undefined := by
      rw [not_and_or, not_not, not_not] at htarget
      exact layoutOf_of_target hg hnode ht htarget
    rw [hlayout]
    refine iff_of_false (fun heq => ?_) fun hright => htarget hright.2
    unfold shaderInputLayout at heq
    split at heq <;> cases heq

theorem sampledAsBound_writeRenderRead : ∃ g, exec VulkanGraph.step {} writeRenderRead = some g ∧
    ∃ node ∈ g.renderNodes, g.SampledAsBound {} node 0 :=
  ⟨_, rfl, _, List.mem_cons_self, (sampledAsBound_iff ⟨writeRenderRead, rfl⟩ {}
    List.mem_cons_self (by decide) rfl).mpr (by decide)⟩

/-- Textures with a depth format. -/
def depthTextures : Device := { textures := fun _ => { properties := { format := .depth32 } } }

/-- A shadow map is rendered, and then sampled. -/
def renderShadowMap : List Call :=
  [.addTextureNode 0, .addTextureNode 1,
    .addRenderNode (fun texture => (depthTextures.textures texture).properties) {} none
      (some (textureRef 0)),
    .addRenderNode (fun texture => (depthTextures.textures texture).properties)
      { viewParameters := { textures := [0] } } none (some (textureRef 1))]

/-- The shadow map is put in the layout for colors. -/
theorem not_sampledAsBound : ∃ g, exec VulkanGraph.step {} renderShadowMap = some g ∧
    ∃ node ∈ g.renderNodes, 0 ∈ node.boundTextures depthTextures ∧
      g.findTexture 0 = some (textureRef 0) ∧ ¬ g.SampledAsBound depthTextures node 0 := by
  refine ⟨_, rfl, _, List.mem_cons_of_mem _ List.mem_cons_self, by decide, rfl, fun h => ?_⟩
  have hlayout := h _ rfl { imageView := some 1, format := .depth32 } rfl _ rfl
  exact absurd hlayout (by decide)

end VulkanGraph

end Teide
