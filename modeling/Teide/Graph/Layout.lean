import Mathlib.Data.List.Nodup
import Mathlib.Tactic.Common
import Teide.Graph.Barriers
import Teide.Graph.LeaveOut
import Teide.Graph.Unique

/-!
# Layouts while the command buffers run

The command buffers of a graph run one after another on fresh images. The state that the graph
believes a texture to be in is compared with the layout that its image really is in.

Before each command index, an image is in the layout that the timeline without the discarded reads
gives (`Tracks`). A node finds its textures as it expects them exactly if the graph, which knows of
the discarded reads, believes in the same layouts (`layoutsRight_iff`).
-/

namespace Teide

open Runs

namespace CommandNode

/-- A write, a render node, or a read whose result is wanted. -/
def Records : CommandNode → Prop
  | read node => node.expired = false
  | write _ | render _ => True
  | dispatch _ | present _ => False

/-- The layout in which the node uses the textures that it prepares. -/
def expectedLayout : CommandNode → ImageLayout
  | write _ => .transferDstOptimal
  | read _ => .transferSrcOptimal
  | render _ => .shaderReadOnlyOptimal
  | dispatch _ | present _ => .undefined

/-- The state that a node prepares textures for. -/
def preparedState : CommandNode → TextureState
  | write _ => transferDstState
  | read _ => transferSrcState
  | render _ => sampledState
  | dispatch _ | present _ => {}

/-- The render targets of the node, with the layouts that it leaves them in. -/
def targets : CommandNode → List (ResourceNodeRef × ImageLayout)
  | render node =>
    node.colorTarget.toList.map (·, .colorAttachmentOptimal) ++
      node.depthStencilTarget.toList.map (·, .depthStencilAttachmentOptimal)
  | _ => []

end CommandNode

namespace VulkanGraph

variable {g : VulkanGraph} {device : Device} {c : CommandNode} {ref : ResourceNodeRef}
  {layouts : Layouts} {t : Nat}

/-! ### Targets of a render pass -/

theorem zip_attachments {node : RenderNode} (hnode : node.WellFormed g)
    {imageOf : ResourceNodeRef → Option Image} {n : Nat}
    (himage : ∀ ref, g.IsTexture ref → imageOf ref = some (n + ref.index)) :
    let attachments := (Device.createRenderPass node.renderTargetInfo.framebufferLayout
      node.renderList.clearState .attachment).zip
        ((node.colorTarget.toList ++ node.depthStencilTarget.toList).filterMap imageOf)
    (∀ a ∈ attachments, a.1.initialLayout = .undefined) ∧
      attachments.map (fun a => (a.2, a.1.finalLayout)) =
        (CommandNode.render node).targets.map fun target => (n + target.1.index, target.2) := by
  obtain ⟨hcolor, hdepth, hcolorFormat, hdepthFormat, hsamples, -⟩ := hnode
  generalize node.renderTargetInfo.framebufferLayout = layout at *
  rw [CommandNode.targets]
  cases hc : node.colorTarget with
  | none =>
    rw [hc] at hcolorFormat
    have hcf : layout.colorFormat = none := by simpa using hcolorFormat
    cases hd : node.depthStencilTarget with
    | none =>
      rw [hd] at hdepthFormat
      have hdf : layout.depthStencilFormat = none := by simpa using hdepthFormat
      simp [Device.createRenderPass, createRenderPass, hcf, hdf]
    | some ref =>
      rw [hd] at hdepthFormat
      obtain ⟨format, hdf⟩ := Option.isSome_iff_exists.mp hdepthFormat
      simp [Device.createRenderPass, createRenderPass, hcf, hdf, hsamples, himage ref (hdepth ref hd),
        getDepthStencilImageLayout]
  | some cref =>
    rw [hc] at hcolorFormat
    obtain ⟨cformat, hcf⟩ := Option.isSome_iff_exists.mp hcolorFormat
    have hload : ∀ clear : Option (Float × Float × Float × Float),
        (if clear.isSome then AttachmentLoadOp.clear else .dontCare) ≠ .load := by
      intro clear
      split_ifs <;> decide
    cases hd : node.depthStencilTarget with
    | none =>
      rw [hd] at hdepthFormat
      have hdf : layout.depthStencilFormat = none := by simpa using hdepthFormat
      simp [Device.createRenderPass, createRenderPass, hcf, hdf, hsamples,
        himage cref (hcolor cref hc), getColorImageLayout, hload]
    | some ref =>
      rw [hd] at hdepthFormat
      obtain ⟨format, hdf⟩ := Option.isSome_iff_exists.mp hdepthFormat
      simp [Device.createRenderPass, createRenderPass, hcf, hdf, hsamples,
        himage cref (hcolor cref hc), himage ref (hdepth ref hd), getColorImageLayout,
        getDepthStencilImageLayout, hload]

/-! ### The work of a node -/

theorem imageOf_buildGraph (hg : g.Fresh)
    (hdistinct : (g.textureNodes.map TextureNode.texture).Nodup) (href : g.IsTexture ref)
    (device : Device) : (g.buildGraph device).imageOf (g.executeGraph device).1 ref =
      some (device.images.length + ref.index) := by
  have hnode := List.getElem?_eq_getElem href.2
  rw [imageOf, buildGraph_textureNodes_getElem? hg.stateChanges, hnode, Option.map_some,
    Option.map_some]
  have himage := executeGraph_image hg hdistinct hnode device
  exact congrArg some himage

theorem filterMap_imageOf (hg : g.Fresh)
    (hdistinct : (g.textureNodes.map TextureNode.texture).Nodup) {refs : List ResourceNodeRef}
    (hrefs : ∀ ref ∈ refs, g.IsTexture ref) :
    refs.filterMap ((g.buildGraph device).imageOf (g.executeGraph device).1) =
      refs.map fun ref => device.images.length + ref.index := by
  rw [← List.filterMap_eq_map]
  exact List.filterMap_congr fun ref href => imageOf_buildGraph hg hdistinct (hrefs ref href) device

/-- The work of a node finds the layouts it takes the images to be in exactly if the textures that the
node has prepared are in the layout that the node uses them in. -/
theorem each_work_iff (hg : g.Fresh) (hdistinct : (g.textureNodes.map TextureNode.texture).Nodup)
    (hc : c.WellFormed g) :
    Each runCommand VkCommand.LayoutsOk layouts
        (c.work (g.buildGraph device) (g.executeGraph device).1) ↔
      ∀ ref ∈ c.prepared, layouts (device.images.length + ref.index) = c.expectedLayout := by
  cases c with
  | write node =>
    obtain ⟨hsource, htarget⟩ := hc
    have hdata := List.getElem?_eq_getElem hsource.2
    simp only [CommandNode.work, CommandNode.prepared, CommandNode.expectedLayout,
      buildGraph_textureDataNodes, hdata, imageOf_buildGraph hg hdistinct htarget,
      each_runCommand_singleton, VkCommand.LayoutsOk, List.forall_mem_singleton]
  | read node =>
    have hsource : g.IsTexture node.source := hc
    by_cases hexpired : node.expired = true
    · simp only [CommandNode.work, CommandNode.prepared, if_pos hexpired, Each, List.not_mem_nil,
        false_imp_iff, implies_true]
    · have hnode := buildGraph_textureNodes_getElem? hg.stateChanges device node.source.index
      rw [List.getElem?_eq_getElem hsource.2, Option.map_some] at hnode
      have himage := executeGraph_image hg hdistinct (List.getElem?_eq_getElem hsource.2) device
      simp only [CommandNode.work, CommandNode.prepared, CommandNode.expectedLayout,
        if_neg hexpired, hnode, himage, Option.toList_some, List.map_cons, List.map_nil,
        each_runCommand_singleton, VkCommand.LayoutsOk, List.forall_mem_singleton]
  | render node =>
    have hnode : node.WellFormed g := hc
    have hattachments := (zip_attachments hnode fun ref href =>
      imageOf_buildGraph hg hdistinct href device).1
    rw [CommandNode.work, each_runCommand_singleton, filterMap_imageOf hg hdistinct hnode.dependencies]
    simp only [VkCommand.LayoutsOk, CommandNode.prepared, CommandNode.expectedLayout,
      List.forall_mem_map]
    exact and_iff_right fun a ha => Or.inl (hattachments a ha)
  | dispatch node => simp [CommandNode.work, CommandNode.prepared, Each]
  | present node => simp [CommandNode.work, CommandNode.prepared, Each]

theorem executeAll_work_of_not_target (hg : g.Fresh)
    (hdistinct : (g.textureNodes.map TextureNode.texture).Nodup) (hc : c.WellFormed g)
    (ht : ∀ target ∈ c.targets, target.1.index ≠ t) :
    executeAll layouts (c.work (g.buildGraph device) (g.executeGraph device).1)
        (device.images.length + t) = layouts (device.images.length + t) := by
  cases c with
  | write node =>
    unfold CommandNode.work
    dsimp only
    split <;> rfl
  | read node =>
    rw [CommandNode.work]
    split_ifs
    · rfl
    · cases (g.buildGraph device).textureNodes[node.source.index]? <;> rfl
  | render node =>
    have hattachments := (zip_attachments (show node.WellFormed g from hc) fun ref href =>
      imageOf_buildGraph hg hdistinct href device).2
    refine endRenderPass_of_forall_ne fun a ha heq => ?_
    have hmem := List.mem_map_of_mem (f := fun a => (a.2, a.1.finalLayout)) ha
    rw [hattachments] at hmem
    obtain ⟨target, htarget, himage⟩ := List.mem_map.mp hmem
    have hindex := (congrArg Prod.fst himage).trans heq
    exact ht target htarget (Nat.add_left_cancel hindex)
  | dispatch node => rfl
  | present node => rfl

theorem executeAll_work_of_target (hg : g.Fresh)
    (hdistinct : (g.textureNodes.map TextureNode.texture).Nodup) (hc : c.WellFormed g)
    (hnodup : (c.targets.map fun target => target.1.index).Nodup) {layout : ImageLayout}
    (ht : (textureRef t, layout) ∈ c.targets) :
    executeAll layouts (c.work (g.buildGraph device) (g.executeGraph device).1)
        (device.images.length + t) = layout := by
  cases c with
  | render node =>
    have hattachments := (zip_attachments (show node.WellFormed g from hc) fun ref href =>
      imageOf_buildGraph hg hdistinct href device).2
    have hmem : (device.images.length + t, layout) ∈
        (CommandNode.render node).targets.map fun target =>
          (device.images.length + target.1.index, target.2) := List.mem_map.mpr ⟨_, ht, rfl⟩
    rw [← hattachments] at hmem
    obtain ⟨a, ha, heq⟩ := List.mem_map.mp hmem
    obtain ⟨himage, hlayout⟩ := Prod.mk.inj heq
    rw [← himage, ← hlayout]
    refine endRenderPass_of_mem ?_ ha
    have himages := congrArg (List.map Prod.fst) hattachments
    rw [List.map_map, List.map_map] at himages
    have hshift := hnodup.map fun _ _ h => Nat.add_left_cancel (n := device.images.length) h
    rw [List.map_map] at hshift
    exact himages ▸ hshift
  | _ => exact absurd ht List.not_mem_nil

/-! ### Changes of a node -/

theorem preparedState_layout : c.preparedState.layout = c.expectedLayout := by cases c <;> rfl

theorem exists_change_of_prepared (h : ref ∈ c.prepared) : ∃ change, (ref, change) ∈ c.changes ∧
    change.expectedState = c.preparedState ∧ change.ensuredState = c.preparedState := by
  cases c with
  | write node =>
    rw [List.mem_singleton.mp h]
    exact ⟨_, List.mem_singleton_self _, rfl, rfl⟩
  | read node =>
    have hsource : ref = node.source := List.mem_singleton.mp (prepared_sublist_refs.subset h)
    rw [hsource]
    exact ⟨_, List.mem_singleton_self _, rfl, rfl⟩
  | render node =>
    exact ⟨_, List.mem_append_left _ (List.mem_append_left _ (List.mem_map_of_mem h)), rfl, rfl⟩
  | dispatch node => exact absurd h List.not_mem_nil
  | present node => exact absurd h List.not_mem_nil

theorem exists_change_of_target {layout : ImageLayout} (h : (ref, layout) ∈ c.targets) :
    ∃ change, (ref, change) ∈ c.changes ∧ change.ensuredState.layout = layout ∧
      layout ≠ c.expectedLayout := by
  cases c with
  | render node =>
    rcases List.mem_append.mp h with h | h
    · obtain ⟨_, href, heq⟩ := List.mem_map.mp h
      obtain ⟨rfl, rfl⟩ := Prod.mk.inj heq
      refine ⟨_, List.mem_append_left _ (List.mem_append_right _ (List.mem_map_of_mem href)), rfl, ?_⟩
      simp [CommandNode.expectedLayout]
    · obtain ⟨_, href, heq⟩ := List.mem_map.mp h
      obtain ⟨rfl, rfl⟩ := Prod.mk.inj heq
      refine ⟨_, List.mem_append_right _ (List.mem_map_of_mem href), rfl, ?_⟩
      simp [CommandNode.expectedLayout]
  | _ => exact absurd h List.not_mem_nil

theorem targets_layouts_nodup : (c.targets.map Prod.snd).Nodup := by
  cases c with
  | render node =>
    obtain ⟨_, _, _, colorTarget, depthStencilTarget, _⟩ := node
    cases colorTarget <;> cases depthStencilTarget <;> simp [CommandNode.targets]
  | _ => exact List.nodup_nil

theorem prepared_or_target (hc : c.Records) (h : ref ∈ c.refs) :
    ref ∈ c.prepared ∨ ∃ layout, (ref, layout) ∈ c.targets := by
  cases c with
  | write node => exact Or.inl h
  | read node =>
    refine Or.inl ?_
    have hlive : ¬ node.expired = true := by
      rw [show node.expired = false from hc]
      exact Bool.false_ne_true
    rw [CommandNode.prepared, if_neg hlive]
    exact h
  | render node =>
    obtain ⟨⟨_, change⟩, hchange, rfl⟩ := List.mem_map.mp h
    simp only [CommandNode.changes, List.mem_append, List.mem_map, Prod.mk.injEq] at hchange
    rcases hchange with (⟨_, href, rfl, -⟩ | ⟨_, href, rfl, -⟩) | ⟨_, href, rfl, -⟩
    · exact Or.inl href
    · exact Or.inr ⟨_, List.mem_append_left _ (List.mem_map_of_mem href)⟩
    · exact Or.inr ⟨_, List.mem_append_right _ (List.mem_map_of_mem href)⟩
  | dispatch node => exact absurd hc id
  | present node => exact absurd hc id

/-! ### One change for each node -/

section Unique

variable {D : List Nat} {change change' : StateChange} {node : TextureNode}

theorem timelineOf_nodup (hg : g.Fresh) (hunique : (g.buildGraph device).OneChangeEach)
    (hnode : g.textureNodes[t]? = some node) :
    (((g.addDependencies device).timelineOf t).map StateChange.nodeIndex).Nodup := by
  obtain ⟨hlt, -⟩ := List.getElem?_eq_some_iff.mp hnode
  exact (oneChangeEach_iff_timelineOf hg).mp hunique t hlt

theorem mem_timelineOf_of_change (hc : c ∈ g.commandNodes)
    (hchange : (textureRef t, change) ∈ (c.addDependencies g device).changes) :
    change ∈ (g.addDependencies device).timelineOf t ∧ change.nodeIndex = c.index := by
  refine ⟨mem_timelineOf.mpr ⟨_, addDependencies_mem hc, hchange⟩, ?_⟩
  rw [CommandNode.nodeIndex_of_mem_changes hchange, index_addDependencies]

theorem change_unique (hg : g.Fresh) (hunique : (g.buildGraph device).OneChangeEach)
    (hnode : g.textureNodes[t]? = some node) (hc : c ∈ g.commandNodes)
    (hchange : (textureRef t, change) ∈ (c.addDependencies g device).changes)
    (hchange' : (textureRef t, change') ∈ (c.addDependencies g device).changes) :
    change = change' := by
  obtain ⟨hmem, hindex⟩ := mem_timelineOf_of_change hc hchange
  obtain ⟨hmem', hindex'⟩ := mem_timelineOf_of_change hc hchange'
  exact List.inj_on_of_nodup_map (timelineOf_nodup hg hunique hnode) hmem hmem'
    (hindex.trans hindex'.symm)

theorem expectedAt_eq (hg : g.Fresh) (hunique : (g.buildGraph device).OneChangeEach)
    (hnode : g.textureNodes[t]? = some node) (hc : c ∈ g.commandNodes)
    (hchange : (textureRef t, change) ∈ (c.addDependencies g device).changes) :
    (g.addDependencies device).expectedAt t c.index = change.expectedState := by
  obtain ⟨hmem, hindex⟩ := mem_timelineOf_of_change hc hchange
  have hhead := (timelineOf_sorted t).head?_fromOn_of_nodup (timelineOf_nodup hg hunique hnode) hmem
  rw [hindex] at hhead
  rw [expectedAt, hhead]

/-- After an access, a texture is in the state that the access ensures. -/
theorem stateBefore_succ (hg : g.Fresh) (hunique : (g.buildGraph device).OneChangeEach)
    (hnode : g.textureNodes[t]? = some node) (hD : g.Discarded D) (hc : c ∈ g.commandNodes)
    (hstays : c.index ∉ D)
    (hchange : (textureRef t, change) ∈ (c.addDependencies g device).changes) :
    ((g.leaveOut D).addDependencies device).stateBefore t (c.index + 1) = change.ensuredState := by
  have hmem := (mem_before_leaveOut hg hD).mpr ⟨c, hc, hstays, Nat.lt_succ_self _, hchange⟩
  rw [stateBefore]
  cases hlast : (Timeline.before StateChange.nodeIndex
      (((g.leaveOut D).addDependencies device).timelineOf t) (c.index + 1)).getLast? with
  | none =>
    rw [List.getLast?_eq_none_iff.mp hlast] at hmem
    exact absurd hmem List.not_mem_nil
  | some last =>
    obtain ⟨c', hc', hlastChange⟩ := lastAccess_of_getLast? hg hD hlast
    have haccess : textureRef t ∈ c.accessed g device := by
      rw [← refs_addDependencies hg hc device]
      exact List.mem_map_of_mem hchange
    have hle := hc'.last c hc haccess (Nat.lt_succ_self _) hstays
    have hlt := hc'.before
    obtain rfl := index_inj hg.wellFormed hc hc'.mem (by omega)
    rw [change_unique hg hunique hnode hc hchange hlastChange]

/-- Nothing happens to a texture that is not accessed. -/
theorem stateBefore_succ_of_not_accessed (hg : g.Fresh) (hD : g.Discarded D) {i : Nat}
    (h : ∀ c ∈ g.commandNodes, c.index = i → c.index ∉ D → textureRef t ∉ c.accessed g device) :
    ((g.leaveOut D).addDependencies device).stateBefore t (i + 1) =
      ((g.leaveOut D).addDependencies device).stateBefore t i := by
  have hbefore : Timeline.before StateChange.nodeIndex
      (((g.leaveOut D).addDependencies device).timelineOf t) (i + 1) =
      Timeline.before StateChange.nodeIndex
        (((g.leaveOut D).addDependencies device).timelineOf t) i := by
    rw [(timelineOf_sorted t).before_eq, (timelineOf_sorted t).before_eq]
    refine List.filter_congr fun change hmem => ?_
    obtain ⟨c, hc, hstays, hchange⟩ := (mem_timelineOf_leaveOut hg hD).mp hmem
    have hne : change.nodeIndex ≠ i := by
      intro heq
      obtain ⟨-, hindex⟩ := mem_timelineOf_of_change hc hchange
      apply h c hc (hindex.symm.trans heq) hstays
      rw [← refs_addDependencies hg hc device]
      exact List.mem_map_of_mem hchange
    rw [decide_eq_decide]
    omega
  rw [stateBefore, hbefore, stateBefore]

end Unique

/-! ### One node -/

/-- What layout tracking relies on. -/
structure Regular (g : VulkanGraph) (device : Device) : Prop where
  fresh : g.Fresh
  distinct : (g.textureNodes.map TextureNode.texture).Nodup
  unique : (g.buildGraph device).OneChangeEach

/-- Before a command index, every image is in the layout that its timeline gives, without the reads
in `D`. -/
def Tracks (g : VulkanGraph) (device : Device) (D : List Nat) (i : Nat) (layouts : Layouts) : Prop :=
  ∀ t < g.textureNodes.length, layouts (device.images.length + t) =
    (((g.leaveOut D).addDependencies device).stateBefore t i).layout

/-- The textures that a node expects states of, with the transitions that it looks up. -/
def transitionsOf (g : VulkanGraph) (device : Device) (c : CommandNode) :
    List (VulkanTexture × TextureStateTransition) :=
  (c.expects g device).map fun ref =>
    ((g.executeGraph device).1.textures
        ((g.textureNodes[ref.index]?.map TextureNode.texture).getD 0),
      ⟨(g.addDependencies device).stateBefore ref.index c.index,
        (g.addDependencies device).expectedAt ref.index c.index⟩)

section Node

variable (hg : g.Regular device) (hc : c ∈ g.commandNodes)

include hg hc

theorem wellFormed_built : (c.addDependencies g device).WellFormed g := by
  have hle : ResourcesLE (g.addDependencies device) g := ⟨le_refl _, le_refl _⟩
  exact hle.commandNode
    ((hg.fresh.wellFormed.addDependencies device).nodes _ (addDependencies_mem hc))

theorem process_eq_bring :
    (c.addDependencies g device).process (g.buildGraph device) (g.executeGraph device).1 =
      bring (g.transitionsOf device c) ++
        (c.addDependencies g device).work (g.buildGraph device) (g.executeGraph device).1 := by
  have hbuilt : (c.addDependencies g device).WellFormed (g.buildGraph device) :=
    hg.fresh.wellFormed.buildGraph.nodes _ (by
      rw [buildGraph_commandNodes]
      exact addDependencies_mem hc)
  rw [process_eq hbuilt, prepared_addDependencies hg.fresh hc, bring, transitionsOf, List.flatMap_map,
    index_addDependencies]
  refine congrArg (· ++ _) (List.flatMap_congr fun ref href => ?_)
  obtain ⟨t, node, rfl, hnode⟩ := exists_node_of_mem_expects hg.fresh hc href
  rw [prepare_of_mem_expects hg.fresh hc href hnode]
  show _ = VulkanTexture.transition ((g.executeGraph device).1.textures
    ((g.textureNodes[t]?.map TextureNode.texture).getD 0)) _
  rw [hnode]
  rfl

theorem transitionsOf_images :
    (g.transitionsOf device c).map (fun p => p.1.image) =
      (c.expects g device).map fun ref => device.images.length + ref.index := by
  rw [transitionsOf, List.map_map]
  refine List.map_congr_left fun ref href => ?_
  obtain ⟨t, node, rfl, hnode⟩ := exists_node_of_mem_expects hg.fresh hc href
  show ((g.executeGraph device).1.textures
    ((g.textureNodes[t]?.map TextureNode.texture).getD 0)).image = _
  rw [hnode]
  exact executeGraph_image hg.fresh hg.distinct hnode device

theorem transitionsOf_images_nodup :
    ((g.transitionsOf device c).map fun p => p.1.image).Nodup := by
  have hcount := (oneChangeEach_iff_count hg.fresh).mp hg.unique
  have hnodup := prepared_nodup hg.fresh.wellFormed (addDependencies_mem hc) fun t ht =>
    hcount t ht _ (addDependencies_mem hc)
  rw [prepared_addDependencies hg.fresh hc] at hnodup
  rw [transitionsOf_images hg hc]
  refine hnodup.map_on fun ref href ref' href' heq => ?_
  obtain ⟨t, _, rfl, -⟩ := exists_node_of_mem_expects hg.fresh hc href
  obtain ⟨t', _, rfl, -⟩ := exists_node_of_mem_expects hg.fresh hc href'
  exact congrArg textureRef (Nat.add_left_cancel heq)

/-- What holds of the transitions is a matter of the texture nodes that the node expects states of. -/
theorem forall_transitionsOf {P : Image → TextureStateTransition → Prop} :
    (∀ p ∈ g.transitionsOf device c, P p.1.image p.2) ↔
      ∀ t, textureRef t ∈ c.expects g device → P (device.images.length + t)
        ⟨(g.addDependencies device).stateBefore t c.index,
          (g.addDependencies device).expectedAt t c.index⟩ := by
  rw [transitionsOf, List.forall_mem_map]
  have himage : ∀ {t}, textureRef t ∈ c.expects g device → ((g.executeGraph device).1.textures
      ((g.textureNodes[t]?.map TextureNode.texture).getD 0)).image = device.images.length + t := by
    intro t href
    obtain ⟨t', node, heq, hnode⟩ := exists_node_of_mem_expects hg.fresh hc href
    obtain rfl : t = t' := congrArg ResourceNodeRef.index heq
    rw [hnode]
    exact executeGraph_image hg.fresh hg.distinct hnode device
  constructor
  · intro h t href
    have ht := h _ href
    rwa [show (textureRef t).index = t from rfl, himage href] at ht
  · intro h ref href
    obtain ⟨t, node, rfl, -⟩ := exists_node_of_mem_expects hg.fresh hc href
    have ht := h t href
    rwa [← himage href] at ht

theorem expectedAt_layout (href : textureRef t ∈ c.expects g device) :
    ((g.addDependencies device).expectedAt t c.index).layout =
      (c.addDependencies g device).expectedLayout := by
  obtain ⟨t', node, heq, hnode⟩ := exists_node_of_mem_expects hg.fresh hc href
  obtain rfl : t = t' := congrArg ResourceNodeRef.index heq
  rw [← prepared_addDependencies hg.fresh hc device] at href
  obtain ⟨change, hchange, hexpected, -⟩ := exists_change_of_prepared href
  rw [expectedAt_eq hg.fresh hg.unique hnode hc hchange, hexpected, preparedState_layout]

/-- A command buffer finds the layouts it takes images to be in exactly if the images are in the
layouts that the graph believes the node's textures to be in. -/
theorem each_process_iff : Each runCommand VkCommand.LayoutsOk layouts
    ((c.addDependencies g device).process (g.buildGraph device) (g.executeGraph device).1) ↔
      ∀ t, textureRef t ∈ c.expects g device → layouts (device.images.length + t) =
        ((g.addDependencies device).stateBefore t c.index).layout := by
  have hwf := wellFormed_built hg hc
  rw [process_eq_bring hg hc, each_bring_append_iff (transitionsOf_images_nodup hg hc)]
  · exact forall_transitionsOf (P := fun image transition =>
      layouts image = transition.old.layout) hg hc
  · intro layouts
    rw [each_work_iff hg.fresh hg.distinct hwf, forall_transitionsOf (P := fun image transition =>
      layouts image = transition.new.layout) hg hc, prepared_addDependencies hg.fresh hc]
    constructor
    · intro h t href
      rw [expectedAt_layout hg hc href]
      exact h _ href
    · intro h ref href
      obtain ⟨t, node, rfl, -⟩ := exists_node_of_mem_expects hg.fresh hc href
      have ht := h t href
      rwa [expectedAt_layout hg hc href] at ht

theorem target_isTexture {target : ResourceNodeRef × ImageLayout}
    (h : target ∈ (c.addDependencies g device).targets) : g.IsTexture target.1 := by
  have hwf := wellFormed_built hg hc
  generalize c.addDependencies g device = c' at h hwf
  cases c' with
  | render node =>
    rcases List.mem_append.mp h with h | h
    · obtain ⟨ref, href, rfl⟩ := List.mem_map.mp h
      exact hwf.color ref (Option.mem_toList.mp href)
    · obtain ⟨ref, href, rfl⟩ := List.mem_map.mp h
      exact hwf.depthStencil ref (Option.mem_toList.mp href)
  | _ => exact absurd h List.not_mem_nil

theorem targets_nodup :
    ((c.addDependencies g device).targets.map fun target => target.1.index).Nodup := by
  have hvalid : ∀ target ∈ (c.addDependencies g device).targets, g.IsTexture target.1 :=
    fun target h => target_isTexture hg hc h
  -- two targets that are the same texture node would be two changes of it
  have hlayout : ∀ target ∈ (c.addDependencies g device).targets,
      ∀ target' ∈ (c.addDependencies g device).targets, target.1.index = target'.1.index →
        target.2 = target'.2 := by
    rintro ⟨⟨type, t⟩, layout⟩ h ⟨⟨type', t'⟩, layout'⟩ h' heq
    obtain rfl : type = .texture := (hvalid _ h).1
    obtain rfl : type' = .texture := (hvalid _ h').1
    obtain rfl : t = t' := heq
    obtain ⟨change, hchange, hlayout, -⟩ := exists_change_of_target h
    obtain ⟨change', hchange', hlayout', -⟩ := exists_change_of_target h'
    have hnode := List.getElem?_eq_getElem (hvalid _ h).2
    have hunique := change_unique hg.fresh hg.unique hnode hc hchange hchange'
    exact hlayout.symm.trans ((congrArg (·.ensuredState.layout) hunique).trans hlayout')
  have hlayouts := targets_layouts_nodup (c := c.addDependencies g device)
  refine hlayouts.of_map.map_on fun target h target' h' heq => ?_
  exact List.inj_on_of_nodup_map hlayouts h h' (hlayout target h target' h' heq)

/-- If a node that records something finds its textures as it expects them, every image is in the
layout of the timeline after it, provided that it was before. -/
theorem tracks_process {D : List Nat} (hD : g.Discarded D) (hstays : c.index ∉ D)
    (hrecords : (c.addDependencies g device).Records)
    (htracks : g.Tracks device D c.index layouts)
    (hfound : ∀ t, textureRef t ∈ c.expects g device → layouts (device.images.length + t) =
      ((g.addDependencies device).stateBefore t c.index).layout) :
    g.Tracks device D (c.index + 1) (executeAll layouts
      ((c.addDependencies g device).process (g.buildGraph device) (g.executeGraph device).1)) := by
  have hwf := wellFormed_built hg hc
  intro t ht
  have hnode := List.getElem?_eq_getElem ht
  rw [process_eq_bring hg hc, executeAll_append]
  by_cases htarget : ∃ layout, (textureRef t, layout) ∈ (c.addDependencies g device).targets
  · obtain ⟨layout, htarget⟩ := htarget
    obtain ⟨change, hchange, hlayout, -⟩ := exists_change_of_target htarget
    rw [executeAll_work_of_target hg.fresh hg.distinct hwf (targets_nodup hg hc) htarget,
      stateBefore_succ hg.fresh hg.unique hnode hD hc hstays hchange, hlayout]
  rw [executeAll_work_of_not_target hg.fresh hg.distinct hwf]
  · by_cases href : textureRef t ∈ c.expects g device
    · have hold := (forall_transitionsOf (P := fun image transition =>
        layouts image = transition.old.layout) hg hc).mpr hfound
      have hnew := (forall_transitionsOf (P := fun image transition =>
        executeAll layouts (bring (g.transitionsOf device c)) image = transition.new.layout) hg hc).mp
          (fun p hp => executeAll_bring (transitionsOf_images_nodup hg hc) hold hp) t href
      rw [hnew, expectedAt_layout hg hc href]
      rw [← prepared_addDependencies hg.fresh hc device] at href
      obtain ⟨change, hchange, -, hensured⟩ := exists_change_of_prepared href
      rw [stateBefore_succ hg.fresh hg.unique hnode hD hc hstays hchange, hensured,
        preparedState_layout]
    · have hother : ∀ p ∈ g.transitionsOf device c, p.1.image ≠ device.images.length + t := by
        refine (forall_transitionsOf (P := fun image _ =>
          image ≠ device.images.length + t) hg hc).mpr fun t' href' heq => ?_
        rw [Nat.add_left_cancel heq] at href'
        exact href href'
      rw [executeAll_bring_of_forall_ne hother, htracks t ht,
        stateBefore_succ_of_not_accessed hg.fresh hD]
      intro c' hc' hindex _ haccess
      rw [index_inj hg.fresh.wellFormed hc' hc hindex, ← refs_addDependencies hg.fresh hc device]
        at haccess
      rcases prepared_or_target hrecords haccess with hprepared | htarget'
      · rw [prepared_addDependencies hg.fresh hc] at hprepared
        exact href hprepared
      · exact htarget htarget'
  · rintro ⟨⟨type, t'⟩, layout⟩ h heq
    obtain rfl : type = .texture := (target_isTexture hg hc h).1
    obtain rfl : t' = t := heq
    exact htarget ⟨layout, h⟩

end Node

/-! ### The whole graph -/

/-- Every command finds the images in the layouts it takes them to be in, when the command buffers run
one after another on fresh images. -/
def LayoutsRight (g : VulkanGraph) (device : Device) : Prop :=
  Each runCommand VkCommand.LayoutsOk (fun _ => .undefined) (g.executeGraph device).2.flatten

/-- `D` are the reads whose result is discarded, all of them. -/
structure DiscardedReads (g : VulkanGraph) (D : List Nat) : Prop where
  discarded : g.Discarded D
  all : ∀ node ∈ g.readNodes, node.expired = true → node.index ∈ D

variable {D : List Nat}

theorem tracks_init : g.Tracks device D 0 fun _ => .undefined := by
  intro t _
  have hbefore : Timeline.before StateChange.nodeIndex
      (((g.leaveOut D).addDependencies device).timelineOf t) 0 = [] := by
    rw [(timelineOf_sorted t).before_eq]
    exact List.filter_eq_nil_iff.mpr fun change _ => by simp
  rw [stateBefore, hbefore]
  rfl

theorem records_of_stays (hD : g.DiscardedReads D) (hdispatch : g.dispatchNodes = [])
    (hpresent : g.presentNodes = []) (hc : c ∈ g.commandNodes) (hstays : c.index ∉ D) :
    (c.addDependencies g device).Records := by
  cases c with
  | write node => trivial
  | read node =>
    have hread := read_mem_commandNodes.mp hc
    have hlive : ¬ node.expired = true := fun hexpired => hstays (hD.all node hread hexpired)
    exact eq_false_of_ne_true hlive
  | render node => trivial
  | dispatch node =>
    have hmem := dispatch_mem_commandNodes.mp hc
    rw [hdispatch] at hmem
    exact absurd hmem List.not_mem_nil
  | present node =>
    have hmem := present_mem_commandNodes.mp hc
    rw [hpresent] at hmem
    exact absurd hmem List.not_mem_nil

/-- A command buffer is that of a node that records something, or empty. -/
theorem cmdBuffer_cases (hg : g.Fresh) (hD : g.Discarded D) {k : Nat} {cmdBuffer : List VkCommand}
    (h : (g.executeGraph device).2[k]? = some cmdBuffer) :
    (∃ c ∈ g.commandNodes, c.index = k ∧ c.index ∉ D ∧ cmdBuffer =
      (c.addDependencies g device).process (g.buildGraph device) (g.executeGraph device).1) ∨
    (cmdBuffer = [] ∧ ∀ c ∈ g.commandNodes, c.index = k → c.index ∈ D) := by
  by_cases hused : ∃ c ∈ g.commandNodes, c.index = k
  · obtain ⟨c, hc, rfl⟩ := hused
    have hmem : c.addDependencies g device ∈ (g.addDependencies device).commandNodes :=
      addDependencies_mem hc
    have hbuffer := cmdBuffers_getElem? hg.wellFormed hmem
    rw [index_addDependencies, h, Option.some.injEq] at hbuffer
    by_cases hleft : c.index ∈ D
    · obtain ⟨node, rfl, hexpired⟩ := hD.read_of_mem hg.wellFormed hc hleft
      refine Or.inr ⟨?_, fun c' hc' hindex => hindex ▸ hleft⟩
      rw [hbuffer]
      exact if_pos hexpired
    · exact Or.inl ⟨c, hc, rfl, hleft, hbuffer⟩
  · obtain ⟨hlt, -⟩ := List.getElem?_eq_some_iff.mp h
    rw [length_cmdBuffers] at hlt
    have hunused : ∀ c ∈ (g.addDependencies device).commandNodes, c.index ≠ k := by
      intro c hc heq
      rw [commandNodes_addDependencies] at hc
      obtain ⟨c', hc', rfl⟩ := List.mem_map.mp hc
      exact hused ⟨c', hc', index_addDependencies.symm.trans heq⟩
    rw [cmdBuffers_getElem?_of_unused hlt hunused, Option.some.injEq] at h
    exact Or.inr ⟨h.symm, fun c hc heq => absurd ⟨c, hc, heq⟩ hused⟩

/-- **Execution agrees with layout tracking exactly if the graph, which knows of the discarded reads,
believes the textures that a node expects states of to be in the layouts they would be in without
those reads.** -/
theorem layoutsRight_iff (hg : g.Regular device) (hdispatch : g.dispatchNodes = [])
    (hpresent : g.presentNodes = []) (hD : g.DiscardedReads D) :
    g.LayoutsRight device ↔ ∀ c ∈ g.commandNodes, ∀ t, textureRef t ∈ c.expects g device →
      (((g.leaveOut D).addDependencies device).stateBefore t c.index).layout =
        ((g.addDependencies device).stateBefore t c.index).layout := by
  have hfound : ∀ {c layouts}, c ∈ g.commandNodes → g.Tracks device D c.index layouts →
      ((∀ t, textureRef t ∈ c.expects g device → layouts (device.images.length + t) =
        ((g.addDependencies device).stateBefore t c.index).layout) ↔
      ∀ t, textureRef t ∈ c.expects g device →
        (((g.leaveOut D).addDependencies device).stateBefore t c.index).layout =
          ((g.addDependencies device).stateBefore t c.index).layout) := by
    intro c layouts hc htracks
    refine forall₂_congr fun t href => ?_
    obtain ⟨t', node, heq, hnode⟩ := exists_node_of_mem_expects hg.fresh hc href
    obtain rfl : t = t' := congrArg ResourceNodeRef.index heq
    rw [htracks t (List.getElem?_eq_some_iff.mp hnode).choose]
  refine (each_flatten_iff (g.Tracks device D) (fun k => ∀ c ∈ g.commandNodes, c.index = k →
    ∀ t, textureRef t ∈ c.expects g device →
      (((g.leaveOut D).addDependencies device).stateBefore t c.index).layout =
        ((g.addDependencies device).stateBefore t c.index).layout) ?_ ?_ tracks_init).trans ?_
  · intro k cmdBuffer layouts hbuffer htracks
    rcases cmdBuffer_cases hg.fresh hD.discarded hbuffer with ⟨c, hc, rfl, hstays, rfl⟩ | ⟨rfl, hleft⟩
    · rw [each_process_iff hg hc, hfound hc htracks]
      constructor
      · intro h c' hc' hindex
        rw [index_inj hg.fresh.wellFormed hc' hc hindex]
        exact h
      · exact fun h => h c hc rfl
    · refine iff_of_true trivial fun c hc hindex t href => ?_
      exact absurd href (hD.discarded.not_mem_expects hg.fresh.wellFormed hc (hleft c hc hindex))
  · intro k cmdBuffer layouts hbuffer htracks hstates
    refine ⟨_, exec_runCommand cmdBuffer, ?_⟩
    rcases cmdBuffer_cases hg.fresh hD.discarded hbuffer with ⟨c, hc, rfl, hstays, rfl⟩ | ⟨rfl, hleft⟩
    · exact tracks_process hg hc hD.discarded hstays
        (records_of_stays hD hdispatch hpresent hc hstays) htracks
        ((hfound hc htracks).mpr (hstates c hc rfl))
    · intro t ht
      rw [stateBefore_succ_of_not_accessed hg.fresh hD.discarded
        fun c hc hindex hstays => absurd (hleft c hc hindex) hstays]
      exact htracks t ht
  · constructor
    · intro h c hc
      refine h c.index ?_ c hc rfl
      rw [length_cmdBuffers]
      exact hg.fresh.wellFormed.indices_lt c hc
    · intro h k _ c hc _
      exact h c hc

end VulkanGraph

end Teide
