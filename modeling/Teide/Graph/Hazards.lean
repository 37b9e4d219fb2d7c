import Mathlib.Tactic.Common
import Teide.Graph.Dataflow
import Teide.Vulkan.Access

/-!
# Races between the command nodes of a graph

The command buffers of a graph are submitted together, so nothing but the barriers of the nodes and
the subpass dependencies of the render passes orders what they do to an image. After each access the
state that the timeline ensures tells all that matters about the image (`syncIn`), so whether an
access races is a matter of the last access of the texture before it.

All barriers are for layouts that `GetTransitionAccessMask` knows, and reads and samples never race. A
write node does if the last access is another write, since the two are in the same state, which needs no
barrier. A render node does unless the last access sampled its target, since its targets have no barriers
and the subpass dependency neither waits for transfers nor makes writes visible (`raceFree_iff`).
-/

namespace Teide

open Runs Hazards

/-! ### States of a texture -/

/-- The states that write, read and render nodes expect and ensure. -/
def graphStates : List TextureState :=
  [{}, transferDstState, transferSrcState, sampledState, colorTargetState, depthStencilTargetState]

/-- What is known of an image after an access that ensures a layout. -/
def syncIn : ImageLayout → Sync PipelineStage Access
  | .transferDstOptimal => ⟨{.transfer}, {.transferWrite}, transferWriteScope⟩
  | .transferSrcOptimal => ⟨{.transfer}, ∅, transferReadScope⟩
  | .shaderReadOnlyOptimal => ⟨{.fragmentShader}, ∅, sampleScope⟩
  | .colorAttachmentOptimal =>
    (({ } : Sync PipelineStage Access).apply subpassDependency).apply
      (.write (attachmentScope .colorAttachmentOptimal))
  | .depthStencilAttachmentOptimal =>
    (({ } : Sync PipelineStage Access).apply subpassDependency).apply
      (.write (attachmentScope .depthStencilAttachmentOptimal))
  | _ => {}

/-- What a transition does to the memory of its image. -/
def TextureStateTransition.memoryOps (transition : TextureStateTransition) : List MemoryOp :=
  if transition.new ≠ transition.old then [transition.dependency] else []

namespace CommandNode

/-- How a node uses the textures that it prepares. -/
def use : CommandNode → MemoryOp
  | write _ => .write transferWriteScope
  | read _ => .read transferReadScope
  | render _ | dispatch _ | present _ => .read sampleScope

/-- The states in which a node may find the textures that it changes. -/
def MayChange (state : TextureState) : CommandNode → Prop
  | write _ => state ≠ transferDstState
  | read _ | render _ | dispatch _ | present _ => state = {} ∨ state = sampledState

/-- The accesses of a texture that may come right before a node that changes it. -/
def MayFollow (ref : ResourceNodeRef) : CommandNode → CommandNode → Prop
  | write _, write _ => False
  | render _, render before => ref ∉ before.targets
  | render _, _ => False
  | _, _ => True

end CommandNode

/-- The states that textures are prepared for, and how they are used then. -/
def preparations : List (TextureState × MemoryOp) :=
  [(transferDstState, .write transferWriteScope), (transferSrcState, .read transferReadScope),
    (sampledState, .read sampleScope)]

theorem mem_preparations {c : CommandNode} (h : c.preparedState ≠ {}) :
    (c.preparedState, c.use) ∈ preparations := by
  cases c with
  | write node => exact List.mem_cons_self
  | read node => exact List.mem_cons_of_mem _ List.mem_cons_self
  | render node => exact List.mem_cons_of_mem _ (List.mem_cons_of_mem _ List.mem_cons_self)
  | dispatch node => exact absurd rfl h
  | present node => exact absurd rfl h

theorem sync_prepare : ∀ old ∈ graphStates, ∀ p ∈ preparations,
    ((⟨old, p.1⟩ : TextureStateTransition).memoryOps ++ [p.2]).foldl Sync.apply (syncIn old.layout) =
      syncIn p.1.layout := by
  decide

/-- Only a write after a write races with what comes before it. -/
theorem ordered_prepare : ∀ old ∈ graphStates, ∀ p ∈ preparations,
    (Ordered (syncIn old.layout) ((⟨old, p.1⟩ : TextureStateTransition).memoryOps ++ [p.2]) ↔
      ¬ (p.1 = transferDstState ∧ old = transferDstState)) := by
  decide

/-- What a render pass does to the memory of an attachment. -/
def attachmentOps (layout : ImageLayout) : List MemoryOp :=
  [subpassDependency, .write (attachmentScope layout)]

def attachmentLayouts : List ImageLayout := [.colorAttachmentOptimal, .depthStencilAttachmentOptimal]

/-- A render pass races with all accesses to its attachments but samples. -/
theorem ordered_attachment : ∀ old ∈ graphStates, ∀ layout ∈ attachmentLayouts,
    (Ordered (syncIn old.layout) (attachmentOps layout) ↔ old = {} ∨ old = sampledState) := by
  decide

theorem sync_attachment : ∀ old ∈ graphStates, ∀ layout ∈ attachmentLayouts,
    (attachmentOps layout).foldl Sync.apply (syncIn old.layout) = syncIn layout := by
  decide

/-! ### The operations of a node -/

theorem memoryOps_transition (texture : VulkanTexture) (transition : TextureStateTransition) :
    (texture.transition transition).flatMap VkCommand.memoryOps =
      transition.memoryOps.map (texture.image, ·) := by
  unfold VulkanTexture.transition TextureStateTransition.memoryOps
  split_ifs <;> rfl

theorem memoryOps_bring (transitions : List (VulkanTexture × TextureStateTransition)) :
    (bring transitions).flatMap VkCommand.memoryOps =
      transitions.flatMap fun p => p.2.memoryOps.map (p.1.image, ·) := by
  rw [bring, List.flatMap_assoc]
  exact List.flatMap_congr fun p _ => memoryOps_transition p.1 p.2

namespace VulkanGraph

variable {g : VulkanGraph} {device : Device} {c c' : CommandNode} {ref : ResourceNodeRef} {t i : Nat}

/-- The work of a node uses what the node has prepared and writes its targets. -/
theorem memoryOps_work (hg : g.Fresh) (hdistinct : (g.textureNodes.map TextureNode.texture).Nodup)
    (hc : c.WellFormed g) :
    (c.work (g.buildGraph device) (g.executeGraph device).1).flatMap VkCommand.memoryOps =
      (c.prepared.flatMap fun ref => [(device.images.length + ref.index, c.use)]) ++
        c.targets.flatMap fun target =>
          (attachmentOps target.2).map (device.images.length + target.1.index, ·) := by
  cases c with
  | write node =>
    obtain ⟨hsource, htarget⟩ := hc
    have hdata := List.getElem?_eq_getElem hsource.2
    simp only [CommandNode.work, buildGraph_textureDataNodes, hdata,
      imageOf_buildGraph hg hdistinct htarget]
    rfl
  | read node =>
    have hsource : g.IsTexture node.source := hc
    have hget := List.getElem?_eq_getElem hsource.2
    by_cases hexpired : node.expired = true
    · rw [CommandNode.work, CommandNode.prepared, if_pos hexpired, if_pos hexpired]
      rfl
    · have himage := executeGraph_image hg hdistinct hget device
      simp only [CommandNode.work, CommandNode.prepared, if_neg hexpired,
        buildGraph_textureNodes_getElem? hg.stateChanges, hget, Option.map_some, Option.toList_some,
        List.map_cons, List.map_nil, himage]
      rfl
  | render node =>
    have hnode : node.WellFormed g := hc
    have hattachments := (zip_attachments hnode fun ref href =>
      imageOf_buildGraph hg hdistinct href device).2
    have hflat := congrArg (List.flatMap fun p => (attachmentOps p.2).map (p.1, ·)) hattachments
    rw [List.flatMap_map, List.flatMap_map] at hflat
    rw [CommandNode.work, List.flatMap_singleton, VkCommand.memoryOps,
      filterMap_imageOf hg hdistinct hnode.dependencies, List.flatMap_map]
    exact congrArg₂ _ rfl hflat
  | dispatch node => rfl
  | present node => rfl

/-- The transition that a node looks up for a texture. -/
def transitionAt (g : VulkanGraph) (device : Device) (c : CommandNode) (t : Nat) :
    TextureStateTransition :=
  ⟨(g.addDependencies device).stateBefore t c.index, (g.addDependencies device).expectedAt t c.index⟩

section Node

variable (hg : g.Regular device) (hc : c ∈ g.commandNodes)

include hg hc

/-- What a node does to the memory of images. -/
theorem memoryOps_process :
    ((c.addDependencies g device).process (g.buildGraph device)
        (g.executeGraph device).1).flatMap VkCommand.memoryOps =
      ((c.expects g device).flatMap fun ref =>
          (g.transitionAt device c ref.index).memoryOps.map (device.images.length + ref.index, ·)) ++
        (((c.expects g device).flatMap fun ref => [(device.images.length + ref.index, c.use)]) ++
          (c.addDependencies g device).targets.flatMap fun target =>
            (attachmentOps target.2).map (device.images.length + target.1.index, ·)) := by
  have huse : (c.addDependencies g device).use = c.use := by cases c <;> rfl
  have htransitions : ((g.transitionsOf device c).flatMap fun p => p.2.memoryOps.map (p.1.image, ·)) =
      (c.expects g device).flatMap fun ref =>
        (g.transitionAt device c ref.index).memoryOps.map (device.images.length + ref.index, ·) := by
    rw [transitionsOf, List.flatMap_map]
    refine List.flatMap_congr fun ref href => ?_
    obtain ⟨t, node, rfl, hnode⟩ := exists_node_of_mem_expects hg.fresh hc href
    have himage := executeGraph_image hg.fresh hg.distinct hnode device
    simp only [textureRef, hnode, Option.map_some, Option.getD_some, himage]
    rfl
  rw [process_eq_bring hg hc, List.flatMap_append, memoryOps_bring, htransitions,
    memoryOps_work hg.fresh hg.distinct (wellFormed_built hg hc),
    prepared_addDependencies hg.fresh hc, huse]

/-- A node does nothing to images that it neither prepares nor renders to. -/
theorem opsAt_process_of_forall_ne {image : Image}
    (hexpects : ∀ ref ∈ c.expects g device, device.images.length + ref.index ≠ image)
    (htargets : ∀ target ∈ (c.addDependencies g device).targets,
      device.images.length + target.1.index ≠ image) :
    opsAt image (((c.addDependencies g device).process (g.buildGraph device)
      (g.executeGraph device).1).flatMap VkCommand.memoryOps) = [] := by
  rw [memoryOps_process hg hc, opsAt_append, opsAt_append,
    opsAt_flatMap_of_forall_ne _ (by simp +contextual) hexpects,
    opsAt_flatMap_of_forall_ne _ (by simp +contextual) hexpects,
    opsAt_flatMap_of_forall_ne _ (by simp +contextual) htargets]
  rfl

theorem expects_images_nodup :
    ((c.expects g device).map fun ref => device.images.length + ref.index).Nodup := by
  rw [← transitionsOf_images hg hc]
  exact transitionsOf_images_nodup hg hc

/-- No texture is both prepared and a target. -/
theorem target_ne_of_mem_expects (href : textureRef t ∈ c.expects g device) :
    ∀ target ∈ (c.addDependencies g device).targets, target.1.index ≠ t := by
  rintro ⟨⟨type, t'⟩, layout⟩ htarget rfl
  obtain rfl : type = .texture := (target_isTexture hg hc htarget).1
  rw [← prepared_addDependencies hg.fresh hc device] at href
  obtain ⟨change, hchange, -, hprepared⟩ := exists_change_of_prepared href
  obtain ⟨change', hchange', hlayout, hne⟩ := exists_change_of_target htarget
  have hnode := List.getElem?_eq_getElem (target_isTexture hg hc htarget).2
  rw [← change_unique hg.fresh hg.unique hnode hc hchange hchange', hprepared,
    preparedState_layout] at hlayout
  exact hne hlayout.symm

theorem opsAt_process_of_mem_expects (href : textureRef t ∈ c.expects g device) :
    opsAt (device.images.length + t) (((c.addDependencies g device).process (g.buildGraph device)
      (g.executeGraph device).1).flatMap VkCommand.memoryOps) =
        (g.transitionAt device c t).memoryOps ++ [c.use] := by
  have htargets : ∀ target ∈ (c.addDependencies g device).targets,
      device.images.length + target.1.index ≠ device.images.length + t := fun target htarget heq =>
    target_ne_of_mem_expects hg hc href target htarget (Nat.add_left_cancel heq)
  have hnodup := expects_images_nodup hg hc
  rw [memoryOps_process hg hc, opsAt_append, opsAt_append,
    opsAt_flatMap_of_forall_ne _ (by simp +contextual) htargets, List.append_nil]
  refine congrArg₂ (· ++ ·) ?_ ?_
  · refine (opsAt_flatMap_of_mem _ (by simp +contextual) hnodup href).trans ?_
    rw [List.map_map]
    exact List.map_id _
  · exact opsAt_flatMap_of_mem _ (by simp +contextual) hnodup href

theorem opsAt_process_of_mem_targets {layout : ImageLayout}
    (htarget : (textureRef t, layout) ∈ (c.addDependencies g device).targets) :
    opsAt (device.images.length + t) (((c.addDependencies g device).process (g.buildGraph device)
      (g.executeGraph device).1).flatMap VkCommand.memoryOps) = attachmentOps layout := by
  have hexpects : ∀ ref ∈ c.expects g device,
      device.images.length + ref.index ≠ device.images.length + t := by
    intro ref href heq
    obtain ⟨t', -, rfl, -⟩ := exists_node_of_mem_expects hg.fresh hc href
    exact target_ne_of_mem_expects hg hc href _ htarget (Nat.add_left_cancel heq).symm
  have hnodup : ((c.addDependencies g device).targets.map fun target =>
      device.images.length + target.1.index).Nodup := by
    have hmap := (targets_nodup hg hc).map fun _ _ h => Nat.add_left_cancel (n := device.images.length) h
    rwa [List.map_map] at hmap
  rw [memoryOps_process hg hc, opsAt_append, opsAt_append,
    opsAt_flatMap_of_forall_ne _ (by simp +contextual) hexpects,
    opsAt_flatMap_of_forall_ne _ (by simp +contextual) hexpects, List.nil_append, List.nil_append]
  refine (opsAt_flatMap_of_mem _ (by simp +contextual) hnodup htarget).trans ?_
  rw [List.map_map]
  exact List.map_id _

end Node

/-! ### Last accesses -/

/-- A texture is in the state that its last access ensures. -/
theorem stateBefore_cases (hg : g.Fresh) (device : Device) (t i : Nat) :
    ((g.addDependencies device).stateBefore t i = {} ∧ ∀ c, ¬ g.LastAccess device [] t i c) ∨
      ∃ c change, g.LastAccess device [] t i c ∧
        (textureRef t, change) ∈ (c.addDependencies g device).changes ∧
          (g.addDependencies device).stateBefore t i = change.ensuredState := by
  have hlast := @lastAccess_of_getLast? g device t i [] hg discarded_nil
  have hbefore := @mem_before_leaveOut g device t i [] hg discarded_nil
  rw [leaveOut_nil] at hlast hbefore
  rw [stateBefore]
  cases hget : (Timeline.before StateChange.nodeIndex
      ((g.addDependencies device).timelineOf t) i).getLast? with
  | none =>
    refine Or.inl ⟨rfl, fun c hc => ?_⟩
    obtain ⟨change, hchange⟩ := exists_change hg hc.mem hc.accesses
    have hmem := hbefore.mpr ⟨c, hc.mem, hc.stays, hc.before, hchange⟩
    rw [List.getLast?_eq_none_iff.mp hget] at hmem
    exact List.not_mem_nil hmem
  | some change =>
    obtain ⟨c, hc, hchange⟩ := hlast hget
    exact Or.inr ⟨c, change, hc, hchange, rfl⟩

theorem ensuredState_mem_graphStates (hdispatch : g.dispatchNodes = []) (hpresent : g.presentNodes = [])
    (hc : c ∈ g.commandNodes) {change : StateChange}
    (h : (ref, change) ∈ (c.addDependencies g device).changes) : change.ensuredState ∈ graphStates := by
  cases c with
  | write node =>
    obtain ⟨-, rfl⟩ := Prod.mk.inj (List.mem_singleton.mp h)
    simp [graphStates]
  | read node =>
    obtain ⟨-, rfl⟩ := Prod.mk.inj (List.mem_singleton.mp h)
    simp [graphStates]
  | render node =>
    simp only [CommandNode.addDependencies, CommandNode.changes, List.mem_append, List.mem_map,
      Prod.mk.injEq] at h
    rcases h with (⟨_, -, -, rfl⟩ | ⟨_, -, -, rfl⟩) | ⟨_, -, -, rfl⟩ <;> simp [graphStates]
  | dispatch node =>
    have hmem := dispatch_mem_commandNodes.mp hc
    rw [hdispatch] at hmem
    exact absurd hmem List.not_mem_nil
  | present node =>
    have hmem := present_mem_commandNodes.mp hc
    rw [hpresent] at hmem
    exact absurd hmem List.not_mem_nil

theorem stateBefore_mem_graphStates (hg : g.Fresh) (hdispatch : g.dispatchNodes = [])
    (hpresent : g.presentNodes = []) : (g.addDependencies device).stateBefore t i ∈ graphStates := by
  rcases stateBefore_cases hg device t i with ⟨hnone, -⟩ | ⟨c, change, hc, hchange, hstate⟩
  · rw [hnone]
    decide
  · rw [hstate]
    exact ensuredState_mem_graphStates hdispatch hpresent hc.mem hchange

/-! ### One node after another -/

theorem isTexture_of_mem_outputs (hg : g.Fresh) (hc : c ∈ g.commandNodes)
    (h : ref ∈ c.outputs) : g.IsTexture ref := by
  have hwf := hg.wellFormed.nodes c hc
  cases c with
  | write node => exact (List.mem_singleton.mp h) ▸ hwf.2
  | render node =>
    rcases List.mem_append.mp h with h | h
    · exact hwf.color ref (Option.mem_toList.mp h)
    · exact hwf.depthStencil ref (Option.mem_toList.mp h)
  | _ => exact absurd h List.not_mem_nil

/-- The targets are the textures that a render node changes. -/
theorem mem_targets_iff {node : RenderNode} :
    (∃ layout, (ref, layout) ∈ ((CommandNode.render node).addDependencies g device).targets) ↔
      ref ∈ node.targets := by
  rw [CommandNode.addDependencies, addDependencies_eq, CommandNode.targets, RenderNode.targets,
    List.mem_append]
  simp only [List.mem_append, List.mem_map, Prod.mk.injEq]
  constructor
  · rintro ⟨layout, ⟨_, h, rfl, -⟩ | ⟨_, h, rfl, -⟩⟩
    · exact Or.inl h
    · exact Or.inr h
  · rintro (h | h)
    · exact ⟨_, Or.inl ⟨ref, h, rfl, rfl⟩⟩
    · exact ⟨_, Or.inr ⟨ref, h, rfl, rfl⟩⟩

theorem layout_mem_attachmentLayouts {layout : ImageLayout} (h : (ref, layout) ∈ c.targets) :
    layout ∈ attachmentLayouts := by
  cases c with
  | render node =>
    simp only [CommandNode.targets, List.mem_append, List.mem_map, Prod.mk.injEq] at h
    rcases h with ⟨_, -, -, rfl⟩ | ⟨_, -, -, rfl⟩ <;> decide
  | _ => exact absurd h List.not_mem_nil

/-- What is prepared is changed by write nodes only. -/
theorem mem_outputs_of_mem_expects (hg : g.Regular device) (hc : c ∈ g.commandNodes)
    (href : textureRef t ∈ c.expects g device) :
    textureRef t ∈ c.outputs ↔ c.preparedState = transferDstState := by
  cases c with
  | write node => exact iff_of_true href rfl
  | read node =>
    exact iff_of_false List.not_mem_nil (by
      simp [CommandNode.preparedState, transferSrcState, transferDstState])
  | render node =>
    refine iff_of_false (fun h => ?_) (by
      simp [CommandNode.preparedState, sampledState, transferDstState])
    obtain ⟨layout, htarget⟩ := mem_targets_iff.mpr h
    exact target_ne_of_mem_expects hg hc href _ htarget rfl
  | dispatch node => exact absurd href List.not_mem_nil
  | present node => exact absurd href List.not_mem_nil

theorem stateBefore_of_change (hg : g.Regular device) (hc : c ∈ g.commandNodes)
    (ht : t < g.textureNodes.length) {change : StateChange}
    (hchange : (textureRef t, change) ∈ (c.addDependencies g device).changes) :
    (g.addDependencies device).stateBefore t (c.index + 1) = change.ensuredState := by
  have hafter := stateBefore_succ hg.fresh hg.unique (List.getElem?_eq_getElem ht) discarded_nil hc
    List.not_mem_nil hchange
  rwa [leaveOut_nil] at hafter

/-- A node expects and ensures what it prepares for. -/
theorem expectedAt_of_mem_expects (hg : g.Regular device) (hc : c ∈ g.commandNodes)
    (href : textureRef t ∈ c.expects g device) :
    (g.addDependencies device).expectedAt t c.index = c.preparedState ∧
      (g.addDependencies device).stateBefore t (c.index + 1) = c.preparedState := by
  obtain ⟨t', node, heq, hnode⟩ := exists_node_of_mem_expects hg.fresh hc href
  obtain rfl : t = t' := congrArg ResourceNodeRef.index heq
  have hbuilt : (c.addDependencies g device).preparedState = c.preparedState := by cases c <;> rfl
  rw [← prepared_addDependencies hg.fresh hc device] at href
  obtain ⟨change, hchange, hexpected, hensured⟩ := exists_change_of_prepared href
  rw [expectedAt_eq hg.fresh hg.unique hnode hc hchange, hexpected, hbuilt,
    stateBefore_of_change hg hc (List.getElem?_eq_some_iff.mp hnode).choose hchange, hensured, hbuilt]
  exact ⟨rfl, rfl⟩

theorem mayChange_iff_of_write {state : TextureState} (h : c.preparedState = transferDstState) :
    c.MayChange state ↔ state ≠ transferDstState := by
  cases c with
  | write node => exact Iff.rfl
  | _ => simp [CommandNode.preparedState, transferDstState, transferSrcState, sampledState] at h

theorem preparedState_ne (h : ref ∈ c.expects g device) : c.preparedState ≠ {} := by
  cases c with
  | write node | read node | render node =>
    simp [CommandNode.preparedState, transferDstState, transferSrcState, sampledState]
  | dispatch node => exact absurd h List.not_mem_nil
  | present node => exact absurd h List.not_mem_nil

section Step

variable (hdispatch : g.dispatchNodes = []) (hpresent : g.presentNodes = [])
  (halive : ∀ node ∈ g.readNodes, node.expired = false) (hc : c ∈ g.commandNodes)

include hdispatch hpresent halive hc

theorem records_addDependencies : (c.addDependencies g device).Records := by
  refine records_of_stays ⟨discarded_nil, fun node hnode hexpired => ?_⟩ hdispatch hpresent hc
    List.not_mem_nil
  rw [halive node hnode] at hexpired
  exact absurd hexpired Bool.false_ne_true

/-- An access leaves what its state tells, and races unless the texture is in a state that allows the
node to change it. -/
theorem ordered_process (hg : g.Regular device) (ht : t < g.textureNodes.length) :
    let state := (g.addDependencies device).stateBefore t c.index
    let ops := opsAt (device.images.length + t) (((c.addDependencies g device).process
      (g.buildGraph device) (g.executeGraph device).1).flatMap VkCommand.memoryOps)
    (Ordered (syncIn state.layout) ops ↔ (textureRef t ∈ c.outputs → c.MayChange state)) ∧
      ops.foldl Sync.apply (syncIn state.layout) =
        syncIn ((g.addDependencies device).stateBefore t (c.index + 1)).layout := by
  intro state ops
  have hold : state ∈ graphStates := stateBefore_mem_graphStates hg.fresh hdispatch hpresent
  have hrecords : (c.addDependencies g device).Records :=
    records_addDependencies hdispatch hpresent halive hc
  by_cases htarget : ∃ layout, (textureRef t, layout) ∈ (c.addDependencies g device).targets
  · obtain ⟨layout, htarget⟩ := htarget
    have hops : ops = attachmentOps layout := opsAt_process_of_mem_targets hg hc htarget
    have hlayout := layout_mem_attachmentLayouts htarget
    obtain ⟨change, hchange, hensured, -⟩ := exists_change_of_target htarget
    rw [hops, ordered_attachment state hold layout hlayout, sync_attachment state hold layout hlayout,
      stateBefore_of_change hg hc ht hchange, hensured]
    refine ⟨?_, rfl⟩
    cases c with
    | render node => exact (imp_iff_right (mem_targets_iff.mp ⟨layout, htarget⟩)).symm
    | _ => exact absurd htarget List.not_mem_nil
  by_cases href : textureRef t ∈ c.expects g device
  · have hops : ops = _ := opsAt_process_of_mem_expects hg hc href
    have hprepared := mem_preparations (preparedState_ne href)
    have houtput := mem_outputs_of_mem_expects hg hc href
    obtain ⟨hexpected, hafter⟩ := expectedAt_of_mem_expects hg hc href
    rw [hops, transitionAt, hexpected, hafter]
    refine ⟨(ordered_prepare state hold _ hprepared).trans ?_, sync_prepare state hold _ hprepared⟩
    rw [houtput]
    exact not_and.trans (forall_congr' fun hwrite => (mayChange_iff_of_write hwrite).symm)
  · have hops : ops = [] := by
      refine opsAt_process_of_forall_ne hg hc (fun ref href' heq => ?_) fun target htarget' heq => ?_
      · obtain ⟨t', -, rfl, -⟩ := exists_node_of_mem_expects hg.fresh hc href'
        obtain rfl : t' = t := Nat.add_left_cancel heq
        exact href href'
      · obtain ⟨⟨type, t'⟩, layout⟩ := target
        obtain rfl : type = .texture := (target_isTexture hg hc htarget').1
        obtain rfl : t' = t := Nat.add_left_cancel heq
        exact htarget ⟨layout, htarget'⟩
    have haccess : textureRef t ∉ c.accessed g device := by
      intro haccess
      rw [← refs_addDependencies hg.fresh hc device] at haccess
      rcases prepared_or_target hrecords haccess with hprepared | htarget'
      · rw [prepared_addDependencies hg.fresh hc] at hprepared
        exact href hprepared
      · exact htarget htarget'
    rw [hops, stateBefore_of_not_accessed hg.fresh]
    · exact ⟨iff_of_true trivial fun h => absurd (outputs_subset_accessed h) haccess, rfl⟩
    · intro c' hc' hindex
      rwa [index_inj hg.fresh.wellFormed hc' hc hindex]

end Step

/-! ### The whole graph -/

section Run

variable (hg : g.Regular device) (hdispatch : g.dispatchNodes = []) (hpresent : g.presentNodes = [])
  (halive : ∀ node ∈ g.readNodes, node.expired = false)

include hg

/-- The command buffers do nothing to other images. -/
theorem opsAt_cmdBuffers_of_forall_ne {image : Image}
    (h : ∀ t < g.textureNodes.length, device.images.length + t ≠ image) :
    opsAt image ((g.executeGraph device).2.flatten.flatMap VkCommand.memoryOps) = [] := by
  rw [opsAt_flatMap_flatten, List.flatten_eq_nil_iff]
  intro ops hops
  obtain ⟨cmdBuffer, hmem, rfl⟩ := List.mem_map.mp hops
  obtain ⟨k, hk⟩ := List.getElem?_of_mem hmem
  rcases cmdBuffer_cases hg.fresh discarded_nil hk with ⟨c, hc, -, -, rfl⟩ | ⟨rfl, -⟩
  · refine opsAt_process_of_forall_ne hg hc (fun ref href => ?_) fun target htarget => ?_
    · obtain ⟨t, node, rfl, hnode⟩ := exists_node_of_mem_expects hg.fresh hc href
      exact h t (List.getElem?_eq_some_iff.mp hnode).choose
    · exact h _ (target_isTexture hg hc htarget).2
  · rfl

include hdispatch hpresent halive

/-- The accesses of a texture race exactly if one of them finds it in a state that does not allow it. -/
theorem ordered_cmdBuffers_iff (ht : t < g.textureNodes.length) :
    Ordered {} (opsAt (device.images.length + t)
        ((g.executeGraph device).2.flatten.flatMap VkCommand.memoryOps)) ↔
      ∀ c ∈ g.commandNodes, textureRef t ∈ c.outputs →
        c.MayChange ((g.addDependencies device).stateBefore t c.index) := by
  rw [opsAt_flatMap_flatten]
  refine (each_flatten_iff
    (fun k s => s = syncIn ((g.addDependencies device).stateBefore t k).layout)
    (fun k => ∀ c ∈ g.commandNodes, c.index = k → textureRef t ∈ c.outputs →
      c.MayChange ((g.addDependencies device).stateBefore t c.index)) ?_ ?_ ?_).trans ?_
  · rintro k segment s hsegment rfl
    rw [List.getElem?_map, Option.map_eq_some_iff] at hsegment
    obtain ⟨cmdBuffer, hbuffer, rfl⟩ := hsegment
    rcases cmdBuffer_cases hg.fresh discarded_nil hbuffer with ⟨c, hc, rfl, -, rfl⟩ | ⟨rfl, hnone⟩
    · refine (ordered_process hdispatch hpresent halive hc hg ht).1.trans ?_
      constructor
      · intro h c' hc' hindex
        rw [index_inj hg.fresh.wellFormed hc' hc hindex]
        exact h
      · exact fun h => h c hc rfl
    · exact iff_of_true trivial fun c hc hindex => absurd (hnone c hc hindex) List.not_mem_nil
  · rintro k segment s hsegment rfl -
    rw [List.getElem?_map, Option.map_eq_some_iff] at hsegment
    obtain ⟨cmdBuffer, hbuffer, rfl⟩ := hsegment
    refine ⟨_, exec_step _ _, ?_⟩
    rcases cmdBuffer_cases hg.fresh discarded_nil hbuffer with ⟨c, hc, rfl, -, rfl⟩ | ⟨rfl, hnone⟩
    · exact (ordered_process hdispatch hpresent halive hc hg ht).2
    · rw [stateBefore_of_not_accessed hg.fresh fun c hc hindex =>
        absurd (hnone c hc hindex) List.not_mem_nil]
      rfl
  · rcases stateBefore_cases hg.fresh device t 0 with ⟨hinit, -⟩ | ⟨c, -, hc, -⟩
    · rw [hinit]
      rfl
    · exact absurd hc.before (Nat.not_lt_zero _)
  · constructor
    · intro h c hc
      refine h c.index ?_ c hc rfl
      rw [List.length_map, length_cmdBuffers]
      exact hg.fresh.wellFormed.indices_lt c hc
    · exact fun h k _ c hc _ => h c hc

theorem ordered_image_iff (image : Image) :
    Ordered {} (opsAt image ((g.executeGraph device).2.flatten.flatMap VkCommand.memoryOps)) ↔
      ∀ t < g.textureNodes.length, device.images.length + t = image → ∀ c ∈ g.commandNodes,
        textureRef t ∈ c.outputs →
          c.MayChange ((g.addDependencies device).stateBefore t c.index) := by
  by_cases himage : ∃ t < g.textureNodes.length, device.images.length + t = image
  · obtain ⟨t, ht, rfl⟩ := himage
    refine (ordered_cmdBuffers_iff hg hdispatch hpresent halive ht).trans ?_
    constructor
    · intro h t' _ heq
      rw [Nat.add_left_cancel heq]
      exact h
    · exact fun h => h t ht rfl
  · rw [opsAt_cmdBuffers_of_forall_ne hg fun t ht heq => himage ⟨t, ht, heq⟩]
    exact iff_of_true trivial fun t ht heq => absurd ⟨t, ht, heq⟩ himage

end Run

/-! ### In terms of the last access -/

/-- Where a render node leaves a texture is a matter of whether it is a target. -/
theorem ensuredState_of_render (hg : g.Regular device) {node : RenderNode}
    (hc : CommandNode.render node ∈ g.commandNodes) {change : StateChange}
    (hchange : (textureRef t, change) ∈ ((CommandNode.render node).addDependencies g device).changes) :
    (change.ensuredState = sampledState ∧ textureRef t ∉ node.targets) ∨
      ((change.ensuredState = colorTargetState ∨ change.ensuredState = depthStencilTargetState) ∧
        textureRef t ∈ node.targets) := by
  have hcases := hchange
  simp only [CommandNode.addDependencies, CommandNode.changes, List.mem_append, List.mem_map,
    Prod.mk.injEq] at hcases
  rcases hcases with (⟨ref, hdep, rfl, rfl⟩ | ⟨ref, hcolor, rfl, rfl⟩) | ⟨ref, hdepth, rfl, rfl⟩
  · refine Or.inl ⟨rfl, fun htarget => ?_⟩
    have hprepared : textureRef t ∈ ((CommandNode.render node).addDependencies g device).prepared := hdep
    rw [prepared_addDependencies hg.fresh hc] at hprepared
    obtain ⟨layout, htarget⟩ := mem_targets_iff.mpr htarget
    exact target_ne_of_mem_expects hg hc hprepared _ htarget rfl
  · refine Or.inr ⟨Or.inl rfl, List.mem_append_left _ ?_⟩
    rwa [addDependencies_eq] at hcolor
  · refine Or.inr ⟨Or.inr rfl, List.mem_append_right _ ?_⟩
    rwa [addDependencies_eq] at hdepth

/-- What the last access leaves allows a change exactly if the node may follow it. -/
theorem mayChange_iff_mayFollow (hg : g.Regular device) (hc' : c' ∈ g.commandNodes)
    (hdispatch : g.dispatchNodes = []) (hpresent : g.presentNodes = []) {change : StateChange}
    (hchange : (textureRef t, change) ∈ (c'.addDependencies g device).changes)
    (houtput : textureRef t ∈ c.outputs) :
    c.MayChange change.ensuredState ↔ c.MayFollow (textureRef t) c' := by
  cases c' with
  | write node' =>
    obtain ⟨-, rfl⟩ := Prod.mk.inj (List.mem_singleton.mp hchange)
    cases c with
    | write node => exact iff_of_false (fun h => h rfl) id
    | render node =>
      exact iff_of_false (by simp [CommandNode.MayChange, transferDstState, sampledState]) id
    | _ => exact absurd houtput List.not_mem_nil
  | read node' =>
    obtain ⟨-, rfl⟩ := Prod.mk.inj (List.mem_singleton.mp hchange)
    cases c with
    | write node =>
      exact iff_of_true (by simp [CommandNode.MayChange, transferDstState, transferSrcState]) trivial
    | render node =>
      exact iff_of_false (by simp [CommandNode.MayChange, transferSrcState, sampledState]) id
    | _ => exact absurd houtput List.not_mem_nil
  | render node' =>
    have hensured := ensuredState_of_render hg hc' hchange
    cases c with
    | write node =>
      refine iff_of_true ?_ trivial
      rcases hensured with ⟨h, -⟩ | ⟨h | h, -⟩ <;>
        simp [CommandNode.MayChange, h, sampledState, colorTargetState, depthStencilTargetState,
          transferDstState]
    | render node =>
      rcases hensured with ⟨h, htarget⟩ | ⟨h | h, htarget⟩
      · exact iff_of_true (Or.inr h) htarget
      · refine iff_of_false ?_ (not_not_intro htarget)
        simp [CommandNode.MayChange, h, colorTargetState, sampledState]
      · refine iff_of_false ?_ (not_not_intro htarget)
        simp [CommandNode.MayChange, h, depthStencilTargetState, sampledState]
    | _ => exact absurd houtput List.not_mem_nil
  | dispatch node' =>
    have hmem := dispatch_mem_commandNodes.mp hc'
    rw [hdispatch] at hmem
    exact absurd hmem List.not_mem_nil
  | present node' =>
    have hmem := present_mem_commandNodes.mp hc'
    rw [hpresent] at hmem
    exact absurd hmem List.not_mem_nil

theorem mayChange_stateBefore_iff (hg : g.Regular device) (hdispatch : g.dispatchNodes = [])
    (hpresent : g.presentNodes = []) (houtput : textureRef t ∈ c.outputs) :
    c.MayChange ((g.addDependencies device).stateBefore t c.index) ↔
      ∀ c', g.LastAccess device [] t c.index c' → c.MayFollow (textureRef t) c' := by
  rcases stateBefore_cases hg.fresh device t c.index with
    ⟨hnone, hlast⟩ | ⟨c', change, hc', hchange, hstate⟩
  · rw [hnone]
    refine iff_of_true ?_ fun c' hc' => absurd hc' (hlast c')
    cases c with
    | write node => simp [CommandNode.MayChange, transferDstState]
    | _ => exact Or.inl rfl
  · rw [hstate, mayChange_iff_mayFollow hg hc'.mem hdispatch hpresent hchange houtput]
    constructor
    · intro h c'' hc''
      rwa [← hc'.unique hg.fresh.wellFormed hc'']
    · exact fun h => h c' hc'

theorem supported_transitionsOf (hg : g.Regular device) (hdispatch : g.dispatchNodes = [])
    (hpresent : g.presentNodes = []) (hc : c ∈ g.commandNodes) : ∀ p ∈ g.transitionsOf device c,
      (getTransitionAccessMasks p.2.old.layout p.2.new.layout).isSome := by
  refine (forall_transitionsOf (P := fun _ transition =>
    (getTransitionAccessMasks transition.old.layout transition.new.layout).isSome) hg hc).mpr ?_
  intro t href
  have hold : (g.addDependencies device).stateBefore t c.index ∈ graphStates :=
    stateBefore_mem_graphStates hg.fresh hdispatch hpresent
  obtain ⟨hexpected, hafter⟩ := expectedAt_of_mem_expects hg hc href
  have hnew : c.preparedState ∈ graphStates :=
    hafter ▸ stateBefore_mem_graphStates hg.fresh hdispatch hpresent
  have hmasks : ∀ old ∈ graphStates, ∀ new ∈ graphStates,
      (getTransitionAccessMasks old.layout new.layout).isSome := by decide
  rw [hexpected]
  exact hmasks _ hold _ hnew

/-- The barriers of a graph are between layouts that the source has access masks for. -/
theorem supported_cmdBuffers (hg : g.Regular device) (hdispatch : g.dispatchNodes = [])
    (hpresent : g.presentNodes = []) :
    ∀ command ∈ (g.executeGraph device).2.flatten, command.Supported := by
  intro command hcommand
  obtain ⟨cmdBuffer, hbuffer, hmem⟩ := List.mem_flatten.mp hcommand
  obtain ⟨k, hk⟩ := List.getElem?_of_mem hbuffer
  rcases cmdBuffer_cases hg.fresh discarded_nil hk with ⟨c, hc, -, -, rfl⟩ | ⟨rfl, -⟩
  · cases command with
    | pipelineBarrier barrier =>
      rw [process_eq_bring hg hc] at hmem
      rcases List.mem_append.mp hmem with hmem | hmem
      · obtain ⟨p, hp, hbarrier⟩ := List.mem_flatMap.mp hmem
        have hsupported := supported_transitionsOf hg hdispatch hpresent hc p hp
        unfold VulkanTexture.transition at hbarrier
        split_ifs at hbarrier
        · obtain rfl := VkCommand.pipelineBarrier.inj (List.mem_singleton.mp hbarrier)
          exact hsupported
        · exact absurd hbarrier List.not_mem_nil
      · have hbarrier : barrier ∈ barriers ((c.addDependencies g device).work (g.buildGraph device)
            (g.executeGraph device).1) := List.mem_filterMap.mpr ⟨_, hmem, rfl⟩
        rw [barriers_work] at hbarrier
        exact absurd hbarrier List.not_mem_nil
    | _ => trivial
  · exact absurd hmem List.not_mem_nil

/-- **Which graphs race.** All barriers are supported. No two accesses race exactly if no write node
follows a write of the same texture, and no render node follows anything but samples of its targets. -/
theorem raceFree_iff (h : Reachable VulkanGraph.step {} g) (device : Device)
    (hdistinct : (g.textureNodes.map TextureNode.texture).Nodup)
    (hunique : (g.buildGraph device).OneChangeEach) (hdispatch : g.dispatchNodes = [])
    (hpresent : g.presentNodes = []) (halive : ∀ node ∈ g.readNodes, node.expired = false) :
    (∀ command ∈ (g.executeGraph device).2.flatten, command.Supported) ∧
      (RaceFree (g.executeGraph device).2.flatten ↔ ∀ c ∈ g.commandNodes, ∀ t c',
        textureRef t ∈ c.outputs → g.LastAccess device [] t c.index c' →
          c.MayFollow (textureRef t) c') := by
  have hg : g.Regular device := ⟨Fresh.of_reachable h, hdistinct, hunique⟩
  refine ⟨supported_cmdBuffers hg hdispatch hpresent, (raceFree_iff_forall _).trans
    ((forall_congr' (ordered_image_iff hg hdispatch hpresent halive)).trans ?_)⟩
  constructor
  · intro hready c hc t c' houtput hlast
    have ht : t < g.textureNodes.length := (isTexture_of_mem_outputs hg.fresh hc houtput).2
    exact (mayChange_stateBefore_iff hg hdispatch hpresent houtput).mp
      (hready _ t ht rfl c hc houtput) c' hlast
  · intro hfollow image t ht _ c hc houtput
    exact (mayChange_stateBefore_iff hg hdispatch hpresent houtput).mpr fun c' hlast =>
      hfollow c hc t c' houtput hlast

theorem raceFree_iff_writeTwice : ∃ g, exec VulkanGraph.step {} writeTwice = some g ∧
    ∀ c ∈ g.commandNodes, ∀ t c', textureRef t ∈ c.outputs →
      g.LastAccess swatchDevice [] t c.index c' → c.MayFollow (textureRef t) c' :=
  ⟨_, rfl, (raceFree_iff ⟨writeTwice, rfl⟩ swatchDevice (by decide) (by decide) rfl rfl
    (by decide)).2.mp (by decide)⟩

end VulkanGraph

end Teide
