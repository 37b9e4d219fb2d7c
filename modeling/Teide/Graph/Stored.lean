import Mathlib.Data.List.Basic
import Mathlib.Tactic.Common
import Teide.Graph.Construct
import Teide.Graph.Process

/-!
# Rendered results

The store operations of a render pass come from the capture flags of the framebuffer layout.
`AddRenderNode` fills in a layout with the formats of the targets and leaves the flags at their default,
so no attachment of a render node is ever stored. That is right only for a node whose targets nobody
reads, samples or presents afterwards (`storesTargets_iff`).
-/

namespace Teide

open Runs

/-- The resources whose contents the node uses. Dispatch nodes record nothing yet. -/
def CommandNode.consumes (g : VulkanGraph) (device : Device) : CommandNode → List ResourceNodeRef
  | read node => if node.expired then [] else [node.source]
  | render node => (node.boundTextures device).filterMap g.findTexture
  | present node => [node.source]
  | write _ | dispatch _ => []

namespace RenderNode

def targets (node : RenderNode) : List ResourceNodeRef :=
  node.colorTarget.toList ++ node.depthStencilTarget.toList

/-- The attachments of the render pass that `Process` creates, with the targets they are for. -/
def attachments (node : RenderNode) : List (AttachmentDescription × ResourceNodeRef) :=
  (Device.createRenderPass node.renderTargetInfo.framebufferLayout node.renderList.clearState
    .attachment).zip node.targets

end RenderNode

namespace VulkanGraph

variable {g g' : VulkanGraph} {device : Device} {ref : ResourceNodeRef} {node : RenderNode}

/-- A command node with a higher index uses the contents of the resource. -/
def UsedAfter (g : VulkanGraph) (device : Device) (node : RenderNode) (ref : ResourceNodeRef) : Prop :=
  ∃ c ∈ g.commandNodes, node.index < c.index ∧ ref ∈ c.consumes g device

/-- The targets of the node that are used afterwards are stored. -/
def StoresTargets (g : VulkanGraph) (device : Device) (node : RenderNode) : Prop :=
  ∀ a ∈ node.attachments, g.UsedAfter device node a.2 → a.1.storeOp = .store

instance (ref : ResourceNodeRef) : Decidable (g.UsedAfter device node ref) :=
  inferInstanceAs (Decidable (∃ c ∈ g.commandNodes, _))

instance : Decidable (g.StoresTargets device node) := inferInstanceAs (Decidable (∀ a ∈ _, _ → _))

theorem isTexture_of_mem_targets (hnode : node.WellFormed g) (href : ref ∈ node.targets) :
    g.IsTexture ref := by
  rcases List.mem_append.mp href with href | href
  · exact hnode.color ref (Option.mem_toList.mp href)
  · exact hnode.depthStencil ref (Option.mem_toList.mp href)

/-- The render pass that the node records has these attachments. -/
theorem work_render_eq {image : ResourceNodeRef → Image}
    (himage : ∀ ref ∈ node.targets, g.imageOf device ref = some (image ref)) :
    (CommandNode.render node).work g device =
      [.renderPass (node.attachments.map fun a => (a.1, image a.2))
        (node.dependencies.filterMap (g.imageOf device))] := by
  have himages : node.targets.filterMap (g.imageOf device) = node.targets.map image := by
    rw [List.filterMap_congr himage]
    exact congrFun List.filterMap_eq_map' node.targets
  have hzip : ∀ l : List AttachmentDescription,
      l.zip (node.targets.map image) = (l.zip node.targets).map fun a => (a.1, image a.2) :=
    fun l => List.zip_map_right
  show [VkCommand.renderPass (List.zip _ (node.targets.filterMap (g.imageOf device))) _] = _
  rw [himages, hzip]
  rfl

/-! ### Render passes of layouts without capture flags -/

theorem storeOp_createRenderPass {layout : FramebufferLayout} (hcolor : layout.captureColor = false)
    (hdepth : layout.captureDepthStencil = false) (clearState : ClearState)
    (usage : FramebufferUsage) :
    ∀ a ∈ Device.createRenderPass layout clearState usage, a.storeOp = .dontCare := by
  intro a ha
  unfold Device.createRenderPass Teide.createRenderPass at ha
  simp only [hcolor, hdepth, Bool.false_eq_true, if_false, ite_self, List.mem_append] at ha
  rcases ha with (ha | ha) | ha
  · obtain ⟨format, -, rfl⟩ := List.mem_map.mp ha
    rfl
  · obtain ⟨format, -, rfl⟩ := List.mem_map.mp ha
    rfl
  · split at ha
    · obtain ⟨format, -, rfl⟩ := List.mem_map.mp ha
      rfl
    · exact absurd ha List.not_mem_nil

/-- Without multisampling there is an attachment for each format. -/
theorem length_createRenderPass {layout : FramebufferLayout} (hsamples : layout.sampleCount = 1)
    (clearState : ClearState) (usage : FramebufferUsage) :
    (Device.createRenderPass layout clearState usage).length =
      layout.colorFormat.toList.length + layout.depthStencilFormat.toList.length := by
  unfold Device.createRenderPass Teide.createRenderPass
  simp only [hsamples, bne_self_eq_false, Bool.false_and, Bool.false_eq_true, if_false,
    List.append_nil, List.length_append, List.length_map]

/-! ### The render nodes of a graph -/

/-- The framebuffer layout of the node is one that `AddRenderNode` has filled in. -/
def InfoOfTargets (node : RenderNode) : Prop :=
  ∃ (g : VulkanGraph) (properties : Texture → TextureProperties), node.renderTargetInfo =
    g.renderTargetInfoOf properties node.colorTarget node.depthStencilTarget

theorem renderTargetInfoOf_capture (properties : Texture → TextureProperties)
    (colorTarget depthStencilTarget : Option ResourceNodeRef) :
    let layout := (g.renderTargetInfoOf properties colorTarget depthStencilTarget).framebufferLayout
    layout.captureColor = false ∧ layout.captureDepthStencil = false := by
  cases colorTarget <;> cases depthStencilTarget <;> exact ⟨rfl, rfl⟩

theorem infoOfTargets_construct (hg : ∀ node ∈ g.renderNodes, InfoOfTargets node) {call : Call}
    (h : g.construct call = some g') : ∀ node ∈ g'.renderNodes, InfoOfTargets node := by
  rcases construct_cases h with ⟨c, hc⟩ | ⟨texture, rfl⟩ | ⟨data, rfl⟩ | ⟨i, rfl⟩
  · intro node hnode
    have hmem := render_mem_commandNodes.mpr hnode
    rw [hc.commandNodes] at hmem
    rcases mem_commandNodes_push.mp hmem with heq | hmem
    · exact ⟨g, hc.targetInfo node heq.symm⟩
    · exact hg node (render_mem_commandNodes.mp hmem)
  · exact hg
  · exact hg
  · exact hg

/-- **In every graph the framebuffer layouts are those of `AddRenderNode`.** -/
theorem infoOfTargets_of_reachable (h : Reachable VulkanGraph.construct {} g)
    (hnode : node ∈ g.renderNodes) : InfoOfTargets node := by
  have hall := h.invariant (I := fun g => ∀ node ∈ g.renderNodes, InfoOfTargets node)
    (fun _ _ _ hg hstep => infoOfTargets_construct hg hstep)
    fun _ hnode => absurd hnode List.not_mem_nil
  exact hall node hnode

theorem storeOp_of_mem_attachments (hinfo : InfoOfTargets node) :
    ∀ a ∈ node.attachments, a.1.storeOp = .dontCare := by
  intro a ha
  obtain ⟨g, properties, hlayout⟩ := hinfo
  obtain ⟨hcolor, hdepth⟩ := renderTargetInfoOf_capture (g := g) properties node.colorTarget
    node.depthStencilTarget
  rw [← hlayout] at hcolor hdepth
  exact storeOp_createRenderPass hcolor hdepth _ _ _ (List.of_mem_zip ha).1

/-- There is an attachment for each target. -/
theorem map_snd_attachments (hinfo : InfoOfTargets node) :
    node.attachments.map Prod.snd = node.targets := by
  obtain ⟨g, properties, hlayout⟩ := hinfo
  obtain ⟨hcolor, hdepth, hsamples⟩ := renderTargetInfoOf_layout (g := g) properties
    node.colorTarget node.depthStencilTarget
  rw [← hlayout] at hcolor hdepth hsamples
  have htoList : ∀ {α β : Type} {a : Option α} {b : Option β}, a.isSome = b.isSome →
      a.toList.length = b.toList.length := by
    intro α β a b h
    rw [Option.length_toList, Option.length_toList, h]
  have hlength : node.targets.length ≤ (Device.createRenderPass
      node.renderTargetInfo.framebufferLayout node.renderList.clearState .attachment).length := by
    rw [length_createRenderPass hsamples, htoList hcolor, htoList hdepth, RenderNode.targets,
      List.length_append]
  exact List.map_snd_zip hlength

theorem exists_mem_attachments (hinfo : InfoOfTargets node) (href : ref ∈ node.targets) :
    ∃ a ∈ node.attachments, a.2 = ref := by
  rw [← map_snd_attachments hinfo] at href
  exact List.mem_map.mp href

/-- **The targets of a render node are stored as they are used exactly if none of them is used
later.** -/
theorem storesTargets_iff (h : Reachable VulkanGraph.construct {} g) (device : Device)
    (hnode : node ∈ g.renderNodes) :
    g.StoresTargets device node ↔ ∀ ref ∈ node.targets, ¬ g.UsedAfter device node ref := by
  have hinfo := infoOfTargets_of_reachable h hnode
  constructor
  · intro hstores ref href hused
    obtain ⟨a, ha, rfl⟩ := exists_mem_attachments hinfo href
    have hstore := hstores a ha hused
    rw [storeOp_of_mem_attachments hinfo a ha] at hstore
    cases hstore
  · intro hunused a ha hused
    exact absurd hused (hunused a.2 (List.of_mem_zip ha).2)

/-- A render node whose target nobody uses. -/
theorem storesTargets_dropLast : ∃ g,
    exec VulkanGraph.construct {} writeRenderRead.dropLast = some g ∧
      ∃ node ∈ g.renderNodes, g.StoresTargets {} node :=
  ⟨_, rfl, _, List.mem_cons_self, (storesTargets_iff ⟨writeRenderRead.dropLast, rfl⟩ {}
    List.mem_cons_self).mpr (by decide)⟩

/-- A target that is read. -/
theorem not_storesTargets : ∃ g, exec VulkanGraph.construct {} writeRenderRead = some g ∧
    ∃ node ∈ g.renderNodes, ¬ g.StoresTargets {} node :=
  ⟨_, rfl, _, List.mem_cons_self, by decide⟩

end VulkanGraph

end Teide
