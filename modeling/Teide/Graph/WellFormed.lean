import Mathlib.Data.List.Nodup
import Mathlib.Tactic.Common
import Teide.Graph.Changes
import Teide.Lib.ListSet

/-!
# Graphs that have been built by adding nodes

A graph is `WellFormed` if command indices are unique and below the counter, references are in range
and of the right type, and a render node's framebuffer layout has the attachments of its targets. It
is `Fresh` if, besides, nothing has been registered yet. The graphs that a sequence of `Add*Node`
calls leads to are fresh.

Usages and sources change with every call but do not matter here, so the calls are described on the
`skeleton` of a graph, which leaves them out.
-/

namespace Teide

open Runs

structure RenderNode.WellFormed (node : RenderNode) (g : VulkanGraph) : Prop where
  color : ∀ ref ∈ node.colorTarget, g.IsTexture ref
  depthStencil : ∀ ref ∈ node.depthStencilTarget, g.IsTexture ref
  colorFormat : node.renderTargetInfo.framebufferLayout.colorFormat.isSome =
    node.colorTarget.isSome
  depthStencilFormat : node.renderTargetInfo.framebufferLayout.depthStencilFormat.isSome =
    node.depthStencilTarget.isSome
  sampleCount : node.renderTargetInfo.framebufferLayout.sampleCount = 1
  dependencies : ∀ ref ∈ node.dependencies, g.IsTexture ref

def CommandNode.WellFormed (g : VulkanGraph) : CommandNode → Prop
  | write node => g.IsTextureData node.source ∧ g.IsTexture node.target
  | read node => g.IsTexture node.source
  | render node => node.WellFormed g
  | dispatch node => ∀ ref ∈ node.dependencies ++ node.outputs, g.IsTexture ref ∨ g.IsTextureData ref
  | present node => g.IsTexture node.source ∨ g.IsTextureData node.source

namespace VulkanGraph

variable {g g' : VulkanGraph} {c : CommandNode}

structure WellFormed (g : VulkanGraph) : Prop where
  indices_nodup : (g.commandNodes.map CommandNode.index).Nodup
  indices_lt : ∀ c ∈ g.commandNodes, c.index < g.commandNodeCount
  nodes : ∀ c ∈ g.commandNodes, c.WellFormed g

structure Fresh (g : VulkanGraph) : Prop where
  wellFormed : g.WellFormed
  stateChanges : ∀ node ∈ g.textureNodes, node.stateChanges = []
  dependencies : ∀ node ∈ g.renderNodes, node.dependencies = []

theorem write_mem_commandNodes {node : WriteNode} :
    CommandNode.write node ∈ g.commandNodes ↔ node ∈ g.writeNodes := by
  simp [commandNodes]

theorem read_mem_commandNodes {node : ReadNode} :
    CommandNode.read node ∈ g.commandNodes ↔ node ∈ g.readNodes := by
  simp [commandNodes]

theorem render_mem_commandNodes {node : RenderNode} :
    CommandNode.render node ∈ g.commandNodes ↔ node ∈ g.renderNodes := by
  simp [commandNodes]

theorem dispatch_mem_commandNodes {node : DispatchNode} :
    CommandNode.dispatch node ∈ g.commandNodes ↔ node ∈ g.dispatchNodes := by
  simp [commandNodes]

theorem present_mem_commandNodes {node : PresentNode} :
    CommandNode.present node ∈ g.commandNodes ↔ node ∈ g.presentNodes := by
  simp [commandNodes]

/-! ### Growing graphs -/

/-- `g'` has all the resources of `g`. -/
structure ResourcesLE (g g' : VulkanGraph) : Prop where
  textureNodes : g.textureNodes.length ≤ g'.textureNodes.length
  textureDataNodes : g.textureDataNodes.length ≤ g'.textureDataNodes.length

theorem ResourcesLE.isTexture (h : ResourcesLE g g') {ref : ResourceNodeRef}
    (href : g.IsTexture ref) : g'.IsTexture ref :=
  ⟨href.1, lt_of_lt_of_le href.2 h.textureNodes⟩

theorem ResourcesLE.isTextureData (h : ResourcesLE g g') {ref : ResourceNodeRef}
    (href : g.IsTextureData ref) : g'.IsTextureData ref :=
  ⟨href.1, lt_of_lt_of_le href.2 h.textureDataNodes⟩

theorem ResourcesLE.commandNode (h : ResourcesLE g g') (hc : c.WellFormed g) : c.WellFormed g' := by
  cases c with
  | write node => exact ⟨h.isTextureData hc.1, h.isTexture hc.2⟩
  | read node => exact h.isTexture hc
  | render node =>
    exact { (show node.WellFormed g from hc) with
      color := fun ref href => h.isTexture (hc.color ref href)
      depthStencil := fun ref href => h.isTexture (hc.depthStencil ref href)
      dependencies := fun ref href => h.isTexture (hc.dependencies ref href) }
  | dispatch node => exact fun ref href => (hc ref href).imp h.isTexture h.isTextureData
  | present node => exact hc.imp h.isTexture h.isTextureData

/-- The graph with one more command node. -/
def push (g : VulkanGraph) : CommandNode → VulkanGraph
  | .write node =>
    { g with commandNodeCount := g.commandNodeCount + 1, writeNodes := g.writeNodes ++ [node] }
  | .read node =>
    { g with commandNodeCount := g.commandNodeCount + 1, readNodes := g.readNodes ++ [node] }
  | .render node =>
    { g with commandNodeCount := g.commandNodeCount + 1, renderNodes := g.renderNodes ++ [node] }
  | .dispatch node =>
    { g with commandNodeCount := g.commandNodeCount + 1, dispatchNodes := g.dispatchNodes ++ [node] }
  | .present node =>
    { g with commandNodeCount := g.commandNodeCount + 1, presentNodes := g.presentNodes ++ [node] }

@[simp] theorem push_commandNodeCount : (g.push c).commandNodeCount = g.commandNodeCount + 1 := by
  cases c <;> rfl

@[simp] theorem push_textureNodes : (g.push c).textureNodes = g.textureNodes := by
  cases c <;> rfl

@[simp] theorem push_textureDataNodes : (g.push c).textureDataNodes = g.textureDataNodes := by
  cases c <;> rfl

theorem perm_cons_append {α : Type*} {a : α} {l l' : List α} (k : List α)
    (h : l.Perm (a :: l')) : (k ++ l).Perm (a :: (k ++ l')) :=
  (h.append_left k).trans List.perm_middle

theorem commandNodes_push_perm (g : VulkanGraph) (c : CommandNode) :
    (g.push c).commandNodes.Perm (c :: g.commandNodes) := by
  cases c <;>
    simp only [commandNodes, push, List.map_append, List.append_assoc, List.map_cons, List.map_nil,
      List.cons_append, List.nil_append]
  case write => exact List.perm_middle
  case read => exact perm_cons_append _ List.perm_middle
  case render => exact perm_cons_append _ (perm_cons_append _ List.perm_middle)
  case dispatch =>
    exact perm_cons_append _ (perm_cons_append _ (perm_cons_append _ List.perm_middle))
  case present =>
    refine perm_cons_append _ (perm_cons_append _ (perm_cons_append _ (perm_cons_append _ ?_)))
    exact List.perm_append_singleton _ _

theorem mem_commandNodes_push {c' : CommandNode} :
    c' ∈ (g.push c).commandNodes ↔ c' = c ∨ c' ∈ g.commandNodes := by
  rw [(commandNodes_push_perm g c).mem_iff, List.mem_cons]

theorem WellFormed.push (hg : g.WellFormed) (hc : c.WellFormed g)
    (hindex : c.index = g.commandNodeCount) : (g.push c).WellFormed := by
  have hle : ResourcesLE g (g.push c) := ⟨by rw [push_textureNodes], by rw [push_textureDataNodes]⟩
  refine ⟨?_, ?_, ?_⟩
  · rw [((commandNodes_push_perm g c).map _).nodup_iff, List.map_cons, List.nodup_cons]
    refine ⟨fun hmem => ?_, hg.indices_nodup⟩
    obtain ⟨c', hc', heq⟩ := List.mem_map.mp hmem
    have hlt := hg.indices_lt c' hc'
    omega
  · intro c' hc'
    rw [push_commandNodeCount]
    rcases mem_commandNodes_push.mp hc' with rfl | hc'
    · omega
    · have hlt := hg.indices_lt c' hc'
      omega
  · intro c' hc'
    rcases mem_commandNodes_push.mp hc' with rfl | hc'
    · exact hle.commandNode hc
    · exact hle.commandNode (hg.nodes c' hc')

theorem Fresh.push (hg : g.Fresh) (hc : c.WellFormed g) (hindex : c.index = g.commandNodeCount)
    (hfresh : ∀ node, c = .render node → node.dependencies = []) : (g.push c).Fresh := by
  refine ⟨hg.wellFormed.push hc hindex, ?_, fun node hnode => ?_⟩
  · rw [push_textureNodes]
    exact hg.stateChanges
  · have hmem := mem_commandNodes_push.mp (render_mem_commandNodes.mpr hnode)
    rcases hmem with heq | hmem
    · exact hfresh node heq.symm
    · exact hg.dependencies node (render_mem_commandNodes.mp hmem)

/-- Leaving out command nodes. -/
theorem WellFormed.sublist (hg : g.WellFormed)
    (hcount : g'.commandNodeCount = g.commandNodeCount)
    (hnodes : g'.commandNodes.Sublist g.commandNodes) (hle : ResourcesLE g g') :
    g'.WellFormed where
  indices_nodup := hg.indices_nodup.sublist (hnodes.map _)
  indices_lt c hc := hcount ▸ hg.indices_lt c (hnodes.subset hc)
  nodes c hc := hle.commandNode (hg.nodes c (hnodes.subset hc))

/-! ### Skeletons -/

/-- The graph without the usages and sources of its resources. -/
def skeleton (g : VulkanGraph) : VulkanGraph :=
  { g with
    textureNodes := g.textureNodes.map fun node => { node with source := {}, usage := ∅ }
    textureDataNodes := g.textureDataNodes.map fun node => { node with source := none } }

@[simp] theorem skeleton_addUsage (ref : ResourceNodeRef) (usage : ImageUsageFlags) :
    (g.addUsage ref usage).skeleton = g.skeleton := by
  obtain ⟨type, i⟩ := ref
  cases type with
  | texture =>
    have hnodes := ListSet.map_modify_of_eq
      (fun node : TextureNode => { node with source := {}, usage := ∅ })
      (fun node => { node with usage := node.usage ∪ usage }) (fun _ => rfl) g.textureNodes i
    simp only [skeleton, addUsage, modifyTexture, hnodes]
  | textureData => rfl

@[simp] theorem skeleton_setSource (ref : ResourceNodeRef) (source : CommandNodeRef) :
    (g.setSource ref source).skeleton = g.skeleton := by
  obtain ⟨type, i⟩ := ref
  cases type with
  | texture =>
    have hnodes := ListSet.map_modify_of_eq
      (fun node : TextureNode => { node with source := {}, usage := ∅ })
      (fun node => { node with source := source }) (fun _ => rfl) g.textureNodes i
    simp only [skeleton, setSource, hnodes]
  | textureData =>
    have hnodes := ListSet.map_modify_of_eq (fun node : TextureDataNode => { node with source := none })
      (fun node => { node with source := some source }) (fun _ => rfl) g.textureDataNodes i
    simp only [skeleton, setSource, hnodes]

theorem resourcesLE_of_skeleton_eq (h : g.skeleton = g'.skeleton) : ResourcesLE g g' := by
  have htextures := congrArg (fun g : VulkanGraph => g.textureNodes.length) h
  have hdata := congrArg (fun g : VulkanGraph => g.textureDataNodes.length) h
  simp only [skeleton, List.length_map] at htextures hdata
  exact ⟨htextures.le, hdata.le⟩

theorem skeleton_skeleton : g.skeleton.skeleton = g.skeleton := by
  simp only [skeleton, List.map_map]
  rfl

theorem wellFormed_skeleton : g.skeleton.WellFormed ↔ g.WellFormed := by
  have hto : ResourcesLE g g.skeleton := resourcesLE_of_skeleton_eq skeleton_skeleton.symm
  have hfrom : ResourcesLE g.skeleton g := resourcesLE_of_skeleton_eq skeleton_skeleton
  exact ⟨fun h => h.sublist rfl (List.Sublist.refl _) hfrom,
    fun h => h.sublist rfl (List.Sublist.refl _) hto⟩

theorem fresh_skeleton : g.skeleton.Fresh ↔ g.Fresh := by
  have hchanges : (∀ node ∈ g.skeleton.textureNodes, node.stateChanges = []) ↔
      ∀ node ∈ g.textureNodes, node.stateChanges = [] := List.forall_mem_map
  exact ⟨fun h => ⟨wellFormed_skeleton.mp h.wellFormed, hchanges.mp h.stateChanges, h.dependencies⟩,
    fun h => ⟨wellFormed_skeleton.mpr h.wellFormed, hchanges.mpr h.stateChanges, h.dependencies⟩⟩

theorem skeleton_push : (g.push c).skeleton = g.skeleton.push c := by
  cases c <;> rfl

theorem commandNodeCount_of_skeleton_eq (h : g.skeleton = g'.skeleton) :
    g.commandNodeCount = g'.commandNodeCount := by
  show g.skeleton.commandNodeCount = g'.skeleton.commandNodeCount
  rw [h]

theorem skeleton_foldl {ι : Type*} {f : VulkanGraph → ι → VulkanGraph}
    (hf : ∀ g i, (f g i).skeleton = g.skeleton) (l : List ι) :
    (l.foldl f g).skeleton = g.skeleton := by
  induction l generalizing g with
  | nil => rfl
  | cons i l ih => rw [List.foldl_cons, ih, hf]

theorem skeleton_addWriteNode (source target : ResourceNodeRef) :
    (g.addWriteNode source target).2.skeleton =
      g.skeleton.push (.write ⟨g.commandNodeCount, source, target⟩) := by
  have hused := skeleton_addUsage (g := g) target {.transferDst}
  calc (g.addWriteNode source target).2.skeleton
      = ((g.addUsage target {.transferDst}).push
          (.write ⟨(g.addUsage target {.transferDst}).commandNodeCount, source, target⟩)).skeleton :=
        skeleton_setSource _ _
    _ = g.skeleton.push (.write ⟨g.commandNodeCount, source, target⟩) := by
        rw [skeleton_push, hused, commandNodeCount_of_skeleton_eq hused]

theorem skeleton_addReadNode (source : ResourceNodeRef) :
    (g.addReadNode source).skeleton =
      g.skeleton.push (.read { index := g.commandNodeCount, source := source }) := by
  have hused := skeleton_addUsage (g := g) source {.transferSrc}
  calc (g.addReadNode source).skeleton
      = ((g.addUsage source {.transferSrc}).push (.read
          { index := (g.addUsage source {.transferSrc}).commandNodeCount, source })).skeleton := rfl
    _ = g.skeleton.push (.read { index := g.commandNodeCount, source := source }) := by
        rw [skeleton_push, hused, commandNodeCount_of_skeleton_eq hused]

theorem skeleton_addDispatchNode (inputs outputs : List ResourceNodeRef) :
    (g.addDispatchNode inputs outputs).2.skeleton =
      g.skeleton.push (.dispatch ⟨g.commandNodeCount, inputs, outputs⟩) := by
  rw [addDispatchNode]
  refine (skeleton_foldl (fun g output => ?_) outputs).trans
    ((skeleton_foldl (fun g input => ?_) inputs).trans ?_)
  · rw [skeleton_setSource, skeleton_addUsage]
  · rw [skeleton_addUsage]
  · rfl

theorem skeleton_addTarget (properties : Texture → TextureProperties) (r : CommandNodeRef)
    (usage : ImageUsageFlags) (setFormat : Format → FramebufferLayout → FramebufferLayout)
    (target : Option ResourceNodeRef) (gi : VulkanGraph × RenderTargetInfo) :
    (addTarget properties r usage setFormat target gi).1.skeleton = gi.1.skeleton := by
  cases target with
  | none => rfl
  | some ref =>
    show ((gi.1.addUsage ref usage).setSource ref r).skeleton = gi.1.skeleton
    rw [skeleton_setSource, skeleton_addUsage]

/-- The render target info that `AddRenderNode` fills in. -/
def renderTargetInfoOf (g : VulkanGraph) (properties : Texture → TextureProperties)
    (colorTarget depthStencilTarget : Option ResourceNodeRef) : RenderTargetInfo :=
  (addDepthStencilTarget properties ⟨.render, g.renderNodes.length⟩ depthStencilTarget
    (addColorTarget properties ⟨.render, g.renderNodes.length⟩ colorTarget (g, {}))).2

theorem skeleton_addRenderNode (properties : Texture → TextureProperties) (renderList : RenderList)
    (colorTarget depthStencilTarget : Option ResourceNodeRef) :
    (g.addRenderNode properties renderList colorTarget depthStencilTarget).2.skeleton =
      g.skeleton.push (.render
        { index := g.commandNodeCount
          renderList := renderList
          renderTargetInfo := g.renderTargetInfoOf properties colorTarget depthStencilTarget
          colorTarget := colorTarget
          depthStencilTarget := depthStencilTarget }) := by
  have htargets : (addDepthStencilTarget properties ⟨.render, g.renderNodes.length⟩
      depthStencilTarget (addColorTarget properties ⟨.render, g.renderNodes.length⟩ colorTarget
        (g, {}))).1.skeleton = g.skeleton :=
    (skeleton_addTarget _ _ _ _ _ _).trans (skeleton_addTarget _ _ _ _ _ _)
  rw [← htargets, ← commandNodeCount_of_skeleton_eq htargets, ← skeleton_push]
  rfl

theorem skeleton_addPresentNode (source : ResourceNodeRef) :
    (g.addPresentNode source).2.skeleton =
      g.skeleton.push (.present ⟨g.commandNodeCount, source⟩) := rfl

/-! ### Reachable graphs -/

theorem renderTargetInfoOf_layout (properties : Texture → TextureProperties)
    (colorTarget depthStencilTarget : Option ResourceNodeRef) :
    let layout := (g.renderTargetInfoOf properties colorTarget depthStencilTarget).framebufferLayout
    layout.colorFormat.isSome = colorTarget.isSome ∧
      layout.depthStencilFormat.isSome = depthStencilTarget.isSome ∧ layout.sampleCount = 1 := by
  cases colorTarget <;> cases depthStencilTarget <;> exact ⟨rfl, rfl, rfl⟩

theorem Fresh.of_push_skeleton (hg : g.Fresh) (heq : g'.skeleton = g.skeleton.push c)
    (hindex : c.index = g.commandNodeCount) (hc : c.WellFormed g)
    (hfresh : ∀ node, c = .render node → node.dependencies = []) : g'.Fresh := by
  rw [← fresh_skeleton, heq, ← skeleton_push, fresh_skeleton]
  exact hg.push hc hindex hfresh

theorem exists_mem_of_mem_modify {α : Type*} {f : α → α} {l : List α} {i : Nat} {b : α}
    (h : b ∈ l.modify i f) : ∃ a ∈ l, b = a ∨ b = f a := by
  obtain ⟨j, hj⟩ := List.mem_iff_getElem?.mp h
  rw [List.getElem?_modify] at hj
  obtain ⟨a, ha, hb⟩ := Option.map_eq_some_iff.mp hj
  refine ⟨a, List.mem_of_getElem? ha, ?_⟩
  split_ifs at hb with hij
  · exact Or.inr hb.symm
  · exact Or.inl hb.symm

/-- What does not depend on whether reads are expired stays the same. -/
theorem destroySender_commandNodes_map {β : Type*} (f : CommandNode → β)
    (hf : ∀ node : ReadNode, f (.read { node with expired := true }) = f (.read node)) (i : Nat) :
    (g.destroySender i).commandNodes.map f = g.commandNodes.map f := by
  have hreads := ListSet.map_modify_of_eq (fun node => f (.read node))
    (fun node => { node with expired := true }) hf g.readNodes i
  simp only [commandNodes, List.map_append, List.map_map]
  exact congrArg (fun l => _ ++ l ++ _ ++ _ ++ _) hreads

theorem WellFormed.destroySender (hg : g.WellFormed) (i : Nat) :
    (g.destroySender i).WellFormed := by
  have hindices := destroySender_commandNodes_map (g := g) CommandNode.index (fun _ => rfl) i
  have hle : ResourcesLE g (g.destroySender i) := ⟨le_refl _, le_refl _⟩
  refine ⟨hindices ▸ hg.indices_nodup, fun c hc => ?_, fun c hc => ?_⟩
  · have hmem := List.mem_map_of_mem (f := CommandNode.index) hc
    rw [hindices] at hmem
    obtain ⟨c', hc', heq⟩ := List.mem_map.mp hmem
    exact heq ▸ hg.indices_lt c' hc'
  · cases c with
    | read node =>
      obtain ⟨node', hnode', rfl | rfl⟩ := exists_mem_of_mem_modify (read_mem_commandNodes.mp hc)
      · exact hg.nodes (.read node) (read_mem_commandNodes.mpr hnode')
      · exact hg.nodes (.read node') (read_mem_commandNodes.mpr hnode')
    | write node =>
      have hnode := write_mem_commandNodes.mp hc
      exact hle.commandNode (hg.nodes (.write node) (write_mem_commandNodes.mpr hnode))
    | render node =>
      have hnode := render_mem_commandNodes.mp hc
      exact hle.commandNode (hg.nodes (.render node) (render_mem_commandNodes.mpr hnode))
    | dispatch node =>
      have hnode := dispatch_mem_commandNodes.mp hc
      exact hle.commandNode (hg.nodes (.dispatch node) (dispatch_mem_commandNodes.mpr hnode))
    | present node =>
      have hnode := present_mem_commandNodes.mp hc
      exact hle.commandNode (hg.nodes (.present node) (present_mem_commandNodes.mpr hnode))

/-- Every call leaves a fresh graph fresh. -/
theorem Fresh.step (hg : g.Fresh) {call : Call} (h : g.step call = some g') : g'.Fresh := by
  cases call with
  | addTextureNode texture =>
    obtain rfl := Option.some.inj h
    refine ⟨hg.wellFormed.sublist rfl (List.Sublist.refl _) ⟨?_, le_refl _⟩, ?_, hg.dependencies⟩
    · simp [VulkanGraph.addTextureNode]
    · intro node hnode
      rcases List.mem_append.mp hnode with hnode | hnode
      · exact hg.stateChanges node hnode
      · rw [List.mem_singleton.mp hnode]
  | addTextureDataNode data =>
    obtain rfl := Option.some.inj h
    refine ⟨hg.wellFormed.sublist rfl (List.Sublist.refl _) ⟨le_refl _, ?_⟩, hg.stateChanges,
      hg.dependencies⟩
    simp [VulkanGraph.addTextureDataNode]
  | addWriteNode source target =>
    obtain ⟨hvalid, heq⟩ := Option.ite_none_right_eq_some.mp h
    obtain rfl := Option.some.inj heq
    exact hg.of_push_skeleton (skeleton_addWriteNode source target) rfl hvalid (fun _ h => by cases h)
  | addReadNode source =>
    obtain ⟨hvalid, heq⟩ := Option.ite_none_right_eq_some.mp h
    obtain rfl := Option.some.inj heq
    exact hg.of_push_skeleton (skeleton_addReadNode source) rfl hvalid (fun _ h => by cases h)
  | addRenderNode properties renderList colorTarget depthStencilTarget =>
    obtain ⟨⟨hcolor, hdepth⟩, heq⟩ := Option.ite_none_right_eq_some.mp h
    obtain rfl := Option.some.inj heq
    obtain ⟨hcolorFormat, hdepthFormat, hsamples⟩ :=
      renderTargetInfoOf_layout (g := g) properties colorTarget depthStencilTarget
    refine hg.of_push_skeleton
      (skeleton_addRenderNode properties renderList colorTarget depthStencilTarget) rfl
      ⟨hcolor, hdepth, hcolorFormat, hdepthFormat, hsamples, ?_⟩ ?_
    · exact fun ref href => absurd href List.not_mem_nil
    · rintro node ⟨⟩
      rfl
  | addDispatchNode inputs outputs =>
    obtain ⟨⟨hinputs, houtputs⟩, heq⟩ := Option.ite_none_right_eq_some.mp h
    obtain rfl := Option.some.inj heq
    refine hg.of_push_skeleton (skeleton_addDispatchNode inputs outputs) rfl (fun ref href => ?_)
      (fun _ h => by cases h)
    exact (List.mem_append.mp href).elim (hinputs ref) (houtputs ref)
  | addPresentNode source =>
    obtain ⟨hvalid, heq⟩ := Option.ite_none_right_eq_some.mp h
    obtain rfl := Option.some.inj heq
    exact hg.of_push_skeleton (skeleton_addPresentNode source) rfl hvalid (fun _ h => by cases h)
  | destroySender i =>
    obtain ⟨-, heq⟩ := Option.ite_none_right_eq_some.mp h
    obtain rfl := Option.some.inj heq
    exact ⟨hg.wellFormed.destroySender i, hg.stateChanges, hg.dependencies⟩

theorem fresh_empty : ({} : VulkanGraph).Fresh where
  wellFormed :=
    { indices_nodup := List.nodup_nil
      indices_lt := fun _ hc => absurd hc List.not_mem_nil
      nodes := fun _ hc => absurd hc List.not_mem_nil }
  stateChanges _ hnode := absurd hnode List.not_mem_nil
  dependencies _ hnode := absurd hnode List.not_mem_nil

/-- **Every graph that is built by calls is fresh**, and hence well-formed. -/
theorem Fresh.of_reachable (h : Reachable VulkanGraph.step {} g) : g.Fresh :=
  h.invariant (fun _ _ _ hg hstep => hg.step hstep) fresh_empty

end VulkanGraph

end Teide
