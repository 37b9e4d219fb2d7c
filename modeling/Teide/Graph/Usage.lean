import Mathlib.Data.Finset.Insert
import Mathlib.Tactic.Common
import Teide.Graph.Process

/-!
# The usages that images are created with

The usages of a texture are collected while the graph is being put together, by the `Add*Node`
functions. What a render node samples is only found out by `BuildGraph`, which adds no usage. So the
image of a texture is created with the usages that the graph makes of it exactly if everything that
render nodes sample is an input of some dispatch node as well (`created_for_uses_iff`).
-/

namespace Teide

open Runs

/-- The usages that a command node makes of resources. -/
def CommandNode.usages : CommandNode → List (ResourceNodeRef × ImageUsage)
  | write node => [(node.target, .transferDst)]
  | read node => [(node.source, .transferSrc)]
  | render node =>
    node.dependencies.map (·, .sampled) ++ node.colorTarget.toList.map (·, .colorAttachment) ++
      node.depthStencilTarget.toList.map (·, .depthStencilAttachment)
  | dispatch node => node.dependencies.map (·, .sampled) ++ node.outputs.map (·, .storage)
  | present _ => []

namespace VulkanGraph

variable {g g' g'' : VulkanGraph} {device : Device} {c : CommandNode} {ref : ResourceNodeRef}
  {t : Nat} {u : ImageUsage} {uses uses' : List (ResourceNodeRef × ImageUsage)}

/-- Every image is created with all usages that the command nodes make of its texture node: the image
of node `t` is the one created after `t` others. -/
def CreatedForUses (g : VulkanGraph) (device : Device) : Prop :=
  ∀ c ∈ (g.buildGraph device).commandNodes, ∀ t u, (textureRef t, u) ∈ c.usages →
    ∃ info, (g.executeGraph device).1.images[device.images.length + t]? = some info ∧ u ∈ info.usage

/-- Every texture node that a render list binds is an input of a dispatch node. -/
def SampledByDispatch (g : VulkanGraph) (device : Device) : Prop :=
  ∀ node ∈ g.renderNodes, ∀ ref ∈ (node.boundTextures device).filterMap g.findTexture,
    ∃ dispatch ∈ g.dispatchNodes, ref ∈ dispatch.dependencies

instance : Decidable (g.SampledByDispatch device) := inferInstanceAs (Decidable (∀ _ ∈ _, _))

/-! ### Collecting usages -/

/-- The texture nodes of `g'` are those of `g`, with some usages added. -/
def Adds (g g' : VulkanGraph) (uses : List (ResourceNodeRef × ImageUsage)) : Prop :=
  ∀ t node', g'.textureNodes[t]? = some node' → ∃ node, g.textureNodes[t]? = some node ∧
    ∀ u, u ∈ node'.usage ↔ u ∈ node.usage ∨ (textureRef t, u) ∈ uses

theorem Adds.of_textureNodes_eq (h : g'.textureNodes = g.textureNodes) : Adds g g' [] := by
  intro t node' hnode'
  rw [h] at hnode'
  exact ⟨node', hnode', fun u => by simp⟩

theorem Adds.trans (h : Adds g g' uses) (h' : Adds g' g'' uses') : Adds g g'' (uses ++ uses') := by
  intro t node'' hnode''
  obtain ⟨node', hnode', hu'⟩ := h' t node'' hnode''
  obtain ⟨node, hnode, hu⟩ := h t node' hnode'
  exact ⟨node, hnode, fun u => by rw [hu', hu, List.mem_append, or_assoc]⟩

theorem Adds.foldl {ι : Type*} {f : VulkanGraph → ι → VulkanGraph}
    {usesOf : ι → List (ResourceNodeRef × ImageUsage)} (hf : ∀ g i, Adds g (f g i) (usesOf i))
    (l : List ι) : Adds g (l.foldl f g) (l.flatMap usesOf) := by
  induction l generalizing g with
  | nil => exact Adds.of_textureNodes_eq rfl
  | cons i l ih => exact (hf g i).trans ih

theorem adds_addUsage (g : VulkanGraph) (ref : ResourceNodeRef) (u : ImageUsage) :
    Adds g (g.addUsage ref {u}) [(ref, u)] := by
  intro t node' hnode'
  obtain ⟨type, i⟩ := ref
  cases type with
  | textureData =>
    refine ⟨node', hnode', fun u' => ?_⟩
    simp [textureRef]
  | texture =>
    have hmodify := List.getElem?_modify
      (fun node : TextureNode => { node with usage := node.usage ∪ {u} }) i g.textureNodes t
    rw [show (g.addUsage ⟨.texture, i⟩ {u}).textureNodes = g.textureNodes.modify i
      fun node => { node with usage := node.usage ∪ {u} } from rfl, hmodify] at hnode'
    obtain ⟨node, hnode, rfl⟩ := Option.map_eq_some_iff.mp hnode'
    refine ⟨node, hnode, fun u' => ?_⟩
    by_cases hi : i = t
    · simp [hi, textureRef, or_comm]
    · simp [hi, textureRef, Ne.symm hi]

theorem adds_setSource (g : VulkanGraph) (ref : ResourceNodeRef) (source : CommandNodeRef) :
    Adds g (g.setSource ref source) [] := by
  obtain ⟨type, i⟩ := ref
  cases type with
  | textureData => exact Adds.of_textureNodes_eq rfl
  | texture =>
    intro t node' hnode'
    have hmodify := List.getElem?_modify
      (fun node : TextureNode => { node with source := source }) i g.textureNodes t
    rw [show (g.setSource ⟨.texture, i⟩ source).textureNodes = g.textureNodes.modify i
      fun node => { node with source := source } from rfl, hmodify] at hnode'
    obtain ⟨node, hnode, rfl⟩ := Option.map_eq_some_iff.mp hnode'
    refine ⟨node, hnode, fun u' => ?_⟩
    by_cases hi : i = t
    · simp [hi]
    · simp [hi]

theorem adds_addWriteNode (source target : ResourceNodeRef) :
    Adds g (g.addWriteNode source target).2 [(target, .transferDst)] :=
  (adds_addUsage g target .transferDst).trans
    ((Adds.of_textureNodes_eq rfl).trans (adds_setSource _ target _))

theorem adds_addReadNode (source : ResourceNodeRef) :
    Adds g (g.addReadNode source) [(source, .transferSrc)] :=
  (adds_addUsage g source .transferSrc).trans (Adds.of_textureNodes_eq rfl)

theorem adds_addDispatchNode (inputs outputs : List ResourceNodeRef) :
    Adds g (g.addDispatchNode inputs outputs).2
      (inputs.map (·, .sampled) ++ outputs.map (·, .storage)) := by
  have hinputs : ∀ g : VulkanGraph, Adds g
      (inputs.foldl (fun g input => g.addUsage input {.sampled}) g) (inputs.map (·, .sampled)) := by
    intro g
    rw [← List.flatMap_pure_eq_map]
    exact Adds.foldl (fun g ref => adds_addUsage g ref .sampled) inputs
  have houtputs : ∀ (g : VulkanGraph) (r : CommandNodeRef), Adds g
      (outputs.foldl (fun g output => (g.addUsage output {.storage}).setSource output r) g)
      (outputs.map (·, .storage)) := by
    intro g r
    rw [← List.flatMap_pure_eq_map]
    exact Adds.foldl (fun g ref =>
      (adds_addUsage g ref .storage).trans (adds_setSource _ ref r)) outputs
  have hpush : Adds g (g.push (.dispatch ⟨g.commandNodeCount, inputs, outputs⟩)) [] :=
    Adds.of_textureNodes_eq rfl
  exact (hpush.trans (hinputs _)).trans (houtputs _ ⟨.dispatch, _⟩)

theorem adds_addTarget (properties : Texture → TextureProperties) (r : CommandNodeRef)
    (u : ImageUsage) (setFormat : Format → FramebufferLayout → FramebufferLayout)
    (target : Option ResourceNodeRef) (gi : VulkanGraph × RenderTargetInfo) :
    Adds gi.1 (addTarget properties r {u} setFormat target gi).1 (target.toList.map (·, u)) := by
  cases target with
  | none => exact Adds.of_textureNodes_eq rfl
  | some ref => exact (adds_addUsage gi.1 ref u).trans (adds_setSource _ ref r)

theorem adds_addRenderNode (properties : Texture → TextureProperties) (renderList : RenderList)
    (colorTarget depthStencilTarget : Option ResourceNodeRef) :
    Adds g (g.addRenderNode properties renderList colorTarget depthStencilTarget).2
      (colorTarget.toList.map (·, .colorAttachment) ++
        depthStencilTarget.toList.map (·, .depthStencilAttachment)) := by
  have hcolor := adds_addTarget properties ⟨.render, g.renderNodes.length⟩ .colorAttachment
    (fun format layout => { layout with colorFormat := some format }) colorTarget (g, {})
  have hdepth := adds_addTarget properties ⟨.render, g.renderNodes.length⟩ .depthStencilAttachment
    (fun format layout => { layout with depthStencilFormat := some format }) depthStencilTarget
    (addColorTarget properties ⟨.render, g.renderNodes.length⟩ colorTarget (g, {}))
  have hpush : Adds (addDepthStencilTarget properties ⟨.render, g.renderNodes.length⟩
      depthStencilTarget (addColorTarget properties ⟨.render, g.renderNodes.length⟩ colorTarget
        (g, {}))).1 (g.addRenderNode properties renderList colorTarget depthStencilTarget).2 [] :=
    Adds.of_textureNodes_eq rfl
  have hall := (hcolor.trans hdepth).trans hpush
  rwa [List.append_nil] at hall

/-! ### Collected usages -/

/-- Texture nodes have the usages that the command nodes make of them. -/
def Collected (g : VulkanGraph) : Prop :=
  ∀ t node, g.textureNodes[t]? = some node →
    ∀ u, u ∈ node.usage ↔ ∃ c ∈ g.commandNodes, (textureRef t, u) ∈ c.usages

theorem isTexture_of_mem_usages (hc : c.WellFormed g) (h : (textureRef t, u) ∈ c.usages) :
    t < g.textureNodes.length := by
  have hvalid : ∀ use ∈ c.usages, g.IsTexture use.1 ∨ g.IsTextureData use.1 := by
    intro use huse
    cases c with
    | write node =>
      rw [List.mem_singleton.mp huse]
      exact Or.inl hc.2
    | read node =>
      rw [List.mem_singleton.mp huse]
      exact Or.inl hc
    | render node =>
      simp only [CommandNode.usages, List.mem_append, List.mem_map, Option.mem_toList] at huse
      rcases huse with (⟨ref, href, rfl⟩ | ⟨ref, href, rfl⟩) | ⟨ref, href, rfl⟩
      · exact Or.inl (hc.dependencies ref href)
      · exact Or.inl (hc.color ref href)
      · exact Or.inl (hc.depthStencil ref href)
    | dispatch node =>
      simp only [CommandNode.usages, List.mem_append, List.mem_map] at huse
      rcases huse with ⟨ref, href, rfl⟩ | ⟨ref, href, rfl⟩
      · exact hc ref (List.mem_append_left _ href)
      · exact hc ref (List.mem_append_right _ href)
    | present node => exact absurd huse List.not_mem_nil
  rcases hvalid _ h with htexture | hdata
  · exact htexture.2
  · exact absurd hdata.1 (by simp [textureRef])

theorem Collected.add (hg : g.Collected) (hnodes : g'.skeleton = g.skeleton.push c)
    (hadds : Adds g g' c.usages) : g'.Collected := by
  intro t node' hnode' u
  obtain ⟨node, hnode, hu⟩ := hadds t node' hnode'
  have hmem : ∀ c', c' ∈ g'.commandNodes ↔ c' = c ∨ c' ∈ g.commandNodes := by
    intro c'
    show c' ∈ g'.skeleton.commandNodes ↔ _
    rw [hnodes]
    exact mem_commandNodes_push
  rw [hu, hg t node hnode]
  constructor
  · rintro (⟨c', hc', huse⟩ | huse)
    · exact ⟨c', (hmem c').mpr (Or.inr hc'), huse⟩
    · exact ⟨c, (hmem c).mpr (Or.inl rfl), huse⟩
  · rintro ⟨c', hc', huse⟩
    rcases (hmem c').mp hc' with rfl | hc'
    · exact Or.inr huse
    · exact Or.inl ⟨c', hc', huse⟩

theorem Collected.step (hg : g.Collected) (hwf : g.WellFormed) {call : Call}
    (h : g.step call = some g') : g'.Collected := by
  cases call with
  | addTextureNode texture =>
    obtain rfl := Option.some.inj h
    intro t node hnode u
    by_cases ht : t < g.textureNodes.length
    · have hold : g.textureNodes[t]? = some node :=
        (List.getElem?_append_left ht).symm.trans hnode
      exact hg t node hold u
    · have hnew : node ∈ [({ texture := texture } : TextureNode)] := by
        have hright : (g.textureNodes ++ [({ texture := texture } : TextureNode)])[t]? =
            [({ texture := texture } : TextureNode)][t - g.textureNodes.length]? :=
          List.getElem?_append_right (not_lt.mp ht)
        exact List.mem_of_getElem? (hright.symm.trans hnode)
      rw [List.mem_singleton.mp hnew]
      refine iff_of_false (Finset.notMem_empty u) ?_
      rintro ⟨c, hc, huse⟩
      exact ht (isTexture_of_mem_usages (hwf.nodes c hc) huse)
  | addTextureDataNode data =>
    obtain rfl := Option.some.inj h
    exact hg
  | addWriteNode source target =>
    obtain ⟨-, heq⟩ := Option.ite_none_right_eq_some.mp h
    obtain rfl := Option.some.inj heq
    exact hg.add (skeleton_addWriteNode source target) (adds_addWriteNode source target)
  | addReadNode source =>
    obtain ⟨-, heq⟩ := Option.ite_none_right_eq_some.mp h
    obtain rfl := Option.some.inj heq
    exact hg.add (skeleton_addReadNode source) (adds_addReadNode source)
  | addRenderNode properties renderList colorTarget depthStencilTarget =>
    obtain ⟨-, heq⟩ := Option.ite_none_right_eq_some.mp h
    obtain rfl := Option.some.inj heq
    exact hg.add (skeleton_addRenderNode properties renderList colorTarget depthStencilTarget)
      (adds_addRenderNode properties renderList colorTarget depthStencilTarget)
  | addDispatchNode inputs outputs =>
    obtain ⟨-, heq⟩ := Option.ite_none_right_eq_some.mp h
    obtain rfl := Option.some.inj heq
    exact hg.add (skeleton_addDispatchNode inputs outputs) (adds_addDispatchNode inputs outputs)
  | addPresentNode source =>
    obtain ⟨-, heq⟩ := Option.ite_none_right_eq_some.mp h
    obtain rfl := Option.some.inj heq
    exact hg.add (skeleton_addPresentNode source) (Adds.of_textureNodes_eq rfl)
  | destroySender i =>
    obtain ⟨-, heq⟩ := Option.ite_none_right_eq_some.mp h
    obtain rfl := Option.some.inj heq
    have huses := destroySender_commandNodes_map (g := g) CommandNode.usages (fun _ => rfl) i
    intro t node hnode u
    rw [hg t node hnode, ← List.mem_flatMap, ← List.mem_flatMap, List.flatMap_def, List.flatMap_def,
      huses]

/-- In a graph that is built by calls, usages are the ones that the command nodes make. -/
theorem Collected.of_reachable (h : Reachable VulkanGraph.step {} g) : g.Collected := by
  have hboth := Reachable.invariant (I := fun g => g.Fresh ∧ g.Collected) h
    (fun s a s' hs hstep => ⟨hs.1.step hstep, hs.2.step hs.1.wellFormed hstep⟩)
    ⟨fresh_empty, fun t node hnode => by simp at hnode⟩
  exact hboth.2

/-! ### Created images -/

theorem executeGraph_images_usage (hg : g.Fresh) (device : Device) (t : Nat) :
    (g.executeGraph device).1.images[device.images.length + t]?.map ImageCreateInfo.usage =
      g.textureNodes[t]?.map fun node => node.usage ∪ {.transferSrc} := by
  have himages := images_foldl_createTexture (g.buildGraph device).textureNodes
    ((g.buildGraph device).writeNodes.foldl (g.buildGraph device).setWriteProperties device)
  rw [images_foldl_setWriteProperties] at himages
  have hright : ((g.executeGraph device).1.images.map ImageCreateInfo.usage)[
      device.images.length + t]? =
        ((g.buildGraph device).textureNodes.map fun node => node.usage ∪ {.transferSrc})[t]? := by
    rw [show (g.executeGraph device).1.images.map ImageCreateInfo.usage = _ from himages,
      List.getElem?_append_right (by simp), List.length_map, Nat.add_sub_cancel_left]
  rw [List.getElem?_map, List.getElem?_map, buildGraph_textureNodes_getElem? hg.stateChanges,
    Option.map_map] at hright
  exact hright

theorem created_iff (hg : g.Fresh) {node : TextureNode} (hnode : g.textureNodes[t]? = some node) :
    (∃ info, (g.executeGraph device).1.images[device.images.length + t]? = some info ∧
      u ∈ info.usage) ↔ u ∈ node.usage ∨ u = .transferSrc := by
  have husage := executeGraph_images_usage hg device t
  rw [hnode, Option.map_some] at husage
  obtain ⟨info, hinfo, heq⟩ := Option.map_eq_some_iff.mp husage
  have hmem : u ∈ info.usage ↔ u ∈ node.usage ∨ u = .transferSrc := by
    rw [heq, Finset.mem_union, Finset.mem_singleton]
  rw [← hmem, hinfo]
  constructor
  · rintro ⟨info', hinfo', hu⟩
    rwa [Option.some.inj hinfo']
  · intro hu
    exact ⟨info, rfl, hu⟩

/-- `BuildGraph` adds to the uses that a render node samples what its render list binds. -/
theorem mem_usages_addDependencies {use : ResourceNodeRef × ImageUsage} :
    use ∈ (c.addDependencies g device).usages ↔ use ∈ c.usages ∨ ∃ node, c = .render node ∧
      use.1 ∈ (node.boundTextures device).filterMap g.findTexture ∧ use.2 = .sampled := by
  obtain ⟨ref, u⟩ := use
  cases c with
  | render node =>
    have hmap : ∀ (refs : List ResourceNodeRef) (v : ImageUsage),
        (ref, u) ∈ refs.map (·, v) ↔ ref ∈ refs ∧ u = v := by
      intro refs v
      simp [eq_comm]
    rw [CommandNode.addDependencies, addDependencies_eq]
    simp only [CommandNode.usages, List.map_append, List.mem_append, hmap, CommandNode.render.injEq,
      exists_eq_left']
    tauto
  | _ => simp [CommandNode.addDependencies]

/-- **Images are created for their uses exactly if everything that render nodes sample is a dispatch
input as well**: for the other uses, the `Add*Node` functions collect the usage. -/
theorem created_for_uses_iff (h : Reachable VulkanGraph.step {} g) (device : Device) :
    g.CreatedForUses device ↔ g.SampledByDispatch device := by
  have hg := Fresh.of_reachable h
  have hcollected := Collected.of_reachable h
  have hsampled : ∀ {ref}, (∃ c ∈ g.commandNodes, (ref, .sampled) ∈ c.usages) ↔
      ∃ dispatch ∈ g.dispatchNodes, ref ∈ dispatch.dependencies := by
    intro ref
    constructor
    · rintro ⟨c, hc, huse⟩
      cases c with
      | render node =>
        have hfresh := hg.dependencies node (render_mem_commandNodes.mp hc)
        simp [CommandNode.usages, hfresh] at huse
      | dispatch node =>
        refine ⟨node, dispatch_mem_commandNodes.mp hc, ?_⟩
        simpa [CommandNode.usages] using huse
      | _ => simp [CommandNode.usages] at huse
    · rintro ⟨dispatch, hdispatch, href⟩
      exact ⟨.dispatch dispatch, dispatch_mem_commandNodes.mpr hdispatch,
        List.mem_append_left _ (List.mem_map_of_mem href)⟩
  constructor
  · intro hcreated node hnode ref href
    have hrender := render_mem_commandNodes.mpr hnode
    have huse : (ref, ImageUsage.sampled) ∈
        ((CommandNode.render node).addDependencies g device).usages :=
      mem_usages_addDependencies.mpr (Or.inr ⟨node, rfl, href, rfl⟩)
    have hmem : (CommandNode.render node).addDependencies g device ∈
        (g.buildGraph device).commandNodes := by
      rw [buildGraph_commandNodes, commandNodes_addDependencies]
      exact List.mem_map_of_mem hrender
    obtain ⟨texture, -, hfound⟩ := List.mem_filterMap.mp href
    obtain ⟨htype, hlt⟩ := isTexture_of_findTexture hfound
    obtain ⟨type, t⟩ := ref
    obtain rfl : type = .texture := htype
    have hnode := List.getElem?_eq_getElem hlt
    have hcreated := (created_iff hg hnode).mp (hcreated _ hmem t .sampled huse)
    rcases hcreated with hcreated | hcreated
    · exact hsampled.mp ((hcollected t _ hnode _).mp hcreated)
    · exact absurd hcreated (by decide)
  · intro hinputs c hc t u huse
    rw [buildGraph_commandNodes] at hc
    have hlt := isTexture_of_mem_usages ((hg.wellFormed.addDependencies device).nodes c hc) huse
    have hnode := List.getElem?_eq_getElem hlt
    refine (created_iff hg hnode).mpr (Or.inl ((hcollected t _ hnode u).mpr ?_))
    rw [commandNodes_addDependencies] at hc
    obtain ⟨c', hc', rfl⟩ := List.mem_map.mp hc
    rcases mem_usages_addDependencies.mp huse with huse | ⟨node, rfl, href, rfl⟩
    · exact ⟨c', hc', huse⟩
    · exact hsampled.mpr (hinputs node (render_mem_commandNodes.mp hc') _ href)

theorem created_for_uses_with_dispatch : ∃ g,
    exec VulkanGraph.step {} (writeRenderRead ++ [.addDispatchNode [textureRef 0] []]) = some g ∧
      g.CreatedForUses {} :=
  ⟨_, rfl, (created_for_uses_iff ⟨writeRenderRead ++ [.addDispatchNode [textureRef 0] []], rfl⟩
    {}).mpr (by decide)⟩

/-- The texture that the render node samples is created to be the target and the source of
transfers. -/
theorem sampled_created_for_transfers : ∃ g,
    exec VulkanGraph.step {} writeRenderRead = some g ∧ ¬ g.CreatedForUses {} ∧
      (g.executeGraph {}).1.images[0]?.map ImageCreateInfo.usage =
        some {.transferDst, .transferSrc} := by
  refine ⟨_, rfl, fun h => ?_, by decide⟩
  -- the render node is the second one in the order of the node lists, after the write and the read
  have hrender := h _ (List.mem_of_getElem? (i := 2) rfl) 0 .sampled (by decide)
  obtain ⟨info, hinfo, hsampled⟩ := hrender
  rw [← Option.some.inj hinfo] at hsampled
  exact absurd hsampled (by decide)

end VulkanGraph

end Teide
