import Mathlib.Data.List.Basic
import Mathlib.Data.List.Nodup
import Mathlib.Tactic.Common
import Teide.Graph.WellFormed

/-!
# What the nodes of a built graph record

A command node first brings the textures it uses in a state of their own into that state
(`prepared`), and then records its `work`. For a graph that has been built from a well-formed one,
each of those textures has a state change of the node, so the transition that the node looks up goes
from the state that the preceding access ensures (`stateBefore`) to the one that the node expects
(`expectedAt`).

The rest of the module is about `RecordCommands`: which command buffer a node records, and which
image a texture gets.
-/

namespace Teide

/-! ### Barriers and work -/

namespace CommandNode

/-- The resources that the node brings into the state it expects. -/
def prepared : CommandNode → List ResourceNodeRef
  | write node => [node.target]
  | read node => if node.expired then [] else [node.source]
  | render node => node.dependencies
  | dispatch _ | present _ => []

/-- What the node records after its barriers. -/
def work (g : VulkanGraph) (device : Device) : CommandNode → List VkCommand
  | write node =>
    match g.textureDataNodes[node.source.index]?, g.imageOf device node.target with
    | some sourceNode, some image =>
      [.copyBufferToImage image .transferDstOptimal sourceNode.data.format sourceNode.data.size]
    | _, _ => []
  | read node =>
    if node.expired then []
    else (g.textureNodes[node.source.index]?).toList.map fun sourceNode =>
      let texture := device.textures sourceNode.texture
      .copyImageToBuffer texture.image .transferSrcOptimal texture.properties.format
        texture.properties.size texture.properties.mipLevelCount
  | render node =>
    let attachments := (node.colorTarget.toList ++ node.depthStencilTarget.toList).filterMap
      (g.imageOf device)
    let renderPass := Device.createRenderPass node.renderTargetInfo.framebufferLayout
      node.renderList.clearState .attachment
    [.renderPass (renderPass.zip attachments) (node.dependencies.filterMap (g.imageOf device))]
  | dispatch _ | present _ => []

/-- What `BuildGraph` does to a command node. -/
def addDependencies (g : VulkanGraph) (device : Device) : CommandNode → CommandNode
  | render node => render (node.addDependencies g device)
  | c => c

end CommandNode

/-- The textures that a render list binds, in the order in which they are looked up. -/
def RenderNode.boundTextures (node : RenderNode) (device : Device) : List Texture :=
  node.renderList.viewParameters.textures ++ node.renderList.objects.flatMap fun obj =>
    obj.objectParameters.textures ++ device.materials obj.materialParameters

/-- The texture nodes that a render node reaches: those bound by its render list, and its targets. -/
def RenderNode.accessed (node : RenderNode) (g : VulkanGraph) (device : Device) :
    List ResourceNodeRef :=
  (node.boundTextures device).filterMap g.findTexture ++ node.colorTarget.toList ++
    node.depthStencilTarget.toList

/-- The resources that a command node accesses, in a graph that has not been built yet. -/
def CommandNode.accessed (g : VulkanGraph) (device : Device) : CommandNode → List ResourceNodeRef
  | write node => [node.target]
  | read node => [node.source]
  | render node => node.accessed g device
  | dispatch node => node.dependencies ++ node.outputs
  | present node => [node.source]

/-- Those of them that it will bring into a state that it expects. -/
def CommandNode.expects (g : VulkanGraph) (device : Device) : CommandNode → List ResourceNodeRef
  | render node => (node.boundTextures device).filterMap g.findTexture
  | c => c.prepared

namespace VulkanGraph

variable {g : VulkanGraph} {device : Device} {c : CommandNode} {ref : ResourceNodeRef} {t i : Nat}

def prepare (g : VulkanGraph) (device : Device) (nodeIndex : Nat) (ref : ResourceNodeRef) :
    List VkCommand :=
  (g.getTexture? ref).toList.flatMap (·.prepare nodeIndex device)

theorem getTexture?_of_isTexture (h : g.IsTexture ref) :
    g.getTexture? ref = g.textureNodes[ref.index]? := by
  rw [getTexture?, h.1]

theorem process_eq (hc : c.WellFormed g) :
    c.process g device = c.prepared.flatMap (g.prepare device c.index) ++ c.work g device := by
  cases c with
  | write node =>
    obtain ⟨hsource, htarget⟩ := hc
    have hdata := List.getElem?_eq_getElem hsource.2
    have htexture := List.getElem?_eq_getElem htarget.2
    simp only [CommandNode.process, WriteNode.process, CommandNode.prepared, CommandNode.work,
      CommandNode.index, imageOf, hdata, htexture, prepare, getTexture?_of_isTexture htarget,
      Option.map_some, Option.toList_some, List.flatMap_singleton]
  | read node =>
    have hsource : g.IsTexture node.source := hc
    have htexture := List.getElem?_eq_getElem hsource.2
    by_cases hexpired : node.expired = true
    · simp only [CommandNode.process, ReadNode.process, CommandNode.prepared, CommandNode.work,
        if_pos hexpired, List.flatMap_nil, List.append_nil]
    · simp only [CommandNode.process, ReadNode.process, CommandNode.prepared, CommandNode.work,
        CommandNode.index, if_neg hexpired, htexture, prepare, getTexture?_of_isTexture hsource,
        Option.toList_some, List.flatMap_singleton, List.map_cons, List.map_nil]
  | render node => rfl
  | dispatch node => rfl
  | present node => rfl

theorem barriers_work : barriers (c.work g device) = [] := by
  cases c with
  | write node =>
    unfold CommandNode.work
    dsimp only
    split <;> rfl
  | read node =>
    rw [CommandNode.work]
    split_ifs
    · rfl
    · cases g.textureNodes[node.source.index]? <;> rfl
  | render node => rfl
  | dispatch node => rfl
  | present node => rfl

theorem barriers_process (hc : c.WellFormed g) :
    barriers (c.process g device) =
      c.prepared.flatMap fun ref => barriers (g.prepare device c.index ref) := by
  rw [process_eq hc, barriers, List.filterMap_append, List.filterMap_flatMap]
  exact (congrArg _ barriers_work).trans (List.append_nil _)

theorem barriers_transition (texture : VulkanTexture) (transition : TextureStateTransition) :
    barriers (texture.transition transition) =
      if transition.new ≠ transition.old then
        [transitionImageLayout texture.image texture.properties.format
          texture.properties.mipLevelCount transition.old.layout transition.new.layout
          transition.old.lastPipelineStageUsage transition.new.lastPipelineStageUsage]
      else [] := by
  unfold VulkanTexture.transition
  split_ifs <;> rfl

theorem image_of_mem_barriers {texture : VulkanTexture} {transition : TextureStateTransition}
    {barrier : ImageMemoryBarrier} (h : barrier ∈ barriers (texture.transition transition)) :
    barrier.image = texture.image := by
  rw [barriers_transition] at h
  split_ifs at h
  · rw [List.mem_singleton.mp h]
    rfl
  · exact absurd h List.not_mem_nil

/-! ### Dependencies -/

theorem addDependencies_eq (node : RenderNode) :
    node.addDependencies g device =
      { node with
        dependencies := node.dependencies ++ (node.boundTextures device).filterMap g.findTexture } := by
  have hobjects : ∀ (objects : List RenderObject) (node' : RenderNode), objects.foldl
      (fun node obj => (node.addTextureDependencies obj.objectParameters.textures g).addTextureDependencies
        (device.materials obj.materialParameters) g) node' =
      { node' with
        dependencies := node'.dependencies ++ (objects.flatMap fun obj =>
          obj.objectParameters.textures ++
            device.materials obj.materialParameters).filterMap g.findTexture } := by
    intro objects
    induction objects with
    | nil =>
      intro node'
      simp only [List.foldl_nil, List.flatMap_nil, List.filterMap_nil, List.append_nil]
    | cons obj objects ih =>
      intro node'
      rw [List.foldl_cons, ih]
      simp only [RenderNode.addTextureDependencies, List.flatMap_cons, List.filterMap_append,
        List.append_assoc]
  rw [RenderNode.addDependencies, hobjects]
  simp only [RenderNode.addTextureDependencies, RenderNode.boundTextures, List.filterMap_append,
    List.append_assoc]

theorem commandNodes_addDependencies :
    (g.addDependencies device).commandNodes =
      g.commandNodes.map (CommandNode.addDependencies g device) := by
  simp only [commandNodes, addDependencies, List.map_append, List.map_map]
  rfl

theorem index_addDependencies : (c.addDependencies g device).index = c.index := by
  cases c with
  | render node =>
    show (node.addDependencies g device).index = node.index
    rw [addDependencies_eq]
  | _ => rfl

theorem indices_addDependencies :
    (g.addDependencies device).commandNodes.map CommandNode.index =
      g.commandNodes.map CommandNode.index := by
  rw [commandNodes_addDependencies, List.map_map]
  exact List.map_congr_left fun c _ => index_addDependencies

theorem refs_addDependencies (hg : g.Fresh) (hc : c ∈ g.commandNodes) (device : Device) :
    (c.addDependencies g device).refs = c.accessed g device := by
  cases c with
  | render node =>
    rw [CommandNode.addDependencies, addDependencies_eq,
      hg.dependencies node (render_mem_commandNodes.mp hc)]
    simp only [CommandNode.refs, CommandNode.changes, CommandNode.accessed, RenderNode.accessed,
      List.map_append, List.map_map, List.nil_append, Function.comp_def, List.map_id']
  | dispatch node =>
    simp only [CommandNode.addDependencies, CommandNode.refs, CommandNode.changes,
      CommandNode.accessed, List.map_append, List.map_map, Function.comp_def, List.map_id']
  | _ => rfl

theorem prepared_addDependencies (hg : g.Fresh) (hc : c ∈ g.commandNodes) (device : Device) :
    (c.addDependencies g device).prepared = c.expects g device := by
  cases c with
  | render node =>
    rw [CommandNode.addDependencies, addDependencies_eq,
      hg.dependencies node (render_mem_commandNodes.mp hc)]
    rfl
  | _ => rfl

theorem isTexture_of_findTexture {texture : Texture} (h : g.findTexture texture = some ref) :
    g.IsTexture ref := by
  obtain ⟨i, hi, rfl⟩ := Option.map_eq_some_iff.mp h
  exact ⟨rfl, (List.findIdx?_eq_some_iff_getElem.mp hi).choose⟩

theorem texture_of_findTexture {texture : Texture} (h : g.findTexture texture = some (textureRef t)) :
    g.textureNodes[t]?.map TextureNode.texture = some texture := by
  obtain ⟨i, hi, href⟩ := Option.map_eq_some_iff.mp h
  obtain rfl : i = t := congrArg ResourceNodeRef.index href
  obtain ⟨hlt, htexture, -⟩ := List.findIdx?_eq_some_iff_getElem.mp hi
  rw [List.getElem?_eq_getElem hlt, Option.map_some, of_decide_eq_true htexture]

theorem WellFormed.addDependencies (hg : g.WellFormed) (device : Device) :
    (g.addDependencies device).WellFormed := by
  have hle : ResourcesLE g (g.addDependencies device) := ⟨le_refl _, le_refl _⟩
  refine ⟨?_, ?_, ?_⟩
  · rw [indices_addDependencies]
    exact hg.indices_nodup
  · intro c hc
    rw [commandNodes_addDependencies] at hc
    obtain ⟨c', hc', rfl⟩ := List.mem_map.mp hc
    rw [index_addDependencies]
    exact hg.indices_lt c' hc'
  · intro c hc
    rw [commandNodes_addDependencies] at hc
    obtain ⟨c', hc', rfl⟩ := List.mem_map.mp hc
    apply hle.commandNode
    have hwf := hg.nodes c' hc'
    cases c' with
    | render node =>
      show (node.addDependencies g device).WellFormed g
      rw [addDependencies_eq]
      refine { (show node.WellFormed g from hwf) with dependencies := fun ref href => ?_ }
      rcases List.mem_append.mp href with href | href
      · exact hwf.dependencies ref href
      · obtain ⟨texture, -, hfound⟩ := List.mem_filterMap.mp href
        exact isTexture_of_findTexture hfound
    | _ => exact hwf

theorem length_foldl_registerTextures (changes : List (ResourceNodeRef × StateChange))
    (nodes : List TextureNode) : (changes.foldl registerTextures nodes).length = nodes.length := by
  induction changes generalizing nodes with
  | nil => rfl
  | cons change changes ih =>
    rw [List.foldl_cons, ih, registerTextures]
    cases change.1.type with
    | texture => exact List.length_modify _ _ _
    | textureData => rfl

theorem buildGraph_textureDataNodes :
    (g.buildGraph device).textureDataNodes = g.textureDataNodes := by
  rw [buildGraph_eq, foldl_register_eq]
  rfl

theorem buildGraph_commandNodeCount :
    (g.buildGraph device).commandNodeCount = g.commandNodeCount := by
  rw [buildGraph_eq, foldl_register_eq]
  rfl

theorem length_buildGraph_textureNodes :
    (g.buildGraph device).textureNodes.length = g.textureNodes.length := by
  rw [buildGraph_eq, foldl_register_eq]
  exact length_foldl_registerTextures _ _

theorem WellFormed.buildGraph (hg : g.WellFormed) : (g.buildGraph device).WellFormed := by
  refine WellFormed.sublist (hg.addDependencies device) ?_ ?_ ⟨?_, ?_⟩
  · exact buildGraph_commandNodeCount
  · rw [buildGraph_commandNodes]
  · rw [length_buildGraph_textureNodes]
    rfl
  · rw [buildGraph_textureDataNodes]
    rfl

/-! ### Transitions of a built graph -/

/-- The state in which the accesses before a command index leave a texture. -/
def stateBefore (g : VulkanGraph) (t nodeIndex : Nat) : TextureState :=
  match (Timeline.before StateChange.nodeIndex (g.timelineOf t) nodeIndex).getLast? with
  | some change => change.ensuredState
  | none => {}

/-- The state in which the access of a command index expects a texture. -/
def expectedAt (g : VulkanGraph) (t nodeIndex : Nat) : TextureState :=
  match (Timeline.fromOn StateChange.nodeIndex (g.timelineOf t) nodeIndex).head? with
  | some change => change.expectedState
  | none => {}

theorem prepared_sublist_refs : c.prepared.Sublist c.refs := by
  cases c with
  | write node => exact List.Sublist.refl _
  | read node =>
    rw [CommandNode.prepared]
    split_ifs
    · exact List.nil_sublist _
    · exact List.Sublist.refl _
  | render node =>
    have hdependencies : node.dependencies =
        (node.dependencies.map (·, (⟨node.index, sampledState, sampledState⟩ : StateChange))).map
          Prod.fst := by
      rw [List.map_map]
      exact (List.map_id _).symm
    rw [CommandNode.prepared, CommandNode.refs, CommandNode.changes, List.append_assoc,
      List.map_append, ← hdependencies]
    exact List.sublist_append_left _ _
  | dispatch node => exact List.nil_sublist _
  | present node => exact List.nil_sublist _

theorem isTexture_of_mem_prepared (hc : c.WellFormed g) (h : ref ∈ c.prepared) :
    g.IsTexture ref := by
  cases c with
  | write node => exact (List.mem_singleton.mp h) ▸ hc.2
  | read node => exact (List.mem_singleton.mp (prepared_sublist_refs.subset h)) ▸ hc
  | render node => exact hc.dependencies ref h
  | dispatch node => exact absurd h List.not_mem_nil
  | present node => exact absurd h List.not_mem_nil

/-- What a node prepares are texture nodes of the graph. -/
theorem exists_node_of_mem_prepared (hg : g.WellFormed)
    (hc : c ∈ (g.addDependencies device).commandNodes) (h : ref ∈ c.prepared) :
    ∃ t node, ref = textureRef t ∧ g.textureNodes[t]? = some node := by
  obtain ⟨htype, hlt⟩ := isTexture_of_mem_prepared ((hg.addDependencies device).nodes c hc) h
  obtain ⟨type, t⟩ := ref
  obtain rfl : type = .texture := htype
  exact ⟨t, _, rfl, List.getElem?_eq_getElem hlt⟩

/-- **A node looks up the transition between the states before and at its own access.** -/
theorem buildGraph_prepare (hg : g.Fresh) {node : TextureNode}
    (hnode : g.textureNodes[t]? = some node) (hc : c ∈ (g.addDependencies device).commandNodes)
    (href : textureRef t ∈ c.refs) (device' : Device) :
    (g.buildGraph device).prepare device' c.index (textureRef t) =
      (device'.textures node.texture).transition
        ⟨(g.addDependencies device).stateBefore t c.index,
          (g.addDependencies device).expectedAt t c.index⟩ := by
  obtain ⟨⟨ref, change⟩, hchange, rfl⟩ := List.mem_map.mp href
  have hmem : change ∈ (g.addDependencies device).timelineOf t := mem_timelineOf.mpr ⟨c, hc, hchange⟩
  have hindex : change.nodeIndex = c.index := CommandNode.nodeIndex_of_mem_changes hchange
  obtain ⟨first, -, hfirst, -⟩ := (timelineOf_sorted t).head?_fromOn hmem
  rw [hindex] at hfirst
  have hbuilt := buildGraph_textureNodes_getElem? hg.stateChanges device t
  rw [hnode, Option.map_some] at hbuilt
  rw [prepare]
  show List.flatMap _ ((g.buildGraph device).textureNodes[t]?).toList = _
  rw [hbuilt, Option.toList_some, List.flatMap_singleton, TextureNode.prepare,
    TextureNode.getStateTransition, hfirst, expectedAt, hfirst]
  dsimp only
  rw [Option.toList_some, List.flatMap_singleton]
  rfl

/-! ### The nodes before the graph is built -/

theorem addDependencies_mem (hc : c ∈ g.commandNodes) :
    c.addDependencies g device ∈ (g.addDependencies device).commandNodes := by
  rw [commandNodes_addDependencies]
  exact List.mem_map_of_mem hc

theorem exists_node_of_mem_expects (hg : g.Fresh) (hc : c ∈ g.commandNodes)
    (href : ref ∈ c.expects g device) :
    ∃ t node, ref = textureRef t ∧ g.textureNodes[t]? = some node := by
  rw [← prepared_addDependencies hg hc device] at href
  exact exists_node_of_mem_prepared hg.wellFormed (addDependencies_mem hc) href

theorem prepare_of_mem_expects (hg : g.Fresh) (hc : c ∈ g.commandNodes)
    (href : textureRef t ∈ c.expects g device) {node : TextureNode}
    (hnode : g.textureNodes[t]? = some node) (device' : Device) :
    (g.buildGraph device).prepare device' c.index (textureRef t) =
      (device'.textures node.texture).transition
        ⟨(g.addDependencies device).stateBefore t c.index,
          (g.addDependencies device).expectedAt t c.index⟩ := by
  rw [← prepared_addDependencies hg hc device] at href
  have hprepare := buildGraph_prepare hg hnode (addDependencies_mem hc)
    (prepared_sublist_refs.subset href) device'
  rwa [index_addDependencies] at hprepare

theorem mem_accessed_of_mem_expects (hg : g.Fresh) (hc : c ∈ g.commandNodes)
    (href : ref ∈ c.expects g device) : ref ∈ c.accessed g device := by
  rw [← prepared_addDependencies hg hc device] at href
  rw [← refs_addDependencies hg hc device]
  exact prepared_sublist_refs.subset href

/-! ### Images -/

theorem images_foldl_setWriteProperties (nodes : List WriteNode) :
    (nodes.foldl g.setWriteProperties device).images = device.images := by
  induction nodes generalizing device with
  | nil => rfl
  | cons node nodes ih =>
    rw [List.foldl_cons, ih, setWriteProperties]
    split <;> rfl

theorem images_foldl_createTexture (nodes : List TextureNode) (device : Device) :
    (nodes.foldl createTexture device).images.map ImageCreateInfo.usage =
      device.images.map ImageCreateInfo.usage ++
        nodes.map fun node => node.usage ∪ {ImageUsage.transferSrc} := by
  induction nodes generalizing device with
  | nil => simp
  | cons node nodes ih =>
    rw [List.foldl_cons, ih, List.map_cons, ← List.singleton_append, ← List.append_assoc]
    congr 1
    simp [createTexture, Device.createTextureImpl]

theorem length_images_foldl_createTexture (nodes : List TextureNode) (device : Device) :
    (nodes.foldl createTexture device).images.length = device.images.length + nodes.length := by
  have hlength := congrArg List.length (images_foldl_createTexture nodes device)
  simpa using hlength

/-- Every texture has the image of one of its nodes, the last one in fact. -/
theorem image_foldl_createTexture {nodes : List TextureNode} {node : TextureNode}
    (h : node ∈ nodes) (device : Device) : ∃ t, nodes[t]?.map TextureNode.texture = some node.texture ∧
      ((nodes.foldl createTexture device).textures node.texture).image =
        device.images.length + t := by
  induction nodes using List.reverseRecOn with
  | nil => exact absurd h List.not_mem_nil
  | append_singleton nodes last ih =>
    rw [List.foldl_append]
    show ∃ t, _ ∧ ((createTexture (nodes.foldl createTexture device) last).textures _).image = _
    by_cases hlast : node.texture = last.texture
    · refine ⟨nodes.length, by simp [hlast], ?_⟩
      simp [createTexture, Device.createTextureImpl, hlast, length_images_foldl_createTexture]
    · have hmem : node ∈ nodes := by
        rcases List.mem_append.mp h with h | h
        · exact h
        · exact absurd (congrArg TextureNode.texture (List.mem_singleton.mp h)) hlast
      obtain ⟨t, ht, himage⟩ := ih hmem
      have hlt : t < nodes.length := by
        obtain ⟨_, hnode, -⟩ := Option.map_eq_some_iff.mp ht
        exact (List.getElem?_eq_some_iff.mp hnode).choose
      refine ⟨t, by rw [List.getElem?_append_left hlt, ht], ?_⟩
      rw [← himage]
      simp [createTexture, Device.createTextureImpl, hlast]

theorem buildGraph_textures (hg : g.Fresh) (device : Device) :
    (g.buildGraph device).textureNodes.map TextureNode.texture =
      g.textureNodes.map TextureNode.texture := by
  apply List.ext_getElem?
  intro t
  rw [List.getElem?_map, buildGraph_textureNodes_getElem? hg.stateChanges device, List.getElem?_map,
    Option.map_map]
  rfl

theorem executeGraph_image_exists (hg : g.Fresh) {node : TextureNode} (h : node ∈ g.textureNodes)
    (device : Device) : ∃ t, g.textureNodes[t]?.map TextureNode.texture = some node.texture ∧
      ((g.executeGraph device).1.textures node.texture).image = device.images.length + t := by
  have htexture : node.texture ∈ (g.buildGraph device).textureNodes.map TextureNode.texture := by
    rw [buildGraph_textures hg device]
    exact List.mem_map_of_mem h
  obtain ⟨node', hnode', heq⟩ := List.mem_map.mp htexture
  obtain ⟨t, ht, himage⟩ := image_foldl_createTexture hnode'
    ((g.buildGraph device).writeNodes.foldl (g.buildGraph device).setWriteProperties device)
  rw [heq] at ht himage
  refine ⟨t, ?_, ?_⟩
  · rw [← List.getElem?_map, ← buildGraph_textures hg device, List.getElem?_map, ht]
  · rw [images_foldl_setWriteProperties] at himage
    exact himage

/-- Different textures have different images. -/
theorem executeGraph_image_inj (hg : g.Fresh) {node node' : TextureNode}
    (h : node ∈ g.textureNodes) (h' : node' ∈ g.textureNodes)
    (heq : ((g.executeGraph device).1.textures node.texture).image =
      ((g.executeGraph device).1.textures node'.texture).image) : node.texture = node'.texture := by
  obtain ⟨t, ht, himage⟩ := executeGraph_image_exists hg h device
  obtain ⟨t', ht', himage'⟩ := executeGraph_image_exists hg h' device
  have htt : t = t' := Nat.add_left_cancel (himage.symm.trans (heq.trans himage'))
  rw [← htt, ht] at ht'
  exact Option.some.inj ht'

/-- A node does not bring two texture nodes of one texture into a state: the texture nodes to sample
are found by their textures. -/
theorem prepared_texture_inj (hg : g.Fresh) (hc : c ∈ (g.addDependencies device).commandNodes)
    {t t' : Nat} (ht : textureRef t ∈ c.prepared) (ht' : textureRef t' ∈ c.prepared)
    (heq : g.textureNodes[t]?.map TextureNode.texture = g.textureNodes[t']?.map TextureNode.texture) :
    t = t' := by
  rw [commandNodes_addDependencies] at hc
  obtain ⟨c', hc', rfl⟩ := List.mem_map.mp hc
  cases c' with
  | write node =>
    have href := (List.mem_singleton.mp ht).trans (List.mem_singleton.mp ht').symm
    exact congrArg ResourceNodeRef.index href
  | read node =>
    have hsource : ∀ {ref}, ref ∈ (CommandNode.read node).prepared → ref = node.source :=
      fun h => List.mem_singleton.mp (prepared_sublist_refs.subset h)
    exact congrArg ResourceNodeRef.index ((hsource ht).trans (hsource ht').symm)
  | render node =>
    have hdependencies : (node.addDependencies g device).dependencies =
        (node.boundTextures device).filterMap g.findTexture := by
      rw [addDependencies_eq, hg.dependencies node (render_mem_commandNodes.mp hc'),
        List.nil_append]
    have hfound : ∀ {t}, textureRef t ∈ (node.addDependencies g device).dependencies →
        ∃ texture, g.findTexture texture = some (textureRef t) := by
      intro t ht
      rw [hdependencies] at ht
      obtain ⟨texture, -, htexture⟩ := List.mem_filterMap.mp ht
      exact ⟨texture, htexture⟩
    obtain ⟨texture, htexture⟩ := hfound ht
    obtain ⟨texture', htexture'⟩ := hfound ht'
    rw [texture_of_findTexture htexture, texture_of_findTexture htexture'] at heq
    rw [Option.some.inj heq, htexture'] at htexture
    exact congrArg ResourceNodeRef.index (Option.some.inj htexture).symm
  | dispatch node => exact absurd ht List.not_mem_nil
  | present node => exact absurd ht List.not_mem_nil

theorem prepared_inj (hg : g.Fresh) (hc : c ∈ (g.addDependencies device).commandNodes) {t t' : Nat}
    (ht : textureRef t ∈ c.prepared) (ht' : textureRef t' ∈ c.prepared) {node node' : TextureNode}
    (hnode : g.textureNodes[t]? = some node) (hnode' : g.textureNodes[t']? = some node')
    (heq : ((g.executeGraph device).1.textures node.texture).image =
      ((g.executeGraph device).1.textures node'.texture).image) : t = t' := by
  have htextures := executeGraph_image_inj hg (List.mem_of_getElem? hnode)
    (List.mem_of_getElem? hnode') heq
  apply prepared_texture_inj hg hc ht ht'
  rw [hnode, hnode', Option.map_some, Option.map_some, htextures]

theorem expects_inj (hg : g.Fresh) (hc : c ∈ g.commandNodes) {t t' : Nat}
    (ht : textureRef t ∈ c.expects g device) (ht' : textureRef t' ∈ c.expects g device)
    {node node' : TextureNode} (hnode : g.textureNodes[t]? = some node)
    (hnode' : g.textureNodes[t']? = some node')
    (heq : ((g.executeGraph device).1.textures node.texture).image =
      ((g.executeGraph device).1.textures node'.texture).image) : t = t' := by
  rw [← prepared_addDependencies hg hc device] at ht ht'
  exact prepared_inj hg (addDependencies_mem hc) ht ht' hnode hnode' heq

/-- Where no texture has two nodes, the images are those created for the nodes, in their order. -/
theorem executeGraph_image (hg : g.Fresh) (hdistinct : (g.textureNodes.map TextureNode.texture).Nodup)
    {node : TextureNode} (hnode : g.textureNodes[t]? = some node) (device : Device) :
    ((g.executeGraph device).1.textures node.texture).image = device.images.length + t := by
  obtain ⟨t', ht', himage⟩ := executeGraph_image_exists hg (List.mem_of_getElem? hnode) device
  rw [himage]
  have hmap : (g.textureNodes.map TextureNode.texture)[t]? = some node.texture := by
    rw [List.getElem?_map, hnode, Option.map_some]
  rw [← List.getElem?_map] at ht'
  obtain ⟨hlt, _⟩ := List.getElem?_eq_some_iff.mp hmap
  rw [(List.getElem?_inj hlt hdistinct).mp (hmap.trans ht'.symm)]

/-- The images are those of the graph before it has been built. -/
theorem executeGraph_device (hg : g.Fresh) (device : Device) :
    (g.executeGraph device).1 = g.createTextures device := by
  have hbuilt := buildGraph_textureNodes_getElem? hg.stateChanges device
  have hproperties : (g.buildGraph device).setWriteProperties = g.setWriteProperties := by
    funext device' node
    rw [setWriteProperties, setWriteProperties, buildGraph_textureDataNodes, hbuilt]
    cases g.textureNodes[node.target.index]? with
    | none => rfl
    | some targetNode => cases g.textureDataNodes[node.source.index]? <;> rfl
  have hwrites : (g.buildGraph device).writeNodes = g.writeNodes := by
    rw [buildGraph_eq, foldl_register_eq]
    rfl
  have hnodes : (g.buildGraph device).textureNodes.map
      (fun node => ({ texture := node.texture, usage := node.usage } : TextureNode)) =
      g.textureNodes.map fun node => { texture := node.texture, usage := node.usage } := by
    apply List.ext_getElem?
    intro t
    rw [List.getElem?_map, hbuilt, List.getElem?_map, Option.map_map]
    rfl
  have hcreate : ∀ (nodes : List TextureNode) (device' : Device), nodes.foldl createTexture device' =
      (nodes.map fun node => ({ texture := node.texture, usage := node.usage } : TextureNode)).foldl
        createTexture device' := by
    intro nodes device'
    rw [List.foldl_map]
    rfl
  show (g.buildGraph device).createTextures device = _
  rw [createTextures, createTextures, hproperties, hwrites, hcreate, hnodes, ← hcreate]

/-! ### Command buffers -/

section Set

variable {ι β : Type*} (key : ι → Nat) (value : ι → β) {l : List ι}

theorem length_foldl_set (buffers : List β) :
    (l.foldl (fun buffers a => buffers.set (key a) (value a)) buffers).length = buffers.length := by
  induction l generalizing buffers with
  | nil => rfl
  | cons a l ih => rw [List.foldl_cons, ih, List.length_set]

theorem foldl_set_getElem?_of_forall_ne {k : Nat} (hk : ∀ a ∈ l, key a ≠ k) (buffers : List β) :
    (l.foldl (fun buffers a => buffers.set (key a) (value a)) buffers)[k]? = buffers[k]? := by
  induction l generalizing buffers with
  | nil => rfl
  | cons a l ih =>
    rw [List.foldl_cons, ih fun b hb => hk b (List.mem_cons_of_mem a hb),
      List.getElem?_set_ne (hk a List.mem_cons_self)]

theorem foldl_set_getElem?_of_mem (hnodup : (l.map key).Nodup) {a : ι} (ha : a ∈ l)
    {buffers : List β} (hlt : key a < buffers.length) :
    (l.foldl (fun buffers a => buffers.set (key a) (value a)) buffers)[key a]? =
      some (value a) := by
  induction l generalizing buffers with
  | nil => exact absurd ha List.not_mem_nil
  | cons b l ih =>
    rw [List.map_cons, List.nodup_cons] at hnodup
    rw [List.foldl_cons]
    rcases List.mem_cons.mp ha with rfl | ha
    · have hne : ∀ b ∈ l, key b ≠ key a := by
        intro b hb heq
        apply hnodup.1
        rw [← heq]
        exact List.mem_map_of_mem hb
      rw [foldl_set_getElem?_of_forall_ne key value hne, List.getElem?_set_self hlt]
    · exact ih hnodup.2 ha (by rwa [List.length_set])

end Set

/-- The command buffers, written out. -/
theorem cmdBuffers_eq : (g.executeGraph device).2 =
    (g.buildGraph device).commandNodes.foldl (fun buffers c =>
      buffers.set c.index (c.process (g.buildGraph device) (g.executeGraph device).1))
        (List.replicate (g.buildGraph device).commandNodeCount []) := by
  unfold executeGraph recordCommands
  rfl

theorem length_cmdBuffers : (g.executeGraph device).2.length = g.commandNodeCount := by
  rw [cmdBuffers_eq, length_foldl_set CommandNode.index, List.length_replicate,
    buildGraph_commandNodeCount]

theorem cmdBuffers_getElem? (hg : g.WellFormed)
    (hc : c ∈ (g.addDependencies device).commandNodes) :
    (g.executeGraph device).2[c.index]? =
      some (c.process (g.buildGraph device) (g.executeGraph device).1) := by
  have hbuilt : (g.buildGraph device).WellFormed := hg.buildGraph
  rw [← buildGraph_commandNodes] at hc
  rw [cmdBuffers_eq]
  refine foldl_set_getElem?_of_mem CommandNode.index _ hbuilt.indices_nodup hc ?_
  rw [List.length_replicate]
  exact hbuilt.indices_lt c hc

theorem cmdBuffers_getElem?_of_unused {k : Nat} (hlt : k < g.commandNodeCount)
    (hk : ∀ c ∈ (g.addDependencies device).commandNodes, c.index ≠ k) :
    (g.executeGraph device).2[k]? = some [] := by
  rw [← buildGraph_commandNodes] at hk
  rw [cmdBuffers_eq, foldl_set_getElem?_of_forall_ne CommandNode.index _ hk, List.getElem?_replicate,
    buildGraph_commandNodeCount, if_pos hlt]

end VulkanGraph

end Teide
