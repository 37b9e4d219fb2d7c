import Mathlib.Data.List.Count
import Mathlib.Data.List.Nodup
import Mathlib.Tactic.Common
import Teide.Graph.Process

/-!
# One state change and one barrier for each texture and command node

A texture's state changes are looked up by command index, so there should be one at most for each
command node. `BuildGraph` registers one for each way in which a node reaches a texture, and does
not check whether the node has reached it before: a render list that binds a texture twice gives two
state changes with the same index, and `Process` records the same barrier twice.

Hence indices and barriers are unique exactly if no node reaches a texture twice
(`one_each_iff_accessed_once`).
-/

namespace Teide

open Runs

def DispatchNode.accessed (node : DispatchNode) : List ResourceNodeRef :=
  (node.dependencies ++ node.outputs).filter fun ref => ref.type = .texture

namespace VulkanGraph

variable {g : VulkanGraph} {device : Device} {c : CommandNode} {ref : ResourceNodeRef} {t : Nat}

/-- No texture has two state changes of one command node. -/
def OneChangeEach (g : VulkanGraph) : Prop :=
  ∀ node ∈ g.textureNodes, (node.stateChanges.map StateChange.nodeIndex).Nodup

def barrierImages (cmdBuffer : List VkCommand) : List Image :=
  (barriers cmdBuffer).map ImageMemoryBarrier.image

/-- No command buffer has two barriers for one image. -/
def OneBarrierEach (cmdBuffers : List (List VkCommand)) : Prop :=
  ∀ cmdBuffer ∈ cmdBuffers, (barrierImages cmdBuffer).Nodup

/-- No command node reaches a texture node twice. -/
def AccessedOnce (g : VulkanGraph) (device : Device) : Prop :=
  (∀ node ∈ g.renderNodes, (node.accessed g device).Nodup) ∧
    ∀ node ∈ g.dispatchNodes, node.accessed.Nodup

/-! ### State changes -/

theorem map_nodeIndex_changesOf {changes : List (ResourceNodeRef × StateChange)} {i : Nat}
    (h : ∀ change ∈ changes, change.2.nodeIndex = i) :
    (changesOf t changes).map StateChange.nodeIndex =
      List.replicate ((changes.map Prod.fst).count (textureRef t)) i := by
  induction changes with
  | nil => rfl
  | cons change changes ih =>
    have hhead := h change List.mem_cons_self
    have ih := ih fun change' hmem => h change' (List.mem_cons_of_mem change hmem)
    rw [changesOf] at ih ⊢
    rw [List.map_cons, List.filterMap_cons]
    by_cases href : change.1 = textureRef t
    · rw [if_pos href, href, List.count_cons_self, List.replicate_succ, List.map_cons, ih, hhead]
    · rw [if_neg href, List.count_cons_of_ne href, ih]

/-- The indices in a timeline are distinct exactly if each node registers one change at most. -/
theorem timelineOf_nodup_iff (hg : g.WellFormed) :
    ((g.timelineOf t).map StateChange.nodeIndex).Nodup ↔
      ∀ c ∈ g.commandNodes, c.refs.count (textureRef t) ≤ 1 := by
  have hperm : ((g.timelineOf t).map StateChange.nodeIndex).Perm
      (g.commandNodes.flatMap fun c => List.replicate (c.refs.count (textureRef t)) c.index) := by
    refine ((Timeline.ofList_perm _).map _).trans (List.Perm.of_eq ?_)
    rw [changesOf, registrations, List.filterMap_flatMap, List.map_flatMap]
    exact List.flatMap_congr fun c _ =>
      map_nodeIndex_changesOf fun change => CommandNode.nodeIndex_of_mem_changes
  rw [hperm.nodup_iff, List.nodup_flatMap]
  simp only [List.nodup_replicate]
  refine and_iff_left ?_
  have hindices := List.pairwise_map.mp hg.indices_nodup
  refine hindices.imp fun {c c'} hne i hi hi' => ?_
  exact hne ((List.eq_of_mem_replicate hi).symm.trans (List.eq_of_mem_replicate hi'))

/-- The texture nodes of the built graph have the timelines as their state changes. -/
theorem oneChangeEach_iff_timelineOf (hg : g.Fresh) :
    (g.buildGraph device).OneChangeEach ↔ ∀ t < g.textureNodes.length,
      (((g.addDependencies device).timelineOf t).map StateChange.nodeIndex).Nodup := by
  have hbuilt := buildGraph_textureNodes_getElem? hg.stateChanges device
  unfold OneChangeEach
  constructor
  · intro h t ht
    have hnode := hbuilt t
    rw [List.getElem?_eq_getElem ht, Option.map_some] at hnode
    have hnodup := h _ (List.mem_of_getElem? hnode)
    exact hnodup
  · intro h node hnode
    obtain ⟨t, ht⟩ := List.mem_iff_getElem?.mp hnode
    rw [hbuilt] at ht
    obtain ⟨node', hnode', rfl⟩ := Option.map_eq_some_iff.mp ht
    obtain ⟨hlt, -⟩ := List.getElem?_eq_some_iff.mp hnode'
    exact h t hlt

theorem oneChangeEach_iff_count (hg : g.Fresh) :
    (g.buildGraph device).OneChangeEach ↔ ∀ t < g.textureNodes.length,
      ∀ c ∈ (g.addDependencies device).commandNodes, c.refs.count (textureRef t) ≤ 1 := by
  have hwf := hg.wellFormed.addDependencies device
  rw [oneChangeEach_iff_timelineOf hg]
  exact forall₂_congr fun t _ => timelineOf_nodup_iff hwf

/-! ### What the nodes reach -/

theorem mem_accessed_isTexture {node : RenderNode} (hnode : node.WellFormed g)
    (h : ref ∈ node.accessed g device) : g.IsTexture ref := by
  simp only [RenderNode.accessed, List.mem_append, Option.mem_toList, List.mem_filterMap] at h
  rcases h with (⟨texture, -, hfound⟩ | href) | href
  · exact isTexture_of_findTexture hfound
  · exact hnode.color ref href
  · exact hnode.depthStencil ref href

theorem nodup_iff_count_textureRef {refs : List ResourceNodeRef} (h : ∀ ref ∈ refs, g.IsTexture ref) :
    refs.Nodup ↔ ∀ t < g.textureNodes.length, refs.count (textureRef t) ≤ 1 := by
  rw [List.nodup_iff_count_le_one]
  constructor
  · exact fun hcount t _ => hcount (textureRef t)
  · intro hcount ref
    by_cases href : ref ∈ refs
    · obtain ⟨htype, hlt⟩ := h ref href
      obtain ⟨type, t⟩ := ref
      obtain rfl : type = .texture := htype
      exact hcount t hlt
    · rw [List.count_eq_zero_of_not_mem href]
      exact Nat.zero_le 1

theorem count_le_one_iff_accessedOnce (hg : g.Fresh) :
    (∀ t < g.textureNodes.length, ∀ c ∈ (g.addDependencies device).commandNodes,
      c.refs.count (textureRef t) ≤ 1) ↔ g.AccessedOnce device := by
  have hrender : ∀ node ∈ g.renderNodes, ((node.accessed g device).Nodup ↔
      ∀ t < g.textureNodes.length, (CommandNode.render (node.addDependencies g device)).refs.count
        (textureRef t) ≤ 1) := by
    intro node hnode
    have hwf := hg.wellFormed.nodes _ (render_mem_commandNodes.mpr hnode)
    rw [show (CommandNode.render (node.addDependencies g device)).refs = node.accessed g device from
      refs_addDependencies hg (render_mem_commandNodes.mpr hnode) device]
    exact nodup_iff_count_textureRef fun ref href => mem_accessed_isTexture hwf href
  have hdispatch : ∀ node ∈ g.dispatchNodes, (node.accessed.Nodup ↔
      ∀ t < g.textureNodes.length, (CommandNode.dispatch node).refs.count (textureRef t) ≤ 1) := by
    intro node hnode
    have hwf := hg.wellFormed.nodes _ (dispatch_mem_commandNodes.mpr hnode)
    rw [show (CommandNode.dispatch node).refs = node.dependencies ++ node.outputs from
      refs_addDependencies hg (dispatch_mem_commandNodes.mpr hnode) device,
      nodup_iff_count_textureRef (g := g)]
    · simp only [DispatchNode.accessed, List.count_filter, textureRef, decide_true]
    · intro ref href
      obtain ⟨hmem, htype⟩ := List.mem_filter.mp href
      rcases hwf ref hmem with htexture | hdata
      · exact htexture
      · rw [hdata.1] at htype
        exact absurd htype (by decide)
  rw [commandNodes_addDependencies]
  constructor
  · intro h
    refine ⟨fun node hnode => (hrender node hnode).mpr fun t ht => ?_,
      fun node hnode => (hdispatch node hnode).mpr fun t ht => ?_⟩
    · exact h t ht _ (List.mem_map.mpr ⟨_, render_mem_commandNodes.mpr hnode, rfl⟩)
    · exact h t ht _ (List.mem_map.mpr ⟨_, dispatch_mem_commandNodes.mpr hnode, rfl⟩)
  · rintro ⟨hrenders, hdispatches⟩ t ht c hc
    obtain ⟨c', hc', rfl⟩ := List.mem_map.mp hc
    cases c' with
    | render node =>
      have hnode := render_mem_commandNodes.mp hc'
      exact (hrender node hnode).mp (hrenders node hnode) t ht
    | dispatch node =>
      have hnode := dispatch_mem_commandNodes.mp hc'
      exact (hdispatch node hnode).mp (hdispatches node hnode) t ht
    | write node => exact List.count_le_length
    | read node => exact List.count_le_length
    | present node => exact List.count_le_length

theorem oneChangeEach_iff (hg : g.Fresh) :
    (g.buildGraph device).OneChangeEach ↔ g.AccessedOnce device :=
  (oneChangeEach_iff_count hg).trans (count_le_one_iff_accessedOnce hg)

/-! ### Barriers -/

theorem prepared_nodup (hg : g.WellFormed) (hc : c ∈ (g.addDependencies device).commandNodes)
    (hcount : ∀ t < g.textureNodes.length, c.refs.count (textureRef t) ≤ 1) : c.prepared.Nodup := by
  refine List.nodup_iff_count_le_one.mpr fun ref => ?_
  by_cases href : ref ∈ c.prepared
  · obtain ⟨t, node, rfl, hnode⟩ := exists_node_of_mem_prepared hg hc href
    obtain ⟨hlt, -⟩ := List.getElem?_eq_some_iff.mp hnode
    exact (prepared_sublist_refs.count_le _).trans (hcount t hlt)
  · rw [List.count_eq_zero_of_not_mem href]
    exact Nat.zero_le 1

/-- A node that reaches no texture twice records one barrier for a texture at most. -/
theorem barrierImages_process_nodup (hg : g.Fresh)
    (hc : c ∈ (g.addDependencies device).commandNodes)
    (hcount : ∀ t < g.textureNodes.length, c.refs.count (textureRef t) ≤ 1) :
    (barrierImages (c.process (g.buildGraph device) (g.executeGraph device).1)).Nodup := by
  have hnodup := prepared_nodup hg.wellFormed hc hcount
  have hbuilt : c.WellFormed (g.buildGraph device) :=
    hg.wellFormed.buildGraph.nodes c (by rwa [buildGraph_commandNodes])
  have hprepare : ∀ ref ∈ c.prepared, ∃ t node, ref = textureRef t ∧
      g.textureNodes[t]? = some node ∧ ∃ transition,
        (g.buildGraph device).prepare (g.executeGraph device).1 c.index ref =
          ((g.executeGraph device).1.textures node.texture).transition transition := by
    intro ref href
    obtain ⟨t, node, rfl, hnode⟩ := exists_node_of_mem_prepared hg.wellFormed hc href
    exact ⟨t, node, rfl, hnode, _, buildGraph_prepare hg hnode hc (prepared_sublist_refs.subset href) _⟩
  rw [barrierImages, barriers_process hbuilt, List.map_flatMap, List.nodup_flatMap]
  constructor
  · intro ref href
    obtain ⟨t, node, -, -, transition, heq⟩ := hprepare ref href
    rw [heq, barriers_transition]
    split_ifs
    · exact List.nodup_singleton _
    · exact List.nodup_nil
  · refine List.Pairwise.imp_of_mem (fun {ref ref'} href href' hne image himage himage' => ?_) hnodup
    obtain ⟨t, node, rfl, hnode, transition, heq⟩ := hprepare ref href
    obtain ⟨t', node', rfl, hnode', transition', heq'⟩ := hprepare ref' href'
    obtain ⟨barrier, hmem, rfl⟩ := List.mem_map.mp himage
    obtain ⟨barrier', hmem', himages⟩ := List.mem_map.mp himage'
    rw [heq] at hmem
    rw [heq'] at hmem'
    have htt := prepared_inj hg hc href href' hnode hnode' ((image_of_mem_barriers hmem).symm.trans
      (himages.symm.trans (image_of_mem_barriers hmem')))
    exact hne (congrArg textureRef htt)

theorem oneBarrierEach_of_accessedOnce (hg : g.Fresh) (h : g.AccessedOnce device) :
    OneBarrierEach (g.executeGraph device).2 := by
  intro cmdBuffer hmem
  obtain ⟨k, hk⟩ := List.mem_iff_getElem?.mp hmem
  obtain ⟨hlt, -⟩ := List.getElem?_eq_some_iff.mp hk
  rw [length_cmdBuffers] at hlt
  by_cases hused : ∃ c ∈ (g.addDependencies device).commandNodes, c.index = k
  · obtain ⟨c, hc, rfl⟩ := hused
    rw [cmdBuffers_getElem? hg.wellFormed hc] at hk
    rw [← Option.some.inj hk]
    exact barrierImages_process_nodup hg hc fun t ht =>
      (count_le_one_iff_accessedOnce hg).mpr h t ht c hc
  · rw [cmdBuffers_getElem?_of_unused hlt fun c hc heq => hused ⟨c, hc, heq⟩] at hk
    rw [← Option.some.inj hk]
    exact List.nodup_nil

instance : Decidable g.OneChangeEach := inferInstanceAs (Decidable (∀ _ ∈ _, _))

instance (cmdBuffers : List (List VkCommand)) : Decidable (OneBarrierEach cmdBuffers) :=
  inferInstanceAs (Decidable (∀ _ ∈ _, _))

instance : Decidable (g.AccessedOnce device) := inferInstanceAs (Decidable (_ ∧ _))

/-- A texture is written, and then bound by the view parameters and by an object. -/
def repeatedBinding : List Call :=
  [.addTextureNode 0, .addTextureNode 1, .addTextureDataNode {},
    .addWriteNode (textureDataRef 0) (textureRef 0),
    .addRenderNode (fun _ => {})
      { viewParameters := { textures := [0] }
        objects := [{ materialParameters := 0, objectParameters := { textures := [0] } }] }
      (some (textureRef 1)) none]

end VulkanGraph

end Teide
