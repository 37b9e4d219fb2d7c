import Mathlib.Tactic.Common
import Teide.Graph.Layout

/-!
# Discarded reads

A read whose sender has been destroyed records nothing, but it has registered a state change. The
next node that expects a state of the texture then looks up a transition from the state that the read
would have left it in. That state is only right if another read has left the texture in it before.

`undisturbed_iff` says so for any set of discarded reads: the other nodes record what they would
record without them exactly if the graph is `Undisturbed`. For the set of all discarded reads, this is
also when the layouts are right as the command buffers run.
-/

namespace Teide

open Runs

namespace VulkanGraph

variable {g : VulkanGraph} {device : Device} {c : CommandNode} {ref : ResourceNodeRef}
  {t : Nat} {D : List Nat}

/-- The nodes that stay record the same barriers with and without the reads left out. -/
def SameBarriers (g : VulkanGraph) (device : Device) (D : List Nat) : Prop :=
  ∀ c ∈ g.commandNodes, c.index ∉ D →
    (g.executeGraph device).2[c.index]?.map barriers =
      ((g.leaveOut D).executeGraph device).2[c.index]?.map barriers

/-- Where the last access of a texture is a read left out, and a node then expects a state of it, the
last access that stays is a read as well. -/
def Undisturbed (g : VulkanGraph) (device : Device) (D : List Nat) : Prop :=
  ∀ c ∈ g.commandNodes, ∀ t, textureRef t ∈ c.expects g device →
    ∀ r, g.LastAccess device [] t c.index r → r.index ∈ D →
      ∃ node, g.LastAccess device D t c.index (.read node)

/-! ### Recorded barriers -/

/-- The barriers for one texture and one expected state tell the states before apart. -/
theorem barriers_transition_inj (texture : VulkanTexture) (new : TextureState)
    {old old' : TextureState} :
    (∀ barrier, barrier ∈ barriers (texture.transition ⟨old, new⟩) ↔
      barrier ∈ barriers (texture.transition ⟨old', new⟩)) ↔ old = old' := by
  constructor
  · intro h
    simp only [barriers_transition] at h
    by_cases hold : new = old
    · by_cases hold' : new = old'
      · exact hold.symm.trans hold'
      · rw [if_neg (not_not_intro hold), if_pos hold'] at h
        exact absurd ((h _).mpr List.mem_cons_self) List.not_mem_nil
    · rw [if_pos hold] at h
      by_cases hold' : new = old'
      · rw [if_neg (not_not_intro hold')] at h
        exact absurd ((h _).mp List.mem_cons_self) List.not_mem_nil
      · rw [if_pos hold'] at h
        have heq := List.mem_singleton.mp ((h _).mp List.mem_cons_self)
        have hlayout := congrArg ImageMemoryBarrier.oldLayout heq
        have hstages := congrArg ImageMemoryBarrier.srcStageMask heq
        obtain ⟨layout, stages⟩ := old
        obtain ⟨layout', stages'⟩ := old'
        obtain rfl : layout = layout' := hlayout
        obtain rfl : stages = stages' := hstages
        rfl
  · rintro rfl barrier
    rfl

theorem barriers_cmdBuffers_getElem? (hg : g.Fresh) (hc : c ∈ g.commandNodes) :
    (g.executeGraph device).2[c.index]?.map barriers =
      some ((c.expects g device).flatMap fun ref =>
        barriers ((g.buildGraph device).prepare (g.executeGraph device).1 c.index ref)) := by
  have hmem : c.addDependencies g device ∈ (g.addDependencies device).commandNodes :=
    addDependencies_mem hc
  have hbuilt : (c.addDependencies g device).WellFormed (g.buildGraph device) :=
    hg.wellFormed.buildGraph.nodes _ (by rwa [buildGraph_commandNodes])
  have hbuffer := cmdBuffers_getElem? hg.wellFormed hmem
  rw [index_addDependencies] at hbuffer
  rw [hbuffer, Option.map_some, barriers_process hbuilt, prepared_addDependencies hg hc,
    index_addDependencies]

theorem mem_barriers_prepare_iff (hg : g.Fresh) (hc : c ∈ g.commandNodes)
    (href : textureRef t ∈ c.expects g device) {node : TextureNode}
    (hnode : g.textureNodes[t]? = some node) {barrier : ImageMemoryBarrier} :
    barrier ∈ barriers
        ((g.buildGraph device).prepare (g.executeGraph device).1 c.index (textureRef t)) ↔
      barrier ∈ ((c.expects g device).flatMap fun ref =>
        barriers ((g.buildGraph device).prepare (g.executeGraph device).1 c.index ref)) ∧
      barrier.image = ((g.executeGraph device).1.textures node.texture).image := by
  constructor
  · intro hmem
    refine ⟨List.mem_flatMap.mpr ⟨_, href, hmem⟩, ?_⟩
    rw [prepare_of_mem_expects hg hc href hnode] at hmem
    exact image_of_mem_barriers hmem
  · rintro ⟨hmem, himage⟩
    obtain ⟨ref, href', hmem⟩ := List.mem_flatMap.mp hmem
    obtain ⟨t', node', rfl, hnode'⟩ := exists_node_of_mem_expects hg hc href'
    have himage' := hmem
    rw [prepare_of_mem_expects hg hc href' hnode'] at himage'
    rw [expects_inj hg hc href href' hnode hnode'
      (himage.symm.trans (image_of_mem_barriers himage'))]
    exact hmem

/-- A node that stays records the same barriers exactly if the textures that it expects states of
are known to be in the same states. -/
theorem same_barriers_iff_states (hg : g.Fresh) (hD : g.Discarded D) (hc : c ∈ g.commandNodes)
    (hstays : c.index ∉ D) :
    (g.executeGraph device).2[c.index]?.map barriers =
        ((g.leaveOut D).executeGraph device).2[c.index]?.map barriers ↔
      ∀ t, textureRef t ∈ c.expects g device →
        ((g.leaveOut D).addDependencies device).stateBefore t c.index =
          (g.addDependencies device).stateBefore t c.index := by
  have hc' : c ∈ (g.leaveOut D).commandNodes := by
    rw [commandNodes_leaveOut hg.wellFormed hD]
    exact List.mem_filter.mpr ⟨hc, decide_eq_true hstays⟩
  have hdevice : ((g.leaveOut D).executeGraph device).1 = (g.executeGraph device).1 := by
    rw [executeGraph_device (hg.leaveOut D), executeGraph_device hg]
    rfl
  rw [barriers_cmdBuffers_getElem? hg hc, barriers_cmdBuffers_getElem? (hg.leaveOut D) hc',
    Option.some.injEq]
  -- the two graphs look up transitions of the same texture, with the same state expected
  have hprepare : ∀ {t node}, textureRef t ∈ c.expects g device →
      g.textureNodes[t]? = some node →
      ((g.leaveOut D).buildGraph device).prepare ((g.leaveOut D).executeGraph device).1 c.index
          (textureRef t) =
        ((g.executeGraph device).1.textures node.texture).transition
          ⟨((g.leaveOut D).addDependencies device).stateBefore t c.index,
            (g.addDependencies device).expectedAt t c.index⟩ := by
    intro t node href hnode
    rw [prepare_of_mem_expects (hg.leaveOut D) hc' href hnode, hdevice,
      expectedAt_leaveOut hg hD hc hstays (mem_accessed_of_mem_expects hg hc href)]
  constructor
  · intro h t href
    obtain ⟨t', node, heq, hnode⟩ := exists_node_of_mem_expects hg hc href
    obtain rfl : t = t' := congrArg ResourceNodeRef.index heq
    refine ((barriers_transition_inj ((g.executeGraph device).1.textures node.texture)
      ((g.addDependencies device).expectedAt t c.index)).mp fun barrier => ?_).symm
    rw [← prepare_of_mem_expects hg hc href hnode, ← hprepare href hnode,
      mem_barriers_prepare_iff hg hc href hnode,
      mem_barriers_prepare_iff (hg.leaveOut D) hc' href hnode, h, hdevice]
  · intro h
    refine List.flatMap_congr fun ref href => ?_
    obtain ⟨t, node, rfl, hnode⟩ := exists_node_of_mem_expects hg hc href
    rw [prepare_of_mem_expects hg hc href hnode, hprepare href hnode, h t href]

/-- **The other nodes record the same barriers exactly if they are undisturbed.** -/
theorem sameBarriers_iff_undisturbed (hg : g.Fresh) (hD : g.Discarded D) :
    g.SameBarriers device D ↔ g.Undisturbed device D := by
  constructor
  · intro h c hc t href
    have hstays : c.index ∉ D := fun hleft => hD.not_mem_expects hg.wellFormed hc hleft href
    have hstate := (same_barriers_iff_states hg hD hc hstays).mp (h c hc hstays) t href
    exact (stateBefore_leaveOut_iff hg hD t c.index).1.mp hstate
  · intro h c hc hstays
    refine (same_barriers_iff_states hg hD hc hstays).mpr fun t href => ?_
    exact (stateBefore_leaveOut_iff hg hD t c.index).1.mpr (h c hc t href)

/-- **A discarded read disturbs nothing exactly if no node expects a state of its texture next, or the
read before it was a read as well.** Then, and only then, the other nodes record the same barriers as
for the graph without the discarded reads; and if these are all that are discarded, and the graph is
one that layout tracking is right for without them, then every barrier's old layout is right, and
every access finds the layout it needs. -/
theorem undisturbed_iff (h : Reachable VulkanGraph.step {} g) (device : Device)
    (hD : g.Discarded D) :
    (g.SameBarriers device D ↔ g.Undisturbed device D) ∧
      ((g.textureNodes.map TextureNode.texture).Nodup → g.dispatchNodes = [] →
        g.presentNodes = [] → (g.buildGraph device).OneChangeEach →
        (∀ node ∈ g.readNodes, node.expired = true → node.index ∈ D) →
        (g.LayoutsRight device ↔ g.Undisturbed device D)) := by
  have hg := Fresh.of_reachable h
  refine ⟨sameBarriers_iff_undisturbed hg hD,
    fun hdistinct hdispatch hpresent hunique hall => ?_⟩
  rw [layoutsRight_iff ⟨hg, hdistinct, hunique⟩ hdispatch hpresent ⟨hD, hall⟩, Undisturbed]
  refine forall₂_congr fun c hc => forall₂_congr fun t href => ?_
  exact (stateBefore_leaveOut_iff hg hD t c.index).2

instance : Decidable (g.SameBarriers device D) := inferInstanceAs (Decidable (∀ _ ∈ _, _))

instance : Decidable (g.LayoutsRight device) := inferInstanceAs (Decidable (Each _ _ _ _))

/-- A texture is read twice between being written and being sampled, and the result of the second read
is discarded. -/
def discardedAfterRead : List Call :=
  [.addTextureNode 0, .addTextureNode 1, .addTextureDataNode {},
    .addWriteNode (textureDataRef 0) (textureRef 0), .addReadNode (textureRef 0),
    .addReadNode (textureRef 0),
    .addRenderNode (fun _ => {}) { viewParameters := { textures := [0] } } (some (textureRef 1)) none,
    .destroySender 1]

theorem undisturbed_discardedAfterRead : ∃ g,
    exec VulkanGraph.step {} discardedAfterRead = some g ∧ g.Discarded [2] ∧
      g.Undisturbed {} [2] ∧ g.LayoutsRight {} := by
  refine ⟨_, rfl, by decide, ?_⟩
  obtain ⟨hbarriers, hlayouts⟩ := undisturbed_iff (D := [2]) ⟨discardedAfterRead, rfl⟩ {} (by decide)
  have hundisturbed := hbarriers.mp (by decide)
  exact ⟨hundisturbed,
    (hlayouts (by decide) rfl rfl (by decide) (by decide)).mpr hundisturbed⟩

/-- The result of a read between a write and a render node that samples the texture is discarded. -/
def discardedBeforeRender : List Call :=
  [.addTextureNode 0, .addTextureNode 1, .addTextureDataNode {},
    .addWriteNode (textureDataRef 0) (textureRef 0), .addReadNode (textureRef 0),
    .addRenderNode (fun _ => {}) { viewParameters := { textures := [0] } } (some (textureRef 1)) none,
    .destroySender 0]

/-- The barrier for the render node is recorded from the layout of a source of transfers, where the
texture has been written last. -/
theorem discarded_read_disturbs : ∃ g,
    exec VulkanGraph.step {} discardedBeforeRender = some g ∧ g.Discarded [1] ∧
      ¬ g.SameBarriers {} [1] ∧ ¬ g.LayoutsRight {} :=
  ⟨_, rfl, by decide, by decide, by decide⟩

end VulkanGraph

end Teide
