import Mathlib.Tactic.Common
import Teide.Graph.Process

/-!
# Building a graph twice

`VisualizeGraph` shows the dependencies that `BuildGraph` has found, and `ExecuteGraph` builds the
graph it is given. `BuildGraph` does not recognise what it has done before: dependencies are appended
again, and each state change is inserted once more in front of the one with its index.

So a second call leaves a graph as it is exactly if the first one had nothing to do, that is, if no
command node accesses a texture of the graph (`buildIdempotent_iff`).
-/

namespace Teide

open Runs

def CommandNode.dependencies : CommandNode → List ResourceNodeRef
  | render node => node.dependencies
  | dispatch node => node.dependencies
  | write _ | read _ | present _ => []

namespace VulkanGraph

variable {g : VulkanGraph} {device : Device} {c : CommandNode} {ref : ResourceNodeRef} {t : Nat}

/-- The second of two calls of `BuildGraph` leaves everything as it is, and the barriers of the graph are
those of a graph that is built once. -/
structure BuildIdempotent (g : VulkanGraph) (device : Device) : Prop where
  dependencies :
    ((g.buildGraph device).buildGraph device).commandNodes.map CommandNode.dependencies =
      (g.buildGraph device).commandNodes.map CommandNode.dependencies
  stateChanges :
    ((g.buildGraph device).buildGraph device).textureNodes.map TextureNode.stateChanges =
      (g.buildGraph device).textureNodes.map TextureNode.stateChanges
  barriers :
    ((g.buildGraph device).executeGraph device).2.map barriers =
      (g.executeGraph device).2.map barriers

/-- No command node accesses a texture of the graph, or already has a dependency. -/
def AccessesNoTexture (g : VulkanGraph) (device : Device) : Prop :=
  ∀ c ∈ g.commandNodes, ∀ ref ∈ c.accessed g device ++ c.dependencies, ¬ g.IsTexture ref

/-! ### What a build registers -/

theorem mem_refs_addDependencies :
    ref ∈ (c.addDependencies g device).refs ↔ ref ∈ c.accessed g device ++ c.dependencies := by
  cases c with
  | render node =>
    rw [CommandNode.addDependencies, addDependencies_eq]
    simp only [CommandNode.refs, CommandNode.changes, CommandNode.accessed, RenderNode.accessed,
      CommandNode.dependencies, List.map_append, List.map_map, Function.comp_def, List.map_id',
      List.mem_append]
    tauto
  | dispatch node =>
    simp only [CommandNode.addDependencies, CommandNode.refs, CommandNode.changes,
      CommandNode.accessed, CommandNode.dependencies, List.map_append, List.map_map,
      Function.comp_def, List.map_id', List.mem_append]
    tauto
  | write | read | present => exact (List.append_nil _ ▸ Iff.rfl)

/-- What a node has registered once, it registers again. -/
theorem mem_refs_of_mem_refs (h : ref ∈ c.refs) : ref ∈ (c.addDependencies g device).refs := by
  cases c with
  | render node =>
    rw [mem_refs_addDependencies]
    simp only [CommandNode.refs, CommandNode.changes, List.map_append, List.map_map,
      Function.comp_def, List.map_id', List.mem_append] at h
    simp only [CommandNode.accessed, RenderNode.accessed, CommandNode.dependencies, List.mem_append]
    tauto
  | _ => exact h

theorem length_insertChanges (changes timeline : List StateChange) :
    (insertChanges changes timeline).length = changes.length + timeline.length := by
  induction changes generalizing timeline with
  | nil => exact (Nat.zero_add _).symm
  | cons change changes ih =>
    have hinsert : (Timeline.insert StateChange.nodeIndex change timeline).length =
        (change :: timeline).length := Timeline.insert_perm.length_eq
    show (insertChanges changes (Timeline.insert StateChange.nodeIndex change timeline)).length = _
    rw [ih, hinsert, List.length_cons, List.length_cons]
    omega

theorem buildGraph_stateChanges :
    ((g.buildGraph device).textureNodes.map TextureNode.stateChanges)[t]? =
      g.textureNodes[t]?.map fun node =>
        insertChanges (changesOf t (g.addDependencies device).registrations) node.stateChanges := by
  rw [List.getElem?_map, buildGraph_eq, foldl_register_eq]
  have hfold := foldl_registerTextures_getElem? (g.addDependencies device).registrations
    g.textureNodes t
  rw [show ((g.addDependencies device).registrations.foldl registerTextures
    (g.addDependencies device).textureNodes)[t]? = _ from hfold, Option.map_map]
  rfl

/-- A build that changes no state changes has none to register. -/
theorem changesOf_eq_nil
    (h : (g.buildGraph device).textureNodes.map TextureNode.stateChanges =
      g.textureNodes.map TextureNode.stateChanges) (ht : t < g.textureNodes.length) :
    changesOf t (g.addDependencies device).registrations = [] := by
  have hat := congrArg (fun changes => changes[t]?) h
  rw [buildGraph_stateChanges, List.getElem?_map, List.getElem?_eq_getElem ht, Option.map_some,
    Option.map_some] at hat
  have hlength := congrArg List.length (Option.some.inj hat)
  rw [length_insertChanges] at hlength
  apply List.length_eq_zero_iff.mp
  omega

theorem not_mem_refs_of_changesOf_eq_nil (h : changesOf t g.registrations = [])
    (hc : c ∈ g.commandNodes) : textureRef t ∉ c.refs := by
  intro href
  obtain ⟨⟨ref, change⟩, hchange, rfl⟩ := List.mem_map.mp href
  have hmem : change ∈ changesOf t g.registrations :=
    mem_changesOf.mpr (List.mem_flatMap.mpr ⟨c, hc, hchange⟩)
  rw [h] at hmem
  exact List.not_mem_nil hmem

/-! ### Graphs that do not change -/

theorem addDependencies_eq_self (h : g.AccessesNoTexture device) : g.addDependencies device = g := by
  have hnode : ∀ node ∈ g.renderNodes, node.addDependencies g device = node := by
    intro node hnode
    have hnone : (node.boundTextures device).filterMap g.findTexture = [] := by
      apply List.eq_nil_iff_forall_not_mem.mpr
      intro ref href
      refine h (.render node) (render_mem_commandNodes.mpr hnode) ref ?_ ?_
      · exact List.mem_append_left _ (List.mem_append_left _ (List.mem_append_left _ href))
      · obtain ⟨texture, -, hfound⟩ := List.mem_filterMap.mp href
        exact isTexture_of_findTexture hfound
    rw [addDependencies_eq, hnone, List.append_nil]
  unfold addDependencies
  rw [List.map_congr_left hnode, List.map_id']

/-- Changes of textures that the graph does not have are not registered. -/
theorem foldl_registerTextures_eq_self {changes : List (ResourceNodeRef × StateChange)}
    (h : ∀ change ∈ changes, ¬ g.IsTexture change.1) :
    changes.foldl registerTextures g.textureNodes = g.textureNodes := by
  apply List.ext_getElem?
  intro t
  rw [foldl_registerTextures_getElem?]
  cases hnode : g.textureNodes[t]? with
  | none => rfl
  | some node =>
    obtain ⟨hlt, -⟩ := List.getElem?_eq_some_iff.mp hnode
    have hnone : changesOf t changes = [] := by
      apply List.eq_nil_iff_forall_not_mem.mpr
      intro change hchange
      exact h _ (mem_changesOf.mp hchange) ⟨rfl, hlt⟩
    rw [hnone]
    rfl

theorem buildGraph_eq_self (h : g.AccessesNoTexture device) : g.buildGraph device = g := by
  rw [buildGraph_eq, addDependencies_eq_self h, foldl_register_eq, foldl_registerTextures_eq_self]
  intro change hchange
  obtain ⟨c, hc, hmem⟩ := List.mem_flatMap.mp hchange
  have href : change.1 ∈ c.refs := List.mem_map_of_mem hmem
  exact h c hc _ (mem_refs_addDependencies.mp (mem_refs_of_mem_refs href))

/-- **Building a graph is idempotent exactly if no command node accesses a texture of the graph.** -/
theorem buildIdempotent_iff (g : VulkanGraph) (device : Device) :
    g.BuildIdempotent device ↔ g.AccessesNoTexture device := by
  constructor
  · intro h c hc ref href htexture
    obtain ⟨type, t⟩ := ref
    obtain ⟨rfl, hlt⟩ := htexture
    have hnil := changesOf_eq_nil h.stateChanges (t := t)
      (length_buildGraph_textureNodes.symm ▸ hlt)
    -- the node after the first call, and after the second
    have hbuilt : c.addDependencies g device ∈ (g.buildGraph device).commandNodes := by
      rw [buildGraph_commandNodes, commandNodes_addDependencies]
      exact List.mem_map_of_mem hc
    have htwice : (c.addDependencies g device).addDependencies (g.buildGraph device) device ∈
        ((g.buildGraph device).addDependencies device).commandNodes := by
      rw [commandNodes_addDependencies]
      exact List.mem_map_of_mem hbuilt
    exact not_mem_refs_of_changesOf_eq_nil hnil htwice
      (mem_refs_of_mem_refs (mem_refs_addDependencies.mpr href))
  · intro h
    have hself := buildGraph_eq_self h
    refine ⟨?_, ?_, ?_⟩ <;> simp only [hself]

/-- A texture that is written and then sampled: the render node has the dependency and the barrier
twice. -/
theorem not_buildIdempotent :
    ∃ g, exec VulkanGraph.step {} writeRenderRead = some g ∧ ¬ g.BuildIdempotent {} :=
  ⟨_, rfl, fun h => absurd (congrArg (List.map List.length) h.barriers) (by decide)⟩

end VulkanGraph

end Teide
