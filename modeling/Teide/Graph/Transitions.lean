import Teide.Graph.Unique

/-!
# The transitions of a texture

The state changes of a texture node are inserted in the order in which `BuildGraph` goes through the
lists of command nodes, which says nothing of their indices. With distinct indices the order does not
matter, and a transition leads from the state that the change before it ensures to the state that the
change expects.
-/

namespace Teide

variable {changes : List StateChange} {n : Nat}

/-- The state that is ensured by the last of the changes before a node, or else the default state. -/
inductive EnsuredBefore (changes : List StateChange) (n : Nat) : TextureState → Prop
  | last {change : StateChange} (hmem : change ∈ changes) (hlt : change.nodeIndex < n)
    (hlast : ∀ other ∈ changes, other.nodeIndex < n → other.nodeIndex ≤ change.nodeIndex) :
    EnsuredBefore changes n change.ensuredState
  | default (hnone : ∀ other ∈ changes, n ≤ other.nodeIndex) : EnsuredBefore changes n {}

theorem EnsuredBefore.congr {changes' : List StateChange} {state : TextureState}
    (hmem : ∀ change, change ∈ changes ↔ change ∈ changes') (h : EnsuredBefore changes n state) :
    EnsuredBefore changes' n state := by
  cases h with
  | last hchange hlt hlast =>
    exact .last ((hmem _).mp hchange) hlt fun other hother => hlast other ((hmem other).mpr hother)
  | default hnone => exact .default fun other hother => hnone other ((hmem other).mpr hother)

namespace TextureNode

variable {node : TextureNode}

/-- A call of `AddStateChange` for each of the changes. -/
def addStateChanges (node : TextureNode) (changes : List StateChange) : TextureNode :=
  changes.foldl (fun node change =>
    node.addStateChange change.nodeIndex change.expectedState change.ensuredState) node

theorem stateChanges_addStateChanges (node : TextureNode) (changes : List StateChange) :
    (node.addStateChanges changes).stateChanges =
      VulkanGraph.insertChanges changes node.stateChanges := by
  induction changes generalizing node with
  | nil => rfl
  | cons change changes ih => exact ih _

/-- Lookups on a timeline. -/
theorem ensuredBefore_stateBefore (hs : Timeline.Sorted StateChange.nodeIndex node.stateChanges)
    (n : Nat) : EnsuredBefore node.stateChanges n (node.stateBefore n) := by
  have hmem : ∀ change, change ∈ Timeline.before StateChange.nodeIndex node.stateChanges n ↔
      change ∈ node.stateChanges ∧ change.nodeIndex < n := by
    intro change
    rw [hs.before_eq, List.mem_filter, decide_eq_true_iff]
  have hsorted : Timeline.Sorted StateChange.nodeIndex
      (Timeline.before StateChange.nodeIndex node.stateChanges n) := by
    rw [hs.before_eq]
    exact hs.filter _
  unfold stateBefore
  cases hlast : (Timeline.before StateChange.nodeIndex node.stateChanges n).getLast? with
  | none =>
    have hnil := List.getLast?_eq_none_iff.mp hlast
    refine .default fun other hother => ?_
    by_contra hlt
    have hother := (hmem other).mpr ⟨hother, Nat.lt_of_not_le hlt⟩
    rw [hnil] at hother
    exact absurd hother List.not_mem_nil
  | some change =>
    obtain ⟨hchange, hlt⟩ := (hmem change).mp (List.mem_of_getLast? hlast)
    refine .last hchange hlt fun other hother hother' => ?_
    exact hsorted.le_of_getLast? hlast ((hmem other).mpr ⟨hother, hother'⟩)

theorem getStateTransition_of_mem (hs : Timeline.Sorted StateChange.nodeIndex node.stateChanges)
    (hnodup : (node.stateChanges.map StateChange.nodeIndex).Nodup) {change : StateChange}
    (hmem : change ∈ node.stateChanges) : node.getStateTransition change.nodeIndex =
      some ⟨node.stateBefore change.nodeIndex, change.expectedState⟩ := by
  unfold getStateTransition
  rw [hs.head?_fromOn_of_nodup hnodup hmem]

/-- **The order in which state changes are added does not matter**, and the transitions are those between
successive changes. -/
theorem addStateChanges_order (node : TextureNode) (changes : List StateChange)
    (hempty : node.stateChanges = []) (hnodup : (changes.map StateChange.nodeIndex).Nodup) :
    (∀ changes' : List StateChange, changes'.Perm changes →
        (node.addStateChanges changes').stateChanges = (node.addStateChanges changes).stateChanges) ∧
      (node.addStateChanges changes).stateChanges.Perm changes ∧
      (node.addStateChanges changes).stateChanges.Pairwise
        (fun change next => change.nodeIndex < next.nodeIndex) ∧
      ∀ change ∈ changes, ∃ old, EnsuredBefore changes change.nodeIndex old ∧
        (node.addStateChanges changes).getStateTransition change.nodeIndex =
          some ⟨old, change.expectedState⟩ := by
  have heq : ∀ changes' : List StateChange, (node.addStateChanges changes').stateChanges =
      Timeline.ofList StateChange.nodeIndex changes' := by
    intro changes'
    rw [stateChanges_addStateChanges, hempty]
    rfl
  have hs : Timeline.Sorted StateChange.nodeIndex (node.addStateChanges changes).stateChanges := by
    rw [heq]
    exact Timeline.ofList_sorted changes
  have hperm : (node.addStateChanges changes).stateChanges.Perm changes := by
    rw [heq]
    exact Timeline.ofList_perm changes
  have hnodup' := (hperm.map StateChange.nodeIndex).nodup_iff.mpr hnodup
  refine ⟨fun changes' h => ?_, hperm, hs.pairwise_lt hnodup', fun change hmem => ?_⟩
  · rw [heq, heq]
    exact (Timeline.ofList_eq_of_perm h.symm hnodup).symm
  · refine ⟨_, ?_, getStateTransition_of_mem hs hnodup' (hperm.mem_iff.mpr hmem)⟩
    exact (ensuredBefore_stateBefore hs _).congr fun _ => hperm.mem_iff

/-- A texture that is rendered to by the second node, and that a node added later samples. -/
theorem addStateChanges_order_sampled :
    ∃ old, EnsuredBefore [⟨4, sampledState, sampledState⟩, ⟨1, {}, colorTargetState⟩] 4 old ∧
      (addStateChanges { texture := 0 }
          [⟨4, sampledState, sampledState⟩, ⟨1, {}, colorTargetState⟩]).getStateTransition 4 =
        some ⟨old, sampledState⟩ :=
  (addStateChanges_order { texture := 0 }
    [⟨4, sampledState, sampledState⟩, ⟨1, {}, colorTargetState⟩] rfl (by decide)).2.2.2
      ⟨4, sampledState, sampledState⟩ List.mem_cons_self

end TextureNode

/-- So the transitions of a built graph do not depend on the order of its lists either. -/
theorem VulkanGraph.buildGraph_getStateTransition {g : VulkanGraph} {device : Device} (hg : g.Fresh)
    (hunique : (g.buildGraph device).OneChangeEach) {t : Nat} {node : TextureNode}
    (hnode : (g.buildGraph device).textureNodes[t]? = some node) {change : StateChange}
    (hmem : change ∈ node.stateChanges) :
    ∃ old, EnsuredBefore node.stateChanges change.nodeIndex old ∧
      node.getStateTransition change.nodeIndex = some ⟨old, change.expectedState⟩ := by
  have hs : Timeline.Sorted StateChange.nodeIndex node.stateChanges := by
    have hbuilt := buildGraph_textureNodes_getElem? hg.stateChanges device t
    rw [hnode] at hbuilt
    obtain ⟨node', -, rfl⟩ := Option.map_eq_some_iff.mp hbuilt.symm
    exact timelineOf_sorted t
  exact ⟨_, node.ensuredBefore_stateBefore hs _,
    node.getStateTransition_of_mem hs (hunique node (List.mem_of_getElem? hnode)) hmem⟩

end Teide
