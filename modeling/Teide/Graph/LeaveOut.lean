import Mathlib.Data.List.Basic
import Mathlib.Tactic.Common
import Teide.Graph.Process

/-!
# Leaving out discarded reads

`leaveOut` takes read nodes out of a graph, by their command indices. The other nodes keep theirs, and
the textures their usages, so the two graphs differ in state changes only: a texture's timeline loses
the entries of the reads left out (`timelineOf_leaveOut`).

The state that a later node takes a texture to be in changes with it, unless what was left out was
not the last access, or the last access that stays is a read as well (`stateBefore_leaveOut_iff`).
-/

namespace Teide

namespace VulkanGraph

variable {g : VulkanGraph} {device : Device} {c c' : CommandNode} {ref : ResourceNodeRef}
  {t i : Nat} {D : List Nat}

/-- The graph without some of its reads. -/
def leaveOut (g : VulkanGraph) (D : List Nat) : VulkanGraph :=
  { g with readNodes := g.readNodes.filter fun node => node.index ∉ D }

/-- The indices are those of reads whose result is discarded. -/
def Discarded (g : VulkanGraph) (D : List Nat) : Prop :=
  ∀ i ∈ D, ∃ node ∈ g.readNodes, node.index = i ∧ node.expired = true

instance : Decidable (g.Discarded D) := inferInstanceAs (Decidable (∀ _ ∈ _, _))

/-- The last access of a texture node before a command index, apart from those in `D`. -/
structure LastAccess (g : VulkanGraph) (device : Device) (D : List Nat) (t i : Nat)
    (c : CommandNode) : Prop where
  mem : c ∈ g.commandNodes
  accesses : textureRef t ∈ c.accessed g device
  before : c.index < i
  stays : c.index ∉ D
  last : ∀ c' ∈ g.commandNodes, textureRef t ∈ c'.accessed g device → c'.index < i →
    c'.index ∉ D → c'.index ≤ c.index

/-! ### Nodes and timelines -/

theorem index_inj (hg : g.WellFormed) (hc : c ∈ g.commandNodes) (hc' : c' ∈ g.commandNodes)
    (h : c.index = c'.index) : c = c' :=
  List.inj_on_of_nodup_map hg.indices_nodup hc hc' h

theorem Discarded.read_of_mem (hD : g.Discarded D) (hg : g.WellFormed) (hc : c ∈ g.commandNodes)
    (h : c.index ∈ D) : ∃ node, c = .read node ∧ node.expired = true := by
  obtain ⟨node, hnode, hindex, hexpired⟩ := hD c.index h
  exact ⟨node, index_inj hg hc (read_mem_commandNodes.mpr hnode) hindex.symm, hexpired⟩

/-- A discarded read expects nothing. -/
theorem Discarded.not_mem_expects (hD : g.Discarded D) (hg : g.WellFormed) (hc : c ∈ g.commandNodes)
    (h : c.index ∈ D) : ref ∉ c.expects g device := by
  obtain ⟨node, rfl, hexpired⟩ := hD.read_of_mem hg hc h
  show ref ∉ (CommandNode.read node).prepared
  rw [CommandNode.prepared, if_pos hexpired]
  exact List.not_mem_nil

theorem commandNodes_leaveOut (hg : g.WellFormed) (hD : g.Discarded D) :
    (g.leaveOut D).commandNodes = g.commandNodes.filter fun c => c.index ∉ D := by
  have hstays : ∀ {ν : Type} (toNode : ν → CommandNode) (nodes : List ν),
      (∀ node ∈ nodes, toNode node ∈ g.commandNodes ∧ ∀ read, toNode node ≠ .read read) →
      (nodes.map toNode).filter (fun c => c.index ∉ D) = nodes.map toNode := by
    intro ν toNode nodes hnodes
    refine List.filter_eq_self.mpr fun c hc => decide_eq_true fun hmem => ?_
    obtain ⟨node, hnode, rfl⟩ := List.mem_map.mp hc
    obtain ⟨hin, hne⟩ := hnodes node hnode
    obtain ⟨read, heq, -⟩ := hD.read_of_mem hg hin hmem
    exact hne read heq
  have hreads : (g.readNodes.map CommandNode.read).filter (fun c => c.index ∉ D) =
      (g.readNodes.filter fun node => node.index ∉ D).map CommandNode.read := by
    rw [List.filter_map]
    rfl
  simp only [commandNodes, List.filter_append, hreads]
  rw [hstays .write g.writeNodes fun node h => ⟨write_mem_commandNodes.mpr h, by simp⟩,
    hstays .render g.renderNodes fun node h => ⟨render_mem_commandNodes.mpr h, by simp⟩,
    hstays .dispatch g.dispatchNodes fun node h => ⟨dispatch_mem_commandNodes.mpr h, by simp⟩,
    hstays .present g.presentNodes fun node h => ⟨present_mem_commandNodes.mpr h, by simp⟩]
  rfl

theorem Fresh.leaveOut (hg : g.Fresh) (D : List Nat) : (g.leaveOut D).Fresh := by
  refine ⟨hg.wellFormed.sublist rfl ?_ ⟨le_refl _, le_refl _⟩, hg.stateChanges, hg.dependencies⟩
  have hreads : (g.readNodes.filter fun node => node.index ∉ D).Sublist g.readNodes :=
    List.filter_sublist
  exact ((((List.Sublist.refl _).append (hreads.map _)).append (List.Sublist.refl _)).append
    (List.Sublist.refl _)).append (List.Sublist.refl _)

theorem leaveOut_addDependencies :
    (g.leaveOut D).addDependencies device = (g.addDependencies device).leaveOut D := rfl

theorem changesOf_filter (nodes : List CommandNode) :
    changesOf t ((nodes.filter fun c => c.index ∉ D).flatMap CommandNode.changes) =
      (changesOf t (nodes.flatMap CommandNode.changes)).filter fun change =>
        change.nodeIndex ∉ D := by
  induction nodes with
  | nil => rfl
  | cons c nodes ih =>
    have hindex : ∀ change ∈ changesOf t c.changes, change.nodeIndex = c.index :=
      fun change hmem => CommandNode.nodeIndex_of_mem_changes (mem_changesOf.mp hmem)
    rw [List.flatMap_cons, changesOf_append, List.filter_append, ← ih]
    by_cases hc : c.index ∈ D
    · have hnone : (changesOf t c.changes).filter (fun change => change.nodeIndex ∉ D) = [] := by
        refine List.filter_eq_nil_iff.mpr fun change hmem => ?_
        rw [hindex change hmem]
        simpa using hc
      rw [List.filter_cons_of_neg (by simpa using hc), hnone, List.nil_append]
    · have hall : (changesOf t c.changes).filter (fun change => change.nodeIndex ∉ D) =
          changesOf t c.changes := by
        refine List.filter_eq_self.mpr fun change hmem => ?_
        rw [hindex change hmem]
        simpa using hc
      rw [List.filter_cons_of_pos (by simpa using hc), List.flatMap_cons, changesOf_append, hall]

theorem timelineOf_leaveOut (hg : g.WellFormed) (hD : g.Discarded D) (t : Nat) :
    (g.leaveOut D).timelineOf t =
      (g.timelineOf t).filter fun change => change.nodeIndex ∉ D := by
  have hregistrations : changesOf t (g.leaveOut D).registrations =
      (changesOf t g.registrations).filter fun change => change.nodeIndex ∉ D := by
    rw [registrations, commandNodes_leaveOut hg hD, registrations]
    exact changesOf_filter g.commandNodes
  rw [timelineOf, hregistrations, timelineOf, Timeline.filter_ofList]

theorem leaveOut_nil : g.leaveOut [] = g := by
  have hreads : (g.readNodes.filter fun node => node.index ∉ []) = g.readNodes :=
    List.filter_eq_self.mpr fun node _ => decide_eq_true List.not_mem_nil
  rw [leaveOut, hreads]

theorem discarded_nil : g.Discarded [] := fun _ h => absurd h List.not_mem_nil

/-! ### The state that an access finds -/

/-- Only reads leave a texture in the layout of a source of transfers. -/
theorem read_of_ensured_transferSrc {change : StateChange} (h : (ref, change) ∈ c.changes)
    (hlayout : change.ensuredState.layout = .transferSrcOptimal) : ∃ node, c = .read node := by
  cases c with
  | read node => exact ⟨node, rfl⟩
  | write node =>
    obtain ⟨-, rfl⟩ := Prod.mk.inj (List.mem_singleton.mp h)
    cases hlayout
  | present node =>
    obtain ⟨-, rfl⟩ := Prod.mk.inj (List.mem_singleton.mp h)
    cases hlayout
  | render node =>
    simp only [CommandNode.changes, List.mem_append, List.mem_map, Prod.mk.injEq] at h
    rcases h with (⟨_, -, -, rfl⟩ | ⟨_, -, -, rfl⟩) | ⟨_, -, -, rfl⟩ <;> cases hlayout
  | dispatch node =>
    simp only [CommandNode.changes, List.mem_append, List.mem_map, Prod.mk.injEq] at h
    rcases h with ⟨_, -, -, rfl⟩ | ⟨_, -, -, rfl⟩ <;> cases hlayout

theorem ensured_of_read {node : ReadNode} {change : StateChange}
    (h : (ref, change) ∈ (CommandNode.read node).changes) :
    change.ensuredState = transferSrcState := by
  obtain ⟨-, rfl⟩ := Prod.mk.inj (List.mem_singleton.mp h)
  rfl

theorem mem_timelineOf_leaveOut (hg : g.Fresh) (hD : g.Discarded D) {change : StateChange} :
    change ∈ ((g.leaveOut D).addDependencies device).timelineOf t ↔
      ∃ c ∈ g.commandNodes, c.index ∉ D ∧ (textureRef t, change) ∈
        (c.addDependencies g device).changes := by
  rw [leaveOut_addDependencies, timelineOf_leaveOut (hg.wellFormed.addDependencies device) hD,
    List.mem_filter, mem_timelineOf, commandNodes_addDependencies]
  constructor
  · rintro ⟨⟨_, hmem, hchange⟩, hstays⟩
    obtain ⟨c, hc, rfl⟩ := List.mem_map.mp hmem
    rw [CommandNode.nodeIndex_of_mem_changes hchange, index_addDependencies] at hstays
    exact ⟨c, hc, of_decide_eq_true hstays, hchange⟩
  · rintro ⟨c, hc, hstays, hchange⟩
    refine ⟨⟨_, List.mem_map_of_mem hc, hchange⟩, ?_⟩
    rw [CommandNode.nodeIndex_of_mem_changes hchange, index_addDependencies]
    exact decide_eq_true hstays

/-- The accesses before a command index, in the timeline without the reads left out. -/
theorem mem_before_leaveOut (hg : g.Fresh) (hD : g.Discarded D) {change : StateChange} :
    change ∈ Timeline.before StateChange.nodeIndex
        (((g.leaveOut D).addDependencies device).timelineOf t) i ↔
      ∃ c ∈ g.commandNodes, c.index ∉ D ∧ c.index < i ∧ (textureRef t, change) ∈
        (c.addDependencies g device).changes := by
  rw [(timelineOf_sorted t).before_eq, List.mem_filter, mem_timelineOf_leaveOut hg hD]
  constructor
  · rintro ⟨⟨c, hc, hstays, hchange⟩, hbefore⟩
    rw [CommandNode.nodeIndex_of_mem_changes hchange, index_addDependencies] at hbefore
    exact ⟨c, hc, hstays, of_decide_eq_true hbefore, hchange⟩
  · rintro ⟨c, hc, hstays, hbefore, hchange⟩
    refine ⟨⟨c, hc, hstays, hchange⟩, ?_⟩
    rw [CommandNode.nodeIndex_of_mem_changes hchange, index_addDependencies]
    exact decide_eq_true hbefore

theorem exists_change (hg : g.Fresh) (hc : c ∈ g.commandNodes)
    (href : textureRef t ∈ c.accessed g device) :
    ∃ change, (textureRef t, change) ∈ (c.addDependencies g device).changes := by
  rw [← refs_addDependencies hg hc device] at href
  obtain ⟨⟨_, change⟩, hchange, rfl⟩ := List.mem_map.mp href
  exact ⟨change, hchange⟩

/-- The entry that an access looks back to is one of the last access. -/
theorem lastAccess_of_getLast? (hg : g.Fresh) (hD : g.Discarded D) {change : StateChange}
    (h : (Timeline.before StateChange.nodeIndex
      (((g.leaveOut D).addDependencies device).timelineOf t) i).getLast? = some change) :
    ∃ c, g.LastAccess device D t i c ∧
      (textureRef t, change) ∈ (c.addDependencies g device).changes := by
  obtain ⟨c, hc, hstays, hbefore, hchange⟩ :=
    (mem_before_leaveOut hg hD).mp (List.mem_of_getLast? h)
  refine ⟨c, ⟨hc, ?_, hbefore, hstays, ?_⟩, hchange⟩
  · rw [← refs_addDependencies hg hc device]
    exact List.mem_map_of_mem hchange
  · intro c' hc' href' hbefore' hstays'
    obtain ⟨change', hchange'⟩ := exists_change hg hc' href'
    have hmem := (mem_before_leaveOut hg hD).mpr ⟨c', hc', hstays', hbefore', hchange'⟩
    have hsorted : Timeline.Sorted StateChange.nodeIndex (Timeline.before StateChange.nodeIndex
        (((g.leaveOut D).addDependencies device).timelineOf t) i) := by
      rw [(timelineOf_sorted t).before_eq]
      exact (timelineOf_sorted t).filter _
    have hle := hsorted.le_of_getLast? h hmem
    rwa [CommandNode.nodeIndex_of_mem_changes hchange, index_addDependencies,
      CommandNode.nodeIndex_of_mem_changes hchange', index_addDependencies] at hle

theorem LastAccess.unique (hg : g.WellFormed) (h : g.LastAccess device D t i c)
    (h' : g.LastAccess device D t i c') : c = c' := by
  apply index_inj hg h.mem h'.mem
  have hle := h.last c' h'.mem h'.accesses h'.before h'.stays
  have hge := h'.last c h.mem h.accesses h.before h.stays
  omega

/-- After a read, a texture is known to be a source of transfers. -/
theorem stateBefore_of_lastAccess_read (hg : g.Fresh) (hD : g.Discarded D) {node : ReadNode}
    (h : g.LastAccess device D t i (.read node)) :
    ((g.leaveOut D).addDependencies device).stateBefore t i = transferSrcState := by
  obtain ⟨change, hchange⟩ := exists_change hg h.mem h.accesses
  have hmem := (mem_before_leaveOut hg hD).mpr ⟨_, h.mem, h.stays, h.before, hchange⟩
  rw [stateBefore]
  cases hlast : (Timeline.before StateChange.nodeIndex
      (((g.leaveOut D).addDependencies device).timelineOf t) i).getLast? with
  | none =>
    rw [List.getLast?_eq_none_iff.mp hlast] at hmem
    exact absurd hmem List.not_mem_nil
  | some change' =>
    obtain ⟨c', h', hchange'⟩ := lastAccess_of_getLast? hg hD hlast
    obtain rfl := h.unique hg.wellFormed h'
    exact ensured_of_read hchange'

/-- Nothing but a read leaves a texture in the layout of a source of transfers. -/
theorem lastAccess_read_of_stateBefore (hg : g.Fresh) (hD : g.Discarded D)
    (h : (((g.leaveOut D).addDependencies device).stateBefore t i).layout = .transferSrcOptimal) :
    ∃ node, g.LastAccess device D t i (.read node) := by
  rw [stateBefore] at h
  cases hlast : (Timeline.before StateChange.nodeIndex
      (((g.leaveOut D).addDependencies device).timelineOf t) i).getLast? with
  | none =>
    rw [hlast] at h
    exact absurd h (by decide)
  | some change =>
    rw [hlast] at h
    obtain ⟨c, hc, hchange⟩ := lastAccess_of_getLast? hg hD hlast
    obtain ⟨node, heq⟩ := read_of_ensured_transferSrc hchange h
    cases c with
    | read node' => exact ⟨node', hc⟩
    | _ => cases heq

/-- Either the last access is one of the reads left out, or the state it leaves is the same with and
without them. -/
theorem stateBefore_leaveOut (hg : g.Fresh) (hD : g.Discarded D) (device : Device) (t i : Nat) :
    ((g.addDependencies device).stateBefore t i = transferSrcState ∧
        ∃ r, g.LastAccess device [] t i r ∧ r.index ∈ D) ∨
      (((g.leaveOut D).addDependencies device).stateBefore t i =
          (g.addDependencies device).stateBefore t i ∧
        ∀ r, g.LastAccess device [] t i r → r.index ∉ D) := by
  have hbefore : Timeline.before StateChange.nodeIndex
      (((g.leaveOut D).addDependencies device).timelineOf t) i =
        (Timeline.before StateChange.nodeIndex ((g.addDependencies device).timelineOf t) i).filter
          fun change => change.nodeIndex ∉ D := by
    rw [(timelineOf_sorted t).before_eq, (timelineOf_sorted t).before_eq, leaveOut_addDependencies,
      timelineOf_leaveOut (hg.wellFormed.addDependencies device) hD, List.filter_comm]
  have hlastAccess : ∀ change, (Timeline.before StateChange.nodeIndex
      ((g.addDependencies device).timelineOf t) i).getLast? = some change →
        ∃ c, g.LastAccess device [] t i c ∧
          (textureRef t, change) ∈ (c.addDependencies g device).changes := by
    intro change h
    apply lastAccess_of_getLast? hg discarded_nil
    rwa [leaveOut_nil]
  cases hlast : (Timeline.before StateChange.nodeIndex
      ((g.addDependencies device).timelineOf t) i).getLast? with
  | none =>
    have hnil := List.getLast?_eq_none_iff.mp hlast
    refine Or.inr ⟨?_, fun r hr => ?_⟩
    · rw [stateBefore, stateBefore, hbefore, hnil, List.filter_nil]
    · obtain ⟨change, hchange⟩ := exists_change hg hr.mem hr.accesses
      have hin := (mem_before_leaveOut hg discarded_nil).mpr
        ⟨r, hr.mem, hr.stays, hr.before, hchange⟩
      rw [leaveOut_nil, hnil] at hin
      exact absurd hin List.not_mem_nil
  | some change =>
    obtain ⟨c, hc, hchange⟩ := hlastAccess change hlast
    have hindex : change.nodeIndex = c.index := by
      rw [CommandNode.nodeIndex_of_mem_changes hchange, index_addDependencies]
    by_cases hleft : c.index ∈ D
    · obtain ⟨node, rfl, -⟩ := hD.read_of_mem hg.wellFormed hc.mem hleft
      refine Or.inl ⟨?_, _, hc, hleft⟩
      rw [stateBefore, hlast]
      exact ensured_of_read hchange
    · refine Or.inr ⟨?_, fun r hr => ?_⟩
      · have hkept := Timeline.getLast?_filter (p := fun change => change.nodeIndex ∉ D) hlast
          (decide_eq_true (hindex ▸ hleft))
        rw [stateBefore, hbefore, hkept, stateBefore, hlast]
      · rw [hr.unique hg.wellFormed hc]
        exact hleft

/-- The state before a command index is the same with and without the reads left out exactly if none
of them is the last access, or the last access that stays is a read. It is enough to look at the
layouts. -/
theorem stateBefore_leaveOut_iff (hg : g.Fresh) (hD : g.Discarded D) (t i : Nat) :
    (((g.leaveOut D).addDependencies device).stateBefore t i =
        (g.addDependencies device).stateBefore t i ↔
      ∀ r, g.LastAccess device [] t i r → r.index ∈ D →
        ∃ node, g.LastAccess device D t i (.read node)) ∧
    ((((g.leaveOut D).addDependencies device).stateBefore t i).layout =
        ((g.addDependencies device).stateBefore t i).layout ↔
      ∀ r, g.LastAccess device [] t i r → r.index ∈ D →
        ∃ node, g.LastAccess device D t i (.read node)) := by
  rcases stateBefore_leaveOut hg hD device t i with ⟨hstate, r, hr, hleft⟩ | ⟨heq, hnone⟩
  · have hread : (((g.leaveOut D).addDependencies device).stateBefore t i).layout =
        .transferSrcOptimal → ∃ node, g.LastAccess device D t i (.read node) :=
      lastAccess_read_of_stateBefore hg hD
    rw [hstate]
    refine ⟨⟨fun h r' _ _ => hread (congrArg TextureState.layout h), fun h => ?_⟩,
      ⟨fun h r' _ _ => hread h, fun h => ?_⟩⟩
    · obtain ⟨node, hnode⟩ := h r hr hleft
      exact stateBefore_of_lastAccess_read hg hD hnode
    · obtain ⟨node, hnode⟩ := h r hr hleft
      rw [stateBefore_of_lastAccess_read hg hD hnode]
  · rw [heq]
    have hvacuous : ∀ r, g.LastAccess device [] t i r → r.index ∈ D →
        ∃ node, g.LastAccess device D t i (.read node) :=
      fun r hr hleft => absurd hleft (hnone r hr)
    exact ⟨iff_of_true rfl hvacuous, iff_of_true rfl hvacuous⟩

/-- A node that stays expects the same state as before. -/
theorem expectedAt_leaveOut (hg : g.Fresh) (hD : g.Discarded D) (hc : c ∈ g.commandNodes)
    (hstays : c.index ∉ D) (href : textureRef t ∈ c.accessed g device) :
    ((g.leaveOut D).addDependencies device).expectedAt t c.index =
      (g.addDependencies device).expectedAt t c.index := by
  have hfromOn : Timeline.fromOn StateChange.nodeIndex
      (((g.leaveOut D).addDependencies device).timelineOf t) c.index =
        (Timeline.fromOn StateChange.nodeIndex ((g.addDependencies device).timelineOf t)
          c.index).filter fun change => change.nodeIndex ∉ D := by
    rw [(timelineOf_sorted t).fromOn_eq, (timelineOf_sorted t).fromOn_eq, leaveOut_addDependencies,
      timelineOf_leaveOut (hg.wellFormed.addDependencies device) hD, List.filter_comm]
  obtain ⟨change, hchange⟩ := exists_change hg hc href
  have hmem : change ∈ (g.addDependencies device).timelineOf t := by
    rw [mem_timelineOf, commandNodes_addDependencies]
    exact ⟨_, List.mem_map_of_mem hc, hchange⟩
  have hindex : change.nodeIndex = c.index := by
    rw [CommandNode.nodeIndex_of_mem_changes hchange, index_addDependencies]
  obtain ⟨first, -, hfirst, hfirstIndex⟩ := (timelineOf_sorted t).head?_fromOn hmem
  rw [hindex] at hfirst hfirstIndex
  have hkept := Timeline.head?_filter (p := fun change => change.nodeIndex ∉ D) hfirst
    (decide_eq_true (hfirstIndex ▸ hstays))
  rw [expectedAt, hfromOn, hkept, expectedAt, hfirst]

end VulkanGraph

end Teide
