import Mathlib.Algebra.Ring.Nat
import Mathlib.Data.List.Range
import Teide.Graph.Construct

/-!
# The numbers and references of a graph

The command nodes of a graph are in five lists, but share one counter. However the calls are mixed, the
indices are those below the counter, and increase in each list. The references a node stores are in range
for good, since the lists only grow, and a resource that has been written names the command that wrote it
last.

The counter has 32 bits: with `2 ^ 32` command nodes it is back at 0 (`not_sound`). What holds of the
numbers without this, `Inv`, is kept by every call, and one lemma about a graph with one more command
node (`Inv.of_push`) serves all the calls that add one.
-/

namespace Teide

open Runs

namespace VulkanGraph

/-- `CommandNode::index`, which has 32 bits. -/
def codeIndex (c : CommandNode) : UInt32 := UInt32.ofNat c.index

/-- `commandNodeCount`, which has 32 bits. -/
def codeCount (g : VulkanGraph) : UInt32 := UInt32.ofNat g.commandNodeCount

/-- The reference is that of the command node which has been added last of those that write the
resource. -/
def LastWriter (g : VulkanGraph) (ref : ResourceNodeRef) (r : CommandNodeRef) : Prop :=
  ∃ c, g.command? r = some c ∧ c.Writes ref ∧
    ∀ c' ∈ g.commandNodes, c'.Writes ref → c'.index ≤ c.index

/-- The five node lists, as command nodes. -/
def nodeLists (g : VulkanGraph) : List (List CommandNode) :=
  [g.writeNodes.map .write, g.readNodes.map .read, g.renderNodes.map .render,
    g.dispatchNodes.map .dispatch, g.presentNodes.map .present]

/-- References are in range, and the resources that a command writes name the last such command. -/
structure References (g : VulkanGraph) : Prop where
  inRange : ∀ c ∈ g.commandNodes, ∀ ref ∈ c.storedRefs, g.IsResource ref
  written : ∀ ref, ∀ c ∈ g.commandNodes, c.Writes ref →
    ∃ r, g.sourceOf ref = some r ∧ g.LastWriter ref r
  /-- texture data that no command writes has no source -/
  unwritten : ∀ i, (∀ c ∈ g.commandNodes, ¬ c.Writes (textureDataRef i)) →
    g.sourceOf (textureDataRef i) = none

/-- The command buffers of a graph are each recorded once, in the range that has been allocated, and the
indices increase in each list. -/
structure Sound (g : VulkanGraph) : Prop extends References g where
  numbered : (g.commandNodes.map fun c => (codeIndex c).toNat).Perm (List.range g.codeCount.toNat)
  increasing : ∀ nodes ∈ g.nodeLists, (nodes.map fun c => (codeIndex c).toNat).Pairwise (· < ·)

/-- `Sound`, for a counter that does not wrap around. -/
structure Inv (g : VulkanGraph) : Prop extends References g where
  numbered : (g.commandNodes.map CommandNode.index).Perm (List.range g.commandNodeCount)
  increasing : ∀ nodes ∈ g.nodeLists, (nodes.map CommandNode.index).Pairwise (· < ·)

variable {g g' : VulkanGraph} {c : CommandNode} {ref : ResourceNodeRef} {r : CommandNodeRef}

theorem Inv.index_lt (h : g.Inv) (hc : c ∈ g.commandNodes) : c.index < g.commandNodeCount :=
  List.mem_range.mp (h.numbered.mem_iff.mp (List.mem_map_of_mem hc))

theorem Inv.length_commandNodes (h : g.Inv) : g.commandNodes.length = g.commandNodeCount := by
  have hlength := h.numbered.length_eq
  rwa [List.length_map, List.length_range] at hlength

theorem storedRefs_of_writes (h : c.Writes ref) : ref ∈ c.storedRefs := by
  cases c with
  | write node => exact List.mem_cons_of_mem _ (List.mem_singleton.mpr h)
  | render node =>
    apply List.mem_append_left
    rcases h with h | h
    · exact List.mem_append_left _ (Option.mem_toList.mpr h)
    · exact List.mem_append_right _ (Option.mem_toList.mpr h)
  | dispatch node => exact List.mem_append_right _ h
  | read node => exact h.elim
  | present node => exact h.elim

/-! ### One more command node -/

theorem command?_of_skeleton_eq (h : g.skeleton = g'.skeleton) (r : CommandNodeRef) :
    g.command? r = g'.command? r := by
  show g.skeleton.command? r = g'.skeleton.command? r
  rw [h]

theorem command?_push_of_some (h : g.command? r = some c) (c' : CommandNode) :
    (g.push c').command? r = some c := by
  obtain ⟨type, i⟩ := r
  have hgrow : ∀ {α : Type} {f : α → CommandNode} {nodes : List α} (node : α),
      nodes[i]?.map f = some c → (nodes ++ [node])[i]?.map f = some c := by
    intro α f nodes node hget
    obtain ⟨node', hnode', hf⟩ := Option.map_eq_some_iff.mp hget
    rw [List.getElem?_append_left (List.getElem?_eq_some_iff.mp hnode').1, hnode']
    exact congrArg some hf
  cases type <;> cases c' <;> first | exact h | exact hgrow _ h

theorem command?_push_nextRef : (g.push c).command? (g.nextRef c) = some c := by
  cases c <;> simp [command?, push, nextRef]

theorem flatten_nodeLists : g.nodeLists.flatten = g.commandNodes := by
  simp [nodeLists, commandNodes]

/-- One of the lists has got the new node. -/
theorem mem_nodeLists_push {nodes : List CommandNode} (h : nodes ∈ (g.push c).nodeLists) :
    nodes ∈ g.nodeLists ∨ ∃ old ∈ g.nodeLists, nodes = old ++ [c] := by
  cases c <;>
    simp only [nodeLists, push, List.map_append, List.map_cons, List.map_nil, List.mem_cons,
      List.not_mem_nil, or_false] at h ⊢ <;>
    grind

theorem increasing_push (hincreasing : ∀ nodes ∈ g.nodeLists,
      (nodes.map CommandNode.index).Pairwise (· < ·))
    (hlt : ∀ c' ∈ g.commandNodes, c'.index < c.index) :
    ∀ nodes ∈ (g.push c).nodeLists, (nodes.map CommandNode.index).Pairwise (· < ·) := by
  intro nodes hnodes
  rcases mem_nodeLists_push hnodes with hold | ⟨old, hold, rfl⟩
  · exact hincreasing nodes hold
  · rw [List.map_append, List.pairwise_append]
    refine ⟨hincreasing old hold, List.pairwise_singleton _ _, ?_⟩
    intro i hi j hj
    obtain ⟨c', hc', rfl⟩ := List.mem_map.mp hi
    obtain rfl := List.mem_singleton.mp hj
    apply hlt
    rw [← flatten_nodeLists]
    exact List.mem_flatten.mpr ⟨old, hold, hc'⟩

/-- The new node is the last that writes what it writes. -/
theorem lastWriter_push (hlt : ∀ c' ∈ g.commandNodes, c'.index < c.index) (hnew : c.Writes ref) :
    (g.push c).LastWriter ref (g.nextRef c) := by
  refine ⟨c, command?_push_nextRef, hnew, ?_⟩
  intro c' hc' _
  rcases mem_commandNodes_push.mp hc' with rfl | hc'
  · exact Nat.le_refl _
  · exact Nat.le_of_lt (hlt c' hc')

/-- Of what the new node does not write, the last writer stays. -/
theorem LastWriter.push (h : g.LastWriter ref r) (hnew : ¬ c.Writes ref) :
    (g.push c).LastWriter ref r := by
  obtain ⟨writer, hwriter, hwrites, hlast⟩ := h
  refine ⟨writer, command?_push_of_some hwriter c, hwrites, ?_⟩
  intro c' hc' hwrites'
  rcases mem_commandNodes_push.mp hc' with rfl | hc'
  · exact absurd hwrites' hnew
  · exact hlast c' hc' hwrites'

theorem lastWriter_of_skeleton_eq (h : g.skeleton = g'.skeleton) :
    g.LastWriter ref r ↔ g'.LastWriter ref r := by
  unfold LastWriter
  rw [command?_of_skeleton_eq h, commandNodes_of_skeleton_eq h]

/-- A call that adds a command node, and makes it the source of what it writes, keeps the numbers and
references sound. -/
theorem Inv.of_push (hg : g.Inv) (hc : Pushes g g' c) : g'.Inv := by
  have hskeleton : g'.skeleton = (g.push c).skeleton := by rw [hc.skeleton, skeleton_push]
  have hnodes := hc.commandNodes
  have hindex := hc.index
  have hlists : g'.nodeLists = (g.push c).nodeLists := by
    show g'.skeleton.nodeLists = (g.push c).skeleton.nodeLists
    rw [hskeleton]
  have hresources : ∀ ref, g.IsResource ref → g'.IsResource ref := by
    intro ref href
    apply (resourcesLE_of_skeleton_eq hskeleton.symm).isResource
    unfold IsResource IsTexture IsTextureData
    rwa [push_textureNodes, push_textureDataNodes]
  have hlt : ∀ c' ∈ g.commandNodes, c'.index < c.index := fun c' hc' => hindex ▸ hg.index_lt hc'
  refine ⟨⟨?_, ?_, ?_⟩, ?_, ?_⟩
  · intro c' hc' ref href
    rw [hnodes] at hc'
    rcases mem_commandNodes_push.mp hc' with rfl | hc'
    · exact hresources ref (hc.refs ref href)
    · exact hresources ref (hg.inRange c' hc' ref href)
  · intro ref c' hc' hwrites
    rw [hnodes] at hc'
    by_cases hnew : c.Writes ref
    · refine ⟨g.nextRef c, hc.sources.written ref hnew, ?_⟩
      exact (lastWriter_of_skeleton_eq hskeleton).mpr (lastWriter_push hlt hnew)
    · -- the new node does not write the resource, so an old one does
      have hold : c' ∈ g.commandNodes := (mem_commandNodes_push.mp hc').resolve_left
        fun heq => hnew (heq ▸ hwrites)
      obtain ⟨r, hr, hlast⟩ := hg.written ref c' hold hwrites
      refine ⟨r, (hc.sources.other ref hnew).trans hr, ?_⟩
      exact (lastWriter_of_skeleton_eq hskeleton).mpr (hlast.push hnew)
  · intro i hnone
    rw [hnodes] at hnone
    rw [hc.sources.other _ (hnone c (mem_commandNodes_push.mpr (Or.inl rfl)))]
    exact hg.unwritten i fun c' hc' => hnone c' (mem_commandNodes_push.mpr (Or.inr hc'))
  · rw [hnodes, commandNodeCount_of_skeleton_eq hskeleton, push_commandNodeCount,
      List.range_succ]
    have hcons : ((g.push c).commandNodes.map CommandNode.index).Perm
        (c.index :: List.range g.commandNodeCount) :=
      ((commandNodes_push_perm g c).map CommandNode.index).trans (hg.numbered.cons c.index)
    rw [hindex] at hcons
    exact hcons.trans (List.perm_append_singleton _ _).symm
  · rw [hlists]
    exact increasing_push hg.increasing hlt

/-! ### Calls that add no command node -/

/-- More resources, which no command writes yet. -/
theorem Inv.of_resources (hg : g.Inv) (hlists : g'.nodeLists = g.nodeLists)
    (hcommand : ∀ r, g'.command? r = g.command? r)
    (hcount : g'.commandNodeCount = g.commandNodeCount) (hle : ResourcesLE g g')
    (hsource : ∀ ref, g.IsResource ref → g'.sourceOf ref = g.sourceOf ref)
    (hnew : ∀ i, ¬ g.IsTextureData (textureDataRef i) → g'.sourceOf (textureDataRef i) = none) :
    g'.Inv := by
  have hnodes : g'.commandNodes = g.commandNodes := by
    rw [← flatten_nodeLists, hlists, flatten_nodeLists]
  refine ⟨⟨?_, ?_, ?_⟩, ?_, ?_⟩
  · rw [hnodes]
    exact fun c hc ref href => hle.isResource (hg.inRange c hc ref href)
  · rw [hnodes]
    intro ref c hc hwrites
    obtain ⟨r, hr, writer, hwriter, hlast⟩ := hg.written ref c hc hwrites
    have href := hg.inRange c hc ref (storedRefs_of_writes hwrites)
    refine ⟨r, (hsource ref href).trans hr, writer, (hcommand r).trans hwriter, ?_⟩
    rwa [hnodes]
  · rw [hnodes]
    intro i hnone
    by_cases href : g.IsTextureData (textureDataRef i)
    · exact (hsource _ (Or.inr href)).trans (hg.unwritten i hnone)
    · exact hnew i href
  · rw [hnodes, hcount]
    exact hg.numbered
  · rw [hlists]
    exact hg.increasing

theorem Inv.addTextureNode (hg : g.Inv) (texture : Texture) : (g.addTextureNode texture).2.Inv := by
  refine hg.of_resources rfl (fun _ => rfl) rfl ⟨?_, Nat.le_refl _⟩ ?_ ?_
  · show g.textureNodes.length ≤ (g.textureNodes ++ [_]).length
    rw [List.length_append]
    exact Nat.le_add_right _ _
  · rintro ⟨type, i⟩ (⟨rfl, hlt⟩ | ⟨rfl, -⟩)
    · show ((g.textureNodes ++ [_])[i]?).map _ = _
      rw [List.getElem?_append_left hlt]
      rfl
    · rfl
  · intro i hout
    have hlength : g.textureDataNodes.length ≤ i := Nat.le_of_not_lt fun hlt => hout ⟨rfl, hlt⟩
    show (g.textureDataNodes[i]?).bind _ = none
    rw [List.getElem?_eq_none hlength, Option.bind_none]

theorem Inv.addTextureDataNode (hg : g.Inv) (data : TextureData) :
    (g.addTextureDataNode data).2.Inv := by
  refine hg.of_resources rfl (fun _ => rfl) rfl ⟨Nat.le_refl _, ?_⟩ ?_ ?_
  · show g.textureDataNodes.length ≤ (g.textureDataNodes ++ [_]).length
    rw [List.length_append]
    exact Nat.le_add_right _ _
  · rintro ⟨type, i⟩ (⟨rfl, -⟩ | ⟨rfl, hlt⟩)
    · rfl
    · show ((g.textureDataNodes ++ [_])[i]?).bind _ = _
      rw [List.getElem?_append_left hlt]
      rfl
  · intro i hout
    have hlength : g.textureDataNodes.length ≤ i := Nat.le_of_not_lt fun hlt => hout ⟨rfl, hlt⟩
    show ((g.textureDataNodes ++ [_])[i]?).bind _ = none
    rw [List.getElem?_append_right hlength]
    -- the new node, or none
    cases i - g.textureDataNodes.length <;> rfl

theorem exists_of_commandNodes_map_eq {β : Type} {f : CommandNode → β}
    (h : g'.commandNodes.map f = g.commandNodes.map f) (hc : c ∈ g'.commandNodes) :
    ∃ c' ∈ g.commandNodes, f c' = f c := by
  have hmem := List.mem_map_of_mem (f := f) hc
  rw [h] at hmem
  exact List.mem_map.mp hmem

/-- A read, which writes nothing, is all that changes. -/
theorem command?_destroySender {i : Nat} (h : g.command? r = some c) (hwrites : c.Writes ref) :
    (g.destroySender i).command? r = some c := by
  obtain ⟨type, j⟩ := r
  cases type with
  | read =>
    obtain ⟨node, -, rfl⟩ := Option.map_eq_some_iff.mp h
    exact hwrites.elim
  | _ => exact h

theorem nodeLists_destroySender (i : Nat) :
    (g.destroySender i).nodeLists.map (List.map CommandNode.index) =
      g.nodeLists.map (List.map CommandNode.index) := by
  have hreads := ListSet.map_modify_of_eq (fun node => CommandNode.index (.read node))
    (fun node => { node with expired := true }) (fun _ => rfl) g.readNodes i
  simp only [nodeLists, List.map_cons, List.map_nil, List.map_map]
  exact congrArg (fun reads => [_, reads, _, _, _]) hreads

theorem Inv.destroySender (hg : g.Inv) (i : Nat) : (g.destroySender i).Inv := by
  -- index, references and written resources of the nodes
  have hmap := destroySender_commandNodes_map (g := g)
    (fun c => (c.index, c.storedRefs, fun ref => c.Writes ref)) (fun _ => rfl) i
  have hback : ∀ {c}, c ∈ (g.destroySender i).commandNodes → ∃ c' ∈ g.commandNodes,
      c'.index = c.index ∧ c'.storedRefs = c.storedRefs ∧ ∀ ref, c'.Writes ref ↔ c.Writes ref := by
    intro c hc
    obtain ⟨c', hc', heq⟩ := exists_of_commandNodes_map_eq hmap hc
    obtain ⟨hindex, hrefs, hwrites⟩ := by simpa only [Prod.mk.injEq] using heq
    exact ⟨c', hc', hindex, hrefs, fun ref => iff_of_eq (congrFun hwrites ref)⟩
  refine ⟨⟨?_, ?_, ?_⟩, ?_, ?_⟩
  · intro c hc ref href
    obtain ⟨c', hc', -, hrefs, -⟩ := hback hc
    exact hg.inRange c' hc' ref (hrefs ▸ href)
  · intro ref c hc hwrites
    obtain ⟨c', hc', -, -, hsame⟩ := hback hc
    obtain ⟨r, hr, writer, hwriter, hwriterWrites, hlast⟩ :=
      hg.written ref c' hc' ((hsame ref).mpr hwrites)
    refine ⟨r, hr, writer, command?_destroySender hwriter hwriterWrites, hwriterWrites, ?_⟩
    intro c'' hc'' hwrites''
    obtain ⟨old, hold, hindex, -, hsame''⟩ := hback hc''
    exact hindex ▸ hlast old hold ((hsame'' ref).mpr hwrites'')
  · intro j hnone
    refine hg.unwritten j fun c hc hwrites => ?_
    obtain ⟨c', hc', heq⟩ := exists_of_commandNodes_map_eq hmap.symm hc
    obtain ⟨-, -, hsame⟩ := by simpa only [Prod.mk.injEq] using heq
    exact hnone c' hc' ((congrFun hsame (textureDataRef j)).mpr hwrites)
  · rw [destroySender_commandNodes_map CommandNode.index (fun _ => rfl) i]
    exact hg.numbered
  · rw [← List.forall_mem_map (f := List.map CommandNode.index)
      (P := fun indices => indices.Pairwise (· < ·)), nodeLists_destroySender,
      List.forall_mem_map]
    exact hg.increasing

/-! ### Every sequence of calls -/

/-- Every call keeps the numbers and references sound. -/
theorem Inv.construct (hg : g.Inv) {call : Call} (h : g.construct call = some g') : g'.Inv := by
  rcases construct_cases h with ⟨c, hc⟩ | ⟨texture, rfl⟩ | ⟨data, rfl⟩ | ⟨i, rfl⟩
  · exact hg.of_push hc
  · exact hg.addTextureNode texture
  · exact hg.addTextureDataNode data
  · exact hg.destroySender i

theorem inv_empty : ({} : VulkanGraph).Inv where
  numbered := List.Perm.nil
  increasing nodes hnodes := by
    have hnil : nodes = [] := by simpa [nodeLists] using hnodes
    rw [hnil]
    exact List.Pairwise.nil
  inRange _ hc := absurd hc List.not_mem_nil
  written _ _ hc := absurd hc List.not_mem_nil
  unwritten _ _ := rfl

theorem Inv.of_exec {calls : List Call} (h : exec VulkanGraph.construct {} calls = some g) : g.Inv :=
  exec_invariant (fun _ _ _ hg hstep => hg.construct hstep) inv_empty h

/-- Below `2 ^ 32`, the counter of the code is that of the model. -/
theorem Inv.sound (hg : g.Inv) (hcount : g.commandNodes.length < 2 ^ 32) : g.Sound := by
  rw [hg.length_commandNodes] at hcount
  have hcodeCount : g.codeCount.toNat = g.commandNodeCount := UInt32.toNat_ofNat_of_lt' hcount
  have hcodeIndex : ∀ c ∈ g.commandNodes, (codeIndex c).toNat = c.index :=
    fun c hc => UInt32.toNat_ofNat_of_lt' ((hg.index_lt hc).trans hcount)
  refine ⟨hg.toReferences, ?_, ?_⟩
  · rw [hcodeCount, List.map_congr_left hcodeIndex]
    exact hg.numbered
  · intro nodes hnodes
    rw [List.map_congr_left fun c hc => hcodeIndex c ?_]
    · exact hg.increasing nodes hnodes
    · rw [← flatten_nodeLists]
      exact List.mem_flatten.mpr ⟨nodes, hnodes, hc⟩

/-- **However the `Add*Node` calls are mixed**, the command nodes of the graph have the numbers below the
counter, its references are in range, and a written resource names the last command that writes it. -/
theorem sound_of_construct (calls : List Call) (g : VulkanGraph)
    (h : exec VulkanGraph.construct {} calls = some g) (hcount : g.commandNodes.length < 2 ^ 32) :
    g.Sound :=
  (Inv.of_exec h).sound hcount

theorem sound_of_construct_writeRenderRead :
    ∃ g, exec VulkanGraph.construct {} writeRenderRead = some g ∧ g.Sound :=
  ⟨_, rfl, sound_of_construct writeRenderRead _ rfl (by decide)⟩

/-- A texture that is presented `n` times. -/
def presents (n : Nat) : List Call :=
  .addTextureNode 0 :: List.replicate n (.addPresentNode (textureRef 0))

theorem exec_replicate_addPresentNode (n : Nat) (h : g.IsTexture ref) :
    ∃ g', exec VulkanGraph.construct g (List.replicate n (.addPresentNode ref)) = some g' ∧
      g'.commandNodeCount = g.commandNodeCount + n := by
  induction n generalizing g with
  | zero => exact ⟨g, rfl, rfl⟩
  | succ n ih =>
    have hstep : g.construct (.addPresentNode ref) = some (g.addPresentNode ref).2 :=
      if_pos (Or.inl h)
    obtain ⟨g', hg', hcount⟩ := ih (g := (g.addPresentNode ref).2) h
    refine ⟨g', ?_, ?_⟩
    · rw [List.replicate_succ]
      exact exec_cons_eq_some.mpr ⟨_, hstep, hg'⟩
    · have hone : (g.addPresentNode ref).2.commandNodeCount = g.commandNodeCount + 1 := rfl
      omega

/-- With `2 ^ 32` command nodes the counter is 0: no command buffer is allocated, and the indices are out
of range. -/
theorem not_sound :
    ∃ g, exec VulkanGraph.construct {} (presents (2 ^ 32)) = some g ∧ ¬ g.Sound := by
  have htexture : (addTextureNode {} 0).2.IsTexture (textureRef 0) := by decide
  obtain ⟨g, hg, hcount⟩ := exec_replicate_addPresentNode (2 ^ 32) htexture
  have hexec : exec VulkanGraph.construct {} (presents (2 ^ 32)) = some g :=
    exec_cons_eq_some.mpr ⟨_, rfl, hg⟩
  refine ⟨g, hexec, fun hsound => ?_⟩
  have hnodes : g.commandNodeCount = 2 ^ 32 := hcount.trans (Nat.zero_add _)
  have hzero : g.codeCount.toNat = 0 := by
    rw [codeCount, hnodes]
    rfl
  have hlength := hsound.numbered.length_eq
  rw [List.length_map, (Inv.of_exec hexec).length_commandNodes, List.length_range, hzero] at hlength
  omega

end VulkanGraph

end Teide
