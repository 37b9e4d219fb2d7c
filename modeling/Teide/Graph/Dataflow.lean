import Mathlib.Algebra.Ring.Nat
import Mathlib.Order.Lattice
import Mathlib.Tactic.Common
import Teide.Graph.Images

/-!
# What a graph computes

A graph is a program over textures: its command nodes, in the order in which they were added, write
pixels to textures, render to them and read them back. `storeBefore` runs this program on what the
textures hold. It knows of no images, layouts, barriers or staging buffers. A render node leaves its
targets unspecified, since no graph stores what it renders.

`deliver_eq` says that executing the command buffers that `ExecuteGraph` records does the same: whatever
the GPU does with unspecified contents and attachments, every command is defined, and every receiver is
given what the program says its texture holds at that point.
-/

namespace Teide

open Runs

deriving instance DecidableEq for TextureData

/-- What the textures hold, by texture node. -/
abbrev Store := Nat → ImageContents

/-- What a command node does to the textures. The pixels of texture data are given by the index of the
texture data node. -/
def CommandNode.effect (g : VulkanGraph) (pixels : Nat → List UInt8) (unspecified store : Store) :
    CommandNode → Store
  | write node => Function.update store node.target.index
      (writeLevel (levelSize (g.sourceData node)) (pixels node.source.index)
        (store node.target.index))
  | render node => fun t => if textureRef t ∈ node.targets then unspecified t else store t
  | read _ | dispatch _ | present _ => store

/-- The textures that a command node changes. -/
def CommandNode.outputs : CommandNode → List ResourceNodeRef
  | write node => [node.target]
  | render node => node.targets
  | read _ | dispatch _ | present _ => []

namespace VulkanGraph

/-- What the textures hold before the command of an index. -/
def storeBefore (g : VulkanGraph) (pixels : Nat → List UInt8) (unspecified : Store) : Nat → Store
  | 0 => unspecified
  | i + 1 =>
    match g.commandNodes.find? (·.index = i) with
    | some c => c.effect g pixels unspecified (g.storeBefore pixels unspecified i)
    | none => g.storeBefore pixels unspecified i

/-- What a texture of the graph holds as long as nothing has been specified. -/
def unspecifiedStore (device : Device) (hardware : Hardware) : Store :=
  fun t => hardware.unspecified (device.images.length + t)

/-- What the program has for a read node. -/
def readResult (g : VulkanGraph) (device : Device) (pixels : Nat → List UInt8) (hardware : Hardware)
    (node : ReadNode) : TextureContents :=
  { g.dataOf device node.source.index with
    pixels := (g.dataOf device node.source.index).read
      (g.storeBefore pixels (unspecifiedStore device hardware) node.index node.source.index) }

/-- Texture data has the pixels that go with its size, all write nodes for a texture agree about that,
and the code can count the bytes of what is written and read. -/
structure DataFits (g : VulkanGraph) (device : Device) (pixels : Nat → List UInt8) : Prop where
  pixels : ∀ node ∈ g.writeNodes,
    (pixels node.source.index).length = (getByteSize (g.sourceData node)).toNat
  same : ∀ node ∈ g.writeNodes, g.sourceData node = g.dataOf device node.target.index
  written : ∀ node ∈ g.writeNodes, (g.dataOf device node.target.index).Countable
  read : ∀ node ∈ g.readNodes, (g.dataOf device node.source.index).Countable

instance (g : VulkanGraph) (device : Device) (pixels : Nat → List UInt8) :
    Decidable (g.DataFits device pixels) :=
  decidable_of_iff ((∀ node ∈ g.writeNodes,
      (pixels node.source.index).length = (getByteSize (g.sourceData node)).toNat) ∧
    (∀ node ∈ g.writeNodes, g.sourceData node = g.dataOf device node.target.index) ∧
    (∀ node ∈ g.writeNodes, (g.dataOf device node.target.index).Countable) ∧
    ∀ node ∈ g.readNodes, (g.dataOf device node.source.index).Countable)
    ⟨fun h => ⟨h.1, h.2.1, h.2.2.1, h.2.2.2⟩, fun h => ⟨h.pixels, h.same, h.written, h.read⟩⟩

variable {g : VulkanGraph} {device : Device} {pixels : Nat → List UInt8} {hardware : Hardware}
  {c : CommandNode} {ref : ResourceNodeRef} {t i : Nat} {s : Gpu}

/-! ### The program -/

/-- A key that is unique in a list finds its element. -/
theorem find?_key {ι : Type*} {l : List ι} {key : ι → Nat} {a : ι} (ha : a ∈ l)
    (hunique : ∀ b ∈ l, key b = key a → b = a) : l.find? (fun b => key b = key a) = some a := by
  cases hfind : l.find? fun b => key b = key a with
  | none =>
    have hne := List.find?_eq_none.mp hfind a ha
    exact absurd (decide_eq_true rfl) hne
  | some b =>
    have hkey : key b = key a := by simpa using List.find?_some hfind
    rw [hunique b (List.mem_of_find?_eq_some hfind) hkey]

theorem find?_index (hg : g.WellFormed) (hc : c ∈ g.commandNodes) :
    g.commandNodes.find? (·.index = c.index) = some c :=
  find?_key hc fun _ hc' heq => index_inj hg hc' hc heq

theorem storeBefore_succ (hg : g.WellFormed) (hc : c ∈ g.commandNodes) (unspecified : Store) :
    g.storeBefore pixels unspecified (c.index + 1) =
      c.effect g pixels unspecified (g.storeBefore pixels unspecified c.index) := by
  rw [storeBefore, find?_index hg hc]

theorem storeBefore_succ_of_unused (h : ∀ c ∈ g.commandNodes, c.index ≠ i) (unspecified : Store) :
    g.storeBefore pixels unspecified (i + 1) = g.storeBefore pixels unspecified i := by
  have hnone : g.commandNodes.find? (·.index = i) = none :=
    List.find?_eq_none.mpr fun c hc => by simpa using h c hc
  rw [storeBefore, hnone]

/-- A node leaves the textures alone that it does not change. -/
theorem effect_of_not_output (hc : c.WellFormed g) (h : textureRef t ∉ c.outputs)
    (unspecified store : Store) : c.effect g pixels unspecified store t = store t := by
  cases c with
  | write node =>
    have hne : t ≠ node.target.index := by
      rintro rfl
      apply h
      rw [CommandNode.outputs, List.mem_singleton]
      have htype : node.target.type = .texture := hc.2.1
      rw [textureRef, ← htype]
    exact Function.update_of_ne hne _ _
  | render node => exact if_neg h
  | read node => rfl
  | dispatch node => rfl
  | present node => rfl

theorem outputs_subset_accessed : c.outputs ⊆ c.accessed g device := by
  cases c with
  | write node => exact List.Subset.refl _
  | render node =>
    intro ref href
    rw [CommandNode.accessed, RenderNode.accessed, List.append_assoc]
    exact List.mem_append_right _ href
  | read node => exact List.nil_subset _
  | dispatch node => exact List.nil_subset _
  | present node => exact List.nil_subset _

/-- No access leaves a texture in an undefined layout. -/
theorem ensured_ne_undefined {change : StateChange} (h : (ref, change) ∈ c.changes) :
    change.ensuredState.layout ≠ .undefined := by
  cases c <;> simp only [CommandNode.changes, List.mem_append, List.mem_map, List.mem_singleton,
    Prod.mk.injEq] at h
  case write | read | present =>
    obtain ⟨-, rfl⟩ := h
    simp [transferDstState, transferSrcState, presentState]
  case dispatch =>
    rcases h with ⟨_, -, -, rfl⟩ | ⟨_, -, -, rfl⟩ <;> simp [kernelInputState, kernelOutputState]
  case render =>
    rcases h with (⟨_, -, -, rfl⟩ | ⟨_, -, -, rfl⟩) | ⟨_, -, -, rfl⟩ <;>
      simp [sampledState, colorTargetState, depthStencilTargetState]

theorem stateBefore_of_not_accessed (hg : g.Fresh)
    (h : ∀ c ∈ g.commandNodes, c.index = i → textureRef t ∉ c.accessed g device) :
    (g.addDependencies device).stateBefore t (i + 1) = (g.addDependencies device).stateBefore t i := by
  have hbefore := stateBefore_succ_of_not_accessed hg discarded_nil fun c hc heq _ => h c hc heq
  rwa [leaveOut_nil] at hbefore

/-- A barrier that the graph records from an undefined layout discards nothing. -/
theorem storeBefore_of_undefined (hg : g.Regular device) (ht : t < g.textureNodes.length)
    (unspecified : Store) (h : ((g.addDependencies device).stateBefore t i).layout = .undefined) :
    g.storeBefore pixels unspecified i t = unspecified t := by
  have hnode := List.getElem?_eq_getElem ht
  induction i with
  | zero => rfl
  | succ i ih =>
    by_cases hused : ∃ c ∈ g.commandNodes, c.index = i
    · obtain ⟨c, hc, rfl⟩ := hused
      by_cases haccess : textureRef t ∈ c.accessed g device
      · obtain ⟨change, hchange⟩ := exists_change hg.fresh hc haccess
        have hafter := stateBefore_succ hg.fresh hg.unique hnode discarded_nil hc
          List.not_mem_nil hchange
        rw [leaveOut_nil] at hafter
        rw [hafter] at h
        exact absurd h (ensured_ne_undefined hchange)
      · rw [stateBefore_of_not_accessed hg.fresh fun c' hc' hindex =>
          index_inj hg.fresh.wellFormed hc' hc hindex ▸ haccess] at h
        rw [storeBefore_succ hg.fresh.wellFormed hc,
          effect_of_not_output (hg.fresh.wellFormed.nodes c hc)
            fun houtput => haccess (outputs_subset_accessed houtput), ih h]
    · have hunused : ∀ c ∈ g.commandNodes, c.index ≠ i := fun c hc heq => hused ⟨c, hc, heq⟩
      rw [stateBefore_of_not_accessed hg.fresh fun c hc hindex => absurd hindex (hunused c hc)] at h
      rw [storeBefore_succ_of_unused hunused, ih h]

/-! ### The staging buffers -/

theorem buildGraph_writeNodes : (g.buildGraph device).writeNodes = g.writeNodes := by
  rw [buildGraph_eq, foldl_register_eq]
  rfl

theorem buildGraph_readNodes : (g.buildGraph device).readNodes = g.readNodes := by
  rw [buildGraph_eq, foldl_register_eq]
  rfl

theorem find?_write (hg : g.WellFormed) {node : WriteNode} (hnode : node ∈ g.writeNodes) :
    g.writeNodes.find? (fun w => w.index = node.index) = some node := by
  refine find?_key hnode fun w hw heq => ?_
  have hsame := index_inj hg (write_mem_commandNodes.mpr hw) (write_mem_commandNodes.mpr hnode) heq
  exact CommandNode.write.inj hsame

/-- A write node has its pixels in its staging buffer. -/
theorem stagingBuffer_write (hg : g.Fresh) (hdata : g.DataFits device pixels) {node : WriteNode}
    (hnode : node ∈ g.writeNodes) :
    (g.buildGraph device).stagingBuffer (g.executeGraph device).1 pixels node.index =
      some (pixels node.source.index) := by
  have hpixels := hdata.pixels node hnode
  obtain ⟨hsource, -⟩ := hg.wellFormed.nodes _ (write_mem_commandNodes.mpr hnode)
  have hget := List.getElem?_eq_getElem hsource.2
  rw [sourceData, hget] at hpixels
  rw [stagingBuffer, buildGraph_writeNodes, find?_write hg.wellFormed hnode,
    buildGraph_textureDataNodes]
  dsimp only
  rw [hget]
  exact stageUpload_eq _ hpixels

/-- A read node has a staging buffer for all levels of its texture. -/
theorem stagingBuffer_read (hg : g.Fresh)
    (hdistinct : (g.textureNodes.map TextureNode.texture).Nodup) {node : ReadNode}
    (hnode : node ∈ g.readNodes) (halive : node.expired = false) :
    (g.buildGraph device).stagingBuffer (g.executeGraph device).1 pixels node.index =
      some (List.replicate (getByteSize (g.dataOf device node.source.index)).toNat 0xef) := by
  have hmem := read_mem_commandNodes.mpr hnode
  have hwrites : g.writeNodes.find? (fun w => w.index = node.index) = none := by
    refine List.find?_eq_none.mpr fun w hw => ?_
    have hne : w.index ≠ node.index := fun heq => CommandNode.noConfusion
      (index_inj hg.wellFormed (write_mem_commandNodes.mpr hw) hmem heq)
    simpa using hne
  have hreads : g.readNodes.find? (fun r => r.index = node.index ∧ r.expired = false) = some node := by
    cases hfind : g.readNodes.find? fun r => r.index = node.index ∧ r.expired = false with
    | none =>
      have hne := List.find?_eq_none.mp hfind node hnode
      exact absurd (decide_eq_true ⟨rfl, halive⟩) hne
    | some r =>
      have hkey : r.index = node.index ∧ r.expired = false := by simpa using List.find?_some hfind
      have hsame := index_inj hg.wellFormed
        (read_mem_commandNodes.mpr (List.mem_of_find?_eq_some hfind)) hmem hkey.1
      rw [CommandNode.read.inj hsame]
  have hsource : g.IsTexture node.source := hg.wellFormed.nodes _ hmem
  have hget := List.getElem?_eq_getElem hsource.2
  rw [stagingBuffer, buildGraph_writeNodes, hwrites]
  dsimp only
  rw [buildGraph_readNodes, hreads]
  dsimp only
  rw [buildGraph_textureNodes_getElem? hg.stateChanges, hget, Option.map_some, Option.map_some,
    ← executeGraph_data device hg hdistinct hget]

theorem exists_stagingBuffer (hg : g.Regular device) (hdata : g.DataFits device pixels)
    (halive : ∀ node ∈ g.readNodes, node.expired = false) (i : Nat) : ∃ buffer,
    (g.buildGraph device).stagingBuffer (g.executeGraph device).1 pixels i = some buffer := by
  by_cases hwrite : ∃ node ∈ g.writeNodes, node.index = i
  · obtain ⟨node, hnode, rfl⟩ := hwrite
    exact ⟨_, stagingBuffer_write hg.fresh hdata hnode⟩
  by_cases hread : ∃ node ∈ g.readNodes, node.index = i
  · obtain ⟨node, hnode, rfl⟩ := hread
    exact ⟨_, stagingBuffer_read hg.fresh hg.distinct hnode (halive node hnode)⟩
  have hwrites : g.writeNodes.find? (fun w => w.index = i) = none :=
    List.find?_eq_none.mpr fun w hw => by simpa using fun heq => hwrite ⟨w, hw, heq⟩
  have hreads : g.readNodes.find? (fun r => r.index = i ∧ r.expired = false) = none :=
    List.find?_eq_none.mpr fun r hr => by
      simpa using fun heq => absurd ⟨r, hr, heq⟩ hread
  refine ⟨[], ?_⟩
  rw [stagingBuffer, buildGraph_writeNodes, hwrites]
  dsimp only
  rw [buildGraph_readNodes, hreads]

/-! ### One command buffer -/

/-- Before a command index, the GPU has the textures in the layouts that the graph believes them to be
in and with the contents that the program gives them, and has filled the staging buffers of the read
nodes so far. -/
structure Represents (g : VulkanGraph) (device : Device) (pixels : Nat → List UInt8)
    (hardware : Hardware) (i : Nat) (s : Gpu) : Prop where
  layouts : g.Tracks device [] i s.layouts
  images : ∀ t < g.textureNodes.length, s.images (device.images.length + t) =
    g.storeBefore pixels (unspecifiedStore device hardware) i t
  writes : ∀ node ∈ g.writeNodes, i ≤ node.index → s.staging node.index = pixels node.source.index
  reads : ∀ node ∈ g.readNodes, i ≤ node.index → (s.staging node.index).length =
    (getByteSize (g.dataOf device node.source.index)).toNat
  results : ∀ node ∈ g.readNodes, node.index < i →
    s.staging node.index = (g.readResult device pixels hardware node).pixels

section Step

variable (hg : g.Regular device) (hc : c ∈ g.commandNodes)
  (hs : g.Represents device pixels hardware c.index s)

include hg hc hs

/-- What the graph expects of the layouts is what they are. -/
theorem Represents.found : ∀ t, textureRef t ∈ c.expects g device →
    s.layouts (device.images.length + t) =
      ((g.addDependencies device).stateBefore t c.index).layout := by
  intro t href
  obtain ⟨t', node, heq, hnode⟩ := exists_node_of_mem_expects hg.fresh hc href
  obtain rfl : t = t' := congrArg ResourceNodeRef.index heq
  have hlayout := hs.layouts t (List.getElem?_eq_some_iff.mp hnode).choose
  rwa [leaveOut_nil] at hlayout

/-- The barriers of a node change layouts only, and leave the work of the node well defined. -/
theorem Represents.exec_bring : ∃ layouts,
    exec (Gpu.step (g.executeGraph device).1.images hardware) s
      (numbered c.index (bring (g.transitionsOf device c))) = some { s with layouts := layouts } ∧
    Each runCommand VkCommand.LayoutsOk layouts
      ((c.addDependencies g device).work (g.buildGraph device) (g.executeGraph device).1) ∧
    ((c.addDependencies g device).Records → g.Tracks device [] (c.index + 1) (executeAll layouts
      ((c.addDependencies g device).work (g.buildGraph device) (g.executeGraph device).1))) := by
  have hfound := hs.found hg hc
  have hlayouts := (each_process_iff hg hc).mpr hfound
  rw [process_eq_bring hg hc, each_runCommand_append] at hlayouts
  refine ⟨executeAll s.layouts (bring (g.transitionsOf device c)), ?_, hlayouts.2, fun hrecords => ?_⟩
  · refine Teide.exec_bring hlayouts.1 ?_
    refine (forall_transitionsOf (P := fun image transition =>
      transition.old.layout = .undefined → s.images image = hardware.unspecified image) hg hc).mpr ?_
    intro t href hundefined
    obtain ⟨t', node, heq, hnode⟩ := exists_node_of_mem_expects hg.fresh hc href
    obtain rfl : t = t' := congrArg ResourceNodeRef.index heq
    have hlt := (List.getElem?_eq_some_iff.mp hnode).choose
    rw [hs.images t hlt, storeBefore_of_undefined hg hlt _ hundefined, unspecifiedStore]
  · rw [← executeAll_append, ← process_eq_bring hg hc]
    exact tracks_process hg hc discarded_nil List.not_mem_nil hrecords hs.layouts hfound

end Step

section Work

variable (hg : g.Regular device) (hdata : g.DataFits device pixels)

include hg hdata

/-- A write node replaces level 0 of its target by its pixels. -/
theorem exec_work_write {node : WriteNode} (hnode : node ∈ g.writeNodes)
    (hlayouts : Each runCommand VkCommand.LayoutsOk s.layouts
      ((CommandNode.write node).work (g.buildGraph device) (g.executeGraph device).1))
    (hstaging : s.staging node.index = pixels node.source.index) :
    exec (Gpu.step (g.executeGraph device).1.images hardware) s (numbered node.index
        ((CommandNode.write node).work (g.buildGraph device) (g.executeGraph device).1)) =
      some { s with
        layouts := executeAll s.layouts
          ((CommandNode.write node).work (g.buildGraph device) (g.executeGraph device).1)
        images := Function.update s.images (device.images.length + node.target.index)
          (writeLevel (levelSize (g.sourceData node)) (pixels node.source.index)
            (s.images (device.images.length + node.target.index))) } := by
  obtain ⟨hsource, htarget⟩ := hg.fresh.wellFormed.nodes _ (write_mem_commandNodes.mpr hnode)
  have hget := List.getElem?_eq_getElem hsource.2
  have hsame := hdata.same node hnode
  have hpixels := hdata.pixels node hnode
  have hcountable := hdata.written node hnode
  obtain ⟨info, hinfo, hformat, hextent, hlevels⟩ := executeGraph_info device hg.fresh
    hg.distinct (List.getElem?_eq_getElem htarget.2)
  rw [← hsame] at hformat hextent hlevels hcountable
  have hwork : (CommandNode.write node).work (g.buildGraph device) (g.executeGraph device).1 =
      [.copyBufferToImage (device.images.length + node.target.index) .transferDstOptimal
        (g.sourceData node).format (g.sourceData node).size] := by
    rw [CommandNode.work, buildGraph_textureDataNodes, imageOf_buildGraph hg.fresh hg.distinct htarget,
      sourceData, hget]
    rfl
  rw [hwork, each_runCommand_singleton] at hlayouts
  rw [hwork]
  refine (congrArg (Option.bind · some) (step_copyBufferToImage hlayouts ?_ ?_)).trans rfl
  · exact ⟨info, hinfo, hformat, hextent, by rw [hlevels]; exact hcountable.levels⟩
  · rw [hstaging]
    exact copyToImage_eq hcountable hpixels _

/-- A read node fills its staging buffer with all levels of its texture. -/
theorem exec_work_read {node : ReadNode} (hnode : node ∈ g.readNodes) (halive : node.expired = false)
    (hlayouts : Each runCommand VkCommand.LayoutsOk s.layouts
      ((CommandNode.read node).work (g.buildGraph device) (g.executeGraph device).1))
    (hstaging : (s.staging node.index).length =
      (getByteSize (g.dataOf device node.source.index)).toNat) :
    exec (Gpu.step (g.executeGraph device).1.images hardware) s (numbered node.index
        ((CommandNode.read node).work (g.buildGraph device) (g.executeGraph device).1)) =
      some { s with
        layouts := executeAll s.layouts
          ((CommandNode.read node).work (g.buildGraph device) (g.executeGraph device).1)
        staging := Function.update s.staging node.index
          ((g.dataOf device node.source.index).read
            (s.images (device.images.length + node.source.index))) } := by
  have hsource : g.IsTexture node.source :=
    hg.fresh.wellFormed.nodes _ (read_mem_commandNodes.mpr hnode)
  have hget := List.getElem?_eq_getElem hsource.2
  have hcountable := hdata.read node hnode
  obtain ⟨info, hinfo, hformat, hextent, hlevels⟩ := executeGraph_info device hg.fresh
    hg.distinct hget
  have hproperties := executeGraph_data device hg.fresh hg.distinct hget
  have hwork : (CommandNode.read node).work (g.buildGraph device) (g.executeGraph device).1 =
      [.copyImageToBuffer (device.images.length + node.source.index) .transferSrcOptimal
        (g.dataOf device node.source.index).format (g.dataOf device node.source.index).size
        (g.dataOf device node.source.index).mipLevelCount] := by
    have hlive : ¬ node.expired = true := by simp [halive]
    rw [← hproperties, CommandNode.work, if_neg hlive,
      buildGraph_textureNodes_getElem? hg.fresh.stateChanges, hget, Option.map_some,
      ← executeGraph_image hg.fresh hg.distinct hget device]
    rfl
  rw [hwork, each_runCommand_singleton] at hlayouts
  rw [hwork]
  refine (congrArg (Option.bind · some) (step_copyImageToBuffer hlayouts ?_ ?_)).trans rfl
  · exact ⟨info, hinfo, hformat, hextent, hlevels⟩
  · exact foldlM_downloadRegions hcountable hstaging _

omit hdata

/-- A render node records one render pass, which has an attachment for each target and stores none. -/
theorem exists_work_render {node : RenderNode} (hnode : node ∈ g.renderNodes)
    (hinfo : InfoOfTargets node) : ∃ attachments sampled,
    ((CommandNode.render node).addDependencies g device).work (g.buildGraph device)
        (g.executeGraph device).1 = [.renderPass attachments sampled] ∧
      (∀ a ∈ attachments, a.1.storeOp = .dontCare) ∧
      attachments.map Prod.snd = node.targets.map fun ref => device.images.length + ref.index := by
  have hwf : (node.addDependencies g device).WellFormed g :=
    wellFormed_built hg (render_mem_commandNodes.mpr hnode)
  have hinfo : InfoOfTargets (node.addDependencies g device) := by
    rw [addDependencies_eq]
    exact hinfo
  have htargets : (node.addDependencies g device).targets = node.targets := by
    rw [addDependencies_eq]
    rfl
  refine ⟨_, _, work_render_eq fun ref href => imageOf_buildGraph hg.fresh hg.distinct
    (isTexture_of_mem_targets hwf href) device, fun a ha => ?_, ?_⟩
  · obtain ⟨a', ha', rfl⟩ := List.mem_map.mp ha
    exact storeOp_of_mem_attachments hinfo a' ha'
  · rw [List.map_map, ← htargets, ← map_snd_attachments hinfo, List.map_map]
    rfl

variable (hardware) in
/-- A render node leaves its targets unspecified. -/
theorem exec_work_render {node : RenderNode} (hnode : node ∈ g.renderNodes)
    (hinfo : InfoOfTargets node)
    (hlayouts : Each runCommand VkCommand.LayoutsOk s.layouts
      (((CommandNode.render node).addDependencies g device).work (g.buildGraph device)
        (g.executeGraph device).1)) : ∃ images,
    exec (Gpu.step (g.executeGraph device).1.images hardware) s (numbered node.index
        (((CommandNode.render node).addDependencies g device).work (g.buildGraph device)
          (g.executeGraph device).1)) =
      some { s with
        layouts := executeAll s.layouts (((CommandNode.render node).addDependencies g device).work
          (g.buildGraph device) (g.executeGraph device).1)
        images := images } ∧
    ∀ t, images (device.images.length + t) =
      if textureRef t ∈ node.targets then hardware.unspecified (device.images.length + t)
      else s.images (device.images.length + t) := by
  obtain ⟨attachments, sampled, hwork, hstore, himages⟩ := exists_work_render hg hnode hinfo
  rw [hwork, each_runCommand_singleton] at hlayouts
  rw [hwork]
  refine ⟨_, (congrArg (Option.bind · some) (step_eq hlayouts trivial rfl)).trans rfl,
    fun t => ?_⟩
  refine (endRenderPass_apply hstore _).trans (if_congr ?_ rfl rfl)
  rw [himages, List.mem_map]
  constructor
  · rintro ⟨ref, href, heq⟩
    have hwf : node.WellFormed g := hg.fresh.wellFormed.nodes _ (render_mem_commandNodes.mpr hnode)
    have htexture := isTexture_of_mem_targets hwf href
    have hindex : ref.index = t := Nat.add_left_cancel heq
    rwa [textureRef, ← hindex, ← htexture.1]
  · exact fun href => ⟨_, href, rfl⟩

end Work

/-- What the program does is done, if the contents follow its effect and only the staging buffer of a
read node changes. -/
theorem Represents.of_work {t : Gpu} (hg : g.Regular device) (hc : c ∈ g.commandNodes)
    (hs : g.Represents device pixels hardware c.index s)
    (hlayouts : g.Tracks device [] (c.index + 1) t.layouts)
    (himages : ∀ k < g.textureNodes.length, t.images (device.images.length + k) =
      c.effect g pixels (unspecifiedStore device hardware)
        (g.storeBefore pixels (unspecifiedStore device hardware) c.index) k)
    (hstaging : ∀ i ≠ c.index, t.staging i = s.staging i)
    (hresult : ∀ node, c = .read node →
      t.staging node.index = (g.readResult device pixels hardware node).pixels) :
    g.Represents device pixels hardware (c.index + 1) t where
  layouts := hlayouts
  images k hk := by
    rw [himages k hk, storeBefore_succ hg.fresh.wellFormed hc]
  writes node hnode hle := by
    rw [hstaging node.index (by omega)]
    exact hs.writes node hnode (by omega)
  reads node hnode hle := by
    rw [hstaging node.index (by omega)]
    exact hs.reads node hnode (by omega)
  results node hnode hlt := by
    by_cases heq : node.index = c.index
    · exact hresult node (index_inj hg.fresh.wellFormed hc (read_mem_commandNodes.mpr hnode) heq.symm)
    · rw [hstaging node.index heq]
      exact hs.results node hnode (by omega)

/-- A command buffer does what its command node does. -/
theorem Represents.step (hg : g.Regular device) (hdata : g.DataFits device pixels)
    (hinfo : ∀ node ∈ g.renderNodes, InfoOfTargets node) (hdispatch : g.dispatchNodes = [])
    (hpresent : g.presentNodes = []) (halive : ∀ node ∈ g.readNodes, node.expired = false)
    (hc : c ∈ g.commandNodes) (hs : g.Represents device pixels hardware c.index s) : ∃ t,
    exec (Gpu.step (g.executeGraph device).1.images hardware) s (numbered c.index
        ((c.addDependencies g device).process (g.buildGraph device) (g.executeGraph device).1)) =
      some t ∧ g.Represents device pixels hardware (c.index + 1) t := by
  obtain ⟨layouts, hbring, hlayouts, htracks⟩ := hs.exec_bring hg hc
  have hprocess : ∀ t, exec (Gpu.step (g.executeGraph device).1.images hardware)
      { s with layouts := layouts } (numbered c.index
        ((c.addDependencies g device).work (g.buildGraph device) (g.executeGraph device).1)) =
          some t →
      exec (Gpu.step (g.executeGraph device).1.images hardware) s (numbered c.index
        ((c.addDependencies g device).process (g.buildGraph device) (g.executeGraph device).1)) =
          some t := by
    intro t ht
    rw [process_eq_bring hg hc, numbered, List.map_append, exec_append]
    refine (congrArg (Option.bind · _) hbring).trans ?_
    exact ht
  cases c with
  | write node =>
    have hnode := write_mem_commandNodes.mp hc
    have hwork := hprocess _ (exec_work_write hg hdata hnode hlayouts
      (hs.writes node hnode (le_refl _)))
    have htarget := (hg.fresh.wellFormed.nodes _ hc).2
    refine ⟨_, hwork, hs.of_work hg hc (htracks trivial) (fun k hk => ?_)
      (fun _ _ => rfl) fun _ heq => CommandNode.noConfusion heq⟩
    dsimp only [CommandNode.effect]
    by_cases heq : k = node.target.index
    · rw [heq, Function.update_self, Function.update_self, hs.images _ htarget.2]
    · have hne : device.images.length + k ≠ device.images.length + node.target.index := by omega
      rw [Function.update_of_ne heq, Function.update_of_ne hne, hs.images k hk]
  | read node =>
    have hnode := read_mem_commandNodes.mp hc
    have hsource : g.IsTexture node.source := hg.fresh.wellFormed.nodes _ hc
    have hwork := hprocess _ (exec_work_read hg hdata hnode (halive node hnode) hlayouts
      (hs.reads node hnode (le_refl _)))
    refine ⟨_, hwork, hs.of_work hg hc (htracks (halive node hnode)) hs.images
      (fun i hi => Function.update_of_ne hi _ _) fun node' heq => ?_⟩
    obtain rfl := CommandNode.read.inj heq
    dsimp only
    rw [Function.update_self, readResult, hs.images _ hsource.2]
    rfl
  | render node =>
    have hnode := render_mem_commandNodes.mp hc
    obtain ⟨images, hwork, himages⟩ := exec_work_render hardware (s := { s with layouts := layouts })
      hg hnode (hinfo node hnode) hlayouts
    refine ⟨_, hprocess _ hwork, hs.of_work hg hc (htracks trivial) (fun k hk => ?_)
      (fun _ _ => rfl) fun _ heq => CommandNode.noConfusion heq⟩
    dsimp only [CommandNode.effect]
    rw [himages, hs.images k hk, unspecifiedStore]
  | dispatch node =>
    have hmem := dispatch_mem_commandNodes.mp hc
    rw [hdispatch] at hmem
    exact absurd hmem List.not_mem_nil
  | present node =>
    have hmem := present_mem_commandNodes.mp hc
    rw [hpresent] at hmem
    exact absurd hmem List.not_mem_nil

/-- Nothing happens where no command node is. -/
theorem Represents.skip (hg : g.Regular device) (h : ∀ c ∈ g.commandNodes, c.index ≠ i)
    (hs : g.Represents device pixels hardware i s) :
    g.Represents device pixels hardware (i + 1) s where
  layouts k hk := by
    rw [stateBefore_succ_of_not_accessed hg.fresh discarded_nil fun c hc heq => absurd heq (h c hc)]
    exact hs.layouts k hk
  images k hk := by
    rw [storeBefore_succ_of_unused h]
    exact hs.images k hk
  writes node hnode hle := hs.writes node hnode (by omega)
  reads node hnode hle := hs.reads node hnode (by omega)
  results node hnode hlt := by
    have hne := h _ (read_mem_commandNodes.mpr hnode)
    exact hs.results node hnode (Nat.lt_of_le_of_ne (Nat.le_of_lt_succ hlt) hne)

/-! ### All command buffers -/

theorem mapM_eq_map {α β : Type*} {f : α → Option β} {h : α → β} {l : List α}
    (heq : ∀ a ∈ l, f a = some (h a)) : l.mapM f = some (l.map h) := by
  induction l with
  | nil => rfl
  | cons a l ih =>
    rw [List.mapM_cons, heq a List.mem_cons_self, ih fun b hb => heq b (List.mem_cons_of_mem a hb)]
    rfl

variable (hardware) in
/-- The graph is submitted with new images and all staging buffers. -/
theorem represents_init (hg : g.Regular device) (hdata : g.DataFits device pixels)
    (halive : ∀ node ∈ g.readNodes, node.expired = false) : ∃ staging,
    (List.range g.commandNodeCount).mapM
        ((g.buildGraph device).stagingBuffer (g.executeGraph device).1 pixels) = some staging ∧
      g.Represents device pixels hardware 0 (initialGpu hardware staging) := by
  choose buffer hbuffer using exists_stagingBuffer hg hdata halive
  have hget : ∀ c ∈ g.commandNodes, (initialGpu hardware
      ((List.range g.commandNodeCount).map buffer)).staging c.index = buffer c.index := by
    intro c hc
    have hlt := hg.fresh.wellFormed.indices_lt c hc
    simp [initialGpu, hlt]
  refine ⟨_, mapM_eq_map fun i _ => hbuffer i, ?_⟩
  constructor
  · exact tracks_init
  · exact fun t _ => rfl
  · intro node hnode _
    exact (hget _ (write_mem_commandNodes.mpr hnode)).trans
      (Option.some.inj ((hbuffer _).symm.trans (stagingBuffer_write hg.fresh hdata hnode)))
  · intro node hnode _
    have hread := (hbuffer _).symm.trans
      (stagingBuffer_read hg.fresh hg.distinct hnode (halive node hnode))
    have hlength := congrArg List.length (Option.some.inj hread)
    rw [List.length_replicate] at hlength
    exact (congrArg List.length (hget _ (read_mem_commandNodes.mpr hnode))).trans hlength
  · exact fun node _ hlt => absurd hlt (Nat.not_lt_zero _)

/-- A read node's receiver is given what is in its staging buffer in the end. -/
theorem receive_eq (hg : g.Regular device) {node : ReadNode} (hnode : node ∈ g.readNodes)
    (hresult : s.staging node.index = (g.readResult device pixels hardware node).pixels) :
    (g.buildGraph device).receive (g.executeGraph device).1
        ((List.range g.commandNodeCount).map s.staging) node =
      some (g.readResult device pixels hardware node) := by
  have hmem := read_mem_commandNodes.mpr hnode
  have hsource : g.IsTexture node.source := hg.fresh.wellFormed.nodes _ hmem
  have hget := List.getElem?_eq_getElem hsource.2
  have hbuffer : ((List.range g.commandNodeCount).map s.staging)[node.index]? =
      some (s.staging node.index) := by
    have hlt : node.index < g.commandNodeCount := hg.fresh.wellFormed.indices_lt _ hmem
    simp [hlt]
  have hproperties := executeGraph_data device hg.fresh hg.distinct hget
  unfold receive
  rw [buildGraph_textureNodes_getElem? hg.fresh.stateChanges, hget, hbuffer, hresult]
  exact congrArg (fun data : TextureData => some ({ data with
    pixels := (g.readResult device pixels hardware node).pixels } : TextureContents)) hproperties

/-- What is delivered, for a graph in which every command is well defined. -/
theorem Regular.deliver (hg : g.Regular device) (hinfo : ∀ node ∈ g.renderNodes, InfoOfTargets node)
    (hdispatch : g.dispatchNodes = []) (hpresent : g.presentNodes = [])
    (halive : ∀ node ∈ g.readNodes, node.expired = false) (hdata : g.DataFits device pixels)
    (hardware : Hardware) : g.deliver device pixels hardware =
      some (g.readNodes.map (g.readResult device pixels hardware)) := by
  obtain ⟨staging, hstaging, hinit⟩ := represents_init hardware hg hdata halive
  have hlength : ((g.executeGraph device).2.mapIdx numbered).length = g.commandNodeCount := by
    rw [List.length_mapIdx, length_cmdBuffers]
  have hrun : ∃ s, exec (Gpu.step (g.executeGraph device).1.images hardware)
      (initialGpu hardware staging) ((g.executeGraph device).2.mapIdx numbered).flatten = some s ∧
        g.Represents device pixels hardware g.commandNodeCount s := by
    rw [← hlength]
    refine exec_flatten (g.Represents device pixels hardware) (fun k segment s hsegment hs => ?_) hinit
    rw [List.getElem?_mapIdx, Option.map_eq_some_iff] at hsegment
    obtain ⟨cmdBuffer, hbuffer, rfl⟩ := hsegment
    rcases cmdBuffer_cases hg.fresh discarded_nil hbuffer with ⟨c, hc, rfl, -, rfl⟩ | ⟨rfl, hnone⟩
    · exact hs.step hg hdata hinfo hdispatch hpresent halive hc
    · exact ⟨s, rfl, hs.skip hg fun c hc heq => absurd (hnone c hc heq) List.not_mem_nil⟩
  obtain ⟨s, hexec, hs⟩ := hrun
  have hreceive : ∀ node ∈ g.readNodes, (g.buildGraph device).receive (g.executeGraph device).1
      ((List.range g.commandNodeCount).map s.staging) node =
        some (g.readResult device pixels hardware node) := fun node hnode =>
    receive_eq hg hnode (hs.results node hnode
      (hg.fresh.wellFormed.indices_lt _ (read_mem_commandNodes.mpr hnode)))
  unfold VulkanGraph.deliver
  dsimp only
  rw [length_cmdBuffers, hstaging, buildGraph_readNodes, Option.bind_eq_bind, Option.bind_some, hexec,
    Option.bind_eq_bind, Option.bind_some, mapM_eq_map hreceive]

theorem infoOfTargets_of_step (h : Reachable VulkanGraph.step {} g) :
    ∀ node ∈ g.renderNodes, InfoOfTargets node := by
  obtain ⟨calls, hcalls⟩ := h
  exact fun node => infoOfTargets_of_reachable ⟨calls, exec_construct_of_exec_step hcalls⟩

def swatch : TextureData := { size := ⟨1, 1⟩, format := .byte4Norm }

/-- A texture is written twice and sampled by a render node. It is read after either write, and the
render node's target at the end. -/
def writeTwice : List Call :=
  [.addTextureNode 0, .addTextureNode 1, .addTextureDataNode swatch, .addTextureDataNode swatch,
    .addWriteNode (textureDataRef 0) (textureRef 0), .addReadNode (textureRef 0),
    .addWriteNode (textureDataRef 1) (textureRef 0),
    .addRenderNode (fun _ => {}) { viewParameters := { textures := [0] } } (some (textureRef 1)) none,
    .addReadNode (textureRef 0), .addReadNode (textureRef 1)]

def swatchDevice : Device :=
  { textures := fun _ => { properties := { size := swatch.size, format := swatch.format } } }

def swatchPixels (source : Nat) : List UInt8 := List.replicate 4 source.toUInt8

/-- Unspecified bytes are 7. -/
def sevens : Hardware where
  unspecified := fun _ _ _ => 7
  draw := fun _ _ _ _ _ => 7

/-- The pixels of a write node stay until a later node changes the texture. -/
theorem storeBefore_of_write (hg : g.WellFormed) {w : WriteNode} (hw : w ∈ g.writeNodes)
    (hlt : w.index < i) (hbetween : ∀ c ∈ g.commandNodes, w.index < c.index → c.index < i →
      w.target ∉ c.outputs) (unspecified : Store) :
    g.storeBefore pixels unspecified i w.target.index =
      writeLevel (levelSize (g.sourceData w)) (pixels w.source.index)
        (g.storeBefore pixels unspecified w.index w.target.index) := by
  have hmem := write_mem_commandNodes.mpr hw
  have htarget : textureRef w.target.index = w.target := by
    obtain ⟨-, htype, -⟩ := hg.nodes _ hmem
    rw [textureRef, ← htype]
  induction i, hlt using Nat.le_induction with
  | base =>
    have hsucc : g.storeBefore pixels unspecified (w.index + 1) = _ :=
      storeBefore_succ hg hmem unspecified
    exact (congrFun hsucc _).trans (Function.update_self _ _ _)
  | succ i hle ih =>
    have ih := ih fun c hc hfrom hto => hbetween c hc hfrom (Nat.lt_succ_of_lt hto)
    by_cases hused : ∃ c ∈ g.commandNodes, c.index = i
    · obtain ⟨c, hc, rfl⟩ := hused
      have houtput := hbetween c hc hle (Nat.lt_succ_self _)
      rw [← htarget] at houtput
      rw [storeBefore_succ hg hc, effect_of_not_output (hg.nodes c hc) houtput, ih]
    · rw [storeBefore_succ_of_unused fun c hc heq => hused ⟨c, hc, heq⟩, ih]

end VulkanGraph

end Teide
