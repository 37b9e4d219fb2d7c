import Teide.Graph.WellFormed

/-!
# Adding nodes with any references

The `Add*Node` functions do not look at the type of a reference, except that a render target is looked up
as a texture. `construct` is `step` with no more than that: references are those of earlier calls.

A resource node keeps the command that writes it. `sourceOf` reads it, and each `Add*Node` function is
described by what it makes of the sources (`sources_addWriteNode` and so on) beside the skeleton. What a
call can do to a graph is said once, in `construct_cases`.
-/

namespace Teide

namespace CommandNode

/-- The references that the node stores. -/
def storedRefs : CommandNode → List ResourceNodeRef
  | write node => [node.source, node.target]
  | read node => [node.source]
  | render node => node.colorTarget.toList ++ node.depthStencilTarget.toList ++ node.dependencies
  | dispatch node => node.dependencies ++ node.outputs
  | present node => [node.source]

/-- The node writes the resource. -/
def Writes (ref : ResourceNodeRef) : CommandNode → Prop
  | write node => ref = node.target
  | render node => ref ∈ node.colorTarget ∨ ref ∈ node.depthStencilTarget
  | dispatch node => ref ∈ node.outputs
  | read _ | present _ => False

end CommandNode

namespace VulkanGraph

/-- The reference is in range for the list of its type. -/
def IsResource (g : VulkanGraph) (ref : ResourceNodeRef) : Prop :=
  g.IsTexture ref ∨ g.IsTextureData ref

instance (g : VulkanGraph) (ref : ResourceNodeRef) : Decidable (g.IsResource ref) :=
  inferInstanceAs (Decidable (_ ∨ _))

/-- `step`, but with references of either type where the code does not ask for one. -/
def construct (g : VulkanGraph) : Call → Option VulkanGraph
  | .addTextureNode texture => some (g.addTextureNode texture).2
  | .addTextureDataNode data => some (g.addTextureDataNode data).2
  | .addWriteNode source target =>
    if g.IsResource source ∧ g.IsResource target then some (g.addWriteNode source target).2 else none
  | .addReadNode source => if g.IsResource source then some (g.addReadNode source) else none
  | .addRenderNode properties renderList colorTarget depthStencilTarget =>
    if (∀ ref ∈ colorTarget, g.IsTexture ref) ∧ ∀ ref ∈ depthStencilTarget, g.IsTexture ref then
      some (g.addRenderNode properties renderList colorTarget depthStencilTarget).2
    else none
  | .addDispatchNode inputs outputs =>
    if (∀ ref ∈ inputs, g.IsResource ref) ∧ ∀ ref ∈ outputs, g.IsResource ref then
      some (g.addDispatchNode inputs outputs).2
    else none
  | .addPresentNode source => if g.IsResource source then some (g.addPresentNode source).2 else none
  | .destroySender i =>
    if i < g.readNodes.length then some (g.destroySender i) else none

/-- The command that a resource node names as its source. -/
def sourceOf (g : VulkanGraph) (ref : ResourceNodeRef) : Option CommandNodeRef :=
  match ref.type with
  | .texture => g.textureNodes[ref.index]?.map (·.source)
  | .textureData => g.textureDataNodes[ref.index]?.bind (·.source)

/-- The command node of a reference. -/
def command? (g : VulkanGraph) (ref : CommandNodeRef) : Option CommandNode :=
  match ref.type with
  | .write => g.writeNodes[ref.index]?.map .write
  | .read => g.readNodes[ref.index]?.map .read
  | .render => g.renderNodes[ref.index]?.map .render
  | .dispatch => g.dispatchNodes[ref.index]?.map .dispatch
  | .present => g.presentNodes[ref.index]?.map .present

/-- The reference of the next command node of the type. -/
def nextRef (g : VulkanGraph) (c : CommandNode) : CommandNodeRef :=
  match c with
  | .write _ => ⟨.write, g.writeNodes.length⟩
  | .read _ => ⟨.read, g.readNodes.length⟩
  | .render _ => ⟨.render, g.renderNodes.length⟩
  | .dispatch _ => ⟨.dispatch, g.dispatchNodes.length⟩
  | .present _ => ⟨.present, g.presentNodes.length⟩

variable {g g' : VulkanGraph} {c : CommandNode} {ref : ResourceNodeRef} {r : CommandNodeRef}

/-- The graphs of `step` are among those of `construct`. -/
theorem construct_of_step {call : Call} (h : g.step call = some g') : g.construct call = some g' := by
  cases call with
  | addWriteNode source target =>
    obtain ⟨⟨hsource, htarget⟩, heq⟩ := Option.ite_none_right_eq_some.mp h
    exact (if_pos ⟨Or.inr hsource, Or.inl htarget⟩).trans heq
  | addReadNode source =>
    obtain ⟨hsource, heq⟩ := Option.ite_none_right_eq_some.mp h
    exact (if_pos (Or.inl hsource)).trans heq
  | _ => exact h

/-- What holds of the runs of `construct` holds of those of `step`. -/
theorem exec_construct_of_exec_step {calls : List Call}
    (h : Runs.exec VulkanGraph.step g calls = some g') :
    Runs.exec VulkanGraph.construct g calls = some g' := by
  induction calls generalizing g with
  | nil => exact h
  | cons call calls ih =>
    obtain ⟨g₁, hstep, hrest⟩ := Runs.exec_cons_eq_some.mp h
    exact Runs.exec_cons_eq_some.mpr ⟨g₁, construct_of_step hstep, ih hrest⟩

/-! ### Resources in range -/

theorem ResourcesLE.isResource (h : ResourcesLE g g') (href : g.IsResource ref) :
    g'.IsResource ref :=
  href.imp h.isTexture h.isTextureData

theorem isResource_addUsage (usage : ImageUsageFlags) (ref' : ResourceNodeRef) :
    (g.addUsage ref' usage).IsResource ref ↔ g.IsResource ref :=
  ⟨(resourcesLE_of_skeleton_eq (skeleton_addUsage ref' usage)).isResource,
    (resourcesLE_of_skeleton_eq (skeleton_addUsage ref' usage).symm).isResource⟩

theorem isResource_setSource (ref' : ResourceNodeRef) :
    (g.setSource ref' r).IsResource ref ↔ g.IsResource ref :=
  ⟨(resourcesLE_of_skeleton_eq (skeleton_setSource ref' r)).isResource,
    (resourcesLE_of_skeleton_eq (skeleton_setSource ref' r).symm).isResource⟩

/-! ### Sources -/

@[simp] theorem sourceOf_addUsage (ref' : ResourceNodeRef) (usage : ImageUsageFlags) :
    (g.addUsage ref' usage).sourceOf ref = g.sourceOf ref := by
  obtain ⟨type', i'⟩ := ref'
  obtain ⟨type, i⟩ := ref
  cases type' with
  | textureData => rfl
  | texture =>
    cases type with
    | textureData => rfl
    | texture =>
      have hsources := ListSet.map_modify_of_eq (fun node : TextureNode => node.source)
        (fun node => { node with usage := node.usage ∪ usage }) (fun _ => rfl) g.textureNodes i'
      show ((g.textureNodes.modify i' _)[i]?).map _ = (g.textureNodes[i]?).map _
      rw [← List.getElem?_map, hsources, List.getElem?_map]

theorem sourceOf_setSource_of_ne {ref' : ResourceNodeRef} (h : ref ≠ ref') :
    (g.setSource ref' r).sourceOf ref = g.sourceOf ref := by
  obtain ⟨type', i'⟩ := ref'
  obtain ⟨type, i⟩ := ref
  cases type' with
  | texture =>
    cases type with
    | textureData => rfl
    | texture =>
      have hne : i' ≠ i := fun heq => h (by rw [heq])
      show ((g.textureNodes.modify i' _)[i]?).map _ = _
      rw [List.getElem?_modify_ne _ _ hne]
      rfl
  | textureData =>
    cases type with
    | texture => rfl
    | textureData =>
      have hne : i' ≠ i := fun heq => h (by rw [heq])
      show ((g.textureDataNodes.modify i' _)[i]?).bind _ = _
      rw [List.getElem?_modify_ne _ _ hne]
      rfl

theorem sourceOf_setSource_self (h : g.IsResource ref) :
    (g.setSource ref r).sourceOf ref = some r := by
  obtain ⟨type, i⟩ := ref
  rcases h with ⟨rfl, hlt⟩ | ⟨rfl, hlt⟩
  · show ((g.textureNodes.modify i _)[i]?).map _ = _
    rw [List.getElem?_modify_eq, List.getElem?_eq_getElem hlt]
    rfl
  · show ((g.textureDataNodes.modify i _)[i]?).bind _ = _
    rw [List.getElem?_modify_eq, List.getElem?_eq_getElem hlt]
    rfl

@[simp] theorem sourceOf_push : (g.push c).sourceOf ref = g.sourceOf ref := by
  unfold sourceOf
  rw [push_textureNodes, push_textureDataNodes]

/-- The resources that a command writes get it as their source, and the others keep theirs. -/
structure Sources (g g' : VulkanGraph) (writes : ResourceNodeRef → Prop) (r : CommandNodeRef) :
    Prop where
  written : ∀ ref, writes ref → g'.sourceOf ref = some r
  other : ∀ ref, ¬ writes ref → g'.sourceOf ref = g.sourceOf ref

theorem sources_setSource (h : g.IsResource ref) :
    Sources g (g.setSource ref r) (fun ref' => ref' = ref) r := by
  refine ⟨?_, fun _ hne => sourceOf_setSource_of_ne hne⟩
  rintro ref' rfl
  exact sourceOf_setSource_self h

/-- One resource after another. -/
theorem Sources.trans {g₁ g₂ : VulkanGraph} {writes₁ writes₂ : ResourceNodeRef → Prop}
    (h₁ : Sources g g₁ writes₁ r) (h₂ : Sources g₁ g₂ writes₂ r) :
    Sources g g₂ (fun ref => writes₁ ref ∨ writes₂ ref) r := by
  constructor
  · intro ref hwrites
    by_cases hlater : writes₂ ref
    · exact h₂.written ref hlater
    · rw [h₂.other ref hlater]
      exact h₁.written ref (hwrites.resolve_right hlater)
  · intro ref hwrites
    rw [not_or] at hwrites
    rw [h₂.other ref hwrites.2, h₁.other ref hwrites.1]

/-- A graph with the same sources. -/
theorem sources_of_eq (h : ∀ ref, g'.sourceOf ref = g.sourceOf ref) :
    Sources g g' (fun _ => False) r :=
  ⟨fun _ hfalse => absurd hfalse not_false, fun ref _ => h ref⟩

theorem sources_addUsage (usage : ImageUsageFlags) :
    Sources g (g.addUsage ref usage) (fun _ => False) r :=
  sources_of_eq fun _ => sourceOf_addUsage _ _

theorem sources_push : Sources g (g.push c) (fun _ => False) r :=
  sources_of_eq fun _ => sourceOf_push

theorem Sources.congr {writes writes' : ResourceNodeRef → Prop} (h : Sources g g' writes r)
    (heq : ∀ ref, writes' ref ↔ writes ref) : Sources g g' writes' r :=
  ⟨fun ref hwrites => h.written ref ((heq ref).mp hwrites),
    fun ref hwrites => h.other ref (mt (heq ref).mpr hwrites)⟩

theorem addWriteNode_eq (source target : ResourceNodeRef) : (g.addWriteNode source target).2 =
    ((g.addUsage target {.transferDst}).push (.write ⟨g.commandNodeCount, source, target⟩)).setSource
      target ⟨.write, g.writeNodes.length⟩ := by
  obtain ⟨type, i⟩ := target
  cases type <;> simp [addWriteNode, addUsage, modifyTexture, newCommandNode, push]

theorem sources_addWriteNode {source target : ResourceNodeRef} (h : g.IsResource target) :
    Sources g (g.addWriteNode source target).2 (fun ref => ref = target)
      ⟨.write, g.writeNodes.length⟩ := by
  rw [addWriteNode_eq]
  have htarget : ((g.addUsage target {.transferDst}).push
      (.write ⟨g.commandNodeCount, source, target⟩)).IsResource target := by
    unfold IsResource IsTexture IsTextureData
    rw [push_textureNodes, push_textureDataNodes]
    exact (isResource_addUsage _ _).mpr h
  exact (((sources_addUsage _).trans sources_push).trans (sources_setSource htarget)).congr (by simp)

/-- A target of a render node, or an output of a dispatch node. -/
theorem sources_addUsage_setSource (usage : ImageUsageFlags) (h : g.IsResource ref) :
    Sources g ((g.addUsage ref usage).setSource ref r) (fun ref' => ref' = ref) r :=
  ((sources_addUsage usage).trans
    (sources_setSource ((isResource_addUsage _ _).mpr h))).congr (by simp)

theorem sources_foldl_outputs (outputs : List ResourceNodeRef)
    (h : ∀ ref ∈ outputs, g.IsResource ref) :
    Sources g (outputs.foldl (fun g output => (g.addUsage output {.storage}).setSource output r) g)
      (fun ref => ref ∈ outputs) r := by
  induction outputs generalizing g with
  | nil => exact (sources_of_eq fun _ => rfl).congr (by simp)
  | cons output outputs ih =>
    rw [List.foldl_cons]
    have hfirst := sources_addUsage_setSource (r := r) {.storage} (h output List.mem_cons_self)
    have hrest := ih (g := (g.addUsage output {.storage}).setSource output r) fun ref href =>
      (isResource_setSource _).mpr
        ((isResource_addUsage _ _).mpr (h ref (List.mem_cons_of_mem _ href)))
    exact (hfirst.trans hrest).congr (by simp)

theorem sources_foldl_inputs (inputs : List ResourceNodeRef) :
    Sources g (inputs.foldl (fun g input => g.addUsage input {.sampled}) g) (fun _ => False) r := by
  induction inputs generalizing g with
  | nil => exact sources_of_eq fun _ => rfl
  | cons input inputs ih =>
    rw [List.foldl_cons]
    have hrest := ih (g := g.addUsage input {.sampled})
    exact ((sources_addUsage {.sampled}).trans hrest).congr (by simp)

theorem addDispatchNode_eq (inputs outputs : List ResourceNodeRef) :
    (g.addDispatchNode inputs outputs).2 =
      outputs.foldl (fun g' output => (g'.addUsage output {.storage}).setSource output
          ⟨.dispatch, g.dispatchNodes.length⟩)
        (inputs.foldl (fun g input => g.addUsage input {.sampled})
          (g.push (.dispatch ⟨g.commandNodeCount, inputs, outputs⟩))) := by
  unfold addDispatchNode newCommandNode push
  simp only [List.length_append, List.length_singleton, Nat.add_sub_cancel]

theorem sources_addDispatchNode {inputs outputs : List ResourceNodeRef}
    (h : ∀ ref ∈ outputs, g.IsResource ref) :
    Sources g (g.addDispatchNode inputs outputs).2 (fun ref => ref ∈ outputs)
      ⟨.dispatch, g.dispatchNodes.length⟩ := by
  rw [addDispatchNode_eq]
  have hinputs : (inputs.foldl (fun g input => g.addUsage input {.sampled})
      (g.push (.dispatch ⟨g.commandNodeCount, inputs, outputs⟩))).skeleton =
        (g.push (.dispatch ⟨g.commandNodeCount, inputs, outputs⟩)).skeleton :=
    skeleton_foldl (fun g input => skeleton_addUsage input _) inputs
  have houtputs := sources_foldl_outputs (r := ⟨.dispatch, g.dispatchNodes.length⟩) outputs
    fun ref href => (resourcesLE_of_skeleton_eq hinputs.symm).isResource (h ref href)
  have hbefore : Sources g (inputs.foldl (fun g input => g.addUsage input {.sampled})
      (g.push (.dispatch ⟨g.commandNodeCount, inputs, outputs⟩))) (fun _ => False)
        ⟨.dispatch, g.dispatchNodes.length⟩ := by
    apply sources_of_eq
    intro ref
    have hpush : (g.push (.dispatch ⟨g.commandNodeCount, inputs, outputs⟩)).sourceOf ref =
        g.sourceOf ref := sourceOf_push
    rw [← hpush]
    exact (sources_foldl_inputs inputs (r := ⟨.dispatch, g.dispatchNodes.length⟩)).other ref not_false
  exact (hbefore.trans houtputs).congr (by simp)

theorem sources_addTarget (properties : Texture → TextureProperties) (usage : ImageUsageFlags)
    (setFormat : Format → FramebufferLayout → FramebufferLayout) {target : Option ResourceNodeRef}
    (info : RenderTargetInfo) (h : ∀ ref ∈ target, g.IsResource ref) :
    Sources g (addTarget properties r usage setFormat target (g, info)).1 (fun ref => ref ∈ target)
      r := by
  cases target with
  | none => exact (sources_of_eq fun _ => rfl).congr (by simp)
  | some ref =>
    exact (sources_addUsage_setSource usage (h ref rfl)).congr (by simp [eq_comm])

theorem sources_addRenderNode (properties : Texture → TextureProperties) (renderList : RenderList)
    {colorTarget depthStencilTarget : Option ResourceNodeRef}
    (hcolor : ∀ ref ∈ colorTarget, g.IsResource ref)
    (hdepth : ∀ ref ∈ depthStencilTarget, g.IsResource ref) :
    Sources g (g.addRenderNode properties renderList colorTarget depthStencilTarget).2
      (fun ref => ref ∈ colorTarget ∨ ref ∈ depthStencilTarget) ⟨.render, g.renderNodes.length⟩ := by
  have hfirst : Sources g (addColorTarget properties ⟨.render, g.renderNodes.length⟩ colorTarget
      (g, {})).1 (fun ref => ref ∈ colorTarget) ⟨.render, g.renderNodes.length⟩ :=
    sources_addTarget properties _ _ {} hcolor
  have hskeleton : (addColorTarget properties ⟨.render, g.renderNodes.length⟩ colorTarget
      (g, {})).1.skeleton = g.skeleton := skeleton_addTarget _ _ _ _ _ _
  have hsecond := sources_addTarget (r := ⟨.render, g.renderNodes.length⟩) properties
    {.depthStencilAttachment} (fun format layout => { layout with depthStencilFormat := some format })
    (addColorTarget properties ⟨.render, g.renderNodes.length⟩ colorTarget (g, {})).2
    fun ref href => (resourcesLE_of_skeleton_eq hskeleton.symm).isResource (hdepth ref href)
  have hboth := hfirst.trans hsecond
  exact ⟨hboth.written, hboth.other⟩

theorem sources_addReadNode (source : ResourceNodeRef) :
    Sources g (g.addReadNode source) (fun _ => False) r := by
  apply sources_of_eq
  intro ref
  show (g.addUsage source {.transferSrc}).sourceOf ref = g.sourceOf ref
  exact sourceOf_addUsage source _

theorem sources_addPresentNode (source : ResourceNodeRef) :
    Sources g (g.addPresentNode source).2 (fun _ => False) r :=
  sources_of_eq fun _ => rfl

/-! ### What a call does -/

/-- A graph with one more command node, which is the source of what it writes. -/
structure Pushes (g g' : VulkanGraph) (c : CommandNode) : Prop where
  skeleton : g'.skeleton = g.skeleton.push c
  index : c.index = g.commandNodeCount
  refs : ∀ ref ∈ c.storedRefs, g.IsResource ref
  sources : Sources g g' c.Writes (g.nextRef c)
  targetInfo : ∀ node, c = .render node → ∃ properties, node.renderTargetInfo =
    g.renderTargetInfoOf properties node.colorTarget node.depthStencilTarget

theorem commandNodes_of_skeleton_eq (h : g.skeleton = g'.skeleton) :
    g.commandNodes = g'.commandNodes := by
  show g.skeleton.commandNodes = g'.skeleton.commandNodes
  rw [h]

theorem Pushes.commandNodes (h : Pushes g g' c) : g'.commandNodes = (g.push c).commandNodes :=
  commandNodes_of_skeleton_eq (h.skeleton.trans skeleton_push.symm)

/-- A call adds one command node or one resource, or destroys a sender. -/
theorem construct_cases {call : Call} (h : g.construct call = some g') :
    (∃ c, Pushes g g' c) ∨ (∃ texture, g' = (g.addTextureNode texture).2) ∨
      (∃ data, g' = (g.addTextureDataNode data).2) ∨ ∃ i, g' = g.destroySender i := by
  cases call with
  | addTextureNode texture => exact Or.inr (Or.inl ⟨texture, (Option.some.inj h).symm⟩)
  | addTextureDataNode data =>
    exact Or.inr (Or.inr (Or.inl ⟨data, (Option.some.inj h).symm⟩))
  | addWriteNode source target =>
    obtain ⟨⟨hsource, htarget⟩, heq⟩ := Option.ite_none_right_eq_some.mp h
    obtain rfl := Option.some.inj heq
    refine Or.inl ⟨_, skeleton_addWriteNode source target, rfl, ?_, sources_addWriteNode htarget,
      fun _ h => by cases h⟩
    intro ref href
    rcases List.mem_cons.mp href with rfl | href
    · exact hsource
    · exact List.mem_singleton.mp href ▸ htarget
  | addReadNode source =>
    obtain ⟨hsource, heq⟩ := Option.ite_none_right_eq_some.mp h
    obtain rfl := Option.some.inj heq
    refine Or.inl ⟨_, skeleton_addReadNode source, rfl, ?_, sources_addReadNode source,
      fun _ h => by cases h⟩
    exact fun ref href => List.mem_singleton.mp href ▸ hsource
  | addRenderNode properties renderList colorTarget depthStencilTarget =>
    obtain ⟨⟨hcolor, hdepth⟩, heq⟩ := Option.ite_none_right_eq_some.mp h
    obtain rfl := Option.some.inj heq
    refine Or.inl ⟨_, skeleton_addRenderNode properties renderList colorTarget depthStencilTarget,
      rfl, ?_, sources_addRenderNode properties renderList
        (fun ref href => Or.inl (hcolor ref href)) fun ref href => Or.inl (hdepth ref href), ?_⟩
    · intro ref href
      rcases List.mem_append.mp href with href | href
      · rcases List.mem_append.mp href with href | href
        · exact Or.inl (hcolor ref (Option.mem_toList.mp href))
        · exact Or.inl (hdepth ref (Option.mem_toList.mp href))
      · exact absurd href List.not_mem_nil
    · rintro node ⟨⟩
      exact ⟨properties, rfl⟩
  | addDispatchNode inputs outputs =>
    obtain ⟨⟨hinputs, houtputs⟩, heq⟩ := Option.ite_none_right_eq_some.mp h
    obtain rfl := Option.some.inj heq
    refine Or.inl ⟨_, skeleton_addDispatchNode inputs outputs, rfl, ?_,
      sources_addDispatchNode houtputs, fun _ h => by cases h⟩
    exact fun ref href => (List.mem_append.mp href).elim (hinputs ref) (houtputs ref)
  | addPresentNode source =>
    obtain ⟨hsource, heq⟩ := Option.ite_none_right_eq_some.mp h
    obtain rfl := Option.some.inj heq
    refine Or.inl ⟨_, skeleton_addPresentNode source, rfl, ?_, sources_addPresentNode source,
      fun _ h => by cases h⟩
    exact fun ref href => List.mem_singleton.mp href ▸ hsource
  | destroySender i =>
    obtain ⟨-, heq⟩ := Option.ite_none_right_eq_some.mp h
    exact Or.inr (Or.inr (Or.inr ⟨i, (Option.some.inj heq).symm⟩))

end VulkanGraph

end Teide
