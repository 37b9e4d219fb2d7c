import Mathlib.Tactic.Common
import Teide.DescriptorPool.Invariant
import Teide.ParameterBlock.Environment
import Teide.Renderer.Basic
import Teide.ThreadMap.Basic

/-!
# The view parameters of a render list

The tasks of `RenderToTexture` and `RenderToSurface` make a descriptor set for the view parameters of
their render list. They draw it from a pool that belongs to their thread and frame slot, and that is made
with the frame resources if the view block has descriptors. Where it has none, `CreateViewParameterBlock`
returns a null pointer, which `CreateViewParameters` dereferences.

The workers of the scheduler are given by their ids. A task is one step of its thread, since threads
share no objects of a `ThreadMap`. What a set is written with is left to `WriteDescriptorSet`.
-/

namespace Teide.ViewParameters

open Runs
open Renderer (maxFramesInFlight)

structure ShaderParameters where
  uniformData : List UInt8 := []
  textures : List Nat := []

structure TransientParameterBlock where
  /-- the contents -/
  uniformBuffer : Option (List UInt8) := none
  textures : List Nat := []
  descriptorSet : Option VkDescriptorSet := none

structure RenderList where
  name : String := ""
  viewParameters : ShaderParameters := {}

def hasDescriptors (layout : VulkanParameterBlockLayout) : Bool :=
  !layout.descriptorTypeCounts.isEmpty

/-- The view block of the environment, if there is one, has descriptors. -/
def viewHasDescriptors (shaderEnvironment : Option VulkanShaderEnvironment) : Bool :=
  match shaderEnvironment with
  | none => false
  | some environment => hasDescriptors environment.viewPblockLayout

/-- The allocation of the buffer is large enough for the data, which the function asserts. -/
def setBufferData (buffer data : List UInt8) : List UInt8 := data ++ buffer.drop data.length

/-- `none` where the layout has push constants, which the function asserts it has not. -/
def createTransientParameterBlock (layout : VulkanParameterBlockLayout)
    (parameters : ShaderParameters) (descriptorPool : DescriptorPool) :
    Option (TransientParameterBlock × DescriptorPool) :=
  if layout.pushConstantRange.isSome then none
  else descriptorPool.allocate.map fun (descriptorSet, descriptorPool) =>
    ({ uniformBuffer :=
        if layout.uniformBufferSize > 0 then
          some (if parameters.uniformData.isEmpty then
            List.replicate layout.uniformBufferSize.toNat 0 else parameters.uniformData)
        else none
       textures := parameters.textures
       descriptorSet := some descriptorSet }, descriptorPool)

def updateTransientParameterBlock (pblock : TransientParameterBlock)
    (parameters : ShaderParameters) : TransientParameterBlock :=
  { pblock with
    textures := parameters.textures
    uniformBuffer := pblock.uniformBuffer.map (setBufferData · parameters.uniformData) }

/-! ### Frame resources -/

def viewDescriptorPoolSize : UInt32 := 8

structure ThreadResources where
  viewDescriptorPool : Option DescriptorPool := none
  viewParameters : List TransientParameterBlock := []

namespace ThreadResources

/-- The pointer, which may be null, to the block that has been added. -/
def createViewParameterBlock (resources : ThreadResources) (layout : VulkanParameterBlockLayout)
    (parameters : ShaderParameters) : Option (Option TransientParameterBlock × ThreadResources) :=
  match resources.viewDescriptorPool with
  | none => some (none, resources)
  | some viewDescriptorPool =>
    (createTransientParameterBlock layout parameters viewDescriptorPool).map
      fun (p, viewDescriptorPool) =>
        (some p, { viewDescriptorPool := some viewDescriptorPool
                   viewParameters := resources.viewParameters ++ [p] })

/-- What `BeginFrame` does to the resources of a thread. -/
def beginFrame (resources : ThreadResources) : Option ThreadResources :=
  match resources.viewDescriptorPool with
  | none => some {}
  | some viewDescriptorPool => viewDescriptorPool.reset.map fun viewDescriptorPool =>
    { viewDescriptorPool := some viewDescriptorPool }

end ThreadResources

structure FrameResources where
  sceneParameters : TransientParameterBlock := {}
  threadResources : ThreadMap ThreadResources

/-- The scene parameters are left empty where the scene block has no descriptors. -/
def createSceneParameters (scenePblockLayout : VulkanParameterBlockLayout)
    (sceneDescriptorPool : DescriptorPool) : Option (TransientParameterBlock × DescriptorPool) :=
  if hasDescriptors scenePblockLayout then
    createTransientParameterBlock scenePblockLayout {} sceneDescriptorPool
  else some ({}, sceneDescriptorPool)

def emplaceViewDescriptorPool (viewPblockLayout : VulkanParameterBlockLayout)
    (resources : ThreadResources) : ThreadResources :=
  if hasDescriptors viewPblockLayout then
    { resources with viewDescriptorPool := some (.create viewPblockLayout viewDescriptorPoolSize) }
  else resources

/-- The constructor. -/
def FrameResources.create (shaderEnvironment : Option VulkanShaderEnvironment)
    (threadCount thisThread : Nat) (sceneDescriptorPool : DescriptorPool) :
    Option (FrameResources × DescriptorPool) :=
  let threadResources : ThreadMap ThreadResources := .create threadCount thisThread {}
  match shaderEnvironment with
  | none => some ({ threadResources }, sceneDescriptorPool)
  | some environment => do
    let (sceneParameters, sceneDescriptorPool) ←
      createSceneParameters environment.scenePblockLayout sceneDescriptorPool
    let threadResources := threadResources.lockAll
      (emplaceViewDescriptorPool environment.viewPblockLayout)
    return ({ sceneParameters, threadResources }, sceneDescriptorPool)

/-! ### The renderer -/

structure VulkanRenderer where
  shaderEnvironment : Option VulkanShaderEnvironment
  /-- the threads that the scheduler runs tasks on -/
  workers : List Nat
  sceneDescriptorPool : DescriptorPool
  frameResources : FrameArray FrameResources maxFramesInFlight

def makeSceneDescriptorPool (shaderEnvironment : Option VulkanShaderEnvironment) : DescriptorPool :=
  match shaderEnvironment with
  | some environment => .create environment.scenePblockLayout (UInt32.ofNat maxFramesInFlight)
  | none => .create {} (UInt32.ofNat maxFramesInFlight)

/-- The elements of the `FrameArray`, one after another. -/
def createFrames (shaderEnvironment : Option VulkanShaderEnvironment)
    (threadCount thisThread : Nat) (sceneDescriptorPool : DescriptorPool) :
    (n : Nat) → Option ((Fin n → FrameResources) × DescriptorPool)
  | 0 => some (fun k => k.elim0, sceneDescriptorPool)
  | n + 1 => do
    let (frames, sceneDescriptorPool) ←
      createFrames shaderEnvironment threadCount thisThread sceneDescriptorPool n
    let (frame, sceneDescriptorPool) ←
      FrameResources.create shaderEnvironment threadCount thisThread sceneDescriptorPool
    return (fun k => if h : k.val < n then frames ⟨k.val, h⟩ else frame, sceneDescriptorPool)

namespace VulkanRenderer

/-- The constructor, called by the thread `thisThread`. -/
def create (shaderEnvironment : Option VulkanShaderEnvironment) (workers : List Nat)
    (thisThread : Nat) : Option VulkanRenderer :=
  (createFrames shaderEnvironment workers.length thisThread
    (makeSceneDescriptorPool shaderEnvironment) maxFramesInFlight).map
      fun (frames, sceneDescriptorPool) =>
        { shaderEnvironment
          workers
          sceneDescriptorPool
          frameResources := ⟨frames, ⟨0, by decide⟩⟩ }

def beginFrame (r : VulkanRenderer) (sceneParameters : ShaderParameters) : Option VulkanRenderer :=
  let frameResources := r.frameResources.nextFrame
  let current := frameResources.current
  (current.threadResources.lockAll? (·.beginFrame)).map fun threadResources =>
    { r with
      frameResources := frameResources.setCurrent
        { sceneParameters := updateTransientParameterBlock current.sceneParameters sceneParameters
          threadResources } }

/-- What `CreateViewParameters` comes to, if nothing throws. -/
inductive ViewSet where
  /-- `->descriptorSet` of a null pointer -/
  | nullDereference
  | descriptorSet (descriptorSet : Option VkDescriptorSet)

def createViewParameters (r : VulkanRenderer) (thread : Nat) (renderList : RenderList) :
    Option (ViewSet × VulkanRenderer) :=
  match r.shaderEnvironment with
  | none => some (.descriptorSet none, r)
  | some environment => do
    let current := r.frameResources.current
    let (index, threadResources) ← current.threadResources.getCurrentObject thread
    let resources ← threadResources.object? index
    let (pblock, resources) ← resources.createViewParameterBlock environment.viewPblockLayout
      renderList.viewParameters
    let viewParameters : ViewSet := match pblock with
      | none => .nullDereference
      | some pblock => .descriptorSet pblock.descriptorSet
    return (viewParameters, { r with
      frameResources := r.frameResources.setCurrent
        { current with threadResources := threadResources.setObject index resources } })

/-- The sets that `RecordRenderListCommands` is called with. -/
structure Recorded where
  sceneParameters : Option VkDescriptorSet
  viewParameters : Option VkDescriptorSet

/-- The task that `RenderToTexture` and `RenderToSurface` schedule; `none` when it throws or
dereferences a null pointer. -/
def runTask (r : VulkanRenderer) (thread : Nat) (renderList : RenderList) :
    Option (Recorded × VulkanRenderer) := do
  let (viewParameters, r) ← r.createViewParameters thread renderList
  match viewParameters with
  | .nullDereference => none
  | .descriptorSet viewParameters =>
    return (⟨r.frameResources.current.sceneParameters.descriptorSet, viewParameters⟩, r)

inductive Call where
  | beginFrame (sceneParameters : ShaderParameters)
  /-- with the thread that its task runs on -/
  | renderToTexture (thread : Nat) (renderList : RenderList)
  /-- `acquired`: the surface has an image to render to -/
  | renderToSurface (thread : Nat) (renderList : RenderList) (acquired : Bool)

/-- The task of a call. -/
def Call.task : Call → Option (Nat × RenderList)
  | beginFrame _ => none
  | renderToTexture thread renderList => some (thread, renderList)
  | renderToSurface thread renderList acquired => if acquired then some (thread, renderList) else none

def step (r : VulkanRenderer) (call : Call) : Option VulkanRenderer :=
  match call with
  | .beginFrame sceneParameters => r.beginFrame sceneParameters
  | .renderToTexture .. | .renderToSurface .. =>
    match call.task with
    | none => some r
    | some (thread, renderList) =>
      if thread ∈ r.workers then (r.runTask thread renderList).map (·.2) else none

/-- The task of a call gets a set for the view parameters if the view block has descriptors, and the null
set otherwise. -/
def Renders (r : VulkanRenderer) (call : Call) : Prop :=
  ∀ thread renderList, call.task = some (thread, renderList) →
    ∃ recorded t, r.runTask thread renderList = some (recorded, t) ∧
      recorded.viewParameters.isSome = viewHasDescriptors r.shaderEnvironment

end VulkanRenderer

variable {environment : VulkanShaderEnvironment} {shaderEnvironment : Option VulkanShaderEnvironment}
  {layout : VulkanParameterBlockLayout} {parameters : ShaderParameters} {has : Bool}
  {workers : List Nat} {thread : Nat} {renderList : RenderList}

/-! ### Parameter blocks without push constants -/

theorem pushConstantRange_eq_none {pblock : ParameterBlockDesc} {set : Int} (hset : set ≠ 3)
    (h : createParameterBlockLayout pblock set = some layout) : layout.pushConstantRange = none := by
  unfold createParameterBlockLayout vulkanParameterBlockLayout at h
  obtain ⟨textures, -, h⟩ := Option.bind_eq_some_iff.mp h
  obtain ⟨bindings, -, h⟩ := Option.bind_eq_some_iff.mp h
  obtain rfl := Option.some.inj h
  show pushConstantRange (buildParameterBlockLayout pblock set) = none
  unfold pushConstantRange
  rw [isPushConstant_eq_false pblock hset, if_neg Bool.false_ne_true, ite_self]

/-- Neither block of an environment has push constants. -/
def NoPushConstants (shaderEnvironment : Option VulkanShaderEnvironment) : Prop :=
  ∀ environment ∈ shaderEnvironment, environment.scenePblockLayout.pushConstantRange = none ∧
    environment.viewPblockLayout.pushConstantRange = none

theorem noPushConstants_of_create {data : ShaderEnvironmentData}
    (h : createShaderEnvironment data = some environment) : NoPushConstants (some environment) := by
  unfold createShaderEnvironment at h
  obtain ⟨scene, hscene, h⟩ := Option.bind_eq_some_iff.mp h
  obtain ⟨view, hview, h⟩ := Option.bind_eq_some_iff.mp h
  obtain rfl := Option.some.inj h
  intro environment henvironment
  obtain rfl := Option.some.inj henvironment
  exact ⟨pushConstantRange_eq_none (by decide) hscene, pushConstantRange_eq_none (by decide) hview⟩

theorem exists_createTransientParameterBlock (hpush : layout.pushConstantRange = none)
    (parameters : ShaderParameters) {descriptorPool : DescriptorPool}
    (hpools : descriptorPool.pools ≠ []) : ∃ pblock descriptorPool',
      createTransientParameterBlock layout parameters descriptorPool = some (pblock, descriptorPool') ∧
        pblock.descriptorSet.isSome = true ∧ descriptorPool'.pools ≠ [] := by
  obtain ⟨descriptorSet, descriptorPool', hallocate, hpools'⟩ :=
    DescriptorPool.exists_allocate hpools
  unfold createTransientParameterBlock
  rw [hpush, if_neg (by decide), hallocate, Option.map_some]
  exact ⟨_, _, rfl, rfl, hpools'⟩

/-! ### The resources of a thread -/

/-- There is a pool where `has` says so, and sets can be allocated from it. -/
structure ThreadResources.Ready (has : Bool) (resources : ThreadResources) : Prop where
  isSome : resources.viewDescriptorPool.isSome = has
  pools : ∀ pool ∈ resources.viewDescriptorPool, pool.pools ≠ []

theorem ThreadResources.Ready.beginFrame {resources : ThreadResources} (h : resources.Ready has) :
    ∃ resources', resources.beginFrame = some resources' ∧ resources'.Ready has := by
  unfold ThreadResources.beginFrame
  have hsome := h.isSome
  cases hpool : resources.viewDescriptorPool with
  | none =>
    rw [hpool] at hsome
    exact ⟨{}, rfl, hsome, fun _ hpool => nomatch hpool⟩
  | some pool =>
    rw [hpool] at hsome
    obtain ⟨pool', hreset, hpools⟩ := DescriptorPool.exists_reset (h.pools pool hpool)
    dsimp only
    rw [hreset, Option.map_some]
    refine ⟨_, rfl, hsome, fun other hother => ?_⟩
    exact Option.some.inj hother ▸ hpools

/-- There is a block where there is a pool, with a set from it. -/
theorem ThreadResources.Ready.createViewParameterBlock {resources : ThreadResources}
    (h : resources.Ready has) (hpush : layout.pushConstantRange = none)
    (parameters : ShaderParameters) : ∃ pblock resources',
      resources.createViewParameterBlock layout parameters = some (pblock, resources') ∧
        resources'.Ready has ∧ pblock.isSome = has ∧
          ∀ p ∈ pblock, p.descriptorSet.isSome = true := by
  unfold ThreadResources.createViewParameterBlock
  have hsome := h.isSome
  cases hpool : resources.viewDescriptorPool with
  | none =>
    rw [hpool] at hsome
    exact ⟨none, resources, rfl, h, hsome, fun _ hp => nomatch hp⟩
  | some pool =>
    rw [hpool] at hsome
    obtain ⟨p, pool', hcreate, hset, hpools⟩ :=
      exists_createTransientParameterBlock hpush parameters (h.pools pool hpool)
    dsimp only
    rw [hcreate, Option.map_some]
    refine ⟨_, _, rfl, ⟨hsome, fun other hother => ?_⟩, hsome, fun other hother => ?_⟩
    · exact Option.some.inj hother ▸ hpools
    · exact Option.some.inj hother ▸ hset

/-! ### The resources of a frame -/

/-- Every worker has its resources. -/
structure FrameResources.Ready (has : Bool) (workers : List Nat) (frame : FrameResources) : Prop where
  claimed : frame.threadResources.ClaimedBy workers
  threads : ∀ index resources, frame.threadResources.object? index = some resources →
    resources.Ready has

theorem exists_createSceneParameters (hpush : layout.pushConstantRange = none)
    {sceneDescriptorPool : DescriptorPool} (hpools : sceneDescriptorPool.pools ≠ []) :
    ∃ sceneParameters sceneDescriptorPool', createSceneParameters layout sceneDescriptorPool =
      some (sceneParameters, sceneDescriptorPool') ∧ sceneDescriptorPool'.pools ≠ [] := by
  unfold createSceneParameters
  split
  · obtain ⟨pblock, pool', hcreate, -, hpools'⟩ :=
      exists_createTransientParameterBlock hpush {} hpools
    exact ⟨pblock, pool', hcreate, hpools'⟩
  · exact ⟨_, _, rfl, hpools⟩

theorem ready_emplaceViewDescriptorPool (layout : VulkanParameterBlockLayout) :
    (emplaceViewDescriptorPool layout {}).Ready (hasDescriptors layout) := by
  unfold emplaceViewDescriptorPool
  split
  · rename_i hhas
    refine ⟨hhas.symm, fun pool hpool => ?_⟩
    exact Option.some.inj hpool ▸ DescriptorPool.pools_create_ne_nil _ _
  · rename_i hhas
    exact ⟨(Bool.eq_false_iff.mpr hhas).symm, fun _ hpool => nomatch hpool⟩

theorem FrameResources.exists_create (hpush : NoPushConstants shaderEnvironment)
    (workers : List Nat) (thisThread : Nat) {sceneDescriptorPool : DescriptorPool}
    (hpools : sceneDescriptorPool.pools ≠ []) : ∃ frame sceneDescriptorPool',
      FrameResources.create shaderEnvironment workers.length thisThread sceneDescriptorPool =
        some (frame, sceneDescriptorPool') ∧
          frame.Ready (viewHasDescriptors shaderEnvironment) workers ∧
            sceneDescriptorPool'.pools ≠ [] := by
  have hclaimed : (ThreadMap.create workers.length thisThread ({} : ThreadResources)).ClaimedBy
      workers := ThreadMap.claimedBy_create _ _ (Nat.le_refl _)
  unfold FrameResources.create
  cases shaderEnvironment with
  | none =>
    refine ⟨_, _, rfl, ⟨hclaimed, ?_⟩, hpools⟩
    exact ThreadMap.forall_object?_create ⟨rfl, fun _ hpool => nomatch hpool⟩
  | some environment =>
    obtain ⟨sceneParameters, sceneDescriptorPool', hcreate, hpools'⟩ :=
      exists_createSceneParameters (hpush environment rfl).1 hpools
    dsimp only
    rw [hcreate]
    refine ⟨_, _, rfl, ⟨hclaimed.lockAll _, ?_⟩, hpools'⟩
    exact ThreadMap.forall_object?_lockAll
      (ThreadMap.forall_object?_create (ready_emplaceViewDescriptorPool _))

theorem exists_createFrames (hpush : NoPushConstants shaderEnvironment) (workers : List Nat)
    (thisThread : Nat) {sceneDescriptorPool : DescriptorPool}
    (hpools : sceneDescriptorPool.pools ≠ []) (n : Nat) : ∃ frames sceneDescriptorPool',
      createFrames shaderEnvironment workers.length thisThread sceneDescriptorPool n =
        some (frames, sceneDescriptorPool') ∧
          (∀ k, (frames k).Ready (viewHasDescriptors shaderEnvironment) workers) ∧
            sceneDescriptorPool'.pools ≠ [] := by
  induction n with
  | zero => exact ⟨_, _, rfl, fun k => k.elim0, hpools⟩
  | succ n ih =>
    obtain ⟨frames, pool, hframes, hready, hpool⟩ := ih
    obtain ⟨frame, pool', hframe, hready', hpool'⟩ :=
      FrameResources.exists_create hpush workers thisThread hpool
    unfold createFrames
    rw [hframes, Option.bind_eq_bind, Option.bind_some]
    dsimp only
    rw [hframe, Option.bind_eq_bind, Option.bind_some]
    refine ⟨_, _, rfl, fun k => ?_, hpool'⟩
    dsimp only
    split
    · exact hready _
    · exact hready'

/-- What `BeginFrame` does to the threads of the frame. -/
theorem FrameResources.Ready.beginFrame {frame : FrameResources} (h : frame.Ready has workers)
    (sceneParameters : TransientParameterBlock) : ∃ threadResources,
      frame.threadResources.lockAll? (·.beginFrame) = some threadResources ∧
        FrameResources.Ready has workers ⟨sceneParameters, threadResources⟩ := by
  have hbegin : ∀ index resources, frame.threadResources.object? index = some resources →
      resources.beginFrame = some (resources.beginFrame.getD resources) ∧
        (resources.beginFrame.getD resources).Ready has := by
    intro index resources hobject
    obtain ⟨resources', hresources', hready⟩ := (h.threads index resources hobject).beginFrame
    rw [hresources']
    exact ⟨rfl, hready⟩
  have hlock : frame.threadResources.lockAll? (·.beginFrame) =
      some (frame.threadResources.lockAll fun resources => resources.beginFrame.getD resources) :=
    ThreadMap.lockAll?_eq fun index resources hobject => (hbegin index resources hobject).1
  refine ⟨_, hlock, ?_, ?_⟩
  · exact h.claimed.lockAll fun resources => resources.beginFrame.getD resources
  · exact ThreadMap.forall_object?_lockAll fun index resources hobject =>
      (hbegin index resources hobject).2

/-- The thread's block, if it is to have one, has a set. -/
theorem FrameResources.Ready.createViewParameterBlock {frame : FrameResources}
    (h : frame.Ready has workers) (hpush : layout.pushConstantRange = none)
    (hthread : thread ∈ workers) (parameters : ShaderParameters) :
    ∃ index threadResources resources pblock resources',
      frame.threadResources.getCurrentObject thread = some (index, threadResources) ∧
        threadResources.object? index = some resources ∧
          resources.createViewParameterBlock layout parameters = some (pblock, resources') ∧
            FrameResources.Ready has workers
              { frame with threadResources := threadResources.setObject index resources' } ∧
              pblock.isSome = has ∧ ∀ p ∈ pblock, p.descriptorSet.isSome = true := by
  obtain ⟨index, threadResources, resources, hget, hclaimed, hobjects, hlt, hobject⟩ :=
    h.claimed.getCurrentObject hthread
  have hready : ∀ i found, threadResources.object? i = some found → found.Ready has := by
    rw [hobjects]
    exact h.threads
  obtain ⟨pblock, resources', hcreate, hready', hpblock⟩ :=
    (hready index resources hobject).createViewParameterBlock hpush parameters
  refine ⟨index, threadResources, resources, pblock, resources', hget, hobject, hcreate,
    ⟨hclaimed.setObject _ _, ?_⟩, hpblock⟩
  exact ThreadMap.forall_object?_setObject hlt hready' hready

theorem FrameResources.Ready.setCurrent {frame : FrameResources} (h : frame.Ready has workers)
    {frameResources : FrameArray FrameResources maxFramesInFlight}
    (hframes : ∀ k, (frameResources.storage k).Ready has workers) (k : Fin maxFramesInFlight) :
    ((frameResources.setCurrent frame).storage k).Ready has workers :=
  FrameArray.forall_setCurrent (P := fun _ (frame : FrameResources) => frame.Ready has workers)
    h hframes k

/-! ### The renderer -/

namespace VulkanRenderer

/-- The resources of every frame are ready for the workers. -/
structure Inv (shaderEnvironment : Option VulkanShaderEnvironment) (workers : List Nat)
    (r : VulkanRenderer) : Prop where
  environment_eq : r.shaderEnvironment = shaderEnvironment
  workers_eq : r.workers = workers
  frames : ∀ k, (r.frameResources.storage k).Ready (viewHasDescriptors shaderEnvironment) workers

theorem exists_create (hpush : NoPushConstants shaderEnvironment) (workers : List Nat)
    (thisThread : Nat) : ∃ r, create shaderEnvironment workers thisThread = some r ∧
      r.Inv shaderEnvironment workers := by
  have hpools : (makeSceneDescriptorPool shaderEnvironment).pools ≠ [] := by
    unfold makeSceneDescriptorPool
    cases shaderEnvironment <;> exact DescriptorPool.pools_create_ne_nil _ _
  obtain ⟨frames, pool, hframes, hready, -⟩ :=
    exists_createFrames hpush workers thisThread hpools maxFramesInFlight
  unfold create
  rw [hframes, Option.map_some]
  exact ⟨_, rfl, rfl, rfl, hready⟩

variable {r t : VulkanRenderer}

theorem Inv.current (h : r.Inv shaderEnvironment workers) :
    r.frameResources.current.Ready (viewHasDescriptors shaderEnvironment) workers :=
  h.frames _

theorem Inv.beginFrame (h : r.Inv shaderEnvironment workers) (sceneParameters : ShaderParameters) :
    ∃ t, r.beginFrame sceneParameters = some t ∧ t.Inv shaderEnvironment workers := by
  have hcurrent : r.frameResources.nextFrame.current.Ready (viewHasDescriptors shaderEnvironment)
      workers := h.frames _
  obtain ⟨threadResources, hlock, hready⟩ := hcurrent.beginFrame
    (updateTransientParameterBlock r.frameResources.nextFrame.current.sceneParameters sceneParameters)
  unfold VulkanRenderer.beginFrame
  dsimp only
  rw [hlock, Option.map_some]
  exact ⟨_, rfl, h.environment_eq, h.workers_eq, hready.setCurrent h.frames⟩

/-- Without an environment there is no block and the set is null. With one there is a set if the view
block has descriptors, and a null pointer if not. -/
theorem Inv.createViewParameters (h : r.Inv shaderEnvironment workers)
    (hpush : NoPushConstants shaderEnvironment) (hthread : thread ∈ workers)
    (renderList : RenderList) : ∃ viewParameters t,
      r.createViewParameters thread renderList = some (viewParameters, t) ∧
        t.Inv shaderEnvironment workers ∧
          match viewParameters with
          | .nullDereference =>
            shaderEnvironment.isSome = true ∧ viewHasDescriptors shaderEnvironment = false
          | .descriptorSet viewParameters =>
            (shaderEnvironment = none ∨ viewHasDescriptors shaderEnvironment = true) ∧
              viewParameters.isSome = viewHasDescriptors shaderEnvironment := by
  unfold VulkanRenderer.createViewParameters
  rw [h.environment_eq]
  cases shaderEnvironment with
  | none => exact ⟨_, _, rfl, h, .inl rfl, rfl⟩
  | some environment =>
    obtain ⟨index, threadResources, resources, pblock, resources', hget, hobject, hcreate, hready,
      hsome, hset⟩ := h.current.createViewParameterBlock (hpush environment rfl).2 hthread
        renderList.viewParameters
    dsimp only
    rw [hget, Option.bind_eq_bind, Option.bind_some]
    dsimp only
    rw [hobject, Option.bind_eq_bind, Option.bind_some, hcreate, Option.bind_eq_bind,
      Option.bind_some]
    refine ⟨_, _, rfl, ⟨rfl, h.workers_eq, hready.setCurrent h.frames⟩, ?_⟩
    cases pblock with
    | none => exact ⟨rfl, hsome.symm⟩
    | some p => exact ⟨.inr hsome.symm, (hset p rfl).trans hsome⟩

/-- The task fails if there is an environment whose view block has no descriptors, and only then. -/
theorem Inv.runTask (h : r.Inv shaderEnvironment workers)
    (hpush : NoPushConstants shaderEnvironment) (hthread : thread ∈ workers)
    (renderList : RenderList) :
    (shaderEnvironment.isSome = true ∧ viewHasDescriptors shaderEnvironment = false ∧
        r.runTask thread renderList = none) ∨
      ((shaderEnvironment = none ∨ viewHasDescriptors shaderEnvironment = true) ∧
        ∃ recorded t, r.runTask thread renderList = some (recorded, t) ∧
          t.Inv shaderEnvironment workers ∧
            recorded.viewParameters.isSome = viewHasDescriptors shaderEnvironment) := by
  obtain ⟨viewParameters, t, hcreate, hinv, hset⟩ := h.createViewParameters hpush hthread renderList
  unfold VulkanRenderer.runTask
  rw [hcreate, Option.bind_eq_bind, Option.bind_some]
  cases viewParameters with
  | nullDereference => exact .inl ⟨hset.1, hset.2, rfl⟩
  | descriptorSet viewParameters => exact .inr ⟨hset.1, _, t, rfl, hinv, hset.2⟩

theorem Inv.step {call : Call} (h : r.Inv shaderEnvironment workers)
    (hpush : NoPushConstants shaderEnvironment) (hstep : r.step call = some t) :
    t.Inv shaderEnvironment workers := by
  have htask : ∀ thread renderList, thread ∈ r.workers →
      (r.runTask thread renderList).map (·.2) = some t → t.Inv shaderEnvironment workers := by
    intro thread renderList hthread hmap
    obtain ⟨result, hresult, rfl⟩ := Option.map_eq_some_iff.mp hmap
    rcases h.runTask hpush (h.workers_eq ▸ hthread) renderList with ⟨-, -, hnone⟩ | ⟨-, hsome⟩
    · exact nomatch hnone.symm.trans hresult
    · obtain ⟨recorded, t', hrun, hinv, -⟩ := hsome
      obtain rfl := Option.some.inj (hrun.symm.trans hresult)
      exact hinv
  cases call with
  | beginFrame sceneParameters =>
    obtain ⟨t', hbegin, hinv⟩ := h.beginFrame sceneParameters
    obtain rfl := Option.some.inj (hbegin.symm.trans hstep)
    exact hinv
  | renderToTexture thread renderList =>
    obtain ⟨hthread, hrun⟩ := Option.ite_none_right_eq_some.mp hstep
    exact htask thread renderList hthread hrun
  | renderToSurface thread renderList acquired =>
    cases acquired with
    | false => exact Option.some.inj hstep ▸ h
    | true =>
      obtain ⟨hthread, hrun⟩ := Option.ite_none_right_eq_some.mp hstep
      exact htask thread renderList hthread hrun

theorem Inv.of_reachable {init : VulkanRenderer} (hinit : init.Inv shaderEnvironment workers)
    (hpush : NoPushConstants shaderEnvironment) (h : Reachable VulkanRenderer.step init r) :
    r.Inv shaderEnvironment workers :=
  h.invariant (I := Inv shaderEnvironment workers) (fun _ _ _ hr hstep => hr.step hpush hstep) hinit

/-- A renderer with an environment runs the tasks of its calls if the view block has descriptors, and
none of them if not. -/
theorem renders_iff {data : ShaderEnvironmentData}
    (h : createShaderEnvironment data = some environment) (workers : List Nat) (thisThread : Nat) :
    ∃ init, create (some environment) workers thisThread = some init ∧
      ∀ r call task, Reachable VulkanRenderer.step init r → Call.task call = some task →
        task.1 ∈ workers → (r.Renders call ↔ hasDescriptors environment.viewPblockLayout = true) := by
  have hpush : NoPushConstants (some environment) := noPushConstants_of_create h
  obtain ⟨init, hcreate, hinit⟩ := exists_create hpush workers thisThread
  refine ⟨init, hcreate, ?_⟩
  intro r call task hreachable htask hthread
  have hinv : r.Inv (some environment) workers := hinit.of_reachable hpush hreachable
  unfold Renders
  rw [hinv.environment_eq]
  rcases hinv.runTask hpush hthread task.2 with ⟨-, hhas, hnone⟩ | ⟨hhas, hsome⟩
  · constructor
    · intro hrenders
      obtain ⟨recorded, t, hrun, -⟩ := hrenders _ _ htask
      exact nomatch hnone.symm.trans hrun
    · intro hhas'
      exact nomatch hhas'.symm.trans hhas
  · constructor
    · intro _
      exact hhas.resolve_left (Option.some_ne_none _)
    · intro _ thread renderList htask'
      obtain rfl := Option.some.inj (htask.symm.trans htask')
      obtain ⟨recorded, t, hrun, -, hset⟩ := hsome
      exact ⟨recorded, t, hrun, hset⟩

/-- A scene with a light; the view block is a parameter. -/
def lightEnvironment (viewPblock : ParameterBlockDesc) : ShaderEnvironmentData where
  scenePblock := ⟨[⟨"lightDir", ⟨.vector3, 0⟩⟩], ShaderStageFlags.pixel⟩
  viewPblock := viewPblock

theorem renders_iff_viewProj : ∃ environment init,
    createShaderEnvironment
        (lightEnvironment ⟨[⟨"viewProj", ⟨.matrix4, 0⟩⟩], ShaderStageFlags.vertex⟩) =
      some environment ∧
        create (some environment) [1] 0 = some init ∧ init.Renders (.renderToTexture 1 {}) := by
  have henvironment : ∃ environment, createShaderEnvironment
        (lightEnvironment ⟨[⟨"viewProj", ⟨.matrix4, 0⟩⟩], ShaderStageFlags.vertex⟩) =
      some environment ∧ hasDescriptors environment.viewPblockLayout = true := ⟨_, rfl, rfl⟩
  obtain ⟨environment, henvironment, hhas⟩ := henvironment
  obtain ⟨init, hcreate, hrenders⟩ := renders_iff henvironment [1] 0
  refine ⟨environment, init, henvironment, hcreate, ?_⟩
  exact (hrenders init (.renderToTexture 1 {}) (1, {}) ⟨[], rfl⟩ rfl List.mem_cons_self).mpr hhas

/-- An empty view block. -/
theorem not_renders : ∃ environment init,
    createShaderEnvironment (lightEnvironment {}) = some environment ∧
      create (some environment) [1] 0 = some init ∧
        (∃ t, init.createViewParameters 1 {} = some (.nullDereference, t)) ∧
          ¬ init.Renders (.renderToTexture 1 {}) := by
  refine ⟨_, _, rfl, rfl, ⟨_, rfl⟩, ?_⟩
  intro hrenders
  obtain ⟨recorded, t, hrun, -⟩ := hrenders 1 {} rfl
  exact nomatch hrun

end VulkanRenderer

end Teide.ViewParameters
