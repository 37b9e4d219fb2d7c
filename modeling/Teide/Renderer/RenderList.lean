import Mathlib.Data.List.Basic
import Mathlib.Tactic.Common
import Teide.ParameterBlock.Environment

/-!
# Recording a render list

The commands of a render list bind the scene and the view set once, through the layout of the first
object's pipeline, and then for each object its material set, if it has one, its pipeline, its mesh and
its push constants. Nothing binds a set for the object block.

The model of the command buffer keeps what is bound at each set index and through which layout. A
binding through a layout that is not compatible with an earlier one disturbs the latter. Commands that
have to do with the render pass, the viewport and the scissor are kept without their arguments. A
parameter block is given by the descriptor set that `GetDescriptorSet` returns for it.
-/

namespace Teide.RenderList

/-- There are four sets, so the literal indices below are in range. -/
local instance fourSets : NeZero 4 := ⟨Nat.succ_ne_zero 3⟩

/-- What a pipeline layout is created from. Two of them with the same are compatible with each other. -/
structure PipelineLayout where
  setLayouts : Fin 4 → List DescriptorSetLayoutBinding
  pushConstantRange : Option PushConstantRange

/-- The parameter block layout of a set. -/
def pblockLayout (shader : VulkanShader) : Fin 4 → VulkanParameterBlockLayout
  | 0 => shader.scenePblockLayout
  | 1 => shader.viewPblockLayout
  | 2 => shader.materialPblockLayout
  | 3 => shader.objectPblockLayout

def createGraphicsPipelineLayout (shader : VulkanShader) : PipelineLayout :=
  { setLayouts := fun set => (pblockLayout shader set).setLayout
    pushConstantRange := shader.objectPblockLayout.pushConstantRange }

structure VulkanPipeline where
  shader : VulkanShader

def VulkanPipeline.layout (pipeline : VulkanPipeline) : PipelineLayout :=
  createGraphicsPipelineLayout pipeline.shader

structure VulkanMesh where
  vertexBuffer : Nat := 0
  indexBuffer : Option Nat := none
  vertexCount : UInt32 := 0
  indexCount : UInt32 := 0

structure RenderObject where
  mesh : VulkanMesh := {}
  pipeline : VulkanPipeline
  /-- the descriptor set of the block -/
  materialParameters : Option Nat := none
  objectParameters : List UInt8 := []

inductive Command where
  | setViewport | setScissor | beginRenderPass | endRenderPass
  | bindDescriptorSets (layout : PipelineLayout) (set : Fin 4) (descriptorSet : Nat)
  | bindPipeline (pipeline : VulkanPipeline)
  | bindVertexBuffers (buffer : Nat)
  | pushConstants (layout : PipelineLayout) (stageFlags : VkShaderStageFlags) (data : List UInt8)
  | bindIndexBuffer (buffer : Nat)
  | drawIndexed (indexCount : UInt32)
  | draw (vertexCount : UInt32)

/-- The commands of an object up to its draw. -/
def prepareDraw (obj : RenderObject) : List Command :=
  let layout := obj.pipeline.layout
  let objectPblockLayout := obj.pipeline.shader.objectPblockLayout
  obj.materialParameters.toList.map (.bindDescriptorSets layout 2 ·) ++
    [.bindPipeline obj.pipeline, .bindVertexBuffers obj.mesh.vertexBuffer] ++
    (if objectPblockLayout.pushConstantRange.isSome then
      [.pushConstants layout objectPblockLayout.uniformsStages obj.objectParameters] else []) ++
    obj.mesh.indexBuffer.toList.map .bindIndexBuffer

def drawObject (obj : RenderObject) : Command :=
  if obj.mesh.indexBuffer.isSome then .drawIndexed obj.mesh.indexCount
  else .draw obj.mesh.vertexCount

def recordRenderObjectCommands (obj : RenderObject) : List Command :=
  prepareDraw obj ++ [drawObject obj]

/-- The bindings that are made once. -/
def bindParameters (objects : List RenderObject) (sceneParameters viewParameters : Option Nat) :
    List Command :=
  match objects with
  | [] => []
  | first :: _ =>
    sceneParameters.toList.map (.bindDescriptorSets first.pipeline.layout 0 ·) ++
      viewParameters.toList.map (.bindDescriptorSets first.pipeline.layout 1 ·)

def recordRenderListCommands (objects : List RenderObject)
    (sceneParameters viewParameters : Option Nat) : List Command :=
  [.setViewport, .setScissor, .beginRenderPass] ++
    bindParameters objects sceneParameters viewParameters ++
    objects.flatMap recordRenderObjectCommands ++ [.endRenderPass]

/-! ### What is bound -/

/-- Compatible for the set index `set`: the same layouts up to it and the same push constants. -/
def Compatible (set : Fin 4) (a b : PipelineLayout) : Prop :=
  a.pushConstantRange = b.pushConstantRange ∧ ∀ k ≤ set, a.setLayouts k = b.setLayouts k

instance (set : Fin 4) (a b : PipelineLayout) : Decidable (Compatible set a b) :=
  inferInstanceAs (Decidable (_ ∧ ∀ k : Fin 4, k ≤ set → a.setLayouts k = b.setLayouts k))

/-- A descriptor set and the layout that it has been bound through. -/
structure Binding where
  layout : PipelineLayout
  descriptorSet : Nat

structure State where
  sets : Fin 4 → Option Binding := fun _ => none
  /-- the layout and the data of the last push -/
  pushed : Option (PipelineLayout × List UInt8) := none

/-- A lower set stays if it is compatible for its own index. The higher ones stay unless the set that is
replaced is not compatible. -/
def bindSet (sets : Fin 4 → Option Binding) (new : Binding) (set : Fin 4) (k : Fin 4) :
    Option Binding :=
  if k = set then some new
  else if k < set then (sets k).filter fun bound => Compatible k bound.layout new.layout
  else if (sets set).all fun replaced => Compatible set replaced.layout new.layout then sets k
  else none

def execute (s : State) : Command → State
  | .bindDescriptorSets layout set descriptorSet =>
    { s with sets := bindSet s.sets ⟨layout, descriptorSet⟩ set }
  | .bindPipeline pipeline =>
    { s with
      pushed := s.pushed.filter fun pushed =>
        pushed.1.pushConstantRange = pipeline.layout.pushConstantRange }
  | .pushConstants layout _ data => { s with pushed := some (layout, data) }
  | _ => s

def run (s : State) (commands : List Command) : State := commands.foldl execute s

/-- `HasDescriptors` of a block of an object's shader. -/
def hasDescriptors (obj : RenderObject) (set : Fin 4) : Bool :=
  !(pblockLayout obj.pipeline.shader set).descriptorTypeCounts.isEmpty

/-- The shader of the object finds all its parameters. -/
def ReadyFor (s : State) (obj : RenderObject) : Prop :=
  (∀ set, hasDescriptors obj set = true →
    ∃ bound ∈ s.sets set, Compatible set bound.layout obj.pipeline.layout) ∧
  (obj.pipeline.shader.objectPblockLayout.pushConstantRange.isSome = true →
    ∃ pushed ∈ s.pushed,
      pushed.1.pushConstantRange = obj.pipeline.layout.pushConstantRange ∧
        pushed.2 = obj.objectParameters)

/-- What is recorded before the draw of `obj`, which comes behind the objects `before`. -/
def commandsBeforeDraw (objects : List RenderObject) (sceneParameters viewParameters : Option Nat)
    (before : List RenderObject) (obj : RenderObject) : List Command :=
  [.setViewport, .setScissor, .beginRenderPass] ++
    bindParameters objects sceneParameters viewParameters ++
    before.flatMap recordRenderObjectCommands ++ prepareDraw obj

theorem recordRenderListCommands_eq (objects : List RenderObject)
    (sceneParameters viewParameters : Option Nat) {before after : List RenderObject}
    {obj : RenderObject} (h : objects = before ++ obj :: after) :
    recordRenderListCommands objects sceneParameters viewParameters =
      commandsBeforeDraw objects sceneParameters viewParameters before obj ++
        drawObject obj :: (after.flatMap recordRenderObjectCommands ++ [.endRenderPass]) := by
  have hflat : objects.flatMap recordRenderObjectCommands =
      before.flatMap recordRenderObjectCommands ++
        (recordRenderObjectCommands obj ++ after.flatMap recordRenderObjectCommands) := by
    rw [h, List.flatMap_append, List.flatMap_cons]
  unfold recordRenderListCommands commandsBeforeDraw
  rw [hflat, recordRenderObjectCommands]
  simp only [List.append_assoc, List.cons_append, List.nil_append]

def Command.isDraw : Command → Bool
  | .drawIndexed _ | .draw _ => true
  | _ => false

/-- At every draw that is recorded, the parameters of the object that is drawn are bound. The draws are
in the order of the objects. -/
def DrawsReady (objects : List RenderObject) (sceneParameters viewParameters : Option Nat) : Prop :=
  ∀ commands draw rest, recordRenderListCommands objects sceneParameters viewParameters =
      commands ++ draw :: rest → draw.isDraw = true →
    ∃ obj ∈ objects[commands.countP Command.isDraw]?, ReadyFor (run {} commands) obj

/-! ### The draws -/

theorem isDraw_drawObject (obj : RenderObject) : (drawObject obj).isDraw = true := by
  unfold drawObject
  split <;> rfl

theorem countP_prepareDraw (obj : RenderObject) : (prepareDraw obj).countP Command.isDraw = 0 := by
  unfold prepareDraw
  dsimp only
  rw [List.countP_append, List.countP_append, List.countP_append]
  have hmaterial : (obj.materialParameters.toList.map (Command.bindDescriptorSets obj.pipeline.layout 2
      ·)).countP Command.isDraw = 0 := by
    cases obj.materialParameters <;> rfl
  have hindex : (obj.mesh.indexBuffer.toList.map .bindIndexBuffer).countP Command.isDraw = 0 := by
    cases obj.mesh.indexBuffer <;> rfl
  rw [hmaterial, hindex]
  split <;> rfl

theorem countP_bindParameters (objects : List RenderObject)
    (sceneParameters viewParameters : Option Nat) :
    (bindParameters objects sceneParameters viewParameters).countP Command.isDraw = 0 := by
  cases objects with
  | nil => rfl
  | cons first rest => cases sceneParameters <;> cases viewParameters <;> rfl

/-- Each object is drawn once. -/
theorem countP_recordRenderObjectCommands (objects : List RenderObject) :
    (objects.flatMap recordRenderObjectCommands).countP Command.isDraw = objects.length := by
  induction objects with
  | nil => rfl
  | cons obj objects ih =>
    rw [List.flatMap_cons, recordRenderObjectCommands, List.countP_append, List.countP_append, ih,
      countP_prepareDraw, List.countP_singleton, if_pos (isDraw_drawObject obj), List.length_cons]
    omega

theorem countP_commandsBeforeDraw (objects before : List RenderObject) (obj : RenderObject)
    (sceneParameters viewParameters : Option Nat) :
    (commandsBeforeDraw objects sceneParameters viewParameters before obj).countP Command.isDraw =
      before.length := by
  unfold commandsBeforeDraw
  rw [List.countP_append, List.countP_append, List.countP_append, countP_prepareDraw,
    countP_recordRenderObjectCommands, countP_bindParameters]
  exact Nat.zero_add _

theorem countP_recordRenderListCommands (objects : List RenderObject)
    (sceneParameters viewParameters : Option Nat) :
    (recordRenderListCommands objects sceneParameters viewParameters).countP Command.isDraw =
      objects.length := by
  unfold recordRenderListCommands
  rw [List.countP_append, List.countP_append, List.countP_append, countP_recordRenderObjectCommands,
    countP_bindParameters]
  exact Nat.zero_add _

/-- A draw is where it is if as many draws come before it. -/
theorem eq_of_append_draw {commands commands' rest rest' : List Command} {draw draw' : Command}
    (hdraw : draw.isDraw = true) (hdraw' : draw'.isDraw = true)
    (h : commands ++ draw :: rest = commands' ++ draw' :: rest')
    (hcount : commands.countP Command.isDraw = commands'.countP Command.isDraw) :
    commands = commands' := by
  induction commands generalizing commands' with
  | nil =>
    cases commands' with
    | nil => rfl
    | cons command commands' =>
      obtain ⟨rfl, -⟩ := List.cons.inj h
      rw [List.countP_cons_of_pos hdraw] at hcount
      exact absurd hcount.symm (Nat.succ_ne_zero _)
  | cons command commands ih =>
    cases commands' with
    | nil =>
      obtain ⟨rfl, -⟩ := List.cons.inj h
      rw [List.countP_cons_of_pos hdraw'] at hcount
      exact absurd hcount (Nat.succ_ne_zero _)
    | cons command' commands' =>
      obtain ⟨rfl, htail⟩ := List.cons.inj h
      rw [List.countP_cons, List.countP_cons, Nat.add_right_cancel_iff] at hcount
      rw [ih htail hcount]

theorem drawsReady_iff_forall {objects : List RenderObject}
    {sceneParameters viewParameters : Option Nat} :
    DrawsReady objects sceneParameters viewParameters ↔
      ∀ before obj after, objects = before ++ obj :: after →
        ReadyFor (run {} (commandsBeforeDraw objects sceneParameters viewParameters before obj))
          obj := by
  constructor
  · intro hready before obj after h
    obtain ⟨obj', hobj', hready⟩ := hready _ _ _
      (recordRenderListCommands_eq objects sceneParameters viewParameters h) (isDraw_drawObject obj)
    rw [countP_commandsBeforeDraw] at hobj'
    obtain rfl : obj = obj' := by
      rw [h, List.getElem?_append_right (Nat.le_refl _), Nat.sub_self] at hobj'
      exact Option.some.inj hobj'
    exact hready
  · intro hready commands draw rest h hdraw
    have hlt : commands.countP Command.isDraw < objects.length := by
      rw [← countP_recordRenderListCommands objects sceneParameters viewParameters, h,
        List.countP_append, List.countP_cons_of_pos hdraw]
      omega
    have hsplit : objects = objects.take (commands.countP Command.isDraw) ++
        objects[commands.countP Command.isDraw] ::
          objects.drop (commands.countP Command.isDraw + 1) := by
      rw [List.getElem_cons_drop, List.take_append_drop]
    have heq := eq_of_append_draw hdraw (isDraw_drawObject _)
      (h.symm.trans (recordRenderListCommands_eq objects sceneParameters viewParameters hsplit))
      (by rw [countP_commandsBeforeDraw, List.length_take, Nat.min_eq_left (Nat.le_of_lt hlt)])
    have hready := hready _ _ _ hsplit
    rw [← heq] at hready
    exact ⟨_, List.getElem?_eq_getElem hlt, hready⟩

/-! ### The bindings of the objects -/

theorem run_append (s : State) (commands commands' : List Command) :
    run s (commands ++ commands') = run (run s commands) commands' := List.foldl_append

/-- The last of the objects that has a material set. -/
def lastWithMaterial (objects : List RenderObject) : Option RenderObject :=
  (objects.filter fun obj => obj.materialParameters.isSome).getLast?

/-- What an object binds at the index of the material. -/
def materialBinding (obj : RenderObject) : Option Binding :=
  obj.materialParameters.map fun descriptorSet => ⟨obj.pipeline.layout, descriptorSet⟩

/-- An object binds its material set and nothing else, and pushes its data. -/
theorem run_prepareDraw (s : State) (obj : RenderObject) :
    (run s (prepareDraw obj)).sets =
        (match materialBinding obj with
          | none => s.sets
          | some new => bindSet s.sets new 2) ∧
      (obj.pipeline.shader.objectPblockLayout.pushConstantRange.isSome = true →
        (run s (prepareDraw obj)).pushed = some (obj.pipeline.layout, obj.objectParameters)) := by
  unfold prepareDraw materialBinding
  dsimp only
  have hindex (s : State) :
      run s (obj.mesh.indexBuffer.toList.map .bindIndexBuffer) = s := by
    cases obj.mesh.indexBuffer <;> rfl
  rw [run_append, hindex, run_append, run_append]
  constructor
  · cases obj.materialParameters with
    | none => split <;> rfl
    | some descriptorSet => split <;> rfl
  · intro hpush
    rw [if_pos hpush]
    rfl

theorem run_recordRenderObjectCommands (s : State) (obj : RenderObject) :
    (run s (recordRenderObjectCommands obj)).sets = (run s (prepareDraw obj)).sets := by
  unfold recordRenderObjectCommands drawObject
  rw [run_append]
  split <;> rfl

/-- No material set of these objects disturbs a set bound through `layout` at the index `set`. -/
def Undisturbed (set : Fin 4) (layout : PipelineLayout) (objects : List RenderObject) : Prop :=
  ∀ obj ∈ objects, obj.materialParameters.isSome = true → Compatible set layout obj.pipeline.layout

instance (set : Fin 4) (layout : PipelineLayout) (objects : List RenderObject) :
    Decidable (Undisturbed set layout objects) :=
  inferInstanceAs (Decidable (∀ obj ∈ objects, _ → _))

/-- A set that is bound once, after the material sets of the objects. -/
def onceBinding (set : Fin 4) (layout : PipelineLayout) (parameters : Option Nat)
    (objects : List RenderObject) : Option Binding :=
  if Undisturbed set layout objects then parameters.map (⟨layout, ·⟩) else none

/-- What is bound after the objects, if the first of the list has the layout `layout`. -/
def boundAfter (layout : PipelineLayout) (sceneParameters viewParameters : Option Nat)
    (objects : List RenderObject) : Fin 4 → Option Binding
  | 0 => onceBinding 0 layout sceneParameters objects
  | 1 => onceBinding 1 layout viewParameters objects
  | 2 => (lastWithMaterial objects).bind materialBinding
  | 3 => none

theorem undisturbed_append (set : Fin 4) (layout : PipelineLayout) (objects : List RenderObject)
    (obj : RenderObject) : Undisturbed set layout (objects ++ [obj]) ↔
      Undisturbed set layout objects ∧
        (obj.materialParameters.isSome = true → Compatible set layout obj.pipeline.layout) := by
  unfold Undisturbed
  simp only [List.mem_append, List.mem_singleton, or_imp, forall_and, forall_eq]

/-- One material set more. -/
theorem onceBinding_append_some (set : Fin 4) (layout : PipelineLayout) (parameters : Option Nat)
    (objects : List RenderObject) {obj : RenderObject} (h : obj.materialParameters.isSome = true) :
    onceBinding set layout parameters (objects ++ [obj]) =
      (onceBinding set layout parameters objects).filter fun bound =>
        Compatible set bound.layout obj.pipeline.layout := by
  have happend := undisturbed_append set layout objects obj
  simp only [h, true_implies] at happend
  unfold onceBinding
  by_cases hbefore : Undisturbed set layout objects
  · by_cases hcompatible : Compatible set layout obj.pipeline.layout
    · rw [if_pos (happend.mpr ⟨hbefore, hcompatible⟩), if_pos hbefore]
      cases parameters <;> simp [Option.filter, hcompatible]
    · rw [if_neg fun h => hcompatible (happend.mp h).2, if_pos hbefore]
      cases parameters <;> simp [Option.filter, hcompatible]
  · rw [if_neg fun h => hbefore (happend.mp h).1, if_neg hbefore]
    rfl

theorem onceBinding_append_none (set : Fin 4) (layout : PipelineLayout) (parameters : Option Nat)
    (objects : List RenderObject) {obj : RenderObject} (h : obj.materialParameters = none) :
    onceBinding set layout parameters (objects ++ [obj]) =
      onceBinding set layout parameters objects := by
  have happend := undisturbed_append set layout objects obj
  rw [h, Option.isSome_none] at happend
  unfold onceBinding
  simp [happend]

/-- An object changes what is bound as `boundAfter` says. -/
theorem boundAfter_append (layout : PipelineLayout) (sceneParameters viewParameters : Option Nat)
    (objects : List RenderObject) (obj : RenderObject) :
    boundAfter layout sceneParameters viewParameters (objects ++ [obj]) =
      match materialBinding obj with
      | none => boundAfter layout sceneParameters viewParameters objects
      | some new => bindSet (boundAfter layout sceneParameters viewParameters objects) new 2 := by
  unfold materialBinding
  cases hmaterial : obj.materialParameters with
  | none =>
    funext set
    dsimp only [Option.map_none]
    match set with
    | 0 => exact onceBinding_append_none 0 layout sceneParameters objects hmaterial
    | 1 => exact onceBinding_append_none 1 layout viewParameters objects hmaterial
    | 2 => simp [boundAfter, lastWithMaterial, hmaterial]
    | 3 => rfl
  | some descriptorSet =>
    have hsome : obj.materialParameters.isSome = true := by rw [hmaterial, Option.isSome_some]
    funext set
    dsimp only [Option.map_some]
    match set with
    | 0 => exact onceBinding_append_some 0 layout sceneParameters objects hsome
    | 1 => exact onceBinding_append_some 1 layout viewParameters objects hsome
    | 2 => simp [boundAfter, lastWithMaterial, hmaterial, materialBinding, bindSet]
    | 3 =>
      show none = ite _ none none
      split <;> rfl

theorem run_bindParameters (first : RenderObject) (rest : List RenderObject)
    (sceneParameters viewParameters : Option Nat) :
    (run {} ([.setViewport, .setScissor, .beginRenderPass] ++
      bindParameters (first :: rest) sceneParameters viewParameters)).sets =
        boundAfter first.pipeline.layout sceneParameters viewParameters [] := by
  have hself : Compatible 0 first.pipeline.layout first.pipeline.layout := ⟨rfl, fun _ _ => rfl⟩
  funext set
  cases sceneParameters <;> cases viewParameters
  all_goals match set with
  | 0 => simp [run, execute, bindParameters, boundAfter, onceBinding, Undisturbed, bindSet, hself]
  | 1 => simp [run, execute, bindParameters, boundAfter, onceBinding, Undisturbed, bindSet]
  | 2 => simp [run, execute, bindParameters, boundAfter, lastWithMaterial, bindSet]
  | 3 => simp [run, execute, bindParameters, boundAfter, bindSet]

theorem run_objects (s : State) (layout : PipelineLayout) (sceneParameters viewParameters : Option Nat)
    (h : s.sets = boundAfter layout sceneParameters viewParameters []) (objects : List RenderObject) :
    (run s (objects.flatMap recordRenderObjectCommands)).sets =
      boundAfter layout sceneParameters viewParameters objects := by
  induction objects using List.reverseRecOn with
  | nil => exact h
  | append_singleton objects obj ih =>
    rw [List.flatMap_append, run_append, List.flatMap_singleton, run_recordRenderObjectCommands,
      (run_prepareDraw _ obj).1, ih, boundAfter_append]

/-! ### When all draws have their parameters -/

/-- The draw of `obj` behind the objects `before`, in a list whose first object has the layout `layout`:
what is bound once fits the object and has not been disturbed, the last material set fits it, and its
object block has no descriptors. -/
structure ParametersReach (layout : PipelineLayout) (before : List RenderObject)
    (obj : RenderObject) : Prop where
  scene : hasDescriptors obj 0 = true →
    Compatible 0 layout obj.pipeline.layout ∧ Undisturbed 0 layout before
  view : hasDescriptors obj 1 = true →
    Compatible 1 layout obj.pipeline.layout ∧ Undisturbed 1 layout before
  material : hasDescriptors obj 2 = true →
    ∃ last ∈ lastWithMaterial (before ++ [obj]),
      Compatible 2 last.pipeline.layout obj.pipeline.layout
  object : hasDescriptors obj 3 = false

/-- Every draw is reached by its parameters. -/
def ParametersComplete (objects : List RenderObject) : Prop :=
  ∀ first ∈ objects.head?, ∀ before obj after, objects = before ++ obj :: after →
    ParametersReach first.pipeline.layout before obj

theorem exists_onceBinding_iff (set : Fin 4) {layout : PipelineLayout} {parameters : Option Nat}
    (hparameters : parameters.isSome = true) (before : List RenderObject) (obj : RenderObject) :
    (∃ bound ∈ onceBinding set layout parameters (before ++ [obj]),
        Compatible set bound.layout obj.pipeline.layout) ↔
      Compatible set layout obj.pipeline.layout ∧ Undisturbed set layout before := by
  obtain ⟨descriptorSet, rfl⟩ := Option.isSome_iff_exists.mp hparameters
  have happend := undisturbed_append set layout before obj
  unfold onceBinding
  constructor
  · rintro ⟨bound, hbound, hcompatible⟩
    split at hbound
    · rename_i hundisturbed
      obtain rfl := Option.some.inj hbound
      exact ⟨hcompatible, (happend.mp hundisturbed).1⟩
    · exact absurd hbound (Option.not_mem_none bound)
  · rintro ⟨hcompatible, hundisturbed⟩
    rw [if_pos (happend.mpr ⟨hundisturbed, fun _ => hcompatible⟩)]
    exact ⟨⟨layout, descriptorSet⟩, rfl, hcompatible⟩

theorem exists_materialBinding_iff (objects : List RenderObject) (obj : RenderObject) :
    (∃ bound ∈ (lastWithMaterial objects).bind materialBinding,
        Compatible 2 bound.layout obj.pipeline.layout) ↔
      ∃ last ∈ lastWithMaterial objects, Compatible 2 last.pipeline.layout obj.pipeline.layout := by
  cases hlast : lastWithMaterial objects with
  | none => simp
  | some last =>
    have hmem := List.mem_of_getLast? hlast
    have hsome := (List.mem_filter.mp hmem).2
    obtain ⟨descriptorSet, hmaterial⟩ := Option.isSome_iff_exists.mp hsome
    simp [materialBinding, hmaterial]

section CommandsBeforeDraw

variable (first : RenderObject) (rest before : List RenderObject) (obj : RenderObject)
  (sceneParameters viewParameters : Option Nat)

theorem sets_commandsBeforeDraw : (run {} (commandsBeforeDraw (first :: rest) sceneParameters
    viewParameters before obj)).sets =
      boundAfter first.pipeline.layout sceneParameters viewParameters (before ++ [obj]) := by
  have hfirst := run_bindParameters first rest sceneParameters viewParameters
  unfold commandsBeforeDraw
  rw [run_append, (run_prepareDraw _ obj).1, run_append, run_objects _ first.pipeline.layout
    sceneParameters viewParameters hfirst, boundAfter_append]

theorem pushed_commandsBeforeDraw (objects : List RenderObject)
    (hpush : obj.pipeline.shader.objectPblockLayout.pushConstantRange.isSome = true) :
    (run {} (commandsBeforeDraw objects sceneParameters viewParameters before obj)).pushed =
      some (obj.pipeline.layout, obj.objectParameters) := by
  unfold commandsBeforeDraw
  rw [run_append]
  exact (run_prepareDraw _ obj).2 hpush

end CommandsBeforeDraw

/-- One draw. -/
theorem readyFor_iff {objects before : List RenderObject} {first obj : RenderObject}
    {sceneParameters viewParameters : Option Nat} (hfirst : objects.head? = some first)
    (hscene : hasDescriptors obj 0 = true → sceneParameters.isSome = true)
    (hview : hasDescriptors obj 1 = true → viewParameters.isSome = true) :
    ReadyFor (run {} (commandsBeforeDraw objects sceneParameters viewParameters before obj)) obj ↔
      ParametersReach first.pipeline.layout before obj := by
  obtain ⟨rest, rfl⟩ : ∃ rest, objects = first :: rest := List.head?_eq_some_iff.mp hfirst
  have hsets := sets_commandsBeforeDraw first rest before obj sceneParameters viewParameters
  have hpushed : obj.pipeline.shader.objectPblockLayout.pushConstantRange.isSome = true →
      ∃ pushed ∈ (run {} (commandsBeforeDraw (first :: rest) sceneParameters viewParameters before
        obj)).pushed, pushed.1.pushConstantRange = obj.pipeline.layout.pushConstantRange ∧
          pushed.2 = obj.objectParameters := by
    intro hpush
    have hdata := pushed_commandsBeforeDraw before obj sceneParameters viewParameters (first :: rest)
      hpush
    exact ⟨_, hdata, rfl, rfl⟩
  unfold ReadyFor
  rw [and_iff_left hpushed, hsets]
  constructor
  · intro hready
    refine ⟨fun h => ?_, fun h => ?_, fun h => ?_, ?_⟩
    · exact (exists_onceBinding_iff 0 (hscene h) before obj).mp (hready 0 h)
    · exact (exists_onceBinding_iff 1 (hview h) before obj).mp (hready 1 h)
    · exact (exists_materialBinding_iff _ obj).mp (hready 2 h)
    · apply Bool.eq_false_iff.mpr
      intro h
      obtain ⟨bound, hbound, -⟩ := hready 3 h
      exact absurd hbound (Option.not_mem_none bound)
  · rintro ⟨hscene', hview', hmaterial', hobject'⟩ set h
    match set with
    | 0 => exact (exists_onceBinding_iff 0 (hscene h) before obj).mpr (hscene' h)
    | 1 => exact (exists_onceBinding_iff 1 (hview h) before obj).mpr (hview' h)
    | 2 => exact (exists_materialBinding_iff _ obj).mpr (hmaterial' h)
    | 3 => exact absurd (h.symm.trans hobject') (by decide)

/-- All draws have their parameters bound exactly if no object block has descriptors, every material
block with descriptors is behind a material set that fits, and the pipelines whose shaders use the scene
or the view, and those of the material sets before them, have layouts like the first one. -/
theorem drawsReady_iff (objects : List RenderObject) (sceneParameters viewParameters : Option Nat)
    (hscene : ∀ obj ∈ objects, hasDescriptors obj 0 = true → sceneParameters.isSome = true)
    (hview : ∀ obj ∈ objects, hasDescriptors obj 1 = true → viewParameters.isSome = true) :
    DrawsReady objects sceneParameters viewParameters ↔ ParametersComplete objects := by
  rw [drawsReady_iff_forall]
  have hmem {before after : List RenderObject} {obj : RenderObject}
      (h : objects = before ++ obj :: after) : obj ∈ objects :=
    h ▸ List.mem_append_cons_self
  constructor
  · intro hready first hfirst before obj after h
    exact (readyFor_iff hfirst (hscene obj (hmem h)) (hview obj (hmem h))).mp
      (hready before obj after h)
  · intro hcomplete before obj after h
    obtain ⟨first, hfirst⟩ : ∃ first, objects.head? = some first := by
      cases hobjects : objects with
      | nil => exact absurd (hobjects ▸ hmem h) List.not_mem_nil
      | cons first rest => exact ⟨first, rfl⟩
    exact (readyFor_iff hfirst (hscene obj (hmem h)) (hview obj (hmem h))).mpr
      (hcomplete first hfirst before obj after h)

/-- A list of objects of one shader, with material sets and without descriptors of their own. -/
theorem parametersComplete_of_shader (shader : VulkanShader)
    (hobject : shader.objectPblockLayout.descriptorTypeCounts = []) (objects : List RenderObject)
    (hshader : ∀ obj ∈ objects, obj.pipeline.shader = shader)
    (hmaterial : ∀ obj ∈ objects, obj.materialParameters.isSome = true) :
    ParametersComplete objects := by
  intro first hfirst before obj after h
  have hlayout (o : RenderObject) (ho : o ∈ objects) :
      o.pipeline.layout = createGraphicsPipelineLayout shader := by
    rw [VulkanPipeline.layout, hshader o ho]
  have hsame (set : Fin 4) (a b : RenderObject) (ha : a ∈ objects) (hb : b ∈ objects) :
      Compatible set a.pipeline.layout b.pipeline.layout := by
    rw [hlayout a ha, hlayout b hb]
    exact ⟨rfl, fun _ _ => rfl⟩
  have hfirst' : first ∈ objects := List.mem_of_head? hfirst
  have hobj : obj ∈ objects := h ▸ List.mem_append_cons_self
  have hbefore (o : RenderObject) (ho : o ∈ before) : o ∈ objects := by
    rw [h]
    exact List.mem_append_left _ ho
  refine ⟨fun _ => ⟨hsame 0 first obj hfirst' hobj, fun o ho _ => ?_⟩,
    fun _ => ⟨hsame 1 first obj hfirst' hobj, fun o ho _ => ?_⟩, fun _ => ⟨obj, ?_, ?_⟩, ?_⟩
  · exact hsame 0 first o hfirst' (hbefore o ho)
  · exact hsame 1 first o hfirst' (hbefore o ho)
  · simp [lastWithMaterial, hmaterial obj hobj]
  · exact hsame 2 obj obj hobj hobj
  · unfold hasDescriptors
    rw [hshader obj hobj]
    simp [pblockLayout, hobject]

/-- The layouts of a shader whose blocks have a light, a camera matrix, a texture and a model matrix. -/
def litShader : VulkanShader :=
  { scenePblockLayout :=
      { descriptorTypeCounts := [⟨.uniformBuffer, 1⟩]
        setLayout := [⟨0, .uniformBuffer, 1, VkShaderStageFlags.fragment⟩]
        uniformBufferSize := 16 }
    viewPblockLayout :=
      { descriptorTypeCounts := [⟨.uniformBuffer, 1⟩]
        setLayout := [⟨0, .uniformBuffer, 1, VkShaderStageFlags.vertex⟩]
        uniformBufferSize := 64 }
    materialPblockLayout :=
      { descriptorTypeCounts := [⟨.combinedImageSampler, 1⟩]
        setLayout := [⟨1, .combinedImageSampler, 1, VkShaderStageFlags.all⟩] }
    objectPblockLayout := { pushConstantRange := some ⟨VkShaderStageFlags.vertex, 0, 64⟩ } }

def litObject (material : Nat) : RenderObject :=
  { pipeline := ⟨litShader⟩
    materialParameters := some material
    objectParameters := List.replicate 64 0 }

theorem drawsReady_iff_litObjects :
    hasDescriptors (litObject 7) 0 = true ∧
      DrawsReady [litObject 7, litObject 8] (some 3) (some 5) := by
  have hcomplete : ParametersComplete [litObject 7, litObject 8] :=
    parametersComplete_of_shader litShader rfl _ (by simp [litObject]) (by simp [litObject])
  exact ⟨rfl, (drawsReady_iff _ (some 3) (some 5) (fun _ _ _ => rfl) fun _ _ _ => rfl).mpr
    hcomplete⟩

/-- A shader whose object block has a texture. -/
def decalShader : VulkanShader :=
  { litShader with
    objectPblockLayout :=
      { descriptorTypeCounts := [⟨.combinedImageSampler, 1⟩]
        setLayout := [⟨1, .combinedImageSampler, 1, VkShaderStageFlags.all⟩] } }

def decalObject : RenderObject := { pipeline := ⟨decalShader⟩, materialParameters := some 7 }

/-- No set is bound at the index of the object block. -/
theorem not_drawsReady : ¬ ∀ (objects : List RenderObject)
    (sceneParameters viewParameters : Option Nat),
    (∀ obj ∈ objects, hasDescriptors obj 0 = true → sceneParameters.isSome = true) →
      (∀ obj ∈ objects, hasDescriptors obj 1 = true → viewParameters.isSome = true) →
        DrawsReady objects sceneParameters viewParameters := by
  intro h
  obtain ⟨hsets, -⟩ := drawsReady_iff_forall.mp (h [decalObject] (some 3) (some 5)
    (fun _ _ _ => rfl) fun _ _ _ => rfl) [] decalObject [] rfl
  obtain ⟨bound, hbound, -⟩ := hsets 3 rfl
  exact absurd hbound (Option.not_mem_none bound)

end Teide.RenderList
