import Mathlib.Data.List.Basic
import Mathlib.Tactic.Common
import Teide.Lib.Runs

/-!
# What a command buffer keeps alive

A `CommandBuffer` holds references to textures and buffers that its commands use, and owns buffers,
allocations and render lists that only it uses. `Reset`, which the executor calls when it comes back
to the frame slot, empties five of its eight containers. The render lists are not among them, so they
stay, with the meshes, pipelines, parameter blocks and textures of their objects.

Shared objects are given by numbers. `added` is the history of what has been added since the last
`Reset`.
-/

namespace Teide.CommandBuffers

open Runs

structure RenderObject where
  mesh : Option Nat := none
  pipeline : Option Nat := none
  materialParameters : Option Nat := none
  /-- the textures of `objectParameters` -/
  objectTextures : List Nat := []
  deriving DecidableEq

structure RenderList where
  name : String := ""
  /-- the textures of `viewParameters` -/
  viewTextures : List Nat := []
  objects : List RenderObject := []
  deriving DecidableEq

/-- What can be kept alive. -/
inductive Resource where
  | texture (p : Nat)
  | buffer (p : Nat)
  | mesh (p : Nat)
  | parameterBlock (p : Nat)
  | pipeline (p : Nat)
  | uniqueBuffer (buffer : Nat)
  | uniqueAllocation (allocation : Nat)
  | renderList (renderList : RenderList)
  deriving DecidableEq

def RenderObject.resources (obj : RenderObject) : List Resource :=
  obj.mesh.toList.map .mesh ++ obj.pipeline.toList.map .pipeline ++
    obj.materialParameters.toList.map .parameterBlock ++ obj.objectTextures.map .texture

/-- A render list, and what it holds. -/
def RenderList.resources (renderList : RenderList) : List Resource :=
  .renderList renderList :: (renderList.viewTextures.map .texture ++
    renderList.objects.flatMap RenderObject.resources)

structure CommandBuffer where
  referencedTextures : List Nat := []
  referencedBuffers : List Nat := []
  referencedMeshes : List Nat := []
  referencedParameterBlocks : List Nat := []
  referencedPipelines : List Nat := []
  ownedBuffers : List Nat := []
  ownedAllocations : List Nat := []
  ownedRenderLists : List RenderList := []

/-- The calls, with one constructor for each overload. -/
inductive Call where
  | addReferenceTexture (p : Nat)
  | addReferenceBuffer (p : Nat)
  | takeOwnershipBuffer (buffer : Nat)
  | takeOwnershipAllocation (allocation : Nat)
  | takeOwnershipRenderList (renderList : RenderList)
  | reset
  deriving DecidableEq

namespace CommandBuffer

def addReferenceTexture (b : CommandBuffer) (p : Nat) : CommandBuffer :=
  { b with referencedTextures := b.referencedTextures.insert p }

def addReferenceBuffer (b : CommandBuffer) (p : Nat) : CommandBuffer :=
  { b with referencedBuffers := b.referencedBuffers.insert p }

def takeOwnershipBuffer (b : CommandBuffer) (buffer : Nat) : CommandBuffer :=
  { b with ownedBuffers := b.ownedBuffers ++ [buffer] }

def takeOwnershipAllocation (b : CommandBuffer) (allocation : Nat) : CommandBuffer :=
  { b with ownedAllocations := b.ownedAllocations ++ [allocation] }

def takeOwnershipRenderList (b : CommandBuffer) (renderList : RenderList) : CommandBuffer :=
  { b with ownedRenderLists := b.ownedRenderLists ++ [renderList] }

def reset (b : CommandBuffer) : CommandBuffer :=
  { b with
    referencedTextures := []
    referencedBuffers := []
    referencedParameterBlocks := []
    ownedBuffers := []
    ownedAllocations := [] }

def call (b : CommandBuffer) : Call → CommandBuffer
  | .addReferenceTexture p => b.addReferenceTexture p
  | .addReferenceBuffer p => b.addReferenceBuffer p
  | .takeOwnershipBuffer buffer => b.takeOwnershipBuffer buffer
  | .takeOwnershipAllocation allocation => b.takeOwnershipAllocation allocation
  | .takeOwnershipRenderList renderList => b.takeOwnershipRenderList renderList
  | .reset => b.reset

/-- All that the containers keep alive. -/
def resources (b : CommandBuffer) : List Resource :=
  b.referencedTextures.map .texture ++ b.referencedBuffers.map .buffer ++
    b.referencedMeshes.map .mesh ++ b.referencedParameterBlocks.map .parameterBlock ++
    b.referencedPipelines.map .pipeline ++ b.ownedBuffers.map .uniqueBuffer ++
    b.ownedAllocations.map .uniqueAllocation ++ b.ownedRenderLists.flatMap RenderList.resources

end CommandBuffer

/-- What a call adds. -/
def Call.resources : Call → List Resource
  | addReferenceTexture p => [.texture p]
  | addReferenceBuffer p => [.buffer p]
  | takeOwnershipBuffer buffer => [.uniqueBuffer buffer]
  | takeOwnershipAllocation allocation => [.uniqueAllocation allocation]
  | takeOwnershipRenderList renderList => renderList.resources
  | reset => []

structure State where
  buffer : CommandBuffer := {}
  added : List Resource := []

namespace State

def step (s : State) (call : Call) : Option State :=
  some
    { buffer := s.buffer.call call
      added := if call = .reset then [] else s.added ++ call.resources }

/-- The buffer keeps exactly what has been added since the last `Reset`. -/
def KeepsExactly (s : State) : Prop := ∀ resource, resource ∈ s.buffer.resources ↔ resource ∈ s.added

/-- The buffer owns no render list when it is reset. -/
def ResetsNoRenderList (s : State) (call : Call) : Prop :=
  call = .reset → s.buffer.ownedRenderLists = []

/-- Nothing adds to these two containers. -/
structure Inv (s : State) : Prop where
  meshes : s.buffer.referencedMeshes = []
  pipelines : s.buffer.referencedPipelines = []

variable {s t : State} {b : CommandBuffer} {call : Call} {calls : List Call} {resource : Resource}

/-! ### One call -/

theorem mem_map_insert {l : List Nat} {p : Nat} {f : Nat → Resource} :
    resource ∈ (l.insert p).map f ↔ resource ∈ l.map f ∨ resource ∈ [f p] := by
  simp only [List.mem_map, List.mem_insert_iff, or_and_right, exists_or, exists_eq_left,
    List.mem_singleton]
  rw [or_comm, eq_comm]

/-- A call other than `Reset` adds its resources and drops nothing. -/
theorem mem_resources_call (hcall : call ≠ .reset) :
    resource ∈ (b.call call).resources ↔ resource ∈ b.resources ∨ resource ∈ call.resources := by
  cases call with
  | addReferenceTexture p =>
    simp only [CommandBuffer.call, CommandBuffer.addReferenceTexture, CommandBuffer.resources,
      Call.resources, List.mem_append, mem_map_insert]
    grind
  | addReferenceBuffer p =>
    simp only [CommandBuffer.call, CommandBuffer.addReferenceBuffer, CommandBuffer.resources,
      Call.resources, List.mem_append, mem_map_insert]
    grind
  | takeOwnershipBuffer buffer =>
    simp only [CommandBuffer.call, CommandBuffer.takeOwnershipBuffer, CommandBuffer.resources,
      Call.resources, List.mem_append, List.map_append, List.map_cons, List.map_nil]
    grind
  | takeOwnershipAllocation allocation =>
    simp only [CommandBuffer.call, CommandBuffer.takeOwnershipAllocation, CommandBuffer.resources,
      Call.resources, List.mem_append, List.map_append, List.map_cons, List.map_nil]
    grind
  | takeOwnershipRenderList renderList =>
    simp only [CommandBuffer.call, CommandBuffer.takeOwnershipRenderList, CommandBuffer.resources,
      Call.resources, List.mem_append, List.flatMap_append, List.flatMap_cons, List.flatMap_nil,
      List.append_nil]
    grind
  | reset => exact absurd rfl hcall

/-- `Reset` leaves the render lists. -/
theorem resources_reset (hs : s.Inv) :
    s.buffer.reset.resources = s.buffer.ownedRenderLists.flatMap RenderList.resources := by
  unfold CommandBuffer.reset CommandBuffer.resources
  dsimp only
  rw [hs.meshes, hs.pipelines]
  rfl

theorem flatMap_resources_eq_nil_iff {renderLists : List RenderList} :
    renderLists.flatMap RenderList.resources = [] ↔ renderLists = [] := by
  cases renderLists with
  | nil => exact iff_of_true rfl rfl
  | cons renderList renderLists => simp [RenderList.resources]

theorem Inv.step (hs : s.Inv) (h : s.step call = some t) : t.Inv := by
  obtain rfl := Option.some.inj h
  cases call <;> exact ⟨hs.meshes, hs.pipelines⟩

/-- A call keeps the property exactly if it does not reset a buffer that owns render lists. -/
theorem step_keepsExactly_iff (hs : s.Inv) (hkeeps : s.KeepsExactly) (h : s.step call = some t) :
    t.KeepsExactly ↔ s.ResetsNoRenderList call := by
  obtain rfl := Option.some.inj h
  by_cases hcall : call = .reset
  · subst hcall
    unfold KeepsExactly ResetsNoRenderList
    show (∀ resource, resource ∈ s.buffer.reset.resources ↔ resource ∈ []) ↔ _
    rw [resources_reset hs]
    constructor
    · intro hnone _
      apply flatMap_resources_eq_nil_iff.mp
      apply List.eq_nil_iff_forall_not_mem.mpr
      intro resource hmem
      exact List.not_mem_nil ((hnone resource).mp hmem)
    · intro hlists resource
      rw [hlists rfl]
      rfl
  · refine iff_of_true (fun resource => ?_) (fun heq => absurd heq hcall)
    dsimp only
    rw [mem_resources_call hcall, if_neg hcall, List.mem_append, hkeeps resource]

/-- A call drops nothing that has been added since the last `Reset`. -/
theorem step_keeps_added (hadded : ∀ resource ∈ s.added, resource ∈ s.buffer.resources)
    (h : s.step call = some t) : ∀ resource ∈ t.added, resource ∈ t.buffer.resources := by
  obtain rfl := Option.some.inj h
  dsimp only
  by_cases hcall : call = .reset
  · rw [if_pos hcall]
    exact fun _ hmem => absurd hmem List.not_mem_nil
  · rw [if_neg hcall]
    intro resource hmem
    apply (mem_resources_call hcall).mpr
    exact (List.mem_append.mp hmem).imp_left (hadded resource)

/-! ### Every run -/

theorem exists_exec (s : State) (calls : List Call) : ∃ t, exec step s calls = some t := by
  induction calls generalizing s with
  | nil => exact ⟨s, rfl⟩
  | cons call calls ih => exact ih _

/-- What is added is kept, in every run. -/
theorem keeps_added (h : exec step {} calls = some s) :
    ∀ resource ∈ s.added, resource ∈ s.buffer.resources :=
  exec_invariant (I := fun s => ∀ resource ∈ s.added, resource ∈ s.buffer.resources)
    (fun _ _ _ hadded ht => step_keeps_added hadded ht)
    (fun _ hmem => absurd hmem List.not_mem_nil) h

/-- **In every run, the buffer keeps exactly what has been added since the last `Reset` throughout, if
and only if it owns no render list whenever it is reset.** -/
theorem always_keepsExactly_iff (calls : List Call) :
    Always step KeepsExactly {} calls ↔ Each step ResetsNoRenderList {} calls := by
  obtain ⟨s, hexec⟩ := exists_exec {} calls
  apply always_iff_each (I := Inv) _ _ ⟨rfl, rfl⟩ _ hexec
  · exact fun _ _ _ hs _ ht _ => hs.step ht
  · exact fun _ _ _ hs hkeeps ht => step_keepsExactly_iff hs hkeeps ht
  · exact fun _ => Iff.rfl

/-- A list with one object. -/
def oneObject : RenderList where
  objects := [{ mesh := some 0, pipeline := some 1, materialParameters := some 2 }]

/-- The mesh of an earlier frame is kept. -/
theorem not_always_keepsExactly :
    ¬ Always step KeepsExactly {} [.takeOwnershipRenderList oneObject, .reset] := by
  rintro ⟨-, -, hkeeps⟩
  exact absurd ((hkeeps (.mesh 0)).mp (by decide)) List.not_mem_nil

end State

end Teide.CommandBuffers
