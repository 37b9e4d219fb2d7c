import Mathlib.Algebra.Order.Group.Nat
import Mathlib.Tactic.Common
import Teide.Lib.Runs
import Teide.ParameterBlock.Layout

/-!
# Descriptor pools

A `DescriptorPool` hands out descriptor sets of one layout. Vulkan's pools have a fixed capacity, so a
pool of twice the size is added when the current one is used up. `Reset` keeps the last of them.

A Vulkan pool is kept with what it was created with and with what has been allocated from it since it
was created or reset. How often it has been reset is part of a set's identity: a set lives as long as
its pool is there and has not been reset since. The Vulkan calls are taken to succeed. The array of
pool sizes is as long as that of the layout's bindings, and does not wrap either.
-/

namespace Teide

structure DescriptorPoolSize where
  type : DescriptorType
  descriptorCount : UInt32
  deriving DecidableEq

/-- A `vk::DescriptorPool`, by the number of pools created before it. -/
structure VkDescriptorPool where
  id : Nat
  maxSets : UInt32
  poolSizes : List DescriptorPoolSize
  /-- since the pool was created or reset -/
  allocatedSets : Nat := 0
  allocatedDescriptors : DescriptorType → Nat := fun _ => 0
  resets : Nat := 0

structure VkDescriptorSet where
  pool : Nat
  resets : Nat
  number : Nat
  deriving DecidableEq

/-- The descriptors of a type in a set of the layout. -/
def descriptorCount (counts : List DescriptorTypeCount) (type : DescriptorType) : Nat :=
  ((counts.filter fun typeCount => typeCount.type = type).map fun typeCount =>
    typeCount.count.toNat).sum

namespace VkDescriptorPool

/-- The descriptors of a type that the pool was created with. -/
def capacity (pool : VkDescriptorPool) (type : DescriptorType) : Nat :=
  ((pool.poolSizes.filter fun poolSize => poolSize.type = type).map fun poolSize =>
    poolSize.descriptorCount.toNat).sum

/-- There is room for one more set of the layout. -/
def HasRoom (pool : VkDescriptorPool) (counts : List DescriptorTypeCount) : Prop :=
  pool.allocatedSets < pool.maxSets.toNat ∧ ∀ type,
    pool.allocatedDescriptors type + descriptorCount counts type ≤ pool.capacity type

/-- No more has been allocated from the pool than it was created with. -/
def Within (pool : VkDescriptorPool) : Prop :=
  pool.allocatedSets ≤ pool.maxSets.toNat ∧ ∀ type,
    pool.allocatedDescriptors type ≤ pool.capacity type

/-- Nothing has been allocated from the pool with this number. -/
structure New (pool : VkDescriptorPool) (id : Nat) : Prop where
  id : pool.id = id
  sets : pool.allocatedSets = 0
  descriptors : ∀ type, pool.allocatedDescriptors type = 0

/-- `allocateDescriptorSets`, for one set -/
def allocate (pool : VkDescriptorPool) (counts : List DescriptorTypeCount) :
    VkDescriptorSet × VkDescriptorPool :=
  (⟨pool.id, pool.resets, pool.allocatedSets⟩,
    { pool with
      allocatedSets := pool.allocatedSets + 1
      allocatedDescriptors := fun type =>
        pool.allocatedDescriptors type + descriptorCount counts type })

/-- `resetDescriptorPool` -/
def reset (pool : VkDescriptorPool) : VkDescriptorPool :=
  { pool with
    allocatedSets := 0
    allocatedDescriptors := fun _ => 0
    resets := pool.resets + 1 }

end VkDescriptorPool

structure DescriptorPool where
  descriptorTypeCounts : List DescriptorTypeCount
  pools : List VkDescriptorPool := []
  maxSets : UInt32
  numAllocatedSets : UInt32 := 0
  /-- the sizes of all the pools that have been created -/
  created : List UInt32 := []
  /-- the sets that have been returned since the last `Reset` -/
  returned : List VkDescriptorSet := []

namespace DescriptorPool

def addPool (s : DescriptorPool) : DescriptorPool :=
  { s with
    pools := s.pools ++
      [{ id := s.created.length
         maxSets := s.maxSets
         poolSizes := s.descriptorTypeCounts.map fun typeCount =>
           ⟨typeCount.type, typeCount.count * s.maxSets⟩ }]
    created := s.created ++ [s.maxSets] }

/-- The constructor. -/
def create (layout : VulkanParameterBlockLayout) (maxSets : UInt32) : DescriptorPool :=
  addPool { descriptorTypeCounts := layout.descriptorTypeCounts, maxSets := maxSets }

/-- `Allocate`, up to the call of Vulkan. -/
def grow (s : DescriptorPool) : DescriptorPool :=
  if s.numAllocatedSets = s.maxSets then
    { addPool { s with maxSets := s.maxSets * 2 } with numAllocatedSets := 0 }
  else s

/-- `back` of an empty vector is not defined. -/
def allocate (s : DescriptorPool) : Option (VkDescriptorSet × DescriptorPool) :=
  let s := s.grow
  s.pools.getLast?.map fun pool =>
    let (descriptorSet, pool) := pool.allocate s.descriptorTypeCounts
    (descriptorSet, { s with
      pools := s.pools.dropLast ++ [pool]
      numAllocatedSets := s.numAllocatedSets + 1
      returned := s.returned ++ [descriptorSet] })

def reset (s : DescriptorPool) : Option DescriptorPool :=
  s.pools.getLast?.map fun pool =>
    { s with
      pools := [pool.reset]
      numAllocatedSets := 0
      returned := [] }

inductive Call where
  | allocate
  | reset
  deriving DecidableEq

def step (s : DescriptorPool) : Call → Option DescriptorPool
  | .allocate => s.allocate.map (·.2)
  | .reset => s.reset

/-! ### What is claimed of the calls -/

/-- A call of `Allocate` does not overflow the size of a pool. -/
def NoOverflow (s : DescriptorPool) (call : Call) : Prop :=
  call = .allocate → s.numAllocatedSets = s.maxSets → s.maxSets.toNat * 2 < 2 ^ 32

instance (s : DescriptorPool) (call : Call) : Decidable (NoOverflow s call) :=
  inferInstanceAs (Decidable (_ → _))

/-- The set belongs to a pool that has been neither destroyed nor reset. -/
def Live (s : DescriptorPool) (descriptorSet : VkDescriptorSet) : Prop :=
  ∃ pool ∈ s.pools, pool.id = descriptorSet.pool ∧ pool.resets = descriptorSet.resets

/-- Between `s` and `t` the set is allocated from this pool and no other one is, and there was room for
it. -/
structure DrawnFrom (pool : VkDescriptorPool) (s : DescriptorPool) (descriptorSet : VkDescriptorSet)
    (t : DescriptorPool) : Prop where
  belongs : descriptorSet.pool = pool.id ∧ descriptorSet.resets = pool.resets
  /-- a pool that was there, or one that is new -/
  origin : pool ∈ s.pools ∨ pool.New s.created.length
  hasRoom : pool.HasRoom s.descriptorTypeCounts
  counted : ∀ pool' ∈ t.pools, pool'.id = descriptorSet.pool →
    pool' = (pool.allocate s.descriptorTypeCounts).2
  others : ∀ pool' ∈ t.pools, pool'.id ≠ descriptorSet.pool → pool' ∈ s.pools

/-- The pool that `Allocate` draws from has room for one more set. -/
def DrawsFromRoom (s : DescriptorPool) (call : Call) : Prop :=
  call = .allocate → ∃ pool descriptorSet t, s.allocate = some (descriptorSet, t) ∧
    DrawnFrom pool s descriptorSet t ∧ t.Live descriptorSet

def ReturnedLive (s : DescriptorPool) : Prop :=
  ∀ descriptorSet ∈ s.returned, s.Live descriptorSet

def PoolsWithin (s : DescriptorPool) : Prop := ∀ pool ∈ s.pools, pool.Within

/-- `Reset` leaves the largest of the pools created so far, with all its capacity free. -/
def LeavesLargest (s : DescriptorPool) (call : Call) : Prop :=
  call = .reset → ∃ t pool, s.reset = some t ∧ t.pools = [pool] ∧
    (pool.maxSets ∈ t.created ∧ ∀ maxSets ∈ t.created, maxSets ≤ pool.maxSets) ∧
    pool.allocatedSets = 0 ∧ (∀ type, pool.allocatedDescriptors type = 0) ∧
    t.maxSets = pool.maxSets ∧ t.numAllocatedSets = 0

/-- Whatever else happens, the calls succeed and keep what is claimed of them. -/
structure Sound (init : DescriptorPool) (calls : List Call) : Prop where
  succeeds : (Runs.exec step init calls).isSome = true
  draws : Runs.Each step DrawsFromRoom init calls
  within : Runs.Always step PoolsWithin init calls
  live : Runs.Always step ReturnedLive init calls
  largest : Runs.Each step LeavesLargest init calls

end DescriptorPool

end Teide
