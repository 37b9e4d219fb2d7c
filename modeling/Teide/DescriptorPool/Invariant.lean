import Mathlib.Algebra.Ring.Nat
import Mathlib.Data.List.Nodup
import Teide.DescriptorPool.Basic

/-!
# The capacity of a descriptor pool

`m_maxSets` and `m_numAllocatedSets` say of the last pool what it was created with and what has been
taken from it, and the other pools are full. Since a set has as many descriptors of a type as the pool
has for each of its sets, the pool runs out of sets and of descriptors at the same time. `Reset`
destroys pools, so what it leaves alive is only what is returned after it.
-/

namespace Teide

variable {counts : List DescriptorTypeCount} {data : ParameterBlockLayoutData}
  {layout : VulkanParameterBlockLayout}

/-! ### Layouts -/

theorem count_of_mem_textureBindings {i : UInt32} {types : List BaseType}
    {bindings : List DescriptorSetLayoutBinding} (h : textureBindings i types = some bindings) :
    ∀ binding ∈ bindings, binding.descriptorCount = 1 := by
  induction types generalizing i bindings with
  | nil =>
    obtain rfl := Option.some.inj h
    simp
  | cons type types ih =>
    obtain ⟨descriptorType, rest, -, hrest, rfl⟩ := textureBindings_eq_some_cons h
    intro binding hbinding
    rcases List.mem_cons.mp hbinding with rfl | hmem
    · rfl
    · exact ih hrest binding hmem

theorem count_of_mem_uniformBinding {binding : DescriptorSetLayoutBinding}
    (h : binding ∈ uniformBinding data) : binding.descriptorCount = 1 := by
  unfold uniformBinding at h
  split at h
  · split at h
    · cases h
    · cases h
      rfl
  · cases h

theorem mem_of_mem_vkexArray {α : Type*} {range array : List α} (h : vkexArray range = some array)
    {a : α} (ha : a ∈ array) : a ∈ range := by
  unfold vkexArray at h
  dsimp only at h
  split at h
  · split at h
    · exact Option.some.inj h ▸ ha
    · cases h
  · obtain rfl := Option.some.inj h
    cases ha

/-- A set of any layout has one descriptor for each binding. -/
theorem count_of_mem_descriptorTypeCounts (h : vulkanParameterBlockLayout data = some layout) :
    ∀ typeCount ∈ layout.descriptorTypeCounts, typeCount.count = 1 := by
  unfold vulkanParameterBlockLayout at h
  obtain ⟨textures, htextures, h⟩ := Option.bind_eq_some_iff.mp h
  obtain ⟨bindings, hbindings, h⟩ := Option.bind_eq_some_iff.mp h
  obtain rfl := Option.some.inj h
  intro typeCount htypeCount
  obtain ⟨binding, hmem, rfl⟩ := List.mem_map.mp htypeCount
  rcases List.mem_append.mp (mem_of_mem_vkexArray hbindings hmem) with hmem | hmem
  · exact count_of_mem_uniformBinding (Option.mem_toList.mp hmem)
  · exact count_of_mem_textureBindings htextures binding hmem

theorem descriptorCount_cons (typeCount : DescriptorTypeCount) (type : DescriptorType) :
    descriptorCount (typeCount :: counts) type =
      (if typeCount.type = type then typeCount.count.toNat else 0) + descriptorCount counts type := by
  unfold descriptorCount
  by_cases h : typeCount.type = type
  · simp [h]
  · simp [h]

/-- A pool has the descriptors for as many sets as it has. -/
theorem capacity_eq {pool : VkDescriptorPool} {maxSets : UInt32}
    (hone : ∀ typeCount ∈ counts, typeCount.count = 1)
    (hsizes : pool.poolSizes = counts.map fun typeCount =>
      ⟨typeCount.type, typeCount.count * maxSets⟩) (type : DescriptorType) :
    pool.capacity type = maxSets.toNat * descriptorCount counts type := by
  unfold VkDescriptorPool.capacity
  rw [hsizes]
  clear hsizes
  induction counts with
  | nil => rfl
  | cons typeCount counts ih =>
    have hcount := hone typeCount List.mem_cons_self
    have hrest := ih fun typeCount' hmem => hone typeCount' (List.mem_cons_of_mem _ hmem)
    rw [descriptorCount_cons, Nat.mul_add, ← hrest, List.map_cons]
    by_cases h : typeCount.type = type
    · simp [h, hcount]
    · simp [h]

namespace DescriptorPool

/-! ### The invariant -/

/-- The counters describe this pool. -/
structure Describes (s : DescriptorPool) (pool : VkDescriptorPool) : Prop where
  maxSets : pool.maxSets = s.maxSets
  poolSizes : pool.poolSizes = s.descriptorTypeCounts.map fun typeCount =>
    ⟨typeCount.type, typeCount.count * s.maxSets⟩
  sets : pool.allocatedSets = s.numAllocatedSets.toNat
  descriptors : ∀ type, pool.allocatedDescriptors type =
    s.numAllocatedSets.toNat * descriptorCount s.descriptorTypeCounts type

structure Inv (s : DescriptorPool) : Prop where
  counts : ∀ typeCount ∈ s.descriptorTypeCounts, typeCount.count = 1
  pos : 0 < s.maxSets.toNat
  le : s.numAllocatedSets.toNat ≤ s.maxSets.toNat
  last : ∃ older pool, s.pools = older ++ [pool] ∧ s.Describes pool
  largest : s.maxSets ∈ s.created ∧ ∀ maxSets ∈ s.created, maxSets.toNat ≤ s.maxSets.toNat
  live : s.ReturnedLive
  ids : (s.pools.map (·.id)).Nodup ∧ ∀ pool ∈ s.pools, pool.id < s.created.length
  within : s.PoolsWithin

variable {s t : DescriptorPool} {pool : VkDescriptorPool}

theorem Describes.hasRoom (h : s.Describes pool)
    (hcounts : ∀ typeCount ∈ s.descriptorTypeCounts, typeCount.count = 1)
    (hlt : s.numAllocatedSets.toNat < s.maxSets.toNat) :
    pool.HasRoom s.descriptorTypeCounts := by
  constructor
  · rw [h.sets, h.maxSets]
    exact hlt
  · intro type
    rw [h.descriptors, capacity_eq hcounts h.poolSizes, ← Nat.succ_mul]
    exact Nat.mul_le_mul_right _ hlt

theorem within_of_new {id : Nat} (h : pool.New id) : pool.Within := by
  constructor
  · rw [h.sets]
    exact Nat.zero_le _
  · intro type
    rw [h.descriptors]
    exact Nat.zero_le _

/-- A pool that has just been created. -/
theorem describes_addPool (h : s.numAllocatedSets = 0) :
    ∃ pool, s.addPool.pools = s.pools ++ [pool] ∧ s.addPool.Describes pool ∧
      pool.New s.created.length := by
  refine ⟨_, rfl, ⟨rfl, rfl, ?_, fun type => ?_⟩, rfl, rfl, fun _ => rfl⟩
  · show 0 = s.numAllocatedSets.toNat
    rw [h, UInt32.toNat_zero]
  · show 0 = s.numAllocatedSets.toNat * _
    rw [h, UInt32.toNat_zero, Nat.zero_mul]

theorem inv_create {maxSets : UInt32} (hlayout : vulkanParameterBlockLayout data = some layout)
    (hpos : 0 < maxSets) : Inv (create layout maxSets) := by
  obtain ⟨pool, hpools, hdescribes, hnew⟩ := describes_addPool
    (s := { descriptorTypeCounts := layout.descriptorTypeCounts, maxSets := maxSets }) rfl
  refine ⟨count_of_mem_descriptorTypeCounts hlayout, UInt32.lt_iff_toNat_lt.mp hpos, ?_,
    ⟨[], pool, hpools, hdescribes⟩, ?_, ?_, ?_, ?_⟩
  · exact Nat.zero_le _
  · refine ⟨List.mem_singleton_self maxSets, fun maxSets' hmem => ?_⟩
    rw [List.mem_singleton.mp hmem]
    exact Nat.le_refl _
  · intro descriptorSet hmem
    cases hmem
  · refine ⟨List.nodup_singleton _, fun pool' hmem => ?_⟩
    rw [List.mem_singleton.mp hmem]
    exact Nat.zero_lt_one
  · intro pool' hmem
    rw [List.mem_singleton.mp hmem]
    exact within_of_new ⟨rfl, rfl, fun _ => rfl⟩

theorem grow_descriptorTypeCounts (s : DescriptorPool) :
    s.grow.descriptorTypeCounts = s.descriptorTypeCounts := by
  unfold grow
  split
  · rfl
  · rfl

/-- The pools that `Allocate` goes on with. -/
theorem grow_pools (s : DescriptorPool) :
    s.grow.pools = s.pools ∨ ∃ pool, s.grow.pools = s.pools ++ [pool] ∧ pool.New s.created.length := by
  unfold grow
  split
  · obtain ⟨pool, hpools, -, hnew⟩ := describes_addPool
      (s := { s with maxSets := s.maxSets * 2, numAllocatedSets := 0 }) rfl
    exact .inr ⟨pool, hpools, hnew⟩
  · exact .inl rfl

/-- A new pool has a number of its own. -/
theorem Inv.ids_append (h : s.Inv) {pools : List VkDescriptorPool}
    (hpools : pools = s.pools ++ [pool]) (hnew : pool.New s.created.length) {maxSets : UInt32} :
    (pools.map (·.id)).Nodup ∧ ∀ pool' ∈ pools, pool'.id < (s.created ++ [maxSets]).length := by
  obtain ⟨hnodup, hlt⟩ := h.ids
  subst hpools
  constructor
  · rw [List.map_append, List.nodup_append]
    refine ⟨hnodup, List.nodup_singleton _, ?_⟩
    rintro id hid _ hlast rfl
    obtain ⟨pool', hmem, rfl⟩ := List.mem_map.mp hid
    rw [List.map_singleton, List.mem_singleton, hnew.id] at hlast
    exact Nat.ne_of_lt (hlt pool' hmem) hlast
  · intro pool' hmem
    rw [List.length_append, List.length_singleton]
    rcases List.mem_append.mp hmem with hmem | hmem
    · exact Nat.lt_succ_of_lt (hlt pool' hmem)
    · rw [List.mem_singleton.mp hmem, hnew.id]
      exact Nat.lt_succ_self _

/-- `Allocate` goes on with a pool that is not full. -/
theorem Inv.grow (h : s.Inv) (hoverflow : NoOverflow s .allocate) :
    s.grow.Inv ∧ s.grow.numAllocatedSets.toNat < s.grow.maxSets.toNat := by
  have hpos := h.pos
  unfold DescriptorPool.grow
  split
  · rename_i hfull
    have hdouble : (s.maxSets * 2).toNat = s.maxSets.toNat * 2 := by
      rw [UInt32.toNat_mul]
      exact Nat.mod_eq_of_lt (hoverflow rfl hfull)
    obtain ⟨pool, hpools, hdescribes, hnew⟩ := describes_addPool
      (s := { s with maxSets := s.maxSets * 2, numAllocatedSets := 0 }) rfl
    refine ⟨⟨h.counts, ?_, Nat.zero_le _, ⟨s.pools, pool, hpools, hdescribes⟩, ?_, ?_, ?_, ?_⟩, ?_⟩
    · show 0 < (s.maxSets * 2).toNat
      omega
    · refine ⟨List.mem_append_right _ (List.mem_singleton_self _), fun maxSets hmem => ?_⟩
      show maxSets.toNat ≤ (s.maxSets * 2).toNat
      rcases List.mem_append.mp hmem with hmem | hmem
      · have hle := h.largest.2 maxSets hmem
        omega
      · rw [List.mem_singleton.mp hmem]
    · intro descriptorSet hmem
      obtain ⟨pool', hpool', hid⟩ := h.live descriptorSet hmem
      exact ⟨pool', List.mem_append_left _ hpool', hid⟩
    · exact h.ids_append hpools hnew
    · intro pool' hmem
      rcases List.mem_append.mp hmem with hmem | hmem
      · exact h.within pool' hmem
      · rw [List.mem_singleton.mp hmem]
        exact within_of_new ⟨rfl, rfl, fun _ => rfl⟩
    · show 0 < (s.maxSets * 2).toNat
      omega
  · rename_i hne
    refine ⟨h, ?_⟩
    have hle := h.le
    have hneNat : s.numAllocatedSets.toNat ≠ s.maxSets.toNat := fun heq =>
      hne (UInt32.toNat_inj.mp heq)
    omega

/-- What one set more is drawn from, and what it leaves. -/
theorem Inv.allocate (h : s.Inv) (hlt : s.numAllocatedSets.toNat < s.maxSets.toNat) :
    ∃ older pool, s.pools = older ++ [pool] ∧ s.Describes pool ∧
      Inv { s with
        pools := older ++ [(pool.allocate s.descriptorTypeCounts).2]
        numAllocatedSets := s.numAllocatedSets + 1
        returned := s.returned ++ [(pool.allocate s.descriptorTypeCounts).1] } := by
  obtain ⟨older, pool, hpools, hdescribes⟩ := h.last
  have hmax := s.maxSets.toNat_lt
  have hsucc : (s.numAllocatedSets + 1).toNat = s.numAllocatedSets.toNat + 1 :=
    Words.toNat_add_one (by omega)
  have hroom := hdescribes.hasRoom h.counts hlt
  refine ⟨older, pool, hpools, hdescribes, h.counts, h.pos, ?_, ⟨older, _, rfl, ?_⟩, h.largest, ?_, ?_,
    ?_⟩
  · show (s.numAllocatedSets + 1).toNat ≤ _
    rw [hsucc]
    exact hlt
  · refine ⟨hdescribes.maxSets, hdescribes.poolSizes, ?_, fun type => ?_⟩
    · show pool.allocatedSets + 1 = (s.numAllocatedSets + 1).toNat
      rw [hsucc, hdescribes.sets]
    · show pool.allocatedDescriptors type + _ = (s.numAllocatedSets + 1).toNat * _
      rw [hsucc, hdescribes.descriptors, Nat.succ_mul]
  · intro descriptorSet hmem
    rcases List.mem_append.mp hmem with hmem | hmem
    · obtain ⟨pool', hpool', hid⟩ := h.live descriptorSet hmem
      rw [hpools] at hpool'
      rcases List.mem_append.mp hpool' with holder | hlast
      · exact ⟨pool', List.mem_append_left _ holder, hid⟩
      · -- the pool keeps its identity
        rw [List.mem_singleton.mp hlast] at hid
        exact ⟨_, List.mem_append_right _ (List.mem_singleton_self _), hid⟩
    · rw [List.mem_singleton.mp hmem]
      exact ⟨_, List.mem_append_right _ (List.mem_singleton_self _), rfl, rfl⟩
  · obtain ⟨hnodup, hids⟩ := h.ids
    rw [hpools] at hnodup hids
    constructor
    · rw [List.map_append] at hnodup ⊢
      exact hnodup
    · intro pool' hmem
      rcases List.mem_append.mp hmem with hmem | hmem
      · exact hids pool' (List.mem_append_left _ hmem)
      · rw [List.mem_singleton.mp hmem]
        exact hids pool (List.mem_append_right _ (List.mem_singleton_self _))
  · intro pool' hmem
    rcases List.mem_append.mp hmem with hmem | hmem
    · exact h.within pool' (hpools ▸ List.mem_append_left _ hmem)
    · rw [List.mem_singleton.mp hmem]
      exact ⟨hroom.1, hroom.2⟩

/-- Only the last pool has changed. -/
theorem Inv.drawnFrom {older : List VkDescriptorPool} (hgrow : s.grow.Inv)
    (hpools : s.grow.pools = older ++ [pool]) (hroom : pool.HasRoom s.grow.descriptorTypeCounts)
    (ht : t.pools = older ++ [(pool.allocate s.grow.descriptorTypeCounts).2]) :
    DrawnFrom pool s (pool.allocate s.grow.descriptorTypeCounts).1 t := by
  rw [grow_descriptorTypeCounts] at hroom ht ⊢
  have hne : ∀ pool' ∈ older, pool'.id ≠ pool.id := by
    have hnodup := hgrow.ids.1
    rw [hpools, List.map_append, List.nodup_append] at hnodup
    exact fun pool' hmem => hnodup.2.2 _ (List.mem_map_of_mem hmem) _ (List.mem_singleton_self _)
  have horigin : (pool ∈ s.pools ∨ pool.New s.created.length) ∧ ∀ pool' ∈ older, pool' ∈ s.pools := by
    obtain hsame | ⟨new, hadded, hnew⟩ := grow_pools s
    · rw [← hsame, hpools]
      exact ⟨.inl (List.mem_append_right _ (List.mem_singleton_self _)),
        fun _ hmem => List.mem_append_left _ hmem⟩
    · obtain ⟨rfl, hlast⟩ := List.append_inj' (hpools.symm.trans hadded) rfl
      obtain rfl := List.singleton_inj.mp hlast
      exact ⟨.inr hnew, fun _ hmem => hmem⟩
  refine ⟨⟨rfl, rfl⟩, horigin.1, hroom,
    fun pool' hmem hid => ?_, fun pool' hmem hid => ?_⟩
  · rw [ht] at hmem
    rcases List.mem_append.mp hmem with hmem | hmem
    · exact absurd hid (hne pool' hmem)
    · exact List.mem_singleton.mp hmem
  · rw [ht] at hmem
    rcases List.mem_append.mp hmem with hmem | hmem
    · exact horigin.2 pool' hmem
    · exact absurd (congrArg (·.id) (List.mem_singleton.mp hmem)) hid

theorem allocate_eq {older : List VkDescriptorPool} (hpools : s.grow.pools = older ++ [pool]) :
    s.allocate = some ((pool.allocate s.grow.descriptorTypeCounts).1, { s.grow with
      pools := older ++ [(pool.allocate s.grow.descriptorTypeCounts).2]
      numAllocatedSets := s.grow.numAllocatedSets + 1
      returned := s.grow.returned ++ [(pool.allocate s.grow.descriptorTypeCounts).1] }) := by
  unfold DescriptorPool.allocate
  dsimp only
  rw [hpools, List.getLast?_concat, List.dropLast_concat]
  rfl

/-- What a call of `Allocate` comes to. -/
theorem Inv.allocate_spec (h : s.Inv) (hoverflow : NoOverflow s .allocate) :
    DrawsFromRoom s .allocate ∧ ∃ descriptorSet t, s.allocate = some (descriptorSet, t) ∧ t.Inv := by
  obtain ⟨hgrow, hlt⟩ := h.grow hoverflow
  obtain ⟨older, pool, hpools, hdescribes, hinv⟩ := hgrow.allocate hlt
  have hroom := hdescribes.hasRoom hgrow.counts hlt
  have hallocate := allocate_eq hpools
  have hlive := hinv.live _ (List.mem_append_right _ (List.mem_singleton_self _))
  exact ⟨fun _ => ⟨pool, _, _, hallocate, hgrow.drawnFrom hpools hroom rfl, hlive⟩,
    _, _, hallocate, hinv⟩

/-- What a call of `Reset` comes to. -/
theorem Inv.reset_spec (h : s.Inv) :
    LeavesLargest s .reset ∧ ∃ t, s.reset = some t ∧ t.Inv := by
  obtain ⟨older, pool, hpools, hdescribes⟩ := h.last
  have hreset : s.reset = some { s with
      pools := [pool.reset], numAllocatedSets := 0, returned := [] } := by
    unfold DescriptorPool.reset
    rw [hpools, List.getLast?_concat]
    rfl
  have hlargest := h.largest
  constructor
  · intro _
    refine ⟨_, _, hreset, rfl, ?_, rfl, fun _ => rfl, hdescribes.maxSets.symm, rfl⟩
    show pool.maxSets ∈ s.created ∧ ∀ maxSets ∈ s.created, maxSets ≤ pool.maxSets
    rw [hdescribes.maxSets]
    exact ⟨hlargest.1, fun maxSets hmem => UInt32.le_iff_toNat_le.mpr (hlargest.2 maxSets hmem)⟩
  · refine ⟨_, hreset, h.counts, h.pos, Nat.zero_le _, ⟨[], _, rfl, ?_⟩, hlargest, ?_, ?_, ?_⟩
    · refine ⟨hdescribes.maxSets, hdescribes.poolSizes, rfl, fun type => ?_⟩
      exact (Nat.zero_mul _).symm
    · intro descriptorSet hmem
      cases hmem
    · refine ⟨List.nodup_singleton _, fun pool' hmem => ?_⟩
      rw [List.mem_singleton.mp hmem]
      exact h.ids.2 pool (hpools ▸ List.mem_append_right _ (List.mem_singleton_self _))
    · intro pool' hmem
      rw [List.mem_singleton.mp hmem]
      exact within_of_new ⟨rfl, rfl, fun _ => rfl⟩

/-! ### A pool to draw from -/

theorem pools_create_ne_nil (layout : VulkanParameterBlockLayout) (maxSets : UInt32) :
    (create layout maxSets).pools ≠ [] := List.cons_ne_nil _ _

theorem exists_allocate (h : s.pools ≠ []) :
    ∃ descriptorSet t, s.allocate = some (descriptorSet, t) ∧ t.pools ≠ [] := by
  have hgrow : s.grow.pools ≠ [] := by
    unfold grow
    split
    · exact List.append_ne_nil_of_left_ne_nil h _
    · exact h
  have hlast := List.getLast?_eq_some_getLast hgrow
  unfold allocate
  dsimp only
  rw [hlast]
  exact ⟨_, _, rfl, List.append_ne_nil_of_right_ne_nil _ (List.cons_ne_nil _ [])⟩

theorem exists_reset (h : s.pools ≠ []) : ∃ t, s.reset = some t ∧ t.pools ≠ [] := by
  have hlast := List.getLast?_eq_some_getLast h
  unfold reset
  rw [hlast]
  exact ⟨_, rfl, List.cons_ne_nil _ []⟩

/-! ### Runs -/

theorem inv_step {call : Call} (h : s.Inv) (hoverflow : NoOverflow s call) :
    ∃ t, step s call = some t ∧ t.Inv := by
  cases call with
  | allocate =>
    obtain ⟨-, descriptorSet, t, hallocate, ht⟩ := h.allocate_spec hoverflow
    refine ⟨t, ?_, ht⟩
    rw [step, hallocate, Option.map_some]
  | reset =>
    obtain ⟨-, t, hreset, ht⟩ := h.reset_spec
    exact ⟨t, hreset, ht⟩

theorem isSome_exec {calls : List Call} (h : s.Inv)
    (hoverflow : Runs.Each step NoOverflow s calls) : (Runs.exec step s calls).isSome = true := by
  induction calls generalizing s with
  | nil => rfl
  | cons call calls ih =>
    obtain ⟨t, hstep, ht⟩ := inv_step h hoverflow.1
    rw [Runs.exec_cons, hstep, Option.bind_some]
    exact ih ht ((Runs.each_cons hstep).mp hoverflow).2

/-- No pool is drawn from when it is empty or gives more than it was created with, no set dies before the
next reset, and a reset leaves the largest pool. -/
theorem sound_of_noOverflow (data : ParameterBlockLayoutData) (layout : VulkanParameterBlockLayout)
    (hlayout : vulkanParameterBlockLayout data = some layout) (maxSets : UInt32)
    (hpos : 0 < maxSets) (calls : List Call)
    (hoverflow : Runs.Each step NoOverflow (create layout maxSets) calls) :
    Sound (create layout maxSets) calls := by
  have hinv := inv_create hlayout hpos
  have hsome := isSome_exec hinv hoverflow
  obtain ⟨u, hexec⟩ := Option.isSome_iff_exists.mp hsome
  have hstep : ∀ s call t, Inv s → NoOverflow s call → step s call = some t → Inv t := by
    intro s call t hs hcall ht
    obtain ⟨t', ht', hinv'⟩ := inv_step hs hcall
    rw [ht] at ht'
    exact Option.some.inj ht' ▸ hinv'
  refine ⟨hsome, ?_, ?_, ?_, ?_⟩
  · refine Runs.each_of_invariant hstep ?_ hinv hoverflow hexec
    intro s call t hs hcall _
    cases call with
    | allocate => exact (hs.allocate_spec hcall).1
    | reset => exact fun hcall => nomatch hcall
  · exact Runs.always_of_each hstep (fun s hs => hs.within) hinv hoverflow hexec
  · exact Runs.always_of_each hstep (fun s hs => hs.live) hinv hoverflow hexec
  · refine Runs.each_of_invariant hstep ?_ hinv hoverflow hexec
    intro s call t hs hcall _
    cases call with
    | allocate => exact fun hcall => nomatch hcall
    | reset => exact hs.reset_spec.1

/-- The layout of a block with uniforms and two textures. -/
def litLayout : VulkanParameterBlockLayout where
  descriptorTypeCounts :=
    [⟨.uniformBuffer, 1⟩, ⟨.combinedImageSampler, 1⟩, ⟨.combinedImageSampler, 1⟩]
  setLayout :=
    [⟨0, .uniformBuffer, 1, 0⟩, ⟨1, .combinedImageSampler, 1, VkShaderStageFlags.all⟩,
      ⟨2, .combinedImageSampler, 1, VkShaderStageFlags.all⟩]
  uniformBufferSize := 64

/-- Seven sets from a pool of two, which grows twice, and one more after a reset. -/
theorem sound_of_noOverflow_litLayout :
    Sound (create litLayout 2) (List.replicate 7 .allocate ++ [.reset, .allocate]) := by
  have hlayout : vulkanParameterBlockLayout
      { uniformsSize := 64, resourceDescs := [.texture2D, .texture2DShadow] } =
        some litLayout := rfl
  exact sound_of_noOverflow _ litLayout hlayout 2 (by decide) _ (by decide)

end DescriptorPool

end Teide
