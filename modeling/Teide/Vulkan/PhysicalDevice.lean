import Mathlib.Data.List.Destutter
import Mathlib.Data.List.Sort
import Mathlib.Tactic.Common

/-!
# Selecting a GPU

`FindPhysicalDevice` sorts the suitable devices, discrete GPUs first, and takes the first one, or the
first one that is a CPU where software rendering is on. The comparison it sorts with looks at its
first argument only, so that a discrete GPU comes before itself.

`std::ranges::sort` gives a sorted permutation for a comparison that is a strict weak ordering of the
elements; for other comparisons it may do anything. It is a parameter of the model.
-/

namespace Teide

inductive PhysicalDeviceType where
  | other | integratedGpu | discreteGpu | virtualGpu | cpu
  deriving DecidableEq

structure QueueFamilies where
  graphicsFamily : UInt32 := 0
  transferFamily : UInt32 := 0
  presentFamily : Option UInt32 := none

structure PhysicalDevice where
  /-- the handle -/
  physicalDevice : Nat
  deviceType : PhysicalDeviceType
  queueFamilies : QueueFamilies := {}
  queueFamilyIndices : List UInt32 := []

namespace PhysicalDevice

/-- The comparison that `FindPhysicalDevice` sorts with. -/
def comesBefore (a _b : PhysicalDevice) : Bool := a.deviceType = .discreteGpu

/-- The queue families of a device, sorted and without duplicates. -/
def familyIndices (queueFamilies : QueueFamilies) : List UInt32 :=
  (([queueFamilies.graphicsFamily, queueFamilies.transferFamily] ++
    queueFamilies.presentFamily.toList).insertionSort (· ≤ ·)).destutter (· ≠ ·)

/-- `FindPhysicalDevice`, once the suitable devices are known; `none` where it throws. -/
def findPhysicalDevice (sort : List PhysicalDevice → List PhysicalDevice)
    (softwareRendering : Bool) (physicalDevices : List PhysicalDevice) : Option PhysicalDevice :=
  if physicalDevices.isEmpty then none
  else
    let physicalDevices := sort physicalDevices
    let physicalDevices :=
      if softwareRendering then physicalDevices.filter (·.deviceType = .cpu) else physicalDevices
    physicalDevices.head?.map fun ret =>
      { ret with queueFamilyIndices := familyIndices ret.queueFamilies }

/-! ### Sorting -/

/-- The comparison is a strict weak ordering of the elements of the list. -/
def StrictWeakOn {α : Type*} (comp : α → α → Bool) (l : List α) : Prop :=
  IsStrictWeakOrder {a // a ∈ l} fun a b => comp a b = true

/-- What is known of `std::ranges::sort`: the elements are sorted if the comparison allows it. -/
def Sorts {α : Type*} (sort : List α → List α) (comp : α → α → Bool) : Prop :=
  ∀ l, StrictWeakOn comp l → (sort l).Perm l ∧ (sort l).Pairwise fun a b => comp b a = false

/-- The selection is well defined, and finds a discrete GPU. -/
structure SelectsDiscrete (physicalDevices : List PhysicalDevice) : Prop where
  strictWeak : StrictWeakOn comesBefore physicalDevices
  discrete : ∀ sort, Sorts sort comesBefore →
    (∃ device ∈ physicalDevices, device.deviceType = .discreteGpu) →
      ∃ ret, findPhysicalDevice sort false physicalDevices = some ret ∧
        ret.deviceType = .discreteGpu

variable {physicalDevices : List PhysicalDevice}
  {sort : List PhysicalDevice → List PhysicalDevice}

/-! ### The families -/

/-- Removing repetitions loses no element. -/
theorem mem_destutter'_ne {α : Type*} [DecidableEq α] {x a : α} {l : List α} :
    x ∈ l.destutter' (· ≠ ·) a ↔ x ∈ a :: l := by
  induction l generalizing a with
  | nil => rfl
  | cons b l ih =>
    by_cases hab : a = b
    · rw [List.destutter'_cons_neg _ (not_not_intro hab), ih, hab]
      simp
    · rw [List.destutter'_cons_pos _ hab, List.mem_cons, ih, List.mem_cons (a := x) (b := a)]

theorem mem_destutter_ne {α : Type*} [DecidableEq α] {x : α} {l : List α} :
    x ∈ l.destutter (· ≠ ·) ↔ x ∈ l := by
  cases l with
  | nil => rfl
  | cons a l => exact mem_destutter'_ne

theorem pairwise_lt_of_isChain_ne {l : List UInt32}
    (hle : l.Pairwise (· ≤ ·)) (hne : l.IsChain (· ≠ ·)) : l.Pairwise (· < ·) := by
  induction l with
  | nil => exact List.Pairwise.nil
  | cons a l ih =>
    rw [List.pairwise_cons] at hle
    refine List.pairwise_cons.mpr ⟨?_, ih hle.2 hne.tail⟩
    cases l with
    | nil => exact fun b hb => absurd hb List.not_mem_nil
    | cons b l =>
      have hab : a < b :=
        UInt32.lt_of_le_of_ne (hle.1 b List.mem_cons_self) (List.isChain_cons_cons.mp hne).1
      intro c hc
      rcases List.mem_cons.mp hc with rfl | hc
      · exact hab
      · exact UInt32.lt_of_lt_of_le hab ((List.pairwise_cons.mp hle.2).1 c hc)

theorem mem_familyIndices {queueFamilies : QueueFamilies} {index : UInt32} :
    index ∈ familyIndices queueFamilies ↔ index = queueFamilies.graphicsFamily ∨
      index = queueFamilies.transferFamily ∨ index ∈ queueFamilies.presentFamily := by
  unfold familyIndices
  rw [mem_destutter_ne, List.mem_insertionSort, List.mem_append, List.mem_cons,
    List.mem_singleton, Option.mem_toList, or_assoc, Option.mem_def]

theorem familyIndices_increasing (queueFamilies : QueueFamilies) :
    (familyIndices queueFamilies).Pairwise (· < ·) := by
  apply pairwise_lt_of_isChain_ne
  · exact (List.pairwise_insertionSort (· ≤ ·) _).sublist (List.destutter_sublist _ _)
  · exact List.isChain_destutter _ _

/-! ### The selection -/

/-- Discrete GPUs come before themselves. -/
theorem strictWeakOn_comesBefore_iff : StrictWeakOn comesBefore physicalDevices ↔
    ∀ device ∈ physicalDevices, device.deviceType ≠ .discreteGpu := by
  constructor
  · intro hstrict device hdevice hdiscrete
    exact hstrict.irrefl ⟨device, hdevice⟩ (decide_eq_true hdiscrete)
  · intro hnone
    have hfalse : ∀ a b : {device // device ∈ physicalDevices},
        ¬ comesBefore a.val b.val = true :=
      fun a b h => hnone a.val a.property (of_decide_eq_true h)
    exact
      { irrefl := fun a => hfalse a a
        trans := fun a b c h => absurd h (hfalse a b)
        incomp_trans := fun a b c _ _ => ⟨hfalse a c, hfalse c a⟩ }

/-- Without discrete GPUs, one of the devices is found. -/
theorem exists_findPhysicalDevice (hsort : Sorts sort comesBefore)
    (hnone : ∀ device ∈ physicalDevices, device.deviceType ≠ .discreteGpu)
    (hne : physicalDevices ≠ []) : ∃ device ∈ physicalDevices,
      findPhysicalDevice sort false physicalDevices =
        some { device with queueFamilyIndices := familyIndices device.queueFamilies } := by
  obtain ⟨hperm, -⟩ := hsort physicalDevices (strictWeakOn_comesBefore_iff.mpr hnone)
  unfold findPhysicalDevice
  rw [if_neg (by simpa using hne)]
  cases hsorted : sort physicalDevices with
  | nil =>
    rw [hsorted] at hperm
    exact absurd hperm.symm.eq_nil hne
  | cons device devices =>
    refine ⟨device, hperm.mem_iff.mp ?_, rfl⟩
    rw [hsorted]
    exact List.mem_cons_self

/-- **The selection is well defined exactly if no suitable device is a discrete GPU.** -/
theorem selectsDiscrete_iff (physicalDevices : List PhysicalDevice) :
    SelectsDiscrete physicalDevices ↔
      ∀ device ∈ physicalDevices, device.deviceType ≠ .discreteGpu := by
  constructor
  · intro h
    exact strictWeakOn_comesBefore_iff.mp h.strictWeak
  · intro hnone
    refine ⟨strictWeakOn_comesBefore_iff.mpr hnone, ?_⟩
    rintro sort - ⟨device, hdevice, hdiscrete⟩
    exact absurd hdiscrete (hnone device hdevice)

/-- Two discrete GPUs come before each other. -/
theorem not_selectsDiscrete : ¬ SelectsDiscrete
    [{ physicalDevice := 0, deviceType := .discreteGpu },
      { physicalDevice := 1, deviceType := .discreteGpu }] := by
  intro h
  exact h.strictWeak.irrefl ⟨_, List.mem_cons_self⟩ rfl

end PhysicalDevice

end Teide
