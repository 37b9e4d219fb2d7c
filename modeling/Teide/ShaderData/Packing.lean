import Mathlib.Data.List.Chain
import Teide.ShaderCompiler.Std430

/-!
# How the uniforms of a block are packed

The uniforms of a block are to start at 0 and to follow each other as closely as their alignments
allow. `RoundUp` computes `a - 1` in unsigned arithmetic, which wraps for the empty block. With an
alignment that is a power of two the rest of the expression wraps back to 0, but 12 does not divide
`2 ^ 32`, and an array of three-component vectors at the front of a block starts at 8. Behind another
uniform nothing wraps, so that this is the only block which is not packed.

The loop is followed from the front: a packed layout stays packed when one more uniform is added
(`Packed.addUniformBinding`), except for such an array in an empty layout.
-/

namespace Teide

open ShaderCompiler (alignTo exactOffset_eq_alignTo uniforms)

/-! ### Packed layouts -/

/-- Where the uniform ends, without wrapping. -/
def UniformDesc.endOffset (desc : UniformDesc) : Nat :=
  desc.offset.toNat + (uniformFormat desc.type).1.toNat * max 1 desc.type.arraySize.toNat

/-- `next` begins behind `desc`, with no more padding than its alignment takes. -/
def UniformDesc.Precedes (desc next : UniformDesc) : Prop :=
  desc.endOffset ≤ next.offset.toNat ∧
    next.offset.toNat < desc.endOffset + (uniformFormat next.type).2.toNat

structure Packed (layout : ParameterBlockLayoutData) : Prop where
  first : ∀ desc ∈ layout.uniformDescs.head?, desc.offset = 0
  aligned : ∀ desc ∈ layout.uniformDescs, (uniformFormat desc.type).2.toNat ∣ desc.offset.toNat
  consecutive : layout.uniformDescs.IsChain UniformDesc.Precedes
  size : layout.uniformsSize.toNat = (layout.uniformDescs.getLast?.map UniformDesc.endOffset).getD 0

/-- The layout has the uniforms of the block, in order and packed. -/
def PacksUniforms (pblock : ParameterBlockDesc) (layout : ParameterBlockLayoutData) : Prop :=
  (layout.uniformDescs.map fun desc => (desc.name, desc.type)) =
    ((uniforms pblock).map fun uniform => (uniform.name, uniform.type)) ∧ Packed layout

/-- Where a uniform ends that is added behind `size` bytes. -/
def packedEnd (size : Nat) (uniform : ShaderVariable) : Nat :=
  alignTo size (uniformFormat uniform.type).2.toNat +
    (uniformFormat uniform.type).1.toNat * max 1 uniform.type.arraySize.toNat

/-- The exact size of the uniforms of a block, with the padding between them. -/
def ParameterBlockDesc.packedSize (pblock : ParameterBlockDesc) : Nat :=
  (uniforms pblock).foldl packedEnd 0

/-- The first uniform of the block, if there is one, is not an array of three-component vectors. -/
def StartsAtZero (pblock : ParameterBlockDesc) : Prop :=
  ∀ uniform ∈ (uniforms pblock).head?,
    uniform.type.baseType = .vector3 → uniform.type.arraySize = 0

/-! ### Rounding up -/

theorem dvd_alignTo (size alignment : Nat) : alignment ∣ alignTo size alignment :=
  Nat.dvd_mul_left _ _

theorem le_alignTo (size : Nat) {alignment : Nat} (h : 0 < alignment) :
    size ≤ alignTo size alignment := by
  have hlt := Nat.lt_div_mul_add h (a := size + alignment - 1)
  unfold alignTo
  omega

theorem alignTo_lt (size : Nat) {alignment : Nat} (h : 0 < alignment) :
    alignTo size alignment < size + alignment := by
  have hle := Nat.div_mul_le_self (size + alignment - 1) alignment
  unfold alignTo
  omega

theorem lt_packedEnd (size : Nat) (uniform : ShaderVariable) : size < packedEnd size uniform := by
  have hoffset := le_alignTo size (uniformFormat_pos uniform.type).2
  have hpos := Nat.mul_pos (uniformFormat_pos uniform.type).1
    (Nat.lt_of_lt_of_le Nat.one_pos (Nat.le_max_left 1 uniform.type.arraySize.toNat))
  unfold packedEnd
  omega

theorem le_foldl_packedEnd (uniforms : List ShaderVariable) (size : Nat) :
    size ≤ uniforms.foldl packedEnd size := by
  induction uniforms generalizing size with
  | nil => exact Nat.le_refl size
  | cons uniform uniforms ih =>
    have hlt := lt_packedEnd size uniform
    have hle := ih (packedEnd size uniform)
    rw [List.foldl_cons]
    omega

/-- The only alignment that does not divide `2 ^ 32` belongs to arrays of three-component vectors. -/
theorem roundUp_zero_eq_zero_iff (type : ShaderVariableType) :
    roundUp 0 (uniformFormat type).2 = 0 ↔ (type.baseType = .vector3 → type.arraySize = 0) := by
  unfold uniformFormat
  cases hbase : type.baseType with
  | vector3 =>
    by_cases harray : type.arraySize = 0
    · simp [harray]
      decide
    · simp [harray]
      decide
  | _ => simp; try decide

/-! ### The loop -/

variable {layout : ParameterBlockLayoutData} {pblock : ParameterBlockDesc}

theorem roundUp_toNat_eq_alignTo {size : UInt32} {type : ShaderVariableType}
    (hstart : size.toNat = 0 → type.baseType = .vector3 → type.arraySize = 0)
    (h : alignTo size.toNat (uniformFormat type).2.toNat < 2 ^ 32) :
    (roundUp size (uniformFormat type).2).toNat =
      alignTo size.toNat (uniformFormat type).2.toNat := by
  have hpos := (uniformFormat_pos type).2
  have hexact : exactOffset size.toNat (uniformFormat type).2 =
      alignTo size.toNat (uniformFormat type).2.toNat := by
    apply exactOffset_eq_alignTo size.toNat hpos
    intro hzero
    rw [(roundUp_zero_eq_zero_iff type).mpr (hstart hzero), UInt32.toNat_zero]
  rw [← hexact] at h ⊢
  exact roundUp_toNat hpos h

/-- The end of one uniform more, in 32 bits. -/
theorem uniformsSize_addUniformBinding {uniform : ShaderVariable}
    (hstart : layout.uniformsSize.toNat = 0 →
      uniform.type.baseType = .vector3 → uniform.type.arraySize = 0)
    (h : packedEnd layout.uniformsSize.toNat uniform < 2 ^ 32) :
    (addUniformBinding layout uniform
      (uniformFormat uniform.type).1 (uniformFormat uniform.type).2).uniformsSize.toNat =
        packedEnd layout.uniformsSize.toNat uniform := by
  unfold packedEnd at h
  have hoffset := roundUp_toNat_eq_alignTo hstart (Nat.lt_of_le_of_lt (Nat.le_add_right _ _) h)
  have hproduct := Nat.lt_of_le_of_lt (Nat.le_add_left _ _) h
  unfold addUniformBinding packedEnd
  rw [UInt32.toNat_add, UInt32.toNat_mul, hoffset, UInt32.toNat_max, UInt32.toNat_one,
    Nat.mod_eq_of_lt hproduct, Nat.mod_eq_of_lt h]

/-- One uniform more keeps the layout packed. -/
theorem Packed.addUniformBinding (hpacked : Packed layout) {uniform : ShaderVariable}
    (hstart : layout.uniformsSize.toNat = 0 →
      uniform.type.baseType = .vector3 → uniform.type.arraySize = 0)
    (h : packedEnd layout.uniformsSize.toNat uniform < 2 ^ 32) :
    Packed (Teide.addUniformBinding layout uniform
      (uniformFormat uniform.type).1 (uniformFormat uniform.type).2) := by
  obtain ⟨hfirst, haligned, hconsecutive, hsize⟩ := hpacked
  have hpos := (uniformFormat_pos uniform.type).2
  have hend := uniformsSize_addUniformBinding hstart h
  unfold packedEnd at h
  have hoffset := roundUp_toNat_eq_alignTo hstart (Nat.lt_of_le_of_lt (Nat.le_add_right _ _) h)
  refine ⟨?_, ?_, ?_, ?_⟩
  · intro desc hdesc
    unfold Teide.addUniformBinding at hdesc
    cases hdescs : layout.uniformDescs with
    | nil =>
      -- nothing is in front of the uniform, and the size is still 0
      rw [hdescs] at hsize hdesc
      have hzero : layout.uniformsSize = 0 := UInt32.toNat_inj.mp hsize
      obtain rfl : _ = desc := by simpa using hdesc
      dsimp only
      rw [hzero]
      exact (roundUp_zero_eq_zero_iff uniform.type).mpr (hstart (by rw [hzero, UInt32.toNat_zero]))
    | cons desc' descs =>
      rw [hdescs] at hfirst hdesc
      exact hfirst desc (by simpa using hdesc)
  · intro desc hdesc
    rcases List.mem_append.mp hdesc with hdesc | hdesc
    · exact haligned desc hdesc
    · obtain rfl := List.mem_singleton.mp hdesc
      dsimp only
      rw [hoffset]
      exact dvd_alignTo _ _
  · apply hconsecutive.append (List.isChain_singleton _)
    intro desc hdesc next hnext
    obtain rfl : _ = next := by simpa using hnext
    have hdescEnd : layout.uniformsSize.toNat = desc.endOffset := by
      rw [hsize, Option.mem_def.mp hdesc]
      rfl
    unfold UniformDesc.Precedes
    dsimp only
    rw [hoffset, ← hdescEnd]
    exact ⟨le_alignTo _ hpos, alignTo_lt _ hpos⟩
  · rw [hend]
    simp [Teide.addUniformBinding, UniformDesc.endOffset, packedEnd, hoffset]

/-- The loop of `BuildParameterBlockLayout` behind a packed layout. -/
theorem packed_foldl (parameters : List ShaderVariable) (layout : ParameterBlockLayoutData)
    (hpacked : Packed layout)
    (hstart : layout.uniformsSize.toNat = 0 → ∀ uniform ∈
      (parameters.filter fun parameter => !parameter.isResource).head?,
        uniform.type.baseType = .vector3 → uniform.type.arraySize = 0)
    (h : (parameters.filter fun parameter => !parameter.isResource).foldl packedEnd
      layout.uniformsSize.toNat < 2 ^ 32) : Packed (parameters.foldl addParameter layout) := by
  induction parameters generalizing layout with
  | nil => exact hpacked
  | cons parameter parameters ih =>
    rw [List.foldl_cons]
    cases hresource : parameter.isResource with
    | true =>
      rw [List.filter_cons_of_neg (by simp [hresource])] at hstart h
      rw [addParameter_of_resource hresource]
      exact ih (addResourceBinding layout parameter) ⟨hpacked.1, hpacked.2, hpacked.3, hpacked.4⟩
        hstart h
    | false =>
      rw [List.filter_cons_of_pos (by simp [hresource])] at hstart h
      rw [List.foldl_cons] at h
      have hend := Nat.lt_of_le_of_lt (le_foldl_packedEnd _ _) h
      have hfirst := fun hzero => hstart hzero parameter rfl
      have hsize := uniformsSize_addUniformBinding hfirst hend
      rw [addParameter_of_uniform hresource]
      apply ih _ (hpacked.addUniformBinding hfirst hend)
      · intro hzero
        have hlt := lt_packedEnd layout.uniformsSize.toNat parameter
        omega
      · rw [hsize]
        exact h

/-- The loop adds the uniforms in order, at whatever offsets. -/
theorem uniforms_foldl (parameters : List ShaderVariable) (layout : ParameterBlockLayoutData) :
    ((parameters.foldl addParameter layout).uniformDescs.map fun desc => (desc.name, desc.type)) =
      (layout.uniformDescs.map fun desc => (desc.name, desc.type)) ++
        (parameters.filter fun parameter => !parameter.isResource).map
          fun uniform => (uniform.name, uniform.type) := by
  induction parameters generalizing layout with
  | nil => simp
  | cons parameter parameters ih =>
    rw [List.foldl_cons, ih]
    cases hresource : parameter.isResource with
    | true => simp [addParameter_of_resource hresource, addResourceBinding, hresource]
    | false => simp [addParameter_of_uniform hresource, addUniformBinding, hresource]

/-- What is behind the first uniform does not change its offset. -/
theorem head?_foldl (parameters : List ShaderVariable) (layout : ParameterBlockLayoutData) :
    (parameters.foldl addParameter layout).uniformDescs.head? = layout.uniformDescs.head?.or
      ((parameters.filter fun parameter => !parameter.isResource).head?.map fun uniform =>
        ⟨uniform.name, uniform.type,
          roundUp layout.uniformsSize (uniformFormat uniform.type).2⟩) := by
  induction parameters generalizing layout with
  | nil => simp
  | cons parameter parameters ih =>
    rw [List.foldl_cons, ih]
    cases hresource : parameter.isResource with
    | true => simp [addParameter_of_resource hresource, addResourceBinding, hresource]
    | false =>
      cases hdescs : layout.uniformDescs <;>
        simp [addParameter_of_uniform hresource, addUniformBinding, hresource, hdescs]

/-! ### The layout of a block -/

/-- That the block becomes a push constant does not matter here. -/
theorem packsUniforms_iff_foldl (set : Int) :
    PacksUniforms pblock (buildParameterBlockLayout pblock set) ↔
      Packed (pblock.parameters.foldl addParameter { uniformsStages := pblock.uniformsStages }) := by
  have huniforms := uniforms_foldl pblock.parameters { uniformsStages := pblock.uniformsStages }
  unfold PacksUniforms buildParameterBlockLayout
  dsimp only
  split
  · constructor
    · rintro ⟨-, hpacked⟩
      exact ⟨hpacked.1, hpacked.2, hpacked.3, hpacked.4⟩
    · intro hpacked
      exact ⟨huniforms, hpacked.1, hpacked.2, hpacked.3, hpacked.4⟩
  · exact and_iff_right huniforms

/-- The uniforms of a block are packed exactly if the first of them is not an array of
three-component vectors. -/
theorem packsUniforms_iff_startsAtZero (pblock : ParameterBlockDesc) (set : Int)
    (h : pblock.packedSize < 2 ^ 32) :
    PacksUniforms pblock (buildParameterBlockLayout pblock set) ↔ StartsAtZero pblock := by
  rw [packsUniforms_iff_foldl]
  constructor
  · intro hpacked uniform huniform
    have hhead := head?_foldl pblock.parameters { uniformsStages := pblock.uniformsStages }
    unfold uniforms at huniform
    rw [Option.mem_def.mp huniform] at hhead
    have hzero := hpacked.first _ hhead
    exact (roundUp_zero_eq_zero_iff uniform.type).mp hzero
  · intro hstart
    have hempty : Packed { uniformsStages := pblock.uniformsStages } :=
      ⟨by simp, by simp, List.isChain_nil, rfl⟩
    exact packed_foldl pblock.parameters _ hempty (fun _ => hstart) h

/-- A float, two vectors of three at 12, a texture and a matrix at 48. -/
def packedBlock : ParameterBlockDesc :=
  ⟨[⟨"a", ⟨.float, 0⟩⟩, ⟨"b", ⟨.vector3, 2⟩⟩, ⟨"c", ⟨.texture2D, 0⟩⟩, ⟨"d", ⟨.matrix4, 0⟩⟩], 0⟩

theorem packsUniforms_packedBlock :
    PacksUniforms packedBlock (buildParameterBlockLayout packedBlock 2) := by
  have hstart : StartsAtZero packedBlock := by
    intro uniform huniform hvector3
    obtain rfl : _ = uniform := Option.some.inj huniform
    rfl
  exact (packsUniforms_iff_startsAtZero packedBlock 2 (by decide)).mpr hstart

/-- Two vectors of three at the front of a block start at 8. -/
theorem not_packsUniforms : ¬ ∀ (pblock : ParameterBlockDesc) (set : Int),
    pblock.packedSize < 2 ^ 32 → PacksUniforms pblock (buildParameterBlockLayout pblock set) := by
  intro h
  have hpacked := (h ⟨[⟨"a", ⟨.vector3, 2⟩⟩], 0⟩ 0 (by decide)).2
  exact absurd (hpacked.first _ rfl) (by decide)

end Teide
