import Mathlib.Algebra.Ring.Nat
import Mathlib.Order.Lattice
import Mathlib.Tactic.Common
import Teide.ShaderCompiler.Basic
import Teide.ShaderData.Size

/-!
# The members of a uniform block under std430

The prelude of every shader declares `layout(std430) uniform`, so that the members of the block that
`BuildUniformBuffer` prints lie where the rules of std430 put them, while the program writes each
uniform at the offset of `BuildParameterBlockLayout`. The two part where a three-component vector is
involved. A single one takes 16 bytes in the code and 12 in std430, which shows if a float follows. An
array of them is packed in the code, at a multiple of 12, and has a stride of 16 in std430; the two
agree about it only by chance, and it then needs a neighbour whose alignment closes the gap.

What the code does to a list of uniforms is compared with std430 from the front. Behind each member
the two sizes differ by what the type of that member says (`Behind`), and one step shows when the next
offset is the same for both.
-/

namespace Teide.ShaderCompiler

/-! ### The rules of std430 -/

/-- `size` rounded up to a multiple of `alignment`. -/
def alignTo (size alignment : Nat) : Nat := (size + alignment - 1) / alignment * alignment

/-- The alignment of a member, and of an array of such members. Only the types of uniforms matter. -/
def std430Alignment : BaseType → Nat
  | .float => 4
  | .vector2 => 8
  | _ => 16

def std430ElementSize : BaseType → Nat
  | .float => 4
  | .vector2 => 8
  | .vector3 => 12
  | .matrix4 => 64
  | _ => 16

def std430Stride (baseType : BaseType) : Nat :=
  alignTo (std430ElementSize baseType) (std430Alignment baseType)

def std430Size (type : ShaderVariableType) : Nat :=
  if type.arraySize ≠ 0 then std430Stride type.baseType * type.arraySize.toNat
  else std430ElementSize type.baseType

def std430Offset (size : Nat) (type : ShaderVariableType) : Nat :=
  alignTo size (std430Alignment type.baseType)

/-- Where a member behind `size` bytes ends. -/
def std430End (size : Nat) (type : ShaderVariableType) : Nat :=
  std430Offset size type + std430Size type

/-- The members of a block with their offsets, the first of them behind `size` bytes. -/
def std430Layout (size : Nat) : List ShaderVariable → List (ShaderVariable × Nat)
  | [] => []
  | member :: members =>
    (member, std430Offset size member.type) :: std430Layout (std430End size member.type) members

/-- The end of the last member. -/
def std430BlockEnd (size : Nat) : List ShaderVariable → Nat
  | [] => size
  | member :: members => std430BlockEnd (std430End size member.type) members

/-! ### The members that a block declares -/

def Piece.isMember : Piece → Bool
  | .member _ _ => true
  | _ => false

/-- The source text has these members, in this order. -/
def Declares (pieces : List Piece) (members : List ShaderVariable) : Prop :=
  pieces.filter Piece.isMember =
    members.map fun member => Piece.member member.type.text member.name

/-- The parameters of a block that are not resources. -/
def uniforms (pblock : ParameterBlockDesc) : List ShaderVariable :=
  pblock.parameters.filter fun parameter => !parameter.isResource

theorem baseType_text_injective {a b : BaseType} (h : a.text = b.text) : a = b := by
  cases a <;> cases b <;> first | rfl | exact absurd h (by decide)

theorem bracket_notMem_text (a : BaseType) : '[' ∉ a.text.toList := by
  cases a <;> decide

theorem toString_injective {m n : UInt32} (h : (toString m).toList = (toString n).toList) :
    m = n := by
  have hdigits : Nat.toDigits 10 m.toNat = Nat.toDigits 10 n.toNat := by
    rw [← Nat.toList_repr, ← Nat.toList_repr]
    exact h
  apply UInt32.toNat_inj.mp
  rw [← Nat.ofDigitChars_ten_toDigits (n := m.toNat), hdigits, Nat.ofDigitChars_ten_toDigits]

theorem toList_text (type : ShaderVariableType) : type.text.toList = type.baseType.text.toList ++
    if type.arraySize ≠ 0 then '[' :: ((toString type.arraySize).toList ++ [']']) else [] := by
  unfold ShaderVariableType.text
  split
  · simp
  · simp

/-- What is printed of a type in front of the bracket is its base type. -/
theorem takeWhile_text (type : ShaderVariableType) :
    type.text.toList.takeWhile (· != '[') = type.baseType.text.toList := by
  rw [toList_text, List.takeWhile_append_of_pos]
  · split
    · simp
    · simp
  · intro c hc
    have hne : c ≠ '[' := fun h => bracket_notMem_text type.baseType (h ▸ hc)
    simpa using hne

/-- The text of a member's type says what the type is. -/
theorem text_injective {a b : ShaderVariableType} (h : a.text = b.text) : a = b := by
  have hlist := congrArg String.toList h
  have hbase : a.baseType = b.baseType := by
    apply baseType_text_injective
    apply String.toList_inj.mp
    rw [← takeWhile_text, hlist, takeWhile_text]
  rw [toList_text, toList_text, hbase] at hlist
  have hrest := List.append_cancel_left hlist
  have hsize : a.arraySize = b.arraySize := by
    split at hrest <;> split at hrest
    · simp only [List.cons.injEq, true_and] at hrest
      exact toString_injective (List.append_cancel_right hrest)
    · simp at hrest
    · simp at hrest
    · rename_i ha hb
      rw [not_not.mp ha, not_not.mp hb]
  cases a
  cases b
  simp only at hbase hsize
  rw [hbase, hsize]

theorem declares_unique {pieces : List Piece} {members members' : List ShaderVariable}
    (h : Declares pieces members) (h' : Declares pieces members') : members = members' := by
  have heq : members.map (fun member => Piece.member member.type.text member.name) =
      members'.map fun member => Piece.member member.type.text member.name := h.symm.trans h'
  refine List.map_injective_iff.mpr ?_ heq
  intro m m' hpiece
  obtain ⟨htext, hname⟩ := Piece.member.inj hpiece
  cases m
  cases m'
  simp only at htext hname
  rw [hname, text_injective htext]

/-- The members of the block that `BuildUniformBuffer` prints are the uniforms. -/
theorem declares_buildUniformBuffer (set : Fin 4) (pblock : ParameterBlockDesc) :
    Declares (buildUniformBuffer set pblock) (uniforms pblock) := by
  unfold Declares buildUniformBuffer uniforms
  split
  · rename_i hcount
    rw [List.countP_eq_zero] at hcount
    have hnone : pblock.parameters.filter (fun parameter => !parameter.isResource) = [] :=
      List.filter_eq_nil_iff.mpr hcount
    rw [hnone]
    rfl
  · generalize hstart : (if (buildParameterBlockLayout pblock set).isPushConstant then
      Piece.pushConstants (pblockNames set) else .uniformBlock set (pblockNames set)) = start
    have hno : start.isMember = false := by
      rw [← hstart]
      split <;> rfl
    simp only [List.filter_append, List.filter_cons, List.filter_nil, hno]
    induction pblock.parameters with
    | nil => rfl
    | cons parameter parameters ih =>
      cases h : isResourceType parameter.type.baseType with
      | true => simpa [h, ShaderVariable.isResource, List.filter_cons] using ih
      | false => simpa [h, ShaderVariable.isResource, List.filter_cons, Piece.isMember] using ih

/-! ### Where the two layouts agree -/

/-- An array of three-component vectors behind `size` bytes starts at the same offset for both. -/
def OnCommonBoundary (size : Nat) : Prop :=
  size ≠ 0 ∧ alignTo size 16 % 48 = 0 ∧ alignTo size 16 < size + 12

/-- What may directly follow a member of the type so that the next offset is the same for both. -/
def Meets (type : ShaderVariableType) (next : Option ShaderVariableType) : Prop :=
  if type.baseType ≠ .vector3 then True
  else if type.arraySize = 0 then ∀ t ∈ next, t.baseType ≠ .float
  else ∃ t ∈ next, (type.arraySize = 1 ∧ t.baseType = .vector2) ∨
    (type.arraySize.toNat ≤ 3 ∧ (t.baseType = .vector4 ∨ t.baseType = .matrix4 ∨
      (t.baseType = .vector3 ∧ t.arraySize = 0)))

/-- The members lie behind `size` bytes where std430 and the code agree about them. -/
def LaidOutAlike (size : Nat) : List ShaderVariable → Prop
  | [] => True
  | member :: members =>
    (member.type.baseType = .vector3 → member.type.arraySize ≠ 0 → OnCommonBoundary size) ∧
      Meets member.type (members.head?.map ShaderVariable.type) ∧
      LaidOutAlike (std430End size member.type) members

instance (size : Nat) : Decidable (OnCommonBoundary size) :=
  inferInstanceAs (Decidable (_ ∧ _ ∧ _))

instance (type : ShaderVariableType) (next : Option ShaderVariableType) :
    Decidable (Meets type next) :=
  inferInstanceAs (Decidable (ite (type.baseType ≠ .vector3) True
    (ite (type.arraySize = 0) (∀ t ∈ next, t.baseType ≠ .float)
      (∃ t ∈ next, (type.arraySize = 1 ∧ t.baseType = .vector2) ∨
        (type.arraySize.toNat ≤ 3 ∧ _)))))

instance decidableLaidOutAlike (size : Nat) :
    (members : List ShaderVariable) → Decidable (LaidOutAlike size members)
  | [] => isTrue trivial
  | member :: members =>
    have := decidableLaidOutAlike (std430End size member.type) members
    inferInstanceAs (Decidable ((_ → _ → _) ∧ _ ∧ _))

/-- What `BuildParameterBlockLayout` makes of the members, as long as nothing wraps. -/
def codeLayout (size : Nat) : List ShaderVariable → List (ShaderVariable × Nat)
  | [] => []
  | member :: members => (member, exactOffset size (uniformFormat member.type).2) ::
      codeLayout (exactEnd size member.type) members

/-- How far the code is ahead of std430, or behind it, after a member of the type `previous`. -/
def Behind (previous : Option ShaderVariableType) (code std : Nat) : Prop :=
  match previous with
  | none => code = std
  | some type =>
    if type.baseType ≠ .vector3 then code = std
    else if type.arraySize = 0 then code = std + 4 ∧ code % 16 = 0
    else ∃ k, 0 < k ∧ code = 48 * k + 12 * type.arraySize.toNat ∧
      std = 48 * k + 16 * type.arraySize.toNat

/-- `previous` may be followed by a member of the type `next`, or by nothing. -/
def MeetsFrom (previous next : Option ShaderVariableType) : Prop :=
  ∀ type ∈ previous, Meets type next

theorem alignTo_eq (size alignment : Nat) (h : 0 < size) (hpos : 0 < alignment) :
    alignTo size alignment = ((size - 1) / alignment + 1) * alignment := by
  have hsum : size + alignment - 1 = (size - 1) + alignment := by omega
  rw [alignTo, hsum, Nat.add_div_right _ hpos]

/-- The code rounds up as std430 does, except for the alignment 12 at the front of a block. -/
theorem exactOffset_eq_alignTo (size : Nat) {alignment : UInt32} (hpos : 0 < alignment.toNat)
    (hzero : size = 0 → (roundUp 0 alignment).toNat = 0) :
    exactOffset size alignment = alignTo size alignment.toNat := by
  unfold exactOffset
  split
  · rename_i h
    have hlt : alignment.toNat - 1 < alignment.toNat := by omega
    rw [hzero h, h, alignTo, Nat.zero_add, Nat.div_eq_of_lt hlt, Nat.zero_mul]
  · rename_i h
    rw [alignTo_eq size alignment.toNat (Nat.pos_of_ne_zero h) hpos]

theorem exactOffset_4 (size : Nat) : exactOffset size 4 = alignTo size 4 :=
  exactOffset_eq_alignTo size (by decide) fun _ => by decide

theorem exactOffset_8 (size : Nat) : exactOffset size 8 = alignTo size 8 :=
  exactOffset_eq_alignTo size (by decide) fun _ => by decide

theorem exactOffset_16 (size : Nat) : exactOffset size 16 = alignTo size 16 :=
  exactOffset_eq_alignTo size (by decide) fun _ => by decide

/-- The alignment 12 wraps at the front of a block. -/
theorem exactOffset_12 (size : Nat) :
    exactOffset size 12 = if size = 0 then 8 else alignTo size 12 := by
  split
  · rename_i h
    rw [h]
    decide
  · rename_i h
    exact exactOffset_eq_alignTo size (by decide) fun hzero => absurd hzero h

variable {code std : Nat} {type : ShaderVariableType}

/-- Packed at a multiple of 12 and aligned to 16 is the same at a common boundary only. -/
theorem packed_eq_iff (h : code = std ∨ (code = std + 4 ∧ code % 16 = 0)) :
    exactOffset code 12 = alignTo std 16 ↔ OnCommonBoundary std := by
  rw [exactOffset_12]
  unfold OnCommonBoundary alignTo
  split
  · omega
  · omega

theorem offset_eq_iff_of_eq (h : code = std) :
    exactOffset code (uniformFormat type).2 = std430Offset std type ↔
      (type.baseType = .vector3 → type.arraySize ≠ 0 → OnCommonBoundary std) := by
  subst h
  unfold std430Offset uniformFormat std430Alignment
  cases hbase : type.baseType
  case vector3 =>
    by_cases harray : type.arraySize = 0
    · simp [harray, exactOffset_16]
    · simpa [harray] using packed_eq_iff (Or.inl rfl)
  all_goals simp [exactOffset_4, exactOffset_8, exactOffset_16]

/-- Behind a single vector the code is 4 bytes ahead, which a float does not make up for. -/
theorem offset_eq_iff_of_vector3 (h : code = std + 4) (hmod : code % 16 = 0) :
    exactOffset code (uniformFormat type).2 = std430Offset std type ↔ type.baseType ≠ .float ∧
      (type.baseType = .vector3 → type.arraySize ≠ 0 → OnCommonBoundary std) := by
  have h4 : alignTo code 4 ≠ alignTo std 4 := by
    unfold alignTo
    omega
  have h8 : alignTo code 8 = alignTo std 8 := by
    unfold alignTo
    omega
  have h16 : alignTo code 16 = alignTo std 16 := by
    unfold alignTo
    omega
  unfold std430Offset uniformFormat std430Alignment
  cases hbase : type.baseType
  case vector3 =>
    by_cases harray : type.arraySize = 0
    · simp [harray, exactOffset_16, h16]
    · simpa [harray] using packed_eq_iff (Or.inr ⟨h, hmod⟩)
  all_goals simp [exactOffset_4, exactOffset_8, exactOffset_16, h4, h8, h16]

/-- Behind an array of vectors the code is 4 bytes behind for each of them. -/
theorem offset_eq_iff_of_array (huniform : isResourceType type.baseType = false) {k n : Nat}
    (hk : 0 < k) (hn : 0 < n) (hcode : code = 48 * k + 12 * n) (hstd : std = 48 * k + 16 * n) :
    exactOffset code (uniformFormat type).2 = std430Offset std type ↔
      (n = 1 ∧ type.baseType = .vector2) ∨ (n ≤ 3 ∧ (type.baseType = .vector4 ∨
        type.baseType = .matrix4 ∨ (type.baseType = .vector3 ∧ type.arraySize = 0))) := by
  have h4 : alignTo code 4 ≠ alignTo std 4 := by
    unfold alignTo
    omega
  have h8 : alignTo code 8 = alignTo std 8 ↔ n = 1 := by
    unfold alignTo
    omega
  have h12 : alignTo code 12 ≠ alignTo std 16 := by
    unfold alignTo
    omega
  have h16 : alignTo code 16 = alignTo std 16 ↔ n ≤ 3 := by
    unfold alignTo
    omega
  have hne : code ≠ 0 := by omega
  unfold std430Offset uniformFormat std430Alignment
  cases hbase : type.baseType <;> rw [hbase] at huniform
  case vector3 =>
    by_cases harray : type.arraySize = 0
    · simp [harray, exactOffset_16, h16]
    · simp [harray, exactOffset_12, hne, h12]
  all_goals simp [exactOffset_4, exactOffset_8, exactOffset_16, h4, h8, h16] at huniform ⊢
  all_goals exact absurd huniform (by decide)

theorem arraySize_pos {n : UInt32} (h : n ≠ 0) : 0 < n.toNat :=
  UInt32.lt_iff_toNat_lt.mp (UInt32.pos_iff_ne_zero.mpr h)

/-- One member: its offset is the same for both exactly if the member before it and, for an array of
vectors, the size before it allow that. -/
theorem offset_eq_iff {previous : Option ShaderVariableType}
    (huniform : isResourceType type.baseType = false) (h : Behind previous code std) :
    exactOffset code (uniformFormat type).2 = std430Offset std type ↔
      MeetsFrom previous (some type) ∧
        (type.baseType = .vector3 → type.arraySize ≠ 0 → OnCommonBoundary std) := by
  cases previous with
  | none =>
    rw [offset_eq_iff_of_eq h]
    simp [MeetsFrom]
  | some before =>
    unfold Behind at h
    dsimp only at h
    have hmeets : MeetsFrom (some before) (some type) ↔ Meets before (some type) := by
      simp [MeetsFrom]
    rw [hmeets]
    unfold Meets
    split at h
    · rename_i hbase
      rw [offset_eq_iff_of_eq h, if_pos hbase, true_and]
    · rename_i hbase
      rw [if_neg hbase]
      split at h
      · rename_i hsingle
        rw [offset_eq_iff_of_vector3 h.1 h.2, if_pos hsingle]
        simp
      · rename_i harray
        obtain ⟨k, hk, hcode, hstd⟩ := h
        have hpos := arraySize_pos harray
        have hone : before.arraySize.toNat = 1 ↔ before.arraySize = 1 := by
          rw [← UInt32.toNat_inj, UInt32.toNat_one]
        rw [offset_eq_iff_of_array huniform hk hpos hcode hstd, if_neg harray, hone]
        simp only [Option.mem_def, Option.some.injEq, exists_eq_left']
        constructor
        · intro hcases
          refine ⟨hcases, fun hvector hnot => ?_⟩
          rw [hvector] at hcases
          simp [hnot] at hcases
        · exact And.left

/-- Everything but vectors of three has the same size in the code and in std430. -/
theorem size_eq (huniform : isResourceType type.baseType = false) (h : type.baseType ≠ .vector3) :
    (uniformFormat type).1.toNat * max 1 type.arraySize.toNat = std430Size type := by
  unfold std430Size
  by_cases harray : type.arraySize = 0
  · rw [if_neg (not_not.mpr harray), harray]
    unfold uniformFormat std430ElementSize
    cases hbase : type.baseType <;> simp [hbase, isResourceType] at huniform h ⊢
  · have hpos := arraySize_pos harray
    rw [if_pos harray, Nat.max_eq_right hpos]
    unfold uniformFormat std430Stride std430ElementSize std430Alignment alignTo
    cases hbase : type.baseType <;> simp [hbase, isResourceType] at huniform h ⊢

/-- The ends of a member whose offset is the same for both. -/
theorem behind_step (huniform : isResourceType type.baseType = false)
    (hoffset : exactOffset code (uniformFormat type).2 = std430Offset std type)
    (hboundary : type.baseType = .vector3 → type.arraySize ≠ 0 → OnCommonBoundary std) :
    Behind (some type) (exactEnd code type) (std430End std type) := by
  unfold Behind exactEnd std430End
  rw [hoffset]
  dsimp only
  split
  · rename_i hbase
    rw [size_eq huniform hbase]
  · rename_i hbase
    rw [not_not] at hbase
    have halign : std430Offset std type = alignTo std 16 := by
      unfold std430Offset
      rw [hbase]
      rfl
    rw [halign]
    split
    · rename_i hsingle
      have hcode : (uniformFormat type).1.toNat = 16 := by
        unfold uniformFormat
        simp [hbase, hsingle]
      have hstd : std430Size type = 12 := by
        unfold std430Size
        simp [hbase, hsingle, std430ElementSize]
      rw [hcode, hstd, hsingle]
      unfold alignTo
      rw [UInt32.toNat_zero]
      omega
    · rename_i harray
      obtain ⟨hpos, hmod, -⟩ := hboundary hbase harray
      have hcode : (uniformFormat type).1.toNat = 12 := by
        unfold uniformFormat
        simp [hbase, harray]
      have hstd : std430Size type = 16 * type.arraySize.toNat := by
        unfold std430Size std430Stride alignTo
        simp [hbase, harray, std430ElementSize, std430Alignment]
      rw [hcode, hstd, Nat.max_eq_right (arraySize_pos harray)]
      unfold alignTo at hmod ⊢
      exact ⟨(std + 16 - 1) / 16 * 16 / 48, by omega, by omega, by omega⟩

/-- At the end of the block the code has room for the last member unless that is an array of vectors. -/
theorem meets_none_iff {previous : Option ShaderVariableType} (h : Behind previous code std) :
    std ≤ code ↔ MeetsFrom previous none := by
  cases previous with
  | none =>
    have hle : std ≤ code := Nat.le_of_eq (Eq.symm h)
    simp [MeetsFrom, hle]
  | some before =>
    unfold Behind at h
    dsimp only at h
    have hmeets : MeetsFrom (some before) none ↔ Meets before none := by
      simp [MeetsFrom]
    rw [hmeets]
    unfold Meets
    split at h
    · rename_i hbase
      simp [hbase, h]
    · rename_i hbase
      rw [if_neg hbase]
      split at h
      · rename_i hsingle
        simp [hsingle, h.1]
      · rename_i harray
        obtain ⟨k, -, hcode, hstd⟩ := h
        have hpos := arraySize_pos harray
        have hlt : ¬ std ≤ code := by omega
        simp [harray, hlt]

/-- The layouts of a list of uniforms, from the front. -/
theorem codeLayout_eq_iff (members : List ShaderVariable) (previous : Option ShaderVariableType)
    (huniform : ∀ member ∈ members, member.isResource = false) (h : Behind previous code std) :
    (codeLayout code members = std430Layout std members ∧
        std430BlockEnd std members ≤ exactSizeFrom code members) ↔
      MeetsFrom previous (members.head?.map ShaderVariable.type) ∧ LaidOutAlike std members := by
  induction members generalizing previous code std with
  | nil =>
    unfold codeLayout std430Layout std430BlockEnd exactSizeFrom LaidOutAlike
    simpa using meets_none_iff h
  | cons member members ih =>
    have hmember := huniform member List.mem_cons_self
    have hrest : ∀ m ∈ members, m.isResource = false := fun m hm =>
      huniform m (List.mem_cons_of_mem member hm)
    have hstep := offset_eq_iff hmember h
    unfold codeLayout std430Layout std430BlockEnd exactSizeFrom LaidOutAlike
    rw [List.cons.injEq, Prod.mk.injEq, hmember, if_neg (by simp), List.head?_cons, Option.map_some]
    constructor
    · rintro ⟨⟨⟨-, hoffset⟩, hlayout⟩, hend⟩
      obtain ⟨hmeets, hboundary⟩ := hstep.mp hoffset
      have hbehind := behind_step hmember hoffset hboundary
      obtain ⟨hnext, hlaid⟩ := (ih (some member.type) hrest hbehind).mp ⟨hlayout, hend⟩
      exact ⟨hmeets, hboundary, hnext member.type rfl, hlaid⟩
    · rintro ⟨hmeets, hboundary, hnext, hlaid⟩
      have hoffset := hstep.mpr ⟨hmeets, hboundary⟩
      have hbehind := behind_step hmember hoffset hboundary
      have hfrom : MeetsFrom (some member.type) (members.head?.map ShaderVariable.type) := by
        intro type htype
        rw [Option.mem_some_iff.mp htype] at hnext
        exact hnext
      obtain ⟨hlayout, hend⟩ := (ih (some member.type) hrest hbehind).mpr ⟨hfrom, hlaid⟩
      exact ⟨⟨⟨rfl, hoffset⟩, hlayout⟩, hend⟩

/-! ### The layout of a block -/

/-- A uniform with the offset that the code gives it. -/
def uniformEntry (desc : UniformDesc) : ShaderVariable × Nat :=
  (⟨desc.name, desc.type⟩, desc.offset.toNat)

theorem uniformDescs_foldl (parameters : List ShaderVariable) (bindings : ParameterBlockLayoutData)
    (h : exactSizeFrom bindings.uniformsSize.toNat parameters < 2 ^ 32) :
    (parameters.foldl addParameter bindings).uniformDescs.map uniformEntry =
      bindings.uniformDescs.map uniformEntry ++ codeLayout bindings.uniformsSize.toNat
        (parameters.filter fun parameter => !parameter.isResource) := by
  induction parameters generalizing bindings with
  | nil => simp [codeLayout]
  | cons parameter parameters ih =>
    rw [List.foldl_cons]
    unfold exactSizeFrom at h
    cases hresource : parameter.isResource with
    | true =>
      rw [hresource, if_pos rfl] at h
      rw [addParameter_of_resource hresource, ih (addResourceBinding bindings parameter) h]
      simp [addResourceBinding, hresource]
    | false =>
      rw [hresource, if_neg (by simp)] at h
      have hend := Nat.lt_of_le_of_lt (le_exactSizeFrom _ parameters) h
      have hsize := uniformsSize_addParameter hresource hend
      have hoffset := roundUp_toNat (uniformFormat_pos parameter.type).2
        (Nat.lt_of_le_of_lt (Nat.le_add_right _ _) hend)
      rw [ih _ (hsize ▸ h), hsize, addParameter_of_uniform hresource]
      simp [addUniformBinding, hresource, codeLayout, uniformEntry, hoffset]

theorem uniformDescs_buildParameterBlockLayout {pblock : ParameterBlockDesc} (set : Int)
    (h : pblock.exactSize < 2 ^ 32) :
    (buildParameterBlockLayout pblock set).uniformDescs.map uniformEntry =
      codeLayout 0 (uniforms pblock) := by
  have hfold := uniformDescs_foldl pblock.parameters { uniformsStages := pblock.uniformsStages } h
  unfold buildParameterBlockLayout
  dsimp only
  split
  · simpa [uniforms] using hfold
  · simpa [uniforms] using hfold

/-- Resources take no space among the uniforms. -/
theorem exactSizeFrom_filter (size : Nat) (parameters : List ShaderVariable) :
    exactSizeFrom size (parameters.filter fun parameter => !parameter.isResource) =
      exactSizeFrom size parameters := by
  induction parameters generalizing size with
  | nil => rfl
  | cons parameter parameters ih =>
    cases h : parameter.isResource with
    | true => simp [exactSizeFrom, h, ih]
    | false => simp [exactSizeFrom, h, ih]

/-- The program writes every uniform where the shader reads it, and has room for the last one. -/
def ReadsAsWritten (pblock : ParameterBlockDesc) (set : Fin 4) (members : List ShaderVariable) :
    Prop :=
  (buildParameterBlockLayout pblock set).uniformDescs.map uniformEntry = std430Layout 0 members ∧
    std430BlockEnd 0 members ≤ (buildParameterBlockLayout pblock set).uniformsSize.toNat

/-- The offsets of the uniforms are those of the members of the printed block exactly if no single
vector of three is followed by a float, and each array of them meets a common boundary and has a
neighbour that brings the two layouts together again. -/
theorem readsAsWritten_iff (pblock : ParameterBlockDesc) (set : Fin 4)
    (members : List ShaderVariable) (hdeclares : Declares (buildUniformBuffer set pblock) members)
    (hsize : pblock.exactSize < 2 ^ 32) :
    ReadsAsWritten pblock set members ↔ LaidOutAlike 0 members := by
  have hmembers := declares_unique hdeclares (declares_buildUniformBuffer set pblock)
  have huniform : ∀ member ∈ members, member.isResource = false := by
    intro member hmember
    rw [hmembers] at hmember
    simpa using List.of_mem_filter hmember
  have htotal : pblock.exactSize = exactSizeFrom 0 members := by
    rw [hmembers, uniforms, exactSizeFrom_filter, ParameterBlockDesc.exactSize]
  unfold ReadsAsWritten
  rw [uniformDescs_buildParameterBlockLayout set hsize,
    uniformsSize_buildParameterBlockLayout set hsize, htotal, ← hmembers,
    codeLayout_eq_iff members none huniform rfl]
  simp [MeetsFrom]

/-- A vector, an array of two vectors at offset 48 and what closes the gap behind it. -/
def alikeBlock : ParameterBlockDesc :=
  ⟨[⟨"a", ⟨.vector3, 0⟩⟩, ⟨"b", ⟨.vector2, 4⟩⟩, ⟨"c", ⟨.vector3, 2⟩⟩, ⟨"d", ⟨.vector4, 0⟩⟩], 0⟩

theorem readsAsWritten_iff_alikeBlock :
    Declares (buildUniformBuffer 2 alikeBlock) (uniforms alikeBlock) ∧
      ReadsAsWritten alikeBlock 2 (uniforms alikeBlock) := by
  have hdeclares := declares_buildUniformBuffer 2 alikeBlock
  have hsize : alikeBlock.exactSize < 2 ^ 32 := by decide
  have hiff := readsAsWritten_iff alikeBlock 2 (uniforms alikeBlock) hdeclares hsize
  exact ⟨hdeclares, hiff.mpr (by decide)⟩

/-- A float behind a vector of three: the program writes it at 32 and the shader reads it at 28. -/
theorem not_readsAsWritten : ¬ ∀ (pblock : ParameterBlockDesc) (set : Fin 4)
    (members : List ShaderVariable), Declares (buildUniformBuffer set pblock) members →
      pblock.exactSize < 2 ^ 32 → ReadsAsWritten pblock set members := by
  intro h
  have hread := h ⟨[⟨"pad0", ⟨.float, 0⟩⟩, ⟨"test", ⟨.vector3, 0⟩⟩, ⟨"pad1", ⟨.float, 0⟩⟩], 0⟩ 0 _
    (declares_buildUniformBuffer 0 _) (by decide)
  exact absurd hread.1 (by decide)

end Teide.ShaderCompiler
