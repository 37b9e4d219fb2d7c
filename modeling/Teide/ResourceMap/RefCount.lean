import Mathlib.Data.List.Nodup
import Mathlib.Tactic.Common
import Teide.Lib.ListSet
import Teide.Lib.Words
import Teide.ResourceMap.Basic

/-!
# Reference counting is exact

Every special member function counts at most one slot up and at most one down, the first one first,
and the live handles change in the same way (`Adjusts`). Counts are 32-bit numbers; they are compared
with the live handles before and after a function and not in between, where the count of a
self-assignment may be too large by one.
-/

namespace Teide.ResourceMap

open Runs ListSet

variable {ρ δ : Type*} {s t : State ρ δ} {p q : SlotRef}

theorem holds_some {h : Handle δ} : holds q (some h) = true ↔ slotOf h = some q := by
  simp [holds]

@[simp] theorem holds_none : holds q (none : Option (Handle δ)) = false := rfl

@[simp] theorem holds_movedFrom {h : Handle δ} :
    holds q (some { h with owner := none }) = false := by
  simp [holds, slotOf]

/-! ### Counting handles -/

theorem getElem?_of_handle? {k : Nat} {h : Handle δ} (hk : s.handle? k = some h) :
    s.handles[k]? = some (some h) := by
  rwa [State.handle?, Option.join_eq_some_iff] at hk

/-- A handle that holds a slot is one of its live handles. -/
theorem liveHandles_pos {k : Nat} {h : Handle δ} (hk : s.handle? k = some h)
    (hslot : slotOf h = some q) : 0 < s.liveHandles q :=
  List.countP_pos_iff.mpr
    ⟨_, List.mem_of_getElem? (getElem?_of_handle? hk), holds_some.mpr hslot⟩

/-! ### The slots -/

theorem slot?_modify {f : Slot ρ → Slot ρ} {maps : List (ResourceMap ρ)} :
    ((maps.modify p.1 fun map => ⟨map.list.modify p.2.toNat f⟩)[q.1]?.bind
        (·.list[q.2.toNat]?)) =
      (maps[q.1]?.bind (·.list[q.2.toNat]?)).map fun slot => if p = q then f slot else slot := by
  rw [List.getElem?_modify]
  cases hmap : maps[q.1]? with
  | none => rfl
  | some map =>
    by_cases hm : p.1 = q.1
    · simp only [hm, Option.map_eq_map, Option.map_some, if_true, Option.bind_some,
        List.getElem?_modify]
      congr 1
      funext slot
      simp only [UInt64.toNat_inj, Prod.ext_iff, hm, true_and]
    · simp [hm, Prod.ext_iff]

theorem slot?_addRef : (s.addRef p).slot? q =
    (s.slot? q).map fun slot => if p = q then slot.addRef else slot := slot?_modify

theorem slot?_decRef [Inhabited ρ] : (s.decRef p).slot? q =
    (s.slot? q).map fun slot => if p = q then slot.decRef else slot := slot?_modify

/-! ### What a special member function does to the counts -/

/-- How often a slot is counted. -/
def counted (slot : Option SlotRef) (q : SlotRef) : Nat := if slot = some q then 1 else 0

/-- A slot that is counted up first and then down. -/
def recount [Inhabited ρ] (added removed : Option SlotRef) (q : SlotRef) (slot : Slot ρ) : Slot ρ :=
  let slot := if added = some q then slot.addRef else slot
  if removed = some q then slot.decRef else slot

@[simp] theorem recount_none [Inhabited ρ] : recount none none q = (id : Slot ρ → Slot ρ) := by
  funext slot
  simp [recount]

theorem recount_added [Inhabited ρ] : recount (some p) none q =
    fun slot : Slot ρ => if p = q then slot.addRef else slot := by
  funext slot
  simp [recount]

theorem recount_removed [Inhabited ρ] : recount none (some p) q =
    fun slot : Slot ρ => if p = q then slot.decRef else slot := by
  funext slot
  simp [recount]

/-- From `s` to `t` at most one slot is counted up and then at most one down, and a live handle is
added to the first and removed from the second. -/
structure Adjusts [Inhabited ρ] (s t : State ρ δ) (added removed : Option SlotRef) : Prop where
  slot? : ∀ q, t.slot? q = (s.slot? q).map (recount added removed q)
  liveHandles : ∀ q, t.liveHandles q + counted removed q = s.liveHandles q + counted added q
  removed_pos : ∀ q, removed = some q → 0 < s.liveHandles q
  added_pos : ∀ q, added = some q → 0 < s.liveHandles q
  inserts : t.inserts = s.inserts
  decRefs : t.decRefs = s.decRefs ++ removed.toList.map fun q => (q, s.liveHandles q)
  resets : t.resets = s.resets ++ removed.toList.filter fun q =>
    ((s.slot? q).map (recount added none q)).any (·.refCount - 1 = 0)

/-- The 32-bit counts do not overflow. -/
def FewHandles (s : State ρ δ) : Prop := s.handles.countP (·.any (slotOf · |>.isSome)) < 2 ^ 32

theorem FewHandles.liveHandles_lt (h : FewHandles s) (q : SlotRef) : s.liveHandles q < 2 ^ 32 := by
  refine Nat.lt_of_le_of_lt (List.countP_mono_left fun o _ ho => ?_) h
  cases o with
  | none => simp at ho
  | some h => simp [holds_some.mp ho]

/-- The count of a slot with live handles, and what it keeps alive. -/
def Exact (s : State ρ δ) (q : SlotRef) (resource : ρ) (slot : Slot ρ) : Prop :=
  0 < s.liveHandles q → slot.refCount.toNat = s.liveHandles q ∧ slot.resource = resource

theorem Slot.decRef_of_ne [Inhabited ρ] {slot : Slot ρ} (h : slot.refCount - 1 ≠ 0) :
    slot.decRef = { slot with refCount := slot.refCount - 1 } := if_neg h

theorem Slot.decRef_of_eq [Inhabited ρ] {slot : Slot ρ} (h : slot.refCount - 1 = 0) :
    slot.decRef = { resource := default } := if_pos h

section Adjusts

variable [Inhabited ρ] {added removed : Option SlotRef} {resource : ρ} {slot : Slot ρ}

/-- The slot is reset when its last live handle goes. -/
theorem Adjusts.reset_iff (h : Adjusts s t added removed) (hexact : Exact s q resource slot)
    (hremoved : removed = some q) :
    (recount added none q slot).refCount - 1 = 0 ↔ t.liveHandles q = 0 := by
  have hpos := h.removed_pos q hremoved
  have hlive := h.liveHandles q
  obtain ⟨hcount, -⟩ := hexact hpos
  simp only [counted, hremoved, if_true] at hlive
  by_cases hadded : added = some q
  · have heq : (recount added none q slot).refCount = slot.refCount + 1 := by
      simp [recount, hadded, Slot.addRef]
    rw [heq, UInt32.add_sub_cancel, ← UInt32.toNat_inj, hcount, if_pos hadded] at *
    simp only [UInt32.toNat_zero]
    omega
  · have heq : (recount added none q slot).refCount = slot.refCount := by
      simp [recount, hadded]
    rw [if_neg hadded] at hlive
    rw [heq, ← UInt32.toNat_inj, Words.toNat_sub_one (by omega), hcount, UInt32.toNat_zero]
    omega

theorem Adjusts.exact (h : Adjusts s t added removed) (hfew : FewHandles t)
    (hexact : Exact s q resource slot) : Exact t q resource (recount added removed q slot) := by
  intro hpos
  have hlive := h.liveHandles q
  have hlt := hfew.liveHandles_lt q
  have hpos' : 0 < s.liveHandles q := by
    by_cases hadded : added = some q
    · exact h.added_pos q hadded
    · simp only [counted, if_neg hadded] at hlive
      omega
  obtain ⟨hcount, hresource⟩ := hexact hpos'
  -- counting up comes first, so a count that ends above zero has not been zero in between
  by_cases hremoved : removed = some q
  · have hkeep := mt (h.reset_iff hexact hremoved).mp (Nat.ne_of_gt hpos)
    rw [recount, if_pos hremoved]
    simp only [recount, reduceCtorEq, if_false] at hkeep
    rw [Slot.decRef_of_ne hkeep]
    simp only [counted, if_pos hremoved] at hlive
    by_cases hadded : added = some q
    · rw [if_pos hadded] at hlive ⊢
      refine ⟨?_, hresource⟩
      rw [Slot.addRef, UInt32.add_sub_cancel, hcount]
      omega
    · rw [if_neg hadded] at hlive ⊢
      refine ⟨?_, hresource⟩
      rw [Words.toNat_sub_one (by omega), hcount]
      omega
  · rw [recount, if_neg hremoved]
    simp only [counted, if_neg hremoved] at hlive
    by_cases hadded : added = some q
    · rw [if_pos hadded] at hlive ⊢
      refine ⟨?_, hresource⟩
      rw [Slot.addRef, Words.toNat_add_one (by omega), hcount]
      omega
    · rw [if_neg hadded] at hlive ⊢
      exact ⟨by omega, hresource⟩

end Adjusts

/-! ### The special member functions -/

/-- Where no count changes, nothing is counted up or down. -/
theorem Adjusts.of_same [Inhabited ρ] (hslot : ∀ q, t.slot? q = s.slot? q)
    (hlive : ∀ q, t.liveHandles q = s.liveHandles q) (hinserts : t.inserts = s.inserts)
    (hdecRefs : t.decRefs = s.decRefs) (hresets : t.resets = s.resets) : Adjusts s t none none where
  slot? q := by rw [recount_none, Option.map_id_fun, id, hslot]
  liveHandles q := by rw [hlive]
  removed_pos _ h := absurd h (by simp)
  added_pos _ h := absurd h (by simp)
  inserts := hinserts
  decRefs := hdecRefs.trans (List.append_nil _).symm
  resets := hresets.trans (List.append_nil _).symm

theorem adjusts_copyConstruct [Inhabited ρ] {k : Nat} {other : Handle δ}
    (hk : s.handle? k = some other) (hslot : slotOf other = some q) :
    Adjusts s (s.copyConstruct other q) (some q) none where
  slot? p := by
    rw [recount_added]
    exact slot?_addRef
  liveHandles p := by
    simp only [State.liveHandles, State.copyConstruct, State.addRef, counted, List.countP_append,
      List.countP_singleton, holds_some, hslot, reduceCtorEq, if_false, Nat.add_zero]
  removed_pos _ h := absurd h (by simp)
  added_pos p h := Option.some.inj h ▸ liveHandles_pos hk hslot
  inserts := rfl
  decRefs := (List.append_nil _).symm
  resets := (List.append_nil _).symm

theorem adjusts_moveConstruct [Inhabited ρ] {k : Nat} {other : Handle δ}
    (hk : s.handle? k = some other) : Adjusts s (s.moveConstruct k other) none none := by
  refine .of_same (fun _ => rfl) (fun p => ?_) rfl rfl rfl
  have hset := countP_set_add (P := holds p) (a := some { other with owner := none })
    (getElem?_of_handle? hk)
  simp only [holds_movedFrom] at hset
  simp only [State.liveHandles, State.moveConstruct, List.countP_append, List.countP_singleton]
  simpa using hset

/-- A live handle that goes is taken off its slot. -/
theorem countP_set_handle {k : Nat} {this : Handle δ}
    {o : Option (Handle δ)} (hk : s.handle? k = some this) :
    (s.handles.set k o).countP (holds p) + counted (slotOf this) p =
      s.liveHandles p + if holds p o then 1 else 0 := by
  have hset := countP_set_add (P := holds p) (a := o) (getElem?_of_handle? hk)
  simp only [holds_some] at hset
  exact hset

section Destroy

variable [Inhabited ρ] {this other : Handle δ}

theorem slot?_destroy :
    (s.destroy this).slot? p = (s.slot? p).map (recount none (slotOf this) p) := by
  rw [State.destroy]
  cases slotOf this with
  | none => rw [recount_none, Option.map_id_fun, id]
  | some q =>
    rw [recount_removed]
    exact slot?_decRef

theorem handles_destroy : (s.destroy this).handles = s.handles := by
  rw [State.destroy]
  cases slotOf this <;> rfl

theorem inserts_destroy : (s.destroy this).inserts = s.inserts := by
  rw [State.destroy]
  cases slotOf this <;> rfl

theorem decRefs_destroy : (s.destroy this).decRefs =
    s.decRefs ++ (slotOf this).toList.map fun q => (q, s.liveHandles q) := by
  rw [State.destroy]
  cases slotOf this with
  | none => exact (List.append_nil _).symm
  | some q => rfl

theorem resets_destroy : (s.destroy this).resets = s.resets ++
    (slotOf this).toList.filter fun q => (s.slot? q).any (·.refCount - 1 = 0) := by
  rw [State.destroy]
  cases slotOf this with
  | none => exact (List.append_nil _).symm
  | some q =>
    simp only [State.decRef, Option.toList_some, List.filter_singleton, Bool.cond_eq_ite]

theorem adjusts_destroy {k : Nat} (hk : s.handle? k = some this) :
    Adjusts s { s.destroy this with handles := (s.destroy this).handles.set k none } none
      (slotOf this) where
  slot? _ := slot?_destroy
  liveHandles p := by
    rw [State.liveHandles, handles_destroy, countP_set_handle hk]
    rfl
  removed_pos _ h := liveHandles_pos hk h
  added_pos _ h := absurd h (by simp)
  inserts := inserts_destroy
  decRefs := decRefs_destroy
  resets := by
    simp only [resets_destroy, recount_none, Option.map_id_fun, id]

theorem adjusts_copyAssign {j k : Nat} (hj : s.handle? j = some this)
    (hk : s.handle? k = some other) (hslot : slotOf other = some q) :
    Adjusts s (s.copyAssign j this other q) (some q) (slotOf this) where
  slot? p := by
    rw [show (s.copyAssign j this other q).slot? p = ((s.addRef q).destroy this).slot? p from rfl,
      slot?_destroy, slot?_addRef, Option.map_map]
    congr 1
    funext slot
    simp [recount]
  liveHandles p := by
    rw [State.copyAssign, State.liveHandles, handles_destroy]
    rw [show (s.addRef q).handles = s.handles from rfl, countP_set_handle hj]
    simp only [holds_some, hslot, counted]
  removed_pos _ h := liveHandles_pos hj h
  added_pos _ h := Option.some.inj h ▸ liveHandles_pos hk hslot
  inserts := inserts_destroy
  decRefs := decRefs_destroy
  resets := by
    rw [show (s.copyAssign j this other q).resets = ((s.addRef q).destroy this).resets from rfl,
      resets_destroy]
    simp only [slot?_addRef, recount_added]
    rfl

theorem adjusts_moveAssign {j k : Nat} (hne : j ≠ k) (hj : s.handle? j = some this)
    (hk : s.handle? k = some other) :
    Adjusts s (s.moveAssign j k this other) none (slotOf this) where
  slot? _ := slot?_destroy
  liveHandles p := by
    rw [State.moveAssign, State.liveHandles, handles_destroy]
    have hk' : (s.handles.set j (some other))[k]? = some (some other) := by
      rw [List.getElem?_set_ne hne, getElem?_of_handle? hk]
    have hset := countP_set_add (P := holds p) (a := some { other with owner := none }) hk'
    have hset' := countP_set_handle (p := p) (o := some other) hj
    rw [holds_movedFrom] at hset
    simp only [counted, reduceCtorEq, if_false, Nat.add_zero] at hset hset' ⊢
    omega
  removed_pos _ h := liveHandles_pos hj h
  added_pos _ h := absurd h (by simp)
  inserts := inserts_destroy
  decRefs := decRefs_destroy
  resets := by
    rw [show (s.moveAssign j k this other).resets = (s.destroy this).resets from rfl,
      resets_destroy]
    simp only [recount_none, Option.map_id_fun, id]

theorem adjusts_newMap : Adjusts s { s with maps := s.maps ++ [{}] } none none := by
  refine .of_same (fun q => ?_) (fun _ => rfl) rfl rfl rfl
  rw [State.slot?, State.slot?]
  rcases Nat.lt_or_ge q.1 s.maps.length with hlt | hge
  · rw [List.getElem?_append_left hlt]
  · rw [List.getElem?_append_right hge, List.getElem?_eq_none hge, List.getElem?_singleton]
    split_ifs <;> rfl

theorem adjusts_refl : Adjusts s s none none :=
  .of_same (fun _ => rfl) (fun _ => rfl) rfl rfl rfl

end Destroy

/-! ### The invariant -/

structure Inv (s : State ρ δ) : Prop where
  /-- an inserted resource has a slot, which is exact -/
  exact : ∀ e ∈ s.inserts, ∃ slot, s.slot? e.1 = some slot ∧ Exact s e.1 e.2 slot
  held : ∀ q, 0 < s.liveHandles q → ∃ resource, (q, resource) ∈ s.inserts
  inserts_nodup : (s.inserts.map Prod.fst).Nodup
  decRefs_pos : ∀ call ∈ s.decRefs, 0 < call.2

theorem inv_init : Inv ({} : State ρ δ) := by
  constructor <;> simp [State.liveHandles]

/-- A slot with a live handle has a resource inserted. -/
theorem Inv.slot_of_pos (hinv : Inv s) (hpos : 0 < s.liveHandles q) : ∃ slot resource,
    s.slot? q = some slot ∧ (q, resource) ∈ s.inserts ∧ Exact s q resource slot := by
  obtain ⟨resource, hinsert⟩ := hinv.held q hpos
  obtain ⟨slot, hslot, hexact⟩ := hinv.exact _ hinsert
  exact ⟨slot, resource, hslot, hinsert, hexact⟩

section Inv

variable [Inhabited ρ] {added removed : Option SlotRef}

theorem Adjusts.liveHandles_pos (h : Adjusts s t added removed) (hpos : 0 < t.liveHandles q) :
    0 < s.liveHandles q := by
  have hlive := h.liveHandles q
  by_cases hadded : added = some q
  · exact h.added_pos q hadded
  · simp only [counted, if_neg hadded] at hlive
    omega

theorem Inv.adjusts (hinv : Inv s) (h : Adjusts s t added removed) (hfew : FewHandles t) :
    Inv t where
  exact := by
    rw [h.inserts]
    intro e he
    obtain ⟨slot, hslot, hexact⟩ := hinv.exact e he
    refine ⟨_, ?_, h.exact hfew hexact⟩
    rw [h.slot?, hslot]
    rfl
  held := by
    rw [h.inserts]
    exact fun q hpos => hinv.held q (h.liveHandles_pos hpos)
  inserts_nodup := by
    rw [h.inserts]
    exact hinv.inserts_nodup
  decRefs_pos := by
    rw [h.decRefs]
    intro call hcall
    rcases List.mem_append.mp hcall with hcall | hcall
    · exact hinv.decRefs_pos call hcall
    · obtain ⟨q, hq, rfl⟩ := List.mem_map.mp hcall
      exact h.removed_pos q (Option.mem_toList.mp hq)

/-- From `s` to `t` exactly the slots that have lost their last live handle are reset: such a slot holds
the resource that a slot has by default, and every other slot keeps its resource. -/
structure ResetsExactly (s t : State ρ δ) : Prop where
  reset : ∀ q, 0 < s.liveHandles q → t.liveHandles q = 0 →
    ∃ slot, t.slot? q = some slot ∧ slot.resource = default
  kept : ∀ q slot, ¬(0 < s.liveHandles q ∧ t.liveHandles q = 0) → s.slot? q = some slot →
    ∃ slot', t.slot? q = some slot' ∧ slot'.resource = slot.resource
  /-- as they are recorded -/
  recorded : ∃ resets, t.resets = s.resets ++ resets ∧ resets.Nodup ∧
    ∀ q, q ∈ resets ↔ 0 < s.liveHandles q ∧ t.liveHandles q = 0

/-- A slot that loses its last live handle is counted down to zero, which resets it. -/
theorem Inv.reset (hinv : Inv s) (h : Adjusts s t added removed) (hpos : 0 < s.liveHandles q)
    (hzero : t.liveHandles q = 0) :
    removed = some q ∧ ∃ slot, s.slot? q = some slot ∧
      (recount added none q slot).refCount - 1 = 0 := by
  have hlive := h.liveHandles q
  have hremoved : removed = some q := by
    by_contra hne
    simp only [counted, if_neg hne] at hlive
    omega
  obtain ⟨slot, resource, hslot, -, hexact⟩ := hinv.slot_of_pos hpos
  exact ⟨hremoved, slot, hslot, (h.reset_iff hexact hremoved).mpr hzero⟩

/-- A slot that is counted down to zero has lost its last live handle. -/
theorem Inv.lost_of_reset (hinv : Inv s) (h : Adjusts s t added removed)
    (hremoved : removed = some q) {slot : Slot ρ} (hslot : s.slot? q = some slot)
    (hreset : (recount added none q slot).refCount - 1 = 0) :
    0 < s.liveHandles q ∧ t.liveHandles q = 0 := by
  have hpos := h.removed_pos q hremoved
  obtain ⟨slot', resource, hslot', -, hexact⟩ := hinv.slot_of_pos hpos
  obtain rfl := Option.some.inj (hslot.symm.trans hslot')
  exact ⟨hpos, (h.reset_iff hexact hremoved).mp hreset⟩

theorem recount_eq_decRef {slot : Slot ρ} (hremoved : removed = some q) :
    recount added removed q slot = (recount added none q slot).decRef := by
  simp [recount, hremoved]

theorem recount_resource {slot : Slot ρ} :
    (recount added none q slot).resource = slot.resource := by
  simp only [recount, reduceCtorEq, if_false]
  split_ifs <;> rfl

/-- What counting a slot does to its resource. -/
theorem recount_resource_of_ne {slot : Slot ρ}
    (hkeep : removed = some q → (recount added none q slot).refCount - 1 ≠ 0) :
    (recount added removed q slot).resource = slot.resource := by
  by_cases hremoved : removed = some q
  · rw [recount_eq_decRef hremoved, Slot.decRef_of_ne (hkeep hremoved)]
    exact recount_resource
  · have heq : recount added removed q slot = recount added none q slot := by
      simp [recount, hremoved]
    rw [heq, recount_resource]

theorem Inv.resetsExactly (hinv : Inv s) (h : Adjusts s t added removed) : ResetsExactly s t := by
  refine ⟨fun q hpos hzero => ?_, fun q slot hkept hslot => ?_, _, h.resets, ?_, fun q => ?_⟩
  · obtain ⟨hremoved, slot, hslot, hreset⟩ := hinv.reset h hpos hzero
    refine ⟨_, (h.slot? q).trans (congrArg _ hslot), ?_⟩
    rw [recount_eq_decRef hremoved, Slot.decRef_of_eq hreset]
  · refine ⟨_, (h.slot? q).trans (congrArg _ hslot), recount_resource_of_ne fun hremoved hreset => ?_⟩
    exact hkept (hinv.lost_of_reset h hremoved hslot hreset)
  · refine List.Nodup.filter _ ?_
    cases removed <;> simp
  · rw [List.mem_filter, Option.mem_toList]
    constructor
    · rintro ⟨hremoved, hreset⟩
      obtain ⟨slot, hslot, hzero⟩ := (Option.any_eq_true _ _).mp hreset
      obtain ⟨slot', hslot', rfl⟩ := Option.map_eq_some_iff.mp hslot
      exact hinv.lost_of_reset h hremoved hslot' (of_decide_eq_true hzero)
    · rintro ⟨hpos, hzero⟩
      obtain ⟨hremoved, slot, hslot, hreset⟩ := hinv.reset h hpos hzero
      rw [hslot]
      exact ⟨hremoved, decide_eq_true hreset⟩

end Inv

/-! ### Inserting -/

section Insert

variable {properties : SlotRef → δ} {m : Nat} {map : ResourceMap ρ} {resource : ρ}

/-- The slot that `Insert` makes. -/
def newSlot (m : Nat) (map : ResourceMap ρ) : SlotRef := (m, UInt64.ofNat map.list.length)

theorem toNat_newSlot (hlt : map.list.length < maxSize) :
    (newSlot m map).2.toNat = map.list.length := by
  rw [newSlot, UInt64.toNat_ofNat']
  exact Nat.mod_eq_of_lt (Nat.lt_trans hlt (by decide))

theorem slot?_newSlot (hm : s.maps[m]? = some map) (hlt : map.list.length < maxSize) :
    s.slot? (newSlot m map) = none := by
  rw [State.slot?, toNat_newSlot hlt, newSlot, hm]
  exact List.getElem?_eq_none (Nat.le_refl _)

theorem slot?_insert_new (hm : s.maps[m]? = some map) (hlt : map.list.length < maxSize) :
    (s.insert properties m map resource).slot? (newSlot m map) =
      some { resource := resource } := by
  rw [State.slot?, toNat_newSlot hlt, newSlot, State.insert]
  simp only
  rw [List.getElem?_set_self (List.getElem?_eq_some_iff.mp hm).1]
  exact List.getElem?_concat_length

theorem slot?_insert (hm : s.maps[m]? = some map) {slot : Slot ρ} (hq : s.slot? q = some slot) :
    (s.insert properties m map resource).slot? q = some slot := by
  rw [State.slot?] at hq ⊢
  obtain ⟨map', hmap', hslot⟩ := Option.bind_eq_some_iff.mp hq
  rw [State.insert]
  simp only
  by_cases heq : m = q.1
  · obtain rfl : map = map' := by
      rw [← heq, hm] at hmap'
      exact Option.some.inj hmap'
    rw [← heq, List.getElem?_set_self (List.getElem?_eq_some_iff.mp hm).1]
    exact (List.getElem?_append_left (List.getElem?_eq_some_iff.mp hslot).1).trans hslot
  · rw [List.getElem?_set_ne heq, hmap']
    exact hslot

theorem liveHandles_insert : (s.insert properties m map resource).liveHandles q =
    s.liveHandles q + if newSlot m map = q then 1 else 0 := by
  rw [State.liveHandles, State.insert]
  simp only [List.countP_append, List.countP_singleton, holds_some, slotOf, Option.map_some,
    Option.some.injEq]
  rfl

theorem Inv.insert (hinv : Inv s) (hm : s.maps[m]? = some map)
    (hlt : map.list.length < maxSize) : Inv (s.insert properties m map resource) := by
  -- a slot that has been inserted is another one
  have hne : ∀ e ∈ s.inserts, newSlot m map ≠ e.1 := by
    intro e he heq
    obtain ⟨slot, hslot, -⟩ := hinv.exact e he
    rw [← heq, slot?_newSlot hm hlt] at hslot
    exact absurd hslot (by simp)
  constructor
  · intro e he
    rcases List.mem_append.mp he with he | he
    · obtain ⟨slot, hslot, hexact⟩ := hinv.exact e he
      refine ⟨slot, slot?_insert hm hslot, ?_⟩
      rw [Exact, liveHandles_insert, if_neg (hne e he)]
      exact hexact
    · obtain rfl := List.mem_singleton.mp he
      refine ⟨_, slot?_insert_new hm hlt, fun _ => ⟨?_, rfl⟩⟩
      have hzero : s.liveHandles (newSlot m map) = 0 := by
        by_contra hpos
        obtain ⟨_, hinsert⟩ := hinv.held _ (Nat.pos_of_ne_zero hpos)
        exact hne _ hinsert rfl
      have hone : (s.insert properties m map resource).liveHandles (newSlot m map) = 1 := by
        rw [liveHandles_insert, hzero, if_pos rfl]
      exact hone.symm
  · intro q hpos
    rw [liveHandles_insert] at hpos
    by_cases heq : newSlot m map = q
    · exact ⟨resource, List.mem_append_right _ (List.mem_singleton.mpr (by rw [← heq]; rfl))⟩
    · rw [if_neg heq] at hpos
      obtain ⟨_, hinsert⟩ := hinv.held q hpos
      exact ⟨_, List.mem_append_left _ hinsert⟩
  · rw [State.insert, List.map_append, List.nodup_append]
    refine ⟨hinv.inserts_nodup, List.nodup_singleton _, ?_⟩
    rintro p hp _ hnew rfl
    obtain ⟨e, he, rfl⟩ := List.mem_map.mp hp
    exact hne e he (List.mem_singleton.mp hnew).symm
  · exact hinv.decRefs_pos

theorem resetsExactly_insert [Inhabited ρ] (hm : s.maps[m]? = some map) :
    ResetsExactly s (s.insert properties m map resource) := by
  have hkept : ∀ q, ¬(0 < s.liveHandles q ∧
      (s.insert properties m map resource).liveHandles q = 0) := by
    rintro q ⟨hpos, hzero⟩
    rw [liveHandles_insert] at hzero
    omega
  refine ⟨fun q hpos hzero => absurd ⟨hpos, hzero⟩ (hkept q),
    fun q slot _ hslot => ⟨slot, slot?_insert hm hslot, rfl⟩, [], (List.append_nil _).symm,
    List.nodup_nil, fun q => iff_of_false List.not_mem_nil (hkept q)⟩

end Insert

/-! ### Runs -/

/-- What reference counting has to achieve in a state. -/
structure RefCountsExact (s : State ρ δ) : Prop where
  /-- a slot with a live handle counts its live handles and has the resource inserted there -/
  counts : ∀ q, 0 < s.liveHandles q → ∃ slot resource, s.slot? q = some slot ∧
    (q, resource) ∈ s.inserts ∧ slot.refCount.toNat = s.liveHandles q ∧ slot.resource = resource
  /-- `DecRef` has been called for slots with live handles only -/
  decRefs_live : ∀ call ∈ s.decRefs, 0 < call.2
  inserts_distinct : (s.inserts.map Prod.fst).Nodup

theorem Inv.refCountsExact (hinv : Inv s) : RefCountsExact s where
  counts q hpos := by
    obtain ⟨slot, resource, hslot, hinsert, hexact⟩ := hinv.slot_of_pos hpos
    exact ⟨slot, resource, hslot, hinsert, hexact hpos⟩
  decRefs_live := hinv.decRefs_pos
  inserts_distinct := hinv.inserts_nodup

variable [Inhabited ρ] {properties : SlotRef → δ}

theorem Inv.step (hinv : Inv s) {a : Action ρ} (h : s.step properties a = some t)
    (hfew : FewHandles t) : Inv t ∧ ResetsExactly s t := by
  have hadjusts : ∀ {added removed}, Adjusts s t added removed → Inv t ∧ ResetsExactly s t :=
    fun h => ⟨hinv.adjusts h hfew, hinv.resetsExactly h⟩
  cases a with
  | newMap => exact hadjusts (Option.some.inj h ▸ adjusts_newMap)
  | insert m resource =>
    obtain ⟨map, hm, h⟩ := Option.bind_eq_some_iff.mp h
    obtain ⟨hlt, h⟩ := Option.ite_none_right_eq_some.mp h
    obtain rfl := Option.some.inj h
    exact ⟨hinv.insert hm hlt, resetsExactly_insert hm⟩
  | copyConstruct k =>
    obtain ⟨other, hk, h⟩ := Option.bind_eq_some_iff.mp h
    obtain ⟨slot, hslot, rfl⟩ := Option.map_eq_some_iff.mp h
    exact hadjusts (adjusts_copyConstruct hk hslot)
  | moveConstruct k =>
    obtain ⟨other, hk, rfl⟩ := Option.map_eq_some_iff.mp h
    exact hadjusts (adjusts_moveConstruct hk)
  | copyAssign j k =>
    obtain ⟨this, hj, h⟩ := Option.bind_eq_some_iff.mp h
    obtain ⟨other, hk, h⟩ := Option.bind_eq_some_iff.mp h
    obtain ⟨slot, hslot, rfl⟩ := Option.map_eq_some_iff.mp h
    exact hadjusts (adjusts_copyAssign hj hk hslot)
  | moveAssign j k =>
    obtain ⟨this, hj, h⟩ := Option.bind_eq_some_iff.mp h
    obtain ⟨other, hk, rfl⟩ := Option.map_eq_some_iff.mp h
    split_ifs with heq
    · rw [if_pos heq] at hadjusts
      exact hadjusts adjusts_refl
    · rw [if_neg heq] at hadjusts
      exact hadjusts (adjusts_moveAssign heq hj hk)
  | destroy k =>
    obtain ⟨this, hk, rfl⟩ := Option.map_eq_some_iff.mp h
    exact hadjusts (adjusts_destroy hk)

/-- **Handle reference counting is exact.** In every state reached with fewer than `2 ^ 32` live
handles at a time, the count of a slot with live handles is their number and its resource is the one
that was inserted, `DecRef` has been called for slots with live handles only, and no two inserts have
returned the same slot. The next step resets exactly the slots that lose their last live handle in
it: their resources are replaced, and those of all other slots stay. -/
theorem refCounts_exact {as : List (Action ρ)} (hrun : exec (State.step properties) {} as = some s)
    (hfew : Always (State.step properties) FewHandles {} as) :
    RefCountsExact s ∧ ∀ a t, s.step properties a = some t → FewHandles t → ResetsExactly s t := by
  have hinv := exec_invariant_of_always (I := fun s => FewHandles s → Inv s)
    (fun _ _ _ hinv hfew h hfew' => ((hinv hfew).step h hfew').1) (fun _ => inv_init) hfew hrun
  have hinv : Inv s := hinv.1 hinv.2
  exact ⟨hinv.refCountsExact, fun a t h hfew' => (hinv.step h hfew').2⟩

instance : Decidable (FewHandles s) := inferInstanceAs (Decidable (_ < _))

/-- Two handles of one slot are assigned to each other and to themselves, and then destroyed: the
resource stays until the last of them goes. -/
theorem refCounts_exact_selfAssignment :
    ∃ s t : State Nat Unit, RefCountsExact s ∧ (s.slot? (0, 0)).map (·.resource) = some 7 ∧
      s.step (fun _ => ()) (.destroy 0) = some t ∧ ResetsExactly s t ∧
      (t.slot? (0, 0)).map (·.resource) = some 0 := by
  let as : List (Action Nat) := [.newMap, .insert 0 7, .copyConstruct 0, .copyAssign 0 0,
    .moveAssign 1 1, .copyAssign 1 0, .moveAssign 0 1, .destroy 1]
  obtain ⟨s, t, hrun, hinserted, hdestroy, hreset, hfew⟩ : ∃ s t : State Nat Unit,
      exec (State.step fun _ => ()) {} as = some s ∧ (s.slot? (0, 0)).map (·.resource) = some 7 ∧
      s.step (fun _ => ()) (.destroy 0) = some t ∧ (t.slot? (0, 0)).map (·.resource) = some 0 ∧
      FewHandles t := ⟨_, _, rfl, rfl, rfl, rfl, by decide⟩
  obtain ⟨hexact, hstep⟩ := refCounts_exact hrun (by decide)
  exact ⟨s, t, hexact, hinserted, hdestroy, hstep _ _ hdestroy hfew, hreset⟩

end Teide.ResourceMap
