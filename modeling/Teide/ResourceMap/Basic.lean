import Mathlib.Algebra.Ring.Nat
import Mathlib.Tactic.Common
import Teide.Lib.Runs

/-!
# Handles and the resources they keep alive

A `ResourceMap` owns resources in slots, each with a reference count. `Insert` makes a slot with its
first handle. Copying a handle calls `AddRef` on the map it points to, and a handle that is destroyed
or assigned to calls `DecRef`, which resets the slot when its count reaches zero.

`State` is any number of maps and of handle objects, in the order of their creation, and `step` the
special member functions of `Handle`. Its two templates differ in the data pointer that handles with
properties carry (`δ`, `Unit` for `Handle<void>`). `properties` says where the properties of a slot
are. The rest of the state records what has happened: the inserts, the calls of `DecRef`, each with
the number of live handles on its slot, and the resets.
-/

namespace Teide

/-- `ResourceMap::Slot` -/
structure Slot (ρ : Type*) where
  refCount : UInt32 := 1
  resource : ρ

/-- `ResourceMap::Impl` -/
structure ResourceMap (ρ : Type*) where
  list : List (Slot ρ) := []

/-- The owner of a handle is given by its position among the maps, and a moved-from handle has
none. -/
structure Handle (δ : Type*) where
  index : UInt64
  owner : Option Nat
  data : δ

variable {ρ δ : Type*}

namespace Slot

def addRef (slot : Slot ρ) : Slot ρ := { slot with refCount := slot.refCount + 1 }

/-- The slot after `DecRef`. `resource = {}` assigns to the whole slot. -/
def decRef [Inhabited ρ] (slot : Slot ρ) : Slot ρ :=
  let slot := { slot with refCount := slot.refCount - 1 }
  if slot.refCount = 0 then { resource := default } else slot

end Slot

namespace ResourceMap

/-- No deque holds more elements; `emplace_back` throws instead. -/
def maxSize : Nat := 2 ^ 63 - 1

def insert (map : ResourceMap ρ) (resource : ρ) : UInt64 × ResourceMap ρ :=
  (UInt64.ofNat map.list.length, { list := map.list ++ [{ resource := resource }] })

def addRef (map : ResourceMap ρ) (index : UInt64) : ResourceMap ρ :=
  { list := map.list.modify index.toNat Slot.addRef }

def decRef [Inhabited ρ] (map : ResourceMap ρ) (index : UInt64) : ResourceMap ρ :=
  { list := map.list.modify index.toNat Slot.decRef }

/-! ### Runs -/

/-- A slot: which map, and the index in it. -/
abbrev SlotRef := Nat × UInt64

structure State (ρ δ : Type*) where
  maps : List (ResourceMap ρ) := []
  /-- all handle objects; a destroyed one is `none` -/
  handles : List (Option (Handle δ)) := []
  inserts : List (SlotRef × ρ) := []
  decRefs : List (SlotRef × Nat) := []
  resets : List SlotRef := []

inductive Action (ρ : Type*) where
  | newMap
  | insert (map : Nat) (resource : ρ)
  | copyConstruct (other : Nat)
  | moveConstruct (other : Nat)
  | copyAssign (this other : Nat)
  | moveAssign (this other : Nat)
  | destroy (this : Nat)

/-- The slot a live handle holds. -/
def slotOf (h : Handle δ) : Option SlotRef := h.owner.map (·, h.index)

/-- Whether a handle object is live and holds the slot. -/
def holds (slot : SlotRef) (h : Option (Handle δ)) : Bool := h.bind slotOf = some slot

namespace State

def handle? (s : State ρ δ) (k : Nat) : Option (Handle δ) := s.handles[k]?.join

def slot? (s : State ρ δ) (slot : SlotRef) : Option (Slot ρ) :=
  s.maps[slot.1]?.bind (·.list[slot.2.toNat]?)

/-- The number of live handles that hold the slot. -/
def liveHandles (s : State ρ δ) (slot : SlotRef) : Nat := s.handles.countP (holds slot)

def addRef (s : State ρ δ) (slot : SlotRef) : State ρ δ :=
  { s with maps := s.maps.modify slot.1 (·.addRef slot.2) }

def decRef [Inhabited ρ] (s : State ρ δ) (slot : SlotRef) : State ρ δ :=
  { s with
    maps := s.maps.modify slot.1 (·.decRef slot.2)
    decRefs := s.decRefs ++ [(slot, s.liveHandles slot)]
    resets := s.resets ++ if (s.slot? slot).any (·.refCount - 1 = 0) then [slot] else [] }

/-- `Handle::Destroy` -/
def destroy [Inhabited ρ] (s : State ρ δ) (h : Handle δ) : State ρ δ :=
  match slotOf h with
  | some slot => s.decRef slot
  | none => s

def insert (properties : SlotRef → δ) (s : State ρ δ) (m : Nat) (map : ResourceMap ρ)
    (resource : ρ) : State ρ δ :=
  let (index, map) := map.insert resource
  { s with
    maps := s.maps.set m map
    handles := s.handles ++ [some ⟨index, some m, properties (m, index)⟩]
    inserts := s.inserts ++ [((m, index), resource)] }

def copyConstruct (s : State ρ δ) (other : Handle δ) (slot : SlotRef) : State ρ δ :=
  let s := s.addRef slot
  { s with handles := s.handles ++ [some other] }

def moveConstruct (s : State ρ δ) (k : Nat) (other : Handle δ) : State ρ δ :=
  { s with handles := s.handles.set k (some { other with owner := none }) ++ [some other] }

def copyAssign [Inhabited ρ] (s : State ρ δ) (j : Nat) (this other : Handle δ) (slot : SlotRef) :
    State ρ δ :=
  -- the order makes self-assignment harmless
  let s := (s.addRef slot).destroy this
  { s with handles := s.handles.set j (some other) }

def moveAssign [Inhabited ρ] (s : State ρ δ) (j k : Nat) (this other : Handle δ) : State ρ δ :=
  let s := s.destroy this
  { s with handles := (s.handles.set j (some other)).set k (some { other with owner := none }) }

def step [Inhabited ρ] (properties : SlotRef → δ) (s : State ρ δ) : Action ρ → Option (State ρ δ)
  | .newMap => some { s with maps := s.maps ++ [{}] }
  | .insert m resource => s.maps[m]?.bind fun map =>
    if map.list.length < maxSize then some (s.insert properties m map resource) else none
  -- a moved-from handle has no owner to call `AddRef` on
  | .copyConstruct k => (s.handle? k).bind fun other =>
    (slotOf other).map (s.copyConstruct other)
  | .moveConstruct k => (s.handle? k).map (s.moveConstruct k)
  | .copyAssign j k => (s.handle? j).bind fun this => (s.handle? k).bind fun other =>
    (slotOf other).map (s.copyAssign j this other)
  | .moveAssign j k => (s.handle? j).bind fun this => (s.handle? k).map fun other =>
    if j = k then s else s.moveAssign j k this other
  | .destroy k => (s.handle? k).map fun this =>
    { s.destroy this with handles := (s.destroy this).handles.set k none }

end State

end ResourceMap

end Teide
