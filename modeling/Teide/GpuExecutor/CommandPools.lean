import Mathlib.Algebra.Ring.Nat
import Mathlib.Data.List.Nodup
import Mathlib.Tactic.Common
import Teide.Lib.Runs
import Teide.Renderer.Basic
import Teide.ThreadMap.Basic

/-!
# The command pools of the executor

`GetCommandBuffer` takes the next unused command buffer from the calling thread's pool in the current
frame slot, and allocates as many new ones as there are when all are used. `NextFrame` rewinds the
pools of the slot it moves to. Both are called under the lock of the scheduler.

The count of the used command buffers has 32 bits, and `commandBuffers_unique` is about threads that do
not take more than 2 ^ 32 command buffers in a frame: with one more the count has wrapped around
(`not_commandBuffers_unique`).

A command buffer is kept with what matters of its state to `begin`, and the reference that
`GetCommandBuffer` returns is the place in the arrays. `handouts` is the history of the calls, each with
the number of `NextFrame` calls before it.
-/

namespace Teide.CommandPools

open Runs
open Renderer (maxFramesInFlight)

inductive CommandBufferState where
  | initial
  /-- begun since the last reset -/
  | begun
  deriving DecidableEq

structure ThreadResources where
  commandBuffers : List CommandBufferState := []
  numUsedCommandBuffers : UInt32 := 0

namespace ThreadResources

/-- `Reset`, with the command pool -/
def reset (resources : ThreadResources) : ThreadResources :=
  { commandBuffers := resources.commandBuffers.map fun _ => .initial
    numUsedCommandBuffers := 0 }

def allocate (resources : ThreadResources) : ThreadResources :=
  if resources.numUsedCommandBuffers.toNat = resources.commandBuffers.length then
    let commandBufferCount := max 1 (UInt32.ofNat resources.commandBuffers.length)
    { resources with
      commandBuffers :=
        resources.commandBuffers ++ List.replicate commandBufferCount.toNat .initial }
  else resources

/-- The index of the command buffer and the state it is in before `begin`; `none` when `at` throws. -/
def getCommandBuffer (resources : ThreadResources) :
    Option (Nat × CommandBufferState × ThreadResources) :=
  let resources := resources.allocate
  let commandBufferIndex := resources.numUsedCommandBuffers.toNat
  resources.commandBuffers[commandBufferIndex]?.map fun state =>
    (commandBufferIndex, state,
      { commandBuffers := resources.commandBuffers.set commandBufferIndex .begun
        numUsedCommandBuffers := resources.numUsedCommandBuffers + 1 })

end ThreadResources

/-- A `CommandBuffer&` -/
structure Reference where
  slot : Fin maxFramesInFlight
  entry : Nat
  index : Nat
  deriving DecidableEq

structure Handout where
  thread : Nat
  reference : Reference
  state : CommandBufferState
  frame : Nat

structure State where
  frameResources : FrameArray (ThreadMap ThreadResources) maxFramesInFlight
  frame : Nat := 0
  handouts : List Handout := []

/-- The constructor, called by the thread `mainThread`. -/
def create (numThreads mainThread : Nat) : State :=
  { frameResources := ⟨fun _ => .create numThreads mainThread {}, 0⟩ }

inductive Call where
  | getCommandBuffer (thread : Nat)
  | nextFrame

namespace State

def getCommandBuffer (s : State) (thread : Nat) : Option State :=
  (s.frameResources.current.getCurrentObject thread).bind fun (entry, threadResources) =>
    (threadResources.object? entry).bind fun resources =>
      resources.getCommandBuffer.map fun (index, state, resources) =>
        { s with
          frameResources := s.frameResources.setCurrent (threadResources.setObject entry resources)
          handouts := s.handouts ++
            [⟨thread, ⟨s.frameResources.frameNumber, entry, index⟩, state, s.frame⟩] }

def nextFrame (s : State) : State :=
  let frameResources := s.frameResources.nextFrame
  { s with
    frameResources := frameResources.setCurrent (frameResources.current.lockAll (·.reset))
    frame := s.frame + 1 }

/-- A call; `none` when it throws. -/
def step (s : State) : Call → Option State
  | .getCommandBuffer thread => s.getCommandBuffer thread
  | .nextFrame => some s.nextFrame

end State

open State

/-- The command buffers that have been handed out are their threads' own and have been unused. -/
structure HandedOutOnce (s : State) : Prop where
  /-- the current slot at the time and the entry of the calling thread -/
  owner : ∀ handout ∈ s.handouts, handout.reference.slot.val = handout.frame % maxFramesInFlight ∧
    (s.frameResources.storage handout.reference.slot).Owns handout.reference.entry handout.thread
  /-- two threads never get command buffers of one entry -/
  threads : ∀ handout ∈ s.handouts, ∀ other ∈ s.handouts,
    handout.reference.slot = other.reference.slot →
      handout.reference.entry = other.reference.entry → handout.thread = other.thread
  /-- no command buffer twice in a frame -/
  once : (s.handouts.map fun handout => (handout.frame, handout.reference)).Nodup
  initial : ∀ handout ∈ s.handouts, handout.state = .initial
  used : ∀ slot entry resources,
    (s.frameResources.storage slot).object? entry = some resources →
      resources.numUsedCommandBuffers.toNat ≤ resources.commandBuffers.length

/-- The thread has not taken 2 ^ 32 command buffers in the current frame yet. -/
def TakesFew (s : State) : Call → Prop
  | .getCommandBuffer thread =>
    s.handouts.countP (fun handout => handout.frame = s.frame ∧ handout.thread = thread) < 2 ^ 32
  | .nextFrame => True

instance (s : State) : ∀ call, Decidable (TakesFew s call)
  | .getCommandBuffer _ => inferInstanceAs (Decidable (_ < _))
  | .nextFrame => .isTrue trivial

/-! ### One pool -/

/-- `n` command buffers of the pool have been taken since the last reset. -/
structure Taken (n : Nat) (resources : ThreadResources) : Prop where
  le : n ≤ 2 ^ 32
  count : resources.numUsedCommandBuffers = UInt32.ofNat n
  length : n ≤ resources.commandBuffers.length
  unused : ∀ i : Nat, n ≤ i → ∀ state ∈ resources.commandBuffers[i]?, state = .initial

theorem taken_reset (resources : ThreadResources) : Taken 0 resources.reset where
  le := Nat.zero_le _
  count := rfl
  length := Nat.zero_le _
  unused i _ state hstate := by
    obtain ⟨_, -, rfl⟩ := List.mem_map.mp (List.mem_of_getElem? hstate)
    rfl

theorem taken_empty : Taken 0 {} where
  le := Nat.zero_le _
  count := rfl
  length := Nat.le_refl _
  unused i _ state hstate := by simp at hstate

theorem Taken.used_le {n : Nat} {resources : ThreadResources} (h : Taken n resources) :
    resources.numUsedCommandBuffers.toNat ≤ resources.commandBuffers.length := by
  rw [h.count, UInt32.toNat_ofNat']
  exact Nat.le_trans (Nat.mod_le _ _) h.length

theorem Taken.toNat {n : Nat} {resources : ThreadResources} (h : Taken n resources)
    (hn : n < 2 ^ 32) : resources.numUsedCommandBuffers.toNat = n := by
  rw [h.count]
  exact UInt32.toNat_ofNat_of_lt' hn

/-- After `allocate` there is an unused command buffer. -/
theorem Taken.allocate {n : Nat} {resources : ThreadResources} (h : Taken n resources)
    (hn : n < 2 ^ 32) :
    Taken n resources.allocate ∧ n < resources.allocate.commandBuffers.length := by
  unfold ThreadResources.allocate
  split
  · rename_i hfull
    have hone : 1 ≤ (max 1 (UInt32.ofNat resources.commandBuffers.length)).toNat := by
      rw [UInt32.toNat_max]
      exact Nat.le_max_left 1 _
    have hlength : n = resources.commandBuffers.length := (h.toNat hn).symm.trans hfull
    refine ⟨⟨h.le, h.count, ?_, fun i hi state hstate => ?_⟩, ?_⟩
    · rw [List.length_append]
      omega
    · dsimp only at hstate
      rw [List.getElem?_append_right (hlength ▸ hi)] at hstate
      exact List.eq_of_mem_replicate (List.mem_of_getElem? hstate)
    · rw [List.length_append, List.length_replicate]
      omega
  · rename_i hfree
    rw [h.toNat hn] at hfree
    exact ⟨h, Nat.lt_of_le_of_ne h.length hfree⟩

theorem Taken.getCommandBuffer {n : Nat} {resources : ThreadResources} (h : Taken n resources)
    (hn : n < 2 ^ 32) : ∃ resources', resources.getCommandBuffer = some (n, .initial, resources') ∧
      Taken (n + 1) resources' := by
  obtain ⟨hallocate, hlt⟩ := h.allocate hn
  have hget := List.getElem?_eq_getElem hlt
  have hinitial : resources.allocate.commandBuffers[n] = .initial :=
    hallocate.unused n (Nat.le_refl n) _ hget
  have hindex := hallocate.toNat hn
  unfold ThreadResources.getCommandBuffer
  dsimp only
  rw [hindex, hget, hinitial]
  refine ⟨_, rfl, ⟨hn, ?_, ?_, fun i hi state hstate => ?_⟩⟩
  · show resources.allocate.numUsedCommandBuffers + 1 = _
    rw [hallocate.count, UInt32.ofNat_add]
    rfl
  · rw [List.length_set]
    exact hlt
  · dsimp only at hstate
    rw [List.getElem?_set_ne (by omega)] at hstate
    exact hallocate.unused i (Nat.le_of_succ_le hi) state hstate

/-! ### All pools -/

variable {numThreads : Nat} {threads : List Nat} {s t : State} {call : Call}

/-- How many command buffers of the entry have been handed out in the current frame. -/
def State.taken (s : State) (entry : Nat) : Nat :=
  s.handouts.countP fun handout => handout.frame = s.frame ∧ handout.reference.entry = entry

/-- A thread map for the threads that make the calls. -/
structure Serves (numThreads : Nat) (threads : List Nat) (map : ThreadMap ThreadResources) : Prop where
  wellFormed : map.WellFormed
  length : map.entries.length = numThreads
  claimed : ∀ thread ∈ map.claimed, thread ∈ threads

structure Inv (numThreads : Nat) (threads : List Nat) (s : State) : Prop where
  slot : s.frameResources.frameNumber.val = s.frame % maxFramesInFlight
  serves : ∀ k, Serves numThreads threads (s.frameResources.storage k)
  owner : ∀ handout ∈ s.handouts, handout.reference.slot.val = handout.frame % maxFramesInFlight ∧
    (s.frameResources.storage handout.reference.slot).Owns handout.reference.entry handout.thread
  frame_le : ∀ handout ∈ s.handouts, handout.frame ≤ s.frame
  used : ∀ slot entry resources,
    (s.frameResources.storage slot).object? entry = some resources →
      resources.numUsedCommandBuffers.toNat ≤ resources.commandBuffers.length
  taken : ∀ entry resources, s.frameResources.current.object? entry = some resources →
    Taken (s.taken entry) resources
  index_lt : ∀ handout ∈ s.handouts, handout.frame = s.frame →
    handout.reference.index < s.taken handout.reference.entry
  once : (s.handouts.map fun handout => (handout.frame, handout.reference)).Nodup
  initial : ∀ handout ∈ s.handouts, handout.state = .initial

theorem Inv.handedOutOnce (h : Inv numThreads threads s) : HandedOutOnce s where
  owner := h.owner
  threads handout hmem other hother hslot hentry := by
    have howns := (h.owner handout hmem).2
    rw [hslot, hentry] at howns
    exact howns.eq (h.owner other hother).2
  once := h.once
  initial := h.initial
  used := h.used

theorem serves_create (mainThread : Nat) :
    Serves numThreads threads (.create numThreads mainThread {}) where
  wellFormed := ThreadMap.wellFormed_create _ _ _
  length := List.length_replicate
  claimed _ hmem := absurd hmem List.not_mem_nil

theorem inv_create (mainThread : Nat) : Inv numThreads threads (create numThreads mainThread) := by
  have hempty (entry : Nat) (resources : ThreadResources)
      (h : (ThreadMap.create numThreads mainThread ({} : ThreadResources)).object? entry =
        some resources) : Taken 0 resources := by
    obtain ⟨pair, hpair, rfl⟩ := Option.map_eq_some_iff.mp h
    rw [List.eq_of_mem_replicate (List.mem_of_getElem? hpair)]
    exact taken_empty
  exact
    { slot := rfl
      serves := fun _ => serves_create mainThread
      owner := by simp [create]
      frame_le := by simp [create]
      used := fun _ entry resources h => (hempty entry resources h).used_le
      taken := hempty
      index_lt := by simp [create]
      once := List.nodup_nil
      initial := by simp [create] }

/-! ### The next frame -/

theorem Serves.lockAll {map : ThreadMap ThreadResources} (h : Serves numThreads threads map)
    (callable : ThreadResources → ThreadResources) :
    Serves numThreads threads (map.lockAll callable) where
  wellFormed := h.wellFormed.lockAll
  length := by
    rw [← h.length]
    exact List.length_map _
  claimed thread hmem := h.claimed thread (by rwa [ThreadMap.claimed_lockAll] at hmem)

theorem Inv.nextFrame (h : Inv numThreads threads s) : Inv numThreads threads s.nextFrame := by
  let frameResources := s.frameResources.nextFrame
  have hnone (entry : Nat) : s.nextFrame.taken entry = 0 := by
    refine List.countP_eq_zero.mpr fun handout hmem => ?_
    have hle := h.frame_le handout hmem
    have hframe : s.nextFrame.frame = s.frame + 1 := rfl
    simp only [hframe, decide_eq_true_eq]
    omega
  have hreset (entry : Nat) (resources : ThreadResources)
      (hobject : (frameResources.current.lockAll (·.reset)).object? entry = some resources) :
      Taken 0 resources := by
    rw [ThreadMap.object?_lockAll] at hobject
    obtain ⟨old, -, rfl⟩ := Option.map_eq_some_iff.mp hobject
    exact taken_reset old
  have howns (k : Fin maxFramesInFlight) : ∀ entry thread,
      (s.frameResources.storage k).Owns entry thread →
        (s.nextFrame.frameResources.storage k).Owns entry thread := by
    refine FrameArray.forall_setCurrent (f := frameResources) (P := fun k map => ∀ entry thread,
      (s.frameResources.storage k).Owns entry thread → map.Owns entry thread) ?_
      (fun _ _ _ howns => howns) k
    intro entry thread howns
    exact ThreadMap.owns_lockAll.mpr howns
  refine
    { slot := ?_
      serves := FrameArray.forall_setCurrent ((h.serves _).lockAll _) h.serves
      owner := fun handout hmem => ⟨(h.owner handout hmem).1, howns _ _ _ (h.owner handout hmem).2⟩
      frame_le := fun handout hmem => Nat.le_succ_of_le (h.frame_le handout hmem)
      used := ?_
      taken := ?_
      index_lt := ?_
      once := h.once
      initial := h.initial }
  · show (s.frameResources.frameNumber + 1).val = (s.frame + 1) % maxFramesInFlight
    rw [Fin.val_add, h.slot]
    exact (Nat.mod_add_mod s.frame maxFramesInFlight 1)
  · exact FrameArray.forall_setCurrent (P := fun _ (map : ThreadMap ThreadResources) =>
      ∀ entry resources, map.object? entry = some resources →
        resources.numUsedCommandBuffers.toNat ≤ resources.commandBuffers.length)
      (fun entry resources hobject => (hreset entry resources hobject).used_le) h.used
  · intro entry resources hobject
    rw [hnone]
    refine hreset entry resources ?_
    rwa [State.nextFrame, FrameArray.current_setCurrent] at hobject
  · intro handout hmem hframe
    have hle := h.frame_le handout hmem
    have hframe : handout.frame = s.frame + 1 := hframe
    omega

/-! ### Getting a command buffer -/

section GetCommandBuffer

variable {thread entry : Nat} {map : ThreadMap ThreadResources} {resources : ThreadResources}

theorem Serves.setObject (h : Serves numThreads threads map) (entry : Nat)
    (resources : ThreadResources) : Serves numThreads threads (map.setObject entry resources) where
  wellFormed := h.wellFormed.setObject
  length := by
    rw [← h.length]
    exact List.length_modify _ _ _
  claimed thread hmem := h.claimed thread (by rwa [ThreadMap.claimed_setObject] at hmem)

/-- The state after a command buffer of an entry has been handed out to the thread. -/
def State.handOut (s : State) (thread entry : Nat) (map : ThreadMap ThreadResources)
    (resources : ThreadResources) : State :=
  { s with
    frameResources := s.frameResources.setCurrent (map.setObject entry resources)
    handouts := s.handouts ++
      [⟨thread, ⟨s.frameResources.frameNumber, entry, s.taken entry⟩, .initial, s.frame⟩] }

theorem taken_handOut (other : Nat) : (s.handOut thread entry map resources).taken other =
    s.taken other + if other = entry then 1 else 0 := by
  unfold State.taken State.handOut
  rw [List.countP_append, List.countP_singleton]
  simp [eq_comm]

/-- What a thread gets of its entry in the current frame is what it has taken. -/
theorem Inv.taken_lt (h : Inv numThreads threads s) (hfew : TakesFew s (.getCommandBuffer thread))
    {new : List Nat} (hclaimed : map.claimed = s.frameResources.current.claimed ++ new)
    (howns : map.Owns entry thread) : s.taken entry < 2 ^ 32 := by
  refine Nat.lt_of_le_of_lt (List.countP_mono_left fun handout hmem hhandout => ?_) hfew
  obtain ⟨hframe, hentry⟩ := of_decide_eq_true hhandout
  refine decide_eq_true ⟨hframe, ?_⟩
  obtain ⟨hslot, howner⟩ := h.owner handout hmem
  rw [hframe, ← h.slot] at hslot
  rw [Fin.ext hslot, hentry] at howner
  exact (howner.of_append hclaimed).eq howns

theorem Inv.handOut (h : Inv numThreads threads s) (hserves : Serves numThreads threads map)
    (hobject : map.object? = s.frameResources.current.object?) {new : List Nat}
    (hclaimed : map.claimed = s.frameResources.current.claimed ++ new)
    (howns : map.Owns entry thread) (htaken : Taken (s.taken entry + 1) resources) :
    Inv numThreads threads (s.handOut thread entry map resources) := by
  have hlt : entry < map.entries.length := howns.lt
  have hkeep (k : Fin maxFramesInFlight) : ∀ i other,
      (s.frameResources.storage k).Owns i other →
        ((s.handOut thread entry map resources).frameResources.storage k).Owns i other := by
    refine FrameArray.forall_setCurrent (P := fun k (map : ThreadMap ThreadResources) => ∀ i other,
      (s.frameResources.storage k).Owns i other → map.Owns i other) ?_ (fun _ _ _ howns => howns) k
    intro i other hi
    exact ThreadMap.owns_setObject.mpr (hi.of_append hclaimed)
  have hobjects (i : Nat) (found : ThreadResources)
      (hfound : (map.setObject entry resources).object? i = some found) :
      Taken ((s.handOut thread entry map resources).taken i) found := by
    rw [taken_handOut]
    by_cases hi : i = entry
    · subst hi
      rw [ThreadMap.object?_setObject_self hlt, Option.some.injEq] at hfound
      rw [if_pos rfl, ← hfound]
      exact htaken
    · rw [ThreadMap.object?_setObject_of_ne hi, hobject] at hfound
      rw [if_neg hi]
      exact h.taken i found hfound
  refine
    { slot := h.slot
      serves := FrameArray.forall_setCurrent (hserves.setObject entry resources) h.serves
      owner := fun handout hmem => ?_
      frame_le := fun handout hmem => ?_
      used := FrameArray.forall_setCurrent (P := fun _ (map : ThreadMap ThreadResources) =>
        ∀ entry resources, map.object? entry = some resources →
          resources.numUsedCommandBuffers.toNat ≤ resources.commandBuffers.length)
        (fun i found hfound => (hobjects i found hfound).used_le) h.used
      taken := fun i found hfound => ?_
      index_lt := fun handout hmem hframe => ?_
      once := ?_
      initial := fun handout hmem => ?_ }
  · rcases List.mem_append.mp hmem with hold | hnew
    · exact ⟨(h.owner handout hold).1, hkeep _ _ _ (h.owner handout hold).2⟩
    · rw [List.mem_singleton.mp hnew]
      refine ⟨h.slot, ?_⟩
      show ((s.frameResources.setCurrent _).current).Owns entry thread
      rw [FrameArray.current_setCurrent]
      exact ThreadMap.owns_setObject.mpr howns
  · rcases List.mem_append.mp hmem with hold | hnew
    · exact h.frame_le handout hold
    · rw [List.mem_singleton.mp hnew]
      exact Nat.le_refl s.frame
  · refine hobjects i found ?_
    rwa [State.handOut, FrameArray.current_setCurrent] at hfound
  · rw [taken_handOut]
    rcases List.mem_append.mp hmem with hold | hnew
    · exact Nat.lt_add_right _ (h.index_lt handout hold hframe)
    · rw [List.mem_singleton.mp hnew, if_pos rfl]
      exact Nat.lt_succ_self _
  · show (List.map _ (s.handouts ++ [_])).Nodup
    rw [List.map_append]
    refine h.once.append (List.nodup_singleton _) (List.disjoint_singleton.mpr fun hmem => ?_)
    obtain ⟨handout, hhandout, heq⟩ := List.mem_map.mp hmem
    obtain ⟨hframe, hreference⟩ := Prod.ext_iff.mp heq
    have hindex := h.index_lt handout hhandout hframe
    dsimp only at hreference
    rw [hreference] at hindex
    exact Nat.lt_irrefl _ hindex
  · rcases List.mem_append.mp hmem with hold | hnew
    · exact h.initial handout hold
    · rw [List.mem_singleton.mp hnew]

/-- The call finds an entry and a command buffer. -/
theorem Inv.getCommandBuffer (h : Inv numThreads threads s) (hlength : threads.length ≤ numThreads)
    (hthread : thread ∈ threads) (hfew : TakesFew s (.getCommandBuffer thread)) :
    ∃ t, s.getCommandBuffer thread = some t ∧ Inv numThreads threads t := by
  obtain ⟨hwellFormed, hentries, hthreads⟩ := h.serves s.frameResources.frameNumber
  obtain ⟨entry, map, hcurrent, hmap, hlen, hobject, ⟨new, hclaimed, hnew⟩, howns⟩ :=
    ThreadMap.getCurrentObject_spec hwellFormed (hentries ▸ hlength) hthreads hthread
  have hserves : Serves numThreads threads map := by
    refine ⟨hmap, hlen.trans hentries, fun other hother => ?_⟩
    rw [hclaimed] at hother
    rcases List.mem_append.mp hother with hother | hother
    · exact hthreads other hother
    · rw [hnew other hother]
      exact hthread
  obtain ⟨old, hfound⟩ : ∃ old, map.object? entry = some old := by
    rw [ThreadMap.object?, List.getElem?_eq_getElem howns.lt]
    exact ⟨_, rfl⟩
  have htaken := h.taken entry _ ((congrFun hobject entry).symm.trans hfound)
  obtain ⟨resources, hget, hnext⟩ := htaken.getCommandBuffer (h.taken_lt hfew hclaimed howns)
  refine ⟨_, ?_, h.handOut hserves hobject hclaimed howns hnext⟩
  unfold State.getCommandBuffer
  rw [show s.frameResources.current.getCurrentObject thread = some (entry, map) from hcurrent,
    Option.bind_some]
  dsimp only
  rw [hfound, Option.bind_some, hget]
  rfl

end GetCommandBuffer

/-! ### Runs -/

theorem Inv.exec (h : Inv numThreads threads s) (hlength : threads.length ≤ numThreads)
    {calls : List Call} (hthreads : ∀ thread, .getCommandBuffer thread ∈ calls → thread ∈ threads)
    (hfew : Each step TakesFew s calls) :
    ∃ t, exec step s calls = some t ∧ Inv numThreads threads t := by
  induction calls generalizing s with
  | nil => exact ⟨s, rfl, h⟩
  | cons call calls ih =>
    obtain ⟨t, ht, hinv⟩ : ∃ t, s.step call = some t ∧ Inv numThreads threads t := by
      cases call with
      | getCommandBuffer thread =>
        exact h.getCommandBuffer hlength (hthreads thread List.mem_cons_self) hfew.1
      | nextFrame => exact ⟨_, rfl, h.nextFrame⟩
    obtain ⟨u, hu, hlast⟩ := ih hinv (fun thread hmem => hthreads thread (List.mem_cons_of_mem _ hmem))
      ((each_cons ht).mp hfew).2
    exact ⟨u, exec_cons_eq_some.mpr ⟨t, ht, hu⟩, hlast⟩

/-- In every run with at most `numThreads` threads, none of which takes more than 2 ^ 32 command buffers
in a frame, no call throws and no command buffer is handed out twice in a frame. -/
theorem commandBuffers_unique (mainThread : Nat) (threads : List Nat) {calls : List Call}
    (hlength : threads.length ≤ numThreads)
    (hthreads : ∀ thread, .getCommandBuffer thread ∈ calls → thread ∈ threads)
    (hfew : Each step TakesFew (create numThreads mainThread) calls) :
    ∃ s, exec step (create numThreads mainThread) calls = some s ∧ HandedOutOnce s := by
  obtain ⟨s, hs, hinv⟩ := (inv_create mainThread).exec hlength hthreads hfew
  exact ⟨s, hs, hinv.handedOutOnce⟩

/-- What a call hands out, in any state. -/
theorem getCommandBuffer_cases {thread : Nat} (h : s.getCommandBuffer thread = some t) :
    ∃ handout map, t = { s with
        frameResources := s.frameResources.setCurrent map
        handouts := s.handouts ++ [handout] } ∧
      map.entries.length = s.frameResources.current.entries.length ∧
        handout.frame = s.frame ∧ handout.reference.index < 2 ^ 32 := by
  obtain ⟨⟨entry, map⟩, hcurrent, h⟩ := Option.bind_eq_some_iff.mp h
  obtain ⟨resources, -, h⟩ := Option.bind_eq_some_iff.mp h
  obtain ⟨⟨index, state, resources'⟩, hget, rfl⟩ := Option.map_eq_some_iff.mp h
  obtain ⟨_, -, heq⟩ := Option.map_eq_some_iff.mp hget
  obtain ⟨rfl, -⟩ := Prod.ext_iff.mp heq
  refine ⟨_, _, rfl, ?_, rfl, UInt32.toNat_lt _⟩
  exact (List.length_modify _ _ _).trans (ThreadMap.length_getCurrentObject hcurrent)

/-- Runs with no more than 2 ^ 32 calls. -/
theorem takesFew_of_length {calls : List Call} (h : s.handouts.length + calls.length ≤ 2 ^ 32) :
    Each step TakesFew s calls := by
  induction calls generalizing s with
  | nil => trivial
  | cons call calls ih =>
    rw [List.length_cons] at h
    cases call with
    | nextFrame => exact ⟨trivial, ih (by show s.handouts.length + _ ≤ _; omega)⟩
    | getCommandBuffer thread =>
      refine ⟨Nat.lt_of_le_of_lt List.countP_le_length (by omega), ?_⟩
      cases hstep : s.step (.getCommandBuffer thread) with
      | none => trivial
      | some t =>
        obtain ⟨_, _, rfl, -⟩ := getCommandBuffer_cases hstep
        refine ih ?_
        rw [List.length_append, List.length_singleton]
        omega

/-- The main thread and another one. -/
theorem commandBuffers_unique_mainThread :
    ∃ s, exec step (create 2 5) [.getCommandBuffer 7, .getCommandBuffer 5, .getCommandBuffer 7,
        .nextFrame, .getCommandBuffer 5, .nextFrame, .getCommandBuffer 7] = some s ∧
      HandedOutOnce s := by
  refine commandBuffers_unique 5 [5, 7] (Nat.le_refl 2) (by simp) ?_
  exact takesFew_of_length (by decide)

/-! ### More than 2 ^ 32 command buffers -/

/-- Calls of one thread within a frame. -/
theorem exec_getCommandBuffers {thread n : Nat}
    (h : exec step s (List.replicate n (.getCommandBuffer thread)) = some t) :
    t.frame = s.frame ∧ t.handouts.length = s.handouts.length + n ∧
      (∀ k, (t.frameResources.storage k).entries.length =
        (s.frameResources.storage k).entries.length) ∧
      ∀ handout ∈ t.handouts, handout ∈ s.handouts ∨
        handout.frame = s.frame ∧ handout.reference.index < 2 ^ 32 := by
  induction n generalizing s with
  | zero =>
    obtain rfl : s = t := Option.some.inj h
    exact ⟨rfl, rfl, fun _ => rfl, fun _ => .inl⟩
  | succ n ih =>
    rw [List.replicate_succ] at h
    obtain ⟨u, hu, ht⟩ := exec_cons_eq_some.mp h
    obtain ⟨new, map, rfl, hmap, hframe, hindex⟩ := getCommandBuffer_cases hu
    obtain ⟨hframe', hlength, hentries, hhandouts⟩ := ih ht
    refine ⟨hframe', ?_, fun k => (hentries k).trans ?_, fun handout hmem => ?_⟩
    · rw [hlength, List.length_append, List.length_singleton]
      omega
    · exact FrameArray.map_setCurrent
        (g := fun map : ThreadMap ThreadResources => map.entries.length) hmap k
    · rcases hhandouts handout hmem with hold | hnew
      · rcases List.mem_append.mp hold with hold | hnew
        · exact .inl hold
        · rw [List.mem_singleton.mp hnew]
          exact .inr ⟨hframe, hindex⟩
      · exact .inr hnew

/-- There are only 2 ^ 32 counts to tell the command buffers of a frame apart. -/
theorem not_handedOutOnce_of_lt {n : Nat} (hn : 2 ^ 32 < n)
    (h : exec step (create 1 0) (List.replicate n (.getCommandBuffer 0)) = some s) :
    ¬ HandedOutOnce s := by
  intro honce
  obtain ⟨-, hlength, hentries, hhandouts⟩ := exec_getCommandBuffers h
  have hnew : ∀ handout ∈ s.handouts, handout.frame = 0 ∧ handout.reference.index < 2 ^ 32 :=
    fun handout hmem => (hhandouts handout hmem).resolve_left List.not_mem_nil
  have hplace : ∀ handout ∈ s.handouts,
      (handout.frame, handout.reference) = (0, ⟨0, 0, handout.reference.index⟩) := by
    intro handout hmem
    obtain ⟨hframe, -⟩ := hnew handout hmem
    obtain ⟨hslot, howns⟩ := honce.owner handout hmem
    have hentry := howns.lt
    rw [hentries] at hentry
    have hslot' : handout.reference.slot = 0 := by
      rw [hframe] at hslot
      exact Fin.ext hslot
    have hentry' : handout.reference.entry = 0 := Nat.lt_one_iff.mp hentry
    rw [hframe, ← hslot', ← hentry']
  have hnodup := honce.once
  rw [List.map_congr_left hplace] at hnodup
  have hindices : (s.handouts.map fun handout => handout.reference.index).Nodup := by
    refine List.Nodup.of_map (fun index => ((0 : Nat), (⟨0, 0, index⟩ : Reference))) ?_
    rw [List.map_map]
    exact hnodup
  have hrange : (s.handouts.map fun handout => handout.reference.index) ⊆ List.range (2 ^ 32) := by
    intro index hindex
    obtain ⟨handout, hmem, rfl⟩ := List.mem_map.mp hindex
    exact List.mem_range.mpr (hnew handout hmem).2
  have hle := (List.subperm_of_subset hindices hrange).length_le
  rw [List.length_map, List.length_range, hlength] at hle
  have hzero : (create 1 0).handouts.length = 0 := rfl
  omega

theorem not_commandBuffers_unique : ¬ ∀ (numThreads mainThread : Nat) (threads : List Nat)
    (calls : List Call), threads.length ≤ numThreads →
      (∀ thread, .getCommandBuffer thread ∈ calls → thread ∈ threads) →
        ∃ s, exec step (create numThreads mainThread) calls = some s ∧ HandedOutOnce s := by
  intro h
  obtain ⟨s, hs, honce⟩ := h 1 0 [0] (List.replicate (2 ^ 32 + 1) (.getCommandBuffer 0))
    (Nat.le_refl 1) fun thread hmem =>
      List.mem_singleton.mpr (Call.getCommandBuffer.inj (List.eq_of_mem_replicate hmem))
  exact not_handedOutOnce_of_lt (Nat.lt_succ_self _) hs honce

end Teide.CommandPools
