import Mathlib.Data.List.Nodup
import Mathlib.Data.List.Perm.Basic
import Mathlib.Tactic.Common

/-!
# One object per thread

A `ThreadMap` has a fixed number of entries, each with the id of a thread and an object. The entries
are created with the id of the creating thread, but only the first `size` of them have been claimed:
`GetCurrentObject` looks for the calling thread among these and else claims the next one.
-/

namespace Teide

structure ThreadMap (τ : Type*) where
  size : Nat := 0
  entries : List (Nat × τ)

namespace ThreadMap

variable {τ : Type*}

/-- The constructor, called by the thread `thisThread`. -/
def create (threadCount thisThread : Nat) (object : τ) : ThreadMap τ :=
  { entries := List.replicate threadCount (thisThread, object) }

/-- The entry of the calling thread; `none` when it throws, which leaves the map as it was. -/
def getCurrentObject (map : ThreadMap τ) (thisThread : Nat) : Option (Nat × ThreadMap τ) :=
  let usedEntries := map.entries.take (min map.size map.entries.length)
  match usedEntries.findIdx? (·.1 = thisThread) with
  | some index => some (index, map)
  | none =>
    let index := map.size
    if index < map.entries.length then
      some (index, { size := map.size + 1, entries := map.entries.modify index ((thisThread, ·.2)) })
    else none

/-- Writing to an object. -/
def setObject (map : ThreadMap τ) (index : Nat) (object : τ) : ThreadMap τ :=
  { map with entries := map.entries.modify index ((·.1, object)) }

def lockAll (map : ThreadMap τ) (callable : τ → τ) : ThreadMap τ :=
  { map with entries := map.entries.map fun entry => (entry.1, callable entry.2) }

/-- `lockAll` with a function that may fail. -/
def lockEntries (callable : τ → Option τ) : List (Nat × τ) → Option (List (Nat × τ))
  | [] => some []
  | entry :: entries => do
    let object ← callable entry.2
    let entries ← lockEntries callable entries
    return (entry.1, object) :: entries

def lockAll? (map : ThreadMap τ) (callable : τ → Option τ) : Option (ThreadMap τ) :=
  (lockEntries callable map.entries).map fun entries => { map with entries := entries }

/-! ### Threads and their entries -/

def threads (map : ThreadMap τ) : List Nat := map.entries.map (·.1)

/-- The threads that have claimed an entry. -/
def claimed (map : ThreadMap τ) : List Nat := map.threads.take map.size

def object? (map : ThreadMap τ) (index : Nat) : Option τ := map.entries[index]?.map (·.2)

/-- The entry is the one that the thread has claimed. -/
def Owns (map : ThreadMap τ) (index thread : Nat) : Prop := map.claimed[index]? = some thread

/-- Every thread has claimed one entry at most. -/
structure WellFormed (map : ThreadMap τ) : Prop where
  size_le : map.size ≤ map.entries.length
  nodup : map.claimed.Nodup

section

variable {map : ThreadMap τ} {i j thread thread' : Nat} {object : τ} {f : τ → τ}

@[simp] theorem threads_setObject : (map.setObject i object).threads = map.threads := by
  unfold threads setObject
  apply List.ext_getElem?
  intro j
  rw [List.getElem?_map, List.getElem?_map, List.getElem?_modify, Option.map_eq_map, Option.map_map]
  congr 1
  funext entry
  dsimp only [Function.comp_apply]
  split <;> rfl

@[simp] theorem claimed_setObject : (map.setObject i object).claimed = map.claimed := by
  rw [claimed, threads_setObject]
  rfl

@[simp] theorem threads_lockAll : (map.lockAll f).threads = map.threads := by
  simp [threads, lockAll]

@[simp] theorem claimed_lockAll : (map.lockAll f).claimed = map.claimed := by
  rw [claimed, threads_lockAll]
  rfl

@[simp] theorem length_threads : map.threads.length = map.entries.length := List.length_map _

theorem object?_lockAll : (map.lockAll f).object? i = (map.object? i).map f := by
  unfold object? lockAll
  rw [List.getElem?_map, Option.map_map, Option.map_map]
  rfl

theorem object?_setObject_of_ne (h : j ≠ i) : (map.setObject i object).object? j = map.object? j := by
  unfold object? setObject
  dsimp only
  rw [List.getElem?_modify_ne _ _ h.symm]

theorem object?_setObject_self (h : i < map.entries.length) :
    (map.setObject i object).object? i = some object := by
  unfold object? setObject
  rw [List.getElem?_modify_eq, List.getElem?_eq_getElem h]
  rfl

theorem WellFormed.setObject (h : map.WellFormed) : (map.setObject i object).WellFormed where
  size_le := by
    show map.size ≤ (map.entries.modify _ _).length
    rw [List.length_modify]
    exact h.size_le
  nodup := by
    rw [claimed_setObject]
    exact h.nodup

theorem WellFormed.lockAll (h : map.WellFormed) : (map.lockAll f).WellFormed where
  size_le := by
    show map.size ≤ (map.entries.map _).length
    rw [List.length_map]
    exact h.size_le
  nodup := by
    rw [claimed_lockAll]
    exact h.nodup

/-- Two threads never own one entry. -/
theorem Owns.eq (h : map.Owns i thread) (h' : map.Owns i thread') : thread = thread' :=
  Option.some.inj (h.symm.trans h')

@[simp] theorem owns_setObject : (map.setObject j object).Owns i thread ↔ map.Owns i thread := by
  unfold Owns
  rw [claimed_setObject]

@[simp] theorem owns_lockAll : (map.lockAll f).Owns i thread ↔ map.Owns i thread := by
  unfold Owns
  rw [claimed_lockAll]

/-- Claims are for good. -/
theorem Owns.of_append {map' : ThreadMap τ} {new : List Nat} (h : map.Owns i thread)
    (hclaimed : map'.claimed = map.claimed ++ new) : map'.Owns i thread := by
  unfold Owns at h ⊢
  rw [hclaimed]
  exact (List.getElem?_append_left (List.getElem?_eq_some_iff.mp h).1).trans h

theorem Owns.lt (h : map.Owns i thread) : i < map.entries.length := by
  have hlt := (List.getElem?_eq_some_iff.mp h).1
  rw [claimed, List.length_take, length_threads] at hlt
  omega

end

/-! ### Claiming -/

theorem wellFormed_create (threadCount thisThread : Nat) (object : τ) :
    (create threadCount thisThread object).WellFormed where
  size_le := Nat.zero_le _
  nodup := List.nodup_nil

/-- A thread that has no entry claims the next one. -/
theorem claimed_claim {map : ThreadMap τ} (thread : Nat) (h : map.size < map.entries.length) :
    ThreadMap.claimed { size := map.size + 1, entries := map.entries.modify map.size ((thread, ·.2)) } =
      map.claimed ++ [thread] := by
  unfold claimed threads
  have hget : ((map.entries.modify map.size ((thread, ·.2))).map (·.1))[map.size]? = some thread := by
    rw [List.getElem?_map, List.getElem?_modify_eq, List.getElem?_eq_getElem h]
    rfl
  have htake : ((map.entries.modify map.size ((thread, ·.2))).map (·.1)).take map.size =
      (map.entries.map (·.1)).take map.size := by
    rw [← List.map_take, ← List.map_take, List.take_modify, List.modify_eq_self (List.length_take_le _ _)]
  rw [List.take_add_one, hget, htake]
  rfl

theorem object?_claim {map : ThreadMap τ} (thread : Nat) :
    ThreadMap.object? { size := map.size + 1, entries := map.entries.modify map.size ((thread, ·.2)) } =
      map.object? := by
  funext j
  unfold object?
  rw [List.getElem?_modify, Option.map_eq_map, Option.map_map]
  congr 1
  funext entry
  dsimp only [Function.comp_apply]
  split <;> rfl

theorem length_claimed {map : ThreadMap τ} (h : map.WellFormed) : map.claimed.length = map.size := by
  rw [claimed, List.length_take, length_threads]
  exact Nat.min_eq_left h.size_le

/-- There is an entry left for a thread that has none: the claimed entries and this thread are different
threads. -/
theorem size_lt_of_notMem {map : ThreadMap τ} {threads : List Nat} {thread : Nat}
    (h : map.WellFormed) (hlength : threads.length ≤ map.entries.length)
    (hclaimed : ∀ other ∈ map.claimed, other ∈ threads) (hthread : thread ∈ threads)
    (hnot : thread ∉ map.claimed) : map.size < map.entries.length := by
  have hsub : thread :: map.claimed ⊆ threads := by
    intro other hother
    rcases List.mem_cons.mp hother with rfl | hother
    · exact hthread
    · exact hclaimed other hother
  have hle := (List.subperm_of_subset (List.nodup_cons.mpr ⟨hnot, h.nodup⟩) hsub).length_le
  rw [List.length_cons, length_claimed h] at hle
  omega

theorem length_getCurrentObject {map map' : ThreadMap τ} {thread index : Nat}
    (h : map.getCurrentObject thread = some (index, map')) :
    map'.entries.length = map.entries.length := by
  unfold getCurrentObject at h
  dsimp only at h
  split at h
  · obtain ⟨-, rfl⟩ := Prod.ext_iff.mp (Option.some.inj h)
    rfl
  · obtain ⟨-, h⟩ := Option.ite_none_right_eq_some.mp h
    obtain ⟨-, rfl⟩ := Prod.ext_iff.mp (Option.some.inj h)
    exact List.length_modify _ _ _

/-- As long as there are no more threads than entries, every call finds an entry, which its thread then
owns. Objects and earlier claims stay. -/
theorem getCurrentObject_spec {map : ThreadMap τ} {threads : List Nat} {thread : Nat}
    (h : map.WellFormed) (hlength : threads.length ≤ map.entries.length)
    (hclaimed : ∀ other ∈ map.claimed, other ∈ threads) (hthread : thread ∈ threads) :
    ∃ index map', map.getCurrentObject thread = some (index, map') ∧ map'.WellFormed ∧
      map'.entries.length = map.entries.length ∧ map'.object? = map.object? ∧
        (∃ new, map'.claimed = map.claimed ++ new ∧ ∀ other ∈ new, other = thread) ∧
          map'.Owns index thread := by
  have hmin : min map.size map.entries.length = map.size := Nat.min_eq_left h.size_le
  unfold getCurrentObject
  dsimp only
  rw [hmin]
  cases hfind : (map.entries.take map.size).findIdx? (·.1 = thread) with
  | some index =>
    refine ⟨index, map, rfl, h, rfl, rfl, ⟨[], by simp, by simp⟩, ?_⟩
    obtain ⟨hlt, hindex, -⟩ := List.findIdx?_eq_some_iff_getElem.mp hfind
    have hfound : (map.entries.take map.size)[index].1 = thread := by simpa using hindex
    unfold Owns claimed ThreadMap.threads
    rw [← List.map_take, List.getElem?_map, List.getElem?_eq_getElem hlt, Option.map_some, hfound]
  | none =>
    have hnot : thread ∉ map.claimed := by
      unfold claimed ThreadMap.threads
      rw [← List.map_take]
      intro hmem
      obtain ⟨entry, hentry, rfl⟩ := List.mem_map.mp hmem
      simpa using List.findIdx?_eq_none_iff.mp hfind entry hentry
    have hsize := size_lt_of_notMem h hlength hclaimed hthread hnot
    have hclaim := claimed_claim thread hsize
    rw [if_pos hsize]
    refine ⟨_, _, rfl, ⟨?_, ?_⟩, List.length_modify _ _ _, object?_claim thread,
      ⟨_, hclaim, by simp⟩, ?_⟩
    · show map.size + 1 ≤ (map.entries.modify _ _).length
      rw [List.length_modify]
      exact hsize
    · rw [hclaim]
      exact h.nodup.append (List.nodup_singleton thread) (List.disjoint_singleton.mpr hnot)
    · unfold Owns
      rw [hclaim, ← length_claimed h, List.getElem?_concat_length]

/-! ### A map for the threads that use it -/

/-- The map has an entry for each of the threads, and no other thread has claimed one. -/
structure ClaimedBy (map : ThreadMap τ) (threads : List Nat) : Prop where
  wellFormed : map.WellFormed
  length : threads.length ≤ map.entries.length
  claimed : ∀ thread ∈ map.claimed, thread ∈ threads

section

variable {map : ThreadMap τ} {threads : List Nat} {thread index : Nat} {object : τ}
  {callable : τ → Option τ} {f : τ → τ} {P : τ → Prop}

theorem claimedBy_create {threadCount : Nat} (thisThread : Nat) (object : τ)
    (h : threads.length ≤ threadCount) : (create threadCount thisThread object).ClaimedBy threads where
  wellFormed := wellFormed_create _ _ _
  length := by
    show _ ≤ (List.replicate threadCount (thisThread, object)).length
    rwa [List.length_replicate]
  claimed _ hmem := absurd hmem List.not_mem_nil

theorem ClaimedBy.lockAll (h : map.ClaimedBy threads) (f : τ → τ) :
    (map.lockAll f).ClaimedBy threads where
  wellFormed := h.wellFormed.lockAll
  length := by
    show _ ≤ (map.entries.map _).length
    rw [List.length_map]
    exact h.length
  claimed thread hmem := h.claimed thread (by rwa [claimed_lockAll] at hmem)

theorem ClaimedBy.setObject (h : map.ClaimedBy threads) (index : Nat) (object : τ) :
    (map.setObject index object).ClaimedBy threads where
  wellFormed := h.wellFormed.setObject
  length := by
    show _ ≤ (map.entries.modify _ _).length
    rw [List.length_modify]
    exact h.length
  claimed thread hmem := h.claimed thread (by rwa [claimed_setObject] at hmem)

/-- Each of the threads finds an object, and the others stay. -/
theorem ClaimedBy.getCurrentObject (h : map.ClaimedBy threads) (hthread : thread ∈ threads) :
    ∃ index map' object, map.getCurrentObject thread = some (index, map') ∧
      map'.ClaimedBy threads ∧ map'.object? = map.object? ∧ index < map'.entries.length ∧
        map'.object? index = some object := by
  obtain ⟨index, map', hget, hwellFormed, hlength, hobject, ⟨new, hclaimed, hnew⟩, howns⟩ :=
    getCurrentObject_spec h.wellFormed h.length h.claimed hthread
  have hlt : index < map'.entries.length := howns.lt
  refine ⟨index, map', map'.entries[index].2, hget, ⟨hwellFormed, hlength ▸ h.length, ?_⟩, hobject,
    hlt, ?_⟩
  · intro other hother
    rw [hclaimed] at hother
    rcases List.mem_append.mp hother with hother | hother
    · exact h.claimed other hother
    · exact hnew other hother ▸ hthread
  · rw [object?, List.getElem?_eq_getElem hlt, Option.map_some]

/-! ### What holds of all objects -/

theorem forall_object?_create {threadCount thisThread : Nat} (h : P object) :
    ∀ index found, (create threadCount thisThread object).object? index = some found → P found := by
  intro index found hfound
  obtain ⟨entry, hentry, rfl⟩ := Option.map_eq_some_iff.mp hfound
  rw [List.eq_of_mem_replicate (List.mem_of_getElem? hentry)]
  exact h

theorem forall_object?_lockAll (h : ∀ index found, map.object? index = some found → P (f found)) :
    ∀ index found, (map.lockAll f).object? index = some found → P found := by
  intro index found hfound
  rw [object?_lockAll] at hfound
  obtain ⟨old, hold, rfl⟩ := Option.map_eq_some_iff.mp hfound
  exact h index old hold

theorem forall_object?_setObject (hlt : index < map.entries.length) (hobject : P object)
    (h : ∀ index found, map.object? index = some found → P found) :
    ∀ i found, (map.setObject index object).object? i = some found → P found := by
  intro i found hfound
  by_cases hi : i = index
  · rw [hi, object?_setObject_self hlt] at hfound
    exact Option.some.inj hfound ▸ hobject
  · rw [object?_setObject_of_ne hi] at hfound
    exact h i found hfound

/-- A function that succeeds on all objects. -/
theorem lockAll?_eq (h : ∀ index found, map.object? index = some found →
    callable found = some (f found)) : map.lockAll? callable = some (map.lockAll f) := by
  have hentries : ∀ entries : List (Nat × τ), (∀ entry ∈ entries, callable entry.2 = some (f entry.2)) →
      lockEntries callable entries = some (entries.map fun entry => (entry.1, f entry.2)) := by
    intro entries hentries
    induction entries with
    | nil => rfl
    | cons entry entries ih =>
      have hrest := ih fun other hother => hentries other (List.mem_cons_of_mem _ hother)
      rw [lockEntries, hentries entry List.mem_cons_self, hrest]
      rfl
  unfold lockAll?
  rw [hentries map.entries]
  · rfl
  · intro entry hentry
    obtain ⟨index, hindex⟩ := List.mem_iff_getElem?.mp hentry
    exact h index entry.2 (by rw [object?, hindex, Option.map_some])

end

end ThreadMap

end Teide
