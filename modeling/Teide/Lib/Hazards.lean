import Mathlib.Data.Finset.Insert
import Mathlib.Data.Finset.Lattice.Basic
import Mathlib.Data.List.Nodup
import Mathlib.Logic.Function.Basic
import Mathlib.Tactic.Common
import Teide.Lib.Runs

/-!
# Memory hazards

Resources are read and written by the stages of a pipeline, which only dependencies order. `Sync` is
what is known of a resource: the accesses since the last dependency, and what that dependency made the
resource ready for. A dependency waits for stages, which includes those before them in the order of
the pipeline, and makes what was written by some kinds of access visible to others. An operation is
`Ordered` if it cannot race with what came before it.

Operations on different resources do not interfere, so a run is free of hazards exactly if it is for each
resource by itself (`each_iff`).
-/

namespace Hazards

/-! ### Independent resources -/

section Resources

variable {ι σ α β : Type*} [DecidableEq ι] {apply : σ → α → σ} {Q : σ → α → Prop} {s : ι → σ}
  {ops ops' : List (ι × α)} {i : ι}

/-- An operation on one of the resources. -/
def stepAt (apply : σ → α → σ) (s : ι → σ) (op : ι × α) : Option (ι → σ) :=
  some (Function.update s op.1 (apply (s op.1) op.2))

def step (apply : σ → α → σ) (x : σ) (op : α) : Option σ := some (apply x op)

/-- The operations on a resource. -/
def opsAt (i : ι) (ops : List (ι × α)) : List α := (ops.filter (·.1 = i)).map Prod.snd

theorem opsAt_append : opsAt i (ops ++ ops') = opsAt i ops ++ opsAt i ops' := by
  rw [opsAt, List.filter_append, List.map_append, opsAt, opsAt]

/-- The operations of groups of groups. -/
theorem opsAt_flatMap_flatten {f : β → List (ι × α)} (groups : List (List β)) :
    opsAt i (groups.flatten.flatMap f) = (groups.map fun group => opsAt i (group.flatMap f)).flatten := by
  induction groups with
  | nil => rfl
  | cons group groups ih =>
    rw [List.flatten_cons, List.flatMap_append, opsAt_append, ih, List.map_cons, List.flatten_cons]

theorem opsAt_flatMap {f : β → List (ι × α)} (l : List β) :
    opsAt i (l.flatMap f) = l.flatMap fun b => opsAt i (f b) := by
  induction l with
  | nil => rfl
  | cons b l ih => rw [List.flatMap_cons, opsAt_append, ih, List.flatMap_cons]

theorem opsAt_cons_self {op : ι × α} : opsAt op.1 (op :: ops) = op.2 :: opsAt op.1 ops := by
  simp [opsAt]

theorem opsAt_cons_of_ne {op : ι × α} (h : op.1 ≠ i) : opsAt i (op :: ops) = opsAt i ops := by
  simp [opsAt, h]

theorem exec_step (x : σ) (ops : List α) : Runs.exec (step apply) x ops = some (ops.foldl apply x) := by
  induction ops generalizing x with
  | nil => rfl
  | cons op ops ih => exact ih (apply x op)

theorem each_iff : Runs.Each (stepAt apply) (fun s op => Q (s op.1) op.2) s ops ↔
    ∀ i, Runs.Each (step apply) Q (s i) (opsAt i ops) := by
  induction ops generalizing s with
  | nil => exact iff_of_true trivial fun _ => trivial
  | cons op ops ih =>
    rw [Runs.each_cons rfl, ih]
    constructor
    · rintro ⟨hop, hops⟩ i
      by_cases heq : op.1 = i
      · subst heq
        have hrest := hops op.1
        rw [Function.update_self] at hrest
        rw [opsAt_cons_self, Runs.each_cons rfl]
        exact ⟨hop, hrest⟩
      · have hrest := hops i
        rw [Function.update_of_ne (Ne.symm heq)] at hrest
        rw [opsAt_cons_of_ne heq]
        exact hrest
    · intro h
      have hself := h op.1
      rw [opsAt_cons_self, Runs.each_cons rfl] at hself
      refine ⟨hself.1, fun i => ?_⟩
      by_cases heq : op.1 = i
      · rw [← heq, Function.update_self]
        exact hself.2
      · have hrest := h i
        rw [opsAt_cons_of_ne heq] at hrest
        rw [Function.update_of_ne (Ne.symm heq)]
        exact hrest

section FlatMap

variable (key : β → ι) {f : β → List (ι × α)} {l : List β} (hf : ∀ b ∈ l, ∀ op ∈ f b, op.1 = key b)

include hf

theorem opsAt_flatMap_of_forall_ne (h : ∀ b ∈ l, key b ≠ i) : opsAt i (l.flatMap f) = [] := by
  rw [opsAt, List.map_eq_nil_iff, List.filter_eq_nil_iff]
  intro op hop
  obtain ⟨b, hb, hop⟩ := List.mem_flatMap.mp hop
  rw [hf b hb op hop]
  simpa using h b hb

/-- Only one of the groups of operations is for the resource. -/
theorem opsAt_flatMap_of_mem (hnodup : (l.map key).Nodup) {b : β} (hb : b ∈ l) :
    opsAt (key b) (l.flatMap f) = (f b).map Prod.snd := by
  induction l with
  | nil => exact absurd hb List.not_mem_nil
  | cons a l ih =>
    obtain ⟨hne, hnodup⟩ := List.nodup_cons.mp hnodup
    have hfl : ∀ b ∈ l, ∀ op ∈ f b, op.1 = key b := fun b hb => hf b (List.mem_cons_of_mem a hb)
    rw [List.flatMap_cons, opsAt_append]
    rcases List.mem_cons.mp hb with rfl | hb
    · have hhead : opsAt (key b) (f b) = (f b).map Prod.snd := by
        rw [opsAt, List.filter_eq_self.mpr fun op hop => decide_eq_true (hf b List.mem_cons_self op hop)]
      have htail : opsAt (key b) (l.flatMap f) = [] :=
        opsAt_flatMap_of_forall_ne key hfl fun c hc heq => hne (heq ▸ List.mem_map_of_mem hc)
      rw [hhead, htail, List.append_nil]
    · have hother : opsAt (key b) (f a) = [] := by
        have hsingle := opsAt_flatMap_of_forall_ne (l := [a]) (i := key b) key
          (fun c hc => hf c (List.mem_singleton.mp hc ▸ List.mem_cons_self)) ?_
        · rwa [List.flatMap_singleton] at hsingle
        · intro c hc heq
          rw [List.mem_singleton.mp hc] at heq
          exact hne (heq ▸ List.mem_map_of_mem hb)
      rw [hother, ih hfl hnodup hb, List.nil_append]

end FlatMap

end Resources

/-! ### Accesses and dependencies -/

/-- Kinds of access by stages of a pipeline. -/
structure Scope (Stage Access : Type*) where
  stages : Finset Stage := ∅
  access : Finset Access := ∅
  deriving DecidableEq

inductive Op (Stage Access : Type*) where
  | depend (src dst : Scope Stage Access)
  | read (scope : Scope Stage Access)
  | write (scope : Scope Stage Access)

structure Sync (Stage Access : Type*) where
  /-- the stages that have accessed the resource since the last dependency -/
  used : Finset Stage := ∅
  /-- the kinds of access that have written it since then -/
  written : Finset Access := ∅
  /-- what the last dependency has made it ready for -/
  ready : Scope Stage Access := {}
  deriving DecidableEq

variable {Stage Access : Type*} [DecidableEq Stage] [DecidableEq Access]

namespace Sync

def apply (s : Sync Stage Access) : Op Stage Access → Sync Stage Access
  | .depend _ dst => { ready := dst }
  | .read scope => { s with used := s.used ∪ scope.stages }
  | .write scope => { s with used := s.used ∪ scope.stages, written := s.written ∪ scope.access }

variable [LE Stage] [DecidableLE Stage]

/-- A dependency is one for accesses if it makes the resource ready for them. Stages after those that
wait for it wait as well. -/
def Ready (s : Sync Stage Access) (scope : Scope Stage Access) : Prop :=
  s.written = ∅ ∧ (∀ stage ∈ scope.stages, ∃ waiting ∈ s.ready.stages, waiting ≤ stage) ∧
    scope.access ⊆ s.ready.access

/-- A dependency waits for all accesses since the last one, and for that one. -/
def Ordered (s : Sync Stage Access) : Op Stage Access → Prop
  | .depend src _ =>
    (∀ stage ∈ s.used, ∃ last ∈ src.stages, stage ≤ last) ∧ s.written ⊆ src.access ∧
      (s.ready.stages = ∅ ∨ ∃ waiting ∈ s.ready.stages, ∃ last ∈ src.stages, waiting ≤ last)
  | .read scope => s.Ready scope
  | .write scope => s.used = ∅ ∧ s.Ready scope

instance (s : Sync Stage Access) (scope : Scope Stage Access) : Decidable (s.Ready scope) :=
  inferInstanceAs (Decidable (_ ∧ _ ∧ _))

instance (s : Sync Stage Access) : ∀ op : Op Stage Access, Decidable (s.Ordered op)
  | .depend .. => inferInstanceAs (Decidable (_ ∧ _ ∧ _))
  | .read scope => inferInstanceAs (Decidable (s.Ready scope))
  | .write _ => inferInstanceAs (Decidable (_ ∧ _))

end Sync

end Hazards
