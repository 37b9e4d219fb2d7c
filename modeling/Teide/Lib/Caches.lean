import Mathlib.Logic.Function.Basic
import Mathlib.Tactic.Common

/-!
# Caches that insert before they create

A lookup inserts an empty entry for a new key first and creates the value then. When the creation
fails, the exception leaves the empty entry behind, and later lookups of the key find it. So a lookup
does what it should exactly for the keys whose creation has not failed before.
-/

namespace Caches

variable {κ ν : Type*}

structure Cache (κ ν : Type*) where
  /-- an entry is `some none` as long as nothing has been created for it -/
  entries : κ → Option (Option ν) := fun _ => none
  /-- the keys whose creation has failed, which is not attempted again -/
  failed : List κ := []

/-- What a lookup does: whether it has tried to create a value, and what it returns if it does not
throw. -/
structure Outcome (ν : Type*) where
  attempted : Bool
  returned : Option (Option ν)

section Lookup

variable [DecidableEq κ]

/-- A lookup, where `created` is what the creation gives, if it is attempted. -/
def Cache.lookup (cache : Cache κ ν) (key : κ) (created : Option ν) : Outcome ν × Cache κ ν :=
  match cache.entries key with
  | some value => (⟨false, some value⟩, cache)
  | none =>
    match created with
    | some value => (⟨true, some (some value)⟩,
        { cache with entries := Function.update cache.entries key (some (some value)) })
    | none => (⟨true, none⟩,
        { entries := Function.update cache.entries key (some none)
          failed := key :: cache.failed })

end Lookup

/-- The lookup does not return an empty value, and attempts the creation if it has failed before. -/
def Cache.Recovers (cache : Cache κ ν) (key : κ) (outcome : Outcome ν) : Prop :=
  outcome.returned ≠ some none ∧ (key ∈ cache.failed → outcome.attempted = true)

/-- The entries of the keys whose creation has failed are empty, and no others. -/
def Cache.Inv (cache : Cache κ ν) : Prop :=
  ∀ key, cache.entries key = some none ↔ key ∈ cache.failed

theorem inv_empty : Cache.Inv ({} : Cache κ ν) := by
  intro key
  exact iff_of_false (by simp) List.not_mem_nil

variable [DecidableEq κ] {cache : Cache κ ν} {key : κ} {created : Option ν}

theorem Cache.Inv.lookup (h : cache.Inv) : (cache.lookup key created).2.Inv := by
  unfold Cache.lookup
  cases hentry : cache.entries key with
  | some value => exact h
  | none =>
    have hfresh : key ∉ cache.failed := by
      rw [← h, hentry]
      simp
    intro other
    by_cases hother : other = key
    · subst hother
      cases created with
      | some value => exact iff_of_false (by simp) hfresh
      | none => exact iff_of_true (by simp) List.mem_cons_self
    · cases created with
      | some value =>
        dsimp only
        rw [Function.update_of_ne hother]
        exact h other
      | none =>
        dsimp only
        rw [Function.update_of_ne hother, List.mem_cons, or_iff_right hother]
        exact h other

/-- A lookup recovers exactly for the keys that have nothing to recover from. -/
theorem Cache.Inv.recovers_iff (h : cache.Inv) (key : κ) (created : Option ν) :
    cache.Recovers key (cache.lookup key created).1 ↔ key ∉ cache.failed := by
  unfold Cache.Recovers Cache.lookup
  constructor
  · rintro ⟨hreturned, -⟩ hfailed
    rw [(h key).mpr hfailed] at hreturned
    exact hreturned rfl
  · intro hfresh
    refine ⟨?_, fun hfailed => absurd hfailed hfresh⟩
    cases hentry : cache.entries key with
    | some value =>
      intro hreturned
      obtain rfl : value = none := Option.some.inj hreturned
      exact hfresh ((h key).mp hentry)
    | none =>
      cases created with
      | some value => exact nofun
      | none => exact nofun

end Caches
