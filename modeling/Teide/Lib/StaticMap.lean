import Mathlib.Data.List.Nodup
import Mathlib.Tactic.Common

/-!
# Static maps

A map that is a list of its entries, and is searched from the front in both directions. Where no key
and no value occurs twice, the two directions are inverse to each other.
-/

namespace StaticMaps

/-- The entries, with keys and values that are all different. -/
structure StaticMap (K V : Type*) where
  data : List (K × V)
  keys_nodup : (data.map Prod.fst).Nodup
  values_nodup : (data.map Prod.snd).Nodup

variable {K V : Type*} [DecidableEq K] [DecidableEq V] {m : StaticMap K V} {key : K} {value : V}

namespace StaticMap

/-- `none` if the key is not found. -/
def at? (m : StaticMap K V) (key : K) : Option V :=
  (m.data.find? (·.1 = key)).map Prod.snd

def inverseAt? (m : StaticMap K V) (value : V) : Option K :=
  (m.data.find? (·.2 = value)).map Prod.fst

end StaticMap

/-- The first entry that is found is the only one. -/
theorem map_find?_eq_some_iff {α β γ : Type*} [DecidableEq β] {f : α → β} {g : α → γ} {l : List α}
    (hnodup : (l.map f).Nodup) {b : β} {c : γ} :
    (l.find? (f · = b)).map g = some c ↔ ∃ a ∈ l, f a = b ∧ g a = c := by
  rw [Option.map_eq_some_iff]
  constructor
  · rintro ⟨a, ha, rfl⟩
    exact ⟨a, List.mem_of_find?_eq_some ha, by simpa using List.find?_some ha, rfl⟩
  · rintro ⟨a, ha, rfl, rfl⟩
    cases hfind : l.find? (f · = f a) with
    | none => simpa using List.find?_eq_none.mp hfind a ha
    | some a' =>
      have hf : f a' = f a := by simpa using List.find?_some hfind
      exact ⟨a', rfl, congrArg g (List.inj_on_of_nodup_map hnodup (List.mem_of_find?_eq_some hfind)
        ha hf)⟩

omit [DecidableEq V] in
theorem at?_eq_some_iff : m.at? key = some value ↔ (key, value) ∈ m.data := by
  rw [StaticMap.at?, map_find?_eq_some_iff m.keys_nodup]
  constructor
  · rintro ⟨⟨k, v⟩, hmem, rfl, rfl⟩
    exact hmem
  · exact fun hmem => ⟨_, hmem, rfl, rfl⟩

theorem inverseAt?_eq_some_iff : m.inverseAt? value = some key ↔ m.at? key = some value := by
  rw [StaticMap.inverseAt?, map_find?_eq_some_iff m.values_nodup, at?_eq_some_iff]
  constructor
  · rintro ⟨⟨k, v⟩, hmem, rfl, rfl⟩
    exact hmem
  · exact fun hmem => ⟨_, hmem, rfl, rfl⟩

end StaticMaps
