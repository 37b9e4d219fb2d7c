import Mathlib.Tactic.Common

/-!
# Runs of a partial step function

A system is given by `step : σ → α → Option σ`: from a state, an action either leads to one next
state or is not enabled. `exec step s as` runs a list of actions, and `Reachable step init` are the
states runs end in. Two ways of speaking about a whole run, both decidable on a concrete one:

* `Each step Q s as`: every action taken satisfies `Q` together with the state it is taken in;
* `Always step P s as`: every state the run passes through, the first and the last one included,
  satisfies `P`.

Invariants come in three strengths: kept by every step (`exec_invariant`), kept by the steps that
meet a condition (`each_of_invariant`), and the exact form `always_iff_each`: if a step keeps `P`
exactly when it meets the condition, then a run is `P` throughout exactly when all of its steps
meet it. Where `P`, once violated, stays so, the end of the run tells (`always_iff_last`).
-/

namespace Runs

variable {σ α : Type*} (step : σ → α → Option σ)

/-- The state a run ends in, if every action of the list is enabled when its turn comes. -/
def exec : σ → List α → Option σ
  | s, [] => some s
  | s, a :: as => (step s a).bind fun t => exec t as

/-- The states runs from `init` end in. -/
def Reachable (init s : σ) : Prop := ∃ as, exec step init as = some s

/-- Every action taken satisfies `Q` in the state it is taken in. -/
def Each (Q : σ → α → Prop) : σ → List α → Prop
  | _, [] => True
  | s, a :: as => Q s a ∧ match step s a with
    | some t => Each Q t as
    | none => True

/-- Every state on the way satisfies `P`. -/
def Always (P : σ → Prop) : σ → List α → Prop
  | s, [] => P s
  | s, a :: as => P s ∧ match step s a with
    | some t => Always P t as
    | none => True

instance decidableEach (Q : σ → α → Prop) [∀ s a, Decidable (Q s a)] :
    ∀ s as, Decidable (Each step Q s as)
  | _, [] => .isTrue trivial
  | s, a :: as =>
    have : Decidable (match step s a with
        | some t => Each step Q t as
        | none => True) :=
      match step s a with
      | some t => decidableEach Q t as
      | none => .isTrue trivial
    inferInstanceAs (Decidable (_ ∧ _))

instance decidableAlways (P : σ → Prop) [∀ s, Decidable (P s)] :
    ∀ (s : σ) (as : List α), Decidable (Always step P s as)
  | s, [] => inferInstanceAs (Decidable (P s))
  | s, a :: as =>
    have : Decidable (match step s a with
        | some t => Always step P t as
        | none => True) :=
      match step s a with
      | some t => decidableAlways P t as
      | none => .isTrue trivial
    inferInstanceAs (Decidable (_ ∧ _))

variable {step} {P I : σ → Prop} {Q C : σ → α → Prop} {s t u : σ} {a : α} {as bs : List α}

theorem exec_append : exec step s (as ++ bs) = (exec step s as).bind fun t => exec step t bs := by
  induction as generalizing s with
  | nil => rfl
  | cons a as ih =>
    rw [List.cons_append, exec, exec, Option.bind_assoc]
    exact congrArg _ (funext fun t => ih)

@[simp] theorem exec_nil : exec step s [] = some s := rfl

theorem exec_cons : exec step s (a :: as) = (step s a).bind fun t => exec step t as := rfl

theorem exec_cons_eq_some :
    exec step s (a :: as) = some u ↔ ∃ t, step s a = some t ∧ exec step t as = some u := by
  rw [exec_cons, Option.bind_eq_some_iff]

theorem each_cons (h : step s a = some t) :
    Each step Q s (a :: as) ↔ Q s a ∧ Each step Q t as := by
  simp only [Each, h]

theorem always_cons (h : step s a = some t) :
    Always step P s (a :: as) ↔ P s ∧ Always step P t as := by
  simp only [Always, h]

theorem Always.head (h : Always step P s as) : P s := by
  cases as with
  | nil => exact h
  | cons a as => exact h.1

theorem Always.last (hP : Always step P s as) (h : exec step s as = some u) : P u := by
  induction as generalizing s with
  | nil => exact Option.some.inj h ▸ hP
  | cons a as ih =>
    obtain ⟨t, ht, hu⟩ := exec_cons_eq_some.mp h
    exact ih ((always_cons ht).mp hP).2 hu

theorem Each.and (hQ : Each step Q s as) (hC : Each step C s as) :
    Each step (fun s a => Q s a ∧ C s a) s as := by
  induction as generalizing s with
  | nil => trivial
  | cons a as ih =>
    obtain ⟨hq, hQ⟩ := hQ
    obtain ⟨hc, hC⟩ := hC
    refine ⟨⟨hq, hc⟩, ?_⟩
    cases hstep : step s a with
    | none => trivial
    | some t =>
      rw [hstep] at hQ hC
      exact ih hQ hC

/-! ### Invariants -/

/-- A step-invariant holds at the end of every run. -/
theorem exec_invariant (hstep : ∀ s a t, I s → step s a = some t → I t) (hs : I s)
    (h : exec step s as = some u) : I u := by
  induction as generalizing s with
  | nil => exact Option.some.inj h ▸ hs
  | cons a as ih =>
    obtain ⟨t, ht, hu⟩ := exec_cons_eq_some.mp h
    exact ih (hstep s a t hs ht) hu

theorem Reachable.invariant {init : σ} (h : Reachable step init s)
    (hstep : ∀ s a t, I s → step s a = some t → I t) (hinit : I init) : I s := by
  obtain ⟨as, has⟩ := h
  exact exec_invariant hstep hinit has

theorem Reachable.tail {init : σ} (h : Reachable step init s) (ht : step s a = some t) :
    Reachable step init t := by
  obtain ⟨as, has⟩ := h
  refine ⟨as ++ [a], ?_⟩
  rw [exec_append, has, Option.bind_some, exec_cons, ht]
  rfl

/-- An invariant kept by the steps that meet `C` holds at the end of every run whose steps all
meet `C`. -/
theorem exec_invariant_of_each (hstep : ∀ s a t, I s → C s a → step s a = some t → I t)
    (hs : I s) (hC : Each step C s as) (h : exec step s as = some u) : I u := by
  induction as generalizing s with
  | nil => exact Option.some.inj h ▸ hs
  | cons a as ih =>
    obtain ⟨t, ht, hu⟩ := exec_cons_eq_some.mp h
    obtain ⟨hc, hrest⟩ := (each_cons ht).mp hC
    exact ih (hstep s a t hs hc ht) hrest hu

/-- ... and throughout. -/
theorem always_of_each (hstep : ∀ s a t, I s → C s a → step s a = some t → I t)
    (hP : ∀ s, I s → P s) (hs : I s) (hC : Each step C s as) (h : exec step s as = some u) :
    Always step P s as := by
  induction as generalizing s with
  | nil => exact hP s hs
  | cons a as ih =>
    obtain ⟨t, ht, hu⟩ := exec_cons_eq_some.mp h
    obtain ⟨hc, hrest⟩ := (each_cons ht).mp hC
    exact (always_cons ht).mpr ⟨hP s hs, ih (hstep s a t hs hc ht) hrest hu⟩

/-- An invariant kept by the steps from states with `P` holds, with `P`, at the end of a run that
satisfies `P` throughout. -/
theorem exec_invariant_of_always (hstep : ∀ s a t, I s → P s → step s a = some t → I t)
    (hs : I s) (hP : Always step P s as) (h : exec step s as = some u) : I u ∧ P u := by
  induction as generalizing s with
  | nil => exact Option.some.inj h ▸ ⟨hs, hP⟩
  | cons a as ih =>
    obtain ⟨t, ht, hu⟩ := exec_cons_eq_some.mp h
    obtain ⟨hp, hrest⟩ := (always_cons ht).mp hP
    exact ih (hstep s a t hs hp ht) hrest hu

/-- What an invariant that `C` keeps says about a step holds of every step of a run whose steps
all meet `C`. -/
theorem each_of_invariant (hstep : ∀ s a t, I s → C s a → step s a = some t → I t)
    (hQ : ∀ s a t, I s → C s a → step s a = some t → Q s a)
    (hs : I s) (hC : Each step C s as) (h : exec step s as = some u) : Each step Q s as := by
  induction as generalizing s with
  | nil => trivial
  | cons a as ih =>
    obtain ⟨t, ht, hu⟩ := exec_cons_eq_some.mp h
    obtain ⟨hc, hrest⟩ := (each_cons ht).mp hC
    exact (each_cons ht).mpr ⟨hQ s a t hs hc ht, ih (hstep s a t hs hc ht) hrest hu⟩

/-- If under an invariant a step does `Q` exactly when it meets `C`, then so do all steps of a run. -/
theorem each_iff_each (hI : ∀ s a t, I s → step s a = some t → I t)
    (hQ : ∀ s a t, I s → step s a = some t → (Q s a ↔ C s a))
    (hs : I s) (h : exec step s as = some u) : Each step Q s as ↔ Each step C s as := by
  constructor
  · intro hq
    exact each_of_invariant (fun s a t hs _ => hI s a t hs)
      (fun s a t hs hq ht => (hQ s a t hs ht).mp hq) hs hq h
  · intro hc
    exact each_of_invariant (fun s a t hs _ => hI s a t hs)
      (fun s a t hs hc ht => (hQ s a t hs ht).mpr hc) hs hc h

theorem each_of_forall (h : ∀ s a, Q s a) : ∀ s as, Each step Q s as
  | _, [] => trivial
  | s, a :: as => by
    refine ⟨h s a, ?_⟩
    cases step s a with
    | none => trivial
    | some t => exact each_of_forall h t as

/-- What holds of every step by an action of the list. -/
theorem each_of_mem (hQ : ∀ s t, ∀ a ∈ as, step s a = some t → Q s a) (h : exec step s as = some u) :
    Each step Q s as := by
  induction as generalizing s with
  | nil => trivial
  | cons a as ih =>
    obtain ⟨t, ht, hu⟩ := exec_cons_eq_some.mp h
    refine (each_cons ht).mpr ⟨hQ s t a List.mem_cons_self ht, ih ?_ hu⟩
    exact fun s t b hb => hQ s t b (List.mem_cons_of_mem a hb)

/-- Where the state does not matter. -/
theorem each_iff_forall {C : α → Prop} (h : exec step s as = some u) :
    Each step (fun _ a => C a) s as ↔ ∀ a ∈ as, C a := by
  induction as generalizing s with
  | nil => exact iff_of_true trivial fun a ha => absurd ha List.not_mem_nil
  | cons a as ih =>
    obtain ⟨t, ht, hu⟩ := exec_cons_eq_some.mp h
    rw [each_cons ht, ih hu, List.forall_mem_cons]

/-- In a run whose steps all meet `Q`: if a step from a state with `I` and `P` keeps `P` exactly when
it meets `C`, the run satisfies `P` throughout exactly when all of its steps meet `C`. The invariant
`I` need only be kept by the steps that keep `P`. -/
theorem always_iff_each_of_each (hI : ∀ s a t, I s → P s → Q s a → step s a = some t → P t → I t)
    (hP : ∀ s a t, I s → P s → Q s a → step s a = some t → (P t ↔ C s a))
    (hs : I s) (hp : P s) (hQ : Each step Q s as) (h : exec step s as = some u) :
    Always step P s as ↔ Each step C s as := by
  induction as generalizing s with
  | nil => exact iff_of_true hp trivial
  | cons a as ih =>
    obtain ⟨t, ht, hu⟩ := exec_cons_eq_some.mp h
    obtain ⟨hq, hQ⟩ := (each_cons ht).mp hQ
    have hkeep := hP s a t hs hp hq ht
    rw [always_cons ht, each_cons ht]
    constructor
    · rintro ⟨_, hrest⟩
      have hpt : P t := hrest.head
      exact ⟨hkeep.mp hpt, (ih (hI s a t hs hp hq ht hpt) hpt hQ hu).mp hrest⟩
    · rintro ⟨hc, hrest⟩
      have hpt : P t := hkeep.mpr hc
      exact ⟨hp, (ih (hI s a t hs hp hq ht hpt) hpt hQ hu).mpr hrest⟩

theorem always_iff_each (hI : ∀ s a t, I s → P s → step s a = some t → P t → I t)
    (hP : ∀ s a t, I s → P s → step s a = some t → (P t ↔ C s a))
    (hs : I s) (hp : P s) (h : exec step s as = some u) :
    Always step P s as ↔ Each step C s as :=
  always_iff_each_of_each (Q := fun _ _ => True) (fun s a t hs hp _ => hI s a t hs hp)
    (fun s a t hs hp _ => hP s a t hs hp) hs hp (each_of_forall (fun _ _ => trivial) s as) h

/-- In a run whose steps all meet `Q`: where the violations of `P` are for good, the run satisfies `P`
throughout exactly when it does at the end. -/
theorem always_iff_last_of_each (hI : ∀ s a t, I s → Q s a → step s a = some t → I t)
    (hbad : ∀ s a t, I s → ¬ P s → Q s a → step s a = some t → ¬ P t)
    (hs : I s) (hQ : Each step Q s as) (h : exec step s as = some u) :
    Always step P s as ↔ P u := by
  induction as generalizing s with
  | nil =>
    obtain rfl : s = u := Option.some.inj h
    exact Iff.rfl
  | cons a as ih =>
    obtain ⟨t, ht, hu⟩ := exec_cons_eq_some.mp h
    obtain ⟨hq, hQ⟩ := (each_cons ht).mp hQ
    have ht' := hI s a t hs hq ht
    rw [always_cons ht, ih ht' hQ hu, and_iff_right_iff_imp]
    intro hpu
    by_contra hps
    have halways := (ih ht' hQ hu).mpr hpu
    exact hbad s a t hs hps hq ht halways.head

theorem always_iff_last (hI : ∀ s a t, I s → step s a = some t → I t)
    (hbad : ∀ s a t, I s → ¬ P s → step s a = some t → ¬ P t)
    (hs : I s) (h : exec step s as = some u) : Always step P s as ↔ P u :=
  always_iff_last_of_each (Q := fun _ _ => True) (fun s a t hs _ => hI s a t hs)
    (fun s a t hs hp _ => hbad s a t hs hp) hs (each_of_forall (fun _ _ => trivial) s as) h

/-! ### Runs in segments -/

theorem Each.left (h : Each step Q s (as ++ bs)) : Each step Q s as := by
  induction as generalizing s with
  | nil => trivial
  | cons a as ih =>
    obtain ⟨hq, hrest⟩ := h
    refine ⟨hq, ?_⟩
    cases hstep : step s a with
    | none => trivial
    | some t =>
      rw [hstep] at hrest
      exact ih hrest

theorem each_append (h : exec step s as = some t) :
    Each step Q s (as ++ bs) ↔ Each step Q s as ∧ Each step Q t bs := by
  induction as generalizing s with
  | nil =>
    obtain rfl : s = t := Option.some.inj h
    simp only [List.nil_append, Each, true_and]
  | cons a as ih =>
    obtain ⟨u, hu, ht⟩ := exec_cons_eq_some.mp h
    rw [List.cons_append, each_cons hu, each_cons hu, ih ht, and_assoc]

/-- A run in segments, where the `k`-th one starts in a state with `I k`. If a segment does well
exactly when `C k`, and then leads to a state with `I (k + 1)`, the run does well exactly when `C`
holds of every segment. -/
theorem each_flatten_iff (I : Nat → σ → Prop) (C : Nat → Prop) {segments : List (List α)}
    (hiff : ∀ k seg s, segments[k]? = some seg → I k s → (Each step Q s seg ↔ C k))
    (hnext : ∀ k seg s, segments[k]? = some seg → I k s → C k →
      ∃ t, exec step s seg = some t ∧ I (k + 1) t)
    (hs : I 0 s) : Each step Q s segments.flatten ↔ ∀ k < segments.length, C k := by
  induction segments generalizing s I C with
  | nil => simp [Each]
  | cons seg segments ih =>
    have htail : ∀ {t}, I 1 t → (Each step Q t segments.flatten ↔
        ∀ k < segments.length, C (k + 1)) := fun {t} ht =>
      ih (fun k => I (k + 1)) (fun k => C (k + 1)) (fun k => hiff (k + 1))
        (fun k => hnext (k + 1)) ht
    rw [List.flatten_cons]
    constructor
    · intro h
      have hc : C 0 := (hiff 0 seg s rfl hs).mp h.left
      obtain ⟨t, ht, hI⟩ := hnext 0 seg s rfl hs hc
      have hrest := (htail hI).mp ((each_append ht).mp h).2
      rintro (_ | k) hk
      · exact hc
      · exact hrest k (Nat.lt_of_succ_lt_succ hk)
    · intro h
      have hc : C 0 := h 0 (Nat.succ_pos _)
      obtain ⟨t, ht, hI⟩ := hnext 0 seg s rfl hs hc
      refine (each_append ht).mpr ⟨(hiff 0 seg s rfl hs).mpr hc, (htail hI).mpr fun k hk => ?_⟩
      exact h (k + 1) (Nat.succ_lt_succ hk)

/-- A run in segments, where the `k`-th one starts in a state with `I k` and leads to one with
`I (k + 1)`. -/
theorem exec_flatten (I : Nat → σ → Prop) {segments : List (List α)}
    (hnext : ∀ k seg s, segments[k]? = some seg → I k s → ∃ t, exec step s seg = some t ∧ I (k + 1) t)
    (hs : I 0 s) : ∃ t, exec step s segments.flatten = some t ∧ I segments.length t := by
  induction segments generalizing s I with
  | nil => exact ⟨s, rfl, hs⟩
  | cons seg segments ih =>
    obtain ⟨t, ht, hI⟩ := hnext 0 seg s rfl hs
    obtain ⟨u, hu, hI⟩ := ih (fun k => I (k + 1)) (fun k => hnext (k + 1)) hI
    refine ⟨u, ?_, hI⟩
    rw [List.flatten_cons, exec_append, ht, Option.bind_some, hu]

end Runs
