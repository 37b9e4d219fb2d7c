import Mathlib.Data.List.Basic
import Mathlib.Data.List.Induction
import Mathlib.Data.List.Nodup
import Mathlib.Order.Lattice
import Mathlib.Tactic.Common

/-!
# Timelines

A timeline is a list of entries in increasing order of a key. An entry is inserted before the first
one whose key is not less than its own, so equal keys are allowed, and the newest of them comes
first. Looking up a key `k` splits a timeline into what lies `before` it and the rest, `fromOn`.

On a timeline both parts are filters of the list (`Sorted.before_eq`, `Sorted.fromOn_eq`). Hence
entries that are not looked for can be left out before or after the insertions
(`filter_ofList`).
-/

namespace Timeline

variable {α ι : Type*} [LinearOrder ι] (key : α → ι)

/-- The entries up to the first one with a key of at least `k`. -/
def before (l : List α) (k : ι) : List α := l.takeWhile fun a => key a < k

def fromOn (l : List α) (k : ι) : List α := l.dropWhile fun a => key a < k

def insert (a : α) (l : List α) : List α := before key l (key a) ++ a :: fromOn key l (key a)

/-- The entries of a list, inserted from left to right. -/
def ofList (l : List α) : List α := l.foldl (fun timeline a => insert key a timeline) []

def Sorted (l : List α) : Prop := l.Pairwise fun a b => key a ≤ key b

variable {key} {a b : α} {l : List α} {k : ι}

theorem before_append_fromOn : before key l k ++ fromOn key l k = l :=
  List.takeWhile_append_dropWhile

theorem Sorted.before_eq (hs : Sorted key l) : before key l k = l.filter fun a => key a < k := by
  induction l with
  | nil => rfl
  | cons a l ih =>
    obtain ⟨hhead, htail⟩ := List.pairwise_cons.mp hs
    have ih := ih htail
    rw [before] at ih ⊢
    by_cases ha : key a < k
    · rw [List.takeWhile_cons_of_pos (by simpa using ha), List.filter_cons_of_pos (by simpa using ha),
        ih]
    · rw [List.takeWhile_cons_of_neg (by simpa using ha), List.filter_cons_of_neg (by simpa using ha)]
      refine (List.filter_eq_nil_iff.mpr fun b hb => ?_).symm
      have hle := hhead b hb
      simpa using le_trans (not_lt.mp ha) hle

theorem Sorted.fromOn_eq (hs : Sorted key l) : fromOn key l k = l.filter fun a => k ≤ key a := by
  induction l with
  | nil => rfl
  | cons a l ih =>
    obtain ⟨hhead, htail⟩ := List.pairwise_cons.mp hs
    have ih := ih htail
    rw [fromOn] at ih ⊢
    by_cases ha : key a < k
    · rw [List.dropWhile_cons_of_pos (by simpa using ha), List.filter_cons_of_neg (by simpa using ha),
        ih]
    · rw [List.dropWhile_cons_of_neg (by simpa using ha)]
      refine (List.filter_eq_self.mpr fun b hb => ?_).symm
      rcases List.mem_cons.mp hb with rfl | hb
      · simpa using ha
      · simpa using le_trans (not_lt.mp ha) (hhead b hb)

/-! ### Insertion -/

theorem insert_perm : (insert key a l).Perm (a :: l) := by
  refine List.perm_middle.trans (List.Perm.cons a ?_)
  rw [before_append_fromOn]

theorem Sorted.insert (hs : Sorted key l) : Sorted key (insert key a l) := by
  rw [Timeline.insert, hs.before_eq, hs.fromOn_eq]
  refine List.pairwise_append.mpr ⟨hs.filter _, List.pairwise_cons.mpr ⟨?_, hs.filter _⟩, ?_⟩
  · intro b hb
    simpa using (List.mem_filter.mp hb).2
  · intro b hb c hc
    have hba : key b < key a := by simpa using (List.mem_filter.mp hb).2
    rcases List.mem_cons.mp hc with rfl | hc
    · exact le_of_lt hba
    · have hac : key a ≤ key c := by simpa using (List.mem_filter.mp hc).2
      exact le_trans (le_of_lt hba) hac

theorem Sorted.filter (hs : Sorted key l) (p : α → Bool) : Sorted key (l.filter p) :=
  List.Pairwise.filter p hs

theorem Sorted.filter_insert (hs : Sorted key l) (p : α → Bool) :
    (Timeline.insert key a l).filter p =
      if p a then Timeline.insert key a (l.filter p) else l.filter p := by
  by_cases ha : p a = true
  · rw [if_pos ha]
    simp only [Timeline.insert, hs.before_eq, hs.fromOn_eq, (hs.filter p).before_eq,
      (hs.filter p).fromOn_eq, List.filter_append, List.filter_cons_of_pos ha, List.filter_filter,
      Bool.and_comm]
  · rw [if_neg ha, Timeline.insert, List.filter_append, List.filter_cons_of_neg ha,
      ← List.filter_append, before_append_fromOn]

/-! ### Timelines from lists -/

theorem ofList_append_singleton : ofList key (l ++ [a]) = insert key a (ofList key l) := by
  rw [ofList, List.foldl_append]
  rfl

theorem ofList_sorted (l : List α) : Sorted key (ofList key l) := by
  induction l using List.reverseRecOn with
  | nil => exact List.Pairwise.nil
  | append_singleton l a ih =>
    rw [ofList_append_singleton]
    exact ih.insert

theorem ofList_perm (l : List α) : (ofList key l).Perm l := by
  induction l using List.reverseRecOn with
  | nil => exact List.Perm.nil
  | append_singleton l a ih =>
    rw [ofList_append_singleton]
    exact (insert_perm.trans (ih.cons a)).trans (List.perm_append_singleton a l).symm

theorem mem_ofList : a ∈ ofList key l ↔ a ∈ l := (ofList_perm l).mem_iff

theorem filter_ofList (p : α → Bool) (l : List α) :
    (ofList key l).filter p = ofList key (l.filter p) := by
  induction l using List.reverseRecOn with
  | nil => rfl
  | append_singleton l a ih =>
    rw [ofList_append_singleton, (ofList_sorted l).filter_insert, List.filter_append]
    by_cases ha : p a = true
    · rw [if_pos ha, List.filter_cons_of_pos ha, List.filter_nil, ofList_append_singleton, ih]
    · rw [if_neg ha, List.filter_cons_of_neg ha, List.filter_nil, List.append_nil, ih]

/-! ### Looking up -/

/-- The last entry stays the last one when others are left out. -/
theorem getLast?_filter {p : α → Bool} (hl : l.getLast? = some a) (ha : p a = true) :
    (l.filter p).getLast? = some a := by
  obtain ⟨rest, rfl⟩ := List.getLast?_eq_some_iff.mp hl
  rw [List.filter_append, List.filter_cons_of_pos ha, List.filter_nil, List.getLast?_concat]

theorem head?_filter {p : α → Bool} (hl : l.head? = some a) (ha : p a = true) :
    (l.filter p).head? = some a := by
  obtain ⟨rest, rfl⟩ := List.head?_eq_some_iff.mp hl
  rw [List.filter_cons_of_pos ha, List.head?_cons]

/-- The last entry has the greatest key. -/
theorem Sorted.le_of_getLast? (hs : Sorted key l) (hl : l.getLast? = some b) (ha : a ∈ l) :
    key a ≤ key b := by
  obtain ⟨rest, rfl⟩ := List.getLast?_eq_some_iff.mp hl
  rcases List.mem_append.mp ha with ha | ha
  · exact (List.pairwise_append.mp hs).2.2 a ha b List.mem_cons_self
  · rw [List.mem_singleton.mp ha]

/-- Where the key `k` is in use, looking it up finds an entry with it. -/
theorem Sorted.head?_fromOn (hs : Sorted key l) (ha : a ∈ l) :
    ∃ b ∈ l, (fromOn key l (key a)).head? = some b ∧ key b = key a := by
  have hmem : a ∈ fromOn key l (key a) := by
    rw [hs.fromOn_eq]
    exact List.mem_filter.mpr ⟨ha, by simp⟩
  have hsorted : Sorted key (fromOn key l (key a)) := by
    rw [hs.fromOn_eq]
    exact hs.filter _
  cases hfrom : fromOn key l (key a) with
  | nil =>
    rw [hfrom] at hmem
    exact absurd hmem List.not_mem_nil
  | cons b rest =>
    have hb : b ∈ fromOn key l (key a) := hfrom ▸ List.mem_cons_self
    rw [hs.fromOn_eq] at hb
    obtain ⟨hb, hge⟩ := List.mem_filter.mp hb
    refine ⟨b, hb, rfl, le_antisymm ?_ (by simpa using hge)⟩
    rw [hfrom] at hmem hsorted
    rcases List.mem_cons.mp hmem with rfl | hmem
    · exact le_refl _
    · exact (List.pairwise_cons.mp hsorted).1 a hmem

/-- Where the keys are distinct, looking up the key of an entry finds that entry. -/
theorem Sorted.head?_fromOn_of_nodup (hs : Sorted key l) (hnodup : (l.map key).Nodup) (ha : a ∈ l) :
    (fromOn key l (key a)).head? = some a := by
  obtain ⟨b, hb, hhead, heq⟩ := hs.head?_fromOn ha
  rw [hhead, List.inj_on_of_nodup_map hnodup hb ha heq]

/-- Entries with one key: the newest comes first. -/
theorem ofList_of_forall_eq (h : ∀ a ∈ l, key a = k) : ofList key l = l.reverse := by
  induction l using List.reverseRecOn with
  | nil => rfl
  | append_singleton l a ih =>
    have ih := ih fun b hb => h b (List.mem_append_left _ hb)
    have ha : key a = k := h a (List.mem_append_right _ (List.mem_singleton_self a))
    have hbefore : before key l.reverse k = [] := by
      have hsorted : Sorted key l.reverse := ih ▸ ofList_sorted l
      rw [hsorted.before_eq, List.filter_eq_nil_iff]
      intro b hb
      have hkey := h b (List.mem_append_left _ (List.mem_reverse.mp hb))
      simp [hkey]
    have hfromOn : before key l.reverse k ++ fromOn key l.reverse k = l.reverse :=
      before_append_fromOn
    rw [hbefore, List.nil_append] at hfromOn
    rw [ofList_append_singleton, ih, insert, ha, hbefore, hfromOn, List.reverse_append]
    rfl

/-- Looking up a key that is in use finds the entry that has been inserted last of those with it. -/
theorem head?_fromOn_ofList (ha : a ∈ l) (hk : key a = k) :
    (fromOn key (ofList key l) k).head? = (l.filter fun a => key a = k).getLast? := by
  have hs : Sorted key (ofList key l) := ofList_sorted l
  obtain ⟨b, -, hhead, hb⟩ := hs.head?_fromOn (mem_ofList.mpr ha)
  rw [hk] at hhead hb
  have hfilter : (fromOn key (ofList key l) k).filter (fun a => key a = k) =
      (l.filter fun a => key a = k).reverse := by
    rw [← ofList_of_forall_eq (k := k) fun a ha => of_decide_eq_true (List.mem_filter.mp ha).2,
      ← filter_ofList, hs.fromOn_eq, List.filter_filter]
    refine List.filter_congr fun a _ => ?_
    by_cases heq : key a = k <;> simp [heq]
  have hfirst := head?_filter (p := fun a => key a = k) hhead (decide_eq_true hb)
  rw [hhead, ← hfirst, hfilter, List.head?_reverse]

/-! ### Distinct keys -/

theorem Sorted.pairwise_lt (hs : Sorted key l) (hnodup : (l.map key).Nodup) :
    l.Pairwise fun a b => key a < key b :=
  hs.imp₂ (fun _ _ hle hne => lt_of_le_of_ne hle hne) (List.pairwise_map.mp hnodup)

/-- Entries with distinct keys may be inserted in any order. -/
theorem ofList_eq_of_perm {l' : List α} (h : l.Perm l') (hnodup : (l.map key).Nodup) :
    ofList key l = ofList key l' := by
  have hperm : (ofList key l).Perm (ofList key l') :=
    (ofList_perm l).trans (h.trans (ofList_perm l').symm)
  refine hperm.eq_of_pairwise (fun a b ha hb hab hba => ?_) (ofList_sorted l) (ofList_sorted l')
  have ha := mem_ofList.mp ha
  have hb := h.mem_iff.mpr (mem_ofList.mp hb)
  exact List.inj_on_of_nodup_map hnodup ha hb (le_antisymm hab hba)

end Timeline
