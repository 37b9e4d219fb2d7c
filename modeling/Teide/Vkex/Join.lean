import Mathlib.Algebra.Ring.Nat
import Teide.Lib.Words

/-!
# Joined views

`vkex::Join` views several ranges as one. The iterator of a `JoinView` holds an iterator of either
view and a flag that says which of them it stands on; the flag is computed anew each time the first
iterator has moved, so it is false from the start if the first view is empty.

An iterator is read and advanced through `read` and `advance`, which have no value at the end of a view.
Hence a derivation of `Yields` is a run of the loop that stops and that never uses an exhausted iterator,
neither of the joined view nor of those it is made from.
-/

namespace Teide.Vkex

/-- What `std::ranges::size` returns. Narrower types are promoted to these. -/
inductive Size
  | unsigned (n : UInt32)
  | sizeT (n : UInt64)

namespace Size

def bits : Size → Nat
  | unsigned _ => 32
  | sizeT _ => 64

/-- The conversion to `std::size_t`. -/
def toSizeT : Size → UInt64
  | unsigned n => n.toUInt64
  | sizeT n => n

def toNat (s : Size) : Nat := s.toSizeT.toNat

/-- `operator+` in the common type of the operands. -/
def add : Size → Size → Size
  | unsigned m, unsigned n => unsigned (m + n)
  | m, n => sizeT (m.toSizeT + n.toSizeT)

/-- The width of the common type. -/
def commonBits (m n : Size) : Nat := max m.bits n.bits

theorem toNat_add (m n : Size) : (m.add n).toNat = (m.toNat + n.toNat) % 2 ^ commonBits m n := by
  cases m with
  | unsigned m =>
    cases n with
    | unsigned n => exact UInt32.toNat_add m n
    | sizeT n => exact UInt64.toNat_add _ n
  | sizeT m =>
    cases n with
    | unsigned n => exact UInt64.toNat_add m _
    | sizeT n => exact UInt64.toNat_add m n

end Size

/-- A view whose size is known. Where an iterator is at the end, `deref` and `next` may be anything. -/
structure View (T : Type) where
  Iterator : Type
  begin : Iterator
  /-- The comparison with the sentinel. -/
  atEnd : Iterator → Bool
  deref : Iterator → Option T
  next : Iterator → Option Iterator
  size : Size

variable {T : Type} {view view1 view2 : View T} {l l1 l2 : List T}

namespace View

/-- `*it`, which is not allowed at the end. -/
def read (view : View T) (it : view.Iterator) : Option T :=
  if view.atEnd it then none else view.deref it

/-- `++it`, which is not allowed at the end. -/
def advance (view : View T) (it : view.Iterator) : Option view.Iterator :=
  if view.atEnd it then none else view.next it

/-- `for (; it != end; ++it)` stops and reads the list. -/
inductive Yields (view : View T) : view.Iterator → List T → Prop
  | done {it : view.Iterator} (hend : view.atEnd it = true) : Yields view it []
  | step {it it' : view.Iterator} {a : T} {l : List T} (hread : view.read it = some a)
      (hadvance : view.advance it = some it') (htail : Yields view it' l) : Yields view it (a :: l)

/-- The view has the elements of the list, and so many. -/
def IsSized (view : View T) (l : List T) : Prop :=
  view.Yields view.begin l ∧ view.size.toNat = l.length

theorem read_eq_none {it : view.Iterator} (h : view.atEnd it = true) : view.read it = none := if_pos h

theorem advance_eq_none {it : view.Iterator} (h : view.atEnd it = true) : view.advance it = none :=
  if_pos h

theorem atEnd_of_read {it : view.Iterator} {a : T} (h : view.read it = some a) :
    view.atEnd it = false := by
  rw [Bool.eq_false_iff]
  intro hend
  rw [read_eq_none hend] at h
  cases h

end View

/-! ### Joining -/

namespace JoinView

/-- `JoinView::Iterator`; its sentinels are `atEnd` of the views. -/
structure Iterator (view1 view2 : View T) where
  iterators : view1.Iterator × view2.Iterator
  first : Bool

namespace Iterator

/-- The constructor. -/
def new (view1 view2 : View T) : Iterator view1 view2 :=
  ⟨(view1.begin, view2.begin), !view1.atEnd view1.begin⟩

def deref (it : Iterator view1 view2) : Option T :=
  if it.first then view1.read it.iterators.1 else view2.read it.iterators.2

def next (it : Iterator view1 view2) : Option (Iterator view1 view2) :=
  if it.first then
    (view1.advance it.iterators.1).map fun it1 => ⟨(it1, it.iterators.2), !view1.atEnd it1⟩
  else
    (view2.advance it.iterators.2).map fun it2 => ⟨(it.iterators.1, it2), it.first⟩

def atEnd (it : Iterator view1 view2) : Bool := !it.first && view2.atEnd it.iterators.2

end Iterator

end JoinView

/-- `JoinView`. The sizes are added before the sum is converted to a `std::size_t`. -/
def joinView (view1 view2 : View T) : View T where
  Iterator := JoinView.Iterator view1 view2
  begin := .new view1 view2
  atEnd := JoinView.Iterator.atEnd
  deref := JoinView.Iterator.deref
  next := JoinView.Iterator.next
  size := .sizeT (view1.size.add view2.size).toSizeT

namespace View

section Steps

variable {it1 : view1.Iterator} {it2 : view2.Iterator}

theorem read_first : (joinView view1 view2).read ⟨(it1, it2), true⟩ = view1.read it1 := rfl

theorem advance_first : (joinView view1 view2).advance ⟨(it1, it2), true⟩ =
    (view1.advance it1).map fun it1' => ⟨(it1', it2), !view1.atEnd it1'⟩ := rfl

theorem read_second : (joinView view1 view2).read ⟨(it1, it2), false⟩ = view2.read it2 := by
  by_cases hend : view2.atEnd it2 = true
  · rw [read_eq_none hend]
    exact if_pos hend
  · exact if_neg hend

theorem advance_second : (joinView view1 view2).advance ⟨(it1, it2), false⟩ =
    (view2.advance it2).map fun it2' => ⟨(it1, it2'), false⟩ := by
  by_cases hend : view2.atEnd it2 = true
  · rw [advance_eq_none hend]
    exact if_pos hend
  · exact if_neg hend

end Steps

/-- On the second view, whatever has become of the first one. -/
theorem Yields.second {it1 : view1.Iterator} {it2 : view2.Iterator} (h : view2.Yields it2 l) :
    (joinView view1 view2).Yields ⟨(it1, it2), false⟩ l := by
  induction h with
  | done hend => exact .done hend
  | step hread hadvance _ ih =>
    refine .step (read_second.trans hread) ?_ ih
    rw [advance_second, hadvance]
    rfl

/-- On the first view, or past it if it is at its end. -/
theorem Yields.first {it1 : view1.Iterator} {it2 : view2.Iterator} (h1 : view1.Yields it1 l1)
    (h2 : view2.Yields it2 l2) :
    (joinView view1 view2).Yields ⟨(it1, it2), !view1.atEnd it1⟩ (l1 ++ l2) := by
  induction h1 with
  | done hend =>
    rw [hend]
    exact h2.second
  | step hread hadvance _ ih =>
    rw [atEnd_of_read hread]
    refine .step (read_first.trans hread) ?_ ih
    rw [Bool.not_false, advance_first, hadvance]
    rfl

theorem yields_joinView (h1 : view1.Yields view1.begin l1) (h2 : view2.Yields view2.begin l2) :
    (joinView view1 view2).Yields (joinView view1 view2).begin (l1 ++ l2) :=
  h1.first h2

end View

/-! ### The views that are joined -/

/-- `OptionalView`; the flag of its iterator is `m_atStart`. -/
def optionalView (opt : Option T) : View T where
  Iterator := Bool
  begin := true
  atEnd atStart := !(atStart && opt.isSome)
  deref _ := opt
  next _ := some false
  size := .unsigned (if opt.isSome then 1 else 0)

/-- `MakeRefView` of a vector, whose `max_size` is less than `2 ^ 64`. -/
def refView (vector : List T) : View T where
  Iterator := Nat
  begin := 0
  atEnd i := i == vector.length
  deref i := vector[i]?
  next i := some (i + 1)
  size := .sizeT (UInt64.ofNat vector.length)

/-- `std::views::iota` of two `unsigned`s. -/
def iotaView (value bound : UInt32) : View UInt32 where
  Iterator := UInt32
  begin := value
  atEnd i := i == bound
  deref i := some i
  next i := some (i + 1)
  size := .unsigned (bound - value)

namespace View

theorem isSized_optionalView (opt : Option T) : (optionalView opt).IsSized opt.toList := by
  cases opt with
  | none => exact ⟨.done rfl, rfl⟩
  | some a => exact ⟨.step rfl rfl (.done rfl), rfl⟩

theorem yields_refView {vector : List T} {i : Nat} (hi : i ≤ vector.length) :
    (refView vector).Yields i (vector.drop i) := by
  generalize hn : vector.length - i = n
  induction n generalizing i with
  | zero =>
    have hlen : i = vector.length := by omega
    rw [List.drop_of_length_le (by omega)]
    exact .done (beq_iff_eq.mpr hlen)
  | succ n ih =>
    have hlt : i < vector.length := by omega
    have hend : ¬(i == vector.length) = true := by simp; omega
    rw [List.drop_eq_getElem_cons hlt]
    refine .step ?_ ?_ (ih hlt (by omega))
    · exact (if_neg hend).trans (List.getElem?_eq_getElem hlt)
    · exact if_neg hend

theorem isSized_refView {vector : List T} (hlen : vector.length < 2 ^ 64) :
    (refView vector).IsSized vector :=
  ⟨yields_refView (Nat.zero_le _), UInt64.toNat_ofNat_of_lt' hlen⟩

/-- The numbers from `value` up to `bound`. -/
def iota (value bound : UInt32) : List UInt32 :=
  (List.range' value.toNat (bound.toNat - value.toNat)).map UInt32.ofNat

theorem yields_iotaView {value bound i : UInt32} (hi : i ≤ bound) :
    (iotaView value bound).Yields i (iota i bound) := by
  rw [UInt32.le_iff_toNat_le] at hi
  unfold iota
  generalize hn : bound.toNat - i.toNat = n
  induction n generalizing i with
  | zero =>
    have heq : i = bound := UInt32.toNat_inj.mp (by omega)
    exact .done (beq_iff_eq.mpr heq)
  | succ n ih =>
    have hne : i ≠ bound := by
      intro heq
      subst heq
      omega
    have hend : ¬(i == bound) = true := fun h => hne (beq_iff_eq.mp h)
    have hsucc : (i + 1).toNat = i.toNat + 1 := by
      have hlt := UInt32.toNat_lt bound
      exact Words.toNat_add_one (by omega)
    have htail := ih (i := i + 1) (by omega) (by omega)
    rw [hsucc] at htail
    rw [List.range'_succ, List.map_cons, UInt32.ofNat_toNat]
    exact .step (if_neg hend) (if_neg hend) htail

theorem isSized_iotaView {value bound : UInt32} (hle : value ≤ bound) :
    (iotaView value bound).IsSized (iota value bound) := by
  refine ⟨yields_iotaView hle, ?_⟩
  rw [iota, List.length_map, List.length_range']
  show (bound - value).toNat = _
  exact UInt32.toNat_sub_of_le _ _ hle

/-! ### Sizes -/

theorem toNat_size_joinView : (joinView view1 view2).size.toNat =
    (view1.size.toNat + view2.size.toNat) % 2 ^ view1.size.commonBits view2.size :=
  Size.toNat_add _ _

/-- **A joined view is the concatenation of two views.** Its size is the number of elements exactly if
the sum of the two sizes does not overflow. -/
theorem isSized_joinView_iff :
    (∀ opt : Option T, (optionalView opt).IsSized opt.toList) ∧
      ∀ (view1 view2 : View T) (l1 l2 : List T), view1.IsSized l1 → view2.IsSized l2 →
        ((joinView view1 view2).IsSized (l1 ++ l2) ↔
          l1.length + l2.length < 2 ^ view1.size.commonBits view2.size) := by
  refine ⟨isSized_optionalView, fun view1 view2 l1 l2 h1 h2 => ?_⟩
  have hsize : (joinView view1 view2).size.toNat = _ := toNat_size_joinView
  rw [h1.2, h2.2] at hsize
  unfold IsSized
  rw [hsize, List.length_append]
  constructor
  · rintro ⟨-, hmod⟩
    rw [← hmod]
    exact Nat.mod_lt _ (Nat.two_pow_pos _)
  · intro hlt
    exact ⟨yields_joinView h1.1 h2.1, Nat.mod_eq_of_lt hlt⟩

/-- An optional, a vector and an empty optional. -/
theorem isSized_joinView_iff_nested :
    (joinView (joinView (optionalView (some 1)) (refView [2, 3])) (optionalView none)).IsSized
      [1, 2, 3] := by
  have hvector : (refView [2, 3]).IsSized [2, 3] := isSized_refView (by decide)
  have hinner := (isSized_joinView_iff.2 _ _ [1] [2, 3] (isSized_optionalView (some 1)) hvector).mpr
    (by decide)
  exact (isSized_joinView_iff.2 _ _ [1, 2, 3] [] hinner (isSized_optionalView none)).mpr (by decide)

/-- An optional and all numbers but the last one: the sum of the sizes is computed in 32 bits. -/
theorem not_isSized_joinView :
    (optionalView (some 7)).IsSized [7] ∧
      (iotaView 0 4294967295).IsSized (iota 0 4294967295) ∧
      (joinView (optionalView (some 7)) (iotaView 0 4294967295)).size.toNat = 0 ∧
      ¬(joinView (optionalView (some 7)) (iotaView 0 4294967295)).IsSized
        ([7] ++ iota 0 4294967295) := by
  refine ⟨isSized_optionalView (some 7), isSized_iotaView (by decide), by decide, ?_⟩
  rintro ⟨-, hsize⟩
  rw [List.length_append] at hsize
  have hzero : (joinView (optionalView (some 7)) (iotaView 0 4294967295)).size.toNat = 0 := by decide
  rw [hzero, List.length_singleton] at hsize
  omega

end View

end Teide.Vkex
