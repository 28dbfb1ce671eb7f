import Mathlib.Data.List.Basic
import Mathlib.Order.Bounds.Basic

-- The entries of an ascending list that are next to a value, which may be an entry itself.
namespace Ladder

variable {α : Type*} [LinearOrder α] {l : List α} {x a b : α} {k : Nat}

-- The smallest entry that is greater than the value, or the greatest one if there is none.
def IsAbove (l : List α) (x a : α) : Prop :=
  IsLeast {b | b ∈ l ∧ x < b} a ∨ (∀ b ∈ l, b ≤ x) ∧ IsGreatest {b | b ∈ l} a

-- The greatest entry that is smaller than the value, or the smallest one if there is none.
def IsBelow (l : List α) (x a : α) : Prop :=
  IsGreatest {b | b ∈ l ∧ b < x} a ∨ (∀ b ∈ l, x ≤ b) ∧ IsLeast {b | b ∈ l} a

-- The entries in front of position `k` are those that are smaller than the value.
structure Splits (l : List α) (x : α) (k : Nat) : Prop where
  le    : k ≤ l.length
  below : ∀ i (h : i < l.length), i < k → l[i] < x
  above : ∀ i (h : i < l.length), k ≤ i → x ≤ l[i]

theorem IsAbove.unique (ha : IsAbove l x a) (hb : IsAbove l x b) : a = b := by
  rcases ha with ha | ⟨hl, ha⟩ <;> rcases hb with hb | ⟨hl', hb⟩
  · exact ha.unique hb
  · exact absurd ha.left.right (not_lt_of_ge (hl' a ha.left.left))
  · exact absurd hb.left.right (not_lt_of_ge (hl b hb.left.left))
  · exact ha.unique hb

section Sorted

variable {i j : Nat}

theorem getElem_le (h : l.Pairwise (· < ·)) (hj : j < l.length) (hi : i ≤ j) : l[i] ≤ l[j] := by
  rcases Nat.lt_or_eq_of_le hi with hi | rfl
  · exact (List.pairwise_iff_getElem.mp h i j (by omega) hj hi).le
  · exact le_rfl

theorem getElem_lt (h : l.Pairwise (· < ·)) (hj : j < l.length) (hi : i < j) : l[i] < l[j] :=
  List.pairwise_iff_getElem.mp h i j (by omega) hj hi

theorem isLeast_getElem (h : l.Pairwise (· < ·)) (hi : i < l.length) {p : α → Prop} (hp : p l[i])
    (hn : ∀ j (hj : j < l.length), j < i → ¬p l[j]) : IsLeast {b | b ∈ l ∧ p b} l[i] := by
  refine ⟨⟨List.getElem_mem hi, hp⟩, ?_⟩
  rintro b ⟨hb, hpb⟩
  obtain ⟨j, hj, rfl⟩ := List.getElem_of_mem hb
  by_cases hji : j < i
  case pos => exact absurd hpb (hn j hj hji)
  case neg => exact getElem_le h hj (Nat.le_of_not_lt hji)

theorem isGreatest_getElem (h : l.Pairwise (· < ·)) (hi : i < l.length) {p : α → Prop} (hp : p l[i])
    (hn : ∀ j (hj : j < l.length), i < j → ¬p l[j]) : IsGreatest {b | b ∈ l ∧ p b} l[i] := by
  refine ⟨⟨List.getElem_mem hi, hp⟩, ?_⟩
  rintro b ⟨hb, hpb⟩
  obtain ⟨j, hj, rfl⟩ := List.getElem_of_mem hb
  by_cases hji : i < j
  case pos => exact absurd hpb (hn j hj hji)
  case neg => exact getElem_le h hi (Nat.le_of_not_lt hji)

end Sorted

namespace Splits

theorem isBelow (s : Splits l x k) (h : l.Pairwise (· < ·)) (hl : k - 1 < l.length) :
    IsBelow l x l[k - 1] := by
  by_cases hk : k = 0
  case neg =>
    refine .inl (isGreatest_getElem h hl (s.below _ hl (by omega)) fun j hj hi => ?_)
    exact not_lt_of_ge (s.above j hj (by omega))
  case pos =>
    refine .inr ⟨fun b hb => ?_, ?_⟩
    · obtain ⟨j, hj, rfl⟩ := List.getElem_of_mem hb
      exact s.above j hj (by omega)
    · have := isLeast_getElem h hl (p := fun _ => True) trivial fun j _ hi => by omega
      simpa using this

-- The entry at the position itself is not the value.
theorem isAbove_of_not_mem (s : Splits l x k) (h : l.Pairwise (· < ·)) (hk : k < l.length) (hx : x ∉ l) :
    IsAbove l x l[k] := by
  have hlt : x < l[k] := lt_of_le_of_ne (s.above k hk le_rfl) fun he => hx (he ▸ List.getElem_mem hk)
  exact .inl (isLeast_getElem h hk hlt fun j hj hi => (s.below j hj hi).not_gt)

theorem isAbove_of_mem (s : Splits l x k) (h : l.Pairwise (· < ·)) (hk : k + 1 < l.length) (hx : x ∈ l) :
    IsAbove l x l[k + 1] := by
  obtain ⟨i, hi, rfl⟩ := List.getElem_of_mem hx
  have hki : k ≤ i := Nat.le_of_not_lt fun hlt => lt_irrefl _ (s.below i hi hlt)
  have hik : i ≤ k := by
    by_contra hn
    exact not_lt_of_ge (s.above k (by omega) le_rfl) (getElem_lt h hi (Nat.lt_of_not_le hn))
  obtain rfl := Nat.le_antisymm hik hki
  exact .inl (isLeast_getElem h hk (getElem_lt h hk (Nat.lt_succ_self i)) fun j hj hj' =>
    not_lt_of_ge (getElem_le h hi (Nat.le_of_lt_succ hj')))

theorem isAbove_last (s : Splits l x k) (h : l.Pairwise (· < ·)) (hl : 0 < l.length) (hk : l.length ≤ k + 1) :
    IsAbove l x l[l.length - 1] := by
  have hg : IsGreatest {b | b ∈ l} l[l.length - 1] := by
    have := isGreatest_getElem h (i := l.length - 1) (by omega) (p := fun _ => True) trivial
      fun j hj hi => by omega
    simpa using this
  by_cases hx : x < l[l.length - 1]
  case neg => exact .inr ⟨fun b hb => (hg.right hb).trans (le_of_not_gt hx), hg⟩
  case pos =>
    refine .inl (isLeast_getElem h (by omega) hx fun j hj hi => ?_)
    exact (s.below j hj (by omega)).not_gt

-- One step on from the position, but not beyond the end, is the next entry if the value is an entry
-- itself or if there is no other one to step over.
theorem isAbove_iff (s : Splits l x k) (h : l.Pairwise (· < ·)) (hl : min (k + 1) (l.length - 1) < l.length) :
    IsAbove l x l[min (k + 1) (l.length - 1)] ↔ x ∈ l ∨ ∀ b ∈ l.dropLast, b < x := by
  by_cases hk : l.length ≤ k + 1
  case pos =>
    have hi : min (k + 1) (l.length - 1) = l.length - 1 := by omega
    simp only [hi]
    refine iff_of_true (s.isAbove_last h (by omega) hk) (.inr fun b hb => ?_)
    obtain ⟨i, hi, rfl⟩ := List.getElem_of_mem hb
    rw [List.length_dropLast] at hi
    rw [List.getElem_dropLast]
    exact s.below i (by omega) (by omega)
  case neg =>
    have hi : min (k + 1) (l.length - 1) = k + 1 := by omega
    simp only [hi]
    constructor
    case mpr =>
      rintro (hx | hd)
      · exact s.isAbove_of_mem h (by omega) hx
      · have hm : l[k] ∈ l.dropLast := by
          rw [← List.getElem_dropLast (by simp; omega)]
          exact List.getElem_mem _
        exact absurd (hd _ hm) (not_lt_of_ge (s.above k (by omega) le_rfl))
    case mp =>
      intro ha
      by_contra hn
      have hx : x ∉ l := fun hx => hn (.inl hx)
      have he := ha.unique (s.isAbove_of_not_mem h (by omega) hx)
      exact (getElem_lt h (by omega) (Nat.lt_succ_self k)).ne' he

end Splits

end Ladder
