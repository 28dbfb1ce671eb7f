import Mathlib.Data.List.DropRight
import Mathlib.Data.List.Rotate
import VoodooPS2.Touchpad.Decay

namespace Touchpad

-- The oldest value of a full buffer is overwritten.
theorem rotate_set {α : Type} {l : List α} {a : α} {i : Nat} (hi : i < l.length) :
    (l.set i a).rotate (i + 1) = (l.rotate i).tail ++ [a] := by
  have hd : l.drop i ≠ [] := by simpa using hi
  have ht : (l.set i a).take (i + 1) = l.take i ++ [a] := by
    rw [List.take_add_one, List.take_set_of_le le_rfl]
    simp [hi]
  rw [List.rotate_eq_drop_append_take (by simpa), List.rotate_eq_drop_append_take hi.le,
    List.drop_set_of_lt (Nat.lt_succ_self i), ht, List.tail_append_of_ne_nil hd, List.tail_drop,
    List.append_assoc]

namespace History

variable {α : Type} {n : Nat} {h : History α n} {data empty : α}

-- The values that were stored last, from the oldest one to the newest one.
def values (h : History α n) : List α :=
  (h.buffer.toList.rotate h.index).rtake h.count

-- The index is the count until the buffer is full.
def Aligned (h : History α n) : Prop :=
  h.count < n → h.index = h.count

def Empty (h : History α n) : Prop :=
  h.count = 0 ∧ h.index = 0

theorem values_length : h.values.length = h.count := by
  have := h.count_le
  rw [values, List.rtake]
  simp
  omega

theorem reset_empty : h.reset.Empty :=
  ⟨rfl, rfl⟩

namespace Empty

theorem aligned (he : h.Empty) : h.Aligned :=
  fun _ => he.right.trans he.left.symm

theorem values (he : h.Empty) : h.values = [] :=
  List.length_eq_zero_iff.mp (values_length.trans he.left)

end Empty

theorem filter_aligned (ha : h.Aligned) : (h.filter data).Aligned := by
  intro hc
  simp only [filter] at hc ⊢
  split at hc
  case isTrue hn  => rw [if_pos hn, ha hn, if_pos hc]
  case isFalse hn => exact absurd hc hn

theorem filter_rotate : (h.filter data).buffer.toList.rotate (h.filter data).index =
    (h.buffer.toList.rotate h.index).tail ++ [data] := by
  have hl : (h.buffer.toList.set h.index data).length = n := by simp
  have hi : (h.filter data).index = (h.index + 1) % (h.buffer.toList.set h.index data).length := by
    have := h.index_lt
    rw [hl]
    simp only [filter]
    split
    case isTrue hn  => exact (Nat.mod_eq_of_lt hn).symm
    case isFalse hn => rw [show h.index + 1 = n by omega, Nat.mod_self]
  have hb : (h.filter data).buffer.toList = h.buffer.toList.set h.index data := Vector.toList_set h.index_lt
  rw [hb, hi, List.rotate_mod, rotate_set (by simpa using h.index_lt)]

-- A history keeps the last values.
theorem filter_values : (h.filter data).values = (h.values ++ [data]).rtake n := by
  have hi := h.index_lt
  have hc := h.count_le
  obtain ⟨m, rfl⟩ : ∃ m, n = m + 1 := ⟨n - 1, by omega⟩
  have hk : (h.filter data).count = min h.count m + 1 := by
    simp only [filter]
    split <;> omega
  have hl : (h.buffer.toList.rotate h.index).length = m + 1 := by simp
  rw [values, filter_rotate, hk, List.rtake_concat_succ, List.rtake_concat_succ, values]
  congr 1
  simp only [List.rtake, List.length_drop, hl, ← List.drop_one, List.drop_drop]
  congr 1
  omega

theorem values_getElem? {k : Nat} (hk : k < h.count) :
    h.values[k]? = h.buffer.toList[(h.index + (n - h.count) + k) % n]? := by
  have hc := h.count_le
  have hl : h.buffer.toList.length = n := Vector.length_toList
  rw [values, List.rtake, List.length_rotate, hl, List.getElem?_drop, List.getElem?_rotate (by omega), hl]
  congr 2
  omega

theorem newest_eq (ha : h.Aligned) : h.newest empty = h.values.getLastD empty := by
  have hi := h.index_lt
  have hc := h.count_le
  simp only [newest]
  split_ifs with h₀ h₁
  · rw [List.length_eq_zero_iff.mp (values_length.trans h₀)]
    rfl
  all_goals
    rw [List.getLastD_eq_getLast?, List.getLast?_eq_getElem?, values_length, values_getElem? (by omega),
      ← List.getD_eq_getElem?_getD]
    congr 1
  · have hn : h.count = n := by
      by_contra hn
      exact h₀ ((ha (by omega)).symm.trans h₁)
    rw [h₁, hn, Nat.mod_eq_of_lt (by omega)]
    omega
  · rw [show h.index + (n - h.count) + (h.count - 1) = h.index - 1 + n by omega, Nat.add_mod_right,
      Nat.mod_eq_of_lt (by omega)]

theorem oldest_eq (ha : h.Aligned) : h.oldest empty = h.values.headD empty := by
  have hi := h.index_lt
  have hc := h.count_le
  simp only [oldest]
  split_ifs with h₀ h₁
  · rw [List.length_eq_zero_iff.mp (values_length.trans h₀)]
    rfl
  all_goals
    rw [List.headD_eq_head?_getD, List.head?_eq_getElem?, values_getElem? (by omega),
      ← List.getD_eq_getElem?_getD]
    congr 1
  · rw [ha h₁, show h.count + (n - h.count) + 0 = n by omega, Nat.mod_self]
  · rw [show h.index + (n - h.count) + 0 = h.index by omega, Nat.mod_eq_of_lt hi]

theorem newest_ne_oldest (ha : h.Aligned) (hv : h.values.Pairwise (· ≠ ·)) (hc : 1 < h.count) :
    h.newest empty ≠ h.oldest empty := by
  have hl : h.values.length = h.count := values_length
  rw [newest_eq ha, oldest_eq ha]
  cases hs : h.values <;> rw [hs] at hv hl
  case nil      => exact absurd hl (Nat.zero_lt_of_lt hc).ne
  case cons a l =>
    have hn : l ≠ [] := by
      rintro rfl
      exact hc.ne hl
    have hne : a ≠ l.getLast hn := (List.pairwise_cons.mp hv).left _ (List.getLast_mem hn)
    have he : (a :: l).getLastD empty = l.getLast hn := by
      rw [List.getLastD_eq_getLast?, List.getLast?_eq_some_getLast (List.cons_ne_nil a l),
        Option.getD_some, List.getLast_cons hn]
    rw [he]
    exact hne.symm

end History

end Touchpad
