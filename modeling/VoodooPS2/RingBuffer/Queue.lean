import Mathlib.Data.Nat.ModEq
import Mathlib.Tactic.Ring
import VoodooPS2.RingBuffer.Basic

namespace RingBuffer

variable {T : Type*} {N : Nat}

-- The ring buffer `r`, used for packets of `s` cells, holds the queue `q` of packets: the oldest
-- one starts at the tail, the next free slot starts at the head.
structure Holds (r : RingBuffer T N) (s : Nat) (q : List (List T)) : Prop where
  pos      : 0 < s
  dvd      : s ∣ N
  head_dvd : s ∣ r.head
  tail_dvd : s ∣ r.tail
  head_lt  : r.head < N
  tail_lt  : r.tail < N
  count    : r.count = s * q.length
  slots    : ∀ i (h : i < q.length), r.cells ((r.tail + s * i) % N) s = q[i]

-- A cell that holds part of a packet that has not been read.
def Unread (r : RingBuffer T N) (a : Nat) : Prop :=
  ∃ j < r.count, a = (r.tail + j) % N

theorem countBetween_lt {head tail : Nat} (hh : head < N) : countBetween N head tail < N := by
  unfold countBetween
  split <;> omega

-- The head is found by going around from the tail past everything that is pending.
theorem head_eq_mod {r : RingBuffer T N} (hh : r.head < N) (ht : r.tail < N) :
    r.head = (r.tail + r.count) % N := by
  unfold count countBetween
  split
  case isTrue h =>
    rw [Nat.add_sub_cancel' h, Nat.mod_eq_of_lt hh]
  case isFalse h =>
    have : r.tail + (N - r.tail + r.head) = N + r.head := by omega
    rw [this, Nat.add_mod_left, Nat.mod_eq_of_lt hh]

theorem countBetween_mod {tail n : Nat} (ht : tail < N) (hn : n < N) :
    countBetween N ((tail + n) % N) tail = n := by
  unfold countBetween
  by_cases h : tail + n < N
  case pos =>
    rw [Nat.mod_eq_of_lt h]
    split <;> omega
  case neg =>
    have hm : (tail + n) % N = tail + n - N := by
      rw [Nat.mod_eq_sub_mod (by omega), Nat.mod_eq_of_lt (by omega)]
    rw [hm]
    split <;> omega

-- Both ends are moved by one conditional subtraction, which is a remainder as long as the move does
-- not go around more than once.
theorem wrap_eq_mod {a n : Nat} (ha : a < N) (hn : n ≤ N) :
    (if a + n ≥ N then a + n - N else a + n) = (a + n) % N := by
  split
  case isTrue h  => rw [Nat.mod_eq_sub_mod h, Nat.mod_eq_of_lt (by omega)]
  case isFalse h => rw [Nat.mod_eq_of_lt (by omega)]

-- Distinct distances from the tail are distinct cells.
theorem mod_injective {a i j : Nat} (hi : i < N) (hj : j < N) (h : (a + i) % N = (a + j) % N) :
    i = j :=
  Nat.ModEq.eq_of_lt_of_lt (Nat.ModEq.add_left_cancel' a h) hi hj

namespace Holds

variable {r : RingBuffer T N} {s : Nat} {q : List (List T)} {p : List T}

theorem count_lt (h : r.Holds s q) : r.count < N :=
  countBetween_lt h.head_lt

theorem size_le (h : r.Holds s q) : s ≤ N :=
  Nat.le_of_dvd (Nat.zero_lt_of_lt h.tail_lt) h.dvd

theorem head_eq (h : r.Holds s q) : r.head = (r.tail + s * q.length) % N :=
  h.count ▸ head_eq_mod h.head_lt h.tail_lt

-- A multiple of the packet size below `N` leaves room for a whole packet.
theorem room (h : r.Holds s q) {a : Nat} (hd : s ∣ a) (ha : a < N) : a + s ≤ N := by
  obtain ⟨n, rfl⟩ := h.dvd
  obtain ⟨k, rfl⟩ := hd
  have hk : k < n := Nat.lt_of_mul_lt_mul_left ha
  calc s * k + s = s * (k + 1) := by ring
    _ ≤ s * n := Nat.mul_le_mul_left s hk

theorem slot_dvd (h : r.Holds s q) (i : Nat) : s ∣ (r.tail + s * i) % N :=
  (Nat.dvd_mod_iff h.dvd).mpr <| Nat.dvd_add h.tail_dvd (Nat.dvd_mul_right s i)

theorem slot_lt (h : r.Holds s q) (i : Nat) : (r.tail + s * i) % N < N :=
  Nat.mod_lt _ (Nat.zero_lt_of_lt h.tail_lt)

-- The `k`-th cell of slot `i` is reached from the tail without wrapping inside the slot.
theorem slot_add (h : r.Holds s q) {i k : Nat} (hk : k < s) :
    (r.tail + s * i) % N + k = (r.tail + (s * i + k)) % N := by
  have hr := h.room (h.slot_dvd i) (h.slot_lt i)
  calc (r.tail + s * i) % N + k = ((r.tail + s * i) % N + k) % N :=
      (Nat.mod_eq_of_lt (by omega)).symm
    _ = (r.tail + (s * i + k)) % N := by rw [Nat.mod_add_mod, Nat.add_assoc]

theorem pending_lt (h : r.Holds s q) {i k : Nat} (hi : i < q.length) (hk : k < s) :
    s * i + k < r.count := by
  rw [h.count]
  calc s * i + k < s * i + s := by omega
    _ = s * (i + 1) := by ring
    _ ≤ s * q.length := Nat.mul_le_mul_left s hi

theorem head_room (h : r.Holds s q) : r.head + s ≤ N :=
  h.room h.head_dvd h.head_lt

theorem count_room (h : r.Holds s q) : r.count + s ≤ N :=
  h.room (h.count ▸ Nat.dvd_mul_right s _) h.count_lt

-- The cells of the head slot are free.
theorem head_not_unread (h : r.Holds s q) {k : Nat} (hk : k < s) : ¬r.Unread (r.head + k) := by
  rintro ⟨j, hj, he⟩
  have hr := h.count_room
  rw [h.head_eq, h.slot_add hk] at he
  have := mod_injective (by rw [← h.count]; omega) (by omega) he
  rw [h.count] at hj
  omega

theorem head_disjoint (h : r.Holds s q) {i j k : Nat} (hi : i < q.length) (hj : j < s)
    (hk : k < s) : (r.tail + s * i) % N + j ≠ r.head + k := by
  intro he
  refine h.head_not_unread hk ⟨s * i + j, h.pending_lt hi hj, ?_⟩
  rw [← he, h.slot_add hj]

theorem setHeadCell (h : r.Holds s q) {k : Nat} (hk : k < s) (x : T) :
    (r.setHeadCell k x).Holds s q where
  pos      := h.pos
  dvd      := h.dvd
  head_dvd := h.head_dvd
  tail_dvd := h.tail_dvd
  head_lt  := h.head_lt
  tail_lt  := h.tail_lt
  count    := h.count
  slots i hi := by
    rw [cells_setHeadCell_of_disjoint]
    · exact h.slots i hi
    · intro j hj
      exact h.head_disjoint hi hj hk

theorem setHeadCells (h : r.Holds s q) {k : Nat} {xs : List T} (hk : k + xs.length ≤ s) :
    (r.setHeadCells k xs).Holds s q := by
  induction xs generalizing r k
  case nil          => exact h
  case cons x xs hi =>
    have hk : k + 1 + xs.length ≤ s := by simpa [Nat.add_assoc, Nat.add_comm 1] using hk
    exact hi (h.setHeadCell (by omega) x) hk

theorem reset (pos : 0 < s) (dvd : s ∣ N) (hN : 0 < N) : r.reset.Holds s [] where
  pos      := pos
  dvd      := dvd
  head_dvd := Nat.dvd_zero s
  tail_dvd := Nat.dvd_zero s
  head_lt  := hN
  tail_lt  := hN
  count    := by simp [RingBuffer.count, countBetween, RingBuffer.reset]
  slots    := by simp

theorem newHead_eq (h : r.Holds s q) :
    (if r.head + s ≥ N then r.head + s - N else r.head + s) = (r.tail + (r.count + s)) % N := by
  rw [wrap_eq_mod h.head_lt h.size_le]
  conv_lhs => rw [head_eq_mod h.head_lt h.tail_lt]
  rw [Nat.mod_add_mod, Nat.add_assoc]

theorem advanceHead_eq (h : r.Holds s q) (hf : r.count + s < N) :
    r.advanceHead s = { r with head := (r.tail + (r.count + s)) % N } := by
  have hc := countBetween_mod h.tail_lt hf
  simp only [RingBuffer.advanceHead, h.newHead_eq, hc]
  exact if_pos (Nat.le_add_right _ _)

-- The slot at the head becomes the newest packet of the queue, unless the buffer is full.
theorem advanceHead (h : r.Holds s q) (hf : r.count + s < N) :
    (r.advanceHead s).Holds s (q ++ [r.cells r.head s]) := by
  rw [h.advanceHead_eq hf]
  have hd : s ∣ r.count := h.count ▸ Nat.dvd_mul_right s _
  exact {
    pos      := h.pos
    dvd      := h.dvd
    head_dvd := (Nat.dvd_mod_iff h.dvd).mpr <|
      Nat.dvd_add h.tail_dvd <| Nat.dvd_add hd <| Nat.dvd_refl s
    tail_dvd := h.tail_dvd
    head_lt  := Nat.mod_lt _ (Nat.zero_lt_of_lt h.tail_lt)
    tail_lt  := h.tail_lt
    count    := by
      rw [RingBuffer.count, countBetween_mod h.tail_lt hf, h.count, List.length_append]
      simp [Nat.mul_add]
    slots i hi := by
      by_cases hq : i < q.length
      case pos =>
        rw [List.getElem_append_left hq]
        exact h.slots i hq
      case neg =>
        have hl : i = q.length := by simp at hi; omega
        subst hl
        simp [h.head_eq, cells]
  }

theorem advanceHead_full (h : r.Holds s q) (hf : ¬r.count + s < N) (hq : 0 < q.length) :
    r.advanceHead s = r := by
  have hc : r.count + s = N := by have := h.count_room; omega
  have hp : 0 < r.count := h.count ▸ Nat.mul_pos h.pos hq
  have ht : countBetween N r.tail r.tail = 0 := by simp [countBetween]
  simp only [RingBuffer.advanceHead, h.newHead_eq, hc, Nat.add_mod_right,
    Nat.mod_eq_of_lt h.tail_lt, ht]
  exact if_neg (by omega)

theorem tailPacket_eq (h : r.Holds s (p :: q)) : r.tailPacket s = p := by
  have := h.slots 0 (by simp)
  simpa [tailPacket, Nat.mod_eq_of_lt h.tail_lt] using this

theorem advanceTail_eq (h : r.Holds s q) :
    r.advanceTail s = { r with tail := (r.tail + s) % N } := by
  simp only [RingBuffer.advanceTail, wrap_eq_mod h.tail_lt h.size_le]

theorem advanceTail (h : r.Holds s (p :: q)) : (r.advanceTail s).Holds s q := by
  rw [h.advanceTail_eq]
  have hc : r.count = s + s * q.length := by rw [h.count]; simp [Nat.mul_add, Nat.add_comm]
  have hN : 0 < N := Nat.zero_lt_of_lt h.tail_lt
  have hlt := h.count_lt
  exact {
    pos      := h.pos
    dvd      := h.dvd
    head_dvd := h.head_dvd
    tail_dvd := (Nat.dvd_mod_iff h.dvd).mpr <| Nat.dvd_add h.tail_dvd <| Nat.dvd_refl s
    head_lt  := h.head_lt
    tail_lt  := Nat.mod_lt _ hN
    count    := by
      have hh : r.head = ((r.tail + s) % N + s * q.length) % N := by
        rw [head_eq_mod h.head_lt h.tail_lt, hc, Nat.mod_add_mod, Nat.add_assoc]
      simp only [RingBuffer.count]
      rw [hh]
      exact countBetween_mod (Nat.mod_lt _ hN) (by omega)
    slots i hi := by
      have := h.slots (i + 1) (by simpa using hi)
      rw [Nat.mul_add, Nat.mul_one, Nat.add_comm (s * i), ← Nat.add_assoc] at this
      simpa [Nat.mod_add_mod, cells] using this
  }

theorem count_eq_zero_iff (h : r.Holds s q) : r.count = 0 ↔ q = [] := by
  have := h.pos
  simp [h.count]
  omega

-- The test with which the consumers guard their loop.
theorem size_le_count_iff (h : r.Holds s q) : s ≤ r.count ↔ q ≠ [] := by
  cases q
  case nil      => simpa [h.count] using h.pos.ne'
  case cons _ q => simpa [h.count] using Nat.le_mul_of_pos_right s (Nat.succ_pos q.length)

end Holds
end RingBuffer
