import VoodooPS2.RingBuffer.Fifo

namespace RingBuffer

variable {T : Type*} {N : Nat}

-- The buffer is divided into slots of size `s`, and `n` of them are pending, whatever is in them.
def Slotted (r : RingBuffer T N) (s n : Nat) : Prop :=
  ∃ q, r.Holds s q ∧ q.length = n

namespace Slotted

variable {r r' : RingBuffer T N} {s n : Nat}

theorem reset (hs : 0 < s) (hd : s ∣ N) (hN : 0 < N) : r.reset.Slotted s 0 :=
  ⟨[], .reset hs hd hN, rfl⟩

theorem count (h : r.Slotted s n) : r.count = s * n := by
  obtain ⟨q, h, rfl⟩ := h
  exact h.count

theorem count_div (h : r.Slotted s n) : r.count / s = n := by
  have hc := h.count
  obtain ⟨q, h, rfl⟩ := h
  rw [hc, Nat.mul_div_cancel_left _ h.pos]

theorem size_le_count_iff (h : r.Slotted s n) : s ≤ r.count ↔ n ≠ 0 := by
  obtain ⟨q, h, rfl⟩ := h
  rw [h.size_le_count_iff, Ne, Ne, List.length_eq_zero_iff]

-- Writes to the cells, even to those that are pending, do not touch the division.
theorem of_ends (h : r.Slotted s n) (hh : r'.head = r.head) (ht : r'.tail = r.tail) : r'.Slotted s n := by
  obtain ⟨q, h, rfl⟩ := h
  refine ⟨(List.range q.length).map fun i => r'.cells ((r'.tail + s * i) % N) s, ?_, by simp⟩
  exact {
    pos      := h.pos
    dvd      := h.dvd
    head_dvd := hh ▸ h.head_dvd
    tail_dvd := ht ▸ h.tail_dvd
    head_lt  := hh ▸ h.head_lt
    tail_lt  := ht ▸ h.tail_lt
    count    := by simpa [RingBuffer.count, hh, ht] using h.count
    slots    := by simp
  }

theorem setHeadCell (h : r.Slotted s n) {k : Nat} {x : T} : (r.setHeadCell k x).Slotted s n :=
  h.of_ends rfl rfl

-- One more slot is pending, unless the buffer is full.
theorem advanceHead (h : r.Slotted s n) (hN : 2 * s ≤ N) :
    (r.advanceHead s).Slotted s (n + 1) ∨ n ≠ 0 ∧ (r.advanceHead s).Slotted s n := by
  obtain ⟨q, h, rfl⟩ := h
  by_cases hf : r.count + s < N
  case pos => exact .inl ⟨_, h.advanceHead hf, by simp⟩
  case neg =>
    have hq := h.length_pos_of_full hN (h.count_lt_iff.not.mp hf)
    exact .inr ⟨by omega, q, (h.advanceHead_full hf hq).symm ▸ h, rfl⟩

theorem advanceTail (h : r.Slotted s (n + 1)) : (r.advanceTail s).Slotted s n := by
  obtain ⟨q, h, hl⟩ := h
  cases q
  case nil      => simp at hl
  case cons p q => exact ⟨q, h.advanceTail, by simpa using hl⟩

end Slotted
end RingBuffer
